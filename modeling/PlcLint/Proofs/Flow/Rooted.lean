import PlcLint.Proofs.Flow.Growth
import PlcLint.Proofs.Flow.Ways

/-!
Code in which every join is reached by a branch. In its graph every node except the start has a
predecessor.
-/

namespace PlcLint.Flow

/-- Behind the statement nothing of its block is reached. -/
def leavesBlock (stmt : Stmt) : Bool :=
  match stmt with
  | .exitStmt _ => true
  | .continueStmt _ => true
  | .returnStmt _ => true
  | _ => false

/-- The end of the block is reached, as far as its own statements tell. -/
def fallsThrough (block : Block) : Bool := block.stmts.all fun stmt => !leavesBlock stmt

mutual

/-- Each `IF` with an `ELSE` and each `CASE` has a branch whose end is reached, so that its join has
a predecessor. -/
def joinedStmt (stmt : Stmt) : Bool :=
  match stmt with
  | .action _ _ => true
  | .exitStmt _ => true
  | .continueStmt _ => true
  | .returnStmt _ => true
  | .jump _ _ => true
  | .foreign _ _ => true
  | .label _ _ _ => true
  | .ifThen _ _ body elseIfs otherwise =>
    let reached := fallsThrough body || elseIfs.any (fallsThrough ·.body) ||
      otherwise.all fallsThrough
    reached && joinedBlock body && joinedElseIfs elseIfs &&
      match otherwise with
      | some block => joinedBlock block
      | none => true
  | .select _ _ arms otherwise =>
    let reached := arms.any (fallsThrough ·.body) || otherwise.any fallsThrough
    reached && joinedArms arms &&
      match otherwise with
      | some block => joinedBlock block
      | none => true
  | .loop _ _ body => joinedBlock body

def joinedBlock (block : Block) : Bool :=
  match block with
  | .missing => true
  | .given stmts => joinedStmts stmts

def joinedElseIfs (elseIfs : List ElseIf) : Bool :=
  match elseIfs with
  | [] => true
  | .mk _ body :: rest => joinedBlock body && joinedElseIfs rest

def joinedArms (arms : List Arm) : Bool :=
  match arms with
  | [] => true
  | .mk _ body :: rest => joinedBlock body && joinedArms rest

/-- What stands behind a statement that leaves the block does not matter. -/
def joinedStmts (stmts : List Stmt) : Bool :=
  match stmts with
  | [] => true
  | stmt :: rest => joinedStmt stmt && (leavesBlock stmt || joinedStmts rest)

end

section

variable {graph middle edited grown : Graph} {targets : LoopTargets} {here final number : Nat}
  {falls more : Bool}

theorem Edit.prev_subset (edit : Edit graph edited) (number : Nat) :
    graph.prev number ⊆ edited.prev number := by
  intro before edge
  cases edit with
  | add label owner => simpa using edge
  | append inside stmt => simpa using edge
  | link sourceInside targetInside notStart =>
      exact (Graph.mem_prev_link targetInside).mpr (.inl edge)

/-- A predecessor is never lost. -/
theorem Grows.prev_ne_nil (growth : Grows graph grown) (rooted : graph.prev number ≠ []) :
    grown.prev number ≠ [] := by
  induction growth with
  | refl => exact rooted
  | tail _ edit inductionHypothesis =>
      obtain ⟨before, edge⟩ := List.exists_mem_of_ne_nil _ inductionHypothesis
      exact List.ne_nil_of_mem (edit.prev_subset number edge)

/-- All new nodes have a predecessor. -/
def Roots (graph grown : Graph) : Prop :=
  ∀ number, graph.size ≤ number → number < grown.size → grown.prev number ≠ []

namespace Roots

theorem of_size_le (smaller : grown.size ≤ graph.size) : Roots graph grown := by
  intro number new inside
  omega

theorem trans (first : Roots graph middle) (growth : Grows middle grown)
    (last : Roots middle grown) : Roots graph grown := by
  intro number new inside
  by_cases old : number < middle.size
  · exact growth.prev_ne_nil (first number new old)
  · exact last number (Nat.le_of_not_lt old) inside

theorem follow (graph : Graph) (here : Nat) (label : String) (owner : Option Stmt) :
    Roots graph (graph.follow here label owner) := by
  intro number new inside
  rw [Graph.size_follow] at inside
  obtain rfl : number = graph.size := by omega
  exact List.ne_nil_of_mem ((Graph.mem_prev_link (by simp)).mpr (.inr ⟨rfl, rfl⟩))

end Roots

/-- All new nodes have a predecessor, and the join has one if the flag says so. -/
structure Rejoins (final : Nat) (falls : Bool) (graph grown : Graph) : Prop where
  roots : Roots graph grown
  joined : falls = true → grown.prev final ≠ []

namespace Rejoins

theorem none (final : Nat) (graph : Graph) : Rejoins final false graph graph :=
  ⟨.of_size_le (Nat.le_refl _), by simp⟩

theorem either (first : Rejoins final falls graph middle) (growth : Grows middle grown)
    (last : Rejoins final more middle grown) : Rejoins final (falls || more) graph grown := by
  refine ⟨first.roots.trans growth last.roots, ?_⟩
  intro reached
  rcases Bool.or_eq_true_iff.mp reached with early | late
  · exact growth.prev_ne_nil (first.joined early)
  · exact last.joined late

/-- A branch that starts at a new node behind `here`. -/
theorem side {label : String} {owner : Option Stmt}
    (growth : Grows (graph.follow here label owner) grown)
    (branch : Rejoins final falls (graph.follow here label owner) grown) :
    Rejoins final falls graph grown :=
  ⟨(Roots.follow graph here label owner).trans growth branch.roots, branch.joined⟩

/-- A branch without statements. -/
theorem link (inside : final < graph.size) : Rejoins final true graph (graph.link here final) :=
  ⟨.of_size_le (by simp), fun _ =>
    List.ne_nil_of_mem ((Graph.mem_prev_link inside).mpr (.inr ⟨rfl, rfl⟩))⟩

/-- Behind a join that some branch reaches. -/
theorem addJoin {label : Option String} {owner : Option Stmt} (isJoin : final = graph.size)
    (branches : Rejoins final true (graph.add { label := label, owner := owner }) grown) :
    Roots graph grown := by
  intro number new inside
  by_cases same : number = final
  · rw [same]
    exact branches.joined rfl
  · refine branches.roots number ?_ inside
    rw [Graph.size_add]
    omega

end Rejoins

/-- Exactly the statements that leave the block leave the end of the code unreached. -/
theorem addStmt_isSome {stmt : Stmt} {front : Front}
    (built : addStmt targets graph here stmt = .ok front) :
    front.2.isSome = !leavesBlock stmt := by
  cases stmt with
  | action origin deed =>
      rw [addStmt] at built
      rw [← Except.ok.inj built]
      rfl
  | exitStmt origin =>
      obtain ⟨_, _, rfl⟩ := addStmt_exit built
      rfl
  | continueStmt origin =>
      obtain ⟨_, _, rfl⟩ := addStmt_continue built
      rfl
  | returnStmt origin =>
      rw [addStmt] at built
      rw [← Except.ok.inj built]
      rfl
  | jump origin target => simp [addStmt] at built
  | foreign origin name => simp [addStmt] at built
  | label origin name inner =>
      rw [addStmt] at built
      rw [← Except.ok.inj built]
      rfl
  | ifThen origin condition body elseIfs otherwise =>
      obtain ⟨_, _, _, _, _, _, _, _, _, rfl⟩ := addStmt_ifThen built
      rfl
  | select origin subject arms otherwise =>
      obtain ⟨_, _, _, _, _, _, rfl⟩ := addStmt_select built
      rfl
  | loop origin head body =>
      obtain ⟨_, _, _, _, rfl⟩ := addStmt_loop built
      rfl

theorem addStmts_isSome {stmts : List Stmt} {front : Front}
    (built : addStmts targets graph (some here) stmts = .ok front) :
    front.2.isSome = stmts.all fun stmt => !leavesBlock stmt := by
  induction stmts generalizing graph here with
  | nil =>
      cases built
      rfl
  | cons stmt rest inductionHypothesis =>
      obtain ⟨middle, reached, builtStmt, builtRest⟩ := addStmts_cons built
      rw [List.all_cons, ← addStmt_isSome builtStmt]
      cases reached with
      | none =>
          obtain rfl := addStmts_none builtRest
          rfl
      | some number => simpa using inductionHypothesis builtRest

end

theorem joinedStmt_ifThen {origin : Origin} {condition : Expr} {body : Block}
    {elseIfs : List ElseIf} {otherwise : Option Block}
    (joined : joinedStmt (.ifThen origin condition body elseIfs otherwise) = true) :
    (fallsThrough body || elseIfs.any (fallsThrough ·.body) ||
        fallsThrough (otherwise.getD .missing)) = true ∧
      joinedBlock body = true ∧ joinedElseIfs elseIfs = true ∧
      joinedBlock (otherwise.getD .missing) = true := by
  cases otherwise with
  | none =>
      simp only [joinedStmt, Bool.and_eq_true] at joined
      exact ⟨joined.1.1.1, joined.1.1.2, joined.1.2, rfl⟩
  | some block =>
      simp only [joinedStmt, Bool.and_eq_true] at joined
      exact ⟨joined.1.1.1, joined.1.1.2, joined.1.2, joined.2⟩

/-! By induction on the syntax, each part of the construction gives all its nodes a predecessor. -/

mutual

theorem addStmt_roots {targets : LoopTargets} {graph : Graph} {here : Nat} (stmt : Stmt)
    {front : Front} (inside : targets.Inside graph) (hereInside : here < graph.size)
    (joined : joinedStmt stmt = true) (built : addStmt targets graph here stmt = .ok front) :
    Roots graph front.1 := by
  cases stmt with
  | action origin deed =>
      rw [addStmt] at built
      rw [← Except.ok.inj built]
      exact .of_size_le (by simp)
  | exitStmt origin =>
      obtain ⟨target, _, rfl⟩ := addStmt_exit built
      exact .of_size_le (by simp)
  | continueStmt origin =>
      obtain ⟨target, _, rfl⟩ := addStmt_continue built
      exact .of_size_le (by simp)
  | returnStmt origin =>
      rw [addStmt] at built
      rw [← Except.ok.inj built]
      exact .of_size_le (by simp)
  | jump origin target => simp [addStmt] at built
  | foreign origin name => simp [addStmt] at built
  | label origin name inner =>
      rw [addStmt] at built
      rw [← Except.ok.inj built]
      have followed := Roots.follow graph here name (some (.label origin name inner))
      cases inner with
      | none => exact followed
      | some inner =>
          exact followed.trans (.single (.append (by simp) inner)) (.of_size_le (by simp))
  | ifThen origin condition body elseIfs otherwise =>
      obtain ⟨_, afterThen, afterElseIfs, afterElse, label, rfl, builtThen, builtElseIfs,
        builtElse, rfl⟩ := addStmt_ifThen built
      obtain ⟨reached, bodyJoined, elseIfsJoined, elseJoined⟩ := joinedStmt_ifThen joined
      have placed := Placed.addJoin inside hereInside "if_end"
      have thenGrows := addBranch_grows body (placed.follow _ _) builtThen
      have thenJoins := (addBranch_rejoins body (placed.follow _ _) bodyJoined builtThen).side
        thenGrows
      have pastThen := placed.grow (placed.follow_grows thenGrows)
      have elseIfsGrow := addElseIfs_grows elseIfs pastThen builtElseIfs
      have elseIfsJoin := addElseIfs_rejoins elseIfs pastThen elseIfsJoined builtElseIfs
      have pastElseIfs := (pastThen.grow elseIfsGrow).follow label none
      have elseGrows := addBranch_grows _ pastElseIfs builtElse
      have elseJoins : Rejoins graph.size (fallsThrough (otherwise.getD .missing))
          (afterElseIfs.follow here label) afterElse := by
        cases otherwise with
        | none =>
            obtain rfl := addBranch_missing builtElse
            exact .link pastElseIfs.finalInside
        | some block => exact addBranch_rejoins block pastElseIfs elseJoined builtElse
      have joins := (thenJoins.either elseIfsGrow elseIfsJoin).either
        ((pastThen.grow elseIfsGrow).follow_grows elseGrows) (elseJoins.side elseGrows)
      rw [reached] at joins
      exact joins.addJoin rfl
  | select origin subject arms otherwise =>
      obtain ⟨headed, afterArms, afterElse, isHeaded, builtArms, builtElse, rfl⟩ :=
        addStmt_select built
      have headedGrows : Grows graph headed := isHeaded ▸ .follow hereInside _ _
      have headedRoots : Roots graph headed := isHeaded ▸ .follow graph here _ _
      have headInside : graph.size < headed.size := by simp [isHeaded]
      have placed := Placed.addJoin (inside.grow headedGrows) headInside "case_end"
      have opened : Grows headed (headed.add { label := some "case_end" }) := .single (.add _ _)
      have armsGrow := addArms_grows arms placed builtArms
      have pastArms := placed.grow armsGrow
      cases otherwise with
      | none =>
          obtain rfl := builtElse
          simp only [joinedStmt, Option.any_none, Bool.or_false, Bool.and_true,
            Bool.and_eq_true] at joined
          have armsJoin := addArms_rejoins arms placed joined.2 builtArms
          rw [joined.1] at armsJoin
          exact headedRoots.trans (opened.trans armsGrow) (armsJoin.addJoin rfl)
      | some block =>
          simp only [joinedStmt, Option.any_some, Bool.and_eq_true] at joined
          have armsJoin := addArms_rejoins arms placed joined.1.2 builtArms
          have elseGrows := addBranch_grows block (pastArms.follow "else" none) builtElse
          have elseJoins := addBranch_rejoins block (pastArms.follow "else" none) joined.2 builtElse
          have lastGrows := pastArms.follow_grows elseGrows
          have joins := armsJoin.either lastGrows (elseJoins.side elseGrows)
          rw [joined.1.1] at joins
          exact headedRoots.trans (opened.trans (armsGrow.trans lastGrows)) (joins.addJoin rfl)
  | loop origin head body =>
      obtain ⟨headed, afterBody, isHeaded, builtBody, rfl⟩ := addStmt_loop built
      rw [joinedStmt] at joined
      have headedRoots : Roots graph headed := isHeaded ▸ .follow graph here _ _
      have headedGrows : Grows graph headed := isHeaded ▸ .follow hereInside _ _
      have headInside : graph.size < headed.size := by simp [isHeaded]
      have opened := Grows.loopFrame headInside "loop_start" "loop_end"
      have placed := Placed.loopBody headInside "loop_start" "loop_end"
      have bodyGrows := addBranch_grows body placed builtBody
      have bodyJoins := addBranch_rejoins body placed joined builtBody
      -- The branch that leaves the body out reaches the join whatever the body does.
      have pastBody := Placed.pastLoop (inside.grow headedGrows) headInside bodyGrows
      have skipGrows := (pastBody.follow "_else" none).link_grows
      have joins := bodyJoins.either (pastBody.follow_grows skipGrows)
        ((Rejoins.link (pastBody.follow "_else" none).finalInside).side skipGrows)
      rw [Bool.or_true] at joins
      have loopGrows := bodyGrows.trans (pastBody.follow_grows skipGrows)
      have startRoots := (Roots.follow headed graph.size "loop_start" none).trans
        (.head (.add (some "loop_end") none) loopGrows) (joins.addJoin (by simp))
      exact headedRoots.trans (opened.trans loopGrows) startRoots
termination_by structural stmt

theorem addBranch_rejoins {targets : LoopTargets} {graph grown : Graph} {here final : Nat}
    (block : Block) (placed : Placed targets graph here final) (joined : joinedBlock block = true)
    (built : addBranch targets graph here final block = .ok grown) :
    Rejoins final (fallsThrough block) graph grown := by
  cases block with
  | missing =>
      obtain rfl := addBranch_missing built
      exact .link placed.finalInside
  | given stmts =>
      obtain ⟨middle, reached, builtStmts, rfl⟩ := addBranch_given built
      rw [joinedBlock] at joined
      have roots := addStmts_roots stmts placed.inside placed.hereInside joined builtStmts
      obtain ⟨growth, reachedInside⟩ := addStmts_grows stmts placed.inside placed.hereInside
        builtStmts
      have falls : reached.isSome = fallsThrough (.given stmts) := addStmts_isSome builtStmts
      rw [← falls]
      cases reached with
      | none => exact ⟨roots, by simp⟩
      | some number =>
          have linked : Rejoins final true middle (middle.link number final) :=
            .link (placed.grow growth).finalInside
          exact ⟨roots.trans (.single (.link (reachedInside number rfl)
            (placed.grow growth).finalInside placed.notStart)) linked.roots, linked.joined⟩
termination_by structural block

theorem addElseIfs_rejoins {targets : LoopTargets} {graph grown : Graph} {here final : Nat}
    (elseIfs : List ElseIf) (placed : Placed targets graph here final)
    (joined : joinedElseIfs elseIfs = true)
    (built : addElseIfs targets graph here final elseIfs = .ok grown) :
    Rejoins final (elseIfs.any (fallsThrough ·.body)) graph grown := by
  cases elseIfs with
  | nil =>
      cases built
      exact .none final graph
  | cons elseIf rest =>
      obtain ⟨condition, body⟩ := elseIf
      rw [addElseIfs] at built
      obtain ⟨middle, builtBody, builtRest⟩ := bind_eq_ok built
      rw [joinedElseIfs, Bool.and_eq_true] at joined
      have bodyGrows := addBranch_grows body (placed.follow _ none) builtBody
      have bodyJoins := (addBranch_rejoins body (placed.follow _ none) joined.1 builtBody).side
        bodyGrows
      have pastBody := placed.grow (placed.follow_grows bodyGrows)
      exact bodyJoins.either (addElseIfs_grows rest pastBody builtRest)
        (addElseIfs_rejoins rest pastBody joined.2 builtRest)
termination_by structural elseIfs

theorem addArms_rejoins {targets : LoopTargets} {graph grown : Graph} {owner : Stmt}
    {head final : Nat} (arms : List Arm) (placed : Placed targets graph head final)
    (joined : joinedArms arms = true)
    (built : addArms targets graph owner head final arms = .ok grown) :
    Rejoins final (arms.any (fallsThrough ·.body)) graph grown := by
  cases arms with
  | nil =>
      cases built
      exact .none final graph
  | cons arm rest =>
      obtain ⟨values, body⟩ := arm
      rw [addArms] at built
      obtain ⟨middle, builtBody, builtRest⟩ := bind_eq_ok built
      rw [joinedArms, Bool.and_eq_true] at joined
      have bodyGrows := addBranch_grows body (placed.follow _ (some owner)) builtBody
      have bodyJoins := (addBranch_rejoins body (placed.follow _ (some owner)) joined.1
        builtBody).side bodyGrows
      have pastBody := placed.grow (placed.follow_grows bodyGrows)
      exact bodyJoins.either (addArms_grows rest pastBody builtRest)
        (addArms_rejoins rest pastBody joined.2 builtRest)
termination_by structural arms

theorem addStmts_roots {targets : LoopTargets} {graph : Graph} {here : Nat} (stmts : List Stmt)
    {front : Front} (inside : targets.Inside graph) (hereInside : here < graph.size)
    (joined : joinedStmts stmts = true)
    (built : addStmts targets graph (some here) stmts = .ok front) : Roots graph front.1 := by
  cases stmts with
  | nil =>
      cases built
      exact .of_size_le (Nat.le_refl _)
  | cons stmt rest =>
      obtain ⟨middle, reached, builtStmt, builtRest⟩ := addStmts_cons built
      rw [joinedStmts, Bool.and_eq_true] at joined
      have roots := addStmt_roots stmt inside hereInside joined.1 builtStmt
      obtain ⟨growth, reachedInside⟩ := addStmt_grows stmt inside hereInside builtStmt
      have stays := addStmt_isSome builtStmt
      cases reached with
      | none =>
          obtain rfl := addStmts_none builtRest
          exact roots
      | some number =>
          have restJoined : joinedStmts rest = true := by
            rw [Option.isSome_some, eq_comm, Bool.not_eq_true'] at stays
            simpa [stays] using joined.2
          have onward := inside.grow growth
          have restGrows := (addStmts_grows rest onward (reachedInside number rfl) builtRest).1
          exact roots.trans restGrows
            (addStmts_roots rest onward (reachedInside number rfl) restJoined builtRest)
termination_by structural stmts

end

/-- If every join is reached, only the start has no predecessor. -/
theorem Source.prev_ne_nil {source : Source} {graph : Graph} (built : source.graph = .ok graph)
    (joined : joinedStmts source.stmts = true) {number : Nat} (notStart : 0 < number)
    (inside : number < graph.size) : graph.prev number ≠ [] := by
  obtain ⟨reached, builtStmts⟩ := Source.graph_eq_ok built
  have roots := addStmts_roots source.stmts (by simp [LoopTargets.Inside])
    source.linked_seed.nonempty joined builtStmts
  exact roots number notStart inside

end PlcLint.Flow
