import PlcLint.Proofs.Flow.Joining

/-!
The search for a failing path and the recursion on the syntax give the same verdict. By induction
on the syntax, each part of the construction adds exactly the ways out that `Ways` gives it; from
the empty graph on, a path without satisfying statement stops somewhere if and only if one of the
two ways out of the code is open.
-/

namespace PlcLint.Flow

variable {pred : Stmt → Bool} {targets : LoopTargets} {graph middle grown : Graph}
  {here final : Nat} {ways : Ways}

/-- Branches can be added behind `here` that join at `final`. -/
structure Branching (pred : Stmt → Bool) (targets : LoopTargets) (graph : Graph)
    (here final : Nat) : Prop extends Ready pred targets graph here where
  finalInside : final < graph.size
  finalOther : final ≠ here
  finalOpen : graph.next final = []
  notStart : 0 < final

namespace Ready

theorem follow (ready : Ready pred targets graph here) (label : String) (owner : Option Stmt) :
    Ready pred targets (graph.follow here label owner) graph.size :=
  ready.extend (.follow ready.hereInside label owner) (.follow ready.hereInside label owner)
    (by simp) (.inr (Nat.le_refl _))
    fun passed => ((passes_follow pred ready.linked ready.hereInside label owner).mp passed).1

/-- Behind the node of a compound statement, that statement was not satisfying. -/
theorem owner_missed {owner : Stmt} {ownerLabel : String} (ready : Ready pred targets graph here)
    (label : String)
    (passed : Passes pred ((graph.follow here ownerLabel (some owner)).add { label := some label })
      graph.size) : pred owner = false := by
  rw [passes_add pred (by simp), passes_follow pred ready.linked ready.hereInside] at passed
  simpa using passed.2

/-- A new node at which branches behind `here` can join. -/
theorem addJoin (ready : Ready pred targets graph here) (label : String) :
    Branching pred targets (graph.add { label := some label }) here graph.size := by
  have inside := ready.hereInside
  have kept := ready.extend (Extends.add pred graph (some label) here)
    (.single (.add (some label) none)) (by rw [Graph.size_add]; omega) (.inl rfl)
    (passes_add pred inside (some label) none).mp
  refine ⟨kept, by simp, by omega, ?_, by omega⟩
  rw [Graph.next_add, Graph.next_of_size_le (Nat.le_refl _)]

/-- The body of a loop can be added to its frame. -/
theorem loopFrame (ready : Ready pred targets graph here) (startLabel finalLabel : String) :
    Branching pred ⟨some (graph.size + 1), some graph.size⟩
      (loopFrame graph here startLabel finalLabel) graph.size (graph.size + 1) := by
  have placed := Placed.loopBody ready.hereInside startLabel finalLabel
  have growth := Grows.loopFrame ready.hereInside startLabel finalLabel
  have joinOpen : (Flow.loopFrame graph here startLabel finalLabel).next (graph.size + 1) = [] := by
    rw [Graph.next_add, Graph.next_of_size_le (by simp)]
  refine ⟨⟨growth.linked ready.linked, placed.inside, placed.hereInside, ?_, ?_⟩,
    placed.finalInside, by omega, joinOpen, placed.notStart⟩
  · intro target exit
    obtain rfl := Option.some.inj exit
    exact ⟨by omega, joinOpen⟩
  · intro target again passed
    obtain rfl := Option.some.inj again
    exact passed.1

end Ready

namespace Branching

theorem follow (branching : Branching pred targets graph here final) (label : String)
    (owner : Option Stmt) :
    Branching pred targets (graph.follow here label owner) graph.size final := by
  have inside := branching.finalInside
  refine ⟨branching.toReady.follow label owner, by rw [Graph.size_follow]; omega, by omega, ?_,
    branching.notStart⟩
  rw [Graph.next_follow_of_ne branching.finalOther, branching.finalOpen]

/-- After some branches more can be added. -/
theorem afterSides (branching : Branching pred targets graph here final)
    (sides : Sides pred targets here final ways graph grown) (growth : Grows graph grown) :
    Branching pred targets grown here final := by
  have larger := growth.size_le
  have inside := branching.finalInside
  have hereInside := branching.hereInside
  refine ⟨branching.toReady.extend sides.extension growth (by omega) (.inl rfl)
    (sides.passes_here hereInside).mp, by omega, branching.finalOther, ?_, branching.notStart⟩
  rw [sides.extension.next final inside branching.finalOther, branching.finalOpen]

theorem placed (branching : Branching pred targets graph here final) :
    Placed targets graph here final :=
  ⟨branching.inside, branching.hereInside, branching.finalInside, branching.notStart⟩

theorem side_grows {label : String} {owner : Option Stmt} {block : Block}
    (branching : Branching pred targets graph here final)
    (built : addBranch targets (graph.follow here label owner) graph.size final block =
      .ok grown) : Grows graph grown :=
  branching.placed.follow_grows (addBranch_grows block (branching.placed.follow label owner) built)

/-- A branch without statements. -/
theorem empty_joins (branching : Branching pred targets graph here final)
    (hereOpen : graph.next here = []) :
    Joins pred targets here final .passing graph (graph.link here final) := by
  refine (Adds.nil branching.linked hereOpen).join branching.toReady branching.finalInside
    branching.finalOther branching.finalOpen ?_ ?_
  · exact branching.placed.link_grows
  · rintro number ⟨⟩
    exact branching.hereInside

end Branching

/-- Past the body of a loop, the branch that leaves it out can be added. -/
theorem Joins.loopBypass {startLabel finalLabel : String} (ready : Ready pred targets graph here)
    (growth : Grows graph middle)
    (body : Joins pred ⟨some (graph.size + 1), some graph.size⟩ graph.size (graph.size + 1) ways
      (loopFrame graph here startLabel finalLabel) middle) :
    Branching pred targets middle here (graph.size + 1) := by
  have inside := ready.hereInside
  have larger : graph.size + 2 ≤ middle.size := by
    simpa only [size_loopFrame] using body.extension.size_le
  have frame := ready.loopFrame startLabel finalLabel
  refine ⟨ready.extend (body.loopBody ready) growth (by omega) (.inl rfl)
    (body.passes_loopHead ready).mp, by omega, by omega, ?_, by omega⟩
  rw [body.extension.next _ frame.finalInside frame.finalOther, frame.finalOpen]

/-! Each part of the construction adds the ways out that its syntax has, by induction on it. -/

mutual

theorem addStmt_adds {targets : LoopTargets} {graph : Graph} {here : Nat} (stmt : Stmt)
    {front : Front} (ready : Ready pred targets graph here) (hereOpen : graph.next here = [])
    (built : addStmt targets graph here stmt = .ok front) :
    Adds pred targets here (stmtWays pred stmt) graph front := by
  have inside := ready.hereInside
  cases stmt with
  | action origin deed =>
      simp only [addStmt, Except.ok.injEq] at built
      subst built
      exact .action ready hereOpen _
  | exitStmt origin =>
      obtain ⟨target, exit, rfl⟩ := addStmt_exit built
      obtain ⟨positive, bounded⟩ := ready.inside target (.inl exit)
      refine .leaving ready hereOpen _ bounded positive ?_
      refine (Extends.link pred (by simpa using inside) ?_).weaken ?_
      · simpa using (ready.exitOpen target exit).2
      · rintro number _ rfl
        exact exit
  | continueStmt origin =>
      obtain ⟨target, again, rfl⟩ := addStmt_continue built
      obtain ⟨positive, bounded⟩ := ready.inside target (.inr again)
      refine .leaving ready hereOpen _ bounded positive ?_
      refine .linkBack (by simpa using inside) fun passed => ?_
      have before := ((passes_append pred inside hereOpen _).mp passed).1
      exact (enters_append hereOpen _).mpr (ready.continueEntered target again before)
  | returnStmt origin =>
      simp only [addStmt, Except.ok.injEq] at built
      subst built
      exact .returning ready hereOpen _
  | jump origin target => simp [addStmt] at built
  | foreign origin name => simp [addStmt] at built
  | label origin name inner =>
      simp only [addStmt, Except.ok.injEq] at built
      subst built
      have behind := ready.follow name (some (.label origin name inner))
      have behindOpen := Graph.next_follow_size inside name (some (.label origin name inner))
      cases inner with
      | none =>
          simpa [stmtWays] using Adds.headed ready (.nil behind.linked behindOpen)
      | some inner =>
          have added := Adds.headed ready (.action behind behindOpen inner)
          simpa [stmtWays, Ways.onlyIf_onlyIf] using added
  | ifThen origin condition body elseIfs otherwise =>
      obtain ⟨_, afterThen, afterElseIfs, afterElse, label, rfl, builtThen, builtElseIfs,
        builtElse, rfl⟩ := addStmt_ifThen built
      have branching := ready.addJoin "if_end"
      obtain ⟨thenSide, edge⟩ := (addBranch_joins body (branching.follow _ _)
        (Graph.next_follow_size branching.hereInside _ _) builtThen).side branching.toReady
      have pastThen := branching.afterSides thenSide (branching.side_grows builtThen)
      have elseIfsSides := addElseIfs_sides elseIfs pastThen builtElseIfs
      have pastElseIfs := pastThen.afterSides elseIfsSides
        (addElseIfs_grows elseIfs pastThen.placed builtElseIfs)
      have elseSide : Sides pred targets here graph.size
          (blockWays pred (otherwise.getD .missing)) afterElseIfs afterElse := by
        cases otherwise with
        | none =>
            obtain rfl := addBranch_missing builtElse
            rw [Option.getD_none, blockWays]
            exact ((pastElseIfs.follow label none).empty_joins
              (Graph.next_follow_size pastElseIfs.hereInside _ _)).plainSide pastElseIfs.toReady
        | some block =>
            exact (addBranch_joins block (pastElseIfs.follow label none)
              (Graph.next_follow_size pastElseIfs.hereInside _ _) builtElse).plainSide
                pastElseIfs.toReady
      have sides := (thenSide.either pastThen.linked branching.toReady branching.finalInside
        elseIfsSides).either pastElseIfs.linked branching.toReady branching.finalInside elseSide
      have branched : afterElse.next here ≠ [] :=
        List.ne_nil_of_mem (elseSide.hereNext (elseIfsSides.hereNext edge))
      rw [stmtWays_ifThen]
      exact .branching ready "if_end" sides branched
  | select origin subject arms otherwise =>
      obtain ⟨headed, afterArms, afterElse, isHeaded, builtArms, builtElse, rfl⟩ :=
        addStmt_select built
      subst isHeaded
      have headReady := ready.follow ("CASE " ++ subject.text)
        (some (.select origin subject arms otherwise))
      have headOpen := Graph.next_follow_size inside ("CASE " ++ subject.text)
        (some (.select origin subject arms otherwise))
      have branching := headReady.addJoin "case_end"
      obtain ⟨armsSides, branched⟩ := addArms_sides arms branching
        (ready.owner_missed "case_end") builtArms
      cases otherwise with
      | none =>
          obtain rfl := builtElse
          rw [stmtWays]
          by_cases empty : arms = []
          · -- Nothing leads to the join, so the paths end at the head.
            subst empty
            cases builtArms
            exact .headed ready (.armless headReady headOpen "case_end")
          · rw [if_neg (by simpa using empty)]
            exact .headed ready (.branching headReady "case_end" armsSides (branched empty))
      | some block =>
          have pastArms := branching.afterSides armsSides
            (addArms_grows arms branching.placed builtArms)
          obtain ⟨elseSide, edge⟩ := (addBranch_joins block (pastArms.follow "else" none)
            (Graph.next_follow_size pastArms.hereInside _ _) builtElse).side pastArms.toReady
          simp only [Option.any_none, Bool.not_false, Ways.onlyIf_true] at elseSide
          have sides := armsSides.either pastArms.linked branching.toReady branching.finalInside
            elseSide
          rw [stmtWays]
          exact .headed ready (.branching headReady "case_end" sides (List.ne_nil_of_mem edge))
  | loop origin head body =>
      obtain ⟨headed, afterBody, isHeaded, builtBody, rfl⟩ := addStmt_loop built
      subst isHeaded
      have headReady := ready.follow "loop" (some (.loop origin head body))
      have frame := headReady.loopFrame "loop_start" "loop_end"
      have opened := Grows.loopFrame headReady.hereInside "loop_start" "loop_end"
      have joins := addBranch_joins body frame (next_loopFrame headReady.hereInside) builtBody
      have bypass := joins.loopBypass headReady
        (opened.trans (addBranch_grows body frame.placed builtBody))
      have bypassSide := ((bypass.follow "_else" none).empty_joins
        (Graph.next_follow_size bypass.hereInside _ _)).plainSide bypass.toReady
      rw [stmtWays]
      exact .headed ready (.looping headReady bypass.linked joins bypassSide)
termination_by structural stmt

theorem addBranch_joins {targets : LoopTargets} {graph grown : Graph} {here final : Nat}
    (block : Block) (branching : Branching pred targets graph here final)
    (hereOpen : graph.next here = [])
    (built : addBranch targets graph here final block = .ok grown) :
    Joins pred targets here final (blockWays pred block) graph grown := by
  cases block with
  | missing =>
      obtain rfl := addBranch_missing built
      exact branching.empty_joins hereOpen
  | given stmts =>
      have growth := addBranch_grows (.given stmts) branching.placed built
      obtain ⟨middle, reached, builtStmts, rfl⟩ := addBranch_given built
      have reachedInside := (addStmts_grows stmts branching.inside branching.hereInside
        builtStmts).2
      exact (addStmts_adds stmts branching.toReady hereOpen builtStmts).join branching.toReady
        branching.finalInside branching.finalOther branching.finalOpen growth reachedInside
termination_by structural block

theorem addElseIfs_sides {targets : LoopTargets} {graph grown : Graph} {here final : Nat}
    (elseIfs : List ElseIf) (branching : Branching pred targets graph here final)
    (built : addElseIfs targets graph here final elseIfs = .ok grown) :
    Sides pred targets here final (elseIfsWays pred elseIfs) graph grown := by
  cases elseIfs with
  | nil =>
      cases built
      exact .none branching.linked
  | cons elseIf rest =>
      obtain ⟨condition, body⟩ := elseIf
      rw [addElseIfs] at built
      obtain ⟨middle, builtBody, builtRest⟩ := bind_eq_ok built
      have side := (addBranch_joins body (branching.follow _ none)
        (Graph.next_follow_size branching.hereInside _ _) builtBody).plainSide branching.toReady
      have onward := branching.afterSides side (branching.side_grows builtBody)
      exact side.either onward.linked branching.toReady branching.finalInside
        (addElseIfs_sides rest onward builtRest)
termination_by structural elseIfs

theorem addArms_sides {targets : LoopTargets} {graph grown : Graph} {owner : Stmt}
    {head final : Nat} (arms : List Arm) (branching : Branching pred targets graph head final)
    (allowed : Passes pred graph head → pred owner = false)
    (built : addArms targets graph owner head final arms = .ok grown) :
    Sides pred targets head final (armsWays pred arms) graph grown ∧
      (arms ≠ [] → grown.next head ≠ []) := by
  cases arms with
  | nil =>
      cases built
      exact ⟨.none branching.linked, fun nonempty => absurd rfl nonempty⟩
  | cons arm rest =>
      obtain ⟨values, body⟩ := arm
      rw [addArms] at built
      obtain ⟨middle, builtBody, builtRest⟩ := bind_eq_ok built
      obtain ⟨ownedSide, edge⟩ := (addBranch_joins body (branching.follow _ (some owner))
        (Graph.next_follow_size branching.hereInside _ _) builtBody).side branching.toReady
      have side := ownedSide.of_onlyIf fun passed => by simp [allowed passed]
      have onward := branching.afterSides side (branching.side_grows builtBody)
      obtain ⟨restSides, _⟩ := addArms_sides rest onward
        (fun passed => allowed ((side.passes_here branching.hereInside).mp passed)) builtRest
      refine ⟨side.either onward.linked branching.toReady branching.finalInside restSides, ?_⟩
      exact fun _ => List.ne_nil_of_mem (restSides.hereNext edge)
termination_by structural arms

theorem addStmts_adds {targets : LoopTargets} {graph : Graph} {here : Nat} (stmts : List Stmt)
    {front : Front} (ready : Ready pred targets graph here) (hereOpen : graph.next here = [])
    (built : addStmts targets graph (some here) stmts = .ok front) :
    Adds pred targets here (stmtsWays pred stmts) graph front := by
  cases stmts with
  | nil =>
      cases built
      exact .nil ready.linked hereOpen
  | cons stmt rest =>
      obtain ⟨middle, reached, builtStmt, builtRest⟩ := addStmts_cons built
      have added := addStmt_adds stmt ready hereOpen builtStmt
      obtain ⟨growth, reachedInside⟩ := addStmt_grows stmt ready.inside ready.hereInside builtStmt
      cases reached with
      | none =>
          obtain rfl := addStmts_none builtRest
          exact added.halt _
      | some number =>
          obtain ⟨numberNew, numberOpen, numberPassed⟩ := added.reached number rfl
          have onward := ready.extend added.extension growth (reachedInside number rfl) numberNew
            fun passed => (numberPassed.mp passed).1
          refine .andThen onward.linked ?_ added (addStmts_adds rest onward numberOpen builtRest)
          intro target exit
          exact ⟨ready.exit_lt exit, (ready.exitOpen target exit).1⟩
termination_by structural stmts

end

theorem Source.ready_seed (pred : Stmt → Bool) (source : Source) :
    Ready pred {} source.seed 0 :=
  ⟨source.linked_seed, by simp [LoopTargets.Inside], source.linked_seed.nonempty, by simp, by simp⟩

theorem Source.passes_seed (pred : Stmt → Bool) (source : Source) : Passes pred source.seed 0 :=
  ⟨.refl, by simp [Graph.meets]⟩

/-- A path without satisfying statement stops somewhere exactly if a way out is open. -/
theorem exists_stops_iff {source : Source} (built : source.graph = .ok graph) :
    (∃ number, Stops pred graph number) ↔ (stmtsWays pred source.stmts).isOpen = true := by
  obtain ⟨reached, builtStmts⟩ := Source.graph_eq_ok built
  have added := addStmts_adds source.stmts (source.ready_seed pred) (by simp) builtStmts
  have everywhere : ∀ number, number = 0 ∨ source.seed.size ≤ number := by
    intro number
    have : source.seed.size = 1 := rfl
    omega
  have ends : (∃ number, reached ≠ some number ∧ Stops pred graph number) ↔
      (stmtsWays pred source.stmts).ends = true := by
    simpa [everywhere, source.passes_seed pred] using added.stops
  have through : (∃ number, reached = some number ∧ Stops pred graph number) ↔
      (stmtsWays pred source.stmts).through = true := by
    cases reached with
    | none => simp [added.unreached rfl]
    | some number =>
        obtain ⟨_, final, passed⟩ := added.reached number rfl
        simpa [Stops, final, source.passes_seed pred] using passed
  rw [Ways.isOpen, Bool.or_eq_true, ← ends, ← through]
  constructor
  · rintro ⟨number, stopped⟩
    by_cases same : reached = some number
    · exact .inl ⟨number, same, stopped⟩
    · exact .inr ⟨number, same, stopped⟩
  · rintro (⟨number, _, stopped⟩ | ⟨number, _, stopped⟩)
    · exact ⟨number, stopped⟩
    · exact ⟨number, stopped⟩

/-- A path from the start to an end of the code on which no statement satisfies. -/
structure FailingPath (pred : Stmt → Bool) (graph : Graph) (path : List Nat) : Prop where
  start : path.head? = some 0
  chain : path.IsChain fun source target => target ∈ graph.next source
  final : ∃ last, path.getLast? = some last ∧ graph.next last = []
  missed : ∀ number ∈ path, ∀ stmt ∈ graph.stmtsAt number, pred stmt = false

theorem Trail.failingPath {number : Nat} {passed : List Nat}
    (trail : Trail (graph.meets pred) graph.next 0 number passed)
    (missed : graph.meets pred number = false) (final : graph.next number = []) :
    FailingPath pred graph (number :: passed).reverse := by
  constructor
  · rw [List.head?_reverse]
    exact trail.getLast?
  · rw [List.isChain_reverse]
    exact trail.isChain
  · exact ⟨number, by simp, final⟩
  · intro candidate membership
    have unmet : graph.meets pred candidate = false := by
      rcases List.mem_cons.mp (List.mem_reverse.mp membership) with rfl | older
      · exact missed
      · exact trail.unblocked candidate older
    simpa [Graph.meets] using unmet

theorem failingPath_answers (pred : Stmt → Bool) (linked : Linked graph) :
    ∃ answer, graph.failingPath (fun stmt => .ok (pred stmt)) = .ok (answer.map List.reverse) ∧
      Answers (graph.meets pred) graph.next 0 answer := by
  obtain ⟨answer, searched, right⟩ := openPath_answers (graph.meets pred) linked.bounded
    linked.nonempty
  refine ⟨answer, ?_, right⟩
  rw [Graph.failingPath, Graph.satisfies_ok, searched]
  rfl

theorem Answers.isSome_eq_isOpen {source : Source} {answer : Option (List Nat)}
    (built : source.graph = .ok graph) (right : Answers (graph.meets pred) graph.next 0 answer) :
    answer.isSome = (stmtsWays pred source.stmts).isOpen := by
  rw [Bool.eq_iff_iff, right.isSome_iff, ← exists_stops_iff built]
  simp only [Stops, Passes, Enters, and_assoc]

/-- The search always answers. It gives a path exactly if the recursion on the syntax finds a way
out of the code open, and the path that it gives is a failing one. -/
theorem failingPath_eq_ways (pred : Stmt → Bool) (source : Source)
    (built : source.graph = .ok graph) :
    ∃ result, graph.failingPath (fun stmt => .ok (pred stmt)) = .ok result ∧
      result.isSome = (stmtsWays pred source.stmts).isOpen ∧
      ∀ path, result = some path → FailingPath pred graph path := by
  obtain ⟨answer, searched, right⟩ := failingPath_answers pred (Source.linked_graph built)
  refine ⟨answer.map List.reverse, searched, ?_, ?_⟩
  · rw [Option.isSome_map, right.isSome_eq_isOpen built]
  · intro path isPath
    obtain ⟨newestFirst, rfl, rfl⟩ := Option.map_eq_some_iff.mp isPath
    obtain ⟨number, passed, rfl, trail, missed, final⟩ := right
    exact trail.failingPath missed final

/-- `WHILE TRUE DO IF TRUE THEN EXIT; END_IF CASE TRUE OF TRUE: RETURN; END_CASE END_WHILE`, then
one more statement, which the way by `RETURN` does not reach. -/
def leavingLoop : List Stmt :=
  [.loop ⟨1, none, none⟩ (.whileDo always) (.given
    [.ifThen ⟨2, none, none⟩ always (.given [.exitStmt ⟨3, none, none⟩]) [] none,
      .select ⟨4, none, none⟩ always [.mk [.value always] (.given [.returnStmt ⟨5, none, none⟩])]
        none]),
    mark 6]

theorem failingPath_leavingLoop :
    ∃ graph path, (Source.block leavingLoop).graph = .ok graph ∧
      graph.failingPath (fun stmt => .ok (stmt.origin.serial == 6)) = .ok (some path) ∧
      FailingPath (fun stmt => stmt.origin.serial == 6) graph path := by
  obtain ⟨result, searched, verdict, failing⟩ :=
    failingPath_eq_ways (fun stmt => stmt.origin.serial == 6) (.block leavingLoop) rfl
  obtain ⟨path, rfl⟩ := Option.isSome_iff_exists.mp (verdict.trans (by decide))
  exact ⟨_, path, rfl, searched, failing path rfl⟩

end PlcLint.Flow
