import PlcLint.Proofs.Flow.Homes

/-!
What each node of a program graph is for. The roles are read off the syntax alone, in the order in
which the construction makes the nodes; each node has the label and the owner of its role, and it
has a predecessor unless its role is the start or a join that all branches may leave out.
-/

namespace PlcLint.Flow

/-- What a node of a program graph is for. -/
inductive Role where
  /-- The start of the code, with the name of the routine. -/
  | start (routine : Option String)
  /-- The head of a `CASE` or a loop, a label, or the first branch of an `IF`. -/
  | head (stmt : Stmt)
  | arm (stmt : Stmt) (chosen : Arm)
  | elseIf (condition : Expr)
  | otherwise
  /-- The way around an `IF` without `ELSE` or around the body of a loop. -/
  | around
  | join (stmt : Stmt)
  | loopStart (stmt : Stmt)
  | loopEnd (stmt : Stmt)

def headLabel : Stmt → String
  | .ifThen _ condition _ _ _ => "if " ++ condition.text
  | .select _ subject _ _ => "CASE " ++ subject.text
  | .label _ name _ => name
  | _ => "loop"

def joinLabel : Stmt → String
  | .ifThen _ _ _ _ _ => "if_end"
  | _ => "case_end"

/-- All branches of the statement are written out, so that perhaps none of them gets to its join. -/
def joinsLoosely : Stmt → Bool
  | .ifThen _ _ _ _ otherwise => otherwise.isSome
  | .select _ _ _ _ => true
  | _ => false

namespace Role

def label : Role → Option String
  | start routine => routine.map ("method " ++ ·)
  | head stmt => some (headLabel stmt)
  | arm _ chosen => some chosen.text
  | elseIf condition => some ("elsif " ++ condition.text)
  | otherwise => some "else"
  | around => some "_else"
  | join stmt => some (joinLabel stmt)
  | loopStart _ => some "loop_start"
  | loopEnd _ => some "loop_end"

def owner : Role → Option Stmt
  | head stmt | arm stmt _ => some stmt
  | _ => none

/-- A node in this role may stay without predecessor. -/
def isLoose : Role → Bool
  | join stmt => joinsLoosely stmt
  | _ => false

/-- The last branch of an `IF`. -/
def ofElse : Option Block → Role
  | some _ => otherwise
  | none => around

theorem label_ofElse (otherwise : Option Block) :
    (ofElse otherwise).label = some (elseLabel otherwise) := by
  cases otherwise <;> rfl

theorem owner_ofElse (otherwise : Option Block) : (ofElse otherwise).owner = none := by
  cases otherwise <;> rfl

theorem eq_join_of_isLoose {role : Role} (loose : role.isLoose = true) :
    ∃ stmt, role = join stmt ∧ joinsLoosely stmt = true := by
  cases role with
  | join stmt => exact ⟨stmt, rfl, loose⟩
  | _ => cases loose

/-- The first body nodes of loops are told from all others by label and owner. -/
theorem eq_loopStart {role : Role} (labelled : role.label = some "loop_start")
    (unowned : role.owner = none) : ∃ stmt, role = loopStart stmt := by
  cases role with
  | loopStart stmt => exact ⟨stmt, rfl⟩
  | head | arm => cases unowned
  | elseIf condition =>
      have same := congrArg String.toList (Option.some.inj labelled)
      simp at same
  | start routine =>
      cases routine with
      | none => cases labelled
      | some name =>
          have same := congrArg String.toList (Option.some.inj labelled)
          simp at same
  | join stmt => cases stmt <;> simp [label, joinLabel] at labelled
  | otherwise | around | loopEnd => simp [label] at labelled

end Role

mutual

/-- The roles of the nodes that the statement adds to the graph. -/
def stmtRoles (stmt : Stmt) : List Role :=
  match stmt with
  | .action _ _ | .exitStmt _ | .continueStmt _ | .returnStmt _ | .jump _ _ | .foreign _ _ => []
  | .label _ _ _ => [.head stmt]
  | .ifThen _ _ body elseIfs otherwise =>
    let last := match otherwise with
      | some block => .otherwise :: blockRoles block
      | none => [.around]
    .join stmt :: .head stmt :: (blockRoles body ++ (elseIfsRoles elseIfs ++ last))
  | .select _ _ arms otherwise =>
    let last := match otherwise with
      | some block => .otherwise :: blockRoles block
      | none => []
    .head stmt :: .join stmt :: (armsRoles stmt arms ++ last)
  | .loop _ _ body =>
    .head stmt :: .loopStart stmt :: .loopEnd stmt :: (blockRoles body ++ [.around])

def blockRoles (block : Block) : List Role :=
  match block with
  | .missing => []
  | .given stmts => stmtsRoles stmts

def elseIfsRoles (elseIfs : List ElseIf) : List Role :=
  match elseIfs with
  | [] => []
  | .mk condition body :: rest => .elseIf condition :: (blockRoles body ++ elseIfsRoles rest)

def armsRoles (owner : Stmt) (arms : List Arm) : List Role :=
  match arms with
  | [] => []
  | .mk values body :: rest =>
    .arm owner (.mk values body) :: (blockRoles body ++ armsRoles owner rest)

/-- Behind `RETURN`, `EXIT` or `CONTINUE` the rest of a block adds nothing. -/
def stmtsRoles (stmts : List Stmt) : List Role :=
  match stmts with
  | [] => []
  | stmt :: rest => stmtRoles stmt ++ if leavesBlock stmt then [] else stmtsRoles rest

end

def Source.startRole : Source → Role
  | routine name _ => .start (some name)
  | _ => .start none

/-- The roles of all nodes of the code's graph. -/
def Source.roles (source : Source) : List Role := source.startRole :: stmtsRoles source.stmts

theorem Source.label_startRole (source : Source) : source.startRole.label = source.label := by
  cases source <;> rfl

theorem stmtRoles_ifThen (origin : Origin) (condition : Expr) (body : Block)
    (elseIfs : List ElseIf) (otherwise : Option Block) :
    stmtRoles (.ifThen origin condition body elseIfs otherwise) =
      .join (.ifThen origin condition body elseIfs otherwise) ::
        .head (.ifThen origin condition body elseIfs otherwise) ::
          (blockRoles body ++ (elseIfsRoles elseIfs ++
            .ofElse otherwise :: blockRoles (otherwise.getD .missing))) := by
  cases otherwise <;> simp [stmtRoles, blockRoles, Role.ofElse]

/-- The nodes of the graph have these roles. Those that `loose` holds of may be without predecessor
for now. -/
structure Fits (roles : List Role) (loose : Nat → Prop) (graph : Graph) : Prop where
  length : roles.length = graph.size
  marked : ∀ number role, roles[number]? = some role →
    (graph.node number).label = role.label ∧ graph.ownerAt number = role.owner
  entered : ∀ number role, roles[number]? = some role → graph.prev number = [] →
    role.isLoose = true ∨ loose number

theorem Edit.label {graph edited : Graph} (edit : Edit graph edited) {number : Nat}
    (inside : number < graph.size) : (edited.node number).label = (graph.node number).label := by
  cases edit with
  | add label owner => rw [Graph.node_add, if_neg (Nat.ne_of_lt inside)]
  | append _ stmt => rw [Graph.node_append]
  | link => rw [Graph.node_link]

theorem Grows.label {graph grown : Graph} (growth : Grows graph grown) {number : Nat}
    (inside : number < graph.size) : (grown.node number).label = (graph.node number).label := by
  induction growth with
  | refl => rfl
  | tail earlier edit inductionHypothesis =>
      rw [edit.label (Nat.lt_of_lt_of_le inside (Grows.size_le earlier)), inductionHypothesis]

namespace Fits

variable {roles : List Role} {loose looser : Nat → Prop} {graph grown : Graph} {role : Role}
  {targets : LoopTargets} {here final : Nat} {label : String} {owner : Option Stmt}

theorem lt_size (fits : Fits roles loose graph) {number : Nat}
    (found : roles[number]? = some role) : number < graph.size := by
  rw [← fits.length]
  exact (List.getElem?_eq_some_iff.mp found).1

/-- Nodes stay what they are. -/
theorem keep (fits : Fits roles loose graph) (growth : Grows graph grown)
    (sameSize : grown.size = graph.size) : Fits roles loose grown := by
  refine ⟨fits.length.trans sameSize.symm, ?_, ?_⟩
  · intro number role found
    rw [growth.label (fits.lt_size found), growth.ownerAt (fits.lt_size found)]
    exact fits.marked number role found
  · intro number role found unentered
    apply fits.entered number role found
    by_contra rooted
    exact growth.prev_ne_nil rooted unentered

theorem concat (fits : Fits roles loose graph) (growth : Grows graph grown)
    (oneMore : grown.size = graph.size + 1) (weaker : ∀ number, loose number → looser number)
    (labelled : (grown.node graph.size).label = role.label)
    (owned : grown.ownerAt graph.size = role.owner)
    (entered : grown.prev graph.size = [] → role.isLoose = true ∨ looser graph.size) :
    Fits (roles ++ [role]) looser grown := by
  have split {number : Nat} {other : Role} (found : (roles ++ [role])[number]? = some other) :
      roles[number]? = some other ∨ (number = graph.size ∧ role = other) := by
    rw [← fits.length]
    by_cases old : number < roles.length
    · rw [List.getElem?_append_left old] at found
      exact .inl found
    · obtain ⟨bound, same⟩ := List.getElem?_eq_some_iff.mp found
      obtain rfl : number = roles.length := by
        rw [List.length_append, List.length_singleton] at bound
        omega
      exact .inr ⟨rfl, by simpa using same⟩
  refine ⟨by rw [List.length_append, fits.length, List.length_singleton, oneMore], ?_, ?_⟩
  · intro number other found
    rcases split found with old | ⟨rfl, rfl⟩
    · rw [growth.label (fits.lt_size old), growth.ownerAt (fits.lt_size old)]
      exact fits.marked number other old
    · exact ⟨labelled, owned⟩
  · intro number other found unentered
    rcases split found with old | ⟨rfl, rfl⟩
    · have before : graph.prev number = [] := by
        by_contra rooted
        exact growth.prev_ne_nil rooted unentered
      exact (fits.entered number other old before).imp_right (weaker number)
    · exact entered unentered

theorem follow (fits : Fits roles loose graph) (hereInside : here < graph.size)
    (labelled : role.label = some label) (owned : role.owner = owner) :
    Fits (roles ++ [role]) loose (graph.follow here label owner) := by
  apply fits.concat (.follow hereInside label owner) (Graph.size_follow _ _ _) (fun _ => id)
  · simp [Graph.follow, Graph.node_link, Graph.node_add, labelled]
  · simp [Graph.follow, Graph.ownerAt_add, owned]
  · intro unentered
    simp [Graph.prev_follow_size] at unentered

theorem addJoin (fits : Fits roles loose graph) (weaker : ∀ number, loose number → looser number)
    (labelled : role.label = some label) (owned : role.owner = none)
    (isLoose : role.isLoose = true ∨ looser graph.size) :
    Fits (roles ++ [role]) looser (graph.add { label := some label }) := by
  apply fits.concat (.single (.add (some label) none)) (Graph.size_add _) weaker
  · simp [Graph.node_add, labelled]
  · simp [Graph.ownerAt_add, owned]
  · exact fun _ => isLoose

/-- Nodes that have got their predecessor are loose no longer. -/
theorem settle (fits : Fits roles looser graph)
    (settled : ∀ number, looser number → graph.prev number = [] → loose number) :
    Fits roles loose graph :=
  ⟨fits.length, fits.marked, fun number role found unentered =>
    (fits.entered number role found unentered).imp_right (settled number · unentered)⟩

/-- The way around a block that is left out. -/
theorem bypass (fits : Fits roles loose graph) (placed : Placed targets graph here final)
    (labelled : role.label = some label) (owned : role.owner = none) :
    Fits (roles ++ [role]) loose ((graph.follow here label).link graph.size final) :=
  (fits.follow placed.hereInside labelled owned).keep (placed.follow label none).link_grows
    (Graph.size_link _ _)

end Fits

theorem Grows.prev_link_ne_nil {graph grown : Graph} {source target : Nat}
    (inside : target < graph.size) (growth : Grows (graph.link source target) grown) :
    grown.prev target ≠ [] :=
  growth.prev_ne_nil (List.ne_nil_of_mem ((Graph.mem_prev_link inside).mpr (.inr ⟨rfl, rfl⟩)))

/-! What adding a part of the code does to a graph whose nodes have their roles. -/

def BlockFits (block : Block) : Prop :=
  ∀ {targets : LoopTargets} {graph grown : Graph} {here final : Nat} {roles : List Role}
    {loose : Nat → Prop}, Placed targets graph here final →
    addBranch targets graph here final block = .ok grown → Fits roles loose graph →
    Fits (roles ++ blockRoles block) loose grown

def ElseIfsFit (elseIfs : List ElseIf) : Prop :=
  ∀ {targets : LoopTargets} {graph grown : Graph} {here final : Nat} {roles : List Role}
    {loose : Nat → Prop}, Placed targets graph here final →
    addElseIfs targets graph here final elseIfs = .ok grown → Fits roles loose graph →
    Fits (roles ++ elseIfsRoles elseIfs) loose grown

def ArmsFit (owner : Stmt) (arms : List Arm) : Prop :=
  ∀ {targets : LoopTargets} {graph grown : Graph} {head final : Nat} {roles : List Role}
    {loose : Nat → Prop}, Placed targets graph head final →
    addArms targets graph owner head final arms = .ok grown → Fits roles loose graph →
    Fits (roles ++ armsRoles owner arms) loose grown

section

variable {targets : LoopTargets} {graph : Graph} {here : Nat} {front : Front} {roles : List Role}
  {loose : Nat → Prop} (inside : targets.Inside graph) (hereInside : here < graph.size)
include inside hereInside

theorem ifThen_fits {origin : Origin} {condition : Expr} {body : Block} {elseIfs : List ElseIf}
    {otherwise : Option Block} (bodyFits : BlockFits body) (elseIfsFit : ElseIfsFit elseIfs)
    (otherwiseFits : ∀ block, otherwise = some block → BlockFits block)
    (built : addStmt targets graph here (.ifThen origin condition body elseIfs otherwise) =
      .ok front) (fits : Fits roles loose graph) :
    Fits (roles ++ stmtRoles (.ifThen origin condition body elseIfs otherwise)) loose front.1 := by
  obtain ⟨_, afterThen, afterElseIfs, afterElse, rfl, builtThen, builtElseIfs, builtElse,
    rfl⟩ := addStmt_ifThen_elseLabel built
  have placed := Placed.addJoin inside hereInside "if_end"
  have thenGrows := placed.follow_grows (addBranch_grows body (placed.follow _ _) builtThen)
  have pastThen := placed.grow thenGrows
  have pastElseIfs := pastThen.grow (addElseIfs_grows elseIfs pastThen builtElseIfs)
  -- Without `ELSE` the join counts as loose until the way around the `IF` is there.
  have joined : Fits (roles ++ [.join (.ifThen origin condition body elseIfs otherwise)])
      (fun number => loose number ∨ (number = graph.size ∧ otherwise = none))
      (graph.add { label := some "if_end" }) :=
    fits.addJoin (fun _ => .inl) rfl rfl
      (by cases otherwise <;> simp [Role.isLoose, joinsLoosely])
  have opened : Fits (_ ++ [.head (.ifThen origin condition body elseIfs otherwise)]) _ _ :=
    joined.follow placed.hereInside rfl rfl
  have pastElseIfsFit := elseIfsFit pastThen builtElseIfs
    (bodyFits (placed.follow _ _) builtThen opened)
  have last := pastElseIfsFit.follow pastElseIfs.hereInside (Role.label_ofElse otherwise)
    (Role.owner_ofElse otherwise)
  have pastFollow := pastElseIfs.follow (elseLabel otherwise) none
  rw [stmtRoles_ifThen]
  cases otherwise with
  | none =>
      obtain rfl := addBranch_missing builtElse
      have linked := last.keep pastFollow.link_grows (Graph.size_link _ _)
      have settled : Fits _ loose _ := linked.settle fun number isLooser unentered =>
        isLooser.resolve_right fun ⟨isFinal, _⟩ =>
          Grows.prev_link_ne_nil pastFollow.finalInside .refl (isFinal ▸ unentered)
      simpa [blockRoles] using settled
  | some block =>
      have settled : Fits _ loose _ := (otherwiseFits block rfl pastFollow builtElse last).settle
        fun number isLooser _ => isLooser.resolve_right (by simp)
      simpa using settled

theorem select_fits {origin : Origin} {subject : Expr} {arms : List Arm}
    {otherwise : Option Block}
    (armsFit : ArmsFit (.select origin subject arms otherwise) arms)
    (otherwiseFits : ∀ block, otherwise = some block → BlockFits block)
    (built : addStmt targets graph here (.select origin subject arms otherwise) = .ok front)
    (fits : Fits roles loose graph) :
    Fits (roles ++ stmtRoles (.select origin subject arms otherwise)) loose front.1 := by
  obtain ⟨headed, afterArms, afterElse, isHeaded, builtArms, builtElse, rfl⟩ :=
    addStmt_select built
  have headedGrows : Grows graph headed := isHeaded ▸ .follow hereInside _ _
  have headInside : graph.size < headed.size := by simp [isHeaded]
  have placed := Placed.addJoin (inside.grow headedGrows) headInside "case_end"
  have pastArms := placed.grow (addArms_grows arms placed builtArms)
  have headFits :
      Fits (roles ++ [.head (.select origin subject arms otherwise)]) loose headed :=
    isHeaded ▸ fits.follow hereInside rfl rfl
  have joined : Fits (roles ++ [.head (.select origin subject arms otherwise)] ++
      [.join (.select origin subject arms otherwise)]) loose
      (headed.add { label := some "case_end" }) :=
    headFits.addJoin (fun _ => id) rfl rfl (.inl rfl)
  have afterArmsFit := armsFit placed builtArms joined
  cases otherwise with
  | none =>
      subst builtElse
      simpa [stmtRoles] using afterArmsFit
  | some block =>
      have last : Fits (_ ++ [.otherwise]) loose (afterArms.follow graph.size "else") :=
        afterArmsFit.follow pastArms.hereInside rfl rfl
      simpa [stmtRoles] using
        otherwiseFits block rfl (pastArms.follow "else" none) builtElse last

theorem loop_fits {origin : Origin} {head : LoopHead} {body : Block} (bodyFits : BlockFits body)
    (built : addStmt targets graph here (.loop origin head body) = .ok front)
    (fits : Fits roles loose graph) :
    Fits (roles ++ stmtRoles (.loop origin head body)) loose front.1 := by
  obtain ⟨headed, afterBody, isHeaded, builtBody, rfl⟩ := addStmt_loop built
  have headedGrows : Grows graph headed := isHeaded ▸ .follow hereInside _ _
  have headInside : graph.size < headed.size := by simp [isHeaded]
  have bodyGrows := addBranch_grows body (.loopBody headInside _ _) builtBody
  have pastBody := Placed.pastLoop (inside.grow headedGrows) headInside bodyGrows
  have headFits : Fits (roles ++ [.head (.loop origin head body)]) loose headed :=
    isHeaded ▸ fits.follow hereInside rfl rfl
  have startFits : Fits (roles ++ [.head (.loop origin head body)] ++
      [.loopStart (.loop origin head body)]) loose (headed.follow graph.size "loop_start") :=
    headFits.follow headInside rfl rfl
  -- The end of the loop is loose until the way around the body is there.
  have frameFits : Fits (roles ++ [.head (.loop origin head body)] ++
      [.loopStart (.loop origin head body)] ++ [.loopEnd (.loop origin head body)])
      (fun number => loose number ∨ number = headed.size + 1)
      (loopFrame headed graph.size "loop_start" "loop_end") :=
    startFits.addJoin (fun _ => .inl) rfl rfl (by simp)
  have pastBodyFits := bodyFits (.loopBody headInside _ _) builtBody frameFits
  have around : Fits (_ ++ [.around]) _ _ := pastBodyFits.bypass pastBody rfl rfl
  have settled : Fits _ loose _ := around.settle fun number isLooser unentered =>
    isLooser.resolve_right fun isFinal =>
      Grows.prev_link_ne_nil (pastBody.follow "_else" none).finalInside .refl
        (isFinal ▸ unentered)
  rw [stmtRoles]
  simpa using settled

end

mutual

theorem addStmt_fits {targets : LoopTargets} {graph : Graph} {here : Nat} (stmt : Stmt)
    {front : Front} {roles : List Role} {loose : Nat → Prop} (inside : targets.Inside graph)
    (hereInside : here < graph.size) (built : addStmt targets graph here stmt = .ok front)
    (fits : Fits roles loose graph) : Fits (roles ++ stmtRoles stmt) loose front.1 := by
  have growth := (addStmt_grows stmt inside hereInside built).1
  cases stmt with
  | action origin deed =>
      rw [stmtRoles, List.append_nil]
      simp only [addStmt, Except.ok.injEq] at built
      subst built
      exact fits.keep growth (Graph.size_append _ _)
  | exitStmt origin =>
      rw [stmtRoles, List.append_nil]
      obtain ⟨target, exit, rfl⟩ := addStmt_exit built
      exact fits.keep growth (by simp)
  | continueStmt origin =>
      rw [stmtRoles, List.append_nil]
      obtain ⟨target, again, rfl⟩ := addStmt_continue built
      exact fits.keep growth (by simp)
  | returnStmt origin =>
      rw [stmtRoles, List.append_nil]
      simp only [addStmt, Except.ok.injEq] at built
      subst built
      exact fits.keep growth (Graph.size_append _ _)
  | jump origin target => simp [addStmt] at built
  | foreign origin name => simp [addStmt] at built
  | label origin name inner =>
      rw [stmtRoles]
      have followed : Fits (roles ++ [.head (.label origin name inner)]) loose
          (graph.follow here name (some (.label origin name inner))) :=
        fits.follow hereInside rfl rfl
      simp only [addStmt, Except.ok.injEq] at built
      subst built
      cases inner with
      | none => exact followed
      | some inner => exact followed.keep (.single (.append (by simp) _)) (Graph.size_append _ _)
  | ifThen origin condition body elseIfs otherwise =>
      refine ifThen_fits inside hereInside (addBranch_fits body) (addElseIfs_fits elseIfs) ?_ built
        fits
      cases otherwise with
      | none =>
          intro block isBlock
          cases isBlock
      | some given =>
          rintro block ⟨⟩
          exact addBranch_fits given
  | select origin subject arms otherwise =>
      refine select_fits inside hereInside (addArms_fits arms) ?_ built fits
      cases otherwise with
      | none =>
          intro block isBlock
          cases isBlock
      | some given =>
          rintro block ⟨⟩
          exact addBranch_fits given
  | loop origin head body =>
      exact loop_fits inside hereInside (addBranch_fits body) built fits
termination_by structural stmt

theorem addBranch_fits {targets : LoopTargets} {graph grown : Graph} {here final : Nat}
    (block : Block) {roles : List Role} {loose : Nat → Prop}
    (placed : Placed targets graph here final)
    (built : addBranch targets graph here final block = .ok grown) (fits : Fits roles loose graph) :
    Fits (roles ++ blockRoles block) loose grown := by
  cases block with
  | missing =>
      obtain rfl := addBranch_missing built
      rw [blockRoles, List.append_nil]
      exact fits.keep placed.link_grows (Graph.size_link _ _)
  | given stmts =>
      obtain ⟨middle, reached, builtStmts, rfl⟩ := addBranch_given built
      have stmtsFit := addStmts_fits stmts placed.inside placed.hereInside builtStmts fits
      obtain ⟨growth, reachedInside⟩ := addStmts_grows stmts placed.inside placed.hereInside
        builtStmts
      rw [blockRoles]
      cases reached with
      | none => exact stmtsFit
      | some number =>
          exact stmtsFit.keep (.single (.link (reachedInside number rfl)
            (placed.grow growth).finalInside placed.notStart)) (Graph.size_link _ _)
termination_by structural block

theorem addElseIfs_fits {targets : LoopTargets} {graph grown : Graph} {here final : Nat}
    (elseIfs : List ElseIf) {roles : List Role} {loose : Nat → Prop}
    (placed : Placed targets graph here final)
    (built : addElseIfs targets graph here final elseIfs = .ok grown)
    (fits : Fits roles loose graph) : Fits (roles ++ elseIfsRoles elseIfs) loose grown := by
  cases elseIfs with
  | nil =>
      cases built
      rwa [elseIfsRoles, List.append_nil]
  | cons elseIf rest =>
      obtain ⟨condition, body⟩ := elseIf
      rw [addElseIfs] at built
      obtain ⟨middle, builtBody, builtRest⟩ := bind_eq_ok built
      have bodyGrows := placed.follow_grows (addBranch_grows body (placed.follow _ none) builtBody)
      have opened : Fits (roles ++ [.elseIf condition]) loose
          (graph.follow here ("elsif " ++ condition.text)) := fits.follow placed.hereInside rfl rfl
      have restFits := addElseIfs_fits rest (placed.grow bodyGrows) builtRest
        (addBranch_fits body (placed.follow _ none) builtBody opened)
      rw [elseIfsRoles]
      simpa using restFits
termination_by structural elseIfs

theorem addArms_fits {targets : LoopTargets} {graph grown : Graph} {owner : Stmt}
    {head final : Nat} (arms : List Arm) {roles : List Role} {loose : Nat → Prop}
    (placed : Placed targets graph head final)
    (built : addArms targets graph owner head final arms = .ok grown)
    (fits : Fits roles loose graph) : Fits (roles ++ armsRoles owner arms) loose grown := by
  cases arms with
  | nil =>
      cases built
      rwa [armsRoles, List.append_nil]
  | cons arm rest =>
      obtain ⟨values, body⟩ := arm
      rw [addArms] at built
      obtain ⟨middle, builtBody, builtRest⟩ := bind_eq_ok built
      have bodyGrows := placed.follow_grows
        (addBranch_grows body (placed.follow _ (some owner)) builtBody)
      have opened : Fits (roles ++ [.arm owner (.mk values body)]) loose
          (graph.follow head (Arm.text (.mk values body)) (some owner)) :=
        fits.follow placed.hereInside rfl rfl
      have restFits := addArms_fits rest (placed.grow bodyGrows) builtRest
        (addBranch_fits body (placed.follow _ (some owner)) builtBody opened)
      rw [armsRoles]
      simpa using restFits
termination_by structural arms

theorem addStmts_fits {targets : LoopTargets} {graph : Graph} {here : Nat} (stmts : List Stmt)
    {front : Front} {roles : List Role} {loose : Nat → Prop} (inside : targets.Inside graph)
    (hereInside : here < graph.size)
    (built : addStmts targets graph (some here) stmts = .ok front)
    (fits : Fits roles loose graph) : Fits (roles ++ stmtsRoles stmts) loose front.1 := by
  cases stmts with
  | nil =>
      cases built
      rwa [stmtsRoles, List.append_nil]
  | cons stmt rest =>
      obtain ⟨middle, reached, builtStmt, builtRest⟩ := addStmts_cons built
      obtain ⟨growth, reachedInside⟩ := addStmt_grows stmt inside hereInside builtStmt
      have stmtFits := addStmt_fits stmt inside hereInside builtStmt fits
      have goesOn := addStmt_isSome builtStmt
      rw [stmtsRoles]
      cases reached with
      | none =>
          cases addStmts_none builtRest
          simpa [show leavesBlock stmt = true by simpa using goesOn] using stmtFits
      | some number =>
          have restFits := addStmts_fits rest (inside.grow growth) (reachedInside number rfl)
            builtRest stmtFits
          simpa [show leavesBlock stmt = false by simpa using goesOn] using restFits
termination_by structural stmts

end

/-- The nodes of a program graph have the roles that the syntax gives them. -/
theorem Source.fits_graph {source : Source} {graph : Graph} (built : source.graph = .ok graph) :
    Fits source.roles (fun number => number = 0) graph := by
  obtain ⟨reached, builtStmts⟩ := Source.graph_eq_ok built
  have isStart {number : Nat} {role : Role} (found : [source.startRole][number]? = some role) :
      number = 0 ∧ source.startRole = role := by
    simpa [List.getElem?_singleton] using found
  have seedFits : Fits [source.startRole] (fun number => number = 0) source.seed := by
    refine ⟨rfl, ?_, ?_⟩
    · intro number role found
      obtain ⟨rfl, rfl⟩ := isStart found
      exact ⟨source.label_startRole.symm, by cases source <;> rfl⟩
    · intro number role found _
      exact .inr (isStart found).1
  exact addStmts_fits source.stmts (by simp [LoopTargets.Inside]) source.linked_seed.nonempty
    builtStmts seedFits

end PlcLint.Flow
