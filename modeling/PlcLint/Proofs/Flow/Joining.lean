import PlcLint.Proofs.Flow.Leaving

/-!
Code with branches. `Joins` says of a block whose end is linked to a join, and `Sides` of branches
that start at new nodes behind a node, that they open exactly the ways out that their syntax has.
Branches, loops and nodes with a statement of their own are then code in the sense of `Adds`.
-/

namespace PlcLint.Flow

variable {pred : Stmt → Bool} {targets : LoopTargets} {graph middle grown : Graph}
  {here final : Nat} {ways : Ways}

/-- A block was added behind `here` and its end, if reached, linked to `final`. -/
structure Joins (pred : Stmt → Bool) (targets : LoopTargets) (here final : Nat) (ways : Ways)
    (graph grown : Graph) : Prop where
  extension : Extends pred (fun number => targets.onExit = some number ∨
    (number = final ∧ ways.through = true)) here graph grown
  joined : Passes pred graph here → ways.through = true → Enters pred grown final
  stops : (∃ number, (number = here ∨ graph.size ≤ number) ∧ Stops pred grown number) ↔
    Passes pred graph here ∧ ways.ends = true

theorem Adds.join {reached : Option Nat} (ready : Ready pred targets graph here)
    (finalInside : final < graph.size) (finalOther : final ≠ here)
    (finalOpen : graph.next final = []) (growth : Grows graph (middle.join reached final))
    (reachedInside : ∀ number, reached = some number → number < middle.size)
    (added : Adds pred targets here ways graph (middle, reached)) :
    Joins pred targets here final ways graph (middle.join reached final) := by
  cases reached with
  | none =>
      have shut := added.unreached rfl
      refine ⟨added.extension.weaken fun _ _ => .inl, by simp [shut], ?_⟩
      simpa [Graph.join] using added.stops
  | some number =>
      obtain ⟨numberNew, _, numberPassed⟩ := added.reached number rfl
      have inside := reachedInside number rfl
      have larger := added.extension.size_le
      have stillOpen : middle.next final = [] := by
        rw [added.extension.next final finalInside finalOther, finalOpen]
      have linked : Linked (middle.link number final) := growth.linked ready.linked
      have linkExtends := Extends.link pred inside stillOpen
      dsimp only at numberPassed larger
      constructor
      · refine (added.extension.trans linkExtends numberNew
          fun passed => (numberPassed.mp passed).1).weaken fun candidate _ opened => ?_
        rcases opened with exit | ⟨isFinal, passed⟩
        · exact .inl exit
        · exact .inr ⟨isFinal, (numberPassed.mp passed).2⟩
      · intro passed through
        exact (enters_link_final inside stillOpen).mpr
          (.inr ⟨numberPassed.mpr ⟨passed, through⟩, rfl⟩)
      · rw [← added.stops]
        have edge : final ∈ (middle.link number final).next number :=
          (Graph.mem_next_link inside).mpr (.inr ⟨rfl, rfl⟩)
        constructor
        · rintro ⟨candidate, new, stopped⟩
          have old := stopped.1.1.lt_size linked
          have other : candidate ≠ number := by
            rintro rfl
            have nothing := stopped.2
            simp only [Graph.join] at nothing
            simp [nothing] at edge
          refine ⟨candidate, new, by simpa using Ne.symm other, ?_⟩
          refine (linkExtends.stops_iff (by simpa using old) other ?_).mp stopped
          omega
        · rintro ⟨candidate, new, other, stopped⟩
          have different : candidate ≠ number := fun isNumber => other (by rw [isNumber])
          have old : candidate < middle.size := by
            simpa using (linkExtends.kept candidate stopped.1.1).lt_size linked
          refine ⟨candidate, new, (linkExtends.stops_iff old different ?_).mpr stopped⟩
          omega

/-- Branches were added that start at new nodes behind `here` and join at `final`. -/
structure Sides (pred : Stmt → Bool) (targets : LoopTargets) (here final : Nat) (ways : Ways)
    (graph grown : Graph) : Prop where
  extension : Extends pred (fun number => targets.onExit = some number ∨
    (number = final ∧ ways.through = true)) here graph grown
  hereStmts : grown.stmtsAt here = graph.stmtsAt here
  hereNext : graph.next here ⊆ grown.next here
  joined : Passes pred graph here → ways.through = true → Enters pred grown final
  stops : (∃ number, graph.size ≤ number ∧ Stops pred grown number) ↔
    Passes pred graph here ∧ ways.ends = true

namespace Sides

variable {first second : Ways}

theorem passes_here (inside : here < graph.size)
    (sides : Sides pred targets here final ways graph grown) :
    Passes pred grown here ↔ Passes pred graph here := by
  unfold Passes
  rw [sides.extension.enters_here inside, Graph.meets_congr sides.hereStmts]

theorem none (linked : Linked graph) : Sides pred targets here final .shut graph graph := by
  refine ⟨.refl graph here, rfl, List.Subset.refl _, by simp [Ways.shut], ?_⟩
  constructor
  · rintro ⟨number, fresh, stopped⟩
    exact absurd (stopped.1.1.lt_size linked) (Nat.not_lt.mpr fresh)
  · simp [Ways.shut]

theorem either (linked : Linked middle) (ready : Ready pred targets graph here)
    (finalInside : final < graph.size)
    (firstAdded : Sides pred targets here final first graph middle)
    (secondAdded : Sides pred targets here final second middle grown) :
    Sides pred targets here final (first.either second) graph grown := by
  have herePassed := firstAdded.passes_here ready.hereInside
  have larger := firstAdded.extension.size_le
  constructor
  · refine (firstAdded.extension.trans secondAdded.extension (.inl rfl) herePassed.mp).weaken
      fun number _ opened => ?_
    simp only [Ways.either, Bool.or_eq_true]
    rcases opened with (exit | ⟨isFinal, through⟩) | ⟨exit | ⟨isFinal, through⟩, _⟩
    · exact .inl exit
    · exact .inr ⟨isFinal, .inl through⟩
    · exact .inl exit
    · exact .inr ⟨isFinal, .inr through⟩
  · rw [secondAdded.hereStmts, firstAdded.hereStmts]
  · exact List.Subset.trans firstAdded.hereNext secondAdded.hereNext
  · intro passed through
    simp only [Ways.either, Bool.or_eq_true] at through
    rcases through with byFirst | bySecond
    · exact secondAdded.extension.kept final (firstAdded.joined passed byFirst)
    · exact secondAdded.joined (herePassed.mpr passed) bySecond
  · have split : (∃ number, graph.size ≤ number ∧ Stops pred grown number) ↔
        (∃ number, graph.size ≤ number ∧ Stops pred middle number) ∨
        (∃ number, middle.size ≤ number ∧ Stops pred grown number) := by
      have same : ∀ number < middle.size, graph.size ≤ number →
          (Stops pred grown number ↔ Stops pred middle number) := by
        intro number old new
        have hereInside := ready.hereInside
        refine secondAdded.extension.stops_iff old (by omega) ?_
        rintro (exit | ⟨isFinal, _⟩)
        · have := ready.exit_lt exit
          omega
        · omega
      constructor
      · rintro ⟨number, new, stopped⟩
        by_cases old : number < middle.size
        · exact .inl ⟨number, new, (same number old new).mp stopped⟩
        · exact .inr ⟨number, Nat.le_of_not_lt old, stopped⟩
      · rintro (⟨number, new, stopped⟩ | ⟨number, new, stopped⟩)
        · exact ⟨number, new, (same number (stopped.1.1.lt_size linked) new).mpr stopped⟩
        · exact ⟨number, Nat.le_trans larger new, stopped⟩
    rw [split, firstAdded.stops, secondAdded.stops, herePassed, ← and_or_left]
    simp [Ways.either]

end Sides

/-- A block behind a new node is a branch behind the node before it. -/
theorem Joins.side {label : String} {owner : Option Stmt} (ready : Ready pred targets graph here)
    (joins : Joins pred targets graph.size final ways (graph.follow here label owner) grown) :
    Sides pred targets here final (ways.onlyIf (!owner.any pred)) graph grown ∧
      graph.size ∈ grown.next here := by
  have inside := ready.hereInside
  have newPassed := passes_follow pred ready.linked inside label owner
  have hereKept : grown.next here = (graph.follow here label owner).next here :=
    joins.extension.next here (Graph.lt_size_follow inside label owner) (by omega)
  refine ⟨⟨?_, ?_, ?_, ?_, ?_⟩, ?_⟩
  · refine ((Extends.follow inside label owner).trans joins.extension (.inr (Nat.le_refl _))
      fun passed => (newPassed.mp passed).1).weaken fun number _ opened => ?_
    rcases opened with impossible | ⟨exit | ⟨isFinal, through⟩, passed⟩
    · exact absurd impossible id
    · exact .inl exit
    · exact .inr ⟨isFinal, by simp [Ways.onlyIf, through, (newPassed.mp passed).2]⟩
  · rw [joins.extension.stmtsAt here (Graph.lt_size_follow inside label owner) (by omega),
      Graph.stmtsAt_follow, if_neg (by omega)]
  · intro number edge
    rw [hereKept, Graph.mem_next_follow inside]
    exact .inl edge
  · intro passed through
    simp only [Ways.onlyIf, Bool.and_eq_true, Bool.not_eq_true'] at through
    exact joins.joined (newPassed.mpr ⟨passed, through.1⟩) through.2
  · have zone : ∀ number, graph.size ≤ number ↔
        number = graph.size ∨ (graph.follow here label owner).size ≤ number := by
      intro number
      rw [Graph.size_follow]
      omega
    simp only [zone]
    rw [joins.stops, newPassed, and_assoc]
    simp [Ways.onlyIf]
  · rw [hereKept, Graph.mem_next_follow inside]
    exact .inr ⟨rfl, rfl⟩

/-- A branch whose first node has no owner. -/
theorem Joins.plainSide {label : String} (ready : Ready pred targets graph here)
    (joins : Joins pred targets graph.size final ways (graph.follow here label) grown) :
    Sides pred targets here final ways graph grown := by
  simpa using (joins.side ready).1

/-- A branch counts in full if the node before it is passed only where its owner allows. -/
theorem Sides.of_onlyIf {condition : Bool}
    (allowed : Passes pred graph here → condition = true)
    (sides : Sides pred targets here final (ways.onlyIf condition) graph grown) :
    Sides pred targets here final ways graph grown := by
  refine { sides with extension := ?_, joined := ?_, stops := ?_ }
  · refine sides.extension.weaken fun number _ opened => ?_
    simp only [Ways.onlyIf, Bool.and_eq_true] at opened
    rcases opened with exit | ⟨isFinal, _, through⟩
    · exact .inl exit
    · exact .inr ⟨isFinal, through⟩
  · intro passed through
    exact sides.joined passed (by simp [Ways.onlyIf, allowed passed, through])
  · rw [sides.stops]
    refine and_congr_right fun passed => ?_
    simp [Ways.onlyIf, allowed passed]

/-! Statements that have a node of their own. -/

/-- Code behind the node of a compound statement is code behind the node before it. -/
theorem Adds.headed {label : String} {owner : Stmt} {front : Front}
    (ready : Ready pred targets graph here)
    (added : Adds pred targets graph.size ways (graph.follow here label (some owner)) front) :
    Adds pred targets here (ways.onlyIf (!pred owner)) graph front := by
  have inside := ready.hereInside
  have newPassed := passes_follow pred ready.linked inside label (some owner)
  rw [Option.any_some] at newPassed
  refine ⟨?_, ?_, ?_, ?_⟩
  · refine ((Extends.follow inside label (some owner)).trans added.extension (.inr (Nat.le_refl _))
      fun passed => (newPassed.mp passed).1).weaken fun number _ opened => ?_
    rcases opened with impossible | ⟨exit, _⟩
    · exact absurd impossible id
    · exact exit
  · intro number isReached
    obtain ⟨new, noEdge, passed⟩ := added.reached number isReached
    rw [Graph.size_follow] at new
    refine ⟨.inr (by omega), noEdge, ?_⟩
    rw [passed, newPassed, and_assoc]
    simp [Ways.onlyIf]
  · intro isNone
    simp [Ways.onlyIf, added.unreached isNone]
  · have edge : graph.size ∈ front.1.next here := by
      rw [added.extension.next here (Graph.lt_size_follow inside label (some owner)) (by omega),
        Graph.mem_next_follow inside]
      exact .inr ⟨rfl, rfl⟩
    have zone : ∀ number,
        (number = graph.size ∨ (graph.follow here label (some owner)).size ≤ number) ↔
          graph.size ≤ number := by
      intro number
      rw [Graph.size_follow]
      omega
    have stops := added.stops
    simp only [zone] at stops
    rw [show (Passes pred graph here ∧ (ways.onlyIf (!pred owner)).ends = true) ↔
      (Passes pred (graph.follow here label (some owner)) graph.size ∧ ways.ends = true) by
        rw [newPassed, and_assoc]; simp [Ways.onlyIf], ← stops]
    constructor
    · rintro ⟨number, rfl | new, other, stopped⟩
      · simp [stopped.2] at edge
      · exact ⟨number, new, other, stopped⟩
    · rintro ⟨number, new, other, stopped⟩
      exact ⟨number, .inr new, other, stopped⟩

/-- A `CASE` statement without arms and without `ELSE` leads nowhere. -/
theorem Adds.armless (ready : Ready pred targets graph here) (hereOpen : graph.next here = [])
    (label : String) :
    Adds pred targets here .ending graph
      (graph.add { label := some label }, some graph.size) := by
  have inside := ready.hereInside
  have linked : Linked (graph.add { label := some label }) :=
    Edit.linked ready.linked (.add (some label) none)
  have fresh : ¬Enters pred graph graph.size := not_enters_size ready.linked
  have herePassed := passes_add pred inside (some label) none
  refine ⟨(Extends.add pred graph (some label) here).weaken fun _ _ => False.elim, ?_, by simp, ?_⟩
  · rintro number ⟨⟩
    refine ⟨.inr (Nat.le_refl _), by simp [Graph.next_of_size_le], ?_⟩
    simp [Passes, enters_add, fresh, Ways.ending]
  · constructor
    · rintro ⟨number, rfl | new, other, stopped⟩
      · exact ⟨herePassed.mp stopped.1, rfl⟩
      · have old := stopped.1.1.lt_size linked
        have : number ≠ graph.size := fun isJoin => other (by rw [isJoin])
        rw [Graph.size_add] at old
        omega
    · rintro ⟨passed, _⟩
      refine ⟨here, .inl rfl, ?_, herePassed.mpr passed, by simpa using hereOpen⟩
      simp only [ne_eq, Option.some.injEq]
      omega

/-- Branches behind `here` itself, joined at a node that was new before them. -/
theorem Adds.branching (ready : Ready pred targets graph here) (label : String)
    (sides : Sides pred targets here graph.size ways (graph.add { label := some label }) grown)
    (branched : grown.next here ≠ []) :
    Adds pred targets here ways graph (grown, some graph.size) := by
  have inside := ready.hereInside
  have opening := Extends.add pred graph (some label) here
  have herePassed := passes_add pred inside (some label) none
  have joinNext : grown.next graph.size = [] := by
    rw [sides.extension.next graph.size (by simp) (by omega), Graph.next_add,
      Graph.next_of_size_le (Nat.le_refl _)]
  have joinStmts : grown.stmtsAt graph.size = [] := by
    rw [sides.extension.stmtsAt graph.size (by simp) (by omega), Graph.stmtsAt_add, if_pos rfl]
    rfl
  refine ⟨?_, ?_, by simp, ?_⟩
  · refine (opening.trans sides.extension (.inl rfl) herePassed.mp).weaken
      fun number old opened => ?_
    rcases opened with impossible | ⟨exit | ⟨isJoin, _⟩, _⟩
    · exact absurd impossible id
    · exact exit
    · omega
  · rintro number ⟨⟩
    refine ⟨.inr (Nat.le_refl _), joinNext, ?_⟩
    rw [← herePassed]
    constructor
    · intro passed
      rcases sides.extension.entered graph.size (by simp) passed.1 with
        before | ⟨herePassed, exit | ⟨_, through⟩⟩
      · have := ((enters_add (some label) Option.none).mp before).lt_size ready.linked
        omega
      · have := ready.exit_lt exit
        omega
      · exact ⟨herePassed, through⟩
    · rintro ⟨passed, through⟩
      exact ⟨sides.joined passed through, by simp [Graph.meets, joinStmts]⟩
  · rw [← herePassed, ← sides.stops]
    constructor
    · rintro ⟨number, rfl | new, other, stopped⟩
      · exact absurd stopped.2 branched
      · refine ⟨number, ?_, stopped⟩
        have : number ≠ graph.size := fun isJoin => other (by rw [isJoin])
        rw [Graph.size_add]
        omega
    · rintro ⟨number, new, stopped⟩
      rw [Graph.size_add] at new
      refine ⟨number, .inr (by omega), ?_, stopped⟩
      simp only [ne_eq, Option.some.injEq]
      omega

/-! A loop: behind its head `here` the body starts at a new node, to which `CONTINUE` leads, and
joins at the node after it, to which `EXIT` leads. -/

section Looping

variable {startLabel finalLabel : String}

theorem passes_follow_self (inside : here < graph.size) (label : String) (owner : Option Stmt) :
    Passes pred (graph.follow here label owner) here ↔ Passes pred graph here := by
  unfold Passes
  rw [(Extends.follow inside label owner).enters_here inside, Graph.meets_congr]
  rw [Graph.stmtsAt_follow, if_neg (Nat.ne_of_lt inside)]

theorem next_loopFrame (inside : here < graph.size) :
    (loopFrame graph here startLabel finalLabel).next graph.size = [] := by
  rw [Graph.next_add, Graph.next_follow_size inside]

theorem passes_loopFrame (ready : Ready pred targets graph here) :
    Passes pred (loopFrame graph here startLabel finalLabel) graph.size ↔
      Passes pred graph here := by
  rw [passes_add pred (by simp), passes_follow pred ready.linked ready.hereInside]
  simp

theorem Extends.loopFrame (inside : here < graph.size) :
    Extends pred (fun _ => False) here graph (loopFrame graph here startLabel finalLabel) := by
  refine ((Extends.follow inside startLabel none).trans (Extends.add pred _ (some finalLabel) here)
    (.inl rfl) (passes_follow_self inside startLabel none).mp).weaken fun _ _ opened => ?_
  exact opened.elim id And.left

/-- Nothing is entered at the join before the body is built. -/
theorem not_enters_loopFrame (ready : Ready pred targets graph here) :
    ¬Enters pred (loopFrame graph here startLabel finalLabel) (graph.size + 1) := by
  rw [enters_add, enters_follow ready.hereInside]
  rintro (entered | ⟨_, same⟩)
  · have := entered.lt_size ready.linked
    omega
  · omega

/-- The body changes nothing for the nodes before the loop. -/
theorem Joins.loopBody (ready : Ready pred targets graph here)
    (body : Joins pred ⟨some (graph.size + 1), some graph.size⟩ graph.size (graph.size + 1) ways
      (loopFrame graph here startLabel finalLabel) middle) :
    Extends pred (fun _ => False) here graph middle := by
  refine ((Extends.loopFrame ready.hereInside).trans body.extension (.inr (Nat.le_refl _))
    (passes_loopFrame ready).mp).weaken fun number old opened => ?_
  rcases opened with impossible | ⟨exit | ⟨isJoin, _⟩, _⟩
  · exact impossible
  · have isJoin := Option.some.inj exit
    omega
  · omega

/-- The head of a loop is passed whatever the body does. -/
theorem Joins.passes_loopHead (ready : Ready pred targets graph here)
    (body : Joins pred ⟨some (graph.size + 1), some graph.size⟩ graph.size (graph.size + 1) ways
      (loopFrame graph here startLabel finalLabel) middle) :
    Passes pred middle here ↔ Passes pred graph here := by
  have inside := ready.hereInside
  have hereStmts : middle.stmtsAt here = graph.stmtsAt here := by
    rw [body.extension.stmtsAt here (by rw [size_loopFrame]; omega) (by omega), Graph.stmtsAt_add,
      if_neg (by rw [Graph.size_follow]; omega), Graph.stmtsAt_follow, if_neg (by omega)]
  unfold Passes
  rw [(body.loopBody ready).enters_here inside, Graph.meets_congr hereStmts]

/-- A branch without statements passes the body by. -/
theorem Adds.looping (ready : Ready pred targets graph here) (linked : Linked middle)
    (body : Joins pred ⟨some (graph.size + 1), some graph.size⟩ graph.size (graph.size + 1) ways
      (loopFrame graph here startLabel finalLabel) middle)
    (bypass : Sides pred targets here (graph.size + 1) .passing middle grown) :
    Adds pred targets here ⟨true, ways.ends⟩ graph (grown, some (graph.size + 1)) := by
  have inside := ready.hereInside
  have larger : graph.size + 2 ≤ middle.size := by
    simpa only [size_loopFrame] using body.extension.size_le
  have startPassed : Passes pred (loopFrame graph here startLabel finalLabel) graph.size ↔
      Passes pred graph here := passes_loopFrame ready
  have herePassed := body.passes_loopHead ready
  have hereNext : graph.size ∈ grown.next here := by
    apply bypass.hereNext
    rw [body.extension.next here (by rw [size_loopFrame]; omega) (by omega), Graph.next_add,
      Graph.mem_next_follow inside]
    exact .inr ⟨rfl, rfl⟩
  have joinNext : grown.next (graph.size + 1) = [] := by
    rw [bypass.extension.next _ (by omega) (by omega),
      body.extension.next _ (by simp) (by omega), Graph.next_add,
      Graph.next_of_size_le (by simp)]
  have joinStmts : grown.stmtsAt (graph.size + 1) = [] := by
    rw [bypass.extension.stmtsAt _ (by omega) (by omega),
      body.extension.stmtsAt _ (by simp) (by omega), Graph.stmtsAt_add, if_pos (by simp)]
    rfl
  constructor
  · refine ((body.loopBody ready).trans bypass.extension (.inl rfl) herePassed.mp).weaken
      fun number old opened => ?_
    rcases opened with impossible | ⟨exit | ⟨isJoin, _⟩, _⟩
    · exact absurd impossible id
    · exact exit
    · omega
  · rintro number ⟨⟩
    refine ⟨.inr (by omega), joinNext, ?_⟩
    constructor
    · intro passed
      refine ⟨?_, rfl⟩
      rcases bypass.extension.entered _ (by omega) passed.1 with before | ⟨byHere, _⟩
      · rcases body.extension.entered _ (by simp) before with initial | ⟨byStart, _⟩
        · exact absurd initial (not_enters_loopFrame ready)
        · exact startPassed.mp byStart
      · exact herePassed.mp byHere
    · rintro ⟨passed, _⟩
      exact ⟨bypass.joined (herePassed.mpr passed) rfl, by simp [Graph.meets, joinStmts]⟩
  · simp
  · rw [← startPassed, ← body.stops]
    -- Between the frame and the bypass only the body can end the routine.
    have same : ∀ number < middle.size, graph.size ≤ number → number ≠ graph.size + 1 →
        (Stops pred grown number ↔ Stops pred middle number) := by
      intro number old new other
      refine bypass.extension.stops_iff old (by omega) ?_
      rintro (exit | ⟨isJoin, _⟩)
      · have := ready.exit_lt exit
        omega
      · exact other isJoin
    have bypassEnds : ¬∃ number, middle.size ≤ number ∧ Stops pred grown number := by
      rw [bypass.stops]
      simp [Ways.passing]
    constructor
    · rintro ⟨number, rfl | new, other, stopped⟩
      · simp [stopped.2] at hereNext
      · have notJoin : number ≠ graph.size + 1 := fun isJoin => other (by rw [isJoin])
        have old : number < middle.size :=
          Nat.lt_of_not_le fun late => bypassEnds ⟨number, late, stopped⟩
        refine ⟨number, ?_, (same number old new notJoin).mp stopped⟩
        rw [size_loopFrame]
        omega
    · rintro ⟨number, new, stopped⟩
      rw [size_loopFrame] at new
      have old := stopped.1.1.lt_size linked
      refine ⟨number, .inr (by omega), ?_, (same number old (by omega) (by omega)).mpr stopped⟩
      simp only [ne_eq, Option.some.injEq]
      omega

end Looping

end PlcLint.Flow
