import PlcLint.Proofs.Flow.Entering
import PlcLint.Proofs.Flow.Ways

/-!
What adding code to a graph does to the nodes that are entered without meeting a satisfying
statement. `Extends` is the frame condition: nothing changes for old nodes except where the new
code leads. `Adds` says that statements behind a node open exactly the ways out that their syntax
has; it composes as statements do.
-/

namespace PlcLint.Flow

variable {pred : Stmt → Bool} {targets : LoopTargets} {graph middle grown : Graph}
  {here final : Nat} {ways : Ways}

/-- Code was added behind `here`. Old nodes other than `here` keep statements and successors, and
of the old nodes only those in `opened` can be entered anew, by way of `here`. -/
structure Extends (pred : Stmt → Bool) (opened : Nat → Prop) (here : Nat) (graph grown : Graph) :
    Prop where
  size_le : graph.size ≤ grown.size
  stmtsAt : ∀ number < graph.size, number ≠ here →
    grown.stmtsAt number = graph.stmtsAt number
  next : ∀ number < graph.size, number ≠ here → grown.next number = graph.next number
  kept : ∀ number, Enters pred graph number → Enters pred grown number
  entered : ∀ number < graph.size, Enters pred grown number →
    Enters pred graph number ∨ (Passes pred graph here ∧ opened number)

namespace Extends

variable {opened openedFirst openedLast : Nat → Prop} {number : Nat}

theorem refl (graph : Graph) (here : Nat) : Extends pred opened here graph graph :=
  ⟨Nat.le_refl _, fun _ _ _ => rfl, fun _ _ _ => rfl, fun _ entered => entered,
    fun _ _ entered => .inl entered⟩

theorem weaken (extension : Extends pred opened here graph grown)
    (included : ∀ number < graph.size, opened number → openedLast number) :
    Extends pred openedLast here graph grown := by
  refine { extension with entered := ?_ }
  intro number old entered
  rcases extension.entered number old entered with before | ⟨passed, isOpened⟩
  · exact .inl before
  · exact .inr ⟨passed, included number old isOpened⟩

/-- More code, behind `here` again or behind a new node that is passed only by way of `here`. -/
theorem trans {later : Nat} (first : Extends pred openedFirst here graph middle)
    (last : Extends pred openedLast later middle grown)
    (laterNew : later = here ∨ graph.size ≤ later)
    (byWay : Passes pred middle later → Passes pred graph here) :
    Extends pred (fun number => openedFirst number ∨
      (openedLast number ∧ Passes pred middle later)) here graph grown := by
  have firstSize := first.size_le
  constructor
  · exact Nat.le_trans first.size_le last.size_le
  · intro number old other
    rw [last.stmtsAt number (by omega) (by omega), first.stmtsAt number old other]
  · intro number old other
    rw [last.next number (by omega) (by omega), first.next number old other]
  · exact fun number entered => last.kept number (first.kept number entered)
  · intro number old entered
    rcases last.entered number (by omega) entered with before | ⟨passed, isOpened⟩
    · rcases first.entered number old before with initial | ⟨passed, isOpened⟩
      · exact .inl initial
      · exact .inr ⟨passed, .inl isOpened⟩
    · exact .inr ⟨byWay passed, .inr ⟨isOpened, passed⟩⟩

theorem enters_here (extension : Extends pred opened here graph grown)
    (inside : here < graph.size) : Enters pred grown here ↔ Enters pred graph here := by
  constructor
  · intro entered
    rcases extension.entered here inside entered with before | ⟨passed, _⟩
    · exact before
    · exact passed.1
  · exact extension.kept here

/-- Nothing changes for an old node that is neither `here` nor opened. -/
theorem passes_iff (extension : Extends pred opened here graph grown)
    (old : number < graph.size) (other : number ≠ here) (closed : ¬opened number) :
    Passes pred grown number ↔ Passes pred graph number := by
  unfold Passes
  rw [Graph.meets_congr (extension.stmtsAt number old other)]
  refine and_congr ⟨?_, extension.kept number⟩ Iff.rfl
  intro entered
  rcases extension.entered number old entered with before | ⟨_, isOpened⟩
  · exact before
  · exact absurd isOpened closed

theorem stops_iff (extension : Extends pred opened here graph grown)
    (old : number < graph.size) (other : number ≠ here) (closed : ¬opened number) :
    Stops pred grown number ↔ Stops pred graph number := by
  unfold Stops
  rw [extension.passes_iff old other closed, extension.next number old other]

theorem add (pred : Stmt → Bool) (graph : Graph) (label : Option String) (here : Nat) :
    Extends pred (fun _ => False) here graph (graph.add { label := label }) := by
  constructor
  · simp
  · intro number old _
    rw [Graph.stmtsAt_add, if_neg (Nat.ne_of_lt old)]
  · simp
  · exact fun number => (enters_add label none).mpr
  · exact fun number _ entered => .inl ((enters_add label none).mp entered)

theorem follow (inside : here < graph.size) (label : String) (owner : Option Stmt) :
    Extends pred (fun _ => False) here graph (graph.follow here label owner) := by
  constructor
  · simp
  · intro number old _
    rw [Graph.stmtsAt_follow, if_neg (Nat.ne_of_lt old)]
  · exact fun number _ other => Graph.next_follow_of_ne other label owner
  · exact fun number entered => (enters_follow inside label owner).mpr (.inl entered)
  · intro number old entered
    rcases (enters_follow inside label owner).mp entered with before | ⟨_, rfl⟩
    · exact .inl before
    · exact absurd old (Nat.lt_irrefl _)

theorem append (final : graph.next here = []) (stmt : Stmt) :
    Extends pred opened here graph (graph.append here stmt) := by
  constructor
  · simp
  · exact fun number _ other => Graph.stmtsAt_append_of_ne other stmt
  · simp
  · exact fun number => (enters_append final stmt).mpr
  · exact fun number _ entered => .inl ((enters_append final stmt).mp entered)

/-- An edge to a node without successors opens that node. -/
theorem link (pred : Stmt → Bool) {target : Nat} (inside : here < graph.size)
    (final : graph.next target = []) :
    Extends pred (fun number => number = target) here graph (graph.link here target) := by
  constructor
  · simp
  · simp
  · exact fun number _ other => Graph.next_link_of_ne other
  · exact fun number entered => (enters_link_final inside final).mpr (.inl entered)
  · exact fun number _ entered => (enters_link_final inside final).mp entered

/-- An edge back to a node that is entered already opens nothing. -/
theorem linkBack {target : Nat} (inside : here < graph.size)
    (again : Passes pred graph here → Enters pred graph target) :
    Extends pred opened here graph (graph.link here target) := by
  constructor
  · simp
  · simp
  · exact fun number _ other => Graph.next_link_of_ne other
  · exact fun number => (enters_link_back inside again).mpr
  · exact fun number _ entered => .inl ((enters_link_back inside again).mp entered)

end Extends

theorem passes_append (pred : Stmt → Bool) (inside : here < graph.size)
    (final : graph.next here = []) (stmt : Stmt) :
    Passes pred (graph.append here stmt) here ↔ Passes pred graph here ∧ pred stmt = false := by
  unfold Passes Graph.meets
  rw [enters_append final, Graph.stmtsAt_append_self inside, and_assoc]
  simp

/-- The new node behind `here` is passed if `here` is and its owner does not satisfy. -/
theorem passes_follow (pred : Stmt → Bool) (linked : Linked graph) (inside : here < graph.size)
    (label : String) (owner : Option Stmt) :
    Passes pred (graph.follow here label owner) graph.size ↔
      Passes pred graph here ∧ owner.any pred = false := by
  unfold Passes
  rw [enters_follow inside, Graph.meets, Graph.stmtsAt_follow, if_pos rfl]
  have fresh : ¬Enters pred graph graph.size := not_enters_size linked
  have same : owner.toList.any pred = owner.any pred := by cases owner <;> simp
  simp only [fresh, and_true, false_or, same, Passes]

/-- The conditions under which code can be added behind `here`: the target of `EXIT` has no
successor yet, and the target of `CONTINUE` is entered if `here` is passed. -/
structure Ready (pred : Stmt → Bool) (targets : LoopTargets) (graph : Graph) (here : Nat) :
    Prop where
  linked : Linked graph
  inside : targets.Inside graph
  hereInside : here < graph.size
  exitOpen : ∀ target, targets.onExit = some target → target ≠ here ∧ graph.next target = []
  continueEntered : ∀ target, targets.onContinue = some target →
    Passes pred graph here → Enters pred graph target

namespace Ready

theorem exit_lt {target : Nat} (ready : Ready pred targets graph here)
    (exit : targets.onExit = some target) : target < graph.size :=
  (ready.inside target (.inl exit)).2

/-- Code was added, and more can be added behind a node that is passed only by way of `here`. -/
theorem extend {opened : Nat → Prop} {later : Nat} (ready : Ready pred targets graph here)
    (extension : Extends pred opened here graph grown) (growth : Grows graph grown)
    (laterInside : later < grown.size) (laterNew : later = here ∨ graph.size ≤ later)
    (byWay : Passes pred grown later → Passes pred graph here) :
    Ready pred targets grown later := by
  refine ⟨growth.linked ready.linked, ready.inside.grow growth, laterInside, ?_, ?_⟩
  · intro target exit
    have old := ready.exit_lt exit
    obtain ⟨other, final⟩ := ready.exitOpen target exit
    refine ⟨by omega, ?_⟩
    rw [extension.next target old other, final]
  · intro target again passed
    exact extension.kept target (ready.continueEntered target again (byWay passed))

end Ready

/-- Statements were added behind `here`, and the code reached so far now ends at `front.2`. -/
structure Adds (pred : Stmt → Bool) (targets : LoopTargets) (here : Nat) (ways : Ways)
    (graph : Graph) (front : Front) : Prop where
  extension : Extends pred (fun number => targets.onExit = some number) here graph front.1
  reached : ∀ number, front.2 = some number → (number = here ∨ graph.size ≤ number) ∧
    front.1.next number = [] ∧
    (Passes pred front.1 number ↔ Passes pred graph here ∧ ways.through = true)
  unreached : front.2 = none → ways.through = false
  stops : (∃ number, (number = here ∨ graph.size ≤ number) ∧ front.2 ≠ some number ∧
    Stops pred front.1 number) ↔ Passes pred graph here ∧ ways.ends = true

namespace Adds

variable {first second : Ways} {reached : Option Nat} {front : Front}

theorem nil (linked : Linked graph) (final : graph.next here = []) :
    Adds pred targets here .passing graph (graph, some here) := by
  refine ⟨.refl graph here, ?_, by simp, ?_⟩
  · rintro number ⟨⟩
    exact ⟨.inl rfl, final, by simp [Ways.passing]⟩
  · constructor
    · rintro ⟨number, rfl | fresh, other, stopped⟩
      · exact absurd rfl other
      · exact absurd (stopped.1.1.lt_size linked) (Nat.not_lt.mpr fresh)
    · simp [Ways.passing]

/-- Further statements behind the end of the first ones. -/
theorem andThen {number : Nat} (linked : Linked middle)
    (exitOld : ∀ target, targets.onExit = some target → target < graph.size ∧ target ≠ here)
    (firstAdded : Adds pred targets here first graph (middle, some number))
    (secondAdded : Adds pred targets number second middle front) :
    Adds pred targets here (first.andThen second) graph front := by
  obtain ⟨numberNew, _, numberPassed⟩ := firstAdded.reached number rfl
  have firstSize := firstAdded.extension.size_le
  dsimp only at numberPassed firstSize
  constructor
  · exact (firstAdded.extension.trans secondAdded.extension numberNew
      fun passed => (numberPassed.mp passed).1).weaken fun _ _ opened => opened.elim id And.left
  · intro final isFinal
    obtain ⟨finalNew, noEdge, finalPassed⟩ := secondAdded.reached final isFinal
    refine ⟨by omega, noEdge, ?_⟩
    rw [finalPassed, numberPassed, and_assoc]
    simp [Ways.andThen]
  · intro isNone
    simp [Ways.andThen, secondAdded.unreached isNone]
  · have split : (∃ candidate, (candidate = here ∨ graph.size ≤ candidate) ∧
        front.2 ≠ some candidate ∧ Stops pred front.1 candidate) ↔
        (∃ candidate, (candidate = here ∨ graph.size ≤ candidate) ∧
          some number ≠ some candidate ∧ Stops pred middle candidate) ∨
        (∃ candidate, (candidate = number ∨ middle.size ≤ candidate) ∧
          front.2 ≠ some candidate ∧ Stops pred front.1 candidate) := by
      have same : ∀ candidate < middle.size, candidate ≠ number →
          (candidate = here ∨ graph.size ≤ candidate) →
          (Stops pred front.1 candidate ↔ Stops pred middle candidate) := by
        intro candidate old other new
        refine secondAdded.extension.stops_iff old other fun exit => ?_
        have := exitOld candidate exit
        omega
      constructor
      · rintro ⟨candidate, new, notFront, stopped⟩
        by_cases late : candidate = number ∨ middle.size ≤ candidate
        · exact .inr ⟨candidate, late, notFront, stopped⟩
        · have early : candidate < middle.size ∧ candidate ≠ number := by omega
          exact .inl ⟨candidate, new, by simpa using Ne.symm early.2,
            (same candidate early.1 early.2 new).mp stopped⟩
      · rintro (⟨candidate, new, other, stopped⟩ | ⟨candidate, late, notFront, stopped⟩)
        · have old := stopped.1.1.lt_size linked
          have different : candidate ≠ number := fun isNumber => other (by rw [isNumber])
          refine ⟨candidate, new, ?_, (same candidate old different new).mpr stopped⟩
          intro isFront
          have := (secondAdded.reached candidate isFront).1
          omega
        · exact ⟨candidate, by omega, notFront, stopped⟩
    rw [split, firstAdded.stops, secondAdded.stops, numberPassed, and_assoc, ← and_or_left]
    simp [Ways.andThen]

theorem action (ready : Ready pred targets graph here) (final : graph.next here = [])
    (stmt : Stmt) :
    Adds pred targets here (Ways.passing.onlyIf (!pred stmt)) graph
      (graph.append here stmt, some here) := by
  have linked : Linked (graph.append here stmt) :=
    Edit.linked ready.linked (.append ready.hereInside stmt)
  refine ⟨.append final stmt, ?_, by simp, ?_⟩
  · rintro number ⟨⟩
    refine ⟨.inl rfl, by simpa using final, ?_⟩
    rw [passes_append pred ready.hereInside final]
    simp [Ways.onlyIf, Ways.passing]
  · constructor
    · rintro ⟨number, rfl | fresh, other, stopped⟩
      · exact absurd rfl other
      · have := stopped.1.1.lt_size linked
        rw [Graph.size_append] at this
        omega
    · simp [Ways.onlyIf, Ways.passing]

theorem returning (ready : Ready pred targets graph here) (final : graph.next here = [])
    (stmt : Stmt) :
    Adds pred targets here (Ways.ending.onlyIf (!pred stmt)) graph
      (graph.append here stmt, none) := by
  have linked : Linked (graph.append here stmt) :=
    Edit.linked ready.linked (.append ready.hereInside stmt)
  refine ⟨.append final stmt, by simp, by simp [Ways.onlyIf, Ways.ending], ?_⟩
  have passed := passes_append pred ready.hereInside final stmt
  constructor
  · rintro ⟨number, rfl | fresh, _, stopped⟩
    · simpa [Ways.onlyIf, Ways.ending] using passed.mp stopped.1
    · have := stopped.1.1.lt_size linked
      rw [Graph.size_append] at this
      omega
  · intro condition
    refine ⟨here, .inl rfl, by simp, passed.mpr ?_, by simpa using final⟩
    simpa [Ways.onlyIf, Ways.ending] using condition

/-- A statement that hands control over to another node leaves no way out here. -/
theorem leaving {target : Nat} (ready : Ready pred targets graph here)
    (final : graph.next here = []) (stmt : Stmt) (targetInside : target < graph.size)
    (notStart : 0 < target)
    (extension : Extends pred (fun number => targets.onExit = some number) here
      (graph.append here stmt) ((graph.append here stmt).link here target)) :
    Adds pred targets here .shut graph ((graph.append here stmt).link here target, none) := by
  have linked := (Grows.leave ready.hereInside targetInside notStart stmt).linked ready.linked
  have byWay : Passes pred (graph.append here stmt) here → Passes pred graph here := fun passed =>
    ((passes_append pred ready.hereInside final stmt).mp passed).1
  refine ⟨((Extends.append final stmt).trans extension (.inl rfl) byWay).weaken
    fun _ _ opened => opened.elim id And.left, by simp, by simp [Ways.shut], ?_⟩
  constructor
  · rintro ⟨number, rfl | fresh, _, stopped⟩
    · have edge : target ∈ ((graph.append number stmt).link number target).next number :=
        (Graph.mem_next_link (by simpa using ready.hereInside)).mpr (.inr ⟨rfl, rfl⟩)
      have nothing := stopped.2
      dsimp only at nothing
      simp [nothing] at edge
    · have := stopped.1.1.lt_size linked
      rw [Graph.size_link, Graph.size_append] at this
      omega
  · simp [Ways.shut]

/-- What follows code whose end is not reached is left out. -/
theorem halt (added : Adds pred targets here first graph (middle, none)) (second : Ways) :
    Adds pred targets here (first.andThen second) graph (middle, none) := by
  have shut := added.unreached rfl
  refine ⟨added.extension, by simp, fun _ => by simp [Ways.andThen, shut], ?_⟩
  rw [added.stops]
  simp [Ways.andThen, shut]

end Adds

end PlcLint.Flow
