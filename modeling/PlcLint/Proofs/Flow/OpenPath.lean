import Mathlib.Data.List.Chain
import Mathlib.Data.List.Nodup
import Mathlib.Data.List.Perm.Subperm
import Mathlib.Logic.Relation
import PlcLint.Flow.Search

/-!
The search for an open path, along any edges and for any test that stops it. It always comes to
an answer; a path that it gives is open, and if it gives none then none exists. The invariant
`Searching` says what holds each time a pending node is taken. Nothing of this depends on which
pending node is taken, nor on the order of the edges, so the search is studied for any choice.
-/

namespace PlcLint

theorem Walk.anyOf_ok {α : Type} (test : α → Bool) (items : List α) :
    Walk.anyOf (fun item => .ok (test item)) items = .ok (items.any test) := by
  induction items with
  | nil => rfl
  | cons item rest inductionHypothesis =>
      rw [Walk.anyOf, inductionHypothesis]
      cases holds : test item <;> simp [holds, bind, Except.bind, pure, Except.pure]

end PlcLint

namespace PlcLint.Flow

/-- An order for the items of a collection, chosen anew in each step. -/
structure Order (α : Type) where
  arrange : Nat → List α → List α
  perm : ∀ step items, (arrange step items).Perm items

def Order.asGiven {α : Type} : Order α := ⟨fun _ items => items, fun _ _ => .refl _⟩

/-- Which of the pending items is taken next, and in which order the edges of a node are gone
through. -/
structure Schedule (α : Type) where
  choice : Order α
  spread : Order Nat

def Schedule.asGiven {α : Type} : Schedule α := ⟨.asGiven, .asGiven⟩

/-- The search as a schedule has it. The fuel that is left tells the step. -/
def openPathBy (schedule : Schedule (Nat × List Nat)) (stops : Nat → Except Fault Bool)
    (edges : Nat → List Nat) :
    Nat → Pending → List Nat → Except Fault (Option (List Nat))
  | 0, _, _ => .ok none
  | fuel + 1, pending, taken =>
    match schedule.choice.arrange fuel pending with
    | [] => .ok none
    | (number, path) :: rest => do
      if ← stops number then openPathBy schedule stops edges fuel rest (number :: taken)
      else if (edges number).isEmpty then return some (number :: path)
      else
        openPathBy schedule stops edges fuel
          (Pending.putNew rest (number :: taken) (schedule.spread.arrange fuel (edges number))
            (number :: path))
          (number :: taken)

/-- The search takes the newest pending node, and edges as they were added. -/
theorem openPath_eq_openPathBy (stops : Nat → Except Fault Bool) (edges : Nat → List Nat)
    (fuel : Nat) (pending : Pending) (taken : List Nat) :
    openPath stops edges fuel pending taken =
      openPathBy .asGiven stops edges fuel pending taken := by
  induction fuel generalizing pending taken with
  | zero => rfl
  | succ fuel inductionHypothesis =>
      cases pending with
      | nil => rfl
      | cons entry pending =>
          simp only [openPath, openPathBy, Schedule.asGiven, Order.asGiven, inductionHypothesis]

section Steps

variable (blocked : Nat → Bool) (edges : Nat → List Nat)

/-- An edge that leaves a node at which the search goes on. -/
def OpenStep (source target : Nat) : Prop := blocked source = false ∧ target ∈ edges source

/-- The nodes passed on the way from `start` to a node, newest first. -/
inductive Trail (start : Nat) : Nat → List Nat → Prop
  | start : Trail start start []
  | step {source target : Nat} {path : List Nat} (trail : Trail start source path)
      (move : OpenStep blocked edges source target) : Trail start target (source :: path)

end Steps

variable {blocked : Nat → Bool} {edges : Nat → List Nat} {start size : Nat}

namespace Trail

variable {number : Nat} {path : List Nat}

theorem isChain (trail : Trail blocked edges start number path) :
    (number :: path).IsChain fun later earlier => later ∈ edges earlier := by
  induction trail with
  | start => exact .singleton _
  | step _ move inductionHypothesis => exact .cons_cons move.2 inductionHypothesis

theorem getLast? (trail : Trail blocked edges start number path) :
    (number :: path).getLast? = some start := by
  induction trail with
  | start => rfl
  | step _ _ inductionHypothesis => simpa using inductionHypothesis

theorem unblocked (trail : Trail blocked edges start number path) :
    ∀ passed ∈ path, blocked passed = false := by
  induction trail with
  | start => simp
  | step _ move inductionHypothesis =>
      intro passed membership
      rcases List.mem_cons.mp membership with rfl | older
      · exact move.1
      · exact inductionHypothesis passed older

theorem reaches (trail : Trail blocked edges start number path) :
    Relation.ReflTransGen (OpenStep blocked edges) start number := by
  induction trail with
  | start => exact .refl
  | step _ move inductionHypothesis => exact inductionHypothesis.tail move

end Trail

namespace Pending

def numbers (pending : Pending) : List Nat := pending.map Prod.fst

theorem numbers_put (pending : Pending) (number : Nat) (path : List Nat) :
    (pending.put number path).numbers =
      if number ∈ pending.numbers then pending.numbers else number :: pending.numbers := by
  have known : pending.any (·.1 == number) = true ↔ number ∈ pending.numbers := by
    simp [numbers]
  unfold put
  by_cases present : number ∈ pending.numbers
  · rw [if_pos (known.mpr present), if_pos present]
    simp only [numbers, List.map_map]
    apply List.map_congr_left
    rintro ⟨other, old⟩ _
    by_cases same : other = number <;> simp [same]
  · rw [if_neg (mt known.mp present), if_neg present]
    rfl

theorem mem_put {pending : Pending} {number : Nat} {path : List Nat} {entry : Nat × List Nat}
    (membership : entry ∈ pending.put number path) :
    entry ∈ pending ∨ entry = (number, path) := by
  unfold put at membership
  split at membership
  · obtain ⟨old, oldMembership, rfl⟩ := List.mem_map.mp membership
    split
    · exact .inr rfl
    · exact .inl oldMembership
  · rcases List.mem_cons.mp membership with same | old
    · exact .inr same
    · exact .inl old

section PutNew

variable (taken path : List Nat)

theorem putNew_cons (pending : Pending) (number : Nat) (rest : List Nat) :
    pending.putNew taken (number :: rest) path =
      putNew (if number ∈ taken then pending else pending.put number path) taken rest path := by
  simp [putNew]

variable {taken path}

theorem mem_numbers_putNew {pending : Pending} {numbers : List Nat} {candidate : Nat} :
    candidate ∈ (pending.putNew taken numbers path).numbers ↔
      candidate ∈ pending.numbers ∨ (candidate ∈ numbers ∧ candidate ∉ taken) := by
  induction numbers generalizing pending with
  | nil => simp [putNew]
  | cons number rest inductionHypothesis =>
      rw [putNew_cons, inductionHypothesis]
      by_cases old : number ∈ taken
      · rw [if_pos old]
        grind
      · rw [if_neg old, numbers_put]
        grind

theorem mem_putNew {pending : Pending} {numbers : List Nat} {entry : Nat × List Nat}
    (membership : entry ∈ pending.putNew taken numbers path) :
    entry ∈ pending ∨ (entry.1 ∈ numbers ∧ entry.2 = path) := by
  induction numbers generalizing pending with
  | nil => exact .inl membership
  | cons number rest inductionHypothesis =>
      rw [putNew_cons] at membership
      rcases inductionHypothesis membership with earlier | ⟨inRest, samePath⟩
      · split at earlier
        · exact .inl earlier
        · rcases mem_put earlier with old | rfl
          · exact .inl old
          · exact .inr ⟨by simp, rfl⟩
      · exact .inr ⟨List.mem_cons_of_mem _ inRest, samePath⟩

theorem nodup_numbers_putNew {pending : Pending} {numbers : List Nat}
    (distinct : pending.numbers.Nodup) : (pending.putNew taken numbers path).numbers.Nodup := by
  induction numbers generalizing pending with
  | nil => exact distinct
  | cons number rest inductionHypothesis =>
      rw [putNew_cons]
      apply inductionHypothesis
      split
      · exact distinct
      · rw [numbers_put]
        split
        · exact distinct
        · next absent => exact List.nodup_cons.mpr ⟨absent, distinct⟩

end PutNew

end Pending

/-- What holds each time the search takes a node: pending nodes have trails of distinct taken nodes,
nodes are known once, and every edge of a taken node at which the search went on leads to a known
node. -/
structure Searching (blocked : Nat → Bool) (edges : Nat → List Nat) (start size : Nat)
    (pending : Pending) (taken : List Nat) : Prop where
  trails : ∀ entry ∈ pending, Trail blocked edges start entry.1 entry.2
  simple : ∀ entry ∈ pending, entry.2.Nodup ∧ entry.2 ⊆ taken
  bounded : ∀ number ∈ pending.numbers ++ taken, number < size
  distinct : (pending.numbers ++ taken).Nodup
  begun : start ∈ pending.numbers ++ taken
  closed : ∀ source ∈ taken, blocked source = false →
    edges source ≠ [] ∧ ∀ target ∈ edges source, target ∈ pending.numbers ++ taken

namespace Searching

variable {pending : Pending} {taken path : List Nat} {number : Nat}

theorem initial (inside : start < size) : Searching blocked edges start size [(start, [])] [] :=
  ⟨by simpa using .start, by simp, by simpa [Pending.numbers] using inside,
    by simp [Pending.numbers], by simp [Pending.numbers], by simp⟩

/-- The order of the pending nodes does not matter. -/
theorem rearrange {arranged : Pending} (same : arranged.Perm pending)
    (searching : Searching blocked edges start size pending taken) :
    Searching blocked edges start size arranged taken := by
  have known : (arranged.numbers ++ taken).Perm (pending.numbers ++ taken) :=
    (same.map Prod.fst).append_right taken
  refine ⟨fun entry inside => searching.trails entry (same.mem_iff.mp inside),
    fun entry inside => searching.simple entry (same.mem_iff.mp inside),
    fun number inside => searching.bounded number (known.mem_iff.mp inside),
    known.nodup_iff.mpr searching.distinct, known.mem_iff.mpr searching.begun, ?_⟩
  intro source isTaken goesOn
  obtain ⟨nonempty, leads⟩ := searching.closed source isTaken goesOn
  exact ⟨nonempty, fun target edge => known.mem_iff.mpr (leads target edge)⟩

/-- Taking a node only moves its number. -/
theorem mem_moved {candidate : Nat} :
    candidate ∈ Pending.numbers ((number, path) :: pending) ++ taken ↔
      candidate ∈ pending.numbers ++ (number :: taken) := by
  simp only [Pending.numbers, List.map_cons, List.cons_append, List.mem_cons, List.mem_append]
  exact or_left_comm

theorem nodup_moved (searching :
    Searching blocked edges start size ((number, path) :: pending) taken) :
    (pending.numbers ++ (number :: taken)).Nodup := by
  refine (List.Perm.nodup_iff ?_).mp searching.distinct
  exact List.perm_middle.symm

/-- The trail of the node that is taken, with the node, repeats no node. -/
theorem nodup_path (searching :
    Searching blocked edges start size ((number, path) :: pending) taken) :
    (number :: path).Nodup := by
  obtain ⟨distinct, passed⟩ := searching.simple (number, path) List.mem_cons_self
  have untaken : number ∉ taken :=
    (List.nodup_cons.mp (List.nodup_append.mp searching.nodup_moved).2.1).1
  exact List.nodup_cons.mpr ⟨fun again => untaken (passed again), distinct⟩

theorem skip (searching : Searching blocked edges start size ((number, path) :: pending) taken)
    (stopped : blocked number = true) :
    Searching blocked edges start size pending (number :: taken) := by
  refine ⟨fun entry membership => searching.trails entry (List.mem_cons_of_mem _ membership),
    fun entry membership =>
      (searching.simple entry (List.mem_cons_of_mem _ membership)).imp_right
        (List.subset_cons_of_subset _),
    fun candidate known => searching.bounded candidate (mem_moved.mpr known),
    searching.nodup_moved, mem_moved.mp searching.begun, ?_⟩
  intro source isTaken goesOn
  rcases List.mem_cons.mp isTaken with rfl | older
  · rw [stopped] at goesOn
    cases goesOn
  · obtain ⟨nonempty, known⟩ := searching.closed source older goesOn
    exact ⟨nonempty, fun target edge => mem_moved.mp (known target edge)⟩

theorem expand {targets : List Nat}
    (edgesBounded : ∀ source, ∀ target ∈ edges source, target < size)
    (searching : Searching blocked edges start size ((number, path) :: pending) taken)
    (goesOn : blocked number = false) (nonempty : edges number ≠ [])
    (same : targets.Perm (edges number)) :
    Searching blocked edges start size
      (pending.putNew (number :: taken) targets (number :: path)) (number :: taken) := by
  have moved := searching.nodup_moved
  have kept : ∀ candidate ∈ pending.numbers ++ (number :: taken),
      candidate ∈ (pending.putNew (number :: taken) targets (number :: path)).numbers ++
        (number :: taken) := by
    intro candidate known
    rw [List.mem_append, Pending.mem_numbers_putNew]
    rcases List.mem_append.mp known with waiting | isTaken
    · exact .inl (.inl waiting)
    · exact .inr isTaken
  constructor
  · intro entry membership
    rcases Pending.mem_putNew membership with old | ⟨edge, samePath⟩
    · exact searching.trails entry (List.mem_cons_of_mem _ old)
    · rw [samePath]
      exact .step (searching.trails (number, path) (by simp)) ⟨goesOn, same.mem_iff.mp edge⟩
  · intro entry membership
    rcases Pending.mem_putNew membership with old | ⟨_, samePath⟩
    · exact (searching.simple entry (List.mem_cons_of_mem _ old)).imp_right
        (List.subset_cons_of_subset _)
    · rw [samePath]
      exact ⟨searching.nodup_path, List.cons_subset_cons _
        (searching.simple (number, path) List.mem_cons_self).2⟩
  · intro candidate known
    rw [List.mem_append, Pending.mem_numbers_putNew] at known
    rcases known with (waiting | ⟨edge, _⟩) | isTaken
    · exact searching.bounded candidate (mem_moved.mpr (List.mem_append_left _ waiting))
    · exact edgesBounded number candidate (same.mem_iff.mp edge)
    · exact searching.bounded candidate (mem_moved.mpr (List.mem_append_right _ isTaken))
  · rw [List.nodup_append] at moved ⊢
    obtain ⟨waitingDistinct, takenDistinct, disjoint⟩ := moved
    refine ⟨Pending.nodup_numbers_putNew waitingDistinct, takenDistinct, ?_⟩
    intro candidate waiting other isTaken equal
    rcases Pending.mem_numbers_putNew.mp waiting with old | ⟨_, fresh⟩
    · exact disjoint candidate old other isTaken equal
    · exact fresh (equal ▸ isTaken)
  · exact kept start (mem_moved.mp searching.begun)
  · intro source isTaken sourceGoesOn
    rcases List.mem_cons.mp isTaken with rfl | older
    · refine ⟨nonempty, fun target edge => ?_⟩
      rw [List.mem_append, Pending.mem_numbers_putNew]
      by_cases known : target ∈ source :: taken
      · exact .inr known
      · exact .inl (.inr ⟨same.mem_iff.mpr edge, known⟩)
    · obtain ⟨sourceNonempty, known⟩ := searching.closed source older sourceGoesOn
      exact ⟨sourceNonempty, fun target edge => kept target (mem_moved.mp (known target edge))⟩

theorem length_le (searching : Searching blocked edges start size pending taken) :
    pending.length + taken.length ≤ size := by
  have included : pending.numbers ++ taken ⊆ List.range size := fun number known =>
    List.mem_range.mpr (searching.bounded number known)
  simpa [Pending.numbers] using (searching.distinct.subperm included).length_le

/-- When nothing is pending, every node on an open path is taken. -/
theorem mem_taken (searching : Searching blocked edges start size [] taken)
    (reached : Relation.ReflTransGen (OpenStep blocked edges) start number) : number ∈ taken := by
  induction reached with
  | refl => simpa [Pending.numbers] using searching.begun
  | tail _ move inductionHypothesis =>
      simpa [Pending.numbers] using (searching.closed _ inductionHypothesis move.1).2 _ move.2

/-- When nothing is pending, no open path leads to an open node without edges. -/
theorem reached_blocked_or_edges (searching : Searching blocked edges start size [] taken)
    (reached : Relation.ReflTransGen (OpenStep blocked edges) start number) :
    blocked number = true ∨ edges number ≠ [] := by
  cases stopped : blocked number with
  | true => exact .inl rfl
  | false => exact .inr (searching.closed number (searching.mem_taken reached) stopped).1

end Searching

/-- The right answers of a search from `start`: an open path to an open node without edges,
newest node first, or none if there is no such path. -/
def Answers (blocked : Nat → Bool) (edges : Nat → List Nat) (start : Nat) :
    Option (List Nat) → Prop
  | some path => ∃ number passed, path = number :: passed ∧
      Trail blocked edges start number passed ∧ blocked number = false ∧ edges number = []
  | none => ∀ number, Relation.ReflTransGen (OpenStep blocked edges) start number →
      blocked number = true ∨ edges number ≠ []

section Run

variable (schedule : Schedule (Nat × List Nat))

theorem openPathBy_nil {pending : Pending} {fuel : Nat}
    (nothing : schedule.choice.arrange fuel pending = []) (taken : List Nat) :
    openPathBy schedule (fun number => .ok (blocked number)) edges (fuel + 1) pending taken =
      .ok none := by
  rw [openPathBy, nothing]

theorem openPathBy_cons {pending rest : Pending} {fuel number : Nat} {path : List Nat}
    (first : schedule.choice.arrange fuel pending = (number, path) :: rest) (taken : List Nat) :
    openPathBy schedule (fun number => .ok (blocked number)) edges (fuel + 1) pending taken =
      if blocked number = true then
        openPathBy schedule (fun number => .ok (blocked number)) edges fuel rest
          (number :: taken)
      else if edges number = [] then .ok (some (number :: path))
      else openPathBy schedule (fun number => .ok (blocked number)) edges fuel
        (rest.putNew (number :: taken) (schedule.spread.arrange fuel (edges number))
          (number :: path))
        (number :: taken) := by
  rw [openPathBy, first]
  simp only [← List.isEmpty_iff]
  rfl

/-- The fuel counts the nodes that are not taken yet, so it lasts as long as nodes are pending. -/
theorem openPathBy_run (edgesBounded : ∀ source, ∀ target ∈ edges source, target < size)
    (fuel : Nat) {pending : Pending} {taken : List Nat}
    (searching : Searching blocked edges start size pending taken)
    (enough : size ≤ fuel + taken.length) :
    ∃ answer, openPathBy schedule (fun number => .ok (blocked number)) edges fuel pending
        taken = .ok answer ∧
      Answers blocked edges start answer ∧ ∀ path ∈ answer, path.Nodup := by
  induction fuel generalizing pending taken with
  | zero =>
      -- All nodes are taken, and no node is known twice.
      have nothing : pending = [] := by
        apply List.eq_nil_of_length_eq_zero
        have bound := searching.length_le
        omega
      subst nothing
      exact ⟨none, rfl, fun number => searching.reached_blocked_or_edges, nofun⟩
  | succ fuel inductionHypothesis =>
      have arranged := searching.rearrange (schedule.choice.perm fuel pending)
      cases first : schedule.choice.arrange fuel pending with
      | nil =>
          rw [first] at arranged
          exact ⟨none, openPathBy_nil schedule first taken,
            fun number => arranged.reached_blocked_or_edges, nofun⟩
      | cons entry rest =>
          obtain ⟨number, path⟩ := entry
          rw [first] at arranged
          rw [openPathBy_cons schedule first]
          have enoughAfter : size ≤ fuel + (number :: taken).length := by
            simp only [List.length_cons]
            omega
          cases stopped : blocked number with
          | true =>
              rw [if_pos rfl]
              exact inductionHypothesis (arranged.skip stopped) enoughAfter
          | false =>
              rw [if_neg Bool.false_ne_true]
              by_cases final : edges number = []
              · rw [if_pos final]
                refine ⟨some (number :: path), rfl, ⟨number, path, rfl, ?_, stopped, final⟩, ?_⟩
                · exact arranged.trails (number, path) List.mem_cons_self
                · rintro _ ⟨⟩
                  exact arranged.nodup_path
              · rw [if_neg final]
                exact inductionHypothesis (arranged.expand edgesBounded stopped final
                  (schedule.spread.perm fuel (edges number))) enoughAfter

/-- In any order the search comes to an answer, and the answer is right. -/
theorem openPathBy_answers (blocked : Nat → Bool)
    (edgesBounded : ∀ source, ∀ target ∈ edges source, target < size)
    (inside : start < size) :
    ∃ answer, openPathBy schedule (fun number => .ok (blocked number)) edges size
        [(start, [])] [] = .ok answer ∧
      Answers blocked edges start answer ∧ ∀ path ∈ answer, path.Nodup :=
  openPathBy_run schedule edgesBounded size (.initial inside) (by simp)

end Run

/-- The search comes to an answer, and the answer is right. -/
theorem openPath_answers (blocked : Nat → Bool)
    (edgesBounded : ∀ source, ∀ target ∈ edges source, target < size)
    (inside : start < size) :
    ∃ answer, openPath (fun number => .ok (blocked number)) edges size [(start, [])] [] =
      .ok answer ∧ Answers blocked edges start answer := by
  obtain ⟨answer, searched, right, _⟩ :=
    openPathBy_answers .asGiven blocked edgesBounded inside
  exact ⟨answer, (openPath_eq_openPathBy _ _ _ _ _).trans searched, right⟩

theorem Answers.isSome_iff {answer : Option (List Nat)}
    (right : Answers blocked edges start answer) :
    answer.isSome = true ↔ ∃ number, Relation.ReflTransGen (OpenStep blocked edges) start number ∧
      blocked number = false ∧ edges number = [] := by
  cases answer with
  | none =>
      simp only [Option.isSome_none, Bool.false_eq_true, false_iff]
      rintro ⟨number, reached, goesOn, final⟩
      rcases right number reached with stopped | nonempty
      · rw [goesOn] at stopped
        cases stopped
      · exact nonempty final
  | some path =>
      obtain ⟨number, passed, _, trail, goesOn, final⟩ := right
      exact ⟨fun _ => ⟨number, trail.reaches, goesOn, final⟩, fun _ => rfl⟩

end PlcLint.Flow
