import PlcLint.Proofs.Flow.Growth
import PlcLint.Proofs.Flow.OpenPath

/-!
Nodes that are entered from the start along nodes on which a predicate holds nowhere, and how
single edits of a graph change which nodes are entered.
-/

namespace PlcLint.Flow

open Relation

/-- A statement of the node satisfies the predicate. -/
def Graph.meets (graph : Graph) (pred : Stmt → Bool) (number : Nat) : Bool :=
  (graph.stmtsAt number).any pred

theorem Graph.satisfies_ok (graph : Graph) (pred : Stmt → Bool) :
    graph.satisfies (fun stmt => .ok (pred stmt)) =
      fun number => .ok (graph.meets pred number) := by
  funext number
  exact Walk.anyOf_ok pred (graph.stmtsAt number)

variable (pred : Stmt → Bool)

abbrev Graph.MissStep (graph : Graph) : Nat → Nat → Prop :=
  OpenStep (graph.meets pred) graph.next

/-- Some path from the start leads to the node and meets no satisfying statement before it. -/
def Enters (graph : Graph) (number : Nat) : Prop := ReflTransGen (graph.MissStep pred) 0 number

/-- Such a path also meets none on the node itself. -/
def Passes (graph : Graph) (number : Nat) : Prop :=
  Enters pred graph number ∧ graph.meets pred number = false

/-- Such a path can go no further. -/
def Stops (graph : Graph) (number : Nat) : Prop :=
  Passes pred graph number ∧ graph.next number = []

variable {pred} {graph grown : Graph} {number : Nat}

theorem Graph.meets_congr (same : grown.stmtsAt number = graph.stmtsAt number) :
    grown.meets pred number = graph.meets pred number := by
  simp [Graph.meets, same]

theorem Enters.lt_size (linked : Linked graph) (entered : Enters pred graph number) :
    number < graph.size := by
  cases entered with
  | refl => exact linked.nonempty
  | tail _ move => exact linked.bounded _ _ move.2

theorem not_enters_size (linked : Linked graph) : ¬Enters pred graph graph.size := fun entered =>
  absurd (entered.lt_size linked) (Nat.lt_irrefl _)

/-- Statements on nodes without successors do not matter for what is entered. -/
theorem enters_congr (next : ∀ source, grown.next source = graph.next source)
    (stmtsAt : ∀ source, graph.next source ≠ [] → grown.stmtsAt source = graph.stmtsAt source) :
    Enters pred grown number ↔ Enters pred graph number := by
  have same : grown.MissStep pred = graph.MissStep pred := by
    funext source target
    apply propext
    unfold Graph.MissStep OpenStep
    rw [next]
    by_cases final : graph.next source = []
    · simp [final]
    · rw [Graph.meets_congr (stmtsAt source final)]
  simp [Enters, same]

theorem enters_add (label : Option String) (owner : Option Stmt) :
    Enters pred (graph.add { label := label, owner := owner }) number ↔
      Enters pred graph number := by
  apply enters_congr
  · simp
  · intro source nonempty
    rw [Graph.stmtsAt_add, if_neg]
    intro fresh
    exact nonempty (Graph.next_of_size_le (Nat.le_of_eq fresh.symm))

theorem passes_add (pred : Stmt → Bool) (inside : number < graph.size) (label : Option String)
    (owner : Option Stmt) :
    Passes pred (graph.add { label := label, owner := owner }) number ↔
      Passes pred graph number := by
  unfold Passes
  rw [enters_add, Graph.meets_congr]
  rw [Graph.stmtsAt_add, if_neg (Nat.ne_of_lt inside)]

theorem enters_append {here : Nat} (final : graph.next here = []) (stmt : Stmt) :
    Enters pred (graph.append here stmt) number ↔ Enters pred graph number := by
  apply enters_congr
  · simp
  · intro source nonempty
    apply Graph.stmtsAt_append_of_ne
    rintro rfl
    exact nonempty final

/-- A new edge lets in what can be reached behind it, if its source is passed. -/
theorem enters_link {source target : Nat} (inside : source < graph.size) :
    Enters pred (graph.link source target) number ↔ Enters pred graph number ∨
      (Passes pred graph source ∧ ReflTransGen (graph.MissStep pred) target number) := by
  have moves : ∀ first last, (graph.link source target).MissStep pred first last ↔
      graph.MissStep pred first last ∨
        (graph.meets pred first = false ∧ first = source ∧ last = target) := by
    intro first last
    unfold Graph.MissStep OpenStep
    rw [Graph.mem_next_link inside, Graph.meets_congr (Graph.stmtsAt_link source target)]
    constructor
    · rintro ⟨missed, old | ⟨rfl, rfl⟩⟩
      · exact .inl ⟨missed, old⟩
      · exact .inr ⟨missed, rfl, rfl⟩
    · rintro (⟨missed, old⟩ | ⟨missed, rfl, rfl⟩)
      · exact ⟨missed, .inl old⟩
      · exact ⟨missed, .inr ⟨rfl, rfl⟩⟩
  constructor
  · -- A path over the new edge is cut at its last use of that edge.
    intro entered
    induction entered with
    | refl => exact .inl .refl
    | tail _ move inductionHypothesis =>
        rcases (moves _ _).mp move with old | ⟨missed, rfl, rfl⟩
        · rcases inductionHypothesis with entered | ⟨passed, behind⟩
          · exact .inl (entered.tail old)
          · exact .inr ⟨passed, behind.tail old⟩
        · rcases inductionHypothesis with entered | ⟨passed, _⟩
          · exact .inr ⟨⟨entered, missed⟩, .refl⟩
          · exact .inr ⟨passed, .refl⟩
  · have kept : ∀ first last, ReflTransGen (graph.MissStep pred) first last →
        ReflTransGen ((graph.link source target).MissStep pred) first last :=
      ReflTransGen.mono fun first last old => (moves first last).mpr (.inl old)
    rintro (entered | ⟨⟨entered, missed⟩, behind⟩)
    · exact kept 0 number entered
    · exact ((kept 0 source entered).tail ((moves _ _).mpr (.inr ⟨missed, rfl, rfl⟩))).trans
        (kept target number behind)

/-- Nothing lies behind a node without successors. -/
theorem enters_link_final {source target : Nat} (inside : source < graph.size)
    (final : graph.next target = []) :
    Enters pred (graph.link source target) number ↔
      Enters pred graph number ∨ (Passes pred graph source ∧ number = target) := by
  rw [enters_link inside]
  refine or_congr Iff.rfl (and_congr Iff.rfl ⟨?_, ?_⟩)
  · intro behind
    rcases ReflTransGen.cases_head behind with same | ⟨middle, move, _⟩
    · exact same.symm
    · have edge := move.2
      rw [final] at edge
      cases edge
  · rintro rfl
    exact .refl

/-- An edge back to a node that is entered whenever its source is passed changes nothing. -/
theorem enters_link_back {source target : Nat} (inside : source < graph.size)
    (entered : Passes pred graph source → Enters pred graph target) :
    Enters pred (graph.link source target) number ↔ Enters pred graph number := by
  rw [enters_link inside]
  constructor
  · rintro (old | ⟨passed, behind⟩)
    · exact old
    · exact (entered passed).trans behind
  · exact .inl

theorem enters_follow {here : Nat} (inside : here < graph.size) (label : String)
    (owner : Option Stmt) :
    Enters pred (graph.follow here label owner) number ↔
      Enters pred graph number ∨ (Passes pred graph here ∧ number = graph.size) := by
  unfold Graph.follow
  rw [enters_link_final (by rw [Graph.size_add]; omega) (by simp [Graph.next_of_size_le]),
    enters_add, passes_add pred inside]

end PlcLint.Flow
