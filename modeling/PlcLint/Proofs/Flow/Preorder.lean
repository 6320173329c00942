import Mathlib.Algebra.BigOperators.Fin
import Mathlib.Algebra.BigOperators.Group.Finset.Basic
import Mathlib.Logic.Relation
import PlcLint.Proofs.Flow.Edit

/-!
The depth-first order of a graph holds exactly the nodes that can be reached. Each node is expanded
at most once and each edge puts at most one number on the stack, so the number of edges bounds the
search.
-/

namespace PlcLint.Flow.Graph

/-- Some path leads from the first node to the second. -/
def Reaches (graph : Graph) : Nat → Nat → Prop :=
  Relation.ReflTransGen fun source target => target ∈ graph.next source

/-- The edges that leave nodes which are not seen yet. -/
def unseenEdges (graph : Graph) (seen : List Nat) : Nat :=
  ∑ number ∈ Finset.range graph.size with number ∉ seen, (graph.next number).length

variable {graph : Graph} {start number fuel : Nat} {stack seen : List Nat}

theorem unseenEdges_append (fresh : number ∉ seen) :
    graph.unseenEdges (seen ++ [number]) + (graph.next number).length =
      graph.unseenEdges seen := by
  have split : (Finset.range graph.size).filter (· ∉ seen ++ [number]) =
      ((Finset.range graph.size).filter (· ∉ seen)).erase number := by
    ext candidate
    simp only [List.mem_append, List.mem_singleton, not_or, Finset.mem_filter, Finset.mem_erase]
    rw [and_comm (a := candidate ∉ seen), and_left_comm]
  unfold unseenEdges
  rw [split]
  by_cases inside : number < graph.size
  · exact Finset.sum_erase_add _ _ (by simp [inside, fresh])
  · rw [Finset.erase_eq_of_notMem (by simp [inside]), next_of_size_le (Nat.le_of_not_lt inside),
      List.length_nil, Nat.add_zero]

theorem foldl_next_length (nodes : List Node) (count : Nat) :
    nodes.foldl (fun count node => count + node.next.length) count =
      count + ∑ number ∈ Finset.range nodes.length, (nodes.getD number {}).next.length := by
  induction nodes generalizing count with
  | nil => simp
  | cons node rest inductionHypothesis =>
      rw [List.foldl_cons, inductionHypothesis, List.length_cons, Finset.sum_range_succ']
      simp only [List.getD_cons_succ, List.getD_cons_zero]
      omega

theorem unseenEdges_nil (graph : Graph) : graph.unseenEdges [] = graph.edgeCount := by
  unfold unseenEdges edgeCount
  rw [← Array.foldl_toList, foldl_next_length, Nat.zero_add]
  simp [next, node, size]

/-- What holds of the stack and of the nodes seen, each time a number is taken from the stack. -/
structure Exploring (graph : Graph) (start : Nat) (stack seen : List Nat) : Prop where
  first : start ∈ seen ∨ start ∈ stack
  reached : ∀ number, number ∈ seen ∨ number ∈ stack → graph.Reaches start number
  closed : ∀ source ∈ seen, ∀ target ∈ graph.next source, target ∈ seen ∨ target ∈ stack

namespace Exploring

theorem initial (graph : Graph) (start : Nat) : Exploring graph start [start] [] := by
  constructor
  · simp
  · simp only [List.not_mem_nil, List.mem_singleton, false_or]
    rintro number rfl
    exact .refl
  · simp

theorem skip (exploring : Exploring graph start (number :: stack) seen) (known : number ∈ seen) :
    Exploring graph start stack seen := by
  have dropped : ∀ candidate, candidate ∈ seen ∨ candidate ∈ number :: stack →
      candidate ∈ seen ∨ candidate ∈ stack := by
    rintro candidate (old | pending)
    · exact .inl old
    · rcases List.mem_cons.mp pending with rfl | later
      · exact .inl known
      · exact .inr later
  constructor
  · exact dropped start exploring.first
  · intro candidate membership
    exact exploring.reached candidate (membership.imp_right (List.mem_cons_of_mem _))
  · intro source old target edge
    exact dropped target (exploring.closed source old target edge)

theorem expand (exploring : Exploring graph start (number :: stack) seen) :
    Exploring graph start (graph.next number ++ stack) (seen ++ [number]) := by
  have moved : ∀ candidate, candidate ∈ seen ∨ candidate ∈ number :: stack →
      candidate ∈ seen ++ [number] ∨ candidate ∈ graph.next number ++ stack := by
    rintro candidate (old | pending)
    · exact .inl (List.mem_append_left _ old)
    · rcases List.mem_cons.mp pending with rfl | later
      · exact .inl (by simp)
      · exact .inr (List.mem_append_right _ later)
  have taken : graph.Reaches start number := exploring.reached number (.inr List.mem_cons_self)
  constructor
  · exact moved start exploring.first
  · rintro candidate (isSeen | pending)
    · rcases List.mem_append.mp isSeen with old | same
      · exact exploring.reached candidate (.inl old)
      · rw [List.mem_singleton.mp same]
        exact taken
    · rcases List.mem_append.mp pending with edge | later
      · exact taken.tail edge
      · exact exploring.reached candidate (.inr (List.mem_cons_of_mem _ later))
  · intro source isSeen target edge
    rcases List.mem_append.mp isSeen with old | same
    · exact moved target (exploring.closed source old target edge)
    · rw [List.mem_singleton.mp same] at edge
      exact .inr (List.mem_append_left _ edge)

/-- With an empty stack the nodes seen are those that can be reached. -/
theorem mem_iff (exploring : Exploring graph start [] seen) :
    number ∈ seen ↔ graph.Reaches start number := by
  constructor
  · exact fun old => exploring.reached number (.inl old)
  · intro reaches
    induction reaches with
    | refl => simpa using exploring.first
    | tail _ edge inductionHypothesis =>
        simpa using exploring.closed _ inductionHypothesis _ edge

end Exploring

theorem mem_preorderFrom (exploring : Exploring graph start stack seen)
    (enough : stack.length + graph.unseenEdges seen ≤ fuel) :
    number ∈ graph.preorderFrom fuel stack seen ↔ graph.Reaches start number := by
  induction fuel generalizing stack seen with
  | zero =>
      have nothing : stack = [] := List.eq_nil_of_length_eq_zero (by omega)
      subst nothing
      rw [preorderFrom]
      exact exploring.mem_iff
  | succ fuel inductionHypothesis =>
      cases stack with
      | nil =>
          rw [preorderFrom]
          exact exploring.mem_iff
      | cons first stack =>
          rw [List.length_cons] at enough
          rw [preorderFrom]
          by_cases known : first ∈ seen
          · rw [if_pos (by simpa using known)]
            exact inductionHypothesis (exploring.skip known) (by omega)
          · rw [if_neg (by simpa using known)]
            have fewer : graph.unseenEdges (seen ++ [first]) + (graph.next first).length =
                graph.unseenEdges seen := unseenEdges_append known
            refine inductionHypothesis exploring.expand ?_
            rw [List.length_append]
            omega

theorem mem_preorder (graph : Graph) (start number : Nat) :
    number ∈ graph.preorder start ↔ graph.Reaches start number := by
  refine mem_preorderFrom (.initial graph start) ?_
  rw [unseenEdges_nil, List.length_singleton]
  omega

end PlcLint.Flow.Graph
