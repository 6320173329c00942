import PlcLint.Flow.Graph

/-!
What adding a node, an edge or a statement does to the statements and the neighbours of every
node. Later modules use these equations and do not look into the array of nodes.
-/

namespace PlcLint.Flow

@[simp]
theorem mem_insertNew {numbers : List Nat} {number candidate : Nat} :
    candidate ∈ insertNew numbers number ↔ candidate ∈ numbers ∨ candidate = number := by
  unfold insertNew
  by_cases present : number ∈ numbers
  · rw [if_pos (by simpa using present)]
    constructor
    · exact Or.inl
    · rintro (old | rfl)
      · exact old
      · exact present
  · simp [present]

namespace Graph

variable {graph : Graph} {number : Nat}

theorem node_of_size_le (beyond : graph.size ≤ number) : graph.node number = {} := by
  unfold node size at *
  simp [Array.getD_eq_getD_getElem?, Array.getElem?_eq_none beyond]

theorem getElem?_nodes (inside : number < graph.size) :
    graph.nodes[number]? = some (graph.node number) := by
  unfold size at inside
  simp [node, Array.getD_eq_getD_getElem?, inside]

theorem next_of_size_le (beyond : graph.size ≤ number) : graph.next number = [] := by
  simp [next, node_of_size_le beyond]

theorem lt_size_of_mem_next {target : Nat} (edge : target ∈ graph.next number) :
    number < graph.size := by
  apply Nat.lt_of_not_le
  intro beyond
  simp [next_of_size_le beyond] at edge

@[simp]
theorem size_add (node : Node) : (graph.add node).size = graph.size + 1 := by
  simp [add, size]

theorem node_add (node : Node) :
    (graph.add node).node number = if number = graph.size then node else graph.node number := by
  simp only [Graph.node, add, size, Array.getD_eq_getD_getElem?, Array.getElem?_push]
  split <;> rfl

@[simp]
theorem next_add (label : Option String) (owner : Option Stmt) :
    (graph.add { label := label, owner := owner }).next number = graph.next number := by
  simp only [next, node_add]
  split
  next fresh => simp [node_of_size_le (Nat.le_of_eq fresh.symm)]
  next => rfl

@[simp]
theorem prev_add (label : Option String) (owner : Option Stmt) :
    (graph.add { label := label, owner := owner }).prev number = graph.prev number := by
  simp only [prev, node_add]
  split
  next fresh => simp [node_of_size_le (Nat.le_of_eq fresh.symm)]
  next => rfl

theorem stmtsAt_add (label : Option String) (owner : Option Stmt) :
    (graph.add { label := label, owner := owner }).stmtsAt number =
      if number = graph.size then owner.toList else graph.stmtsAt number := by
  simp only [stmtsAt, node_add]
  split <;> simp

@[simp]
theorem size_link (source target : Nat) : (graph.link source target).size = graph.size := by
  simp [link, size]

theorem node_link {source target : Nat} :
    (graph.link source target).node number =
      { graph.node number with
        next := if source = number ∧ number < graph.size
          then insertNew (graph.next number) target else graph.next number
        prev := if target = number ∧ number < graph.size
          then insertNew (graph.prev number) source else graph.prev number } := by
  by_cases inside : number < graph.size
  · have found := getElem?_nodes inside
    simp only [node, link, Array.getD_eq_getD_getElem?, Array.getElem?_modify]
    simp only [found, inside, and_true, next, prev]
    split <;> split <;> simp
  · have beyond := Nat.le_of_not_lt inside
    have outside : (graph.link source target).size ≤ number := by simpa using beyond
    rw [node_of_size_le outside]
    simp [inside, node_of_size_le beyond, next, prev]

@[simp]
theorem stmtsAt_link (source target : Nat) :
    (graph.link source target).stmtsAt number = graph.stmtsAt number := by
  simp [stmtsAt, node_link]

theorem mem_next_link {source target candidate : Nat} (inside : source < graph.size) :
    candidate ∈ (graph.link source target).next number ↔
      candidate ∈ graph.next number ∨ (number = source ∧ candidate = target) := by
  rw [next, node_link]
  by_cases same : source = number
  · subst same
    simp [inside]
  · simp [same, Ne.symm same]

theorem mem_prev_link {source target candidate : Nat} (inside : target < graph.size) :
    candidate ∈ (graph.link source target).prev number ↔
      candidate ∈ graph.prev number ∨ (number = target ∧ candidate = source) := by
  rw [prev, node_link]
  by_cases same : target = number
  · subst same
    simp [inside]
  · simp [same, Ne.symm same]

theorem next_link_of_ne {source target : Nat} (different : number ≠ source) :
    (graph.link source target).next number = graph.next number := by
  rw [next, node_link]
  simp [Ne.symm different]

theorem prev_link_of_ne {source target : Nat} (different : number ≠ target) :
    (graph.link source target).prev number = graph.prev number := by
  rw [prev, node_link]
  simp [Ne.symm different]

@[simp]
theorem size_append (here : Nat) (stmt : Stmt) : (graph.append here stmt).size = graph.size := by
  simp [append, size]

theorem node_append (here : Nat) (stmt : Stmt) :
    (graph.append here stmt).node number =
      { graph.node number with
        stmts := if here = number ∧ number < graph.size
          then (graph.node number).stmts ++ [stmt] else (graph.node number).stmts } := by
  by_cases inside : number < graph.size
  · have found := getElem?_nodes inside
    simp only [node, append, Array.getD_eq_getD_getElem?, Array.getElem?_modify]
    simp only [found, inside, and_true]
    split <;> simp
  · have beyond := Nat.le_of_not_lt inside
    have outside : (graph.append here stmt).size ≤ number := by simpa using beyond
    rw [node_of_size_le outside]
    simp [inside, node_of_size_le beyond]

@[simp]
theorem next_append (here : Nat) (stmt : Stmt) :
    (graph.append here stmt).next number = graph.next number := by
  simp [next, node_append]

@[simp]
theorem prev_append (here : Nat) (stmt : Stmt) :
    (graph.append here stmt).prev number = graph.prev number := by
  simp [prev, node_append]

theorem stmtsAt_append (here : Nat) (stmt : Stmt) :
    (graph.append here stmt).stmtsAt number =
      graph.stmtsAt number ++ if here = number ∧ number < graph.size then [stmt] else [] := by
  rw [stmtsAt, stmtsAt, node_append]
  split <;> simp

theorem stmtsAt_append_self {here : Nat} (inside : here < graph.size) (stmt : Stmt) :
    (graph.append here stmt).stmtsAt here = graph.stmtsAt here ++ [stmt] := by
  simp [stmtsAt, node_append, inside]

theorem stmtsAt_append_of_ne {here : Nat} (different : number ≠ here) (stmt : Stmt) :
    (graph.append here stmt).stmtsAt number = graph.stmtsAt number := by
  simp [stmtsAt, node_append, Ne.symm different]

@[simp]
theorem size_follow (source : Nat) (label : String) (owner : Option Stmt) :
    (graph.follow source label owner).size = graph.size + 1 := by
  simp [follow]

theorem mem_next_follow {source candidate : Nat} (inside : source < graph.size)
    (label : String) (owner : Option Stmt) :
    candidate ∈ (graph.follow source label owner).next number ↔
      candidate ∈ graph.next number ∨ (number = source ∧ candidate = graph.size) := by
  unfold follow
  rw [mem_next_link (by rw [size_add]; omega)]
  simp

theorem stmtsAt_follow (source : Nat) (label : String) (owner : Option Stmt) :
    (graph.follow source label owner).stmtsAt number =
      if number = graph.size then owner.toList else graph.stmtsAt number := by
  simp [follow, stmtsAt_add]

theorem next_follow_of_ne {source : Nat} (different : number ≠ source) (label : String)
    (owner : Option Stmt) :
    (graph.follow source label owner).next number = graph.next number := by
  unfold follow
  rw [next_link_of_ne different, next_add]

theorem next_follow_size {source : Nat} (inside : source < graph.size) (label : String)
    (owner : Option Stmt) : (graph.follow source label owner).next graph.size = [] := by
  rw [next_follow_of_ne (Nat.ne_of_gt inside), next_of_size_le (Nat.le_refl _)]

theorem prev_follow_of_ne {source : Nat} (different : number ≠ graph.size) (label : String)
    (owner : Option Stmt) :
    (graph.follow source label owner).prev number = graph.prev number := by
  unfold follow
  rw [prev_link_of_ne different, prev_add]

theorem prev_follow_size (source : Nat) (label : String) (owner : Option Stmt) :
    (graph.follow source label owner).prev graph.size = [source] := by
  unfold follow
  rw [prev, node_link, prev_add, prev, node_of_size_le (Nat.le_refl _)]
  simp [insertNew]

theorem lt_size_follow {source : Nat} (inside : number < graph.size) (label : String)
    (owner : Option Stmt) : number < (graph.follow source label owner).size := by
  rw [size_follow]
  exact Nat.lt_succ_of_lt inside

end Graph

end PlcLint.Flow
