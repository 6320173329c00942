import PlcLint.Flow.Dot
import PlcLint.Proofs.Flow.Visiting

/-!
The drawing of a graph shows the graph: whichever way the edges of each node are gone through, there
is one entry for each node that can be reached and one for each edge that leaves such a node. An
entry is written as one line, whatever the texts of the statements in it are. The walk that draws
mentions the nodes in depth-first order, so the names count up from zero along the drawing.
-/

namespace PlcLint.Flow

namespace Graph

/-- The graph with the edges of each node in an order of their own. -/
def arranged (graph : Graph) (order : Order Nat) : Graph :=
  ⟨graph.nodes.mapIdx fun number node => { node with next := order.arrange number node.next }⟩

variable {graph : Graph} {order : Order Nat} {number : Nat}

theorem node_arranged (graph : Graph) (order : Order Nat) (number : Nat) :
    (graph.arranged order).node number =
      { graph.node number with next := order.arrange number (graph.next number) } := by
  have empty : order.arrange number [] = [] := (order.perm number []).eq_nil
  simp only [node, next, arranged, Array.getD_eq_getD_getElem?, Array.getElem?_mapIdx]
  cases graph.nodes[number]? with
  | none => simp [empty]
  | some node => rfl

theorem next_arranged (graph : Graph) (order : Order Nat) (number : Nat) :
    (graph.arranged order).next number = order.arrange number (graph.next number) := by
  rw [next, node_arranged]

theorem mem_next_arranged {target : Nat} :
    target ∈ (graph.arranged order).next number ↔ target ∈ graph.next number := by
  rw [next_arranged]
  exact (order.perm number _).mem_iff

theorem reaches_arranged {start : Nat} :
    (graph.arranged order).Reaches start number ↔ graph.Reaches start number := by
  simp only [Reaches, mem_next_arranged]

@[simp]
theorem arranged_asGiven (graph : Graph) : graph.arranged .asGiven = graph := by
  obtain ⟨nodes⟩ := graph
  simp only [arranged, Order.asGiven, mk.injEq]
  apply Array.ext <;> simp

/-- No edge is there twice. -/
def Simple (graph : Graph) : Prop := ∀ number, (graph.next number).Nodup

theorem Simple.arranged (simple : graph.Simple) (order : Order Nat) :
    (graph.arranged order).Simple := by
  intro number
  rw [next_arranged]
  exact (order.perm number _).nodup_iff.mpr (simple number)

end Graph

theorem Edit.simple {graph edited : Graph} (simple : graph.Simple) (edit : Edit graph edited) :
    edited.Simple := by
  intro number
  cases edit with
  | add label owner => simpa using simple number
  | append inside stmt => simpa using simple number
  | link sourceInside targetInside notStart =>
      rw [Graph.next, Graph.node_link]
      dsimp only
      split
      · exact nodup_insertNew (simple number) _
      · exact simple number

theorem Grows.simple {graph grown : Graph} (simple : graph.Simple) (growth : Grows graph grown) :
    grown.Simple := by
  induction growth with
  | refl => exact simple
  | tail _ edit inductionHypothesis => exact edit.simple inductionHypothesis

theorem Source.simple_graph {source : Source} {graph : Graph} (built : source.graph = .ok graph) :
    graph.Simple := by
  obtain ⟨reached, builtStmts⟩ := Source.graph_eq_ok built
  have growth := addStmts_grows source.stmts (by simp [LoopTargets.Inside])
    source.linked_seed.nonempty builtStmts
  exact growth.1.simple fun number => by simp

/-! What is still to be drawn, and what comes of it. -/

section Pending

def pendingNodes (todo : List DotPart) : List Nat :=
  todo.filterMap fun
    | .node number => some number
    | .edge _ _ => none

def pendingEdges (todo : List DotPart) : List (Nat × Nat) :=
  todo.filterMap fun
    | .node _ => none
    | .edge source target => some (source, target)

variable (number source target : Nat) (todo rest : List DotPart)

@[simp]
theorem pendingNodes_node : pendingNodes (.node number :: rest) = number :: pendingNodes rest := rfl

@[simp]
theorem pendingNodes_edge : pendingNodes (.edge source target :: rest) = pendingNodes rest := rfl

@[simp]
theorem pendingEdges_node : pendingEdges (.node number :: rest) = pendingEdges rest := rfl

@[simp]
theorem pendingEdges_edge :
    pendingEdges (.edge source target :: rest) = (source, target) :: pendingEdges rest := rfl

/-- An edge is drawn right before the node that it leads to. -/
def behind (targets : List Nat) : List DotPart :=
  targets.flatMap fun target => [DotPart.edge number target, DotPart.node target]

theorem behind_cons (targets : List Nat) :
    behind number (target :: targets) =
      .edge number target :: .node target :: behind number targets := rfl

theorem length_behind (targets : List Nat) :
    (behind number targets).length = 2 * targets.length := by
  induction targets with
  | nil => rfl
  | cons target rest inductionHypothesis =>
      rw [behind_cons, List.length_cons, List.length_cons, inductionHypothesis, List.length_cons]
      omega

theorem pendingNodes_behind (targets : List Nat) :
    pendingNodes (behind number targets ++ rest) = targets ++ pendingNodes rest := by
  induction targets with
  | nil => rfl
  | cons target targets inductionHypothesis => simp [behind_cons, inductionHypothesis]

theorem pendingEdges_behind (targets : List Nat) :
    pendingEdges (behind number targets ++ rest) =
      targets.map (number, ·) ++ pendingEdges rest := by
  induction targets with
  | nil => rfl
  | cons target targets inductionHypothesis => simp [behind_cons, inductionHypothesis]

end Pending

namespace Graph

/-- The edges that leave the node. -/
def edgesFrom (graph : Graph) (number : Nat) : List (Nat × Nat) :=
  (graph.next number).map (number, ·)

/-- The parts of a drawing of these nodes and edges. -/
def partsOf (nodes : List Nat) (edges : List (Nat × Nat)) : List DotPart :=
  nodes.map .node ++ edges.map fun edge => .edge edge.1 edge.2

/-- The entries for these nodes and edges. -/
def linesOf (graph : Graph) (text : Stmt → String) (names nodes : List Nat)
    (edges : List (Nat × Nat)) : List String :=
  (partsOf nodes edges).map (graph.dotLine text names)

variable {graph : Graph} {nodes seen : List Nat} {edges more : List (Nat × Nat)}
  {fuel steps number : Nat} {todo : List DotPart}

theorem preorderFrom_nil (graph : Graph) (fuel : Nat) (seen : List Nat) :
    graph.preorderFrom fuel [] seen = seen := by
  cases fuel <;> rfl

theorem partsOf_perm (same : edges.Perm more) : (partsOf nodes edges).Perm (partsOf nodes more) :=
  (same.map _).append_left _

/-- Drawing keeps step with the depth-first order: the nodes it draws are those that the order goes
on with. -/
theorem dotParts_perm (enough : todo.length + 2 * graph.unseenEdges seen ≤ fuel)
    (enoughSteps : (pendingNodes todo).length + graph.unseenEdges seen ≤ steps) :
    ∃ nodes, graph.preorderFrom steps (pendingNodes todo) seen = seen ++ nodes ∧
      (graph.dotParts fuel todo seen.reverse).Perm
        (partsOf nodes (pendingEdges todo ++ nodes.flatMap graph.edgesFrom)) := by
  induction fuel generalizing todo seen steps with
  | zero =>
      obtain rfl : todo = [] := List.eq_nil_of_length_eq_zero (by omega)
      refine ⟨[], by simp [pendingNodes, preorderFrom_nil], ?_⟩
      simp [dotParts, partsOf, pendingEdges]
  | succ fuel inductionHypothesis =>
      cases todo with
      | nil =>
          refine ⟨[], by simp [pendingNodes, preorderFrom_nil], ?_⟩
          simp [dotParts, partsOf, pendingEdges]
      | cons part rest =>
          rw [List.length_cons] at enough
          cases part with
          | edge source target =>
              obtain ⟨nodes, order, parts⟩ := @inductionHypothesis seen steps rest (by omega)
                enoughSteps
              refine ⟨nodes, order, ?_⟩
              rw [dotParts]
              exact (parts.cons _).trans List.perm_middle.symm
          | node number =>
              rw [pendingNodes_node, List.length_cons] at enoughSteps
              obtain ⟨steps, rfl⟩ : ∃ fewer, steps = fewer + 1 := ⟨steps - 1, by omega⟩
              rw [pendingNodes_node, pendingEdges_node, preorderFrom, dotParts]
              by_cases known : number ∈ seen
              · rw [if_pos (by simpa using known), if_pos (by simpa using known)]
                exact inductionHypothesis (by omega) (by omega)
              · rw [if_neg (by simpa using known), if_neg (by simpa using known)]
                have fewer : graph.unseenEdges (seen ++ [number]) + (graph.next number).length =
                    graph.unseenEdges seen := unseenEdges_append known
                obtain ⟨nodes, order, parts⟩ := @inductionHypothesis (seen ++ [number]) steps
                  (behind number (graph.next number) ++ rest)
                  (by rw [List.length_append, length_behind]; omega)
                  (by rw [pendingNodes_behind, List.length_append]; omega)
                rw [pendingNodes_behind] at order
                rw [List.reverse_append, pendingEdges_behind] at parts
                refine ⟨number :: nodes, by simpa using order, (parts.cons _).trans ?_⟩
                -- The edges of the node come first here and behind the pending ones there.
                change (partsOf (number :: nodes) _).Perm _
                apply partsOf_perm
                rw [List.flatMap_cons, ← List.append_assoc, edgesFrom]
                exact List.perm_append_comm.append_right _

end Graph

/-! Names on first mention. -/

/-- Parts that are still to be drawn: edges leave nodes that are drawn, and each comes right before
its target. -/
inductive Undrawn (seen : List Nat) : List DotPart → Prop
  | nil : Undrawn seen []
  | node (number : Nat) {rest : List DotPart} (later : Undrawn seen rest) :
      Undrawn seen (.node number :: rest)
  | edge {source : Nat} (target : Nat) {rest : List DotPart} (drawn : source ∈ seen)
      (later : Undrawn seen rest) : Undrawn seen (.edge source target :: .node target :: rest)

namespace Undrawn

variable {seen : List Nat} {rest : List DotPart}

theorem drawn (pending : Undrawn seen rest) (number : Nat) : Undrawn (seen ++ [number]) rest := by
  induction pending with
  | nil => exact .nil
  | node other _ inductionHypothesis => exact .node other inductionHypothesis
  | edge target drawn _ inductionHypothesis =>
      exact .edge target (List.mem_append_left _ drawn) inductionHypothesis

theorem behind {number : Nat} (drawn : number ∈ seen) (pending : Undrawn seen rest)
    (targets : List Nat) : Undrawn seen (Flow.behind number targets ++ rest) := by
  induction targets with
  | nil => exact pending
  | cons target _ inductionHypothesis => exact .edge target drawn inductionHypothesis

end Undrawn

theorem insertNew_of_mem {numbers : List Nat} {number : Nat} (known : number ∈ numbers) :
    insertNew numbers number = numbers := by
  simp [insertNew, known]

theorem insertNew_of_not_mem {numbers : List Nat} {number : Nat} (isNew : number ∉ numbers) :
    insertNew numbers number = numbers ++ [number] := by
  simp [insertNew, isNew]

/-- The invariant is that the nodes known by name are those drawn so far, and the one drawn next if
an edge to it has just been drawn. -/
theorem Graph.mentions_dotParts {graph : Graph} {fuel steps : Nat} {todo : List DotPart}
    {seen known : List Nat} (enough : todo.length + 2 * graph.unseenEdges seen ≤ fuel)
    (enoughSteps : (pendingNodes todo).length + graph.unseenEdges seen ≤ steps)
    (undrawn : Undrawn seen todo)
    (isKnown : known = seen ∨ ∃ number rest, todo = .node number :: rest ∧
      known = insertNew seen number) :
    ((graph.dotParts fuel todo seen.reverse).flatMap DotPart.mentions).foldl insertNew known =
      graph.preorderFrom steps (pendingNodes todo) seen := by
  induction fuel generalizing todo seen known steps with
  | zero =>
      obtain rfl : todo = [] := List.eq_nil_of_length_eq_zero (by omega)
      obtain rfl : known = seen := by simpa using isKnown
      exact (graph.preorderFrom_nil steps known).symm
  | succ fuel inductionHypothesis =>
      cases undrawn with
      | nil =>
          obtain rfl : known = seen := by simpa using isKnown
          exact (graph.preorderFrom_nil steps known).symm
      | @edge source target rest drawn later =>
          obtain rfl : known = seen := by simpa using isKnown
          rw [dotParts, List.flatMap_cons, List.foldl_append, pendingNodes_edge]
          change List.foldl _ (insertNew (insertNew known source) target) _ = _
          rw [insertNew_of_mem drawn]
          rw [List.length_cons] at enough
          exact inductionHypothesis (by omega) enoughSteps (.node target later)
            (.inr ⟨target, rest, rfl, rfl⟩)
      | @node number rest later =>
          rw [pendingNodes_node, List.length_cons] at enoughSteps
          rw [List.length_cons] at enough
          obtain ⟨steps, rfl⟩ : ∃ fewer, steps = fewer + 1 := ⟨steps - 1, by omega⟩
          rw [dotParts, pendingNodes_node, preorderFrom]
          by_cases isSeen : number ∈ seen
          · obtain rfl : known = seen := by
              rcases isKnown with same | ⟨other, _, isNode, same⟩
              · exact same
              · cases isNode
                rwa [insertNew_of_mem isSeen] at same
            rw [if_pos (by simpa using isSeen), if_pos (by simpa using isSeen)]
            exact inductionHypothesis (by omega) (by omega) later (.inl rfl)
          · have named : insertNew known number = seen ++ [number] := by
              rcases isKnown with rfl | ⟨other, _, isNode, rfl⟩
              · exact insertNew_of_not_mem isSeen
              · cases isNode
                rw [insertNew_of_not_mem isSeen]
                exact insertNew_of_mem (by simp)
            have fewer : graph.unseenEdges (seen ++ [number]) + (graph.next number).length =
                graph.unseenEdges seen := unseenEdges_append isSeen
            rw [if_neg (by simpa using isSeen), if_neg (by simpa using isSeen),
              List.flatMap_cons, List.foldl_append]
            change List.foldl _ (insertNew known number) _ = _
            rw [named, ← pendingNodes_behind number]
            have step := @inductionHypothesis steps
              (behind number (graph.next number) ++ rest) (seen ++ [number]) (seen ++ [number])
              (by rw [List.length_append, length_behind]; omega)
              (by rw [pendingNodes_behind, List.length_append]; omega)
              ((later.drawn number).behind (by simp) _) (.inl rfl)
            rwa [List.reverse_append] at step

/-- The parts of the drawing of a graph. -/
def Graph.allParts (graph : Graph) : List DotPart :=
  graph.dotParts (2 * graph.edgeCount + 1) [.node 0] []

/-- Numbers given on first mention follow the depth-first order. -/
theorem Graph.names_eq_preorder (graph : Graph) :
    (graph.allParts.flatMap DotPart.mentions).foldl insertNew [] = graph.preorder := by
  refine @mentions_dotParts graph _ _ [.node 0] [] [] ?_ ?_ (.node 0 .nil) (.inl rfl)
  · rw [graph.unseenEdges_nil, List.length_singleton]
    omega
  · rw [graph.unseenEdges_nil, pendingNodes_node, Nat.add_comm]
    rfl

/-! Identifiers and lines tell what they stand for. -/

section Lines

variable {names : List Nat} {first second : Nat}

theorem idxOf?_eq_some_idxOf (listed : first ∈ names) :
    names.idxOf? first = some (names.idxOf first) := by
  cases found : names.idxOf? first with
  | none => exact absurd listed (List.idxOf?_eq_none_iff.mp found)
  | some place => rw [List.idxOf_eq_getD_idxOf?, found, Option.getD_some]

theorem nodeName_of_mem (listed : first ∈ names) :
    nodeName names first = "n" ++ toString (names.idxOf first) := by
  rw [nodeName, idxOf?_eq_some_idxOf listed, Option.getD_some]

/-- The identifiers count up from zero. -/
theorem map_nodeName (distinct : names.Nodup) :
    names.map (nodeName names) =
      (List.range names.length).map fun place => "n" ++ toString place := by
  apply List.ext_getElem
  · simp
  · intro place inNames inRange
    rw [List.length_map] at inNames
    simp [nodeName_of_mem, distinct.idxOf_getElem place inNames]

theorem nodeName_inj (firstListed : first ∈ names) (secondListed : second ∈ names)
    (same : nodeName names first = nodeName names second) : first = second := by
  rw [nodeName_of_mem firstListed, nodeName_of_mem secondListed, String.append_right_inj,
    Nat.toString_eq_ofList_toDigits, Nat.toString_eq_ofList_toDigits, String.ofList_inj] at same
  have numbers := congrArg (Nat.ofDigitChars 10 · 0) same
  simp only [Nat.ofDigitChars_ten_toDigits] at numbers
  exact (List.idxOf_inj firstListed).mp numbers

theorem space_not_mem_nodeName (names : List Nat) (number : Nat) :
    ' ' ∉ (nodeName names number).toList := by
  intro listed
  simp only [nodeName, Nat.toString_eq_ofList_toDigits, String.toList_append,
    String.toList_ofList, List.mem_append] at listed
  rcases listed with inLetter | inDigits
  · exact absurd inLetter (by decide)
  · have isDigit : ' '.isDigit = true :=
      Nat.isDigit_of_mem_toDigits (b := 10) (by decide) (by decide) inDigits
    exact absurd isDigit (by decide)

/-- What stands before the first blank, and what behind it. -/
theorem append_blank_inj {before before' after after' : List Char} (inFirst : ' ' ∉ before)
    (inSecond : ' ' ∉ before') (same : before ++ ' ' :: after = before' ++ ' ' :: after') :
    before = before' ∧ after = after' := by
  induction before generalizing before' with
  | nil =>
      cases before' with
      | nil => exact ⟨rfl, (List.cons.inj same).2⟩
      | cons other rest => exact absurd (List.cons.inj same).1 (List.ne_of_not_mem_cons inSecond)
  | cons first before inductionHypothesis =>
      cases before' with
      | nil => exact absurd (List.cons.inj same).1.symm (List.ne_of_not_mem_cons inFirst)
      | cons other rest =>
          obtain ⟨rfl, tails⟩ := List.cons.inj same
          simp only [List.mem_cons, not_or] at inFirst inSecond
          obtain ⟨rfl, rest⟩ := inductionHypothesis inFirst.2 inSecond.2 tails
          exact ⟨rfl, rest⟩

theorem toList_nodeLine (text : Stmt → String) (names : List Nat) (number : Nat) (node : Node) :
    ∃ rest, (nodeLine text names number node).toList =
      "    ".toList ++ ((nodeName names number).toList ++ ' ' :: '[' :: rest) := by
  refine ⟨("label=<" ++ nodeMarkup text node ++ lineBreak ++ ">];").toList, ?_⟩
  simp [nodeLine]

theorem toList_edgeLine (names : List Nat) (source target : Nat) :
    (edgeLine names source target).toList =
      "    ".toList ++ ((nodeName names source).toList ++
        ' ' :: '-' :: '>' :: ' ' :: ((nodeName names target).toList ++ [';'])) := by
  simp [edgeLine]

theorem nodeLine_inj {text : Stmt → String} {node node' : Node} (firstListed : first ∈ names)
    (secondListed : second ∈ names)
    (same : nodeLine text names first node = nodeLine text names second node') :
    first = second := by
  obtain ⟨rest, isFirst⟩ := toList_nodeLine text names first node
  obtain ⟨rest', isSecond⟩ := toList_nodeLine text names second node'
  rw [same, isSecond, List.append_cancel_left_eq] at isFirst
  obtain ⟨name, _⟩ := append_blank_inj (space_not_mem_nodeName _ _) (space_not_mem_nodeName _ _)
    isFirst
  exact (nodeName_inj secondListed firstListed (String.toList_inj.mp name)).symm

theorem edgeLine_inj {source source' target target' : Nat} (sourceListed : source ∈ names)
    (targetListed : target ∈ names) (sourceListed' : source' ∈ names)
    (targetListed' : target' ∈ names)
    (same : edgeLine names source target = edgeLine names source' target') :
    source = source' ∧ target = target' := by
  have lists := congrArg String.toList same
  rw [toList_edgeLine, toList_edgeLine, List.append_cancel_left_eq] at lists
  obtain ⟨name, rest⟩ := append_blank_inj (space_not_mem_nodeName _ _)
    (space_not_mem_nodeName _ _) lists
  simp only [List.cons.injEq, true_and, List.append_cancel_right_eq] at rest
  exact ⟨nodeName_inj sourceListed sourceListed' (String.toList_inj.mp name),
    nodeName_inj targetListed targetListed' (String.toList_inj.mp rest)⟩

theorem nodeLine_ne_edgeLine (text : Stmt → String) (names : List Nat)
    (number source target : Nat) (node : Node) :
    nodeLine text names number node ≠ edgeLine names source target := by
  intro same
  obtain ⟨rest, isNode⟩ := toList_nodeLine text names number node
  rw [same, toList_edgeLine, List.append_cancel_left_eq] at isNode
  obtain ⟨_, tails⟩ := append_blank_inj (space_not_mem_nodeName _ _) (space_not_mem_nodeName _ _)
    isNode
  exact absurd (List.cons.inj tails).1 (by decide)

end Lines

/-- The lines draw the graph from its start on. A line is an entry of the drawing. -/
structure Draws (graph : Graph) (text : Stmt → String) (names : List Nat)
    (edges : List (Nat × Nat)) (lines : List String) : Prop where
  nodesOnce : names.Nodup
  allReached : ∀ number, number ∈ names ↔ graph.Reaches 0 number
  edgesOnce : edges.Nodup
  allEdges : ∀ source target,
    (source, target) ∈ edges ↔ graph.Reaches 0 source ∧ target ∈ graph.next source
  complete : lines.Perm (graph.linesOf text names names edges)
  linesOnce : lines.Nodup
  counted : names.map (nodeName names) =
    (List.range names.length).map fun place => "n" ++ toString place
  distinct : ∀ first ∈ names, ∀ second ∈ names,
    nodeName names first = nodeName names second → first = second
  ends : ∀ edge ∈ edges, edge.1 ∈ names ∧ edge.2 ∈ names

section

variable {graph : Graph} {text : Stmt → String} {names : List Nat} {edges : List (Nat × Nat)}

theorem nodup_linesOf (nodesOnce : names.Nodup) (edgesOnce : edges.Nodup)
    (ends : ∀ edge ∈ edges, edge.1 ∈ names ∧ edge.2 ∈ names) :
    (graph.linesOf text names names edges).Nodup := by
  rw [Graph.linesOf, Graph.partsOf, List.map_append, List.map_map, List.map_map]
  refine List.nodup_append'.mpr ⟨?_, ?_, ?_⟩
  · exact nodesOnce.map_on fun first firstListed second secondListed same =>
      nodeLine_inj firstListed secondListed same
  · refine edgesOnce.map_on fun edge listed other otherListed same => ?_
    obtain ⟨sources, targets⟩ := edgeLine_inj (ends edge listed).1 (ends edge listed).2
      (ends other otherListed).1 (ends other otherListed).2 same
    exact Prod.ext sources targets
  · intro line inNodes inEdges
    obtain ⟨number, _, rfl⟩ := List.mem_map.mp inNodes
    obtain ⟨edge, _, same⟩ := List.mem_map.mp inEdges
    exact nodeLine_ne_edgeLine _ _ _ _ _ _ same.symm

theorem Graph.mem_flatMap_edgesFrom {nodes : List Nat} {source target : Nat} :
    (source, target) ∈ nodes.flatMap graph.edgesFrom ↔
      source ∈ nodes ∧ target ∈ graph.next source := by
  simp [Graph.edgesFrom, List.mem_flatMap]

theorem Graph.nodup_flatMap_edgesFrom (simple : graph.Simple) {nodes : List Nat}
    (once : nodes.Nodup) : (nodes.flatMap graph.edgesFrom).Nodup := by
  refine List.nodup_flatMap.mpr ⟨?_, ?_⟩
  · intro number _
    exact (simple number).map fun first second same => (Prod.mk.inj same).2
  · refine once.imp ?_
    intro first second different edge inFirst inSecond
    obtain ⟨_, _, rfl⟩ := List.mem_map.mp inFirst
    obtain ⟨_, _, same⟩ := List.mem_map.mp inSecond
    exact different (Prod.mk.inj same).1.symm

theorem Graph.draws_allParts (simple : graph.Simple) (text : Stmt → String) :
    Draws graph text graph.preorder (graph.preorder.flatMap graph.edgesFrom)
      (graph.allParts.map (graph.dotLine text graph.preorder)) := by
  have nodesOnce : graph.preorder.Nodup := graph.nodup_preorderFrom List.nodup_nil
  have edgesOnce := Graph.nodup_flatMap_edgesFrom simple nodesOnce
  have ends : ∀ edge ∈ graph.preorder.flatMap graph.edgesFrom,
      edge.1 ∈ graph.preorder ∧ edge.2 ∈ graph.preorder := by
    rintro ⟨source, target⟩ listed
    obtain ⟨reached, edge⟩ := Graph.mem_flatMap_edgesFrom.mp listed
    refine ⟨reached, (graph.mem_preorder 0 target).mpr ?_⟩
    exact ((graph.mem_preorder 0 source).mp reached).tail edge
  have perm : graph.allParts.Perm
      (partsOf graph.preorder (graph.preorder.flatMap graph.edgesFrom)) := by
    obtain ⟨nodes, order, parts⟩ := @Graph.dotParts_perm graph []
      (2 * graph.edgeCount + 1) (graph.edgeCount + 1) [.node 0]
      (by rw [graph.unseenEdges_nil, List.length_singleton]; omega)
      (by rw [graph.unseenEdges_nil, pendingNodes_node, Nat.add_comm]; rfl)
    obtain rfl : graph.preorder = nodes := order
    exact parts
  have lines := perm.map (graph.dotLine text graph.preorder)
  exact ⟨nodesOnce, graph.mem_preorder 0, edgesOnce,
    fun source target => by rw [Graph.mem_flatMap_edgesFrom, graph.mem_preorder], lines,
    lines.nodup_iff.mpr (nodup_linesOf nodesOnce edgesOnce ends), map_nodeName nodesOnce,
    fun _ firstListed _ secondListed => nodeName_inj firstListed secondListed, ends⟩

theorem Graph.linesOf_arranged (graph : Graph) (order : Order Nat) (text : Stmt → String)
    (names nodes : List Nat) (edges : List (Nat × Nat)) :
    (graph.arranged order).linesOf text names nodes edges =
      graph.linesOf text names nodes edges := by
  apply List.map_congr_left
  intro part _
  cases part with
  | node number => simp [dotLine, nodeLine, nodeMarkup, Graph.node_arranged]
  | edge source target => rfl

/-- The order of edges does not matter for what is drawn. -/
theorem Draws.of_arranged {order : Order Nat} {lines : List String}
    (draws : Draws (graph.arranged order) text names edges lines) :
    Draws graph text names edges lines := by
  obtain ⟨nodesOnce, allReached, edgesOnce, allEdges, complete, linesOnce, counted, distinct,
    ends⟩ := draws
  rw [Graph.linesOf_arranged] at complete
  simp only [Graph.reaches_arranged, Graph.mem_next_arranged] at allReached allEdges
  exact ⟨nodesOnce, allReached, edgesOnce, allEdges, complete, linesOnce, counted, distinct,
    ends⟩

theorem Graph.dot_eq (graph : Graph) (text : Stmt → String) :
    graph.dot text = String.intercalate "\n"
      (["digraph G \x7b", "    node [fontname = \"courier new\"];"] ++
        graph.allParts.map (graph.dotLine text graph.preorder) ++ ["\x7d"]) := by
  rw [← graph.names_eq_preorder]
  rfl

end

/-- Between the opening lines and the closing brace there is one line for each node that can be
reached and one for each edge that leaves such a node, in whichever order the edges are gone
through, and however statements are shown. -/
theorem dot_draws_graph {graph : Graph} (simple : graph.Simple) (order : Order Nat)
    (text : Stmt → String) :
    ∃ names edges lines, Draws graph text names edges lines ∧
      (graph.arranged order).dot text = String.intercalate "\n"
        (["digraph G \x7b", "    node [fontname = \"courier new\"];"] ++ lines ++ ["\x7d"]) :=
  ⟨_, _, _, (Graph.draws_allParts (simple.arranged order) text).of_arranged,
    Graph.dot_eq _ text⟩

def Order.reversed {α : Type} : Order α :=
  ⟨fun _ items => items.reverse, fun _ => List.reverse_perm⟩

theorem dot_draws_unreachedTail :
    ∃ graph, (Source.block unreachedTail).graph = .ok graph ∧ graph.Simple ∧
      (∃ names edges lines, Draws graph Stmt.text names edges lines ∧
        graph.dot = String.intercalate "\n"
          (["digraph G \x7b", "    node [fontname = \"courier new\"];"] ++ lines ++ ["\x7d"])) ∧
      ∃ names edges lines, Draws graph Stmt.text names edges lines ∧
        (graph.arranged .reversed).dot = String.intercalate "\n"
          (["digraph G \x7b", "    node [fontname = \"courier new\"];"] ++ lines ++ ["\x7d"]) := by
  obtain ⟨graph, built⟩ : ∃ graph, (Source.block unreachedTail).graph = .ok graph := ⟨_, rfl⟩
  have simple := Source.simple_graph built
  refine ⟨graph, built, simple, ?_, dot_draws_graph simple .reversed Stmt.text⟩
  have drawn := dot_draws_graph simple .asGiven Stmt.text
  rwa [Graph.arranged_asGiven] at drawn

end PlcLint.Flow
