import PlcLint.Proofs.Flow.Backward
import PlcLint.Proofs.Flow.Parallel
import PlcLint.Proofs.Walk

/-!
Searches in the graphs of two bodies of one shape. If a test gives the same for the statements of a
pair, the searches give the same. If it holds also of the extra actions of the second body, a search
that finds no path in the first graph finds none in the second. The test may fail; then the search
finds no path exactly if it passes every node that it can come to. It may fail for a statement of
the first body and not for its partner, where extra actions have filled a block that was left out.
-/

namespace PlcLint.Flow

open Relation

section Search

variable {stops raised : Nat → Except Fault Bool} {edges : Nat → List Nat} {start size : Nat}

/-- The search does not go on behind the node. -/
def stopsAt (stops : Nat → Except Fault Bool) (number : Nat) : Bool :=
  match stops number with
  | .ok holds => holds
  | .error _ => false

/-- The search comes past the node: the test stops it, or it goes on along an edge. -/
def GetsPast (stops : Nat → Except Fault Bool) (edges : Nat → List Nat) (number : Nat) : Prop :=
  stops number = .ok true ∨ (stops number = .ok false ∧ edges number ≠ [])

theorem GetsPast.not_error {number : Nat} {fault : Fault} (passes : GetsPast stops edges number) :
    stops number ≠ .error fault := by
  intro failed
  rcases passes with stopped | ⟨goesOn, _⟩
  · cases failed.symm.trans stopped
  · cases failed.symm.trans goesOn

theorem GetsPast.edges_ne_nil {number : Nat} (passes : GetsPast stops edges number)
    (goesOn : stops number = .ok false) : edges number ≠ [] := by
  rcases passes with stopped | ⟨_, nonempty⟩
  · cases goesOn.symm.trans stopped
  · exact nonempty

/-- What holds in the middle of a search. The invariant is that all nodes taken so far are passed;
when none is pending, these are all that the search can come to. -/
theorem openPath_run_eq_none_iff
    (edgesBounded : ∀ source, ∀ target ∈ edges source, target < size) (fuel : Nat)
    {pending : Pending} {taken : List Nat}
    (searching : Searching (stopsAt stops) edges start size pending taken)
    (passed : ∀ number ∈ taken, GetsPast stops edges number)
    (enough : size ≤ fuel + taken.length) :
    openPath stops edges fuel pending taken = .ok none ↔
      ∀ number, ReflTransGen (OpenStep (stopsAt stops) edges) start number →
        GetsPast stops edges number := by
  induction fuel generalizing pending taken with
  | zero =>
      have nothing : pending = [] := by
        apply List.eq_nil_of_length_eq_zero
        have bound := searching.length_le
        omega
      subst nothing
      exact iff_of_true rfl fun number reached => passed number (searching.mem_taken reached)
  | succ fuel inductionHypothesis =>
      cases pending with
      | nil =>
          exact iff_of_true rfl fun number reached => passed number (searching.mem_taken reached)
      | cons entry rest =>
          obtain ⟨number, path⟩ := entry
          have reached := (searching.trails (number, path) List.mem_cons_self).reaches
          have enoughAfter : size ≤ fuel + (number :: taken).length := by
            simp only [List.length_cons]
            omega
          rw [openPath]
          cases tested : stops number with
          | error fault =>
              apply iff_of_false
              · intro found
                cases found
              · intro passes
                exact (passes number reached).not_error tested
          | ok holds =>
              cases holds with
              | true =>
                  have stopped : stopsAt stops number = true := by rw [stopsAt, tested]
                  refine inductionHypothesis (searching.skip stopped) ?_ enoughAfter
                  exact List.forall_mem_cons.mpr ⟨.inl tested, passed⟩
              | false =>
                  have goesOn : stopsAt stops number = false := by rw [stopsAt, tested]
                  by_cases final : edges number = []
                  · rw [final]
                    apply iff_of_false
                    · intro found
                      cases found
                    · intro passes
                      exact (passes number reached).edges_ne_nil tested final
                  · have expanded := searching.expand edgesBounded goesOn final (.refl _)
                    have nowPassed := List.forall_mem_cons.mpr ⟨.inr ⟨tested, final⟩, passed⟩
                    rw [← inductionHypothesis expanded nowPassed enoughAfter]
                    simp [final, bind, Except.bind]

/-- The search finds no path exactly if it passes every node that it can come to. -/
theorem openPath_eq_none_iff (edgesBounded : ∀ source, ∀ target ∈ edges source, target < size)
    (inside : start < size) :
    openPath stops edges size [(start, [])] [] = .ok none ↔
      ∀ number, ReflTransGen (OpenStep (stopsAt stops) edges) start number →
        GetsPast stops edges number :=
  openPath_run_eq_none_iff edgesBounded size (.initial inside) nofun (by simp)

/-- A test that stops the search at more nodes, or fails at fewer, lets it find no new path. -/
theorem openPath_eq_none_of_raised
    (edgesBounded : ∀ source, ∀ target ∈ edges source, target < size) (inside : start < size)
    (sameOrStopped : ∀ number, raised number = stops number ∨ raised number = .ok true ∨
      ∃ fault, stops number = .error fault)
    (nonePath : openPath stops edges size [(start, [])] [] = .ok none) :
    openPath raised edges size [(start, [])] [] = .ok none := by
  rw [openPath_eq_none_iff edgesBounded inside] at nonePath ⊢
  have steps : ∀ source target, OpenStep (stopsAt raised) edges source target →
      OpenStep (stopsAt stops) edges source target := by
    rintro source target ⟨goesOn, edge⟩
    rcases sameOrStopped source with same | stopped | ⟨fault, failed⟩
    · rw [stopsAt, same] at goesOn
      exact ⟨goesOn, edge⟩
    · rw [stopsAt, stopped] at goesOn
      cases goesOn
    · refine ⟨?_, edge⟩
      rw [stopsAt, failed]
  intro number reached
  have passed := nonePath number (ReflTransGen.mono steps _ _ reached)
  rcases sameOrStopped number with same | stopped | ⟨fault, failed⟩
  · rwa [GetsPast, same]
  · exact .inl stopped
  · exact absurd failed passed.not_error

end Search

section Tests

variable (heads : Stmt → Stmt → Prop) (extra : Stmt → Prop)

/-- The second result differs from the first only if there are extra actions: they make it true, or
the first is a fault. -/
def RaisedBy (first second : Except Fault Bool) : Prop :=
  second = first ∨ ((second = .ok true ∨ ∃ fault, first = .error fault) ∧ ∃ added, extra added)

/-- Tests that give the same for the statements of a pair, up to extra actions inside them. The
second one holds of extra actions. -/
structure TestPair (pred second : Stmt → Except Fault Bool) : Prop where
  same : ∀ {stmt other : Stmt}, StmtPair heads extra stmt other →
    RaisedBy extra (pred stmt) (second other)
  added : ∀ {stmt : Stmt}, extra stmt → second stmt = .ok true

/-- Statements that stand for each other in the two bodies. -/
structure TargetPair (target second : Stmt) : Prop where
  same : ∀ {stmt other : Stmt}, StmtPair heads extra stmt other →
    other.same second = stmt.same target
  added : ∀ {stmt : Stmt}, extra stmt → stmt.same second = false

end Tests

variable {heads : Stmt → Stmt → Prop} {extra : Stmt → Prop}
  {pred second : Stmt → Except Fault Bool} {target copied : Stmt}

namespace RaisedBy

variable {first raised : Except Fault Bool}

theorem refl (result : Except Fault Bool) : RaisedBy extra result result := .inl rfl

theorem cases (results : RaisedBy extra first raised) :
    raised = first ∨ raised = .ok true ∨ ∃ fault, first = .error fault :=
  results.imp_right And.left

theorem eq_of_none (results : RaisedBy extra first raised) (noExtra : ∀ stmt, ¬ extra stmt) :
    raised = first := by
  rcases results with same | ⟨_, added, isExtra⟩
  · exact same
  · exact absurd isExtra (noExtra added)

/-- One test after the other. -/
theorem orElse {later raisedLater : Except Fault Bool} (results : RaisedBy extra first raised)
    (laterResults : RaisedBy extra later raisedLater) :
    RaisedBy extra (Walk.orElse first later) (Walk.orElse raised raisedLater) := by
  rcases results with rfl | ⟨rfl | ⟨fault, rfl⟩, added⟩
  · cases raised with
    | error fault => exact .refl _
    | ok holds =>
        cases holds with
        | true => exact .refl _
        | false => exact laterResults
  · exact .inr ⟨.inl rfl, added⟩
  · exact .inr ⟨.inr ⟨fault, rfl⟩, added⟩

end RaisedBy

/-! Statement lists. -/

theorem StmtsPair.raised_anyOf {stmts others : List Stmt} (tests : TestPair heads extra pred second)
    (pairs : StmtsPair heads extra stmts others) :
    RaisedBy extra (Walk.anyOf pred stmts) (Walk.anyOf second others) := by
  induction pairs using StmtsPair.alongLists with
  | nil => exact .inl rfl
  | cons first _ inductionHypothesis =>
      rw [Walk.anyOf_cons, Walk.anyOf_cons]
      exact (tests.same first).orElse inductionHypothesis
  | insert added _ _ =>
      rw [Walk.anyOf, tests.added added]
      exact .inr ⟨.inl rfl, _, added⟩

theorem StmtsPair.takeWhile {stmts others : List Stmt}
    (targets : TargetPair heads extra target copied) (pairs : StmtsPair heads extra stmts others) :
    StmtsPair heads extra (stmts.takeWhile fun stmt => !stmt.same target)
      (others.takeWhile fun stmt => !stmt.same copied) := by
  induction pairs using StmtsPair.alongLists with
  | nil => exact .nil
  | cons first _ inductionHypothesis =>
      rw [List.takeWhile_cons, List.takeWhile_cons, targets.same first]
      split
      · exact .cons first inductionHypothesis
      · exact .nil
  | insert added _ inductionHypothesis =>
      rw [List.takeWhile_cons, targets.added added]
      exact .insert added inductionHypothesis

theorem StmtsPair.any_same {stmts others : List Stmt}
    (targets : TargetPair heads extra target copied) (pairs : StmtsPair heads extra stmts others) :
    others.any (·.same copied) = stmts.any (·.same target) := by
  induction pairs using StmtsPair.alongLists with
  | nil => rfl
  | cons first _ inductionHypothesis =>
      rw [List.any_cons, List.any_cons, targets.same first, inductionHypothesis]
  | insert added _ inductionHypothesis =>
      rw [List.any_cons, targets.added added, Bool.false_or, inductionHypothesis]

/-! Graphs. -/

theorem Graph.failingPath_eq_none_iff {graph : Graph} :
    graph.failingPath pred = .ok none ↔
      openPath (graph.satisfies pred) graph.next graph.size [(0, [])] [] = .ok none := by
  rw [Graph.failingPath]
  cases openPath (graph.satisfies pred) graph.next graph.size [(0, [])] [] with
  | error fault => exact iff_of_false nofun nofun
  | ok path => cases path <;> simp [bind, Except.bind, pure, Except.pure]

namespace GraphPair

variable {graph larger : Graph}

theorem edgeCount (graphs : GraphPair heads extra graph larger) :
    larger.edgeCount = graph.edgeCount := by
  rw [← Graph.unseenEdges_nil, ← Graph.unseenEdges_nil, Graph.unseenEdges, Graph.unseenEdges,
    graphs.size]
  simp only [graphs.next]

theorem preorderFrom (graphs : GraphPair heads extra graph larger) (fuel : Nat)
    (stack seen : List Nat) :
    larger.preorderFrom fuel stack seen = graph.preorderFrom fuel stack seen := by
  induction fuel generalizing stack seen with
  | zero => rfl
  | succ fuel inductionHypothesis =>
      cases stack with
      | nil => rfl
      | cons number stack =>
          rw [Graph.preorderFrom, Graph.preorderFrom, graphs.next, inductionHypothesis,
            inductionHypothesis]

theorem nodeOf? (graphs : GraphPair heads extra graph larger)
    (targets : TargetPair heads extra target copied) :
    larger.nodeOf? copied = graph.nodeOf? target := by
  have sameOrder : larger.preorder = graph.preorder := by
    rw [Graph.preorder, Graph.preorder, graphs.edgeCount, graphs.preorderFrom]
  have sameNodes : (fun number => (larger.stmtsAt number).any (·.same copied)) =
      fun number => (graph.stmtsAt number).any (·.same target) :=
    funext fun number => (graphs.stmts number).any_same targets
  rw [Graph.nodeOf?, Graph.nodeOf?, sameOrder, sameNodes]

theorem raised_satisfies (graphs : GraphPair heads extra graph larger)
    (tests : TestPair heads extra pred second) (number : Nat) :
    RaisedBy extra (graph.satisfies pred number) (larger.satisfies second number) :=
  (graphs.stmts number).raised_anyOf tests

theorem raised_satisfiesBefore (graphs : GraphPair heads extra graph larger)
    (targets : TargetPair heads extra target copied) (tests : TestPair heads extra pred second)
    (number : Nat) :
    RaisedBy extra (graph.satisfiesBefore target pred number)
      (larger.satisfiesBefore copied second number) :=
  ((graphs.stmts number).takeWhile targets).raised_anyOf tests

theorem failingPath_eq (graphs : GraphPair heads extra graph larger)
    (tests : TestPair heads extra pred second) (noExtra : ∀ stmt, ¬ extra stmt) :
    larger.failingPath second = graph.failingPath pred := by
  have sameStops : larger.satisfies second = graph.satisfies pred :=
    funext fun number => (graphs.raised_satisfies tests number).eq_of_none noExtra
  rw [Graph.failingPath, Graph.failingPath, sameStops, funext graphs.next, graphs.size]

theorem failingPathTo_eq (graphs : GraphPair heads extra graph larger)
    (targets : TargetPair heads extra target copied) (tests : TestPair heads extra pred second)
    (noExtra : ∀ stmt, ¬ extra stmt) :
    larger.failingPathTo copied second = graph.failingPathTo target pred := by
  have sameStops : larger.satisfiesBefore copied second = graph.satisfiesBefore target pred :=
    funext fun number => (graphs.raised_satisfiesBefore targets tests number).eq_of_none noExtra
  rw [Graph.failingPathTo, Graph.failingPathTo, graphs.nodeOf? targets, sameStops,
    funext graphs.prev, graphs.size]

theorem failingPath_eq_none (graphs : GraphPair heads extra graph larger) (linked : Linked graph)
    (tests : TestPair heads extra pred second) (nonePath : graph.failingPath pred = .ok none) :
    larger.failingPath second = .ok none := by
  rw [Graph.failingPath_eq_none_iff] at nonePath ⊢
  rw [funext graphs.next, graphs.size]
  exact openPath_eq_none_of_raised linked.bounded linked.nonempty
    (fun number => (graphs.raised_satisfies tests number).cases) nonePath

theorem failingPathTo_eq_none (graphs : GraphPair heads extra graph larger) (linked : Linked graph)
    (targets : TargetPair heads extra target copied) (tests : TestPair heads extra pred second)
    (nonePath : graph.failingPathTo target pred = .ok none) :
    larger.failingPathTo copied second = .ok none := by
  rw [Graph.failingPathTo, graphs.nodeOf? targets, funext graphs.prev, graphs.size]
  rw [Graph.failingPathTo] at nonePath
  cases found : graph.nodeOf? target with
  | none => rfl
  | some number =>
      rw [found] at nonePath
      have inside := linked.reaches_lt (Graph.nodeOf?_eq_some found).1
      exact openPath_eq_none_of_raised linked.prev_lt inside
        (fun number => (graphs.raised_satisfiesBefore targets tests number).cases) nonePath

end GraphPair

/-! Bodies. -/

namespace Source

variable {source other : Source}

/-- Bodies in pairs, without extra actions, give the same results and fail with the same faults. -/
theorem onAllPaths_eq_of_pairs (pairs : StmtsPair heads extra source.stmts other.stmts)
    (tests : TestPair heads extra pred second) (noExtra : ∀ stmt, ¬ extra stmt) :
    other.onAllPaths second = source.onAllPaths pred := by
  refine (graph_alike pairs).bind_eq fun graph larger graphs => ?_
  rw [graphs.failingPath_eq tests noExtra]

theorem onAllPathsTo_eq_of_pairs (pairs : StmtsPair heads extra source.stmts other.stmts)
    (targets : TargetPair heads extra target copied) (tests : TestPair heads extra pred second)
    (noExtra : ∀ stmt, ¬ extra stmt) :
    other.onAllPathsTo copied second = source.onAllPathsTo target pred := by
  refine (graph_alike pairs).bind_eq fun graph larger graphs => ?_
  rw [graphs.failingPathTo_eq targets tests noExtra]

/-- The answer is yes if a graph is built and the search in it finds no path. -/
theorem search_eq_true_iff {built : Except Fault Graph}
    {search : Graph → Except Fault (Option (List Nat))} :
    (do let graph ← built; return (← search graph).isNone) = .ok true ↔
      ∃ graph, built = .ok graph ∧ search graph = .ok none := by
  constructor
  · intro holds
    obtain ⟨graph, isBuilt, searched⟩ := bind_eq_ok holds
    obtain ⟨path, found, isNone⟩ := bind_eq_ok searched
    cases path with
    | none => exact ⟨graph, isBuilt, found⟩
    | some path => cases isNone
  · rintro ⟨graph, isBuilt, found⟩
    rw [isBuilt]
    change (do return (← search graph).isNone) = Except.ok true
    rw [found]
    rfl

/-- Extra actions of which the test holds leave it true that it holds on all paths. -/
theorem onAllPaths_of_pairs (pairs : StmtsPair heads extra source.stmts other.stmts)
    (tests : TestPair heads extra pred second) (holds : source.onAllPaths pred = .ok true) :
    other.onAllPaths second = .ok true := by
  obtain ⟨graph, built, nonePath⟩ := search_eq_true_iff.mp holds
  have alike := graph_alike pairs
  rw [built] at alike
  obtain ⟨larger, builtToo, graphs⟩ := alike.exists_ok
  have noneToo := graphs.failingPath_eq_none (linked_graph built) tests nonePath
  exact search_eq_true_iff.mpr ⟨larger, builtToo, noneToo⟩

theorem onAllPathsTo_of_pairs (pairs : StmtsPair heads extra source.stmts other.stmts)
    (targets : TargetPair heads extra target copied) (tests : TestPair heads extra pred second)
    (holds : source.onAllPathsTo target pred = .ok true) :
    other.onAllPathsTo copied second = .ok true := by
  obtain ⟨graph, built, nonePath⟩ := search_eq_true_iff.mp holds
  have alike := graph_alike pairs
  rw [built] at alike
  obtain ⟨larger, builtToo, graphs⟩ := alike.exists_ok
  have noneToo := graphs.failingPathTo_eq_none (linked_graph built) targets tests nonePath
  exact search_eq_true_iff.mpr ⟨larger, builtToo, noneToo⟩

end Source

end PlcLint.Flow
