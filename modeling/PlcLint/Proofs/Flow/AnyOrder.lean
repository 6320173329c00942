import PlcLint.Proofs.Flow.Homes
import PlcLint.Proofs.Flow.Structural
import PlcLint.Proofs.Flow.Visiting

/-!
The searches for failing paths, with pending nodes taken and edges gone through in any order. Every
order gives a right answer, so the verdict is always the same. The search back to a statement may
start at any node that holds it: from each of them it comes to the home of the statement.
-/

namespace PlcLint.Flow

open Relation

variable {graph : Graph} {pred : Stmt → Bool} {target : Stmt} {blocked : Nat → Bool}
  {edges : Nat → List Nat} {start home number : Nat} {numbers path : List Nat}

namespace Graph

/-- The search for a failing path as a schedule has it. -/
def failingPathBy (graph : Graph) (search : Schedule (Nat × List Nat))
    (pred : Stmt → Except Fault Bool) : Except Fault (Option (List Nat)) := do
  let path ← openPathBy search (graph.satisfies pred) graph.next graph.size [(0, [])] []
  return path.map List.reverse

/-- The search back from the first of the nodes that holds the statement. -/
def failingPathFrom (graph : Graph) (numbers : List Nat) (search : Schedule (Nat × List Nat))
    (target : Stmt) (pred : Stmt → Except Fault Bool) : Except Fault (Option (List Nat)) :=
  match numbers.find? fun number => (graph.stmtsAt number).any (·.same target) with
  | none => .ok none
  | some number =>
    openPathBy search (graph.satisfiesBefore target pred) graph.prev graph.size [(number, [])] []

/-- The search for a failing path to a statement, with one schedule for the walk that finds the
statement and one for the search back. -/
def failingPathToBy (graph : Graph) (walk : Schedule Nat) (search : Schedule (Nat × List Nat))
    (target : Stmt) (pred : Stmt → Except Fault Bool) : Except Fault (Option (List Nat)) :=
  graph.failingPathFrom (graph.walkBy walk) search target pred

theorem failingPath_eq_failingPathBy (graph : Graph) (pred : Stmt → Except Fault Bool) :
    graph.failingPath pred = graph.failingPathBy .asGiven pred := by
  rw [failingPath, failingPathBy, openPath_eq_openPathBy]

theorem failingPathTo_eq_failingPathFrom (graph : Graph) (target : Stmt)
    (pred : Stmt → Except Fault Bool) :
    graph.failingPathTo target pred =
      graph.failingPathFrom graph.preorder .asGiven target pred := by
  rw [failingPathTo, failingPathFrom]
  simp only [openPath_eq_openPathBy]
  rfl

end Graph

/-- A node without further edges can be reached along nodes that do not stop the search. -/
def LeadsOut (blocked : Nat → Bool) (edges : Nat → List Nat) (start : Nat) : Prop :=
  ∃ number, ReflTransGen (OpenStep blocked edges) start number ∧
    blocked number = false ∧ edges number = []

/-- The ways out of a node that does not stop the search and has one edge are those behind it. -/
theorem leadsOut_of_single {next : Nat} (goesOn : blocked start = false)
    (single : edges start = [next]) :
    LeadsOut blocked edges start ↔ LeadsOut blocked edges next := by
  have move {number : Nat} : OpenStep blocked edges start number ↔ number = next := by
    simp [OpenStep, goesOn, single]
  constructor
  · rintro ⟨number, reached, unblocked, final⟩
    rcases ReflTransGen.cases_head reached with rfl | ⟨second, step, rest⟩
    · simp [single] at final
    · exact ⟨number, move.mp step ▸ rest, unblocked, final⟩
  · rintro ⟨number, reached, out⟩
    exact ⟨number, .head (move.mpr rfl) reached, out⟩

/-- A failing path leads out of the start. -/
theorem FailingPath.leadsOut (failing : FailingPath pred graph path) :
    LeadsOut (graph.meets pred) graph.next 0 := by
  have unmet : ∀ number ∈ path, graph.meets pred number = false := by
    intro number membership
    simpa [Graph.meets] using failing.missed number membership
  have steps : path.IsChain (OpenStep (graph.meets pred) graph.next) :=
    failing.chain.imp_of_mem_imp fun source _ passed _ edge => ⟨unmet source passed, edge⟩
  obtain ⟨rest, rfl⟩ := List.head?_eq_some_iff.mp failing.start
  obtain ⟨last, isLast, final⟩ := failing.final
  rw [List.getLast?_eq_getLast_of_ne_nil (List.cons_ne_nil 0 rest), Option.some.injEq] at isLast
  refine ⟨last, List.relationReflTransGen_of_exists_isChain_cons rest steps isLast, ?_, final⟩
  exact unmet last (isLast ▸ List.getLast_mem _)

/-- In any order the search for a failing path answers rightly, with a path that is simple. -/
theorem failingPathBy_answers (pred : Stmt → Bool) (linked : Linked graph)
    (search : Schedule (Nat × List Nat)) :
    ∃ result, graph.failingPathBy search (fun stmt => .ok (pred stmt)) = .ok result ∧
      (result.isSome = true ↔ LeadsOut (graph.meets pred) graph.next 0) ∧
      ∀ path, result = some path → FailingPath pred graph path ∧ path.Nodup := by
  obtain ⟨answer, searched, right, simple⟩ := openPathBy_answers search (graph.meets pred)
    linked.bounded linked.nonempty
  refine ⟨answer.map List.reverse, ?_, ?_, fun path isPath => ?_⟩
  · rw [Graph.failingPathBy, Graph.satisfies_ok, searched]
    rfl
  · rw [Option.isSome_map]
    exact right.isSome_iff
  · obtain ⟨newestFirst, rfl, rfl⟩ := Option.map_eq_some_iff.mp isPath
    obtain ⟨number, passed, rfl, trail, missed, final⟩ := right
    exact ⟨trail.failingPath missed final, List.nodup_reverse.mpr (simple _ rfl)⟩

/-- From every node that holds the statement the search back has a way out exactly if it has one
from the home of the statement. -/
theorem Homed.leadsOut_iff (homed : Homed target home graph) (pred : Stmt → Bool)
    (holds : graph.Holds target number) :
    LeadsOut (fun number => (graph.stmtsBefore target number).any pred) graph.prev number ↔
      LeadsOut (fun number => (graph.stmtsBefore target number).any pred) graph.prev home := by
  rcases homed number holds with rfl | ⟨behind, owned⟩
  · rfl
  · refine leadsOut_of_single ?_ behind
    rw [owned.stmtsBefore_eq_nil, List.any_nil]

/-- The verdict of the search back does not depend on its order, nor on the order in which the
reachable nodes are looked through. -/
theorem failingPathFrom_verdict (pred : Stmt → Bool) (linked : Linked graph)
    (homed : Homed target home graph) (search : Schedule (Nat × List Nat))
    (reachable : ∀ number, number ∈ numbers ↔ graph.Reaches 0 number) :
    ∃ result, graph.failingPathFrom numbers search target (fun stmt => .ok (pred stmt)) =
        .ok result ∧
      (result.isSome = true ↔ (∃ number, graph.Reaches 0 number ∧ graph.Holds target number) ∧
        LeadsOut (fun number => (graph.stmtsBefore target number).any pred) graph.prev home) := by
  have holdsIff (number : Nat) :
      (graph.stmtsAt number).any (·.same target) = true ↔ graph.Holds target number :=
    List.any_eq_true
  rw [Graph.failingPathFrom]
  cases isFound : numbers.find? fun number => (graph.stmtsAt number).any (·.same target) with
  | none =>
      refine ⟨none, rfl, iff_of_false nofun ?_⟩
      rintro ⟨⟨number, reaches, holds⟩, _⟩
      exact List.find?_eq_none.mp isFound number ((reachable number).mpr reaches)
        ((holdsIff number).mpr holds)
  | some number =>
      have reaches := (reachable number).mp (List.mem_of_find?_eq_some isFound)
      have found := List.find?_some isFound
      have holds := (holdsIff number).mp found
      obtain ⟨answer, searched, right, _⟩ := openPathBy_answers search
        (fun number => (graph.stmtsBefore target number).any pred) linked.prev_lt
        (linked.reaches_lt reaches)
      refine ⟨answer, ?_, ?_⟩
      · rw [← searched, ← Graph.satisfiesBefore_ok]
      · rw [and_iff_right ⟨number, reaches, holds⟩, ← homed.leadsOut_iff pred holds]
        exact right.isSome_iff

/-- In whichever order pending nodes are taken and edges are gone through, the search for a failing
path gives one that repeats no node, or none if there is none. The verdicts of this search and of
the search back to a statement do not depend on the order; the statement stands in the code once at
most, since it is told from others by its serial number. -/
theorem verdicts_agree_in_any_order {source : Source} {graph : Graph} (pred : Stmt → Bool)
    (built : source.graph = .ok graph) :
    (∀ search, ∃ result usual,
      graph.failingPathBy search (fun stmt => .ok (pred stmt)) = .ok result ∧
      graph.failingPath (fun stmt => .ok (pred stmt)) = .ok usual ∧
      result.isSome = usual.isSome ∧
      (∀ path, result = some path → FailingPath pred graph path ∧ path.Nodup) ∧
      (result = none → ∀ path, ¬FailingPath pred graph path)) ∧
    ∀ target, timesIn target source.occurrences ≤ 1 → ∀ walk search,
      ∃ result usual,
        graph.failingPathToBy walk search target (fun stmt => .ok (pred stmt)) = .ok result ∧
        graph.failingPathTo target (fun stmt => .ok (pred stmt)) = .ok usual ∧
        result.isSome = usual.isSome := by
  have linked := Source.linked_graph built
  constructor
  · intro search
    obtain ⟨result, searched, verdict, valid⟩ := failingPathBy_answers pred linked search
    obtain ⟨usual, usualSearched, usualVerdict, _⟩ := failingPathBy_answers pred linked .asGiven
    rw [← Graph.failingPath_eq_failingPathBy] at usualSearched
    refine ⟨result, usual, searched, usualSearched, ?_, valid, ?_⟩
    · rw [Bool.eq_iff_iff, verdict, usualVerdict]
    · rintro rfl path failing
      exact Bool.false_ne_true (verdict.mpr failing.leadsOut)
  · intro target once walk search
    obtain ⟨home, homed⟩ := Source.exists_home built once
    obtain ⟨result, searched, verdict⟩ := failingPathFrom_verdict pred linked homed search
      fun number => Graph.mem_walkBy linked walk
    obtain ⟨usual, usualSearched, usualVerdict⟩ := failingPathFrom_verdict pred linked homed
      .asGiven (graph.mem_preorder 0)
    rw [← Graph.failingPathTo_eq_failingPathFrom] at usualSearched
    refine ⟨result, usual, searched, usualSearched, ?_⟩
    rw [Bool.eq_iff_iff, verdict, usualVerdict]

/-- A statement that is on three nodes: its own, and those of its arms. -/
def caseInLoop : Stmt :=
  .select ⟨2, none, none⟩ always
    [.mk [.value always] (.given [.continueStmt ⟨3, none, none⟩]),
      .mk [.value always] (.given [mark 4])] none

/-- `WHILE TRUE DO CASE TRUE OF TRUE: CONTINUE; TRUE: …; END_CASE END_WHILE` -/
def loopOverCase : List Stmt :=
  [.loop ⟨1, none, none⟩ (.whileDo always) (.given [caseInLoop])]

theorem verdicts_agree_on_loopOverCase :
    ∃ graph, (Source.block loopOverCase).graph = .ok graph ∧
      (∀ search, ∃ path, graph.failingPathBy search (fun stmt => .ok (stmt.same (mark 4))) =
        .ok (some path) ∧ path.Nodup) ∧
      ∀ walk search, graph.failingPathToBy walk search caseInLoop
        (fun stmt => .ok (stmt.origin.serial == 1)) = .ok none := by
  obtain ⟨graph, built⟩ : ∃ graph, (Source.block loopOverCase).graph = .ok graph := ⟨_, rfl⟩
  have around : ∃ path, graph.failingPath (fun stmt => .ok (stmt.same (mark 4))) =
      .ok (some path) := by
    cases built
    exact ⟨[0, 1, 8, 3], by decide +kernel⟩
  have inside : graph.failingPathTo caseInLoop (fun stmt => .ok (stmt.origin.serial == 1)) =
      .ok none := by
    cases built
    decide +kernel
  refine ⟨graph, built, fun search => ?_, fun walk search => ?_⟩
  · obtain ⟨usualPath, isUsual⟩ := around
    obtain ⟨result, usual, searched, usualSearched, agree, valid, _⟩ :=
      (verdicts_agree_in_any_order (·.same (mark 4)) built).1 search
    obtain rfl : usual = some usualPath := Except.ok.inj (usualSearched.symm.trans isUsual)
    obtain ⟨path, rfl⟩ := Option.isSome_iff_exists.mp agree
    exact ⟨path, searched, (valid path rfl).2⟩
  · obtain ⟨result, usual, searched, usualSearched, agree⟩ :=
      (verdicts_agree_in_any_order (·.origin.serial == 1) built).2 caseInLoop (by decide) walk
        search
    obtain rfl : usual = none := Except.ok.inj (usualSearched.symm.trans inside)
    obtain rfl : result = none := by simpa using agree
    exact searched

end PlcLint.Flow
