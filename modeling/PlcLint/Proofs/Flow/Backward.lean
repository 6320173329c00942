import PlcLint.Proofs.Flow.Growth
import PlcLint.Proofs.Flow.OpenPath
import PlcLint.Proofs.Flow.Preorder
import PlcLint.Proofs.Flow.Rooted

/-!
The search backwards from a statement. It finds every way back to a node without predecessor on
which the predicate holds nowhere before the statement. The start is such a node, so no way from
the start is missed; but a join that no branch reaches is one too.
-/

namespace PlcLint.Flow

open Relation

variable {graph : Graph} {pred : Stmt → Bool} {target : Stmt}

namespace Graph

/-- The statements of a node that stand before `target`. -/
abbrev stmtsBefore (graph : Graph) (target : Stmt) (number : Nat) : List Stmt :=
  (graph.stmtsAt number).takeWhile fun stmt => !stmt.same target

/-- The node holds the statement. -/
def Holds (graph : Graph) (target : Stmt) (number : Nat) : Prop :=
  ∃ stmt ∈ graph.stmtsAt number, stmt.same target = true

/-- Nodes along edges. -/
abbrev IsPath (graph : Graph) (path : List Nat) : Prop :=
  path.IsChain fun source target => target ∈ graph.next source

theorem satisfiesBefore_ok (graph : Graph) (target : Stmt) (pred : Stmt → Bool) :
    graph.satisfiesBefore target (fun stmt => .ok (pred stmt)) =
      fun number => .ok ((graph.stmtsBefore target number).any pred) := by
  funext number
  exact Walk.anyOf_ok pred (graph.stmtsBefore target number)

theorem nodeOf?_eq_some {number : Nat} (found : graph.nodeOf? target = some number) :
    graph.Reaches 0 number ∧ graph.Holds target number := by
  have holds := List.find?_some found
  have listed := List.mem_of_find?_eq_some found
  exact ⟨(graph.mem_preorder 0 number).mp listed, by simpa [Holds] using holds⟩

theorem exists_nodeOf? {number : Nat} (reaches : graph.Reaches 0 number)
    (holds : graph.Holds target number) : ∃ found, graph.nodeOf? target = some found := by
  apply Option.isSome_iff_exists.mp
  apply List.find?_isSome.mpr
  exact ⟨number, (graph.mem_preorder 0 number).mpr reaches, by simpa [Holds] using holds⟩

end Graph

theorem Linked.reaches_lt {number : Nat} (linked : Linked graph)
    (reaches : graph.Reaches 0 number) :
    number < graph.size := by
  cases reaches with
  | refl => exact linked.nonempty
  | tail _ edge => exact linked.bounded _ _ edge

theorem Linked.prev_lt (linked : Linked graph) :
    ∀ number, ∀ before ∈ graph.prev number, before < graph.size := fun number before edge =>
  Graph.lt_size_of_mem_next ((linked.converse before number).mpr edge)

theorem failingPathTo_answers (pred : Stmt → Bool) (linked : Linked graph) {number : Nat}
    (found : graph.nodeOf? target = some number) :
    ∃ answer, graph.failingPathTo target (fun stmt => .ok (pred stmt)) = .ok answer ∧
      Answers (fun number => (graph.stmtsBefore target number).any pred) graph.prev number
        answer := by
  obtain ⟨answer, searched, right⟩ := openPath_answers
    (fun number => (graph.stmtsBefore target number).any pred) linked.prev_lt
    (linked.reaches_lt (Graph.nodeOf?_eq_some found).1)
  refine ⟨answer, ?_, right⟩
  rw [Graph.failingPathTo, found]
  dsimp only
  rw [Graph.satisfiesBefore_ok, searched]

/-- A path that meets nothing before the statement is one that the search can take back. -/
theorem Linked.reaches_back (linked : Linked graph) {blocked : Nat → Bool} {first : Nat}
    {path : List Nat} (isPath : graph.IsPath (first :: path))
    (unblocked : ∀ number ∈ first :: path, blocked number = false) :
    ∃ last, (first :: path).getLast? = some last ∧
      ReflTransGen (OpenStep blocked graph.prev) last first := by
  induction path generalizing first with
  | nil => exact ⟨first, rfl, .refl⟩
  | cons second path inductionHypothesis =>
      obtain ⟨edge, rest⟩ := List.isChain_cons_cons.mp isPath
      rw [List.forall_mem_cons] at unblocked
      obtain ⟨last, isLast, back⟩ := inductionHypothesis rest unblocked.2
      refine ⟨last, by simpa using isLast, back.tail ?_⟩
      exact ⟨unblocked.2 second List.mem_cons_self, (linked.converse first second).mp edge⟩

/-- If the search back from a reachable statement gives no path, then on every path from the start
to the node found for the statement, a satisfying statement stands before it. -/
theorem satisfied_before_of_no_failingPathTo (pred : Stmt → Bool) (source : Source)
    (target : Stmt) (built : source.graph = .ok graph)
    (reachable : ∃ number, graph.Reaches 0 number ∧ graph.Holds target number) :
    ∃ found, graph.nodeOf? target = some found ∧ graph.Holds target found ∧
      ∃ result, graph.failingPathTo target (fun stmt => .ok (pred stmt)) = .ok result ∧
        (result = none → ∀ path, graph.IsPath path → path.head? = some 0 →
          path.getLast? = some found →
            ∃ number ∈ path, ∃ stmt ∈ graph.stmtsBefore target number, pred stmt = true) := by
  have linked := Source.linked_graph built
  obtain ⟨number, reaches, holds⟩ := reachable
  obtain ⟨found, isFound⟩ := Graph.exists_nodeOf? reaches holds
  obtain ⟨answer, searched, right⟩ := failingPathTo_answers pred linked isFound
  refine ⟨found, isFound, (Graph.nodeOf?_eq_some isFound).2, answer, searched, ?_⟩
  rintro rfl path isPath isFirst isLast
  obtain ⟨rest, rfl⟩ := List.head?_eq_some_iff.mp isFirst
  apply Classical.byContradiction
  intro nowhere
  have unblocked : ∀ number ∈ 0 :: rest,
      (graph.stmtsBefore target number).any pred = false := by
    intro number membership
    rw [List.any_eq_false]
    intro stmt stands satisfies
    exact nowhere ⟨number, membership, stmt, stands, satisfies⟩
  obtain ⟨last, isLast', back⟩ := linked.reaches_back isPath unblocked
  obtain rfl : found = last := Option.some.inj (isLast.symm.trans isLast')
  -- The start is never blocked on this way, and it has no predecessor.
  rcases right 0 back with blocked | predecessor
  · exact absurd blocked (Bool.eq_false_iff.mp (unblocked 0 List.mem_cons_self))
  · exact predecessor linked.start

/-- `IF TRUE THEN …; ELSE …; END_IF WHILE TRUE DO IF TRUE THEN CONTINUE; END_IF END_WHILE`, then one
more statement. The branches hold the statements with numbers `2` and `3`. -/
def assignedBefore : List Stmt :=
  [.ifThen ⟨1, none, none⟩ always (.given [mark 2]) []
      (some (.given [mark 3])),
    .loop ⟨4, none, none⟩ (.whileDo always) (.given
      [.ifThen ⟨5, none, none⟩ always (.given [.continueStmt ⟨6, none, none⟩]) [] none]),
    mark 7]

theorem satisfied_before_in_assignedBefore :
    ∃ graph found, (Source.block assignedBefore).graph = .ok graph ∧
      graph.nodeOf? (mark 7) = some found ∧
      ∀ path, graph.IsPath path → path.head? = some 0 → path.getLast? = some found →
        ∃ number ∈ path, ∃ stmt ∈ graph.stmtsBefore (mark 7) number,
          (stmt.origin.serial == 2 || stmt.origin.serial == 3) = true := by
  obtain ⟨graph, built⟩ : ∃ graph, (Source.block assignedBefore).graph = .ok graph := ⟨_, rfl⟩
  have listed : 6 ∈ graph.preorder ∧ mark 7 ∈ graph.stmtsAt 6 := by
    cases built
    exact ⟨by decide +kernel, .head _⟩
  have nothing : graph.failingPathTo (mark 7)
      (fun stmt => .ok (stmt.origin.serial == 2 || stmt.origin.serial == 3)) = .ok none := by
    cases built
    decide +kernel
  obtain ⟨found, isFound, _, result, searched, sound⟩ := satisfied_before_of_no_failingPathTo
    (fun stmt => stmt.origin.serial == 2 || stmt.origin.serial == 3) (.block assignedBefore)
    (mark 7) built ⟨6, (graph.mem_preorder 0 6).mp listed.1, mark 7, listed.2, rfl⟩
  exact ⟨graph, found, built, isFound, sound (Except.ok.inj (searched.symm.trans nothing))⟩

/-- A node without predecessor can be reached only if it is the start. -/
theorem Linked.eq_start (linked : Linked graph) {number : Nat} (orphan : graph.prev number = [])
    (reaches : graph.Reaches 0 number) : number = 0 := by
  cases reaches with
  | refl => rfl
  | tail _ edge =>
      have predecessor := (linked.converse _ _).mp edge
      rw [orphan] at predecessor
      cases predecessor

theorem Graph.IsPath.reaches {first : Nat} {path : List Nat}
    (isPath : graph.IsPath (first :: path)) :
    ∀ number ∈ first :: path, graph.Reaches first number := by
  induction path generalizing first with
  | nil =>
      intro number membership
      rw [List.mem_singleton.mp membership]
      exact .refl
  | cons second path inductionHypothesis =>
      obtain ⟨edge, rest⟩ := List.isChain_cons_cons.mp isPath
      intro number membership
      rcases List.mem_cons.mp membership with rfl | later
      · exact .refl
      · exact .head edge (inductionHypothesis rest number later)

/-- A path along edges to a node of the statement before which nothing on the path satisfies. -/
structure PathTo (pred : Stmt → Bool) (target : Stmt) (graph : Graph) (path : List Nat) : Prop where
  isPath : graph.IsPath path
  final : ∃ last, path.getLast? = some last ∧ graph.nodeOf? target = some last ∧
    graph.Holds target last
  missed : ∀ number ∈ path, ∀ stmt ∈ graph.stmtsBefore target number, pred stmt = false

theorem PathTo.first_lt {first : Nat} {rest : List Nat} (linked : Linked graph)
    (pathTo : PathTo pred target graph (first :: rest)) : first < graph.size := by
  cases rest with
  | nil =>
      obtain ⟨last, isLast, isFound, _⟩ := pathTo.final
      obtain rfl : first = last := by simpa using isLast
      exact linked.reaches_lt (Graph.nodeOf?_eq_some isFound).1
  | cons second rest =>
      exact Graph.lt_size_of_mem_next (List.isChain_cons_cons.mp pathTo.isPath).1

theorem failingPathTo_pathTo {path : List Nat} (linked : Linked graph)
    (searched : graph.failingPathTo target (fun stmt => .ok (pred stmt)) = .ok (some path)) :
    PathTo pred target graph path ∧ ∃ first, path.head? = some first ∧ graph.prev first = [] := by
  cases isFound : graph.nodeOf? target with
  | none => simp [Graph.failingPathTo, isFound] at searched
  | some found =>
      obtain ⟨answer, answered, right⟩ := failingPathTo_answers pred linked isFound
      obtain rfl : answer = some path := Except.ok.inj (answered.symm.trans searched)
      obtain ⟨first, passed, rfl, trail, unblocked, orphan⟩ := right
      refine ⟨⟨?_, ⟨found, trail.getLast?, isFound, (Graph.nodeOf?_eq_some isFound).2⟩, ?_⟩,
        first, rfl, orphan⟩
      · exact trail.isChain.imp fun later earlier edge => (linked.converse later earlier).mpr edge
      · intro number membership
        have missed : (graph.stmtsBefore target number).any pred = false := by
          rcases List.mem_cons.mp membership with rfl | older
          · exact unblocked
          · exact trail.unblocked number older
        simpa using missed

/-- A path that the search gives is one along edges to the statement, before which nothing on it
satisfies. It begins at the start exactly if its nodes can be reached, and it does so whenever every
join of the code is reached. -/
theorem failingPathTo_begins {path : List Nat} (pred : Stmt → Bool) (source : Source)
    (target : Stmt) (built : source.graph = .ok graph)
    (searched : graph.failingPathTo target (fun stmt => .ok (pred stmt)) = .ok (some path)) :
    PathTo pred target graph path ∧
      (path.head? = some 0 ↔ ∀ number ∈ path, graph.Reaches 0 number) ∧
      (joinedStmts source.stmts = true → path.head? = some 0) := by
  have linked := Source.linked_graph built
  obtain ⟨pathTo, first, isFirst, orphan⟩ := failingPathTo_pathTo linked searched
  obtain ⟨rest, rfl⟩ := List.head?_eq_some_iff.mp isFirst
  refine ⟨pathTo, ⟨?_, ?_⟩, ?_⟩
  · intro begins
    obtain rfl := Option.some.inj begins
    exact pathTo.isPath.reaches
  · intro reaches
    rw [linked.eq_start orphan (reaches first List.mem_cons_self)]
    rfl
  · intro joined
    have inside := pathTo.first_lt linked
    have isStart : first = 0 := by
      apply Nat.eq_zero_of_not_pos
      intro notStart
      exact Source.prev_ne_nil built joined notStart inside orphan
    rw [isStart]
    rfl

/-- `IF TRUE THEN …; END_IF WHILE TRUE DO IF TRUE THEN CONTINUE; END_IF END_WHILE`, then one more
statement. The branch holds the statement with number `2`. -/
def skippedBefore : List Stmt :=
  [.ifThen ⟨1, none, none⟩ always (.given [mark 2]) [] none,
    .loop ⟨3, none, none⟩ (.whileDo always) (.given
      [.ifThen ⟨4, none, none⟩ always (.given [.continueStmt ⟨5, none, none⟩]) [] none]),
    mark 6]

theorem failingPathTo_skippedBefore :
    ∃ graph path, (Source.block skippedBefore).graph = .ok graph ∧
      graph.failingPathTo (mark 6) (fun stmt => .ok (stmt.origin.serial == 2)) = .ok (some path) ∧
      PathTo (fun stmt => stmt.origin.serial == 2) (mark 6) graph path ∧
      path.head? = some 0 := by
  obtain ⟨graph, built⟩ : ∃ graph, (Source.block skippedBefore).graph = .ok graph := ⟨_, rfl⟩
  have searched : graph.failingPathTo (mark 6) (fun stmt => .ok (stmt.origin.serial == 2)) =
      .ok (some [0, 3, 1, 4, 10, 6]) := by
    cases built
    decide +kernel
  obtain ⟨pathTo, _, begins⟩ := failingPathTo_begins (fun stmt => stmt.origin.serial == 2)
    (.block skippedBefore) (mark 6) built searched
  exact ⟨graph, _, built, searched, pathTo, begins rfl⟩

/-- A statement, `IF TRUE THEN IF TRUE THEN RETURN; ELSE RETURN; END_IF END_IF`, and one more
statement. -/
def orphanedJoin : List Stmt :=
  [mark 1,
    .ifThen ⟨2, none, none⟩ always (.given
      [.ifThen ⟨3, none, none⟩ always (.given [.returnStmt ⟨4, none, none⟩]) []
        (some (.given [.returnStmt ⟨5, none, none⟩]))]) [] none,
    mark 6]

/-- The search gives a path that does not begin at the start, although the first statement stands
on every path from the start to the last one. -/
theorem orphanedJoin_misleads :
    ∃ graph path, (Source.block orphanedJoin).graph = .ok graph ∧
      graph.failingPathTo (mark 6) (fun stmt => .ok (stmt.origin.serial == 1)) = .ok (some path) ∧
      path.head? ≠ some 0 ∧
      ∀ real, graph.IsPath real → real.head? = some 0 →
        ∃ number ∈ real, ∃ stmt ∈ graph.stmtsBefore (mark 6) number,
          (stmt.origin.serial == 1) = true := by
  refine ⟨_, [3, 1], rfl, rfl, by decide, ?_⟩
  intro real _ isFirst
  exact ⟨0, List.mem_of_mem_head? isFirst, mark 1, .head _, rfl⟩

end PlcLint.Flow
