import PlcLint.Proofs.Flow.OpenPath
import PlcLint.Proofs.Flow.Reached

/-!
Walks through a program graph that note the successors of each node they take, and take the noted
nodes as a schedule has it. Every such walk takes each reachable node once, so it gives the
statements that the syntax reaches, each as often as the recursion on the syntax has it.
-/

namespace PlcLint.Flow

/-- Notes those of the numbers that are not taken yet, each once. -/
def noteNew (todo taken numbers : List Nat) : List Nat :=
  numbers.foldl
    (fun todo number => if taken.contains number then todo else insertNew todo number) todo

theorem noteNew_cons (todo taken : List Nat) (number : Nat) (rest : List Nat) :
    noteNew todo taken (number :: rest) =
      noteNew (if number ∈ taken then todo else insertNew todo number) taken rest := by
  simp [noteNew]

theorem mem_noteNew {todo taken numbers : List Nat} {candidate : Nat} :
    candidate ∈ noteNew todo taken numbers ↔
      candidate ∈ todo ∨ (candidate ∈ numbers ∧ candidate ∉ taken) := by
  induction numbers generalizing todo with
  | nil => simp [noteNew]
  | cons number rest inductionHypothesis =>
      rw [noteNew_cons, inductionHypothesis]
      by_cases old : number ∈ taken
      · rw [if_pos old]
        grind
      · rw [if_neg old, mem_insertNew]
        grind

theorem nodup_insertNew {numbers : List Nat} (distinct : numbers.Nodup) (number : Nat) :
    (insertNew numbers number).Nodup := by
  unfold insertNew
  by_cases known : number ∈ numbers
  · rwa [if_pos (by simpa using known)]
  · rw [if_neg (by simpa using known), List.nodup_append_comm]
    exact List.nodup_cons.mpr ⟨known, distinct⟩

theorem nodup_noteNew {todo taken numbers : List Nat} (distinct : todo.Nodup) :
    (noteNew todo taken numbers).Nodup := by
  induction numbers generalizing todo with
  | nil => exact distinct
  | cons number rest inductionHypothesis =>
      rw [noteNew_cons]
      apply inductionHypothesis
      split
      · exact distinct
      · exact nodup_insertNew distinct number

namespace Graph

/-- The nodes in the order in which a walk takes them. The fuel that is left tells the step. -/
def visitsBy (graph : Graph) (schedule : Schedule Nat) : Nat → List Nat → List Nat → List Nat
  | 0, _, _ => []
  | fuel + 1, todo, taken =>
    match schedule.choice.arrange fuel todo with
    | [] => []
    | number :: rest =>
      number :: graph.visitsBy schedule fuel
        (noteNew rest (number :: taken) (schedule.spread.arrange fuel (graph.next number)))
        (number :: taken)

/-- The walk from the start. -/
def walkBy (graph : Graph) (schedule : Schedule Nat) : List Nat :=
  graph.visitsBy schedule graph.size [0] []

/-- The statements that the walk gives. -/
def stmtsBy (graph : Graph) (schedule : Schedule Nat) : List Stmt :=
  (graph.walkBy schedule).flatMap graph.stmtsAt

variable {graph : Graph} {todo taken rest targets : List Nat} {number : Nat}

/-- What holds of a walk each time a node is taken: besides `Exploring`, no node is known twice. -/
structure Visiting (graph : Graph) (todo taken : List Nat) : Prop where
  exploring : Exploring graph 0 todo taken
  distinct : (todo ++ taken).Nodup

namespace Visiting

theorem initial (graph : Graph) : Visiting graph [0] [] := ⟨.initial graph 0, by simp⟩

theorem rearrange {arranged : List Nat} (same : arranged.Perm todo)
    (visiting : Visiting graph todo taken) : Visiting graph arranged taken := by
  obtain ⟨⟨first, reached, closed⟩, distinct⟩ := visiting
  refine ⟨⟨?_, ?_, ?_⟩, (same.append_right taken).nodup_iff.mpr distinct⟩
  · rwa [same.mem_iff]
  · intro number
    rw [same.mem_iff]
    exact reached number
  · intro source isTaken target edge
    rw [same.mem_iff]
    exact closed source isTaken target edge

theorem expand (visiting : Visiting graph (number :: rest) taken)
    (same : targets.Perm (graph.next number)) :
    Visiting graph (noteNew rest (number :: taken) targets) (number :: taken) := by
  have expanded := visiting.exploring.expand
  have isTaken (candidate : Nat) : candidate ∈ number :: taken ↔ candidate ∈ taken ++ [number] := by
    simp [or_comm]
  -- A number that is not noted again is taken already.
  have known (candidate : Nat) :
      candidate ∈ number :: taken ∨ candidate ∈ noteNew rest (number :: taken) targets ↔
        candidate ∈ taken ++ [number] ∨ candidate ∈ graph.next number ++ rest := by
    rw [← isTaken, mem_noteNew, same.mem_iff, List.mem_append]
    tauto
  have moved : (rest ++ number :: taken).Nodup := by
    refine (List.Perm.nodup_iff ?_).mp visiting.distinct
    exact List.perm_middle.symm
  refine ⟨⟨?_, ?_, ?_⟩, ?_⟩
  · exact (known 0).mpr expanded.first
  · exact fun candidate membership => expanded.reached candidate ((known candidate).mp membership)
  · intro source sourceTaken target edge
    exact (known target).mpr (expanded.closed source ((isTaken source).mp sourceTaken) target edge)
  · rw [List.nodup_append] at moved ⊢
    obtain ⟨restDistinct, takenDistinct, disjoint⟩ := moved
    refine ⟨nodup_noteNew restDistinct, takenDistinct, ?_⟩
    intro candidate noted other otherTaken equal
    rcases mem_noteNew.mp noted with old | ⟨_, fresh⟩
    · exact disjoint candidate old other otherTaken equal
    · exact fresh (equal ▸ otherTaken)

theorem length_le (linked : Linked graph) (visiting : Visiting graph todo taken) :
    todo.length + taken.length ≤ graph.size := by
  have included : todo ++ taken ⊆ List.range graph.size := by
    intro number known
    have reached := visiting.exploring.reached number (List.mem_append.mp known).symm
    exact List.mem_range.mpr ((enters_never.mpr reached).lt_size linked)
  simpa using (visiting.distinct.subperm included).length_le

end Visiting

/-- The fuel counts the nodes that are not taken yet, so it lasts as long as nodes are noted. -/
theorem visitsBy_run (linked : Linked graph) (schedule : Schedule Nat) (fuel : Nat)
    (visiting : Visiting graph todo taken) (enough : graph.size ≤ fuel + taken.length) :
    (graph.visitsBy schedule fuel todo taken ++ taken).Nodup ∧
      ∀ number, number ∈ graph.visitsBy schedule fuel todo taken ++ taken ↔
        graph.Reaches 0 number := by
  induction fuel generalizing todo taken with
  | zero =>
      have bound := visiting.length_le linked
      have nothing : todo = [] := List.eq_nil_of_length_eq_zero (by omega)
      subst nothing
      exact ⟨visiting.distinct, fun number => visiting.exploring.mem_iff⟩
  | succ fuel inductionHypothesis =>
      have arranged := visiting.rearrange (schedule.choice.perm fuel todo)
      rw [visitsBy]
      cases first : schedule.choice.arrange fuel todo with
      | nil =>
          rw [first] at arranged
          exact ⟨arranged.distinct, fun number => arranged.exploring.mem_iff⟩
      | cons number rest =>
          rw [first] at arranged
          have later := inductionHypothesis
            (arranged.expand (schedule.spread.perm fuel (graph.next number)))
            (by rw [List.length_cons]; omega)
          -- The node that was taken stands in front of the walk instead of among those taken.
          dsimp only
          rw [List.cons_append, ← List.perm_middle.nodup_iff]
          refine ⟨later.1, fun candidate => ?_⟩
          rw [← List.perm_middle.mem_iff]
          exact later.2 candidate

theorem nodup_walkBy (linked : Linked graph) (schedule : Schedule Nat) :
    (graph.walkBy schedule).Nodup := by
  have run := visitsBy_run linked schedule graph.size (.initial graph) (by simp)
  rw [List.append_nil] at run
  exact run.1

theorem mem_walkBy (linked : Linked graph) (schedule : Schedule Nat) :
    number ∈ graph.walkBy schedule ↔ graph.Reaches 0 number := by
  have run := visitsBy_run linked schedule graph.size (.initial graph) (by simp)
  rw [List.append_nil] at run
  exact run.2 number

/-- Every walk takes the nodes of the depth-first order. -/
theorem walkBy_perm_preorder (linked : Linked graph) (schedule : Schedule Nat) :
    (graph.walkBy schedule).Perm graph.preorder := by
  have distinct : graph.preorder.Nodup := graph.nodup_preorderFrom List.nodup_nil
  rw [List.perm_ext_iff_of_nodup (nodup_walkBy linked schedule) distinct]
  intro number
  rw [mem_walkBy linked, mem_preorder]

end Graph

/-- If the code has a graph, its statements are those that the recursion on the syntax reaches, each
as often as it has them, in whichever order the graph is walked. -/
theorem statements_perm_stmtsReached {source : Source} {graph : Graph}
    (built : source.graph = .ok graph) :
    source.statements.fault = none ∧
      source.statements.found.Perm (stmtsReached source.stmts) ∧
      ∀ schedule, (graph.stmtsBy schedule).Perm (stmtsReached source.stmts) := by
  have given : source.statements = Walk.ofList graph.reachableStmts := by
    rw [Source.statements, built]
    rfl
  have reached := Source.reachableStmts_perm built
  rw [given]
  refine ⟨rfl, reached, fun schedule => List.Perm.trans ?_ reached⟩
  exact (Graph.walkBy_perm_preorder (Source.linked_graph built) schedule).flatMap_right _

/-- `WHILE TRUE DO CASE TRUE OF TRUE: CONTINUE; TRUE: …; EXIT; END_CASE …; END_WHILE`, then a label
and `IF TRUE THEN RETURN; ELSE RETURN; END_IF`, behind which nothing is reached. -/
def unreachedTail : List Stmt :=
  [.loop ⟨1, none, none⟩ (.whileDo always) (.given
    [.select ⟨2, none, none⟩ always
      [.mk [.value always] (.given [.continueStmt ⟨3, none, none⟩]),
        .mk [.value always] (.given [mark 4, .exitStmt ⟨5, none, none⟩])] none,
      mark 6]),
    .label ⟨7, none, none⟩ "retry" (some (mark 8)),
    .ifThen ⟨9, none, none⟩ always (.given [.returnStmt ⟨10, none, none⟩, mark 11]) []
      (some (.given [.returnStmt ⟨12, none, none⟩])),
    mark 13]

theorem statements_perm_unreachedTail :
    ∃ graph, (Source.block unreachedTail).graph = .ok graph ∧
      ∀ schedule, ((graph.stmtsBy schedule).map (·.origin.serial)).Perm
        [1, 2, 2, 3, 2, 4, 5, 7, 8, 9, 10, 12] := by
  obtain ⟨graph, built⟩ : ∃ graph, (Source.block unreachedTail).graph = .ok graph := ⟨_, rfl⟩
  exact ⟨graph, built, fun schedule =>
    ((statements_perm_stmtsReached built).2.2 schedule).map (·.origin.serial)⟩

end PlcLint.Flow
