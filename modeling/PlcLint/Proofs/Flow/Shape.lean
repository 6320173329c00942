import PlcLint.Proofs.Flow.Steps

/-!
The shape of a program graph. Each guarded step of the construction keeps the code of the nodes
within the source, keeps every `RETURN` at an end and closes no cycle but with a `CONTINUE`.
-/

namespace PlcLint.Flow

open Relation

namespace Graph

variable {graph : Graph} {number : Nat}

@[simp]
theorem ownStmts_add (label : Option String) (owner : Option Stmt) :
    (graph.add { label := label, owner := owner }).ownStmts number = graph.ownStmts number := by
  rw [ownStmts, ownStmts, ownerAt_add, node_add]
  by_cases fresh : number = graph.size
  · simp [fresh, node_of_size_le]
  · simp [fresh]

@[simp]
theorem ownStmts_link (source target : Nat) :
    (graph.link source target).ownStmts number = graph.ownStmts number := by
  simp [ownStmts, node_link, ownerAt]

theorem ownStmts_append_of_ne {here : Nat} (different : number ≠ here) (stmt : Stmt) :
    (graph.append here stmt).ownStmts number = graph.ownStmts number := by
  simp [ownStmts, node_append, ownerAt, different.symm]

/-- A `RETURN` of a node's own is its last statement, and no edge leaves the node. -/
def ReturnsLast (graph : Graph) : Prop :=
  ∀ number before origin after, graph.ownStmts number = before ++ .returnStmt origin :: after →
    after = [] ∧ graph.next number = []

namespace ReturnsLast

theorem add (ended : graph.ReturnsLast) (label : Option String) (owner : Option Stmt) :
    (graph.add { label := label, owner := owner }).ReturnsLast := by
  simpa [ReturnsLast] using ended

/-- An edge is added only at a node that has no `RETURN`. -/
theorem link (ended : graph.ReturnsLast) {source : Nat} (unreturned : graph.Unreturned source)
    (target : Nat) : (graph.link source target).ReturnsLast := by
  intro number before origin after split
  rw [ownStmts_link] at split
  obtain ⟨nothing, ends⟩ := ended number before origin after split
  have different : number ≠ source := by
    rintro rfl
    exact unreturned origin (by simp [split])
  exact ⟨nothing, (next_link_of_ne different).trans ends⟩

/-- A statement is added only where nothing goes on and no `RETURN` stands before it. -/
theorem append (ended : graph.ReturnsLast) {here : Nat} (inside : here < graph.size)
    (ends : graph.next here = []) (unreturned : graph.Unreturned here) (stmt : Stmt) :
    (graph.append here stmt).ReturnsLast := by
  intro number before origin after split
  rw [next_append]
  by_cases isHere : number = here
  · subst isHere
    refine ⟨?_, ends⟩
    rcases ownStmts_append inside stmt with same | more
    · exact absurd (by simp [← same, split]) (unreturned origin)
    · rw [more] at split
      rcases after.eq_nil_or_concat' with nothing | ⟨rest, last, rfl⟩
      · exact nothing
      · have before_eq := List.append_inj_left' (split.trans (List.append_assoc before
          (.returnStmt origin :: rest) [last]).symm) rfl
        exact absurd (by simp [before_eq]) (unreturned origin)
  · rw [ownStmts_append_of_ne isHere] at split
    exact ended number before origin after split

end ReturnsLast

/-- The edge is the way back from a `CONTINUE`. -/
def JumpsBack (graph : Graph) (source target : Nat) : Prop :=
  graph.Continues source ∧ graph.StartsLoop target

/-- An edge that is no way back from a `CONTINUE`. -/
def Straight (graph : Graph) (source target : Nat) : Prop :=
  target ∈ graph.next source ∧ ¬graph.JumpsBack source target

end Graph

section

variable {touched : Nat → Prop} {code : Stmt → Prop} {graph grown : Graph} {source target : Nat}

namespace BuildStep

theorem ofCode (step : BuildStep touched code graph grown)
    (known : ∀ number, ∀ stmt ∈ graph.stmtsAt number, code stmt) :
    ∀ number, ∀ stmt ∈ grown.stmtsAt number, code stmt := by
  intro number stmt stands
  cases step with
  | join label =>
      rw [Graph.stmtsAt_add] at stands
      split at stands
      · simp at stands
      · exact known number stmt stands
  | follow goesOn label ofCode =>
      rw [Graph.stmtsAt_follow] at stands
      split at stands
      · exact ofCode stmt (by simpa using stands)
      · exact known number stmt stands
  | append goesOn ends ofCode =>
      rw [Graph.stmtsAt_append, List.mem_append] at stands
      rcases stands with old | new
      · exact known number stmt old
      · split at new
        · rwa [List.mem_singleton.mp new]
        · simp at new
  | link => exact known number stmt (by simpa using stands)
  | jump => exact known number stmt (by simpa using stands)

theorem returnsLast (step : BuildStep touched code graph grown) (ended : graph.ReturnsLast) :
    grown.ReturnsLast := by
  cases step with
  | join label => exact ended.add _ _
  | follow goesOn label ofCode =>
      apply (ended.add _ _).link
      simpa [Graph.Unreturned] using goesOn.unreturned
  | append goesOn ends ofCode => exact ended.append goesOn.inside ends goesOn.unreturned _
  | link goesOn => exact ended.link goesOn.unreturned _
  | jump goesOn => exact ended.link goesOn.unreturned _

/-- A node that edges leave gets no statements any more. -/
theorem stmts_eq (step : BuildStep touched code graph grown) (edge : target ∈ graph.next source) :
    (grown.node source).stmts = (graph.node source).stmts := by
  have inside := Graph.lt_size_of_mem_next edge
  cases step with
  | join label => rw [Graph.node_add, if_neg (Nat.ne_of_lt inside)]
  | follow goesOn label ofCode =>
      simp [Graph.follow, Graph.node_link, Graph.node_add, Nat.ne_of_lt inside]
  | @append number goesOn ends stmt ofCode =>
      have different : number ≠ source := by
        rintro rfl
        simp [ends] at edge
      simp [Graph.node_append, different]
  | link => simp [Graph.node_link]
  | jump => simp [Graph.node_link]

theorem straight_of_edge (linked : Linked graph) (step : BuildStep touched code graph grown)
    (edge : target ∈ graph.next source) (straight : grown.Straight source target) :
    graph.Straight source target := by
  refine ⟨edge, fun ⟨continues, first⟩ => straight.2 ⟨?_, ?_⟩⟩
  · rwa [Graph.Continues, step.stmts_eq edge]
  · exact first.grow step.grows (linked.bounded source target edge)

/-- The only new straight edges lead to one node that no edge leaves. -/
theorem exists_end (linked : Linked graph) (step : BuildStep touched code graph grown) :
    ∃ last, grown.next last = [] ∧ ∀ source target, grown.Straight source target →
      graph.Straight source target ∨ target = last := by
  have old {source target : Nat} (edge : target ∈ graph.next source) :=
    step.straight_of_edge linked edge
  have beyond := Graph.next_of_size_le (Nat.le_refl grown.size)
  cases step with
  | join label =>
      exact ⟨_, beyond, fun source target straight =>
        .inl (old (by simpa using straight.1) straight)⟩
  | append goesOn ends ofCode =>
      exact ⟨_, beyond, fun source target straight =>
        .inl (old (by simpa using straight.1) straight)⟩
  | follow goesOn label ofCode =>
      refine ⟨graph.size, Graph.next_follow_size goesOn.inside label _, ?_⟩
      intro source target straight
      rcases (Graph.mem_next_follow goesOn.inside _ _).mp straight.1 with edge | ⟨_, isNew⟩
      · exact .inl (old edge straight)
      · exact .inr isNew
  | link goesOn targetInside notStart other ends =>
      refine ⟨_, (Graph.next_link_of_ne other).trans ends, ?_⟩
      intro source target straight
      rcases (Graph.mem_next_link goesOn.inside).mp straight.1 with edge | ⟨_, isTarget⟩
      · exact .inl (old edge straight)
      · exact .inr isTarget
  | jump goesOn targetInside notStart continues first =>
      refine ⟨_, beyond, fun source target straight => .inl ?_⟩
      rcases (Graph.mem_next_link goesOn.inside).mp straight.1 with edge | ⟨rfl, rfl⟩
      · exact old edge straight
      · refine absurd ⟨?_, ?_⟩ straight.2
        · simpa [Graph.Continues, Graph.node_link] using continues
        · simpa [Graph.StartsLoop, Graph.node_link, Graph.ownerAt] using first

end BuildStep

/-- A new edge to a node that no edge leaves closes no cycle. -/
theorem not_transGen_of_end {α : Type} {old new : α → α → Prop} {last : α}
    (acyclic : ∀ number, ¬TransGen old number number)
    (split : ∀ source target, new source target → old source target ∨ target = last)
    (ends : ∀ target, ¬new last target) (number : α) : ¬TransGen new number number := by
  have along {first target : α} (path : TransGen new first target) :
      TransGen old first target ∨ target = last := by
    induction path with
    | single edge => exact (split _ _ edge).imp_left .single
    | tail earlier edge inductionHypothesis =>
        rcases inductionHypothesis with path | rfl
        · exact (split _ _ edge).imp_left path.tail
        · exact absurd edge (ends _)
  intro cycle
  rcases along cycle with path | rfl
  · exact acyclic number path
  · obtain ⟨target, edge, _⟩ := TransGen.head'_iff.mp cycle
    exact ends target edge

/-- What each guarded step keeps. -/
structure Shaped (code : Stmt → Prop) (graph : Graph) : Prop where
  linked : Linked graph
  ofCode : ∀ number, ∀ stmt ∈ graph.stmtsAt number, code stmt
  returnsLast : graph.ReturnsLast
  acyclic : ∀ number, ¬TransGen graph.Straight number number

theorem Shaped.step (shaped : Shaped code graph) (step : BuildStep touched code graph grown) :
    Shaped code grown := by
  obtain ⟨last, ends, split⟩ := step.exists_end shaped.linked
  refine ⟨step.grows.linked shaped.linked, step.ofCode shaped.ofCode,
    step.returnsLast shaped.returnsLast, not_transGen_of_end shaped.acyclic split ?_⟩
  intro target straight
  simpa [ends] using straight.1

theorem Shaped.run (shaped : Shaped code graph) (run : BuildSteps touched code graph grown) :
    Shaped code grown := by
  induction run with
  | refl => exact shaped
  | tail _ step inductionHypothesis => exact inductionHypothesis.step step

theorem Source.shaped_seed (source : Source) (code : Stmt → Prop) : Shaped code source.seed := by
  refine ⟨source.linked_seed, by simp, ?_, ?_⟩
  · intro number before origin after split
    obtain ⟨label, same⟩ := source.node_seed number
    simp [Graph.ownStmts, same] at split
  · intro number cycle
    obtain ⟨target, edge, _⟩ := TransGen.head'_iff.mp cycle
    simpa using edge.1

end

/-- Along a list whose neighbours are related one gets from the first to the last. -/
theorem transGen_of_isChain {α : Type} {step : α → α → Prop} {first last : α} {path : List α}
    (chain : (first :: path).IsChain step) (further : path ≠ [])
    (isLast : (first :: path).getLast? = some last) : TransGen step first last := by
  induction path generalizing first with
  | nil => exact absurd rfl further
  | cons second path inductionHypothesis =>
      obtain ⟨edge, rest⟩ := List.isChain_cons_cons.mp chain
      by_cases short : path = []
      · subst short
        obtain rfl : second = last := by simpa using isLast
        exact .single edge
      · exact .head edge (inductionHypothesis rest short (by simpa using isLast))

/-- A path that comes back to where it starts. -/
structure Graph.IsCycle (graph : Graph) (start : Nat) (path : List Nat) : Prop where
  isPath : graph.IsPath (start :: path)
  goesOn : path ≠ []
  comesBack : (start :: path).getLast? = some start

theorem Graph.IsCycle.exists_jumpsBack {graph : Graph} {start : Nat} {path : List Nat}
    (acyclic : ∀ number, ¬TransGen graph.Straight number number)
    (cycle : graph.IsCycle start path) :
    ∃ before source target after, start :: path = before ++ source :: target :: after ∧
      target ∈ graph.next source ∧ graph.JumpsBack source target := by
  by_contra none
  apply acyclic start
  refine transGen_of_isChain ?_ cycle.goesOn cycle.comesBack
  rw [List.isChain_iff_forall_rel_of_append_cons_cons]
  intro source target before after split
  have edge := List.isChain_iff_forall_rel_of_append_cons_cons.mp cycle.isPath split
  exact ⟨edge, fun back => none ⟨before, source, target, after, split, edge, back⟩⟩

/-- Every node has the label and the owner of its role, edges are kept at both ends, only the start
and the joins that all branches may leave out are without predecessor, every `RETURN` ends its node
and its path, and every cycle goes back from a `CONTINUE` to the first node of a loop's body. -/
theorem graph_shape {source : Source} {graph : Graph} (built : source.graph = .ok graph) :
    (source.roles.length = graph.size ∧ ∀ number role, source.roles[number]? = some role →
      (graph.node number).label = role.label ∧ graph.ownerAt number = role.owner) ∧
    (∀ first second, second ∈ graph.next first ↔ first ∈ graph.prev second) ∧
    graph.prev 0 = [] ∧
    (∀ number, 0 < number → number < graph.size → graph.prev number = [] →
      ∃ stmt, source.roles[number]? = some (.join stmt) ∧ joinsLoosely stmt = true) ∧
    (∀ number before origin after,
      graph.ownStmts number = before ++ .returnStmt origin :: after →
        after = [] ∧ graph.next number = []) ∧
    (∀ start path, graph.IsCycle start path → ∃ before first second after loop,
      start :: path = before ++ first :: second :: after ∧ graph.Continues first ∧
        source.roles[second]? = some (.loopStart loop)) ∧
    ((∀ occurrence ∈ source.occurrences, ∀ origin, occurrence.stmt ≠ .continueStmt origin) →
      ∀ start path, ¬graph.IsCycle start path) := by
  have shaped := (source.shaped_seed _).run (Source.steps_graph built)
  have fits := Source.fits_graph built
  have jump {start : Nat} {path : List Nat} (cycle : graph.IsCycle start path) :=
    cycle.exists_jumpsBack shaped.acyclic
  have exists_role {number : Nat} (inside : number < graph.size) :
      ∃ role, source.roles[number]? = some role :=
    ⟨_, List.getElem?_eq_getElem (fits.length ▸ inside)⟩
  refine ⟨⟨fits.length, fits.marked⟩, shaped.linked.converse, shaped.linked.start, ?_,
    shaped.returnsLast, ?_, ?_⟩
  · intro number notStart inside unentered
    obtain ⟨role, found⟩ := exists_role inside
    have loose := (fits.entered number role found unentered).resolve_right (Nat.ne_of_gt notStart)
    obtain ⟨stmt, rfl, isLoose⟩ := Role.eq_join_of_isLoose loose
    exact ⟨stmt, found, isLoose⟩
  · intro start path cycle
    obtain ⟨before, first, second, after, split, edge, continues, labelled, unowned⟩ := jump cycle
    obtain ⟨role, found⟩ := exists_role (shaped.linked.bounded first second edge)
    obtain ⟨isLabel, isOwner⟩ := fits.marked second role found
    obtain ⟨loop, rfl⟩ := Role.eq_loopStart (isLabel ▸ labelled) (isOwner ▸ unowned)
    exact ⟨before, first, second, after, loop, split, continues, found⟩
  · intro none start path cycle
    obtain ⟨_, first, _, _, _, _, ⟨origin, isLast⟩, _⟩ := jump cycle
    obtain ⟨occurrence, stands, same⟩ := shaped.ofCode first (.continueStmt origin)
      (List.mem_append_right _ (List.mem_of_getLast? isLast))
    exact none occurrence stands origin same

/-- `WHILE TRUE DO …; IF TRUE THEN CONTINUE; END_IF END_WHILE`, then a label over `RETURN` and
`IF TRUE THEN RETURN; ELSE RETURN; END_IF`. -/
def continuing : List Stmt :=
  [.loop ⟨1, none, none⟩ (.whileDo always) (.given
      [mark 2, .ifThen ⟨3, none, none⟩ always (.given [.continueStmt ⟨4, none, none⟩]) [] none]),
    .label ⟨5, none, none⟩ "done" (some (.returnStmt ⟨6, none, none⟩)),
    .ifThen ⟨7, none, none⟩ always (.given [.returnStmt ⟨8, none, none⟩]) []
      (some (.given [.returnStmt ⟨9, none, none⟩]))]

theorem graph_shape_continuing :
    ∃ graph, (Source.block continuing).graph = .ok graph ∧
      graph.IsCycle 2 [5, 2] ∧
      (∃ before first second after loop, [2, 5, 2] = before ++ first :: second :: after ∧
        graph.Continues first ∧
        (Source.block continuing).roles[second]? = some (.loopStart loop)) ∧
      graph.prev 9 = [] ∧
      (∃ stmt, (Source.block continuing).roles[9]? = some (.join stmt) ∧
        joinsLoosely stmt = true) := by
  obtain ⟨graph, built⟩ : ∃ graph, (Source.block continuing).graph = .ok graph := ⟨_, rfl⟩
  have cycle : graph.IsCycle 2 [5, 2] := by
    cases built
    exact ⟨by decide, by simp, rfl⟩
  have unentered : graph.prev 9 = [] ∧ 9 < graph.size := by
    cases built
    exact ⟨rfl, by decide⟩
  obtain ⟨_, _, _, joins, _, jumps, _⟩ := graph_shape built
  exact ⟨graph, built, cycle, jumps 2 [5, 2] cycle, unentered.1,
    joins 9 (by decide) unentered.2 unentered.1⟩

end PlcLint.Flow
