import Mathlib.Data.List.Chain
import Mathlib.Data.List.Perm.Subperm
import Mathlib.Logic.Relation
import PlcLint.Proofs.Lint.Errors
import PlcLint.Proofs.Table

/-!
The walk through the bases of a function block. Where no block extends itself over any number of
steps, the walk comes to an end without its bound, and gives the block at the end of each chain of
entries in lists of bases: one for each chain, in the order in which the places of the entries
compare as words. A block that is extended in several ways is given once for each of them.
-/

namespace PlcLint.Scope

variable {blocks : Table FunctionBlock} {block base : FunctionBlock} {names : List String}
  {steps : List BaseStep} {chain : List Nat}

/-- An entry in the list of bases of the first block names the second one, ignoring case. -/
def Extends (blocks : Table FunctionBlock) (block base : FunctionBlock) : Prop :=
  ∃ name ∈ block.bases.getD [], blocks.findFolded? name = some base

/-- No block extends itself over any number of steps. -/
def Acyclic (blocks : Table FunctionBlock) : Prop :=
  ∀ block, ¬ Relation.TransGen (Extends blocks) block block

/-- The walk through entries of a block without any bound on the length of chains. It holds of the
steps of a walk that comes to its end. -/
inductive Walks (blocks : Table FunctionBlock) :
    FunctionBlock → List String → List BaseStep → Prop where
  | done {block : FunctionBlock} : Walks blocks block [] []
  | missing {block : FunctionBlock} {name : String} {names : List String} {steps : List BaseStep}
      (unknown : blocks.findFolded? name = none) (onward : Walks blocks block names steps) :
      Walks blocks block (name :: names) (.missing name block :: steps)
  | found {block base : FunctionBlock} {name : String} {names : List String}
      {inside steps : List BaseStep} (known : blocks.findFolded? name = some base)
      (below : Walks blocks base (base.bases.getD []) inside)
      (onward : Walks blocks block names steps) :
      Walks blocks block (name :: names) (.found base :: (inside ++ steps))

theorem Walks.unique (walks : Walks blocks block names steps) {others : List BaseStep}
    (again : Walks blocks block names others) : steps = others := by
  induction walks generalizing others with
  | done => cases again; rfl
  | missing unknown _ inductionHypothesis =>
      cases again with
      | missing _ onward => rw [inductionHypothesis onward]
      | found known _ _ => cases unknown.symm.trans known
  | found known _ _ belowHypothesis onwardHypothesis =>
      cases again with
      | missing unknown _ => cases unknown.symm.trans known
      | found knownAgain below onward =>
          cases known.symm.trans knownAgain
          rw [belowHypothesis below, onwardHypothesis onward]

/-! A chain of blocks is no longer than the table. -/

theorem subset_values_of_isChain {chain : List FunctionBlock}
    (extending : (block :: chain).IsChain (Extends blocks)) : chain ⊆ blocks.values := by
  induction chain generalizing block with
  | nil => exact List.nil_subset _
  | cons base rest inductionHypothesis =>
      obtain ⟨⟨name, _, known⟩, onward⟩ := List.isChain_cons_cons.mp extending
      exact List.cons_subset.mpr
        ⟨Table.mem_values_of_findFolded? known, inductionHypothesis onward⟩

theorem length_le_of_isChain (acyclic : Acyclic blocks) {chain : List FunctionBlock}
    (extending : (block :: chain).IsChain (Extends blocks)) :
    chain.length ≤ blocks.entries.length := by
  have later : (block :: chain).Pairwise (Relation.TransGen (Extends blocks)) :=
    (extending.imp fun _ _ => .single).pairwise
  have distinct : chain.Nodup := by
    refine (List.pairwise_cons.mp later).2.imp ?_
    rintro first _ steps rfl
    exact acyclic first steps
  calc chain.length ≤ blocks.values.length :=
        (List.subperm_of_subset distinct (subset_values_of_isChain extending)).length_le
    _ = blocks.entries.length := List.length_map _

theorem basesFrom_succ (blocks : Table FunctionBlock) (depth : Nat) (block : FunctionBlock) :
    basesFrom blocks (depth + 1) block = (block.bases.getD []).flatMap fun name =>
      (blocks.findFolded? name).elim [.missing name block]
        fun base => .found base :: basesFrom blocks depth base := by
  rw [basesFrom]
  refine List.flatMap_congr fun name _ => ?_
  cases blocks.findFolded? name <;> rfl

/-- A bound above the length of all chains is never met. -/
theorem walks_basesFrom {depth : Nat}
    (short : ∀ chain, (block :: chain).IsChain (Extends blocks) → chain.length < depth) :
    Walks blocks block (block.bases.getD []) (basesFrom blocks depth block) := by
  induction depth generalizing block with
  | zero => exact absurd (short [] (.singleton block)) (Nat.not_lt_zero _)
  | succ depth inductionHypothesis =>
      have shorter {base : FunctionBlock} (isBase : Extends blocks block base) :
          ∀ chain, (base :: chain).IsChain (Extends blocks) → chain.length < depth := by
        intro chain extending
        exact Nat.lt_of_succ_lt_succ
          (short (base :: chain) (List.isChain_cons_cons.mpr ⟨isBase, extending⟩))
      have through (names : List String) (entries : names ⊆ block.bases.getD []) :
          Walks blocks block names (names.flatMap fun name =>
            (blocks.findFolded? name).elim [.missing name block]
              fun base => .found base :: basesFrom blocks depth base) := by
        induction names with
        | nil => exact .done
        | cons name names namesHypothesis =>
            obtain ⟨isEntry, later⟩ := List.cons_subset.mp entries
            rw [List.flatMap_cons]
            cases known : blocks.findFolded? name with
            | none => exact .missing known (namesHypothesis later)
            | some base =>
                exact .found known (inductionHypothesis (shorter ⟨name, isEntry, known⟩))
                  (namesHypothesis later)
      rw [basesFrom_succ]
      exact through _ (List.Subset.refl _)

theorem walks_iff_eq_bases {scope : Scope} (acyclic : Acyclic scope.code.blocks)
    (block : FunctionBlock) (steps : List BaseStep) :
    Walks scope.code.blocks block (block.bases.getD []) steps ↔ steps = scope.bases block := by
  have walks : Walks scope.code.blocks block (block.bases.getD []) (scope.bases block) :=
    walks_basesFrom fun chain extending =>
      Nat.lt_succ_of_le (length_le_of_isChain acyclic extending)
  exact ⟨fun others => others.unique walks, fun same => same ▸ walks⟩

/-! Chains of entries. -/

/-- The block at the end of a chain of entries, each given by its place in the list of bases of the
block before it. There is none if some entry is missing or names no block. -/
def baseAlong (blocks : Table FunctionBlock) : List String → List Nat → Option FunctionBlock
  | _, [] => none
  | names, [place] => names[place]?.bind blocks.findFolded?
  | names, place :: next :: rest =>
    (names[place]?.bind blocks.findFolded?).bind fun base =>
      baseAlong blocks (base.bases.getD []) (next :: rest)

/-- The blocks that a walk comes to. -/
def foundBlocks (steps : List BaseStep) : List FunctionBlock :=
  steps.filterMap fun step => match step with
    | .found block => some block
    | .missing _ _ => none

theorem result_knownBases (steps : List BaseStep) :
    (knownBases steps).result = .ok (foundBlocks steps) := by
  induction steps with
  | nil => rfl
  | cons step rest inductionHypothesis =>
      cases step with
      | found block =>
          rw [knownBases, Logged.result_bind, inductionHypothesis]
          rfl
      | missing base block =>
          rw [knownBases, Logged.result_bind]
          exact inductionHypothesis

theorem result_firstBase {α : Type} (choose : FunctionBlock → Option α) (steps : List BaseStep) :
    (firstBase choose steps).result = .ok ((foundBlocks steps).findSome? choose) := by
  induction steps with
  | nil => rfl
  | cons step rest inductionHypothesis =>
      cases step with
      | found block =>
          rw [firstBase]
          change _ = Except.ok ((block :: foundBlocks rest).findSome? choose)
          rw [List.findSome?_cons]
          cases choose block with
          | none => exact inductionHypothesis
          | some chosen => rfl
      | missing base block =>
          rw [firstBase, Logged.result_bind]
          exact inductionHypothesis

/-- The chains of all blocks that are given, in the order of the walk. -/
structure Lists (blocks : Table FunctionBlock) (names : List String) (chains : List (List Nat))
    (given : List FunctionBlock) : Prop where
  /-- A chain comes before those that go on from it, and before those that take a later entry where
  it takes an earlier one. -/
  ordered : chains.Pairwise (· < ·)
  complete : ∀ chain, chain ∈ chains ↔ (baseAlong blocks names chain).isSome
  ends : chains.map (baseAlong blocks names) = given.map some

/-! Entries in front of others. -/

/-- The chain with its first entry counted from one entry further ahead. -/
def oneFurther : List Nat → List Nat
  | [] => []
  | place :: rest => (place + 1) :: rest

theorem baseAlong_oneFurther (name : String) (names : List String) (chain : List Nat) :
    baseAlong blocks (name :: names) (oneFurther chain) = baseAlong blocks names chain := by
  match chain with
  | [] => rfl
  | [place] => rfl
  | place :: next :: rest => rfl

theorem baseAlong_zero_of_none {name : String} (unknown : blocks.findFolded? name = none)
    (names : List String) (rest : List Nat) :
    baseAlong blocks (name :: names) (0 :: rest) = none := by
  cases rest <;> simp [baseAlong, unknown]

theorem baseAlong_zero_of_some {name : String} (known : blocks.findFolded? name = some base)
    (names : List String) {rest : List Nat} (onward : rest ≠ []) :
    baseAlong blocks (name :: names) (0 :: rest) = baseAlong blocks (base.bases.getD []) rest := by
  obtain ⟨next, rest, rfl⟩ := List.exists_cons_of_ne_nil onward
  simp [baseAlong, known]

theorem oneFurther_lt_oneFurther {first second : List Nat} (less : first < second) :
    oneFurther first < oneFurther second := by
  cases second with
  | nil => exact absurd less (List.not_lt_nil _)
  | cons place rest =>
      cases first with
      | nil => exact List.nil_lt_cons _ _
      | cons other others =>
          rw [oneFurther, oneFurther, List.cons_lt_cons_iff, Nat.succ_lt_succ_iff, Nat.succ_inj]
          exact List.cons_lt_cons_iff.mp less

namespace Lists

variable {chains : List (List Nat)} {given : List FunctionBlock} {name : String}

theorem ne_nil (lists : Lists blocks names chains given) (isChain : chain ∈ chains) :
    chain ≠ [] := by
  rintro rfl
  cases (lists.complete []).mp isChain

theorem mem_oneFurther_iff (lists : Lists blocks names chains given) (name : String) :
    chain ∈ chains.map oneFurther ↔
      ∃ place rest, chain = (place + 1) :: rest ∧
        (baseAlong blocks (name :: names) chain).isSome := by
  constructor
  · intro isChain
    obtain ⟨ahead, isAhead, rfl⟩ := List.mem_map.mp isChain
    obtain ⟨place, rest, rfl⟩ := List.exists_cons_of_ne_nil (lists.ne_nil isAhead)
    refine ⟨place, rest, rfl, ?_⟩
    rw [baseAlong_oneFurther]
    exact (lists.complete _).mp isAhead
  · rintro ⟨place, rest, rfl, leads⟩
    refine List.mem_map.mpr ⟨place :: rest, (lists.complete _).mpr ?_, rfl⟩
    rw [← baseAlong_oneFurther name]
    exact leads

theorem map_oneFurther (lists : Lists blocks names chains given) (name : String) :
    (chains.map oneFurther).map (baseAlong blocks (name :: names)) = given.map some := by
  rw [List.map_map, ← lists.ends]
  exact List.map_congr_left fun chain _ => baseAlong_oneFurther name names chain

theorem consMissing (unknown : blocks.findFolded? name = none)
    (lists : Lists blocks names chains given) :
    Lists blocks (name :: names) (chains.map oneFurther) given where
  ordered := List.pairwise_map.mpr (lists.ordered.imp oneFurther_lt_oneFurther)
  complete chain := by
    rw [lists.mem_oneFurther_iff name]
    match chain with
    | [] => simp [baseAlong]
    | 0 :: rest => simp [baseAlong_zero_of_none unknown]
    | (place + 1) :: rest => simp
  ends := lists.map_oneFurther name

theorem consFound (known : blocks.findFolded? name = some base)
    {insideChains : List (List Nat)} {insideGiven : List FunctionBlock}
    (inside : Lists blocks (base.bases.getD []) insideChains insideGiven)
    (lists : Lists blocks names chains given) :
    Lists blocks (name :: names) ([0] :: (insideChains.map (0 :: ·) ++ chains.map oneFurther))
      (base :: (insideGiven ++ given)) where
  ordered := by
    have behind {first : List Nat} : ∀ chain ∈ chains.map oneFurther, 0 :: first < chain := by
      intro chain isChain
      obtain ⟨place, rest, rfl, _⟩ := (lists.mem_oneFurther_iff name).mp isChain
      exact List.cons_lt_cons_iff.mpr (.inl (Nat.succ_pos place))
    have below : ∀ chain ∈ insideChains.map (0 :: ·), [0] < chain := by
      intro chain isChain
      obtain ⟨rest, isInside, rfl⟩ := List.mem_map.mp isChain
      obtain ⟨place, rest, rfl⟩ := List.exists_cons_of_ne_nil (inside.ne_nil isInside)
      exact List.cons_lt_cons_iff.mpr (.inr ⟨rfl, List.nil_lt_cons place rest⟩)
    refine List.pairwise_cons.mpr ⟨List.forall_mem_append.mpr ⟨below, behind⟩,
      List.pairwise_append.mpr ⟨?_, ?_, ?_⟩⟩
    · refine List.pairwise_map.mpr (inside.ordered.imp fun less => ?_)
      exact List.cons_lt_cons_iff.mpr (.inr ⟨rfl, less⟩)
    · exact List.pairwise_map.mpr (lists.ordered.imp oneFurther_lt_oneFurther)
    · intro first isFirst
      obtain ⟨rest, _, rfl⟩ := List.mem_map.mp isFirst
      exact behind
  complete chain := by
    rw [List.mem_cons, List.mem_append, lists.mem_oneFurther_iff name]
    match chain with
    | [] => simp [baseAlong]
    | [0] => simp [baseAlong, known]
    | 0 :: next :: rest =>
        rw [baseAlong_zero_of_some known names (List.cons_ne_nil _ _), ← inside.complete]
        simp
    | (place + 1) :: rest => simp
  ends := by
    have insideEnds : (insideChains.map (0 :: ·)).map (baseAlong blocks (name :: names)) =
        insideGiven.map some := by
      rw [List.map_map, ← inside.ends]
      exact List.map_congr_left fun chain isChain =>
        baseAlong_zero_of_some known names (inside.ne_nil isChain)
    rw [List.map_cons, List.map_append, insideEnds, lists.map_oneFurther name, List.map_cons,
      List.map_append]
    simp [baseAlong, known]

end Lists

theorem Walks.exists_lists (walks : Walks blocks block names steps) :
    ∃ chains, Lists blocks names chains (foundBlocks steps) := by
  induction walks with
  | done =>
      refine ⟨[], .nil, fun chain => ?_, rfl⟩
      match chain with
      | [] => simp [baseAlong]
      | [place] => simp [baseAlong]
      | place :: next :: rest => simp [baseAlong]
  | missing unknown _ inductionHypothesis =>
      obtain ⟨chains, lists⟩ := inductionHypothesis
      exact ⟨_, lists.consMissing unknown⟩
  | found known _ _ belowHypothesis onwardHypothesis =>
      obtain ⟨insideChains, inside⟩ := belowHypothesis
      obtain ⟨chains, lists⟩ := onwardHypothesis
      have together := inside.consFound known lists
      rw [foundBlocks, foundBlocks, ← List.filterMap_append] at together
      exact ⟨_, together⟩

/-- Chains lead to exactly those blocks that are extended over one or more steps. -/
theorem exists_baseAlong_iff :
    (∃ chain, baseAlong blocks (block.bases.getD []) chain = some base) ↔
      Relation.TransGen (Extends blocks) block base := by
  constructor
  · rintro ⟨chain, leads⟩
    induction chain generalizing block with
    | nil => cases leads
    | cons place rest inductionHypothesis =>
        have extended {next : FunctionBlock}
            (known : (block.bases.getD [])[place]?.bind blocks.findFolded? = some next) :
            Extends blocks block next := by
          obtain ⟨name, isName, isNext⟩ := Option.bind_eq_some_iff.mp known
          exact ⟨name, List.mem_of_getElem? isName, isNext⟩
        cases rest with
        | nil => exact .single (extended leads)
        | cons next rest =>
            obtain ⟨middle, known, onward⟩ := Option.bind_eq_some_iff.mp leads
            exact .head (extended known) (inductionHypothesis onward)
  · intro extending
    induction extending using Relation.TransGen.head_induction_on with
    | single extended =>
        obtain ⟨name, isName, known⟩ := extended
        obtain ⟨place, isPlace⟩ := List.mem_iff_getElem?.mp isName
        exact ⟨[place], by simp [baseAlong, isPlace, known]⟩
    | head extended _ inductionHypothesis =>
        obtain ⟨name, isName, known⟩ := extended
        obtain ⟨place, isPlace⟩ := List.mem_iff_getElem?.mp isName
        obtain ⟨chain, leads⟩ := inductionHypothesis
        cases chain with
        | nil => cases leads
        | cons next rest =>
            exact ⟨place :: next :: rest, by simp [baseAlong, isPlace, known, leads]⟩

/-! What a walk gives, and what is chosen on it. -/

/-- The first choice on a walk is made at the end of the first chain at which one can be made. -/
theorem Lists.exists_first {chains : List (List Nat)} {given : List FunctionBlock} {α : Type}
    {choose : FunctionBlock → Option α} {chosen : α} (lists : Lists blocks names chains given)
    (isFirst : given.findSome? choose = some chosen) :
    ∃ chain base, baseAlong blocks names chain = some base ∧ choose base = some chosen ∧
      ∀ earlier < chain, ∀ between, baseAlong blocks names earlier = some between →
        choose between = none := by
  obtain ⟨before, base, after, rfl, isChosen, notBefore⟩ := List.findSome?_eq_some_iff.mp isFirst
  obtain ⟨ordered, complete, ends⟩ := lists
  rw [List.map_append] at ends
  obtain ⟨ahead, rest, rfl, aheadEnds, restEnds⟩ := List.map_eq_append_iff.mp ends
  obtain ⟨chain, behind, rfl, leads, _⟩ := List.map_eq_cons_iff.mp restEnds
  refine ⟨chain, base, leads, isChosen, fun earlier less between leadsThere => ?_⟩
  have isChain : earlier ∈ ahead ++ chain :: behind := (complete earlier).mpr (by simp [leadsThere])
  have isAhead : earlier ∈ ahead := by
    rcases List.mem_append.mp isChain with isAhead | others
    · exact isAhead
    · have notLess := (List.pairwise_cons.mp (List.pairwise_append.mp ordered).2.1).1
      rcases List.mem_cons.mp others with rfl | isBehind
      · exact absurd less (List.lt_irrefl earlier)
      · exact absurd less (List.lt_asymm (notLess earlier isBehind))
  have isEnd : some between ∈ before.map some := by
    rw [← aheadEnds, ← leadsThere]
    exact List.mem_map_of_mem isAhead
  exact notBefore between (by simpa using isEnd)

theorem Lists.mem_iff {chains : List (List Nat)} {given : List FunctionBlock}
    (lists : Lists blocks (block.bases.getD []) chains given) :
    base ∈ given ↔ Relation.TransGen (Extends blocks) block base := by
  rw [← exists_baseAlong_iff]
  constructor
  · intro isGiven
    have isEnd : some base ∈ given.map some := List.mem_map_of_mem isGiven
    rw [← lists.ends] at isEnd
    obtain ⟨chain, _, leads⟩ := List.mem_map.mp isEnd
    exact ⟨chain, leads⟩
  · rintro ⟨chain, leads⟩
    have isEnd : some base ∈ chains.map (baseAlong blocks (block.bases.getD [])) :=
      List.mem_map.mpr ⟨chain, (lists.complete chain).mpr (by simp [leads]), leads⟩
    rw [lists.ends] at isEnd
    simpa using isEnd

/-- A chain comes after those that it goes on from. -/
theorem lt_of_isPrefix {earlier chain : List Nat} (ahead : earlier <+: chain)
    (differ : earlier ≠ chain) : earlier < chain := by
  obtain ⟨rest, rfl⟩ := ahead
  induction earlier with
  | nil =>
      obtain ⟨place, rest, rfl⟩ := List.exists_cons_of_ne_nil (Ne.symm differ)
      exact List.nil_lt_cons place rest
  | cons place earlier inductionHypothesis =>
      exact List.cons_lt_cons_iff.mpr
        (.inr ⟨rfl, inductionHypothesis fun same => differ (congrArg (place :: ·) same)⟩)

/-- Ranks that fall along each step rule out cycles. -/
theorem acyclic_of_rank (rank : FunctionBlock → Nat)
    (falls : ∀ block ∈ blocks.values, ∀ name ∈ block.bases.getD [],
      ∀ base ∈ blocks.findFolded? name, rank base < rank block) : Acyclic blocks := by
  have fallsAlong {block base : FunctionBlock} (isBlock : block ∈ blocks.values)
      (steps : Relation.TransGen (Extends blocks) block base) :
      base ∈ blocks.values ∧ rank base < rank block := by
    induction steps with
    | single step =>
        obtain ⟨name, entry, known⟩ := step
        exact ⟨Table.mem_values_of_findFolded? known, falls _ isBlock name entry _ known⟩
    | tail _ step inductionHypothesis =>
        obtain ⟨name, entry, known⟩ := step
        obtain ⟨isBetween, less⟩ := inductionHypothesis
        exact ⟨Table.mem_values_of_findFolded? known,
          (falls _ isBetween name entry _ known).trans less⟩
  intro block steps
  obtain ⟨_, _, name, _, known⟩ := Relation.TransGen.tail'_iff.mp steps
  exact Nat.lt_irrefl _ (fallsAlong (Table.mem_values_of_findFolded? known) steps).2

end PlcLint.Scope
