import PlcLint.Scope.Basic

/-!
The spelling that a lookup without regard to case suggests. A name is looked for in one source after
the other, strictly or ignoring case. Each source, and therefore the whole lookup, finds under the
suggested spelling strictly what it found under the name ignoring case: an exact match in an earlier
source would have been a match ignoring case already.
-/

namespace PlcLint

theorem Text.sameName_iff {first second : String} :
    sameName first second = true ↔ lower first = lower second := beq_iff_eq

namespace Scope

theorem agree_false (first second : String) :
    agree false first second = Text.sameName first second := rfl

theorem agree_true_iff {first second : String} : agree true first second = true ↔ first = second :=
  beq_iff_eq

/-- A source of names: what a name, or one that agrees with it ignoring case, denotes there. -/
abbrev NameSource := Bool → String → Except Fault (Option Found)

/-- What is found ignoring case is found strictly under its spelling, and where nothing is found
ignoring case, nothing is found strictly under any spelling. -/
structure NameSource.Respells (source : NameSource) : Prop where
  found {name : String} {entry : Found} : source false name = .ok (some entry) →
    ∃ key, entry.1 = some key ∧ Text.sameName key name = true ∧
      source true key = .ok (some entry)
  missing {name key : String} : source false name = .ok none →
    Text.sameName key name = true → source true key = .ok none

/-- The entries of a table. -/
def tableSource {α : Type} (type : α → TypeRef) (table : Table α) : NameSource :=
  fun strict name =>
    .ok ((seek strict table name).map fun entry => (some entry.1, some (type entry.2)))

/-- The members of the current function block. -/
def memberSource (scope : Scope) : NameSource :=
  fun strict name =>
    (scope.member? strict name).map (Option.map fun entry => (some entry.1, some entry.2))

/-- The first source in which something is found. -/
def firstFound : List NameSource → NameSource
  | [], _, _ => .ok none
  | source :: rest, strict, name =>
    match source strict name with
    | .ok none => firstFound rest strict name
    | outcome => outcome

/-- Sources of what is no plain variable. -/
def complexSources (scope : Scope) : List NameSource :=
  [tableSource (fun _ => .complex) scope.code.dataTypes,
    tableSource (fun _ => .complex) scope.code.blocks,
    tableSource (fun _ => .complex) TypeName.conversions,
    tableSource (fun _ => .complex) TypeName.builtinFunctions,
    tableSource (fun _ => .complex) scope.code.functions]

/-- Where a name is looked for, apart from `THIS` and `SUPER`, in this order. -/
def sources (scope : Scope) : List NameSource :=
  tableSource .named scope.settings.builtinSymbols :: (scope.complexSources ++
    scope.memberSource :: scope.returnVariable? ::
      scope.layers.reverse.map (tableSource fun declaration => .named declaration.type))

/-! The lookup goes through the sources. -/

theorem firstFound_cons (source : NameSource) (rest : List NameSource) (strict : Bool)
    (name : String) :
    firstFound (source :: rest) strict name =
      (source strict name).bind fun
        | none => firstFound rest strict name
        | some entry => .ok (some entry) := by
  rw [firstFound]
  cases source strict name with
  | error fault => rfl
  | ok outcome => cases outcome <;> rfl

theorem firstFound_append (first second : List NameSource) (strict : Bool) (name : String) :
    firstFound (first ++ second) strict name =
      (firstFound first strict name).bind fun
        | none => firstFound second strict name
        | some entry => .ok (some entry) := by
  induction first with
  | nil => rfl
  | cons source rest inductionHypothesis =>
      rw [List.cons_append, firstFound_cons, firstFound_cons, inductionHypothesis]
      cases source strict name with
      | error fault => rfl
      | ok outcome => cases outcome <;> rfl

theorem firstFound_complexSources (scope : Scope) (strict : Bool) (name : String) :
    firstFound scope.complexSources strict name =
      .ok ((scope.complexName? strict name).map fun key => (some key, some .complex)) := by
  simp only [complexSources, firstFound, tableSource, complexName?]
  cases seek strict scope.code.dataTypes name <;> try rfl
  cases seek strict scope.code.blocks name <;> try rfl
  cases seek strict TypeName.conversions name <;> try rfl
  cases seek strict TypeName.builtinFunctions name <;> try rfl
  cases seek strict scope.code.functions name <;> rfl

theorem firstFound_layers (layers : List (Table Declaration)) (strict : Bool) (name : String) :
    firstFound (layers.map (tableSource fun declaration => .named declaration.type)) strict name =
      .ok ((layers.findSome? fun layer => seek strict layer name).map fun entry =>
        (some entry.1, some (.named entry.2.type))) := by
  induction layers with
  | nil => rfl
  | cons layer rest inductionHypothesis =>
      rw [List.map_cons, firstFound, tableSource, List.findSome?_cons]
      cases seek strict layer name with
      | none => exact inductionHypothesis
      | some entry => rfl

/-- The lookup of a name other than `THIS` and `SUPER`. -/
theorem lookup_eq_firstFound {scope : Scope} {strict : Bool} {name : String}
    (notThis : ["THIS", "THIS^"].find? (agree strict name) = none)
    (notSuper : ["SUPER", "SUPER^"].find? (agree strict name) = none) :
    scope.lookup strict name =
      Logged.ofExcept ((firstFound scope.sources strict name).map (·.getD (none, none))) := by
  rw [lookup, notThis, notSuper, sources, firstFound_cons, firstFound_append,
    firstFound_complexSources, firstFound_cons, firstFound_cons, firstFound_layers, tableSource,
    memberSource]
  simp only
  cases seek strict scope.settings.builtinSymbols name with
  | some entry => rfl
  | none =>
    cases scope.complexName? strict name with
    | some key => rfl
    | none =>
      simp only [layered?]
      cases scope.member? strict name with
      | error fault => rfl
      | ok member =>
        cases member with
        | some entry => rfl
        | none =>
          cases scope.returnVariable? strict name with
          | error fault => rfl
          | ok returned =>
            cases returned with
            | some entry => rfl
            | none =>
              cases scope.layers.reverse.findSome? fun layer => seek strict layer name <;> rfl

/-! Each source finds a name again under its spelling. -/

section

variable {α : Type} {table : Table α} {name key : String}

theorem seek_of_seek_folded {value : α} (found : seek false table name = some (key, value)) :
    Text.sameName key name = true ∧ seek true table key = some (key, value) := by
  change table.findNamed? name = some (key, value) at found
  change _ ∧ (table.find? key).map _ = _
  rw [Table.findNamed?] at found
  cases exact : table.find? name with
  | some exactValue =>
      rw [exact] at found
      cases found
      exact ⟨Text.sameName_iff.mpr rfl, by rw [exact]; rfl⟩
  | none =>
      rw [exact] at found
      obtain ⟨agrees, before, after, split, earlier⟩ := List.find?_eq_some_iff_append.mp found
      have isValue : table.find? key = some value := by
        rw [Table.find?, List.lookup_eq_some_iff]
        refine ⟨before, after, split, fun entry inBefore => ?_⟩
        -- An earlier entry under the same spelling would agree with the name as well.
        have differs := earlier entry inBefore
        rw [bne_iff_ne]
        rintro rfl
        rw [agrees] at differs
        cases differs
      exact ⟨agrees, by rw [isValue]; rfl⟩

theorem seek_eq_none_of_seek_folded (missing : seek false table name = none)
    (same : Text.sameName key name = true) : seek true table key = none := by
  change table.findNamed? name = none at missing
  change (table.find? key).map _ = none
  rw [Table.findNamed?] at missing
  cases exact : table.find? name with
  | some value =>
      rw [exact] at missing
      cases missing
  | none =>
      rw [exact] at missing
      rw [Option.map_eq_none_iff, Table.find?, List.lookup_eq_none_iff]
      intro entry inTable
      rw [bne_iff_ne]
      rintro rfl
      exact List.find?_eq_none.mp missing entry inTable same

theorem find?_of_find?_folded {names : List String}
    (found : names.find? (agree false name) = some key) :
    Text.sameName key name = true ∧ names.find? (agree true key) = some key := by
  have agrees : Text.sameName name key = true := List.find?_some found
  refine ⟨Text.sameName_iff.mpr (Text.sameName_iff.mp agrees).symm, ?_⟩
  cases again : names.find? (agree true key) with
  | none =>
      have differs := List.find?_eq_none.mp again key (List.mem_of_find?_eq_some found)
      exact absurd (agree_true_iff.mpr rfl) differs
  | some other =>
      rw [agree_true_iff.mp (List.find?_some again)]

theorem find?_eq_none_of_find?_folded {names : List String}
    (missing : names.find? (agree false name) = none) (same : Text.sameName key name = true) :
    names.find? (agree true key) = none := by
  rw [List.find?_eq_none] at missing ⊢
  intro other isName agrees
  cases agree_true_iff.mp agrees
  exact missing key isName (Text.sameName_iff.mpr (Text.sameName_iff.mp same).symm)

end

theorem tableSource_respells {α : Type} (type : α → TypeRef) (table : Table α) :
    (tableSource type table).Respells where
  found {name entry} found := by
    obtain ⟨⟨key, value⟩, isEntry, rfl⟩ := Option.map_eq_some_iff.mp (Except.ok.inj found)
    obtain ⟨same, again⟩ := seek_of_seek_folded isEntry
    exact ⟨key, rfl, same, by rw [tableSource, again]; rfl⟩
  missing {name key} missing same := by
    have nothing := Option.map_eq_none_iff.mp (Except.ok.inj missing)
    rw [tableSource, seek_eq_none_of_seek_folded nothing same]
    rfl

theorem respells_of_constant {source : NameSource} (outcome : Except Fault (Option Found))
    (nothing : ∀ entry, outcome ≠ .ok (some entry))
    (constant : ∀ strict name, source strict name = outcome) : source.Respells where
  found {name entry} found := absurd ((constant false name).symm.trans found) (nothing entry)
  missing {name key} missing _ := by rw [constant, ← constant false name, missing]

theorem memberSource_respells (scope : Scope) : scope.memberSource.Respells := by
  cases isBlock : scope.block with
  | none =>
      refine respells_of_constant (.ok none) (fun _ => nofun) fun strict name => ?_
      rw [memberSource, member?, isBlock]
      rfl
  | some block =>
      cases inBlock : scope.members block with
      | error fault =>
          refine respells_of_constant (.error fault) (fun _ => nofun) fun strict name => ?_
          rw [memberSource, member?, isBlock]
          simp only [inBlock]
          rfl
      | ok members =>
          have same : scope.memberSource = tableSource id members := by
            funext strict name
            rw [memberSource, member?, isBlock]
            simp only [inBlock]
            rfl
          rw [same]
          exact tableSource_respells id members

theorem returnVariable?_respells (scope : Scope) : NameSource.Respells scope.returnVariable? := by
  cases isRoutine : scope.routine with
  | none =>
      refine respells_of_constant (.ok none) (fun _ => nofun) fun strict name => ?_
      rw [returnVariable?, isRoutine]
  | some routine =>
      constructor
      · intro name entry found
        rw [returnVariable?, isRoutine] at found
        simp only at found
        split at found
        · rename_i agrees
          refine ⟨routine.name, ?_, agrees, ?_⟩
          · split at found <;> cases found <;> rfl
          · rw [returnVariable?, isRoutine]
            simp only
            rw [if_pos (agree_true_iff.mpr rfl)]
            exact found
        · cases found
      · intro name key missing same
        rw [returnVariable?, isRoutine] at missing ⊢
        simp only at missing ⊢
        split at missing
        · split at missing <;> cases missing
        · rename_i differs
          rw [if_neg]
          intro agrees
          cases agree_true_iff.mp agrees
          exact differs same

theorem firstFound_respells {sources : List NameSource}
    (each : ∀ source ∈ sources, source.Respells) : (firstFound sources).Respells := by
  induction sources with
  | nil => exact ⟨fun found => (by cases found), fun _ _ => rfl⟩
  | cons source rest inductionHypothesis =>
      obtain ⟨first, others⟩ := List.forall_mem_cons.mp each
      have later := inductionHypothesis others
      constructor
      · intro name entry found
        rw [firstFound_cons] at found
        cases here : source false name with
        | error fault =>
            rw [here] at found
            cases found
        | ok outcome =>
            rw [here] at found
            cases outcome with
            | some entry =>
                cases found
                obtain ⟨key, isKey, same, again⟩ := first.found here
                exact ⟨key, isKey, same, by rw [firstFound_cons, again]; rfl⟩
            | none =>
                obtain ⟨key, isKey, same, again⟩ := later.found found
                refine ⟨key, isKey, same, ?_⟩
                rw [firstFound_cons, first.missing here same]
                exact again
      · intro name key missing same
        rw [firstFound_cons] at missing ⊢
        cases here : source false name with
        | error fault =>
            rw [here] at missing
            cases missing
        | ok outcome =>
            rw [here] at missing
            cases outcome with
            | some entry => cases missing
            | none =>
                rw [first.missing here same]
                exact later.missing missing same

theorem sources_respell (scope : Scope) {source : NameSource}
    (membership : source ∈ scope.sources) : source.Respells := by
  simp only [sources, complexSources, List.mem_cons, List.mem_append, List.mem_map,
    List.not_mem_nil, or_false] at membership
  rcases membership with rfl | (rfl | rfl | rfl | rfl | rfl) | rfl | rfl | ⟨layer, _, rfl⟩
  case inr.inr.inl => exact scope.memberSource_respells
  case inr.inr.inr.inl => exact scope.returnVariable?_respells
  all_goals exact tableSource_respells _ _

/-- What the lookup finds ignoring case, it finds strictly under its spelling. -/
theorem lookup_of_lookup_folded {scope : Scope} {name key : String} {type : Option TypeRef}
    (notSuper : isSuper name = false)
    (found : (scope.lookup false name).result = .ok (some key, type)) :
    Text.sameName key name = true ∧ scope.lookup true key = pure (some key, type) := by
  have noSuper : ["SUPER", "SUPER^"].find? (agree false name) = none := by
    simpa [isSuper, agree_false, List.find?_eq_none] using notSuper
  cases isThis : ["THIS", "THIS^"].find? (agree false name) with
  | some this =>
      rw [lookup, isThis] at found
      simp only at found
      cases isBlock : scope.block with
      | none =>
          rw [isBlock] at found
          cases found
      | some block =>
          rw [isBlock] at found
          cases found
          obtain ⟨same, again⟩ := find?_of_find?_folded isThis
          refine ⟨same, ?_⟩
          rw [lookup, again]
          simp only [isBlock]
  | none =>
      rw [lookup_eq_firstFound isThis noSuper] at found
      cases outcome : firstFound scope.sources false name with
      | error fault =>
          rw [outcome] at found
          cases found
      | ok entry =>
          rw [outcome] at found
          cases entry with
          | none => cases found
          | some entry =>
              cases found
              obtain ⟨key, isKey, same, again⟩ :=
                (firstFound_respells fun _ => scope.sources_respell).found outcome
              cases isKey
              refine ⟨same, ?_⟩
              rw [lookup_eq_firstFound (find?_eq_none_of_find?_folded isThis same)
                (find?_eq_none_of_find?_folded noSuper same), again]
              rfl

end Scope

end PlcLint
