import PlcLint.Proofs.Scope.Members
import PlcLint.Proofs.Scope.Subscripts

/-!
Paths whose names are written in another case. Where no two names of a scope differ only in case,
the case of the variable at the front never matters, nor does that of a property. A variable of a
function block or data type, however, is known under its exact spelling only.
-/

namespace PlcLint

/-- No two of the names differ only in case. -/
def CaseDistinct (names : List String) : Prop :=
  ∀ name ∈ names, ∀ other ∈ names, Text.lower name = Text.lower other → name = other

instance (names : List String) : Decidable (CaseDistinct names) :=
  inferInstanceAs (Decidable (∀ name ∈ names, ∀ other ∈ names, _ → _))

theorem CaseDistinct.of_subset {names fewer : List String} (distinct : CaseDistinct names)
    (subset : fewer ⊆ names) : CaseDistinct fewer :=
  fun name isName other isOther => distinct name (subset isName) other (subset isOther)

namespace Table

variable {α : Type} {table : Table α} {name other : String}

/-- The exact spelling has no precedence where it is the only one. -/
theorem findNamed?_of_caseDistinct (distinct : CaseDistinct table.names) (name : String) :
    table.findNamed? name =
      table.entries.find? fun entry => Text.lower entry.1 == Text.lower name := by
  rw [findNamed?]
  cases exact : table.find? name with
  | none => rfl
  | some value =>
      obtain ⟨before, after, split, earlier⟩ := List.lookup_eq_some_iff.mp exact
      have isName := mem_names_of_find? exact
      refine Eq.symm (List.find?_eq_some_iff_append.mpr
        ⟨beq_self_eq_true (Text.lower name), before, after, split, fun entry inBefore => ?_⟩)
      rw [Bool.not_eq_true', beq_eq_false_iff_ne]
      intro same
      have isEntry : entry ∈ table.entries := split ▸ List.mem_append_left _ inBefore
      have sameName := distinct entry.1 (List.mem_map_of_mem isEntry) name isName same
      exact bne_iff_ne.mp (earlier entry inBefore) sameName.symm

theorem seek_recased (distinct : CaseDistinct table.names)
    (same : Text.lower name = Text.lower other) :
    Scope.seek false table other = Scope.seek false table name := by
  change table.findNamed? other = table.findNamed? name
  rw [findNamed?_of_caseDistinct distinct, findNamed?_of_caseDistinct distinct, same]

theorem seek_folded_eq_none_iff :
    Scope.seek false table name = none ↔
      ∀ known ∈ table.names, Text.lower known ≠ Text.lower name := by
  refine ⟨fun missing known isKnown agrees => ?_, fun unknown => seek_eq_none unknown false⟩
  have nothing := Scope.seek_eq_none_of_seek_folded missing (Text.sameName_iff.mpr agrees)
  exact find?_eq_none_iff.mp (Option.map_eq_none_iff.mp nothing) isKnown

theorem seek_eq_none_recased (same : Text.lower name = Text.lower other) :
    Scope.seek false table other = none ↔ Scope.seek false table name = none := by
  rw [seek_folded_eq_none_iff, seek_folded_eq_none_iff, same]

end Table

namespace Scope

/-! The variable at the front. -/

/-- The type of a name in a source. -/
def NameSource.typeOf (source : NameSource) (name : String) :
    Except Fault (Option (Option TypeRef)) :=
  (source false name).map (Option.map Prod.snd)

def NameSource.IgnoresCase (source : NameSource) : Prop :=
  ∀ name other, Text.lower name = Text.lower other → source.typeOf other = source.typeOf name

theorem tableSource_ignoresCase {α : Type} (type : α → TypeRef) {table : Table α}
    (distinct : CaseDistinct table.names) : (tableSource type table).IgnoresCase := by
  intro name other same
  rw [NameSource.typeOf, NameSource.typeOf, tableSource, Table.seek_recased distinct same]
  rfl

/-- Where all entries have one type, it does not matter which of them is found. -/
theorem tableSource_const_ignoresCase {α : Type} (type : TypeRef) (table : Table α) :
    (tableSource (fun _ => type) table).IgnoresCase := by
  intro name other same
  have missing : seek false table other = none ↔ seek false table name = none :=
    Table.seek_eq_none_recased same
  simp only [NameSource.typeOf, tableSource]
  cases here : seek false table name with
  | none => rw [missing.mpr here]
  | some entry =>
      cases there : seek false table other with
      | none =>
          rw [missing.mp there] at here
          cases here
      | some entry => rfl

theorem returnVariable?_ignoresCase (scope : Scope) :
    NameSource.IgnoresCase scope.returnVariable? := by
  intro name other same
  rw [NameSource.typeOf, NameSource.typeOf, returnVariable?, returnVariable?]
  cases scope.routine with
  | none => rfl
  | some routine =>
      have agrees : agree false routine.name other = agree false routine.name name := by
        rw [agree_false, agree_false, Text.sameName, Text.sameName, same]
      simp only [agrees]

theorem memberSource_ignoresCase {scope : Scope}
    (distinct : ∀ block ∈ scope.block, CaseDistinct (scope.code.complete block).memberNames) :
    scope.memberSource.IgnoresCase := by
  intro name other same
  simp only [NameSource.typeOf, memberSource]
  cases isBlock : scope.block with
  | none => simp only [member?, isBlock]
  | some block =>
      have names := (distinct block isBlock).of_subset (FunctionBlock.names_memberTypes_subset _)
      rw [member?_eq isBlock, member?_eq isBlock, Table.seek_recased names same]

theorem typeOf_firstFound_cons (source : NameSource) (rest : List NameSource) (name : String) :
    NameSource.typeOf (firstFound (source :: rest)) name =
      (source.typeOf name).bind fun
        | none => NameSource.typeOf (firstFound rest) name
        | some type => .ok (some type) := by
  simp only [NameSource.typeOf, firstFound_cons]
  cases source false name with
  | error fault => rfl
  | ok outcome => cases outcome <;> rfl

theorem firstFound_ignoresCase {sources : List NameSource}
    (each : ∀ source ∈ sources, source.IgnoresCase) :
    NameSource.IgnoresCase (firstFound sources) := by
  induction sources with
  | nil => exact fun _ _ _ => rfl
  | cons source rest inductionHypothesis =>
      intro name other same
      obtain ⟨first, others⟩ := List.forall_mem_cons.mp each
      rw [typeOf_firstFound_cons, typeOf_firstFound_cons, first name other same,
        inductionHypothesis others name other same]

/-- No two names of one scope differ only in case, and no variable is called like a property. -/
structure NamesDistinct (scope : Scope) : Prop where
  symbols : CaseDistinct scope.settings.builtinSymbols.names
  members : ∀ block ∈ scope.block, CaseDistinct (scope.code.complete block).memberNames
  layers : ∀ layer ∈ scope.layers, CaseDistinct layer.names
  blocks : ∀ block ∈ scope.code.blocks.values, CaseDistinct (scope.code.complete block).memberNames
  dataTypes : ∀ type ∈ scope.code.dataTypes.values,
    CaseDistinct (scope.code.completeType type).declarations.names
  separate : ∀ block ∈ scope.code.blocks.values,
    ∀ property ∈ (scope.code.complete block).properties,
      property.name ∉ (scope.code.complete block).declarations.names

theorem NamesDistinct.sources_ignoreCase {scope : Scope} (distinct : scope.NamesDistinct) :
    NameSource.IgnoresCase (firstFound scope.sources) := by
  refine firstFound_ignoresCase fun source membership => ?_
  simp only [sources, complexSources, List.mem_cons, List.mem_append, List.mem_map,
    List.not_mem_nil, or_false] at membership
  rcases membership with rfl | (rfl | rfl | rfl | rfl | rfl) | rfl | rfl | ⟨layer, isLayer, rfl⟩
  · exact tableSource_ignoresCase _ distinct.symbols
  case inr.inr.inl => exact memberSource_ignoresCase distinct.members
  case inr.inr.inr.inl => exact scope.returnVariable?_ignoresCase
  case inr.inr.inr.inr =>
    exact tableSource_ignoresCase _ (distinct.layers layer (List.mem_reverse.mp isLayer))
  all_goals exact tableSource_const_ignoresCase _ _

theorem varType_eq_typeOf {scope : Scope} {name : String}
    (notThis : ["THIS", "THIS^"].find? (agree false name) = none)
    (notSuper : ["SUPER", "SUPER^"].find? (agree false name) = none) :
    scope.varType name = Logged.ofExcept
      ((NameSource.typeOf (firstFound scope.sources) name).map (·.getD none)) := by
  rw [varType, lookup_eq_firstFound notThis notSuper, NameSource.typeOf]
  rcases firstFound scope.sources false name with fault | _ | entry <;> rfl

/-- The type of a name does not depend on its case. -/
theorem NamesDistinct.varType_recased {scope : Scope} (distinct : scope.NamesDistinct)
    {name other : String} (same : Text.lower name = Text.lower other) :
    scope.varType other = scope.varType name := by
  have agrees : agree false other = agree false name := by
    funext word
    rw [agree_false, agree_false, Text.sameName, Text.sameName, same]
  cases isThis : ["THIS", "THIS^"].find? (agree false name) with
  | some this => simp only [varType, lookup, agrees, isThis]
  | none =>
      cases isSuper : ["SUPER", "SUPER^"].find? (agree false name) with
      | some super => simp only [varType, lookup, agrees, isThis, isSuper]
      | none =>
          have notThis : ["THIS", "THIS^"].find? (agree false other) = none := by
            rw [agrees, isThis]
          have notSuper : ["SUPER", "SUPER^"].find? (agree false other) = none := by
            rw [agrees, isSuper]
          rw [varType_eq_typeOf isThis isSuper, varType_eq_typeOf notThis notSuper,
            distinct.sources_ignoreCase name other same]

/-! The fields behind it. -/

/-- The variables of a type, inherited ones included. -/
def variablesOf (scope : Scope) (type : String) : Table Declaration :=
  match scope.code.blocks.find? type with
  | some block => (scope.code.complete block).declarations
  | none =>
    match scope.code.dataTypes.find? type with
    | some dataType => (scope.code.completeType dataType).declarations
    | none => {}

/-- The properties of a type, inherited ones included. -/
def propertiesOf (scope : Scope) (type : String) : List Property :=
  match scope.code.blocks.find? type with
  | some block => (scope.code.complete block).properties
  | none => []

/-- A variable is selected by its exact name, a property by any spelling of its name. -/
theorem fieldType_eq (scope : Scope) (type field : String) :
    scope.fieldType type field =
      match (scope.variablesOf type).find? field with
      | some declaration => some declaration.type
      | none =>
        ((scope.propertiesOf type).find? fun property => Text.sameName property.name field).map
          fun property => property.getter.returnType.getD "None" := by
  rw [fieldType, variablesOf, propertiesOf]
  cases scope.code.blocks.find? type with
  | some block => rfl
  | none =>
      cases scope.code.dataTypes.find? type with
      | none => rfl
      | some dataType =>
          simp only
          cases (scope.code.completeType dataType).declarations.find? field <;> rfl

theorem NamesDistinct.variablesOf_caseDistinct {scope : Scope} (distinct : scope.NamesDistinct)
    (type : String) : CaseDistinct (scope.variablesOf type).names := by
  rw [variablesOf]
  cases isBlock : scope.code.blocks.find? type with
  | some block =>
      refine (distinct.blocks block (Table.mem_values_of_find? isBlock)).of_subset ?_
      exact fun name isName => List.mem_append_left _ (List.mem_append_left _ isName)
  | none =>
      cases isData : scope.code.dataTypes.find? type with
      | some dataType =>
          exact distinct.dataTypes dataType (Table.mem_values_of_find? isData)
      | none => exact fun _ isName => absurd isName List.not_mem_nil

theorem NamesDistinct.property_ne_variable {scope : Scope} (distinct : scope.NamesDistinct)
    {type : String} {property : Property} (isProperty : property ∈ scope.propertiesOf type)
    {name : String} (isVariable : name ∈ (scope.variablesOf type).names) :
    Text.lower property.name ≠ Text.lower name := by
  rw [propertiesOf] at isProperty
  rw [variablesOf] at isVariable
  cases isBlock : scope.code.blocks.find? type with
  | none =>
      rw [isBlock] at isProperty
      exact absurd isProperty List.not_mem_nil
  | some block =>
      rw [isBlock] at isProperty isVariable
      have known := Table.mem_values_of_find? isBlock
      have isMember : name ∈ (scope.code.complete block).memberNames :=
        List.mem_append_left _ (List.mem_append_left _ isVariable)
      have propertyIsMember : property.name ∈ (scope.code.complete block).memberNames :=
        List.mem_append_left _ (List.mem_append_right _ (List.mem_map_of_mem isProperty))
      intro same
      have sameName := distinct.blocks block known _ propertyIsMember _ isMember same
      exact distinct.separate block known property isProperty (sameName ▸ isVariable)

section

variable {scope : Scope} {type field other : String}

/-- A field that is spelt like no variable is a property or unknown, in any case. -/
theorem fieldType_recased (same : Text.lower field = Text.lower other)
    (noVariable : field ∉ (scope.variablesOf type).names)
    (noOther : other ∉ (scope.variablesOf type).names) :
    scope.fieldType type other = scope.fieldType type field := by
  rw [fieldType_eq, fieldType_eq, Table.find?_eq_none_iff.mpr noVariable,
    Table.find?_eq_none_iff.mpr noOther]
  simp only [Text.sameName, same]

/-- Of two spellings of a variable one is unknown. -/
theorem NamesDistinct.fieldType_eq_none (distinct : scope.NamesDistinct)
    (same : Text.lower field = Text.lower other) (differ : field ≠ other)
    (isVariable : field ∈ (scope.variablesOf type).names) : scope.fieldType type other = none := by
  have noVariable : other ∉ (scope.variablesOf type).names := fun isOther =>
    differ (distinct.variablesOf_caseDistinct type field isVariable other isOther same)
  rw [fieldType_eq, Table.find?_eq_none_iff.mpr noVariable]
  refine Option.map_eq_none_iff.mpr (List.find?_eq_none.mpr fun property isProperty agrees => ?_)
  refine distinct.property_ne_variable isProperty isVariable ?_
  rw [Text.sameName_iff.mp agrees, same]

end

/-- Selectors of fields, and others that differ from them in case only. -/
inductive Recased : List Element → List Element → Prop where
  | nil : Recased [] []
  | field {selected other : Variable} {deref otherDeref : Bool} {elements others : List Element}
      (same : Text.lower selected.nameText = Text.lower other.nameText)
      (rest : Recased elements others) :
      Recased (.field selected deref :: elements) (.field other otherDeref :: others)

/-- Along a path of fields the other path keeps the spelling of every variable. -/
def KeepsVariables (scope : Scope) : Option TypeRef → List Element → List Element → Prop
  | some (.named type), .field selected _ :: elements, .field other _ :: others =>
    (selected.nameText ∈ (scope.variablesOf type).names ∨
      other.nameText ∈ (scope.variablesOf type).names → selected.nameText = other.nameText) ∧
    scope.KeepsVariables ((scope.fieldType type selected.nameText).map .named) elements others
  | _, _, _ => True

section

variable {scope : Scope} {elements others : List Element}

theorem keepsVariables_of_not_named {type : Option TypeRef}
    (notNamed : ∀ typeName, type ≠ some (.named typeName)) (elements others : List Element) :
    scope.KeepsVariables type elements others := by
  rw [KeepsVariables.eq_def]
  split
  · exact absurd rfl (notNamed _)
  · trivial

/-- Selectors that keep the spelling of a variable select the same field. -/
theorem fieldType_of_kept {type field other : String} (same : Text.lower field = Text.lower other)
    (kept : field ∈ (scope.variablesOf type).names ∨ other ∈ (scope.variablesOf type).names →
      field = other) : scope.fieldType type other = scope.fieldType type field := by
  by_cases spelt : field ∈ (scope.variablesOf type).names ∨ other ∈ (scope.variablesOf type).names
  · rw [kept spelt]
  · obtain ⟨noVariable, noOther⟩ := not_or.mp spelt
    exact fieldType_recased same noVariable noOther

theorem selectedType_of_keepsVariables (recased : Recased elements others) {type : Option TypeRef}
    (keeps : scope.KeepsVariables type elements others) :
    scope.selectedType type others = scope.selectedType type elements := by
  induction recased generalizing type with
  | nil => rfl
  | field same _ inductionHypothesis =>
      by_cases named : ∃ typeName, type = some (.named typeName)
      · obtain ⟨typeName, rfl⟩ := named
        obtain ⟨kept, later⟩ := keeps
        rw [selectedType, selectedType, fieldType_of_kept same kept, inductionHypothesis later]
      · rw [not_exists] at named
        rw [selectedType_of_not_named named, selectedType_of_not_named named]

/-- Where the path leads to a known type, one that respells a variable leads nowhere. -/
theorem NamesDistinct.selectedType_eq_none (distinct : scope.NamesDistinct)
    (recased : Recased elements others) {type : Option TypeRef} {known : TypeRef}
    (found : (scope.selectedType type elements).result = .ok (some known))
    (respelt : ¬ scope.KeepsVariables type elements others) :
    scope.selectedType type others = pure none := by
  have fromNone (elements : List Element) : scope.selectedType none elements = pure none :=
    selectedType_of_not_named (fun _ => (Option.some_ne_none _).symm) elements
  induction recased generalizing type with
  | nil => exact absurd (by simp [KeepsVariables]) respelt
  | @field selected other _ _ elements others same _ inductionHypothesis =>
      by_cases named : ∃ typeName, type = some (.named typeName)
      · obtain ⟨typeName, rfl⟩ := named
        rw [selectedType] at found ⊢
        by_cases kept : selected.nameText ∈ (scope.variablesOf typeName).names ∨
          other.nameText ∈ (scope.variablesOf typeName).names → selected.nameText = other.nameText
        · rw [fieldType_of_kept same kept]
          exact inductionHypothesis found fun later => respelt ⟨kept, later⟩
        · obtain ⟨isVariable | isVariable, differ⟩ := Classical.not_imp.mp kept
          · rw [distinct.fieldType_eq_none same differ isVariable]
            exact fromNone others
          · rw [distinct.fieldType_eq_none same.symm (Ne.symm differ) isVariable, Option.map_none,
              fromNone] at found
            cases found
      · rw [not_exists] at named
        exact absurd (keepsVariables_of_not_named named _ _) respelt

end

theorem pathType_congr {scope : Scope} {name other : String} {elements others : List Element}
    (sameType : scope.varType other = scope.varType name)
    (selected : ∀ type, (scope.varType name).result = .ok type →
      scope.selectedType type others = scope.selectedType type elements) :
    scope.pathType other others = scope.pathType name elements := by
  rw [pathType, pathType, sameType]
  generalize scope.varType name = first at selected
  obtain ⟨result, notices⟩ := first
  cases result with
  | error fault => rfl
  | ok type =>
      change Logged.mk (scope.selectedType type others).result
        (notices ++ (scope.selectedType type others).notices) = _
      rw [selected type rfl]
      rfl

/-- The case of the variable at the front never matters. A path that keeps the spelling of every
variable it selects has the same type, so the case of properties does not matter either. But where
the type is known, a path that respells a variable of a function block or data type leads to no
type. -/
theorem recased_path_known_iff_variables_kept {scope : Scope} (distinct : scope.NamesDistinct)
    {name other : String} (same : Text.lower name = Text.lower other)
    {elements others : List Element} (recased : Recased elements others) :
    (∀ selected, scope.pathType other selected = scope.pathType name selected) ∧
    (∀ type, (scope.varType name).result = .ok type →
      (scope.KeepsVariables type elements others →
        scope.pathType other others = scope.pathType name elements) ∧
      ∀ known, (scope.pathType name elements).result = .ok (some known) →
        ((scope.pathType other others).result = .ok (some known) ↔
          scope.KeepsVariables type elements others) ∧
        (¬ scope.KeepsVariables type elements others →
          (scope.pathType other others).result = .ok none)) := by
  have sameType := distinct.varType_recased same
  refine ⟨fun selected => pathType_congr sameType fun _ _ => rfl, fun type found => ?_⟩
  have foundOther : (scope.varType other).result = .ok type := by rw [sameType, found]
  have keep (keeps : scope.KeepsVariables type elements others) :
      scope.pathType other others = scope.pathType name elements := by
    refine pathType_congr sameType fun again isAgain => ?_
    cases isAgain.symm.trans found
    exact selectedType_of_keepsVariables recased keeps
  refine ⟨keep, fun known isKnown => ?_⟩
  have respell (respelt : ¬ scope.KeepsVariables type elements others) :
      (scope.pathType other others).result = .ok none := by
    rw [result_pathType found] at isKnown
    rw [result_pathType foundOther, distinct.selectedType_eq_none recased isKnown respelt]
    rfl
  refine ⟨⟨fun stillKnown => ?_, fun keeps => ?_⟩, respell⟩
  · by_contra respelt
    rw [respell respelt] at stillKnown
    cases stillKnown
  · rw [keep keeps, isKnown]

/-! A drive is a motor: it inherits its speed from a device and has a state with a code. -/

def driveVariable (name type : String) : String × Declaration :=
  (name, { name := name, type := type, block := "VAR" })

def stateProperty : Property where
  name := "State"
  getter := { name := "Get", kind := .accessor, returnType := some "Status" }
  setter := { name := "Set", kind := .accessor }

def driveScope : Scope where
  code := {
    blocks := ⟨[("Device", { name := "Device", declarations := ⟨[driveVariable "speed" "REAL"]⟩ }),
      ("Motor", { name := "Motor", bases := some ["Device"], properties := [stateProperty] })]⟩
    dataTypes := ⟨[("Status", {
      name := "Status", kind := .record, declarations := ⟨[driveVariable "code" "INT"]⟩ })]⟩ }
  settings := {}
  layers := [⟨[driveVariable "drive" "Motor"]⟩]

def fieldNamed (name : String) : Element := .field (.simple ⟨1, none, none⟩ name false) false

theorem driveScope_namesDistinct : driveScope.NamesDistinct where
  symbols := by decide
  members := fun _ => nofun
  layers := by decide
  blocks := by decide
  dataTypes := by decide
  separate := by decide

theorem driveScope_varType : (driveScope.varType "drive").result = .ok (some (.named "Motor")) := by
  rw [varType, lookup, complexName?, TypeName.seek_conversions_eq_none (by decide)]
  rfl

theorem driveScope_pathType (elements : List Element) :
    (driveScope.pathType "drive" elements).result =
      (driveScope.selectedType (some (.named "Motor")) elements).result :=
  result_pathType driveScope_varType elements

/-- The state may be written in any case, its code may not. -/
theorem drive_state_recased :
    driveScope.NamesDistinct ∧
    (driveScope.varType "drive").result = .ok (some (.named "Motor")) ∧
    Recased [fieldNamed "State", fieldNamed "code"] [fieldNamed "STATE", fieldNamed "code"] ∧
    (driveScope.pathType "drive" [fieldNamed "State", fieldNamed "code"]).result =
      .ok (some (.named "INT")) ∧
    driveScope.pathType "DRIVE" [fieldNamed "STATE", fieldNamed "code"] =
      driveScope.pathType "drive" [fieldNamed "State", fieldNamed "code"] ∧
    Recased [fieldNamed "State", fieldNamed "code"] [fieldNamed "State", fieldNamed "Code"] ∧
    (driveScope.pathType "drive" [fieldNamed "State", fieldNamed "Code"]).result = .ok none := by
  have known : (driveScope.pathType "drive" [fieldNamed "State", fieldNamed "code"]).result =
      .ok (some (.named "INT")) := by
    rw [driveScope_pathType]
    rfl
  have ofState : Recased [fieldNamed "State", fieldNamed "code"]
      [fieldNamed "STATE", fieldNamed "code"] := .field (by decide) (.field (by decide) .nil)
  have ofCode : Recased [fieldNamed "State", fieldNamed "code"]
      [fieldNamed "State", fieldNamed "Code"] := .field (by decide) (.field (by decide) .nil)
  obtain ⟨-, stateMoved⟩ := recased_path_known_iff_variables_kept driveScope_namesDistinct
    (show Text.lower "drive" = Text.lower "DRIVE" by decide) ofState
  obtain ⟨-, codeMoved⟩ := recased_path_known_iff_variables_kept driveScope_namesDistinct
    (show Text.lower "drive" = Text.lower "drive" by decide) ofCode
  have keeps : driveScope.KeepsVariables (some (.named "Motor"))
      [fieldNamed "State", fieldNamed "code"] [fieldNamed "STATE", fieldNamed "code"] := by
    refine ⟨by decide, fun _ => rfl, trivial⟩
  have respelt : ¬ driveScope.KeepsVariables (some (.named "Motor"))
      [fieldNamed "State", fieldNamed "code"] [fieldNamed "State", fieldNamed "Code"] :=
    fun keeps => absurd (keeps.2.1 (.inl (by decide))) (by decide)
  exact ⟨driveScope_namesDistinct, driveScope_varType, ofState, known,
    (stateMoved _ driveScope_varType).1 keeps, ofCode,
    ((codeMoved _ driveScope_varType).2 _ known).2 respelt⟩

/-- A variable of a type has no type under a name that differs from its own in case only, neither in
a data type nor where a function block inherits it. -/
theorem respelt_variable_unknown :
    driveScope.NamesDistinct ∧
    Recased [fieldNamed "State", fieldNamed "code"] [fieldNamed "State", fieldNamed "CODE"] ∧
    (driveScope.pathType "drive" [fieldNamed "State", fieldNamed "code"]).result =
      .ok (some (.named "INT")) ∧
    (driveScope.pathType "drive" [fieldNamed "State", fieldNamed "CODE"]).result = .ok none ∧
    Recased [fieldNamed "speed"] [fieldNamed "Speed"] ∧
    (driveScope.pathType "drive" [fieldNamed "speed"]).result = .ok (some (.named "REAL")) ∧
    (driveScope.pathType "drive" [fieldNamed "Speed"]).result = .ok none := by
  simp only [driveScope_pathType]
  exact ⟨driveScope_namesDistinct, .field (by decide) (.field (by decide) .nil), rfl, rfl,
    .field (by decide) .nil, rfl, rfl⟩

end Scope

end PlcLint
