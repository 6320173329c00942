import PlcLint.Naming
import PlcLint.Scope.Typing

/-!
Scopes in which every name is found alike. Tables may list their entries in different orders, and
settings may differ in the level and the entries of single checks: neither has a bearing on what a
name or an expression means.
-/

namespace PlcLint

/-- Every name is found in both tables alike, exactly or ignoring case. -/
structure Table.Alike {α : Type} (first second : Table α) : Prop where
  find : ∀ name, first.find? name = second.find? name
  findNamed : ∀ name, first.findNamed? name = second.findNamed? name

namespace Table.Alike

variable {α : Type} {first second : Table α}

theorem refl (table : Table α) : table.Alike table := ⟨fun _ => rfl, fun _ => rfl⟩

theorem findFolded (alike : first.Alike second) (name : String) :
    first.findFolded? name = second.findFolded? name := by
  rw [findFolded?, findFolded?, alike.findNamed]

theorem contains (alike : first.Alike second) (name : String) :
    first.contains name = second.contains name := by
  rw [Table.contains, Table.contains, alike.find]

theorem seek (alike : first.Alike second) (strict : Bool) (name : String) :
    Scope.seek strict first name = Scope.seek strict second name := by
  rw [Scope.seek, Scope.seek, alike.find, alike.findNamed]

end Table.Alike

/-- Code in which the same names mean the same. -/
structure Code.Alike (first second : Code) : Prop where
  functions : first.functions.Alike second.functions
  blocks : first.blocks.Alike second.blocks
  blockCount : first.blocks.entries.length = second.blocks.entries.length
  dataTypes : first.dataTypes.Alike second.dataTypes
  typeCount : first.dataTypes.entries.length = second.dataTypes.entries.length
  interfaces : ∀ name, first.interfaces.contains name = second.interfaces.contains name
  inheritance : first.inheritance = second.inheritance

namespace Code.Alike

variable {first second : Code}

theorem refl (code : Code) : code.Alike code :=
  ⟨.refl _, .refl _, rfl, .refl _, rfl, fun _ => rfl, rfl⟩

theorem complete (alike : first.Alike second) (block : FunctionBlock) :
    first.complete block = second.complete block := by
  rw [Code.complete, Code.complete, alike.inheritance]
  exact second.inheritance.block_rearranged ⟨alike.blocks.find, alike.blockCount⟩ block

theorem completeType (alike : first.Alike second) (type : DataType) :
    first.completeType type = second.completeType type := by
  rw [Code.completeType, Code.completeType, alike.inheritance]
  exact second.inheritance.type_rearranged ⟨alike.dataTypes.find, alike.typeCount⟩ type

theorem basesFrom (alike : first.Alike second) (depth : Nat) (block : FunctionBlock) :
    Scope.basesFrom first.blocks depth block = Scope.basesFrom second.blocks depth block := by
  induction depth generalizing block with
  | zero => rfl
  | succ depth inductionHypothesis =>
      rw [Scope.basesFrom, Scope.basesFrom]
      simp only [alike.blocks.findFolded, inductionHypothesis]

theorem declaredLetters? (alike : first.Alike second) (settings : Settings) (level : Level)
    (checks : Table CheckSettings) (typeName : String) :
    PlcLint.declaredLetters? first { settings with level := level, checks := checks } typeName =
      PlcLint.declaredLetters? second settings typeName := by
  rw [PlcLint.declaredLetters?, PlcLint.declaredLetters?, alike.blocks.contains,
    alike.interfaces, alike.dataTypes.find]

theorem typeLettersFrom (alike : first.Alike second) (settings : Settings) (level : Level)
    (checks : Table CheckSettings) (fuel : Nat) (text : String) :
    PlcLint.typeLettersFrom first { settings with level := level, checks := checks } fuel text =
      PlcLint.typeLettersFrom second settings fuel text := by
  induction fuel generalizing text with
  | zero => rfl
  | succ fuel inductionHypothesis =>
      rw [PlcLint.typeLettersFrom, PlcLint.typeLettersFrom]
      simp only [inductionHypothesis, alike.declaredLetters?]

end Code.Alike

/-- Settings that differ at most in the level and the entries of checks. -/
def Settings.Alike (first second : Settings) : Prop :=
  ∃ level checks, first = { second with level := level, checks := checks }

theorem Settings.Alike.refl (settings : Settings) : settings.Alike settings :=
  ⟨settings.level, settings.checks, rfl⟩

/-- Scopes at the same place in which every name is found alike. A variable counts by its spelling
and its type. -/
structure Scope.Alike (first second : Scope) : Prop where
  code : first.code.Alike second.code
  settings : first.settings.Alike second.settings
  block : first.block = second.block
  routine : first.routine = second.routine
  layered : ∀ strict name,
    (first.layered? strict name).map (fun entry => (entry.1, entry.2.type)) =
      (second.layered? strict name).map fun entry => (entry.1, entry.2.type)

namespace Scope.Alike

variable {first second : Scope}

theorem builtinSymbols (alike : first.Alike second) :
    first.settings.builtinSymbols = second.settings.builtinSymbols := by
  obtain ⟨level, checks, same⟩ := alike.settings
  rw [same]

theorem place (alike : first.Alike second) : first.place = second.place := by
  rw [Scope.place, Scope.place, alike.block, alike.routine]

theorem members (alike : first.Alike second) (block : FunctionBlock) :
    first.members block = second.members block := by
  rw [Scope.members, Scope.members, alike.code.complete]

theorem isSuperBase (alike : first.Alike second) (strict : Bool) (routine base : String) :
    first.isSuperBase strict routine base = second.isSuperBase strict routine base := by
  rw [Scope.isSuperBase, Scope.isSuperBase, alike.code.blocks.seek]
  simp only [alike.code.complete]

theorem superType (alike : first.Alike second) (strict : Bool) :
    first.superType strict = second.superType strict := by
  rw [Scope.superType, Scope.superType, alike.block, alike.routine, alike.place]
  simp only [funext (alike.isSuperBase strict _)]

theorem complexName? (alike : first.Alike second) (strict : Bool) (name : String) :
    first.complexName? strict name = second.complexName? strict name := by
  rw [Scope.complexName?, Scope.complexName?, alike.code.dataTypes.seek, alike.code.blocks.seek,
    alike.code.functions.seek]

theorem member? (alike : first.Alike second) (strict : Bool) (name : String) :
    first.member? strict name = second.member? strict name := by
  rw [Scope.member?, Scope.member?, alike.block]
  simp only [alike.members]

theorem returnVariable? (alike : first.Alike second) (strict : Bool) (name : String) :
    first.returnVariable? strict name = second.returnVariable? strict name := by
  rw [Scope.returnVariable?, Scope.returnVariable?, alike.routine]

theorem lookup (alike : first.Alike second) (strict : Bool) (name : String) :
    first.lookup strict name = second.lookup strict name := by
  rw [Scope.lookup, Scope.lookup, alike.block, alike.superType, alike.builtinSymbols,
    alike.complexName?, alike.member?, alike.returnVariable?]
  -- Only the last step differs, and it shows no more of a variable than its spelling and type.
  have same := alike.layered strict name
  cases inFirst : first.layered? strict name with
  | none =>
      rw [inFirst, Option.map_none] at same
      rw [Option.map_eq_none_iff.mp same.symm]
  | some entry =>
      rw [inFirst, Option.map_some] at same
      obtain ⟨other, inSecond, sameEntry⟩ := Option.map_eq_some_iff.mp same.symm
      obtain ⟨sameKey, sameType⟩ := Prod.mk.inj sameEntry
      simp only [inSecond, sameKey, sameType]

theorem varType (alike : first.Alike second) (name : String) (strict : Bool) :
    first.varType name strict = second.varType name strict := by
  rw [Scope.varType, Scope.varType, alike.lookup]

theorem suggestion (alike : first.Alike second) (name : String) :
    first.suggestion name = second.suggestion name := by
  rw [Scope.suggestion, Scope.suggestion, alike.lookup]

theorem bases (alike : first.Alike second) (block : FunctionBlock) :
    first.bases block = second.bases block := by
  rw [Scope.bases, Scope.bases, alike.code.basesFrom, alike.code.blockCount]

/-! Types of expressions. -/

theorem fieldType (alike : first.Alike second) (type field : String) :
    first.fieldType type field = second.fieldType type field := by
  rw [Scope.fieldType, Scope.fieldType, alike.code.blocks.find, alike.code.dataTypes.find]
  simp only [alike.code.complete, alike.code.completeType]

theorem selectedType (alike : first.Alike second) (type : Option TypeRef)
    (elements : List Element) :
    first.selectedType type elements = second.selectedType type elements := by
  induction elements generalizing type with
  | nil => simp [Scope.selectedType]
  | cons element rest inductionHypothesis =>
      cases type with
      | none => simp [Scope.selectedType]
      | some found =>
          cases found with
          | named name =>
              cases element with
              | subscripts indices deref =>
                  simp only [Scope.selectedType, alike.place, inductionHypothesis]
              | field selected deref =>
                  simp only [Scope.selectedType, alike.fieldType, inductionHypothesis]
          | complex => simp [Scope.selectedType]
          | declared text => simp [Scope.selectedType]

theorem pathType (alike : first.Alike second) (name : String) (elements : List Element) :
    first.pathType name elements = second.pathType name elements := by
  rw [Scope.pathType, Scope.pathType, alike.varType, funext (alike.selectedType · elements)]

theorem callType (alike : first.Alike second) (expr : Expr) (callee : Variable) :
    first.callType expr callee = second.callType expr callee := by
  rw [Scope.callType, Scope.callType, alike.code.functions.findFolded, alike.varType]

theorem exprType (alike : first.Alike second) (expr : Expr) :
    first.exprType expr = second.exprType expr := by
  cases expr with
  | literal origin value => rw [Scope.exprType, Scope.exprType]
  | direct origin located address => rw [Scope.exprType, Scope.exprType]
  | var value =>
      cases value with
      | simple origin name deref => rw [Scope.exprType, Scope.exprType, alike.varType]
      | path origin base elements => rw [Scope.exprType, Scope.exprType, alike.pathType]
  | unary origin op operand =>
      rw [Scope.exprType, Scope.exprType, exprType alike operand]
  | binary origin left op right =>
      rw [Scope.exprType, Scope.exprType, exprType alike left, exprType alike right]
  | paren origin inner => rw [Scope.exprType, Scope.exprType, exprType alike inner]
  | bracket origin inner => rw [Scope.exprType, Scope.exprType]
  | call origin asStatement callee arguments =>
      rw [Scope.exprType, Scope.exprType, alike.callType]
  | chain origin calls => rw [Scope.exprType, Scope.exprType]
termination_by structural expr

theorem typeLetters (alike : first.Alike second) (typeName : String) :
    first.typeLetters typeName = second.typeLetters typeName := by
  obtain ⟨level, checks, same⟩ := alike.settings
  rw [Scope.typeLetters, Scope.typeLetters, same]
  exact alike.code.typeLettersFrom second.settings level checks _ typeName

end Scope.Alike

end PlcLint
