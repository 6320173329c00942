import PlcLint.Proofs.Scope.Spelling
import PlcLint.Proofs.Table

/-!
The members of a function block as one table. A property whose getter has no type spoils the whole
table; otherwise a method is found under its own name, in front of any variable or property.
-/

namespace PlcLint

namespace FunctionBlock

/-- Every property has a type. -/
def propertiesTyped (block : FunctionBlock) : Bool :=
  block.properties.all fun property => property.getter.returnType.isSome

/-- The members with their types, if every property has one. -/
def memberTypes (block : FunctionBlock) : Table TypeRef :=
  ((block.declarations.map fun declaration => .named declaration.type).update
    ⟨block.properties.map fun property =>
      (property.name, .named (property.getter.returnType.getD ""))⟩).update
    ⟨block.methods.map fun method => (method.name, .complex)⟩

def memberNames (block : FunctionBlock) : List String :=
  block.declarations.names ++ block.properties.map (·.name) ++ block.methods.map (·.name)

theorem names_memberTypes_subset (block : FunctionBlock) :
    block.memberTypes.names ⊆ block.memberNames := by
  intro name isName
  have first := List.find?_isSome.mpr ⟨name, isName, beq_self_eq_true name⟩
  rw [memberTypes, Table.find?_names_update, List.find?_append, Table.find?_names_update,
    ← List.find?_append, List.find?_isSome] at first
  obtain ⟨found, isFound, same⟩ := first
  cases eq_of_beq same
  simpa [memberNames, Table.names, Table.map] using isFound

theorem find?_memberTypes_of_method {block : FunctionBlock} {method : Routine}
    (isMethod : method ∈ block.methods) : block.memberTypes.find? method.name = some .complex := by
  have entry : (method.name, TypeRef.complex) ∈
      (block.methods.map fun method => (method.name, TypeRef.complex)).reverse :=
    List.mem_reverse.mpr (List.mem_map_of_mem isMethod)
  rw [memberTypes, Table.find?_update]
  cases found : (block.methods.map fun method => (method.name, TypeRef.complex)).reverse.lookup
      method.name with
  | none => exact absurd rfl (bne_iff_ne.mp (List.lookup_eq_none_iff.mp found _ entry))
  | some type =>
      obtain ⟨other, _, isType⟩ :=
        List.mem_map.mp (List.mem_reverse.mp (Table.mem_of_lookup found))
      rw [← (Prod.mk.inj isType).2]
      rfl

/-- The methods of the block itself are found, also if it inherits others of the same name. -/
theorem find?_memberTypes_complete (code : Code) {block : FunctionBlock} {method : Routine}
    (isMethod : method ∈ block.methods) :
    (code.complete block).memberTypes.find? method.name = some .complex :=
  find?_memberTypes_of_method (code.inheritance.keeps code.blocks block method isMethod)

end FunctionBlock

namespace Scope

theorem mapM_propertyType (properties : List Property) :
    (properties.mapM fun property =>
        return (property.name, TypeRef.named (← propertyType property)))
      = if properties.all fun property => property.getter.returnType.isSome then
          .ok (properties.map fun property =>
            (property.name, .named (property.getter.returnType.getD "")))
        else .error .untypedProperty := by
  induction properties with
  | nil => rfl
  | cons property rest inductionHypothesis =>
      rw [List.mapM_cons, inductionHypothesis, List.all_cons, propertyType]
      cases typed : property.getter.returnType with
      | none => rfl
      | some type =>
          simp only [Option.isSome_some, Bool.true_and, List.map_cons, typed, Option.getD_some]
          cases rest.all fun property => property.getter.returnType.isSome <;> rfl

theorem members_eq (scope : Scope) (block : FunctionBlock) :
    scope.members block =
      if (scope.code.complete block).propertiesTyped then
        .ok (scope.code.complete block).memberTypes
      else .error .untypedProperty := by
  rw [members, mapM_propertyType, FunctionBlock.propertiesTyped]
  cases (scope.code.complete block).properties.all
    fun property => property.getter.returnType.isSome <;> rfl

theorem member?_eq {scope : Scope} {block : FunctionBlock} (inBlock : scope.block = some block)
    (strict : Bool) (name : String) :
    scope.member? strict name =
      if (scope.code.complete block).propertiesTyped then
        .ok (seek strict (scope.code.complete block).memberTypes name)
      else .error .untypedProperty := by
  simp only [member?, inBlock, members_eq]
  cases (scope.code.complete block).propertiesTyped <;> rfl

section

variable {α : Type} {table : Table α} {key name : String} {value : α}

theorem seek_of_find? (known : table.find? key = some value) (strict : Bool) :
    seek strict table key = some (key, value) := by
  cases strict with
  | true => rw [seek, known]; rfl
  | false =>
      change table.findNamed? key = _
      rw [Table.findNamed?, known]

theorem seek_ne_none {strict : Bool} (known : table.find? key = some value)
    (agrees : agree strict key name = true) : seek strict table name ≠ none := by
  cases strict with
  | true =>
      cases agree_true_iff.mp agrees
      rw [seek_of_find? known]
      exact Option.some_ne_none _
  | false =>
      intro missing
      have nothing := seek_eq_none_of_seek_folded missing agrees
      rw [seek_of_find? known] at nothing
      cases nothing

end

end Scope

end PlcLint
