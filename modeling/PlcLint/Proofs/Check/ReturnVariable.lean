import PlcLint.Proofs.Lint.Sources
import PlcLint.Proofs.Scope.Members
import PlcLint.Proofs.Scope.Super

/-!
The name of a method inside the method. It is the name of a member of the function block, and
members are looked up before the variable in which a method returns its value; so the return type
has no bearing on any name, and a method without one is never reported.
-/

namespace PlcLint

namespace Scope

/-- Names that are looked up before any member of a function block. -/
def reservedNames (scope : Scope) : List String :=
  ["THIS", "THIS^", "SUPER", "SUPER^"] ++ scope.settings.builtinSymbols.names
    ++ scope.code.dataTypes.names ++ scope.code.blocks.names ++ TypeName.conversions.names
    ++ TypeName.builtinFunctions.names ++ scope.code.functions.names

/-- No reserved name agrees with this one, ignoring case. -/
def Unreserved (scope : Scope) (name : String) : Prop :=
  ∀ reserved ∈ scope.reservedNames, Text.lower reserved ≠ Text.lower name

/-- The strict comparison finds no more than the other. -/
theorem find?_words_eq_none {words : List String} {name : String}
    (unknown : ∀ word ∈ words, Text.lower word ≠ Text.lower name) (strict : Bool) :
    words.find? (agree strict name) = none := by
  refine List.find?_eq_none.mpr fun word isWord agrees => unknown word isWord ?_
  cases strict with
  | true => rw [agree_true_iff.mp agrees]
  | false => exact (Text.sameName_iff.mp agrees).symm

theorem complexName?_of_unreserved {scope : Scope} {name : String} (free : scope.Unreserved name)
    (strict : Bool) : scope.complexName? strict name = none := by
  simp only [Unreserved, reservedNames, List.mem_append, or_imp, forall_and] at free
  obtain ⟨⟨⟨⟨⟨⟨_, _⟩, dataTypes⟩, blocks⟩, conversions⟩, builtin⟩, functions⟩ := free
  rw [complexName?, Table.seek_eq_none dataTypes, Table.seek_eq_none blocks,
    Table.seek_eq_none conversions, Table.seek_eq_none builtin, Table.seek_eq_none functions]
  rfl

variable {scope : Scope} {block : FunctionBlock} {method : Routine}

/-- Under its own name a method is found as a member. -/
theorem lookup_method_name (inBlock : scope.block = some block) (isMethod : method ∈ block.methods)
    (free : scope.Unreserved method.name) (strict : Bool) :
    scope.lookup strict method.name =
      if (scope.code.complete block).propertiesTyped then pure (some method.name, some .complex)
      else throw .untypedProperty := by
  have noComplex := complexName?_of_unreserved free strict
  simp only [Unreserved, reservedNames, List.mem_append, or_imp, forall_and] at free
  obtain ⟨⟨⟨⟨⟨⟨words, symbols⟩, _⟩, _⟩, _⟩, _⟩, _⟩ := free
  have notThis := find?_words_eq_none (fun word (isWord : word ∈ ["THIS", "THIS^"]) =>
    words word (List.mem_append_left ["SUPER", "SUPER^"] isWord)) strict
  have notSuper := find?_words_eq_none (fun word (isWord : word ∈ ["SUPER", "SUPER^"]) =>
    words word (List.mem_append_right ["THIS", "THIS^"] isWord)) strict
  have known := FunctionBlock.find?_memberTypes_complete scope.code isMethod
  rw [lookup, notThis, notSuper, Table.seek_eq_none symbols, noComplex, member?_eq inBlock,
    seek_of_find? known]
  cases (scope.code.complete block).propertiesTyped <;> rfl

/-- A name that agrees with that of a method is found among the members, if at all before the
return variable. -/
theorem returnVariable?_eq_none {routine : Routine} {strict : Bool} {name : String}
    (inBlock : scope.block = some block) (inRoutine : scope.routine = some routine)
    (named : routine.name ∈ block.methods.map (·.name))
    (noMember : scope.member? strict name = .ok none) :
    scope.returnVariable? strict name = .ok none := by
  obtain ⟨method, isMethod, sameName⟩ := List.mem_map.mp named
  have known := FunctionBlock.find?_memberTypes_complete scope.code isMethod
  rw [member?_eq inBlock] at noMember
  split at noMember
  · simp only [returnVariable?, inRoutine]
    rw [if_neg]
    intro agrees
    rw [← sameName] at agrees
    exact seek_ne_none known agrees (Except.ok.inj noMember)
  · cases noMember

/-- The scope if the current routine returned something else. -/
def withReturnType (scope : Scope) (returnType : Option String) : Scope :=
  { scope with
    routine := scope.routine.map fun routine => { routine with returnType := returnType } }

section

variable {routine : Routine} (inBlock : scope.block = some block)
  (inRoutine : scope.routine = some routine) (named : routine.name ∈ block.methods.map (·.name))

include inBlock inRoutine named

theorem lookup_withReturnType (returnType : Option String) (strict : Bool) (name : String) :
    (scope.withReturnType returnType).lookup strict name = scope.lookup strict name := by
  have inOther : (scope.withReturnType returnType).routine =
      some { routine with returnType := returnType } := by
    rw [withReturnType, inRoutine]
    rfl
  have otherBlock : (scope.withReturnType returnType).block = some block := inBlock
  have sameSuper : (scope.withReturnType returnType).superType strict = scope.superType strict := by
    simp only [superType, place, inBlock, inRoutine, otherBlock, inOther]
    cases block.bases <;> rfl
  have sameMember : (scope.withReturnType returnType).member? strict name =
      scope.member? strict name := rfl
  rw [lookup, lookup, sameSuper, sameMember]
  cases isMember : scope.member? strict name with
  | error fault => rfl
  | ok found =>
      cases found with
      | some entry => rfl
      | none =>
          rw [returnVariable?_eq_none inBlock inRoutine named isMember,
            returnVariable?_eq_none otherBlock inOther named (sameMember.trans isMember)]
          rfl

theorem lookup_fault {strict : Bool} {name : String} {fault : Fault}
    (failed : (scope.lookup strict name).result = .error fault) :
    fault = .superOfMethodWithoutBase ∨ fault = .untypedProperty := by
  rw [lookup] at failed
  split at failed
  · simp only [inBlock] at failed
    cases failed
  · rw [Logged.result_bind, result_superType inBlock inRoutine] at failed
    cases isExtended : block.bases with
    | none =>
        rw [isExtended] at failed
        cases failed
        exact .inl rfl
    | some bases =>
        rw [isExtended] at failed
        cases failed
  · split at failed
    · cases failed
    · split at failed
      · cases failed
      · cases isMember : scope.member? strict name with
        | error other =>
            rw [isMember] at failed
            cases failed
            rw [member?_eq inBlock] at isMember
            split at isMember <;> cases isMember
            exact .inr rfl
        | ok found =>
            rw [isMember] at failed
            cases found with
            | some entry => cases failed
            | none =>
                rw [returnVariable?_eq_none inBlock inRoutine named isMember] at failed
                cases isLayered : scope.layered? strict name with
                | none =>
                    rw [isLayered] at failed
                    cases failed
                | some entry =>
                    rw [isLayered] at failed
                    cases failed

end

end Scope

/-- The getters and setters of properties are known as such. -/
def Code.AccessorsMarked (code : Code) : Prop :=
  ∀ block ∈ code.blocks.values, ∀ accessor ∈ block.accessors, accessor.kind = .accessor

/-- Linting looks at each object in the scope of its place. -/
theorem Lint.exists_place_of_mem_visits {code : Code} {settings : Settings} {visit : Visit}
    (visited : visit ∈ (visits code settings).found) :
    ∃ place ∈ code.places, visit.scope = place.scope code settings := by
  rw [visits_eq] at visited
  obtain ⟨step, given, rfl⟩ := List.mem_map.mp visited
  exact ⟨step.1, (Code.inside_steps given).1, rfl⟩

/-- A routine that is no accessor is a method of its function block. -/
theorem Lint.mem_methods_of_mem_visits {code : Code} {settings : Settings} {visit : Visit}
    {block : FunctionBlock} {method : Routine} (marked : code.AccessorsMarked)
    (visited : visit ∈ (visits code settings).found) (inBlock : visit.scope.block = some block)
    (inMethod : visit.scope.routine = some method) (isMethod : method.kind = .method) :
    method ∈ block.methods := by
  obtain ⟨place, isPlace, isScope⟩ := exists_place_of_mem_visits visited
  rw [isScope] at inBlock inMethod
  cases inBlock
  obtain ⟨owner, isOwner, placed⟩ := List.mem_flatMap.mp isPlace
  rcases List.mem_cons.mp placed with rfl | inRoutine
  · cases inMethod
  · obtain ⟨routine, isRoutine, rfl⟩ := List.mem_map.mp inRoutine
    cases inMethod
    rcases List.mem_append.mp isRoutine with own | accessor
    · exact own
    · rw [marked owner isOwner method accessor] at isMethod
      cases isMethod

namespace Check

/-- What the check of scoping says in a method is about `SUPER` in a block that extends nothing. -/
theorem message_of_validScoping {scope : Scope} {block : FunctionBlock} {routine : Routine}
    (inBlock : scope.block = some block) (inRoutine : scope.routine = some routine)
    (named : routine.name ∈ block.methods.map (·.name)) {origin : Origin} {name : String}
    {deref : Bool} {walk : Walk Remark} {remark : Remark}
    (returned :
      (validScoping.run scope (.expr (.var (.simple origin name deref)))).result = .ok walk)
    (given : remark ∈ walk.found) : remark.message = "'NoneType' object is not iterable" := by
  have faults (fault : Fault) (failed : (scope.lookup false name).result = .error fault) :
      fault = .superOfMethodWithoutBase ∨ fault = .untypedProperty :=
    Scope.lookup_fault inBlock inRoutine named failed
  simp only [validScoping, Scope.varType] at returned
  generalize scope.lookup false name = attempt at returned faults
  obtain ⟨result, notices⟩ := attempt
  cases result with
  | ok found =>
      cases returned
      cases given
  | error fault =>
      rcases faults fault rfl with rfl | rfl
      · cases returned
        rw [List.mem_singleton.mp given]
      · cases returned

/-- Wherever linting is inside a method, the return type of the method has no bearing on what any
name is found to be: the name of the method is that of a member without a plain type, or the lookup
fails at a property without type. So the check of scoping never reports a missing return type. -/
theorem return_type_has_no_bearing {code : Code} {settings : Settings} {visit : Visit}
    {block : FunctionBlock} {method : Routine} (marked : code.AccessorsMarked)
    (visited : visit ∈ (Lint.visits code settings).found)
    (inBlock : visit.scope.block = some block) (inMethod : visit.scope.routine = some method)
    (isMethod : method.kind = .method) :
    method ∈ block.methods ∧
    (∀ returnType strict name,
      (visit.scope.withReturnType returnType).lookup strict name =
        visit.scope.lookup strict name) ∧
    (visit.scope.Unreserved method.name → ∀ strict, visit.scope.varType method.name strict =
      if (code.complete block).propertiesTyped then pure (some .complex)
      else throw .untypedProperty) ∧
    (∀ origin name deref walk,
      (validScoping.run visit.scope (.expr (.var (.simple origin name deref)))).result = .ok walk →
      ∀ remark ∈ walk.found, remark.message = "'NoneType' object is not iterable") := by
  have own := Lint.mem_methods_of_mem_visits marked visited inBlock inMethod isMethod
  have named : method.name ∈ block.methods.map (·.name) := List.mem_map_of_mem own
  refine ⟨own, Scope.lookup_withReturnType inBlock inMethod named, fun free strict => ?_,
    fun origin name deref walk returned remark given =>
      message_of_validScoping inBlock inMethod named returned given⟩
  obtain ⟨place, _, isScope⟩ := Lint.exists_place_of_mem_visits visited
  have sameCode : visit.scope.code = code := by rw [isScope]; rfl
  rw [Scope.varType, Scope.lookup_method_name inBlock own free, sameCode]
  cases (code.complete block).propertiesTyped <;> rfl

/-! A function block with a method, which may or may not return something. -/

def startMethod (returnType : Option String) : Routine where
  name := "Start"
  kind := .method
  returnType := returnType
  body := some []

def starterBlock (returnType : Option String) : FunctionBlock where
  name := "Starter"
  methods := [startMethod returnType]
  properties := [{
    name := "Ready"
    getter := { name := "Ready", kind := .accessor, returnType := some "BOOL", body := some [] }
    setter := { name := "Ready", kind := .accessor, body := some [] } }]

def starterCode (returnType : Option String) : Code where
  blocks := ⟨[("Starter", starterBlock returnType)]⟩

def startVisit (returnType : Option String) : Visit :=
  ⟨Place.scope (starterCode returnType) {} ⟨starterBlock returnType, some (startMethod returnType)⟩,
    .method (startMethod returnType)⟩

theorem startVisit_mem (returnType : Option String) :
    startVisit returnType ∈ (Lint.visits (starterCode returnType) {}).found := by
  have visits : ∃ later, (Lint.visits (starterCode returnType) {}).found =
      ⟨Place.scope (starterCode returnType) {} ⟨starterBlock returnType, none⟩,
        .block (starterBlock returnType)⟩ :: startVisit returnType :: later := ⟨_, rfl⟩
  obtain ⟨later, isFound⟩ := visits
  rw [isFound]
  exact List.mem_cons_of_mem _ List.mem_cons_self

theorem startVisit_unreserved (returnType : Option String) :
    (startVisit returnType).scope.Unreserved "Start" := by
  have words : ∀ word ∈ ["THIS", "THIS^", "SUPER", "SUPER^", "Starter"],
      Text.lower word ≠ Text.lower "Start" := by decide
  have language : ∀ word ∈ TypeName.builtinFunctions.names,
      Text.lower word ≠ Text.lower "Start" := by decide
  intro reserved isReserved
  rcases List.mem_append.mp isReserved with before | ofFunctions
  · rcases List.mem_append.mp before with before | ofLanguage
    · rcases List.mem_append.mp before with others | ofConversions
      · exact words reserved others
      · exact TypeName.lower_ne_of_mem_conversions (by decide) ofConversions
    · exact language reserved ofLanguage
  · cases ofFunctions

theorem starterCode_marked (returnType : Option String) :
    (starterCode returnType).AccessorsMarked := by
  intro block isBlock accessor isAccessor
  rw [List.mem_singleton.mp isBlock] at isAccessor
  change accessor ∈ [_, _] at isAccessor
  rcases List.mem_pair.mp isAccessor with rfl | rfl <;> rfl

theorem startVisit_lookups :
    (starterCode (some "INT")).AccessorsMarked ∧
    startVisit (some "INT") ∈ (Lint.visits (starterCode (some "INT")) {}).found ∧
    (startVisit (some "INT")).scope.Unreserved "Start" ∧
    (startVisit (some "INT")).scope.varType "Start" = pure (some .complex) ∧
    (startVisit (some "INT")).scope.varType "Start" true = pure (some .complex) ∧
    ((startVisit (some "INT")).scope.withReturnType none).lookup false "start" =
      (startVisit (some "INT")).scope.lookup false "start" := by
  have marked := starterCode_marked (some "INT")
  have visited := startVisit_mem (some "INT")
  have free := startVisit_unreserved (some "INT")
  have inBlock : (startVisit (some "INT")).scope.block = some (starterBlock (some "INT")) := rfl
  have inMethod : (startVisit (some "INT")).scope.routine = some (startMethod (some "INT")) := rfl
  obtain ⟨-, noBearing, own, -⟩ := return_type_has_no_bearing marked visited inBlock inMethod rfl
  exact ⟨marked, visited, free, own free false, own free true, noBearing none false "start"⟩

/-- Inside the method its name has not the type that the method returns, and if the method returns
nothing, the check of scoping has nothing to say. -/
theorem method_name_not_return_variable :
    startVisit (some "INT") ∈ (Lint.visits (starterCode (some "INT")) {}).found ∧
    (startVisit (some "INT")).scope.Unreserved "Start" ∧
    (startVisit (some "INT")).scope.varType "Start" ≠ pure (some (.named "INT")) ∧
    startVisit none ∈ (Lint.visits (starterCode none) {}).found ∧
    (startVisit none).scope.Unreserved "Start" ∧
    (startVisit none).scope.varType "Start" ≠ throw (.noReturnType "Start") ∧
    validScoping.run (startVisit none).scope
      (.expr (.var (.simple ⟨1, none, none⟩ "Start" false))) = noRemarks := by
  have type (returnType : Option String) :
      (startVisit returnType).scope.varType "Start" = pure (some .complex) := by
    have inBlock : (startVisit returnType).scope.block = some (starterBlock returnType) := rfl
    have isMethod : startMethod returnType ∈ (starterBlock returnType).methods :=
      List.mem_singleton.mpr rfl
    have found := Scope.lookup_method_name inBlock isMethod (startVisit_unreserved returnType) false
    change (startVisit returnType).scope.lookup false "Start" = _ at found
    rw [Scope.varType, found]
    rfl
  refine ⟨startVisit_mem _, startVisit_unreserved _, ?_, startVisit_mem _, startVisit_unreserved _,
    ?_, ?_⟩
  · rw [type]
    intro same
    cases same
  · rw [type]
    intro same
    cases same
  · exact validScoping_of_varType (type none)

end Check

end PlcLint
