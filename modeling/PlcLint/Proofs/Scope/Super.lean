import PlcLint.Proofs.Check.Suggestion

/-!
The type of `SUPER` in a method or accessor: the first base that offers a routine of this name,
declared in it or inherited over any number of steps. The strict lookup is strict about more than
the spelling of `SUPER`: it also wants the base and the routine to be spelt as they are declared.
-/

namespace PlcLint

/-- The first item with a property. -/
def FirstOf {α : Type} (holds : α → Prop) (items : List α) (item : α) : Prop :=
  holds item ∧ ∃ before after, items = before ++ item :: after ∧ ∀ other ∈ before, ¬ holds other

theorem FirstOf.of_stronger {α : Type} {holds stronger : α → Prop} {items : List α} {item : α}
    (first : FirstOf holds items item) (implies : ∀ other, stronger other → holds other)
    (isStronger : stronger item) : FirstOf stronger items item := by
  obtain ⟨_, before, after, split, earlier⟩ := first
  exact ⟨isStronger, before, after, split, fun other inBefore isOther =>
    earlier other inBefore (implies other isOther)⟩

namespace Scope

/-- The base names a block that offers a routine of this name; base and routine are compared
strictly or ignoring case. -/
def OffersSuper (scope : Scope) (strict : Bool) (routine base : String) : Prop :=
  ∃ key parent name, seek strict scope.code.blocks base = some (key, parent) ∧
    parent.Offers scope.code.blocks name ∧ agree strict name routine = true

section

variable {scope : Scope} {strict : Bool} {routine base : String}

theorem isSuperBase_iff :
    scope.isSuperBase strict routine base = true ↔ scope.OffersSuper strict routine base := by
  rw [isSuperBase, OffersSuper]
  cases seek strict scope.code.blocks base with
  | none => simp
  | some entry =>
      obtain ⟨key, parent⟩ := entry
      change (scope.code.complete parent).routineNames.any _ = true ↔ _
      rw [List.any_eq_true]
      simp only [Code.complete, scope.code.inheritance.offers, Option.some.injEq, Prod.mk.injEq]
      constructor
      · rintro ⟨name, offered, agrees⟩
        exact ⟨key, parent, name, ⟨rfl, rfl⟩, offered, agrees⟩
      · rintro ⟨_, _, name, ⟨rfl, rfl⟩, offered, agrees⟩
        exact ⟨name, offered, agrees⟩

/-- Strictly: the base is spelt like a block, and the routine like one that this block offers. -/
theorem offersSuper_strict_iff :
    scope.OffersSuper true routine base ↔
      ∃ parent, scope.code.blocks.find? base = some parent ∧
        parent.Offers scope.code.blocks routine := by
  constructor
  · rintro ⟨key, parent, name, found, offered, agrees⟩
    obtain ⟨value, known, isEntry⟩ := Option.map_eq_some_iff.mp found
    cases isEntry
    cases agree_true_iff.mp agrees
    exact ⟨parent, known, offered⟩
  · rintro ⟨parent, known, offered⟩
    exact ⟨base, parent, routine, by rw [seek, known]; rfl, offered, agree_true_iff.mpr rfl⟩

theorem OffersSuper.folded (strictly : scope.OffersSuper true routine base) :
    scope.OffersSuper false routine base := by
  obtain ⟨parent, known, offered⟩ := offersSuper_strict_iff.mp strictly
  refine ⟨base, parent, routine, ?_, offered, Text.sameName_iff.mpr rfl⟩
  change scope.code.blocks.findNamed? base = _
  rw [Table.findNamed?, known]

end

/-! The lookup of `SUPER^` in a routine. -/

section

variable {scope : Scope} {block : FunctionBlock} {routine : Routine}

theorem result_lookup_super (scope : Scope) (strict : Bool) :
    (scope.lookup strict "SUPER^").result =
      (scope.superType strict).result.map fun type => (some "SUPER^", type) := by
  have notThis : ["THIS", "THIS^"].find? (agree strict "SUPER^") = none := by
    cases strict <;> decide
  have isSuper : ["SUPER", "SUPER^"].find? (agree strict "SUPER^") = some "SUPER^" := by
    cases strict <;> decide
  rw [lookup, notThis, isSuper]
  simp only [Logged.result_bind]
  cases (scope.superType strict).result <;> rfl

theorem result_varType_super (scope : Scope) (strict : Bool) :
    (scope.varType "SUPER^" strict).result = (scope.superType strict).result := by
  rw [varType, Logged.result_bind, result_lookup_super]
  cases (scope.superType strict).result <;> rfl

theorem result_superType (inBlock : scope.block = some block)
    (inRoutine : scope.routine = some routine) (strict : Bool) :
    (scope.superType strict).result =
      match block.bases with
      | none => .error .superOfMethodWithoutBase
      | some bases => .ok ((bases.find? (scope.isSuperBase strict routine.name)).map .named) := by
  simp only [superType, inBlock, inRoutine]
  cases block.bases with
  | none => rfl
  | some bases =>
      simp only
      cases bases.find? (scope.isSuperBase strict routine.name) <;> rfl

theorem superType_eq_some_iff (inBlock : scope.block = some block)
    (inRoutine : scope.routine = some routine) (strict : Bool) {type : TypeRef} :
    (scope.superType strict).result = .ok (some type) ↔
      ∃ bases base, block.bases = some bases ∧ type = .named base ∧
        FirstOf (scope.OffersSuper strict routine.name) bases base := by
  rw [result_superType inBlock inRoutine]
  cases block.bases with
  | none => simp
  | some bases =>
      simp only [Except.ok.injEq, Option.map_eq_some_iff, List.find?_eq_some_iff_append,
        isSuperBase_iff, FirstOf, Bool.not_eq_true', ← Bool.not_eq_true, Option.some.injEq]
      constructor
      · rintro ⟨base, first, rfl⟩
        exact ⟨bases, base, rfl, rfl, first⟩
      · rintro ⟨_, base, rfl, rfl, first⟩
        exact ⟨base, first, rfl⟩

theorem superType_eq_none_iff (inBlock : scope.block = some block)
    (inRoutine : scope.routine = some routine) (strict : Bool) {bases : List String}
    (extended : block.bases = some bases) :
    (scope.superType strict).result = .ok none ↔
      ∀ base ∈ bases, ¬ scope.OffersSuper strict routine.name base := by
  rw [result_superType inBlock inRoutine, extended]
  simp only [Except.ok.injEq, Option.map_eq_none_iff, List.find?_eq_none, isSuperBase_iff]

end

end Scope

namespace Check

variable {scope : Scope} {name key : String} {type : Option TypeRef}

/-- The remark on a name that the strict lookup does not find. -/
theorem result_variableExists_of_unknown {origin : Origin} {deref : Bool}
    (unknown : (scope.varType name true).result = .ok none)
    (found : (scope.lookup false name).result = .ok (some key, type)) :
    (variableExists.run scope (.expr (.var (.simple origin name deref)))).result =
      .ok (Walk.ofList [{
        message :=
          notFound ("Variable " ++ name ++ " cannot be found in the current context") (some key)
        violating := some (.node origin) }]) := by
  have suggested : (scope.suggestion name).result = .ok (some key) := by
    rw [Scope.suggestion, Logged.result_bind, found]
    rfl
  simp only [variableExists, Logged.result_bind, unknown, Except.bind, suggested]
  rfl

theorem result_variableExists_of_known {origin : Origin} {deref : Bool} {known : TypeRef}
    (strictly : (scope.varType name true).result = .ok (some known)) :
    (variableExists.run scope (.expr (.var (.simple origin name deref)))).result = .ok {} := by
  simp only [variableExists, Logged.result_bind, strictly, Except.bind]
  rfl

/-- What the check of names says about `SUPER^`, although it is written correctly. -/
def superRemark (origin : Origin) : Remark where
  message := "Variable SUPER^ cannot be found in the current context, did you mean 'SUPER^'?"
  violating := some (.node origin)

/-- Where the lookup that ignores case does not fail, the strict one decides on the remark. -/
theorem superRemark_iff (found : (scope.superType false).result = .ok type) (origin : Origin)
    (deref : Bool) :
    (variableExists.run scope (.expr (.var (.simple origin "SUPER^" deref)))).result =
        .ok (Walk.ofList [superRemark origin]) ↔
      (scope.varType "SUPER^" true).result = .ok none := by
  constructor
  · intro reported
    cases outcome : (scope.varType "SUPER^" true).result with
    | error fault =>
        simp [variableExists, Logged.result_bind, outcome, Except.bind] at reported
    | ok answer =>
        cases answer with
        | none => rfl
        | some known =>
            rw [result_variableExists_of_known outcome] at reported
            cases reported
  · intro unknown
    have suggested := Scope.result_lookup_super scope false
    rw [found] at suggested
    rw [result_variableExists_of_unknown unknown suggested]
    rfl

/-- Where `SUPER^` has a type, ignoring case, it is that of the first base that offers the routine.
The strict lookup gives it exactly if this base is spelt like a block and the routine like one that
this block offers; else it gives the first other base that is spelt so, or none. If there is none,
the check of names takes `SUPER^` for unknown. -/
theorem super_strict_iff_spelt {block : FunctionBlock} {routine : Routine} {type : TypeRef}
    (inBlock : scope.block = some block) (inRoutine : scope.routine = some routine)
    (found : (scope.varType "SUPER^").result = .ok (some type)) :
    ∃ bases base, block.bases = some bases ∧ type = .named base ∧
      FirstOf (scope.OffersSuper false routine.name) bases base ∧
      ((scope.varType "SUPER^" true).result = .ok (some type) ↔
        ∃ parent, scope.code.blocks.find? base = some parent ∧
          parent.Offers scope.code.blocks routine.name) ∧
      (∀ other, (scope.varType "SUPER^" true).result = .ok (some (.named other)) ↔
        FirstOf (scope.OffersSuper true routine.name) bases other) ∧
      (∀ origin deref,
        (variableExists.run scope (.expr (.var (.simple origin "SUPER^" deref)))).result =
            .ok (Walk.ofList [superRemark origin]) ↔
          ∀ other ∈ bases, ¬ scope.OffersSuper true routine.name other) := by
  rw [Scope.result_varType_super] at found
  obtain ⟨bases, base, extended, rfl, first⟩ :=
    (Scope.superType_eq_some_iff inBlock inRoutine false).mp found
  have strictly (other : String) :
      (scope.varType "SUPER^" true).result = .ok (some (.named other)) ↔
        FirstOf (scope.OffersSuper true routine.name) bases other := by
    rw [Scope.result_varType_super, Scope.superType_eq_some_iff inBlock inRoutine, extended]
    constructor
    · rintro ⟨_, _, ⟨⟩, ⟨⟩, firstStrictly⟩
      exact firstStrictly
    · exact fun firstStrictly => ⟨bases, other, rfl, rfl, firstStrictly⟩
  refine ⟨bases, base, extended, rfl, first, ?_, strictly, fun origin deref => ?_⟩
  · rw [strictly, ← Scope.offersSuper_strict_iff]
    exact ⟨And.left, first.of_stronger fun _ => Scope.OffersSuper.folded⟩
  · rw [superRemark_iff found, Scope.result_varType_super,
      Scope.superType_eq_none_iff inBlock inRoutine true extended]

/-! A pump that extends a motor, which gets its routine from a device, and a valve. -/

def runMethod : Routine := { name := "Run", kind := .method }

def pumpBlock (bases : List String) : FunctionBlock where
  name := "Pump"
  bases := some bases
  methods := [runMethod]

def pumpScope (bases : List String) : Scope where
  code := {
    blocks := ⟨[("Device", { name := "Device", methods := [runMethod] }),
      ("Motor", { name := "Motor", bases := some ["Device"] }),
      ("Valve", { name := "Valve", methods := [runMethod] }),
      ("Pump", pumpBlock bases)]⟩ }
  settings := {}
  block := some (pumpBlock bases)
  routine := some runMethod
  layers := [{}]

theorem pumpScope_super (bases : List String) (strict : Bool) :
    ((pumpScope bases).varType "SUPER^" strict).result =
      .ok ((bases.find? ((pumpScope bases).isSuperBase strict "Run")).map .named) := by
  have inBlock : (pumpScope bases).block = some (pumpBlock bases) := rfl
  have inRoutine : (pumpScope bases).routine = some runMethod := rfl
  rw [Scope.result_varType_super, Scope.result_superType inBlock inRoutine]
  rfl

/-- The motor is spelt otherwise where it is extended, so that strictly the valve is found. -/
theorem pump_super_is_valve :
    (pumpScope ["motor", "Valve"]).block = some (pumpBlock ["motor", "Valve"]) ∧
    (pumpScope ["motor", "Valve"]).routine = some runMethod ∧
    ((pumpScope ["motor", "Valve"]).varType "SUPER^").result = .ok (some (.named "motor")) ∧
    (pumpScope ["motor", "Valve"]).OffersSuper false "Run" "motor" ∧
    ((pumpScope ["motor", "Valve"]).varType "SUPER^" true).result = .ok (some (.named "Valve")) ∧
    FirstOf ((pumpScope ["motor", "Valve"]).OffersSuper true "Run") ["motor", "Valve"] "Valve" ∧
    ∀ origin deref, (variableExists.run (pumpScope ["motor", "Valve"])
      (.expr (.var (.simple origin "SUPER^" deref)))).result ≠
        .ok (Walk.ofList [superRemark origin]) := by
  have found : ((pumpScope ["motor", "Valve"]).varType "SUPER^").result =
      .ok (some (.named "motor")) := by
    rw [pumpScope_super]
    decide
  have strictly : ((pumpScope ["motor", "Valve"]).varType "SUPER^" true).result =
      .ok (some (.named "Valve")) := by
    rw [pumpScope_super]
    decide
  have inBlock : (pumpScope ["motor", "Valve"]).block = some (pumpBlock ["motor", "Valve"]) := rfl
  have inRoutine : (pumpScope ["motor", "Valve"]).routine = some runMethod := rfl
  obtain ⟨_, _, ⟨⟩, ⟨⟩, first, _, firstStrictly, reported⟩ :=
    super_strict_iff_spelt inBlock inRoutine found
  have isFirst := (firstStrictly "Valve").mp strictly
  refine ⟨inBlock, inRoutine, found, first.1, strictly, isFirst, fun origin deref isReported => ?_⟩
  exact (reported origin deref).mp isReported "Valve" (by simp) isFirst.1

/-- Without the valve, `SUPER^` is taken for unknown, although its type can be found. -/
theorem super_of_respelt_base_unknown :
    ((pumpScope ["motor"]).varType "SUPER^").result = .ok (some (.named "motor")) ∧
    ((pumpScope ["motor"]).varType "SUPER^" true).result = .ok none ∧
    ∀ origin deref, (variableExists.run (pumpScope ["motor"])
      (.expr (.var (.simple origin "SUPER^" deref)))).result =
        .ok (Walk.ofList [superRemark origin]) := by
  have found : ((pumpScope ["motor"]).varType "SUPER^").result = .ok (some (.named "motor")) := by
    rw [pumpScope_super]
    decide
  have unknown : ((pumpScope ["motor"]).varType "SUPER^" true).result = .ok none := by
    rw [pumpScope_super]
    decide
  refine ⟨found, unknown, fun origin deref => ?_⟩
  rw [Scope.result_varType_super] at found
  exact (superRemark_iff found origin deref).mpr unknown

end Check

end PlcLint
