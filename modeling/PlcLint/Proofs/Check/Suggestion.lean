import PlcLint.Proofs.Lint.Order
import PlcLint.Proofs.Scope.Spelling

/-!
The spelling that the checks of names suggest. A name is reported if the strict lookup finds no type
for it; the spelling that is suggested for it is then another one, and is not reported itself.
-/

namespace PlcLint.Check

variable {scope : Scope} {name key : String} {type : Option TypeRef} {walk : Walk Remark}

theorem varType_of_lookup {entry : Scope.Found} {strict : Bool}
    (found : scope.lookup strict name = pure entry) : scope.varType name strict = pure entry.2 := by
  rw [Scope.varType, found]
  rfl

theorem suggestion_eq_ok {spelling : Option String}
    (found : (scope.lookup false name).result = .ok (some key, type))
    (suggested : (scope.suggestion name).result = .ok spelling) : spelling = some key := by
  obtain ⟨entry, isEntry, isSpelling⟩ := Logged.result_bind_eq_ok.mp suggested
  rw [found] at isEntry
  cases isEntry
  exact (Except.ok.inj isSpelling).symm

theorem strictType_of_varType (strictly : scope.varType name true = pure type) :
    strictType scope name = pure (some type) := by
  rw [strictType, strictly]
  rfl

/-- A fault of scoping is no missing type. -/
theorem varType_of_strictType (outcome : (strictType scope name).result = .ok (some type)) :
    (scope.varType name true).result = .ok type := by
  unfold strictType at outcome
  generalize scope.varType name true = attempt at outcome ⊢
  obtain ⟨result, notices⟩ := attempt
  cases result with
  | ok found => exact congrArg Except.ok (Option.some.inj (Except.ok.inj outcome))
  | error fault =>
      change (if fault.scopingMessage?.isSome then (pure none : Logged _) else throw fault).result =
        .ok (some type) at outcome
      split at outcome <;> cases outcome

theorem variableExists_reports {origin : Origin} {deref : Bool}
    (found : (scope.lookup false name).result = .ok (some key, type))
    (returned :
      (variableExists.run scope (.expr (.var (.simple origin name deref)))).result = .ok walk)
    (reported : walk.found ≠ []) :
    (scope.varType name true).result = .ok none ∧ walk.found.map Remark.message =
      [notFound ("Variable " ++ name ++ " cannot be found in the current context") (some key)] := by
  obtain ⟨strictly, isStrict, rest⟩ := Logged.result_bind_eq_ok.mp returned
  cases strictly with
  | some known =>
      cases rest
      exact absurd rfl reported
  | none =>
      obtain ⟨spelling, suggested, isWalk⟩ := Logged.result_bind_eq_ok.mp rest
      cases isWalk
      rw [suggestion_eq_ok found suggested]
      exact ⟨isStrict, rfl⟩

theorem variableExists_of_varType {origin : Origin} {deref : Bool} {known : TypeRef}
    (strictly : scope.varType name true = pure (some known)) :
    variableExists.run scope (.expr (.var (.simple origin name deref))) = noRemarks := by
  simp only [variableExists, strictly]
  rfl

theorem variableExists_of_unknown {origin : Origin} {deref : Bool} {spelling : Option String}
    (unknown : scope.varType name true = pure none)
    (suggested : scope.suggestion name = pure spelling) :
    ∃ remark, variableExists.run scope (.expr (.var (.simple origin name deref))) =
      remarks [remark] := by
  simp only [variableExists, unknown, suggested]
  exact ⟨_, rfl⟩

/-- The object calls a function by this name. -/
def Calls (subject : Subject) (name : String) : Prop :=
  ∃ call origin deref arguments statement,
    subject.expr? = some (.call call statement (.simple origin name deref) arguments)

theorem functionExists_reports {subject : Subject} (calls : Calls subject name)
    (found : (scope.lookup false name).result = .ok (some key, type))
    (notBuiltin : scope.settings.builtinFunctions.contains (Text.upper name) = false)
    (returned : (functionExists.run scope subject).result = .ok walk)
    (reported : walk.found ≠ []) :
    (scope.varType name true).result = .ok none ∧ walk.found.map Remark.message =
      [notFound ("Function " ++ name ++ " not found") (some key)] := by
  obtain ⟨call, origin, deref, arguments, statement, isCall⟩ := calls
  simp only [functionExists, isCall, notBuiltin] at returned
  split at returned
  · cases returned
    exact absurd rfl reported
  obtain ⟨strictly, isStrict, rest⟩ := Logged.result_bind_eq_ok.mp returned
  cases strictly with
  | none =>
      cases rest
      exact absurd rfl reported
  | some outcome =>
      cases outcome with
      | some known =>
          cases rest
          exact absurd rfl reported
      | none =>
          obtain ⟨spelling, suggested, isWalk⟩ := Logged.result_bind_eq_ok.mp rest
          cases isWalk
          rw [suggestion_eq_ok found suggested]
          exact ⟨varType_of_strictType isStrict, rfl⟩

theorem functionExists_of_varType {subject : Subject} {known : TypeRef} (calls : Calls subject name)
    (strictly : scope.varType name true = pure (some known)) :
    functionExists.run scope subject = noRemarks := by
  obtain ⟨call, origin, deref, arguments, statement, isCall⟩ := calls
  simp only [functionExists, isCall, strictType_of_varType strictly]
  split <;> rfl

theorem functionExists_of_unknown {subject : Subject} {spelling : Option String}
    (calls : Calls subject name)
    (notBuiltin : scope.settings.builtinFunctions.contains name = false)
    (unknown : scope.varType name true = pure none)
    (suggested : scope.suggestion name = pure spelling) :
    ∃ remark, functionExists.run scope subject = remarks [remark] := by
  obtain ⟨call, origin, deref, arguments, statement, isCall⟩ := calls
  simp only [functionExists, isCall, notBuiltin, strictType_of_varType unknown, suggested]
  cases scope.settings.builtinFunctions.contains (Text.upper name) <;> exact ⟨_, rfl⟩

/-- Ignoring case, a name is found under a spelling that is found strictly, with the same type.
The checks of variables and of called functions suggest this spelling only for a name spelt
otherwise, and find nothing wrong with it. -/
theorem suggested_spelling_passes (notSuper : isSuper name = false)
    (found : (scope.lookup false name).result = .ok (some key, type)) :
    Text.sameName key name = true ∧ scope.lookup true key = pure (some key, type) ∧
      (type.isSome = true →
        (∀ origin deref walk,
          (variableExists.run scope (.expr (.var (.simple origin name deref)))).result = .ok walk →
          walk.found ≠ [] →
          walk.found.map Remark.message =
              [notFound ("Variable " ++ name ++ " cannot be found in the current context")
                (some key)] ∧
            key ≠ name) ∧
        (∀ subject walk, Calls subject name →
          scope.settings.builtinFunctions.contains (Text.upper name) = false →
          (functionExists.run scope subject).result = .ok walk → walk.found ≠ [] →
          walk.found.map Remark.message =
              [notFound ("Function " ++ name ++ " not found") (some key)] ∧
            key ≠ name) ∧
        (∀ origin deref,
          variableExists.run scope (.expr (.var (.simple origin key deref))) = noRemarks) ∧
        (∀ subject, Calls subject key → functionExists.run scope subject = noRemarks)) := by
  obtain ⟨same, strictly⟩ := Scope.lookup_of_lookup_folded notSuper found
  refine ⟨same, strictly, fun isKnown => ?_⟩
  obtain ⟨known, rfl⟩ := Option.isSome_iff_exists.mp isKnown
  have passes := varType_of_lookup strictly
  have ne_of_unknown (unknown : (scope.varType name true).result = .ok none) : key ≠ name := by
    rintro rfl
    rw [passes] at unknown
    cases unknown
  refine ⟨fun origin deref walk returned reported => ?_,
    fun subject walk calls notBuiltin returned reported => ?_,
    fun origin deref => variableExists_of_varType passes,
    fun subject calls => functionExists_of_varType calls passes⟩
  · obtain ⟨unknown, messages⟩ := variableExists_reports found returned reported
    exact ⟨messages, ne_of_unknown unknown⟩
  · obtain ⟨unknown, messages⟩ :=
      functionExists_reports calls found notBuiltin returned reported
    exact ⟨messages, ne_of_unknown unknown⟩

/-! A variable of a routine hides a global one whose name is the same ignoring case. -/

def levelScope : Scope where
  code := {}
  settings := {}
  layers := [⟨[("Level", ⟨"Level", "REAL", "VAR_GLOBAL", none, none, none⟩)]⟩,
    ⟨[("level", ⟨"level", "INT", "VAR_TEMP", none, none, none⟩)]⟩]

theorem levelScope_lookup (strict : Bool) :
    levelScope.lookup strict "LEVEL" =
      pure (if strict then (none, none) else (some "level", some (.named "INT"))) := by
  have noConversion : Scope.seek strict TypeName.conversions "LEVEL" = none :=
    TypeName.seek_conversions_eq_none (by decide) strict
  rw [Scope.lookup, Scope.complexName?, noConversion]
  cases strict <;> rfl

def mention (name : String) : Subject := .expr (.var (.simple ⟨1, none, none⟩ name false))

def called (name : String) : Subject :=
  .expr (.call ⟨2, none, none⟩ true (.simple ⟨1, none, none⟩ name false) [])

theorem level_suggested :
    isSuper "LEVEL" = false ∧
    (levelScope.lookup false "LEVEL").result = .ok (some "level", some (.named "INT")) ∧
    levelScope.lookup true "level" = pure (some "level", some (.named "INT")) ∧
    (∃ walk, (variableExists.run levelScope (mention "LEVEL")).result = .ok walk ∧
      walk.found.map Remark.message =
        ["Variable LEVEL cannot be found in the current context, did you mean 'level'?"]) ∧
    (∃ walk, (functionExists.run levelScope (called "LEVEL")).result = .ok walk ∧
      walk.found.map Remark.message = ["Function LEVEL not found, did you mean 'level'?"]) ∧
    variableExists.run levelScope (mention "level") = noRemarks ∧
    functionExists.run levelScope (called "level") = noRemarks := by
  have notSuper : isSuper "LEVEL" = false := by decide
  have found : (levelScope.lookup false "LEVEL").result =
      .ok (some "level", some (.named "INT")) := by
    rw [levelScope_lookup]
    rfl
  have calls (name : String) : Calls (called name) name := ⟨_, _, _, _, _, rfl⟩
  have unknown : levelScope.varType "LEVEL" true = pure none :=
    varType_of_lookup (levelScope_lookup true)
  have suggested : levelScope.suggestion "LEVEL" = pure (some "level") := by
    rw [Scope.suggestion, levelScope_lookup]
    rfl
  obtain ⟨onVariable, variableReported⟩ : ∃ remark,
      variableExists.run levelScope (mention "LEVEL") = remarks [remark] :=
    variableExists_of_unknown unknown suggested
  obtain ⟨onCall, callReported⟩ : ∃ remark,
      functionExists.run levelScope (called "LEVEL") = remarks [remark] :=
    functionExists_of_unknown (calls _) rfl unknown suggested
  obtain ⟨-, strictly, known⟩ := suggested_spelling_passes notSuper found
  obtain ⟨ofVariable, ofCall, variablePasses, callPasses⟩ := known rfl
  have variableReturned := congrArg Logged.result variableReported
  have callReturned := congrArg Logged.result callReported
  have onlyVariable := ofVariable _ _ _ variableReturned (List.cons_ne_nil _ _)
  have onlyCall := ofCall _ _ (calls _) rfl callReturned (List.cons_ne_nil _ _)
  exact ⟨notSuper, found, strictly, ⟨_, variableReturned, onlyVariable.1⟩,
    ⟨_, callReturned, onlyCall.1⟩, variablePasses _ _, callPasses _ (calls _)⟩

end PlcLint.Check
