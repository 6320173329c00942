import PlcLint.Check.Builtin
import PlcLint.Proofs.Scope.Alike

/-!
Checks that say the same in all scopes that are alike: they depend neither on the order in which
the code lists its parts nor on the settings of single checks. All built-in checks are steady.
-/

namespace PlcLint

namespace Check

def Steady (check : Check) : Prop :=
  ∀ ⦃first second : Scope⦄, first.Alike second →
    ∀ subject, check.run first subject = check.run second subject

/-- The check looks neither at the level nor at the entries of checks in the settings. -/
def IgnoresLevels (check : Check) : Prop :=
  ∀ (scope : Scope) (level : Level) (checks : Table CheckSettings) (subject : Subject),
    check.run { scope with settings := { scope.settings with level := level, checks := checks } }
      subject = check.run scope subject

theorem Steady.ignoresLevels {check : Check} (steady : check.Steady) : check.IgnoresLevels := by
  intro scope level checks subject
  refine steady ?_ subject
  exact ⟨.refl _, ⟨level, checks, rfl⟩, rfl, rfl, fun _ _ => rfl⟩

/-- A check with the same messages everywhere. -/
theorem constant_steady (code name doc : String) (target : Target) (messages : List String) :
    (constant code name doc target messages).Steady := fun _ _ _ _ => rfl

variable {first second : Scope}

/-! Checks of calls. -/

theorem calledMethod_alike (alike : first.Alike second) (callee : Variable) :
    calledMethod first callee = calledMethod second callee := by
  cases callee with
  | simple origin name deref => rw [calledMethod, calledMethod, alike.block]
  | path origin base elements =>
      rw [calledMethod, calledMethod]
      simp only [alike.pathType]

theorem namedArguments_steady : namedArguments.Steady := by
  intro first second alike subject
  obtain ⟨level, checks, same⟩ := alike.settings
  simp only [namedArguments, same, calledMethod_alike alike]
  rfl

theorem strictType_alike (alike : first.Alike second) (name : String) :
    strictType first name = strictType second name := by
  rw [strictType, strictType, alike.varType]

theorem functionExists_steady : functionExists.Steady := by
  intro first second alike subject
  obtain ⟨level, checks, same⟩ := alike.settings
  simp only [functionExists, same, strictType_alike alike, alike.suggestion]

theorem superCallOnlyCurrentMethod_steady : superCallOnlyCurrentMethod.Steady := by
  intro first second alike subject
  simp only [superCallOnlyCurrentMethod, alike.routine]

theorem superCallWhenPossible_steady : superCallWhenPossible.Steady := by
  intro first second alike subject
  simp only [superCallWhenPossible, alike.block, alike.bases]

theorem superCallInFunctionBlock_steady : superCallInFunctionBlock.Steady := by
  intro first second alike subject
  simp only [superCallInFunctionBlock, alike.bases]

/-! Checks of expressions and `CASE` statements. -/

theorem unsignedUnderflow_steady : unsignedUnderflow.Steady := by
  intro first second alike subject
  simp only [unsignedUnderflow, alike.exprType]

theorem dataTypeOf_alike (alike : first.Alike second) (type : Option TypeRef) :
    dataTypeOf first type = dataTypeOf second type := by
  unfold dataTypeOf
  simp only [alike.code.dataTypes.findFolded]

theorem allCases_steady : allCases.Steady := by
  intro first second alike subject
  simp only [allCases, alike.exprType, dataTypeOf_alike alike]

/-! Checks of methods. -/

theorem methodHasReturn_steady : methodHasReturn.Steady := by
  intro first second alike subject
  simp only [methodHasReturn, alike.block]

theorem methodReturnsAllOutVars_steady : methodReturnsAllOutVars.Steady := by
  intro first second alike subject
  simp only [methodReturnsAllOutVars, alike.block]

/-! Checks of variables. -/

theorem validScoping_steady : validScoping.Steady := by
  intro first second alike subject
  simp only [validScoping, alike.varType]

theorem variableExists_steady : variableExists.Steady := by
  intro first second alike subject
  simp only [variableExists, alike.varType, alike.suggestion]

theorem namingConvention_steady : namingConvention.Steady := by
  intro first second alike subject
  obtain ⟨level, checks, same⟩ := alike.settings
  have places (declaration : Declaration) : placeLetters? first.settings declaration =
      placeLetters? second.settings declaration := by rw [same]; rfl
  simp only [namingConvention, places, alike.place, alike.typeLetters]

theorem uninitializedRead_steady : uninitializedRead.Steady := by
  intro first second alike subject
  simp only [uninitializedRead, alike.routine]

/-- The remaining checks do not look at their scope at all. -/
theorem builtin_steady {check : Check} (membership : check ∈ builtin) : check.Steady := by
  simp only [builtin, List.mem_cons, List.not_mem_nil, or_false] at membership
  rcases membership with rfl | rfl | rfl | rfl | rfl | rfl | rfl | rfl | rfl | rfl | rfl | rfl |
    rfl | rfl | rfl | rfl | rfl | rfl
  · exact namedArguments_steady
  · exact unsignedUnderflow_steady
  · exact fun _ _ _ _ => rfl
  · exact functionExists_steady
  · exact superCallOnlyCurrentMethod_steady
  · exact superCallWhenPossible_steady
  · exact superCallInFunctionBlock_steady
  · exact fun _ _ _ _ => rfl
  · exact fun _ _ _ _ => rfl
  · exact fun _ _ _ _ => rfl
  · exact methodHasReturn_steady
  · exact methodReturnsAllOutVars_steady
  · exact fun _ _ _ _ => rfl
  · exact allCases_steady
  · exact validScoping_steady
  · exact variableExists_steady
  · exact namingConvention_steady
  · exact uninitializedRead_steady

end Check

/-! The registry of built-in checks holds no others. -/

namespace Registry

theorem mem_checks_addTo {check other : Check} {groups : List (Target × List Check)}
    (membership : other ∈ (addTo check groups).flatMap Prod.snd) :
    other = check ∨ other ∈ groups.flatMap Prod.snd := by
  induction groups with
  | nil => simpa [addTo] using membership
  | cons group rest inductionHypothesis =>
      rw [addTo] at membership
      split at membership
      · simp only [List.flatMap_cons, List.mem_append, List.mem_singleton] at membership ⊢
        rcases membership with (inGroup | isCheck) | inRest
        · exact .inr (.inl inGroup)
        · exact .inl isCheck
        · exact .inr (.inr inRest)
      · simp only [List.flatMap_cons, List.mem_append] at membership ⊢
        rcases membership with inGroup | inRest
        · exact .inr (.inl inGroup)
        · exact (inductionHypothesis inRest).imp_right .inr

theorem mem_checks_register {registry : Registry} {check other : Check}
    (membership : other ∈ (registry.register check).1.checks) :
    other = check ∨ other ∈ registry.checks := by
  unfold register at membership
  split at membership
  · exact .inr membership
  split at membership
  · exact .inr membership
  dsimp only at membership
  split at membership
  · exact mem_checks_addTo membership
  · exact .inr membership

theorem mem_checks_registerAll {registry : Registry} {checks : List Check} {other : Check}
    (membership : other ∈ (registry.registerAll checks).checks) :
    other ∈ checks ∨ other ∈ registry.checks := by
  induction checks generalizing registry with
  | nil => exact .inr membership
  | cons check rest inductionHypothesis =>
      rcases inductionHypothesis membership with inRest | before
      · exact .inl (List.mem_cons_of_mem _ inRest)
      · rcases mem_checks_register before with rfl | known
        · exact .inl List.mem_cons_self
        · exact .inr known

theorem mem_builtin {check : Check} (membership : check ∈ Registry.builtin.checks) :
    check ∈ Check.builtin := by
  rcases mem_checks_registerAll membership with known | nothing
  · exact known
  · cases nothing

end Registry

end PlcLint
