import PlcLint.Proofs.Check.Steady
import PlcLint.Proofs.Lint.Errors
import PlcLint.Proofs.Table

/-!
What the settings of checks have a bearing on. Two runs are compared: the entry of a check bears
on the findings of that check alone, and the level on no error at all.
-/

namespace PlcLint

/-- Settings that differ at most in the entry of one check. -/
structure Settings.SameExcept (name : String) (first second : Settings) : Prop where
  rest : first = { second with checks := first.checks }
  others : ∀ other, other ≠ name → first.checks.find? other = second.checks.find? other

theorem Settings.SameExcept.alike {name : String} {first second : Settings}
    (same : first.SameExcept name second) : first.Alike second :=
  ⟨second.level, first.checks, same.rest⟩

namespace Lint

/-! Two runs that agree on some of the errors, if both return. -/

def Agree (keep : Finding → Bool) (first second : Logged Report) : Prop :=
  ∀ before after, first.result = .ok before → second.result = .ok after →
    before.errors.filter keep = after.errors.filter keep

namespace Agree

variable {keep : Finding → Bool} {first second third fourth : Logged Report}

theorem of_eq (same : first = second) : Agree keep first second := by
  intro before after firstOk secondOk
  rw [same] at firstOk
  rw [Except.ok.inj (firstOk.symm.trans secondOk)]

/-- Runs that have none of these errors. -/
theorem of_none
    (inFirst : ∀ report, first.result = .ok report → ∀ error ∈ report.errors, keep error = false)
    (inSecond : ∀ report, second.result = .ok report →
      ∀ error ∈ report.errors, keep error = false) : Agree keep first second := by
  intro before after firstOk secondOk
  rw [List.filter_eq_nil_iff.mpr fun error inside => by simp [inFirst before firstOk error inside],
    List.filter_eq_nil_iff.mpr fun error inside => by
      simp [inSecond after secondOk error inside]]

theorem inTurn (ahead : Agree keep first second) (behind : Agree keep third fourth) :
    Agree keep (inTurn first third) (inTurn second fourth) := by
  intro before after firstOk secondOk
  obtain ⟨one, two, oneOk, twoOk, rfl⟩ := inTurn_ok.mp firstOk
  obtain ⟨three, four, threeOk, fourOk, rfl⟩ := inTurn_ok.mp secondOk
  rw [Report.append, Report.append, List.filter_append, List.filter_append,
    ahead one three oneOk threeOk, behind two four twoOk fourOk]

end Agree

variable {registry : Registry} {files : FileTree} {code : Code} {first second : Settings}
  {keep : Finding → Bool}

theorem runChecks_agree {step : Step} {checks : List Check}
    (each : ∀ check ∈ checks, Agree keep (runCheck files (step.visit code first) check)
      (runCheck files (step.visit code second) check)) :
    Agree keep (runChecks files (step.visit code first) checks)
      (runChecks files (step.visit code second) checks) := by
  induction checks with
  | nil => exact .of_eq rfl
  | cons check rest inductionHypothesis =>
      obtain ⟨checkAgrees, restAgree⟩ := List.forall_mem_cons.mp each
      exact checkAgrees.inTurn (inductionHypothesis restAgree)

theorem checkEach_agree {steps : List Step}
    (each : ∀ step ∈ steps, ∀ check ∈ registry.checks,
      Agree keep (runCheck files (step.visit code first) check)
        (runCheck files (step.visit code second) check)) :
    Agree keep (checkEach registry files (steps.map (Step.visit code first)))
      (checkEach registry files (steps.map (Step.visit code second))) := by
  induction steps with
  | nil => exact .of_eq rfl
  | cons step rest inductionHypothesis =>
      obtain ⟨stepAgrees, restAgree⟩ := List.forall_mem_cons.mp each
      refine (runChecks_agree fun check accepting => ?_).inTurn (inductionHypothesis restAgree)
      exact stepAgrees check (List.mem_of_mem_filter accepting)

/-- Runs of the linter agree if each check does at each object. -/
theorem lint_agree (each : ∀ step : Step, ∀ check ∈ registry.checks,
      Agree keep (runCheck files (step.visit code first) check)
        (runCheck files (step.visit code second) check)) :
    Agree keep (lint registry first files code) (lint registry second files code) := by
  intro before after firstOk secondOk
  exact checkEach_agree (fun step _ => each step) before after
    (lint_ok.mp firstOk).2 (lint_ok.mp secondOk).2

/-- A check that runs at the same level in both settings says the same. -/
theorem runCheck_sameLevel {check : Check} (ignores : check.IgnoresLevels)
    (alike : first.Alike second)
    (sameLevel : effectiveLevel? first check.code = effectiveLevel? second check.code)
    (step : Step) :
    runCheck files (step.visit code first) check =
      runCheck files (step.visit code second) check := by
  refine runCheck_congr ?_ sameLevel rfl rfl
  obtain ⟨level, checks, rfl⟩ := alike
  exact ignores (step.1.scope code second) level checks step.2

theorem agree_of_sameExcept {name : String} {check : Check} (ignores : check.IgnoresLevels)
    (same : first.SameExcept name second) (step : Step) :
    Agree (fun error => error.code != name) (runCheck files (step.visit code first) check)
      (runCheck files (step.visit code second) check) := by
  by_cases isNamed : check.code = name
  · -- What the check itself finds has its code.
    have named (settings : Settings) (report : Report)
        (returned : (runCheck files (step.visit code settings) check).result = .ok report)
        (error : Finding) (inside : error ∈ report.errors) : (error.code != name) = false := by
      obtain ⟨_, ⟨_, _, _, _, rfl⟩, _⟩ := (mem_errors_runCheck returned).mp inside
      simp [isNamed]
    exact .of_none (named first) (named second)
  · refine .of_eq (runCheck_sameLevel ignores same.alike ?_ step)
    rw [effectiveLevel?, effectiveLevel?, same.others check.code isNamed, same.rest]

theorem agree_of_level {check : Check} (ignores : check.IgnoresLevels) (level : Level)
    (step : Step) :
    Agree (fun _ => true) (runCheck files (step.visit code first) check)
      (runCheck files (step.visit code { first with level := level }) check) := by
  by_cases fatal : Fatal first check.code
  · have alike : first.Alike { first with level := level } := ⟨first.level, first.checks, rfl⟩
    have stillFatal : Fatal { first with level := level } check.code := fatal
    refine .of_eq (runCheck_sameLevel ignores alike ?_ step)
    rw [effectiveLevel?_eq_error_iff.mpr fatal, effectiveLevel?_eq_error_iff.mpr stillFatal]
  · -- A check that is not fatal has no errors, at whatever level.
    have errorless (settings : Settings) (sameChecks : settings.checks = first.checks)
        (report : Report)
        (returned : (runCheck files (step.visit code settings) check).result = .ok report)
        (error : Finding) (inside : error ∈ report.errors) : true = false := by
      obtain ⟨isError, _⟩ := (mem_errors_runCheck returned).mp inside
      have isFatal := effectiveLevel?_eq_error_iff.mp isError
      rw [Fatal, show (step.visit code settings).scope.settings.checks = _ from sameChecks]
        at isFatal
      exact absurd isFatal fatal
    exact .of_none (errorless first rfl) (errorless { first with level := level } rfl)

/-- How settings bear on the errors that the linter reports. -/
structure Isolated (registry : Registry) (files : FileTree) (code : Code) : Prop where
  /-- The entry of one check bears on no finding of another. -/
  entry : ∀ name first second before after, Settings.SameExcept name first second →
    (lint registry first files code).result = .ok before →
    (lint registry second files code).result = .ok after →
    (before.errors.filter fun error => error.code != name) =
      after.errors.filter fun error => error.code != name
  level : ∀ settings level before after,
    (lint registry settings files code).result = .ok before →
    (lint registry { settings with level := level } files code).result = .ok after →
    before.errors = after.errors ∧ before.exitCode = after.exitCode
  /-- Linting fails exactly if a registered check that is not disabled and counts as error has
  found something that is not suppressed, on an object that it accepts. -/
  exit : ∀ settings report, (lint registry settings files code).result = .ok report →
    (report.exitCode = 1 ↔ ∃ step ∈ code.checked, ∃ check ∈ registry.checks,
      check.target.accepts step.2 = true ∧
      (∀ entry ∈ settings.checks.find? check.code, entry.enabled = true ∧ entry.level = .error) ∧
        ∃ error, Finds (step.visit code settings) check .error error ∧ error.Stands files) ∧
    (report.exitCode = 0 ∨ report.exitCode = 1)

end Lint

theorem check_settings_isolated {registry : Registry}
    (ignoring : ∀ check ∈ registry.checks, check ∈ Check.builtin ∨ check.IgnoresLevels)
    (files : FileTree) (code : Code) : Lint.Isolated registry files code := by
  have ignores : ∀ check ∈ registry.checks, check.IgnoresLevels := fun check registered =>
    (ignoring check registered).elim (fun known => (Check.builtin_steady known).ignoresLevels) id
  refine ⟨fun name first second before after same firstOk secondOk => ?_,
    fun settings level before after firstOk secondOk => ?_, fun settings report returned => ?_⟩
  · exact Lint.lint_agree (fun step check registered =>
      Lint.agree_of_sameExcept (ignores check registered) same step) before after firstOk secondOk
  · have agree := Lint.lint_agree (fun step check registered =>
      Lint.agree_of_level (ignores check registered) level step) before after firstOk secondOk
    have sameErrors : before.errors = after.errors := by simpa using agree
    exact ⟨sameErrors, by rw [Report.exitCode, Report.exitCode, sameErrors]⟩
  · constructor
    · rw [Report.exitCode_eq_one_iff]
      constructor
      · intro someError
        obtain ⟨error, inside⟩ := List.exists_mem_of_ne_nil _ someError
        obtain ⟨step, isChecked, check, registered, accepted, fatal, found⟩ :=
          (Lint.mem_errors_lint returned).mp inside
        exact ⟨step, isChecked, check, registered, accepted, fatal, error, found⟩
      · rintro ⟨step, isChecked, check, registered, accepted, fatal, error, found⟩
        exact List.ne_nil_of_mem ((Lint.mem_errors_lint returned).mpr
          ⟨step, isChecked, check, registered, accepted, fatal, found⟩)
    · rw [Report.exitCode_eq_zero_iff, Report.exitCode_eq_one_iff]
      exact em _

/-- Checks of a plug-in that have something to say about every method and about every block. -/
def methodCheck : Check := .constant "PLG001" "methods" "" .method ["A method"]

def blockCheck : Check := .constant "PLG002" "blocks" "" .functionBlock ["A block"]

def pluginRegistry : Registry := Registry.builtin.registerAll [methodCheck, blockCheck]

def methodCode : Code where
  blocks := ⟨[("FB", { name := "FB", methods := [{ name := "Run", kind := .method }] })]⟩

/-- Settings in which the check of methods is disabled. -/
def withoutMethods : Settings where
  checks := ⟨[("PLG001", { enabled := false })]⟩

/-- The errors of a run that returns, by their codes, and its exit code. -/
def errorsOf (settings : Settings) : Option (List String × Nat) :=
  ((lint pluginRegistry settings {} methodCode).result.toOption).map fun report =>
    (report.errors.map (·.code), report.exitCode)

theorem check_settings_isolated_sample :
    errorsOf {} = some (["PLG002", "PLG001"], 1) ∧
      errorsOf withoutMethods = some (["PLG002"], 1) ∧
      Settings.SameExcept "PLG001" {} withoutMethods ∧
      (∀ check ∈ pluginRegistry.checks, check ∈ Check.builtin ∨ check.IgnoresLevels) ∧
      Lint.Isolated pluginRegistry {} methodCode := by
  have ignoring : ∀ check ∈ pluginRegistry.checks,
      check ∈ Check.builtin ∨ check.IgnoresLevels := by
    intro check registered
    rcases Registry.mem_checks_registerAll registered with isPlugin | known
    · rcases List.mem_pair.mp isPlugin with rfl | rfl
      · exact .inr (Check.constant_steady _ _ _ _ _).ignoresLevels
      · exact .inr (Check.constant_steady _ _ _ _ _).ignoresLevels
    · exact .inl (Registry.mem_builtin known)
  have same : Settings.SameExcept "PLG001" {} withoutMethods := by
    refine ⟨rfl, fun other differs => ?_⟩
    have absent : withoutMethods.checks.find? other = none :=
      Table.find?_eq_none_iff.mpr fun isName => differs (List.mem_singleton.mp isName)
    rw [absent]
    rfl
  exact ⟨by decide +kernel, by decide +kernel, same, ignoring,
    check_settings_isolated ignoring {} methodCode⟩

end PlcLint
