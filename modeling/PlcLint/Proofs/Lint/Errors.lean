import PlcLint.Proofs.Lint.Visits

/-!
Which errors a run of the linter reports, told by the checks and the objects they look at.
-/

namespace PlcLint

namespace Report

theorem exitCode_eq_one_iff {report : Report} : report.exitCode = 1 ↔ report.errors ≠ [] := by
  cases empty : report.errors <;> simp [exitCode, empty]

theorem exitCode_eq_zero_iff {report : Report} : report.exitCode = 0 ↔ report.errors = [] := by
  cases empty : report.errors <;> simp [exitCode, empty]

end Report

/-- No comment on the line of the finding suppresses it. -/
def Finding.Stands (files : FileTree) (finding : Finding) : Prop :=
  ∃ line, (finding.location.errorLine files).result = .ok line ∧
    ∀ text ∈ line, isSuppressed text finding.code = false

namespace Lint

theorem mem_errors_reportFinding {files : FileTree} {finding reported : Finding} {report : Report}
    (returned : (reportFinding files finding).result = .ok report) :
    reported ∈ report.errors ↔
      reported = finding ∧ finding.level = .error ∧ finding.Stands files := by
  rw [reportFinding, Logged.result_bind_eq_ok] at returned
  obtain ⟨line, isLine, rest⟩ := returned
  have stands : finding.Stands files ↔ ∀ text ∈ line, isSuppressed text finding.code = false := by
    constructor
    · rintro ⟨other, isOther, stands⟩
      rwa [Except.ok.inj (isLine.symm.trans isOther)]
    · exact fun stands => ⟨line, isLine, stands⟩
  rw [stands]
  have printed (spoken : (do
      let text ← Logged.ofExcept (finding.text files)
      return (⟨[text], if finding.level = Level.error then [finding] else []⟩ : Report)).result =
        .ok report) : reported ∈ report.errors ↔ reported = finding ∧ finding.level = .error := by
    obtain ⟨text, _, isReport⟩ := Logged.result_bind_eq_ok.mp spoken
    rw [← Except.ok.inj isReport]
    by_cases isError : finding.level = .error <;> simp [isError]
  cases line with
  | none =>
      have spoken := printed rest
      simpa using spoken
  | some text =>
      cases suppressed : isSuppressed text finding.code with
      | true =>
          simp only [suppressed, if_true] at rest
          rw [← Except.ok.inj rest]
          simp [suppressed]
      | false =>
          simp only [suppressed, Bool.false_eq_true, if_false] at rest
          have spoken := printed rest
          simpa [suppressed] using spoken

theorem mem_errors_reportAll {files : FileTree} {findings : List Finding} {reported : Finding}
    {report : Report} (returned : (reportAll files findings).result = .ok report) :
    reported ∈ report.errors ↔
      reported ∈ findings ∧ reported.level = .error ∧ reported.Stands files := by
  induction findings generalizing report with
  | nil =>
      rw [← Except.ok.inj returned]
      simp
  | cons finding rest inductionHypothesis =>
      obtain ⟨before, after, firstOk, restOk, rfl⟩ := inTurn_ok.mp returned
      rw [Report.append, List.mem_append, mem_errors_reportFinding firstOk,
        inductionHypothesis restOk, List.mem_cons]
      constructor
      · rintro (⟨rfl, isError, stands⟩ | ⟨inRest, isError, stands⟩)
        · exact ⟨.inl rfl, isError, stands⟩
        · exact ⟨.inr inRest, isError, stands⟩
      · rintro ⟨rfl | inRest, isError, stands⟩
        · exact .inl ⟨rfl, isError, stands⟩
        · exact .inr ⟨inRest, isError, stands⟩

/-- What a check finds at an object, as a finding of this level. -/
def Finds (visit : Visit) (check : Check) (level : Level) (finding : Finding) : Prop :=
  ∃ walk, (check.run visit.scope visit.subject).result = .ok walk ∧
    ∃ remark ∈ walk.found,
      finding = ⟨check.code, remark.message, level, Finding.locate visit.scope remark⟩

theorem mem_errors_runCheck {files : FileTree} {visit : Visit} {check : Check}
    {reported : Finding} {report : Report}
    (returned : (runCheck files visit check).result = .ok report) :
    reported ∈ report.errors ↔
      effectiveLevel? visit.scope.settings check.code = some .error ∧
        Finds visit check .error reported ∧ reported.Stands files := by
  unfold runCheck at returned
  cases isLevel : effectiveLevel? visit.scope.settings check.code with
  | none =>
      rw [isLevel] at returned
      rw [← Except.ok.inj returned]
      simp
  | some level =>
      rw [isLevel] at returned
      obtain ⟨walk, isWalk, rest⟩ := Logged.result_bind_eq_ok.mp returned
      obtain ⟨all, allOk, last⟩ := Logged.result_bind_eq_ok.mp rest
      have isReport : all = report := by
        cases faulty : walk.fault with
        | none =>
            rw [faulty] at last
            exact Except.ok.inj last
        | some fault =>
            rw [faulty] at last
            cases last
      subst isReport
      rw [mem_errors_reportAll allOk, List.mem_map]
      constructor
      · rintro ⟨⟨remark, inside, rfl⟩, isError, stands⟩
        cases isError
        exact ⟨rfl, ⟨walk, isWalk, remark, inside, rfl⟩, stands⟩
      · rintro ⟨isError, ⟨other, isOther, remark, inside, rfl⟩, stands⟩
        obtain rfl := Except.ok.inj (isWalk.symm.trans isOther)
        obtain rfl := Option.some.inj isError
        exact ⟨⟨remark, inside, rfl⟩, rfl, stands⟩

/-- What a check reports depends on what it says, its level, and where the object stands. -/
theorem runCheck_congr {files : FileTree} {first second : Visit} {check : Check}
    (sameRun : check.run first.scope first.subject = check.run second.scope second.subject)
    (sameLevel : effectiveLevel? first.scope.settings check.code =
      effectiveLevel? second.scope.settings check.code)
    (sameBlock : first.scope.block = second.scope.block)
    (sameRoutine : first.scope.routine = second.scope.routine) :
    runCheck files first check = runCheck files second check := by
  have samePlace : Finding.locate first.scope = Finding.locate second.scope := by
    funext remark
    rw [Finding.locate, Finding.locate, sameBlock, sameRoutine]
  rw [runCheck, runCheck, sameLevel, sameRun, samePlace]

theorem mem_errors_runChecks {files : FileTree} {visit : Visit} {checks : List Check}
    {reported : Finding} {report : Report}
    (returned : (runChecks files visit checks).result = .ok report) :
    reported ∈ report.errors ↔ ∃ check ∈ checks,
      effectiveLevel? visit.scope.settings check.code = some .error ∧
        Finds visit check .error reported ∧ reported.Stands files := by
  induction checks generalizing report with
  | nil =>
      rw [← Except.ok.inj returned]
      simp
  | cons check rest inductionHypothesis =>
      obtain ⟨before, after, firstOk, restOk, rfl⟩ := inTurn_ok.mp returned
      rw [Report.append, List.mem_append, mem_errors_runCheck firstOk,
        inductionHypothesis restOk, List.exists_mem_cons_iff]

theorem mem_errors_checkEach {registry : Registry} {files : FileTree} {visits : List Visit}
    {reported : Finding} {report : Report}
    (returned : (checkEach registry files visits).result = .ok report) :
    reported ∈ report.errors ↔
      ∃ visit ∈ visits, ∃ check ∈ registry.checks, check.target.accepts visit.subject = true ∧
        effectiveLevel? visit.scope.settings check.code = some .error ∧
          Finds visit check .error reported ∧ reported.Stands files := by
  induction visits generalizing report with
  | nil =>
      rw [← Except.ok.inj returned]
      simp
  | cons visit rest inductionHypothesis =>
      obtain ⟨before, after, firstOk, restOk, rfl⟩ := inTurn_ok.mp returned
      rw [Report.append, List.mem_append, mem_errors_runChecks firstOk,
        inductionHypothesis restOk, List.exists_mem_cons_iff]
      simp only [List.mem_filter, and_assoc]

theorem result_lint_of_done (registry : Registry) (settings : Settings) (files : FileTree)
    {code : Code} (done : code.steps.fault = none) :
    (lint registry settings files code).result =
      (checkEach registry files (code.checked.map (Step.visit code settings))).result := by
  cases returned : (checkEach registry files (code.checked.map (Step.visit code settings))).result
    with
  | ok report => exact lint_ok.mpr ⟨done, returned⟩
  | error fault =>
      rw [lint_eq, Logged.result_bind, returned]
      rfl

theorem lint_fails_of_not_done (registry : Registry) (settings : Settings) (files : FileTree)
    {code : Code} (stopped : code.steps.fault ≠ none) :
    ∃ fault, (lint registry settings files code).result = .error fault := by
  cases outcome : (lint registry settings files code).result with
  | error fault => exact ⟨fault, rfl⟩
  | ok report => exact absurd (lint_ok.mp outcome).1 stopped

/-- The settings run the check as one whose findings are errors: it has no entry, or is enabled
with this level. -/
def Fatal (settings : Settings) (code : String) : Prop :=
  ∀ entry ∈ settings.checks.find? code, entry.enabled = true ∧ entry.level = .error

/-- No level of the settings leaves out errors. -/
theorem effectiveLevel?_eq_error_iff {settings : Settings} {code : String} :
    effectiveLevel? settings code = some .error ↔ Fatal settings code := by
  unfold effectiveLevel? Fatal
  cases settings.checks.find? code with
  | none => simp [Level.rank]
  | some entry =>
      obtain ⟨enabled, level⟩ := entry
      cases enabled with
      | false => simp
      | true => cases level <;> simp [Level.rank]

/-- The errors of a run that returns. -/
theorem mem_errors_lint {registry : Registry} {settings : Settings} {files : FileTree}
    {code : Code} {report : Report} {reported : Finding}
    (returned : (lint registry settings files code).result = .ok report) :
    reported ∈ report.errors ↔
      ∃ step ∈ code.checked, ∃ check ∈ registry.checks, check.target.accepts step.2 = true ∧
        Fatal settings check.code ∧ Finds (step.visit code settings) check .error reported ∧
        reported.Stands files := by
  rw [mem_errors_checkEach (lint_ok.mp returned).2]
  constructor
  · rintro ⟨visit, inside, check, registered, accepted, isError, finds, stands⟩
    obtain ⟨step, isChecked, rfl⟩ := List.mem_map.mp inside
    exact ⟨step, isChecked, check, registered, accepted, effectiveLevel?_eq_error_iff.mp isError,
      finds, stands⟩
  · rintro ⟨step, isChecked, check, registered, accepted, fatal, finds, stands⟩
    exact ⟨step.visit code settings, List.mem_map_of_mem isChecked, check, registered, accepted,
      effectiveLevel?_eq_error_iff.mpr fatal, finds, stands⟩

end Lint

end PlcLint
