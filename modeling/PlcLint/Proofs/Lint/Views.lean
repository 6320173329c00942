import PlcLint.Proofs.Lint.Sources

/-!
What linting looks up in the tree: lines of the files in which the code stands, and whether these
files are there. It ends alike in trees that show these files alike.
-/

namespace PlcLint

/-- Two trees show the same in a file. Where no file is known, lines are looked up all the same,
under a name of its own. -/
structure FileTree.SameView (first second : FileTree) (file : Option String) : Prop where
  lines : ∀ number, first.line (file.getD "None") number = second.line (file.getD "None") number
  has : ∀ name ∈ file, first.has (Path.normal name) = second.has (Path.normal name)

/-- The file in which the code of a place stands. -/
def Place.file (place : Place) : Option String :=
  match place.routine with
  | some routine => routine.filename
  | none => place.block.filename

theorem Place.file_locate (place : Place) (code : Code) (settings : Settings) (remark : Remark) :
    (Finding.locate (place.scope code settings) remark).file = place.file := by
  obtain ⟨block, routine⟩ := place
  cases routine <;> rfl

open FileTree (SameView)

variable {first second : FileTree}

namespace Location

variable {location : Location}

theorem errorLine_congr (view : SameView first second location.file) :
    location.errorLine first = location.errorLine second := by
  unfold errorLine
  split
  · rfl
  · rw [fileText, view.lines]
  · rfl

theorem pretty_congr (view : SameView first second location.file) :
    location.pretty first = location.pretty second := by
  unfold pretty
  split
  · rfl
  · cases isFile : location.file with
    | none => rfl
    | some file =>
        rw [isFile] at view
        have sameLines := view.lines
        rw [Option.getD_some] at sameLines
        simp only [view.has file rfl, sameLines]
  · rfl

end Location

namespace Lint

theorem reportFinding_congr {finding : Finding}
    (view : SameView first second finding.location.file) :
    reportFinding first finding = reportFinding second finding := by
  rw [reportFinding, reportFinding, Location.errorLine_congr view, Finding.text, Finding.text,
    Location.pretty_congr view]

theorem reportAll_congr {findings : List Finding}
    (views : ∀ finding ∈ findings, SameView first second finding.location.file) :
    reportAll first findings = reportAll second findings := by
  induction findings with
  | nil => rfl
  | cons finding rest inductionHypothesis =>
      obtain ⟨view, others⟩ := List.forall_mem_cons.mp views
      rw [reportAll, reportAll, reportFinding_congr view, inductionHypothesis others]

theorem runCheck_sameView {visit : Visit}
    (views : ∀ remark, SameView first second (Finding.locate visit.scope remark).file)
    (check : Check) : runCheck first visit check = runCheck second visit check := by
  unfold runCheck
  split
  · rfl
  · congr 1
    funext walk
    rw [reportAll_congr]
    intro finding isFinding
    obtain ⟨remark, _, rfl⟩ := List.mem_map.mp isFinding
    exact views remark

theorem runChecks_sameView {visit : Visit}
    (views : ∀ remark, SameView first second (Finding.locate visit.scope remark).file)
    (checks : List Check) : runChecks first visit checks = runChecks second visit checks := by
  induction checks with
  | nil => rfl
  | cons check rest inductionHypothesis =>
      rw [runChecks, runChecks, runCheck_sameView views, inductionHypothesis]

theorem checkVisits_sameView (registry : Registry) {visits : List Visit}
    (views : ∀ visit ∈ visits, ∀ remark,
      SameView first second (Finding.locate visit.scope remark).file) (seen : List Nat) :
    checkVisits registry first seen visits = checkVisits registry second seen visits := by
  induction visits generalizing seen with
  | nil => rfl
  | cons visit rest inductionHypothesis =>
      obtain ⟨view, others⟩ := List.forall_mem_cons.mp views
      unfold checkVisits
      simp only [runChecks_sameView view, inductionHypothesis others]

end Lint

/-- Linting depends on the tree only through the files in which the code stands. -/
theorem lint_sameView (registry : Registry) (settings : Settings) {code : Code}
    (views : ∀ place ∈ code.places, SameView first second place.file) :
    lint registry settings first code = lint registry settings second code := by
  have visited : ∀ visit ∈ (Lint.visits code settings).found, ∀ remark,
      SameView first second (Finding.locate visit.scope remark).file := by
    intro visit isVisit remark
    rw [Lint.visits_eq] at isVisit
    obtain ⟨step, isStep, rfl⟩ := List.mem_map.mp isVisit
    rw [Step.visit, Place.file_locate]
    exact views step.1 (Code.inside_steps isStep).1
  rw [lint, lint, Lint.checkVisits_sameView registry visited]

end PlcLint
