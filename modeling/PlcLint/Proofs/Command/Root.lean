import PlcLint.Command
import PlcLint.Proofs.Glob
import PlcLint.Proofs.Lint.Views
import PlcLint.Proofs.Source.Reads
import PlcLint.Reading.Source

/-!
Linting from a root directory and linting inside it. Both select the same paths. But these are
paths from inside the root, and the run from above opens them in the working directory: it ends
like the run from inside where the files there are like those below the root.
-/

namespace PlcLint

open FileTree (SameView)

namespace Command

/-! The outcome of a run, by what it selects and what it parses. -/

/-- How a run ends that comes to lint. -/
def endOf : Except Fault Report → Outcome
  | .ok report => .finished report.exitCode "" report.printed
  | .error fault => .failed fault

section

variable {Item : Type} (parser : Parser Item)

/-- The results of parsing the selected files. -/
def parsed (schedule : Source.Schedule) (files : FileTree) (options : LintOptions) :
    Source.Parsed :=
  Source.parseTogether parser schedule options.cacheDirectory files (selected files options)

/-- A cache, where there is one, gives what the files themselves give. -/
def CacheAgrees (schedule : Source.Schedule) (files : FileTree) (options : LintOptions) : Prop :=
  (parsed parser schedule files options).outcome =
    (Source.parseTogether parser schedule none files (selected files options)).outcome

/-- The code that parsed files make up. -/
def Yields (parsed : Source.Parsed) (code : Code) : Prop :=
  ∃ found, parsed.outcome = .ok found ∧ parser.summarize found = .ok code

/-- The parser makes code of each result by itself, and puts it together in the order of the
results. -/
def Piecewise (part : ParseResult → Except Fault Code) (inheritance : Inheritance) : Prop :=
  ∀ found, parser.summarize found =
    (found.mapM part).map fun parts => Code.concat parts inheritance

/-- How a run ends that has parsed its files. -/
def outcomeOf (registry : Registry) (settings : Settings) (parsed : Source.Parsed) : Outcome :=
  endOf (parsed.outcome.bind fun found => (parser.summarize found).bind fun code =>
    (lint registry settings parsed.files code).result)

end

theorem result_ofExcept {α : Type} (value : Except Fault α) :
    (Logged.ofExcept value).result = value := by
  cases value <;> rfl

section

variable {Item : Type} {parser : Parser Item} {registry : Registry} {settings : Settings}

theorem outcome_lintFiles (schedule : Source.Schedule) (files : FileTree)
    (options : LintOptions) :
    (lintFiles parser schedule registry settings files options).outcome =
      outcomeOf parser registry settings (parsed parser schedule files options) := by
  unfold lintFiles
  dsimp only [Logged.outcome]
  simp only [Logged.result_bind, result_ofExcept]
  rfl

theorem runCommand_lint {schedule : Source.Schedule} {files : FileTree} {args : List String}
    {options : LintOptions} (accepted : lintOptions? files args = some options) :
    (runCommand parser schedule files registry settings "lint" args).outcome =
      outcomeOf parser registry settings (parsed parser schedule files options) := by
  rw [← outcome_lintFiles, runCommand, if_neg (by decide), accepted]

theorem outcomeOf_congr {first second : Source.Parsed} (same : first.outcome = second.outcome)
    (views : ∀ code, Yields parser second code → ∀ place ∈ code.places,
      SameView first.files second.files place.file) :
    outcomeOf parser registry settings first = outcomeOf parser registry settings second := by
  unfold outcomeOf
  rw [same]
  apply congrArg endOf
  -- Both sides are evaluated by rewriting; otherwise the two runs of `lint` are compared.
  cases isFound : second.outcome with
  | error fault => simp only [Except.bind]
  | ok found =>
      simp only [Except.bind]
      cases isCode : parser.summarize found with
      | error fault => simp only
      | ok code => simp only [lint_sameView registry settings (views code ⟨found, isFound, isCode⟩)]

theorem outcomeOf_of_error {parsed : Source.Parsed} {fault : Fault}
    (failed : parsed.outcome = .error fault) :
    outcomeOf parser registry settings parsed = .failed fault := by
  rw [outcomeOf, failed]
  rfl

theorem outcomeOf_of_unsummarized {parsed : Source.Parsed} {found : List ParseResult}
    {fault : Fault} (isFound : parsed.outcome = .ok found)
    (failed : parser.summarize found = .error fault) :
    outcomeOf parser registry settings parsed = .failed fault := by
  simp only [outcomeOf, isFound, Except.bind, failed]
  rfl

theorem outcomeOf_of_yields {parsed : Source.Parsed} {code : Code}
    (yields : Yields parser parsed code) :
    outcomeOf parser registry settings parsed =
      endOf (lint registry settings parsed.files code).result := by
  obtain ⟨found, isFound, isCode⟩ := yields
  simp only [outcomeOf, isFound, Except.bind, isCode]

/-- Two runs both fail, or they end with the same exit code and print the same in some order. -/
inductive SameEnd : Outcome → Outcome → Prop where
  | failed (first second : Fault) : SameEnd (.failed first) (.failed second)
  | finished (exitCode : Nat) {first second : List String} (printed : first.Perm second) :
      SameEnd (.finished exitCode "" first) (.finished exitCode "" second)

theorem sameEnd_endOf {first second : Except Fault Report}
    (same : Lint.SameOutcome first second) : SameEnd (endOf first) (endOf second) := by
  cases same with
  | failed fault other => exact .failed fault other
  | @returned before after errors printed =>
      have sameExit : before.exitCode = after.exitCode := by
        rw [Report.exitCode, Report.exitCode, errors.isEmpty_eq]
      rw [endOf, endOf, sameExit]
      exact .finished _ printed

/-- Nothing depends on which of the parts comes first: each name is declared once, global
variables agree, and all nodes are told apart. -/
structure Orderless (parts : List Code) (inheritance : Inheritance) : Prop where
  distinct : Code.Distinct parts
  agree : Code.GlobalsAgree parts
  numbered : (Code.concat parts inheritance).Numbered

theorem outcomeOf_sameEnd (steady : ∀ check ∈ registry.checks, check.Steady)
    {part : ParseResult → Except Fault Code} {inheritance : Inheritance}
    (piecewise : Piecewise parser part inheritance) {first second : Source.Parsed}
    (same : Source.SameResults first.outcome second.outcome)
    (orderless : ∀ found parts, first.outcome = .ok found → found.mapM part = .ok parts →
      Orderless parts inheritance)
    (views : ∀ code, Yields parser first code → ∀ place ∈ code.places,
      SameView first.files second.files place.file) :
    SameEnd (outcomeOf parser registry settings first)
      (outcomeOf parser registry settings second) := by
  generalize isFirst : first.outcome = before, isSecond : second.outcome = after at same
  cases same with
  | failed fault other =>
      rw [outcomeOf_of_error isFirst, outcomeOf_of_error isSecond]
      exact .failed fault other
  | @returned found others perm =>
      have sameParts := Source.SameResults.mapM perm part
      have summary := piecewise found
      have summaryOther := piecewise others
      generalize isParts : found.mapM part = parts, others.mapM part = partsOther
        at sameParts summary summaryOther
      cases sameParts with
      | failed fault other =>
          rw [outcomeOf_of_unsummarized isFirst summary,
            outcomeOf_of_unsummarized isSecond summaryOther]
          exact .failed fault other
      | returned perm =>
          obtain ⟨distinct, agree, numbered⟩ := orderless found _ isFirst isParts
          rw [outcomeOf_of_yields ⟨found, isFirst, summary⟩,
            outcomeOf_of_yields ⟨others, isSecond, summaryOther⟩,
            lint_sameView registry settings (views _ ⟨found, isFirst, summary⟩)]
          exact sameEnd_endOf
            (Lint.lint_sameOutcome steady perm distinct agree numbered settings second.files)

end

/-! The options of the two runs. -/

/-- The options that the values found in the arguments make up. -/
def optionsOf (found : List (String × String)) : LintOptions where
  cacheDirectory :=
    if ((found.map Prod.fst).filter fun option =>
        option = "use-cache" || option = "no-cache").getLast? != some "no-cache" then
      some ((valueOf? found "cache-dir").getD ".catscan")
    else none
  root := Path.normal ((valueOf? found "root-dir").getD ".")
  excludes := valuesOf found "exclude"
  patterns := valuesOf found "pattern"

theorem eq_optionsOf {files : FileTree} {args : List String} {options : LintOptions}
    (accepted : lintOptions? files args = some options) :
    ∃ found others, scan lintOptions true args = some (found, others) ∧
      options = optionsOf found ∧
      files.file? ((valueOf? found "root-dir").getD ".") = none := by
  unfold lintOptions? at accepted
  obtain ⟨⟨found, others⟩, scanned, rest⟩ := Option.bind_eq_some_iff.mp accepted
  dsimp only at rest
  split at rest
  · cases rest
  · rename_i admitted
    simp only [Bool.or_eq_true, not_or, Bool.not_eq_true, Option.isSome_eq_false_iff,
      Option.isNone_iff_eq_none] at admitted
    exact ⟨found, others, scanned, (Option.some.inj rest).symm, admitted.2⟩

/-- A root directory is given in the arguments. -/
def givesRoot (args : List String) : Bool :=
  ((scan lintOptions true args).bind fun result => valueOf? result.1 "root-dir").isSome

theorem scan_root (directory : String) (args : List String) :
    scan lintOptions true ("-r" :: directory :: args) =
      (scan lintOptions true args).map fun result =>
        (("root-dir", directory) :: result.1, result.2) := by
  rw [scan]
  cases scan lintOptions true args with
  | none => rfl
  | some result => rfl

theorem valuesOf_cons_of_ne {option other : String} (apart : option ≠ other) (value : String)
    (found : List (String × String)) :
    valuesOf ((option, value) :: found) other = valuesOf found other := by
  simp [valuesOf, apart]

/-- The run with the root has the options of the run inside, but for the root; and the root is not
a file. -/
theorem lintOptions?_root {files inner : FileTree} {directory : String} {args : List String}
    {outer inside : LintOptions}
    (accepted : lintOptions? files ("-r" :: directory :: args) = some outer)
    (acceptedInside : lintOptions? inner args = some inside) (unrooted : givesRoot args = false) :
    outer = { inside with root := Path.normal directory } ∧ inside.root = "." ∧
      files.file? directory = none := by
  obtain ⟨found, others, scanned, rfl, _⟩ := eq_optionsOf acceptedInside
  obtain ⟨_, _, scannedRoot, rfl, noFile⟩ := eq_optionsOf accepted
  rw [scan_root, scanned] at scannedRoot
  cases scannedRoot
  have noRoot : valuesOf found "root-dir" = [] := by
    simpa [givesRoot, scanned, valueOf?] using unrooted
  have onlyRoot : valuesOf (("root-dir", directory) :: found) "root-dir" = [directory] := by
    simpa [valuesOf] using noRoot
  refine ⟨?_, ?_, ?_⟩
  · simp [optionsOf, valueOf?, onlyRoot, valuesOf_cons_of_ne]
  · change Path.normal ((valuesOf found "root-dir").getLast?.getD ".") = "."
    rw [noRoot]
    rfl
  · rwa [valueOf?, onlyRoot] at noFile

/-! The paths that are selected, and how they are read. -/

theorem corresponds_root {directory : String} (downward : Path.Downward directory) :
    FileTree.Corresponds (Path.parts directory) (Path.normal directory) "." where
  outerNonempty := Path.normal_ne_empty downward.relative
  innerNonempty := by decide
  outerDownward := downward.normal
  innerDownward := ⟨rfl, by decide⟩
  parts := by
    rw [Path.parts_normal]
    exact (List.append_nil _).symm
  ending := .inl rfl

section

variable {files : FileTree} {directory : String} {options : LintOptions}
  (root : files.HasRoot (Path.parts directory)) (downward : Path.Downward directory)
  (patterns : ∀ pattern ∈ options.patterns, Path.Downward pattern)
include root downward patterns

theorem selected_within (isRoot : options.root = ".") :
    selected (files.within (Path.parts directory)) options =
      selected files { options with root := Path.normal directory } := by
  have globbed : (options.patterns.flatMap fun pattern =>
        (files.within (Path.parts directory)).glob options.root pattern) =
      options.patterns.flatMap fun pattern => files.glob (Path.normal directory) pattern := by
    apply List.flatMap_congr
    intro pattern isPattern
    rw [isRoot]
    exact FileTree.glob_within root (corresponds_root downward) (patterns pattern isPattern)
  rw [selected, selected, globbed]

theorem downward_selected {path : String}
    (isSelected : path ∈ selected files { options with root := Path.normal directory }) :
    Path.Downward path ∧ Path.normal path = path := by
  have found := List.mem_eraseDups.mp (List.mem_of_mem_filter isSelected)
  obtain ⟨spelled, isSpelled, rfl⟩ := List.mem_map.mp found
  obtain ⟨pattern, isPattern, isFound⟩ := List.mem_flatMap.mp isSpelled
  have isDown : Path.Downward spelled := FileTree.downward_glob root.canonical
    (Path.normal_ne_empty downward.relative) downward.normal (patterns pattern isPattern) isFound
  exact ⟨isDown.normal, Path.normal_normal spelled⟩

end

/-- How a run with a root directory compares with the run inside it. -/
structure OpensFromAbove {Item : Type} (parser : Parser Item) (registry : Registry)
    (settings : Settings) (files : FileTree) (directory : String) (args : List String)
    (outer inside : LintOptions) : Prop where
  selects : selected files outer = selected (files.within (Path.parts directory)) inside
  /-- From inside, the selected paths are read below the root. -/
  reads : ∀ path ∈ selected files outer, ∀ text,
    (files.within (Path.parts directory)).read path = .ok text ↔
      files.read (Path.below directory path) = .ok text
  /-- From above, they are read in the working directory: what is not there ends the run. -/
  fails : ∀ schedule, ∀ path ∈ selected files outer, (∀ text, files.read path ≠ .ok text) →
    ∃ fault, (runCommand parser schedule files registry settings "lint"
      ("-r" :: directory :: args)).outcome = .failed fault
  /-- Where the same is read, the same is parsed, in whatever order files are taken and
  finished in the two runs. -/
  parses : (∀ path ∈ selected files outer,
      files.read path = (files.within (Path.parts directory)).read path) →
    ∀ schedule other, CacheAgrees parser schedule files outer →
    CacheAgrees parser other (files.within (Path.parts directory)) inside →
    Source.SameResults (parsed parser schedule files outer).outcome
        (parsed parser other (files.within (Path.parts directory)) inside).outcome ∧
      (schedule = other → (parsed parser schedule files outer).outcome =
        (parsed parser other (files.within (Path.parts directory)) inside).outcome)
  /-- Once the same is parsed in the same order, only the files that the code names can make a
  difference. -/
  ends : ∀ schedule other, (parsed parser schedule files outer).outcome =
      (parsed parser other (files.within (Path.parts directory)) inside).outcome →
    (∀ code, Yields parser (parsed parser other (files.within (Path.parts directory)) inside) code →
      ∀ place ∈ code.places, SameView (parsed parser schedule files outer).files
        (parsed parser other (files.within (Path.parts directory)) inside).files place.file) →
    (runCommand parser schedule files registry settings "lint"
        ("-r" :: directory :: args)).outcome =
      (runCommand parser other (files.within (Path.parts directory)) registry settings "lint"
        args).outcome
  /-- In another order, too, the run ends with the same exit code, for a parser and checks that
  do not depend on the order. -/
  exits : (∀ check ∈ registry.checks, check ∈ Check.builtin ∨ check.Steady) →
    ∀ part inheritance, Piecewise parser part inheritance →
    ∀ schedule other, Source.SameResults (parsed parser schedule files outer).outcome
      (parsed parser other (files.within (Path.parts directory)) inside).outcome →
    (∀ found parts, (parsed parser schedule files outer).outcome = .ok found →
      found.mapM part = .ok parts → Orderless parts inheritance) →
    (∀ code, Yields parser (parsed parser schedule files outer) code → ∀ place ∈ code.places,
      SameView (parsed parser schedule files outer).files
        (parsed parser other (files.within (Path.parts directory)) inside).files place.file) →
    SameEnd (runCommand parser schedule files registry settings "lint"
        ("-r" :: directory :: args)).outcome
      (runCommand parser other (files.within (Path.parts directory)) registry settings "lint"
        args).outcome
  /-- The working directory itself as the root makes no difference to a run in the same order. -/
  here : Path.parts directory = [] → ∀ schedule,
    (runCommand parser schedule files registry settings "lint"
        ("-r" :: directory :: args)).outcome =
      (runCommand parser schedule (files.within (Path.parts directory)) registry settings "lint"
        args).outcome

def nested : FileTree := .ofList [("sub/a.st", .text "")]

def mirrored : FileTree := .ofList [("a.st", .text ""), ("sub/a.st", .text "")]

def starOptions (root : String) : LintOptions := ⟨none, root, [], ["*.st"]⟩

theorem selected_mirrored : selected (mirrored.within ["sub"]) (starOptions ".") = ["a.st"] := by
  decide +kernel

/-- A single file leaves no choice of the order. -/
theorem outcome_parseTogether_singleton {Item : Type} (parser : Parser Item)
    (schedule : Source.Schedule) (files : FileTree) (path : String) :
    (Source.parseTogether parser schedule none files [path]).outcome =
      (Source.finishedAt parser files path).outcome := by
  have taken : schedule.taken [path] = [path] := (schedule.taken_perm [path]).eq_singleton
  have finished : schedule.finished [Source.finishedAt parser files path] =
      [Source.finishedAt parser files path] := (schedule.finished_perm _).eq_singleton
  rw [Source.outcome_parseTogether, taken, Source.work_uncached, List.map_singleton, finished,
    List.mapM_cons, List.mapM_nil]
  cases (Source.finishedAt parser files path).outcome with
  | error fault => rfl
  | ok found => simp [bind, Except.bind, pure, Except.pure, Except.map]

end Command

end PlcLint
