import PlcLint.Proofs.FileTree.Within
import PlcLint.Proofs.Source.Stored

/-!
Which texts parsing depends on, in any order in which files are taken and finished. Files are read
at their paths in the tree, and while one file after the other is parsed, caches add results to
the tree but never a text.
-/

namespace PlcLint

namespace Source

/-- The later tree holds no text that the earlier one does not hold at the same place. -/
def Keeps (earlier later : FileTree) : Prop :=
  ∀ place text, later.files.find? place = some (.text text) →
    earlier.files.find? place = some (.text text)

namespace Keeps

variable {earlier later files : FileTree}

theorem refl (files : FileTree) : Keeps files files := fun _ _ found => found

theorem write (entry : String) {content : Content} (noText : content.text? = none) :
    Keeps files (files.write entry content) := by
  intro place text isText
  rw [FileTree.find?_write] at isText
  split at isText
  · rw [Option.some.inj isText] at noText
    cases noText
  · exact isText

/-- What can be read later could be read before. A path that leads up is left out: it might lead
through a directory that was made in between. -/
theorem read (keeps : Keeps earlier later) {path text : String} (downward : Path.Downward path)
    (isRead : later.read (Path.normal path) = .ok text) :
    earlier.read (Path.normal path) = .ok text := by
  rw [FileTree.read_eq_ok_iff, FileTree.file?_normal downward] at isRead ⊢
  exact keeps _ _ isRead

end Keeps

/-! Outcomes that are the same up to the order of what is found. -/

inductive SameResults {α : Type} : Except Fault (List α) → Except Fault (List α) → Prop where
  | failed (first second : Fault) : SameResults (.error first) (.error second)
  | returned {first second : List α} (found : first.Perm second) :
      SameResults (.ok first) (.ok second)

namespace SameResults

variable {α β : Type}

theorem trans {first second third : Except Fault (List α)} (before : SameResults first second)
    (after : SameResults second third) : SameResults first third := by
  cases before with
  | failed fault other => cases after with | failed _ last => exact .failed fault last
  | returned found => cases after with | returned more => exact .returned (found.trans more)

/-- Items are taken in any order. -/
theorem mapM {items others : List α} (perm : items.Perm others) (step : α → Except Fault β) :
    SameResults (items.mapM step) (others.mapM step) := by
  induction perm with
  | nil => exact .returned .nil
  | @cons item before after _ inductionHypothesis =>
      rw [List.mapM_cons, List.mapM_cons]
      generalize before.mapM step = first, after.mapM step = second at inductionHypothesis
      cases step item with
      | error fault => exact .failed fault fault
      | ok found =>
          cases inductionHypothesis with
          | failed first second => exact .failed first second
          | returned more => exact .returned (more.cons found)
  | swap first second rest =>
      simp only [List.mapM_cons]
      cases step first with
      | error fault =>
          cases step second with
          | error other => exact .failed other fault
          | ok found => exact .failed fault fault
      | ok found =>
          cases step second with
          | error fault => exact .failed fault fault
          | ok more =>
              cases rest.mapM step with
              | error fault => exact .failed fault fault
              | ok others => exact .returned (.swap _ _ _)
  | trans _ _ before after => exact before.trans after

theorem flatten {first second : Except Fault (List (List α))} (same : SameResults first second) :
    SameResults (first.map List.flatten) (second.map List.flatten) := by
  cases same with
  | failed fault other => exact .failed fault other
  | returned found => exact .returned found.flatten

end SameResults

/-- The results of files that are finished. -/
theorem result_collect (done : List Finished) :
    (collect done).result = (done.mapM Finished.outcome).map List.flatten := by
  induction done with
  | nil => rfl
  | cons finished rest inductionHypothesis =>
      rw [collect, List.mapM_cons]
      generalize collect rest = later at inductionHypothesis
      obtain ⟨result, notices⟩ := later
      obtain rfl : result = _ := inductionHypothesis
      cases finished.outcome with
      | error fault => rfl
      | ok found => cases rest.mapM Finished.outcome <;> rfl

section

variable {Item : Type} {parser : Parser Item} {cache : Option String} {files : FileTree}

theorem keeps_parseFile (parser : Parser Item) (cache : Option String) (files : FileTree)
    (path : String) : Keeps files (parseFile parser cache files path).files := by
  rcases files_parseFile parser cache files path with
    same | ⟨_, text, found, made, _, _, _, isMade, isWritten⟩
  · rw [same]
    exact .refl files
  · rw [isWritten]
    intro place value isText
    rw [← FileTree.files_makeDirectory isMade]
    exact Keeps.write _ (text?_entryOf found) place value isText

/-- A file that is parsed, or taken from a cache, has been read. -/
theorem exists_read_of_parseFile {path : String} {found : List ParseResult}
    (parsed : (parseFile parser cache files path).outcome = .ok found) :
    ∃ text, files.read (Path.normal path) = .ok text := by
  cases isRead : files.read (Path.normal path) with
  | ok text => exact ⟨text, rfl⟩
  | error fault =>
      cases cache with
      | none => simp [parseFile, parseFresh, isRead, bind, Except.bind] at parsed
      | some directory => simp [parseFile, parseCached, isRead] at parsed

/-- What comes in from another process has been sent. -/
theorem exists_ok_of_received {outcome : Except Fault (List ParseResult)}
    {found : List ParseResult} (isReceived : received outcome = .ok found) :
    ∃ sent, outcome = .ok sent := by
  cases outcome with
  | error fault => cases isReceived
  | ok sent => exact ⟨sent, rfl⟩

/-- Each file that is taken is finished, and if that went well, it could be read at first. -/
theorem exists_finished_of_work {paths : List String}
    (downward : ∀ path ∈ paths, Path.Downward path) :
    ∀ path ∈ paths, ∃ finished ∈ (work parser cache files paths).2,
      ∀ found, finished.outcome = .ok found → ∃ text, files.read (Path.normal path) = .ok text := by
  induction paths generalizing files with
  | nil => simp
  | cons first rest inductionHypothesis =>
      obtain ⟨_, others⟩ := List.forall_mem_cons.mp downward
      intro path isPath
      rcases List.mem_cons.mp isPath with rfl | isLater
      · refine ⟨_, List.mem_cons_self, fun found isReceived => ?_⟩
        obtain ⟨sent, isParsed⟩ := exists_ok_of_received isReceived
        exact exists_read_of_parseFile isParsed
      · obtain ⟨finished, isFinished, reads⟩ := inductionHypothesis others path isLater
        refine ⟨finished, List.mem_cons_of_mem _ isFinished, fun found isOk => ?_⟩
        obtain ⟨text, isRead⟩ := reads found isOk
        exact ⟨text, (keeps_parseFile parser cache files first).read (others path isLater) isRead⟩

theorem outcome_parseTogether (schedule : Schedule) (paths : List String) :
    (parseTogether parser schedule cache files paths).outcome =
      ((schedule.finished (work parser cache files (schedule.taken paths)).2).mapM
        Finished.outcome).map List.flatten :=
  result_collect _

theorem exists_ok_of_mapM {α β : Type} {step : α → Except Fault β} {items : List α}
    {found : List β} (isOk : items.mapM step = .ok found) :
    ∀ item ∈ items, ∃ part, step item = .ok part := by
  induction items generalizing found with
  | nil => simp
  | cons item rest inductionHypothesis =>
      rw [List.mapM_cons] at isOk
      cases first : step item with
      | error fault => simp [first, bind, Except.bind] at isOk
      | ok part =>
          cases later : rest.mapM step with
          | error fault => simp [first, later, bind, Except.bind] at isOk
          | ok parts => exact List.forall_mem_cons.mpr ⟨⟨part, first⟩, inductionHypothesis later⟩

/-- In every order, all files have been read once their results are there. -/
theorem exists_read_of_parseTogether {schedule : Schedule} {paths : List String}
    {found : List ParseResult} (downward : ∀ path ∈ paths, Path.Downward path)
    (parsed : (parseTogether parser schedule cache files paths).outcome = .ok found) :
    ∀ path ∈ paths, ∃ text, files.read (Path.normal path) = .ok text := by
  rw [outcome_parseTogether] at parsed
  intro path isPath
  have taken := schedule.taken_perm paths
  obtain ⟨finished, isFinished, reads⟩ := exists_finished_of_work
    (fun other isTaken => downward other (taken.mem_iff.mp isTaken)) path (taken.mem_iff.mpr isPath)
  cases isOk : (schedule.finished (work parser cache files (schedule.taken paths)).2).mapM
      Finished.outcome with
  | error fault =>
      rw [isOk] at parsed
      cases parsed
  | ok parts =>
      obtain ⟨part, isPart⟩ := exists_ok_of_mapM isOk finished
        ((schedule.finished_perm _).mem_iff.mpr isFinished)
      exact reads part isPart

/-! Without a cache, only the texts at the paths count. -/

/-- A file once it is finished. -/
def finishedAt (parser : Parser Item) (files : FileTree) (path : String) : Finished :=
  ⟨path, received (parseFresh parser files (Path.normal path)).outcome⟩

theorem work_uncached (paths : List String) :
    work parser none files paths = (files, paths.map (finishedAt parser files)) := by
  induction paths with
  | nil => rfl
  | cons path rest inductionHypothesis =>
      have unchanged : (parseFile parser none files path).files = files := rfl
      simp only [work, unchanged, inductionHypothesis]
      rfl

theorem finishedAt_congr {first second : FileTree} {path : String}
    (reads : first.read (Path.normal path) = second.read (Path.normal path)) :
    finishedAt parser first path = finishedAt parser second path := by
  simp only [finishedAt, parseFresh, reads]

section

variable {first second : FileTree} {paths : List String}
  (reads : ∀ path ∈ paths, first.read (Path.normal path) = second.read (Path.normal path))
include reads

/-- Where the same is read, the same is parsed in the same order. -/
theorem outcome_parseTogether_congr (schedule : Schedule) :
    (parseTogether parser schedule none first paths).outcome =
      (parseTogether parser schedule none second paths).outcome := by
  have same : (schedule.taken paths).map (finishedAt parser first) =
      (schedule.taken paths).map (finishedAt parser second) :=
    List.map_congr_left fun path isTaken =>
      finishedAt_congr (reads path ((schedule.taken_perm paths).mem_iff.mp isTaken))
  rw [outcome_parseTogether, outcome_parseTogether, work_uncached, work_uncached, same]

/-- Where the same is read, the same is parsed, in whatever order. -/
theorem sameResults_parseTogether (schedule other : Schedule) :
    SameResults (parseTogether parser schedule none first paths).outcome
      (parseTogether parser other none second paths).outcome := by
  rw [outcome_parseTogether_congr reads schedule, outcome_parseTogether, outcome_parseTogether,
    work_uncached, work_uncached]
  have taken : (schedule.taken paths).Perm (other.taken paths) :=
    (schedule.taken_perm paths).trans (other.taken_perm paths).symm
  have finished := ((schedule.finished_perm _).trans (taken.map (finishedAt parser second))).trans
    (other.finished_perm _).symm
  exact (SameResults.mapM finished Finished.outcome).flatten

end

end

end Source

end PlcLint
