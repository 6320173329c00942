import PlcLint.FileTree
import PlcLint.Proofs.Table

/-!
Paths as lists of parts, the places in a tree to which they lead, and what reading and changing a
tree does to the files at its places.
-/

namespace PlcLint

namespace Path

/-- A part of a path that means something. -/
structure IsPart (part : String) : Prop where
  nonempty : part ≠ ""
  notHere : part ≠ "."
  noSlash : '/' ∉ part.toList

theorem slash_not_mem_of_mem_splitOn {chars piece : List Char}
    (membership : piece ∈ chars.splitOn '/') : '/' ∉ piece := by
  induction chars generalizing piece with
  | nil =>
      rw [List.splitOn_nil] at membership
      rw [List.mem_singleton.mp membership]
      exact List.not_mem_nil
  | cons c rest inductionHypothesis =>
      rw [List.splitOn_cons_eq_if_modifyHead] at membership
      split at membership
      · rcases List.mem_cons.mp membership with rfl | later
        · exact List.not_mem_nil
        · exact inductionHypothesis later
      · rename_i noSlash
        cases split : rest.splitOn '/' with
        | nil => exact absurd split (List.splitOn_ne_nil _ _)
        | cons first more =>
            rw [split, List.modifyHead_cons] at membership
            rw [split] at inductionHypothesis
            rcases List.mem_cons.mp membership with rfl | later
            · rw [List.mem_cons, not_or]
              refine ⟨fun same => noSlash (beq_iff_eq.mpr same.symm), ?_⟩
              exact inductionHypothesis List.mem_cons_self
            · exact inductionHypothesis (List.mem_cons_of_mem _ later)

theorem isPart_of_mem_parts {path part : String} (membership : part ∈ parts path) :
    IsPart part := by
  obtain ⟨inPieces, meant⟩ := List.mem_filter.mp membership
  obtain ⟨piece, isPiece, rfl⟩ := List.mem_map.mp inPieces
  simp only [Bool.and_eq_true, bne_iff_ne] at meant
  refine ⟨meant.1, meant.2, ?_⟩
  rw [String.toList_ofList]
  exact slash_not_mem_of_mem_splitOn isPiece

theorem parts_empty : parts "" = [] := rfl

theorem pieces_append (first second : String) :
    pieces (first ++ "/" ++ second) = pieces first ++ pieces second := by
  have chars : (first ++ "/" ++ second).toList = first.toList ++ '/' :: second.toList := by simp
  rw [pieces, chars, List.splitOn_append_cons_self, List.map_append]
  rfl

theorem parts_append (first second : String) :
    parts (first ++ "/" ++ second) = parts first ++ parts second := by
  rw [parts, pieces_append, List.filter_append]
  rfl

theorem pieces_join {all : List String} (areParts : ∀ part ∈ all, IsPart part)
    (nonempty : all ≠ []) : pieces (join all) = all := by
  have noSlash : ∀ chars ∈ all.map String.toList, '/' ∉ chars := by
    intro chars membership
    obtain ⟨part, inside, rfl⟩ := List.mem_map.mp membership
    exact (areParts part inside).noSlash
  rw [pieces, join, String.toList_intercalate]
  change List.map _ (List.splitOn '/' (['/'].intercalate _)) = _
  rw [List.splitOn_intercalate _ noSlash (by simpa using nonempty), List.map_map]
  simp

theorem parts_join {all : List String} (areParts : ∀ part ∈ all, IsPart part) :
    parts (join all) = all := by
  by_cases empty : all = []
  · rw [empty]
    rfl
  rw [parts, pieces_join areParts empty, List.filter_eq_self]
  intro part inside
  simp [(areParts part inside).nonempty, (areParts part inside).notHere]

theorem parts_of_isPart {part : String} (isPart : IsPart part) : parts part = [part] := by
  have single : parts (join [part]) = [part] :=
    parts_join (List.forall_mem_singleton.mpr isPart)
  rwa [join, String.intercalate_singleton] at single

theorem parts_normal (path : String) : parts (normal path) = parts path := by
  have shortest : parts (join (parts path)) = parts path :=
    parts_join fun _ membership => isPart_of_mem_parts membership
  unfold normal
  split
  · have lead := parts_append "" (join (parts path))
    rw [String.empty_append] at lead
    rw [lead, shortest, parts_empty, List.nil_append]
  dsimp only
  split
  · rename_i nothing
    rw [← shortest, nothing, parts_empty]
    rfl
  · exact shortest

theorem parts_below (directory path : String) :
    parts (below directory path) = parts directory ++ parts path := by
  rw [below, parts_normal, parts_append, parts_normal]

theorem noSlash_name (path : String) : '/' ∉ (name path).toList := by
  unfold name
  cases last : (parts path).getLast? with
  | none => simp
  | some part => exact (isPart_of_mem_parts (List.mem_of_getLast? last)).noSlash

/-- A path ends in its last part. -/
theorem suffix_join (above : List String) (last : String) :
    last.toList <:+ (join (above ++ [last])).toList := by
  cases above with
  | nil =>
      simp [join]
  | cons first rest =>
      rw [join, String.intercalate_append_of_ne_nil (by simp) (by simp),
        String.intercalate_singleton, String.toList_append]
      exact List.suffix_append _ _

/-- The place to which parts lead, if all the directories that they pass are there. -/
def lead : List String → List String → List String
  | place, [] => place
  | place, part :: rest =>
    if part = ".." then lead place.dropLast rest else lead (place ++ [part]) rest

theorem lead_concat {last : String} (notUp : last ≠ "..") (place all : List String) :
    lead place (all ++ [last]) = lead place all ++ [last] := by
  induction all generalizing place with
  | nil => simp [lead, notUp]
  | cons part rest inductionHypothesis =>
      rw [List.cons_append, lead, lead]
      split
      · exact inductionHypothesis _
      · exact inductionHypothesis _

theorem lead_of_not_mem {all : List String} (noUp : ".." ∉ all) (place : List String) :
    lead place all = place ++ all := by
  induction all generalizing place with
  | nil => simp [lead]
  | cons part rest inductionHypothesis =>
      rw [List.mem_cons, not_or] at noUp
      rw [lead, if_neg (Ne.symm noUp.1), inductionHypothesis noUp.2, List.append_assoc]
      rfl

end Path

namespace FileTree

variable {tree : FileTree}

theorem walk_eq_lead {place all found : List String} (arrived : tree.walk place all = some found) :
    found = Path.lead place all := by
  induction all generalizing place with
  | nil => exact (Option.some.inj arrived).symm
  | cons part rest inductionHypothesis =>
      rw [walk] at arrived
      rw [Path.lead]
      split at arrived
      · rw [if_pos (by assumption)]
        split at arrived
        · exact inductionHypothesis arrived
        · cases arrived
      · rw [if_neg (by assumption)]
        exact inductionHypothesis arrived

/-- A path leads to the same place at all times, if it leads anywhere. -/
theorem resolve?_eq_lead {path place : String} (arrived : tree.resolve? path = some place) :
    place = Path.join (Path.lead [] (Path.parts path)) := by
  unfold resolve? at arrived
  split at arrived
  · cases arrived
  cases walked : tree.walk [] (Path.parts path) with
  | none =>
      rw [walked] at arrived
      cases arrived
  | some found =>
      simp only [walked] at arrived
      split at arrived
      · cases arrived
      · rw [← Option.some.inj arrived, walk_eq_lead walked]

/-- A file is written under the last part of its path, wherever that is. -/
theorem target_concat {path last : String} {above : List String}
    (isPath : Path.parts path = above ++ [last]) (notUp : last ≠ "..") (tree : FileTree) :
    ∃ place, tree.target path = Path.join (place ++ [last]) := by
  unfold target
  cases arrived : tree.resolve? path with
  | none => exact ⟨above, by rw [Option.getD_none, isPath]⟩
  | some place =>
      refine ⟨Path.lead [] above, ?_⟩
      rw [Option.getD_some, resolve?_eq_lead arrived, isPath, Path.lead_concat notUp]

theorem target_of_not_mem {path : String} (noUp : ".." ∉ Path.parts path) (tree : FileTree) :
    tree.target path = Path.join (Path.parts path) := by
  unfold target
  cases arrived : tree.resolve? path with
  | none => rfl
  | some place =>
      rw [Option.getD_some, resolve?_eq_lead arrived, Path.lead_of_not_mem noUp, List.nil_append]

/-! The files at places of a tree that has been changed. -/

theorem files_addDirectories (tree : FileTree) (paths : List String) :
    (tree.addDirectories paths).files = tree.files := rfl

theorem mem_addDirectories (tree : FileTree) (paths : List String) {directory : String} :
    directory ∈ (tree.addDirectories paths).directories ↔
      directory ∈ tree.directories ∨ directory ∈ paths := by
  unfold addDirectories
  dsimp only
  induction paths generalizing tree with
  | nil => simp
  | cons path rest inductionHypothesis =>
      have step := inductionHypothesis ⟨tree.files,
        if tree.directories.contains path then tree.directories else tree.directories ++ [path]⟩
      rw [List.foldl_cons, step, List.mem_cons]
      split
      · rename_i known
        have isKnown : path ∈ tree.directories := List.contains_iff_mem.mp known
        grind
      · simp [or_assoc]

theorem find?_write (tree : FileTree) (path : String) (content : Content) (place : String) :
    (tree.write path content).files.find? place =
      if place = tree.target path then some content else tree.files.find? place := by
  rw [write, files_addDirectories, Table.find?_put]

theorem mem_directories_write {directory : String} (isDirectory : directory ∈ tree.directories)
    (path : String) (content : Content) : directory ∈ (tree.write path content).directories := by
  unfold write
  dsimp only
  rw [mem_addDirectories]
  exact .inl isDirectory

theorem files_makeDirectory {path : String} {made : FileTree}
    (isMade : tree.makeDirectory path = .ok made) : made.files = tree.files := by
  unfold makeDirectory at isMade
  dsimp only at isMade
  split at isMade
  · cases isMade
  split at isMade
  · cases isMade
  split at isMade
  · rw [← Except.ok.inj isMade]
  · rw [← Except.ok.inj isMade, files_addDirectories]

theorem read_eq_ok_iff {path text : String} :
    tree.read path = .ok text ↔ tree.file? path = some (.text text) := by
  unfold read
  constructor
  · intro isRead
    split at isRead
    · rename_i value isFile
      rw [isFile, Except.ok.inj isRead]
    · cases isRead
    · split at isRead
      · cases isRead
      split at isRead
      · cases isRead
      · cases isRead
  · intro isFile
    rw [isFile]

theorem find?_remove (tree : FileTree) (path place : String) :
    (tree.remove path).files.find? place =
      if place = Path.join (Path.parts path) then none else tree.files.find? place := by
  change (tree.files.entries.filter fun entry => entry.1 != Path.join (Path.parts path)).lookup
    place = if place = Path.join (Path.parts path) then none else tree.files.entries.lookup place
  generalize Path.join (Path.parts path) = gone
  induction tree.files.entries with
  | nil => simp
  | cons entry rest inductionHypothesis =>
      rw [List.filter_cons, List.lookup_cons]
      by_cases isGone : entry.1 = gone
      · rw [if_neg (by simpa using isGone), inductionHypothesis, isGone]
        by_cases same : place = gone
        · rw [if_pos same, if_pos same]
        · rw [if_neg same, if_neg same, beq_false_of_ne same]
      · rw [if_pos (by simpa using isGone), List.lookup_cons, inductionHypothesis]
        by_cases isEntry : place = entry.1
        · simp [isEntry, isGone]
        · rw [beq_false_of_ne isEntry]

end FileTree

end PlcLint
