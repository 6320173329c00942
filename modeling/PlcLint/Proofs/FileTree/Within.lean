import PlcLint.Proofs.FileTree

/-!
The tree that is seen from inside one of the directories of a tree. A path finds there what the
path through the directory finds from above.
-/

namespace PlcLint

namespace Path

theorem join_inj {first second : List String} (firstParts : ∀ part ∈ first, IsPart part)
    (secondParts : ∀ part ∈ second, IsPart part) (same : join first = join second) :
    first = second := by
  rw [← parts_join firstParts, same, parts_join secondParts]

theorem join_eq_empty_iff {all : List String} (areParts : ∀ part ∈ all, IsPart part) :
    join all = "" ↔ all = [] := by
  constructor
  · intro empty
    exact join_inj areParts (by simp) empty
  · rintro rfl
    rfl

theorem isPart_parts (path : String) : ∀ part ∈ parts path, IsPart part :=
  fun _ membership => isPart_of_mem_parts membership

theorem isAbsolute_join {all : List String} (areParts : ∀ part ∈ all, IsPart part) :
    isAbsolute (join all) = false := by
  by_cases empty : all = []
  · rw [empty]
    rfl
  cases absolute : isAbsolute (join all) with
  | false => rfl
  | true =>
      -- A slash at the beginning makes an empty piece, and parts are not empty.
      obtain ⟨rest, chars⟩ := List.head?_eq_some_iff.mp (beq_iff_eq.mp absolute)
      have isEmpty : "" ∈ pieces (join all) := by
        rw [pieces, chars]
        exact List.mem_map.mpr ⟨[], by simp [List.splitOn_cons_eq_if_modifyHead], rfl⟩
      rw [pieces_join areParts empty] at isEmpty
      exact absurd rfl (areParts "" isEmpty).nonempty

theorem normal_of_relative {path : String} (relative : isAbsolute path = false) :
    normal path = if parts path = [] then "." else join (parts path) := by
  simp only [normal, relative, Bool.false_eq_true, if_false,
    join_eq_empty_iff (isPart_parts path)]

theorem isAbsolute_normal (path : String) : isAbsolute (normal path) = isAbsolute path := by
  cases absolute : isAbsolute path with
  | true =>
      rw [normal, absolute, if_pos rfl, isAbsolute, String.toList_append]
      rfl
  | false =>
      rw [normal_of_relative absolute]
      split
      · rfl
      · exact isAbsolute_join (isPart_parts path)

theorem normal_normal (path : String) : normal (normal path) = normal path := by
  rw [normal, isAbsolute_normal, parts_normal]
  rfl

/-- A path in its shortest spelling ends in a part, unless it is the working directory. -/
theorem namesDirectory_normal {path : String} (relative : isAbsolute path = false)
    (nonempty : parts path ≠ []) : namesDirectory (normal path) = false := by
  rw [normal_of_relative relative, if_neg nonempty, namesDirectory,
    pieces_join (isPart_parts path) nonempty, List.getLast?_eq_some_getLast nonempty,
    Option.getD_some]
  have isPart := isPart_parts path _ (List.getLast_mem nonempty)
  simp [isPart.nonempty, isPart.notHere]

theorem normal_ne_empty {path : String} (relative : isAbsolute path = false) :
    normal path ≠ "" := by
  rw [normal_of_relative relative]
  split
  · decide
  · rename_i nonempty
    rwa [Ne, join_eq_empty_iff (isPart_parts path)]

theorem isAbsolute_append {first : String} (nonempty : first ≠ "") (second : String) :
    isAbsolute (first ++ second) = isAbsolute first := by
  have chars : first.toList ≠ [] := fun empty => nonempty (String.toList_inj.mp empty)
  rw [isAbsolute, isAbsolute, String.toList_append, List.head?_append_of_ne_nil _ chars]

theorem isAbsolute_of_isPart {part : String} (isPart : IsPart part) : isAbsolute part = false := by
  have single : isAbsolute (join [part]) = false :=
    isAbsolute_join (List.forall_mem_singleton.mpr isPart)
  rwa [join, String.intercalate_singleton] at single

/-- A path that starts at the working directory and never leads up. -/
structure Downward (path : String) : Prop where
  relative : isAbsolute path = false
  noUp : ".." ∉ parts path

instance (path : String) : Decidable (Downward path) :=
  decidable_of_iff (isAbsolute path = false ∧ ".." ∉ parts path)
    ⟨fun both => ⟨both.1, both.2⟩, fun downward => ⟨downward.relative, downward.noUp⟩⟩

namespace Downward

theorem normal {path : String} (downward : Downward path) : Downward (Path.normal path) :=
  ⟨(isAbsolute_normal path).trans downward.relative, (parts_normal path).symm ▸ downward.noUp⟩

theorem below {directory path : String} (first : Downward directory) (second : Downward path) :
    Downward (Path.normal directory ++ "/" ++ path) := by
  constructor
  · rw [String.append_assoc, isAbsolute_append (normal_ne_empty first.relative)]
    exact first.normal.relative
  · rw [parts_append, parts_normal, List.mem_append, not_or]
    exact ⟨first.noUp, second.noUp⟩

theorem of_isPart {part : String} (isPart : IsPart part) (notUp : part ≠ "..") :
    Downward part := by
  refine ⟨isAbsolute_of_isPart isPart, ?_⟩
  rw [parts_of_isPart isPart, List.mem_singleton]
  exact Ne.symm notUp

end Downward

end Path

namespace FileTree

variable {tree : FileTree}

theorem walk_of_not_mem {all : List String} (noUp : ".." ∉ all) (place : List String) :
    tree.walk place all = some (place ++ all) := by
  induction all generalizing place with
  | nil => simp [walk]
  | cons part rest inductionHypothesis =>
      rw [List.mem_cons, not_or] at noUp
      rw [walk, if_neg (Ne.symm noUp.1), inductionHypothesis noUp.2, List.append_assoc]
      rfl

theorem resolve?_of_downward {path : String} (downward : Path.Downward path) :
    tree.resolve? path =
      if Path.namesDirectory path && !tree.isDirectory (Path.parts path) then none
      else some (Path.join (Path.parts path)) := by
  simp [resolve?, downward.relative, walk_of_not_mem downward.noUp]

theorem isDirectory_iff {place : List String} (areParts : ∀ part ∈ place, Path.IsPart part) :
    tree.isDirectory place = true ↔
      Path.join place = "" ∨ Path.join place ∈ tree.directories := by
  rw [isDirectory, Bool.or_eq_true, List.isEmpty_iff, List.contains_iff_mem,
    Path.join_eq_empty_iff areParts]

theorem hasDirectory_of_downward {path : String} (downward : Path.Downward path) :
    tree.hasDirectory path = tree.isDirectory (Path.parts path) := by
  rw [hasDirectory, resolve?_of_downward downward]
  by_cases missing : (Path.namesDirectory path && !tree.isDirectory (Path.parts path)) = true
  · rw [if_pos missing]
    rw [Bool.and_eq_true, Bool.not_eq_true'] at missing
    exact missing.2.symm
  · rw [if_neg missing, Bool.eq_iff_iff, isDirectory_iff (Path.isPart_parts path)]
    simp

theorem file?_of_downward {path : String} (downward : Path.Downward path) :
    tree.file? path =
      if Path.namesDirectory path && !tree.isDirectory (Path.parts path) then none
      else tree.files.find? (Path.join (Path.parts path)) := by
  rw [file?, resolve?_of_downward downward]
  split <;> rfl

/-- What a path in its shortest spelling finds is at the place of its parts. -/
theorem file?_normal {path : String} (downward : Path.Downward path) :
    tree.file? (Path.normal path) = tree.files.find? (Path.join (Path.parts path)) := by
  rw [file?_of_downward downward.normal, Path.parts_normal, if_neg]
  by_cases nothing : Path.parts path = []
  · simp [nothing, isDirectory]
  · simp [Path.namesDirectory_normal downward.relative nothing]

/-! Names from inside a directory. -/

/-- What a name is called from a place above it. -/
def nameFrom? (place : List String) (name : String) : Option String :=
  match (Path.parts name).dropPrefix? place with
  | some (part :: rest) => some (Path.join (part :: rest))
  | _ => none

/-- The tree below a place. -/
def within (tree : FileTree) (place : List String) : FileTree where
  files := ⟨tree.files.entries.filterMap fun entry =>
    (nameFrom? place entry.1).map fun name => (name, entry.2)⟩
  directories := tree.directories.filterMap (nameFrom? place)

theorem nameFrom?_of_parts {place rest : List String} {name : String}
    (isName : Path.parts name = place ++ rest) (inside : rest ≠ []) :
    nameFrom? place name = some (Path.join rest) := by
  obtain ⟨part, more, rfl⟩ := List.exists_cons_of_ne_nil inside
  rw [nameFrom?, isName, List.dropPrefix?_append_of_beq _ (beq_self_eq_true place)]

theorem parts_of_nameFrom? {place : List String} {name inner : String}
    (isInner : nameFrom? place name = some inner) :
    ∃ rest ≠ [], Path.parts name = place ++ rest ∧ (∀ part ∈ rest, Path.IsPart part) ∧
      inner = Path.join rest := by
  unfold nameFrom? at isInner
  split at isInner
  · rename_i part rest dropped
    obtain ⟨above, isName, same⟩ := List.dropPrefix?_eq_some_iff.mp dropped
    have areParts := Path.isPart_parts name
    rw [isName, List.forall_mem_append] at areParts
    rw [beq_iff_eq] at same
    exact ⟨part :: rest, by simp, same ▸ isName, areParts.2, (Option.some.inj isInner).symm⟩
  · cases isInner

/-- A name is spelled from the top of the tree in the shortest way. -/
structure IsName (name : String) : Prop where
  spelling : name = Path.join (Path.parts name)
  nonempty : Path.parts name ≠ []
  noUp : ".." ∉ Path.parts name

/-- All files and directories are known by their names. -/
structure Canonical (tree : FileTree) : Prop where
  files : ∀ name ∈ tree.files.names, IsName name
  directories : ∀ name ∈ tree.directories, IsName name

theorem nameFrom?_eq_some_iff {place rest : List String} {name : String} (isName : IsName name)
    (areParts : ∀ part ∈ place ++ rest, Path.IsPart part) (inside : rest ≠ []) :
    nameFrom? place name = some (Path.join rest) ↔ name = Path.join (place ++ rest) := by
  constructor
  · intro isInner
    obtain ⟨more, _, isMore, moreParts, same⟩ := parts_of_nameFrom? isInner
    rw [Path.join_inj (List.forall_mem_append.mp areParts).2 moreParts same, ← isMore]
    exact isName.spelling
  · rintro rfl
    exact nameFrom?_of_parts (Path.parts_join areParts) inside

theorem find?_within (canonical : tree.Canonical) {place rest : List String}
    (areParts : ∀ part ∈ place ++ rest, Path.IsPart part) (inside : rest ≠ []) :
    (tree.within place).files.find? (Path.join rest) =
      tree.files.find? (Path.join (place ++ rest)) := by
  have areNames : ∀ entry ∈ tree.files.entries, IsName entry.1 :=
    fun entry membership => canonical.files _ (List.mem_map_of_mem membership)
  change List.lookup _ (tree.files.entries.filterMap _) = tree.files.entries.lookup _
  generalize tree.files.entries = entries at areNames
  induction entries with
  | nil => rfl
  | cons entry others inductionHypothesis =>
      obtain ⟨isName, otherNames⟩ := List.forall_mem_cons.mp areNames
      have found := nameFrom?_eq_some_iff isName areParts inside
      rw [List.filterMap_cons, List.lookup_cons]
      by_cases same : entry.1 = Path.join (place ++ rest)
      · rw [found.mpr same, same]
        simp
      · rw [beq_false_of_ne (Ne.symm same), ← inductionHypothesis otherNames]
        cases named : nameFrom? place entry.1 with
        | none => rfl
        | some inner =>
            have apart : Path.join rest ≠ inner := by
              rintro rfl
              exact same (found.mp named)
            simp [List.lookup_cons, beq_false_of_ne apart]

theorem isDirectory_within (canonical : tree.Canonical) {place rest : List String}
    (areParts : ∀ part ∈ place ++ rest, Path.IsPart part) (inside : rest ≠ []) :
    (tree.within place).isDirectory rest = tree.isDirectory (place ++ rest) := by
  have known : Path.join rest ∈ (tree.within place).directories ↔
      Path.join (place ++ rest) ∈ tree.directories := by
    refine List.mem_filterMap.trans ⟨?_, ?_⟩
    · rintro ⟨name, isDirectory, named⟩
      have isName := canonical.directories name isDirectory
      rwa [← (nameFrom?_eq_some_iff isName areParts inside).mp named]
    · intro isDirectory
      exact ⟨_, isDirectory, nameFrom?_of_parts (Path.parts_join areParts) inside⟩
  rw [Bool.eq_iff_iff]
  simp [isDirectory, inside, known]

/-- From the top a tree is seen as it is. -/
theorem within_nil (canonical : tree.Canonical) : tree.within [] = tree := by
  have named {name : String} (isName : IsName name) : nameFrom? [] name = some name := by
    rw [nameFrom?_of_parts (List.nil_append _).symm isName.nonempty, ← isName.spelling]
  have files : (tree.within []).files.entries = tree.files.entries := by
    refine (List.filterMap_congr ?_).trans List.filterMap_some
    intro entry isEntry
    rw [named (canonical.files _ (List.mem_map_of_mem isEntry))]
    rfl
  have directories : (tree.within []).directories = tree.directories := by
    refine (List.filterMap_congr ?_).trans List.filterMap_some
    intro name isDirectory
    exact named (canonical.directories name isDirectory)
  change FileTree.mk ⟨(tree.within []).files.entries⟩ (tree.within []).directories = tree
  rw [files, directories]

/-- What a file or directory is called in a directory, if it stands there. -/
def childName? (parent : List String) (found : String) : Option String :=
  if (Path.parts found).dropLast == parent then (Path.parts found).getLast? else none

theorem childName?_nameFrom? (place parent : List String) (found : String) :
    (nameFrom? place found).bind (childName? parent) = childName? (place ++ parent) found := by
  cases named : nameFrom? place found with
  | some inner =>
      obtain ⟨rest, inside, isRest, restParts, rfl⟩ := parts_of_nameFrom? named
      rw [Option.bind_some, childName?, childName?, isRest, Path.parts_join restParts,
        List.dropLast_append_of_ne_nil inside, List.getLast?_append]
      cases last : rest.getLast? with
      | none => exact absurd (List.getLast?_eq_none_iff.mp last) inside
      | some name => simp
  | none =>
      rw [Option.bind_none, childName?]
      cases last : (Path.parts found).getLast? with
      | none => simp
      | some name =>
          have isLast := List.dropLast_append_getLast? name last
          rw [if_neg]
          intro same
          rw [beq_iff_eq.mp same, List.append_assoc] at isLast
          rw [nameFrom?_of_parts isLast.symm (by simp)] at named
          cases named

theorem names_within (tree : FileTree) (place : List String) :
    (tree.within place).files.names = tree.files.names.filterMap (nameFrom? place) := by
  rw [within, Table.names, Table.names, List.map_filterMap, List.filterMap_map]
  congr 1
  funext entry
  simp [Function.comp_def]

theorem children_of_downward {path : String} (downward : Path.Downward path) :
    tree.children path =
      if Path.namesDirectory path && !tree.isDirectory (Path.parts path) then []
      else (((tree.files.names ++ tree.directories).filterMap
        (childName? (Path.parts path))).mergeSort fun a b => decide (a ≤ b)).eraseReps := by
  rw [children, resolve?_of_downward downward]
  by_cases missing : (Path.namesDirectory path && !tree.isDirectory (Path.parts path)) = true
  · rw [if_pos missing, if_pos missing]
  · rw [if_neg missing, if_neg missing]
    dsimp only
    rw [Path.parts_join (Path.isPart_parts path)]
    rfl

theorem mem_of_mem_eraseReps {names : List String} {name : String}
    (membership : name ∈ names.eraseReps) : name ∈ names := by
  have inLoop (rest : List String) : ∀ kept done,
      name ∈ List.eraseRepsBy.loop (· == ·) kept rest done → name ∈ kept :: rest ++ done := by
    induction rest with
    | nil =>
        intro kept done inside
        simpa [List.eraseRepsBy.loop, or_comm] using inside
    | cons next rest inductionHypothesis =>
        intro kept done inside
        rw [List.eraseRepsBy.loop] at inside
        split at inside
        all_goals
          have before := inductionHypothesis _ _ inside
          simp only [List.cons_append, List.mem_cons, List.mem_append] at before ⊢
          tauto
  cases names with
  | nil => cases membership
  | cons first rest => simpa using inLoop rest first [] membership

/-- A name in a directory is a part of a path, and does not lead up. -/
theorem isPart_of_mem_children (canonical : tree.Canonical) {path name : String}
    (downward : Path.Downward path) (isChild : name ∈ tree.children path) :
    Path.IsPart name ∧ Path.Downward name := by
  rw [children_of_downward downward] at isChild
  split at isChild
  · cases isChild
  · have sorted := List.mem_mergeSort.mp (mem_of_mem_eraseReps isChild)
    obtain ⟨found, isFound, isLast⟩ := List.mem_filterMap.mp sorted
    have isName : IsName found := by
      rcases List.mem_append.mp isFound with isFile | isDirectory
      · exact canonical.files found isFile
      · exact canonical.directories found isDirectory
    have isPart : name ∈ Path.parts found := by
      unfold childName? at isLast
      split at isLast
      · exact List.mem_of_getLast? isLast
      · cases isLast
    have notUp : name ≠ ".." := by
      rintro rfl
      exact isName.noUp isPart
    have itself := Path.isPart_parts found name isPart
    exact ⟨itself, .of_isPart itself notUp⟩

/-! Paths from above and from inside a directory. -/

/-- The place is a directory of a canonical tree. -/
structure HasRoot (tree : FileTree) (place : List String) : Prop where
  canonical : tree.Canonical
  isDirectory : tree.isDirectory place = true

/-- The outer path leads through the place to where the inner path leads from inside it. A slash
at the end of only one of them makes no difference at the place itself, which is a directory. -/
structure Corresponds (place : List String) (outer inner : String) : Prop where
  outerNonempty : outer ≠ ""
  innerNonempty : inner ≠ ""
  outerDownward : Path.Downward outer
  innerDownward : Path.Downward inner
  parts : Path.parts outer = place ++ Path.parts inner
  ending : Path.parts inner = [] ∨ Path.namesDirectory outer = Path.namesDirectory inner

namespace Corresponds

variable {place : List String} {outer inner : String}

theorem isDirectory_eq (same : Corresponds place outer inner) (root : tree.HasRoot place) :
    (tree.within place).isDirectory (Path.parts inner) = tree.isDirectory (Path.parts outer) := by
  rw [same.parts]
  by_cases here : Path.parts inner = []
  · rw [here, List.append_nil, root.isDirectory]
    rfl
  · exact isDirectory_within root.canonical (same.parts ▸ Path.isPart_parts outer) here

theorem missing_eq (same : Corresponds place outer inner) (root : tree.HasRoot place) :
    (Path.namesDirectory inner && !(tree.within place).isDirectory (Path.parts inner)) =
      (Path.namesDirectory outer && !tree.isDirectory (Path.parts outer)) := by
  rw [same.isDirectory_eq root]
  rcases same.ending with here | ending
  · have isPlace : tree.isDirectory (Path.parts outer) = true := by
      rw [same.parts, here, List.append_nil]
      exact root.isDirectory
    simp [isPlace]
  · rw [ending]

theorem hasDirectory_eq (same : Corresponds place outer inner) (root : tree.HasRoot place) :
    (tree.within place).hasDirectory inner = tree.hasDirectory outer := by
  rw [hasDirectory_of_downward same.innerDownward, hasDirectory_of_downward same.outerDownward,
    same.isDirectory_eq root]

theorem has_eq (same : Corresponds place outer inner) (root : tree.HasRoot place) :
    (tree.within place).has inner = tree.has outer := by
  rw [has, has, same.hasDirectory_eq root]
  by_cases here : Path.parts inner = []
  · have isPlace : tree.hasDirectory outer = true := by
      rw [hasDirectory_of_downward same.outerDownward, same.parts, here, List.append_nil]
      exact root.isDirectory
    rw [isPlace, Bool.or_true, Bool.or_true]
  · have areParts := Path.isPart_parts outer
    rw [same.parts] at areParts
    rw [file?_of_downward same.innerDownward, file?_of_downward same.outerDownward,
      same.missing_eq root, same.parts, find?_within root.canonical areParts here]

theorem children_eq (same : Corresponds place outer inner) (root : tree.HasRoot place) :
    (tree.within place).children inner = tree.children outer := by
  have pick : (fun found => (nameFrom? place found).bind (childName? (Path.parts inner))) =
      childName? (Path.parts outer) := by
    funext found
    rw [childName?_nameFrom?, same.parts]
  rw [children_of_downward same.innerDownward, children_of_downward same.outerDownward,
    same.missing_eq root, names_within, within, ← List.filterMap_append, List.filterMap_filterMap,
    pick]

end Corresponds

/-- A path inside a directory finds the file that it finds below the directory from above, as long
as the directory is not a file, too. -/
theorem file?_within {directory path : String} (root : tree.HasRoot (Path.parts directory))
    (down : Path.Downward directory) (inside : Path.Downward path)
    (noFile : tree.file? directory = none) :
    (tree.within (Path.parts directory)).file? (Path.normal path) =
      tree.file? (Path.below directory path) := by
  have isBelow : Path.parts (Path.normal directory ++ "/" ++ path) =
      Path.parts directory ++ Path.parts path := by
    rw [Path.parts_append, Path.parts_normal]
  rw [file?_normal inside, Path.below, file?_normal (down.below inside), isBelow]
  by_cases here : Path.parts path = []
  · have nothing : (tree.within (Path.parts directory)).files.find? (Path.join []) = none := by
      rw [Table.find?_eq_none_iff, names_within]
      intro isName
      obtain ⟨name, _, named⟩ := List.mem_filterMap.mp isName
      obtain ⟨rest, nonempty, _, restParts, empty⟩ := parts_of_nameFrom? named
      exact nonempty ((Path.join_eq_empty_iff restParts).mp empty.symm)
    have isRoot := root.isDirectory
    rw [file?_of_downward down, isRoot, Bool.not_true, Bool.and_false,
      if_neg Bool.false_ne_true] at noFile
    rw [here, nothing, List.append_nil, noFile]
  · have areParts := Path.isPart_parts (Path.normal directory ++ "/" ++ path)
    rw [isBelow] at areParts
    exact find?_within root.canonical areParts here

/-! Trees that are written file by file are canonical. -/

theorem isName_join {all : List String} (areParts : ∀ part ∈ all, Path.IsPart part)
    (nonempty : all ≠ []) (noUp : ".." ∉ all) : IsName (Path.join all) := by
  have isAll := Path.parts_join areParts
  constructor
  · rw [isAll]
  · rwa [isAll]
  · rwa [isAll]

theorem Canonical.write (canonical : tree.Canonical) {path : String} (downward : Path.Downward path)
    (nonempty : Path.parts path ≠ []) (content : Content) :
    (tree.write path content).Canonical := by
  have isTarget := target_of_not_mem downward.noUp tree
  have areParts := Path.isPart_parts path
  constructor
  · intro name isName
    rw [FileTree.write, files_addDirectories, Table.names_put] at isName
    have either : name ∈ tree.files.names ∨ name = tree.target path := by
      split at isName
      · exact .inl isName
      · simpa using isName
    rcases either with old | rfl
    · exact canonical.files name old
    · rw [isTarget]
      exact isName_join areParts nonempty downward.noUp
  · intro name isName
    unfold FileTree.write at isName
    dsimp only at isName
    rcases (mem_addDirectories _ _).mp isName with old | above
    · exact canonical.directories name old
    · obtain ⟨count, isCount, rfl⟩ := List.mem_map.mp above
      rw [isTarget, Path.parts_join areParts] at isCount ⊢
      have positive : count ≠ 0 := by
        obtain ⟨index, _, rfl⟩ := List.mem_iff_getElem.mp isCount
        simp
      have subset := List.take_subset count (Path.parts path)
      refine isName_join (fun part inTaken => areParts part (subset inTaken)) ?_
        (fun up => downward.noUp (subset up))
      simp [nonempty, positive]

theorem canonical_ofList {files : List (String × Content)}
    (downward : ∀ file ∈ files, Path.Downward file.1 ∧ Path.parts file.1 ≠ []) :
    (ofList files).Canonical := by
  unfold ofList
  have canonical : ({} : FileTree).Canonical := ⟨by simp [Table.names], by simp⟩
  generalize ({} : FileTree) = tree at canonical
  induction files generalizing tree with
  | nil => exact canonical
  | cons file rest inductionHypothesis =>
      obtain ⟨first, others⟩ := List.forall_mem_cons.mp downward
      exact inductionHypothesis others _ (canonical.write first.1 first.2 file.2)

end FileTree

end PlcLint
