import Mathlib.Data.List.TakeWhile
import PlcLint.Glob
import PlcLint.Proofs.FileTree.Within

/-!
A pattern finds the same paths below a root directory as it finds from inside that directory: all
that the search looks at, it looks at through paths that start with the root.
-/

namespace PlcLint

namespace Glob

open Path (parts Downward)

/-! Paths that are put together and taken apart. -/

/-- Where a path ends in a slash, no second one is put behind it. -/
theorem join_eq (directory name : String) :
    directory = "" ∧ join directory name = name ∨
      ∃ lead, (directory = lead ∨ directory = lead ++ "/") ∧
        join directory name = lead ++ "/" ++ name := by
  unfold join
  split
  · rename_i empty
    exact .inl ⟨empty, rfl⟩
  · split
    · rename_i slash
      obtain ⟨lead, chars⟩ := List.getLast?_eq_some_iff.mp (beq_iff_eq.mp slash)
      have isLead : directory = String.ofList lead ++ "/" := by
        rw [← String.toList_inj, chars]
        simp
      exact .inr ⟨String.ofList lead, .inr isLead, by rw [← isLead]⟩
    · exact .inr ⟨directory, .inl rfl, rfl⟩

theorem parts_join (directory name : String) :
    parts (join directory name) = parts directory ++ parts name := by
  rcases join_eq directory name with ⟨rfl, isName⟩ | ⟨lead, isLead, joined⟩
  · rw [isName]
    rfl
  · have same : parts directory = parts lead := by
      rcases isLead with rfl | rfl
      · rfl
      · have behind := Path.parts_append lead ""
        rwa [String.append_empty, Path.parts_empty, List.append_nil] at behind
    rw [joined, Path.parts_append, same]

theorem namesDirectory_join (directory name : String) :
    Path.namesDirectory (join directory name) = Path.namesDirectory name := by
  rcases join_eq directory name with ⟨rfl, isName⟩ | ⟨lead, _, joined⟩
  · rw [isName]
  · have nonempty : Path.pieces name ≠ [] := by
      simp [Path.pieces]
    rw [joined, Path.namesDirectory, Path.namesDirectory, Path.pieces_append,
      List.getLast?_append, List.getLast?_eq_some_getLast nonempty, Option.some_or]

theorem isAbsolute_join {directory : String} (nonempty : directory ≠ "") (name : String) :
    Path.isAbsolute (join directory name) = Path.isAbsolute directory := by
  unfold join
  rw [if_neg nonempty]
  split
  · exact Path.isAbsolute_append nonempty name
  · rw [String.append_assoc, Path.isAbsolute_append nonempty]

theorem join_ne_empty {directory : String} (nonempty : directory ≠ "") (name : String) :
    join directory name ≠ "" := by
  unfold join
  rw [if_neg nonempty]
  split <;> simp [nonempty]

theorem downward_join {directory name : String} (first : Downward directory)
    (second : Downward name) : Downward (join directory name) := by
  constructor
  · by_cases empty : directory = ""
    · rw [join, if_pos empty]
      exact second.relative
    · rw [isAbsolute_join empty]
      exact first.relative
  · rw [parts_join, List.mem_append, not_or]
    exact ⟨first.noUp, second.noUp⟩

theorem parts_place (directory name : String) :
    parts (place directory name) = parts directory ++ parts name := by
  unfold place
  split
  · rename_i empty
    rw [empty, Path.parts_empty, List.append_nil]
  · exact parts_join directory name

theorem downward_place {directory name : String} (nonempty : directory ≠ "")
    (downward : Downward directory) (noUp : ".." ∉ parts name) :
    Downward (place directory name) := by
  constructor
  · unfold place
    split
    · exact downward.relative
    · rw [isAbsolute_join nonempty]
      exact downward.relative
  · rw [parts_place, List.mem_append, not_or]
    exact ⟨downward.noUp, noUp⟩

theorem place_ne_empty {directory : String} (nonempty : directory ≠ "") (name : String) :
    place directory name ≠ "" := by
  unfold place
  split
  · exact nonempty
  · exact join_ne_empty nonempty name

theorem parts_slashes {slashes : List Char} (areSlashes : ∀ c ∈ slashes, c = '/')
    (nonempty : slashes ≠ []) (before after : List Char) :
    parts (String.ofList (before ++ slashes ++ after)) =
      parts (String.ofList before) ++ parts (String.ofList after) := by
  induction slashes generalizing before with
  | nil => exact absurd rfl nonempty
  | cons c rest inductionHypothesis =>
      obtain ⟨rfl, others⟩ := List.forall_mem_cons.mp areSlashes
      have first (behind : List Char) : parts (String.ofList (before ++ '/' :: behind)) =
          parts (String.ofList before) ++ parts (String.ofList behind) := by
        rw [← Path.parts_append]
        congr 1
        rw [← String.toList_inj]
        simp
      rw [List.append_assoc, List.cons_append, first]
      by_cases single : rest = []
      · rw [single, List.nil_append]
      · have later := inductionHypothesis others single []
        rw [List.nil_append] at later
        rw [later]
        rfl

theorem slash_not_mem_split (path : String) : '/' ∉ (split path).2.toList := by
  rw [split, String.toList_ofList, List.mem_reverse]
  intro inside
  simpa using List.mem_takeWhile_imp inside

/-- A path is cut at its last slashes, which are left out unless nothing stands before them. -/
theorem split_cases (path : String) :
    split path = ("", path) ∨
      ∃ slashes ≠ [], (∀ c ∈ slashes, c = '/') ∧
        (path.toList = (split path).1.toList ++ slashes ++ (split path).2.toList ∨
          (split path).1.toList = slashes ∧ path.toList = slashes ++ (split path).2.toList) := by
  unfold split
  dsimp only
  generalize isBase : (path.toList.reverse.takeWhile (· != '/')).reverse = base
  generalize isLead : path.toList.reverse.dropWhile (· != '/') = lead
  have whole : path.toList = lead.reverse ++ base := by
    rw [← isBase, ← isLead, ← List.reverse_append, List.takeWhile_append_dropWhile,
      List.reverse_reverse]
  cases lead with
  | nil =>
      refine .inl ?_
      rw [List.reverse_nil, List.nil_append] at whole
      rw [← whole, String.ofList_toList]
      rfl
  | cons c rest =>
      have isSlash : c = '/' := by
        have stops := List.head?_dropWhile_not (· != '/') path.toList.reverse
        rw [isLead] at stops
        simpa using stops
      subst isSlash
      have joined : ('/' :: rest).reverse = (('/' :: rest).dropWhile (· = '/')).reverse ++
          (('/' :: rest).takeWhile (· = '/')).reverse := by
        rw [← List.reverse_append, List.takeWhile_append_dropWhile]
      refine .inr ⟨(('/' :: rest).takeWhile (· = '/')).reverse, by simp, ?_, ?_⟩
      · intro c inside
        simpa using List.mem_takeWhile_imp (List.mem_reverse.mp inside)
      · simp only [String.toList_ofList]
        split
        · rename_i nothing
          rw [List.isEmpty_iff.mp nothing, List.reverse_nil, List.nil_append] at joined
          exact .inr ⟨joined, by rw [whole, joined]⟩
        · exact .inl (by rw [whole, joined])

theorem parts_split (path : String) :
    parts path = parts (split path).1 ++ parts (split path).2 := by
  rcases split_cases path with isSplit | ⟨slashes, nonempty, areSlashes, isPath | ⟨isLead, isPath⟩⟩
  · rw [isSplit]
    rfl
  · have cut := parts_slashes areSlashes nonempty (split path).1.toList (split path).2.toList
    rwa [← isPath, String.ofList_toList, String.ofList_toList, String.ofList_toList] at cut
  · have cut := parts_slashes areSlashes nonempty [] (split path).2.toList
    have isRoot := parts_slashes areSlashes nonempty [] []
    rw [List.nil_append, ← isPath, String.ofList_toList, String.ofList_toList] at cut
    rw [List.append_nil, List.nil_append, ← isLead, String.ofList_toList] at isRoot
    rw [cut, isRoot]
    rfl

theorem downward_split {path : String} (downward : Downward path) :
    Downward (split path).1 ∧ Downward (split path).2 := by
  have noUp := downward.noUp
  rw [parts_split, List.mem_append, not_or] at noUp
  have relative := downward.relative
  refine ⟨⟨?_, noUp.1⟩, ⟨?_, noUp.2⟩⟩
  · rcases split_cases path with isSplit | ⟨slashes, nonempty, areSlashes, isPath | ⟨isLead, isPath⟩⟩
    · rw [isSplit]
      rfl
    · by_cases empty : (split path).1 = ""
      · rw [empty]
        rfl
      · have chars : (split path).1.toList ≠ [] := fun none => empty (String.toList_inj.mp none)
        rwa [Path.isAbsolute, isPath, List.append_assoc, List.head?_append_of_ne_nil _ chars]
          at relative
    · obtain ⟨c, rest, rfl⟩ := List.exists_cons_of_ne_nil nonempty
      rw [Path.isAbsolute, isPath, areSlashes c List.mem_cons_self] at relative
      cases relative
  · cases first : (split path).2.toList.head? with
    | none => simp [Path.isAbsolute, first]
    | some c =>
        have apart : c ≠ '/' := by
          rintro rfl
          exact slash_not_mem_split path (List.mem_of_head? first)
        simp [Path.isAbsolute, first, apart]

/-! What is found lies below the directory in which the search begins. -/

variable {tree : FileTree}

theorem isPart_of_mem_namesIn (canonical : tree.Canonical) {directory name : String}
    (downward : Downward directory) {directoriesOnly : Bool}
    (isName : name ∈ namesIn tree directory directoriesOnly) :
    Path.IsPart name ∧ Downward name := by
  unfold namesIn at isName
  split at isName
  · exact FileTree.isPart_of_mem_children canonical downward (List.mem_of_mem_filter isName)
  · cases isName

theorem downward_descendants (canonical : tree.Canonical) {directory found : String}
    (nonempty : directory ≠ "") (downward : Downward directory) {directoriesOnly : Bool}
    {depth : Nat} (isFound : found ∈ descendants tree directoriesOnly depth directory) :
    Downward found := by
  induction depth generalizing directory found with
  | zero => cases isFound
  | succ depth inductionHypothesis =>
      obtain ⟨name, isName, either⟩ := List.mem_flatMap.mp isFound
      obtain ⟨isPart, isDown⟩ :=
        isPart_of_mem_namesIn canonical downward (List.mem_of_mem_filter isName)
      rcases List.mem_cons.mp either with rfl | deeper
      · exact isDown
      · obtain ⟨rest, isRest, rfl⟩ := List.mem_map.mp deeper
        have restDown := inductionHypothesis (place_ne_empty nonempty name)
          (downward_place nonempty downward isDown.noUp) isRest
        exact downward_place isPart.nonempty isDown restDown.noUp

theorem downward_lastPart (canonical : tree.Canonical) {directory pattern found : String}
    (nonempty : directory ≠ "") (downward : Downward directory) (isPattern : Downward pattern)
    {directoriesOnly : Bool} (isFound : found ∈ lastPart tree directory pattern directoriesOnly) :
    Downward found := by
  unfold lastPart at isFound
  split at isFound
  · rcases List.mem_cons.mp isFound with rfl | below
    · exact ⟨rfl, by decide⟩
    · exact downward_descendants canonical nonempty downward below
  split at isFound
  · exact (isPart_of_mem_namesIn canonical downward (List.mem_of_mem_filter isFound)).2
  · have isLiteral := (List.mem_ite_nil_right.mp isFound).2
    rwa [List.mem_singleton.mp isLiteral]

/-- The directories in which the last part of a pattern is looked for. -/
def directoriesFor (tree : FileTree) (top : String) (fuel : Nat) (pattern : String) :
    List String :=
  if Text.Wildcard.isPattern (split pattern).1 && (split pattern).1 != pattern then
    expandFrom tree top fuel true (split pattern).1
  else [(split pattern).1]

theorem expandFrom_succ (top : String) (fuel : Nat) (directoriesOnly : Bool) (pattern : String) :
    expandFrom tree top (fuel + 1) directoriesOnly pattern =
      if !Text.Wildcard.isPattern pattern then
        if (if (split pattern).2 = "" then tree.hasDirectory (place top (split pattern).1)
          else tree.has (place top pattern)) then [pattern] else []
      else if (split pattern).1 = "" then lastPart tree top (split pattern).2 directoriesOnly
      else (directoriesFor tree top fuel pattern).flatMap fun directory =>
        (lastPart tree (place top directory) (split pattern).2 directoriesOnly).map
          (join directory) := rfl

theorem downward_expandFrom (canonical : tree.Canonical) {top : String} (nonempty : top ≠ "")
    (downward : Downward top) {fuel : Nat} {directoriesOnly : Bool} {pattern found : String}
    (isPattern : Downward pattern)
    (isFound : found ∈ expandFrom tree top fuel directoriesOnly pattern) : Downward found := by
  induction fuel generalizing directoriesOnly pattern found with
  | zero => cases isFound
  | succ fuel inductionHypothesis =>
      obtain ⟨aboveDown, baseDown⟩ := downward_split isPattern
      rw [expandFrom_succ] at isFound
      by_cases isLiteral : (!Text.Wildcard.isPattern pattern) = true
      · rw [if_pos isLiteral, List.mem_ite_nil_right, List.mem_singleton] at isFound
        rw [isFound.2]
        exact isPattern
      by_cases atTop : (split pattern).1 = ""
      · rw [if_neg isLiteral, if_pos atTop] at isFound
        exact downward_lastPart canonical nonempty downward baseDown isFound
      · rw [if_neg isLiteral, if_neg atTop] at isFound
        obtain ⟨directory, isDirectory, below⟩ := List.mem_flatMap.mp isFound
        obtain ⟨rest, isRest, rfl⟩ := List.mem_map.mp below
        have directoryDown : Downward directory := by
          unfold directoriesFor at isDirectory
          split at isDirectory
          · exact inductionHypothesis aboveDown isDirectory
          · rw [List.mem_singleton.mp isDirectory]
            exact aboveDown
        have restDown := downward_lastPart canonical (place_ne_empty nonempty directory)
          (downward_place nonempty downward directoryDown.noUp) baseDown isRest
        exact downward_join directoryDown restDown

theorem downward_directoriesFor (canonical : tree.Canonical) {top : String}
    (nonempty : top ≠ "") (downward : Downward top) {fuel : Nat} {pattern directory : String}
    (isPattern : Downward pattern)
    (isDirectory : directory ∈ directoriesFor tree top fuel pattern) : Downward directory := by
  unfold directoriesFor at isDirectory
  split at isDirectory
  · exact downward_expandFrom canonical nonempty downward (downward_split isPattern).1 isDirectory
  · rw [List.mem_singleton.mp isDirectory]
    exact (downward_split isPattern).1

/-! How deep the search goes. -/

theorem descendants_of_missing {directory : String} (missing : tree.hasDirectory directory = false)
    (directoriesOnly : Bool) (depth : Nat) :
    descendants tree directoriesOnly depth directory = [] := by
  cases depth with
  | zero => rfl
  | succ depth => simp [descendants, namesIn, missing]

/-- A directory holds fewer directories than the one in which it stands. -/
theorem length_directories_within_lt {parent : List String} {name : String}
    (areParts : ∀ part ∈ parent ++ [name], Path.IsPart part)
    (isDirectory : tree.isDirectory (parent ++ [name]) = true) :
    (tree.within (parent ++ [name])).directories.length <
      (tree.within parent).directories.length := by
  have inside (found : String) (deeper : (FileTree.nameFrom? (parent ++ [name]) found).isSome) :
      (FileTree.nameFrom? parent found).isSome = true := by
    obtain ⟨inner, isInner⟩ := Option.isSome_iff_exists.mp deeper
    obtain ⟨rest, _, isRest, _⟩ := FileTree.parts_of_nameFrom? isInner
    rw [List.append_assoc] at isRest
    rw [FileTree.nameFrom?_of_parts isRest (by simp)]
    rfl
  -- The directory itself counts in the one in which it stands, but not inside itself.
  have isAll := Path.parts_join areParts
  have itself : (FileTree.nameFrom? parent (Path.join (parent ++ [name]))).isSome = true := by
    rw [FileTree.nameFrom?_of_parts isAll (by simp)]
    rfl
  have notDeeper :
      FileTree.nameFrom? (parent ++ [name]) (Path.join (parent ++ [name])) = none := by
    rw [Option.eq_none_iff_forall_ne_some]
    intro inner isInner
    obtain ⟨rest, nonempty, isRest, _⟩ := FileTree.parts_of_nameFrom? isInner
    rw [isAll] at isRest
    exact nonempty (List.self_eq_append_right.mp isRest)
  have known : Path.join (parent ++ [name]) ∈ tree.directories := by
    simpa [FileTree.isDirectory] using isDirectory
  obtain ⟨before, after, split⟩ := List.append_of_mem known
  have least (all : List String) := List.countP_mono_left (l := all) fun found _ => inside found
  rw [FileTree.within, FileTree.within, List.length_filterMap_eq_countP,
    List.length_filterMap_eq_countP, split, List.countP_append, List.countP_append,
    List.countP_cons, List.countP_cons, itself, notDeeper]
  have first := least before
  have second := least after
  simp only [if_true, Option.isSome_none, Bool.false_eq_true, if_false]
  omega

theorem length_directories_place_lt {directory name : String} (isPart : Path.IsPart name)
    (downward : Downward (place directory name))
    (isDirectory : tree.hasDirectory (place directory name) = true) :
    (tree.within (parts (place directory name))).directories.length <
      (tree.within (parts directory)).directories.length := by
  have isPlace : parts (place directory name) = parts directory ++ [name] := by
    rw [parts_place, Path.parts_of_isPart isPart]
  rw [FileTree.hasDirectory_of_downward downward, isPlace] at isDirectory
  have areParts := Path.isPart_parts (place directory name)
  rw [isPlace] at areParts ⊢
  exact length_directories_within_lt areParts isDirectory

theorem length_directories_within_le (place : List String) :
    (tree.within place).directories.length ≤ tree.directories.length :=
  List.length_filterMap_le _ _

/-! The search from inside a directory. -/

variable {above : List String} {outer inner : String}

theorem corresponds_place {name : String} (same : FileTree.Corresponds above outer inner)
    (noUp : ".." ∉ parts name) :
    FileTree.Corresponds above (place outer name) (place inner name) where
  outerNonempty := place_ne_empty same.outerNonempty name
  innerNonempty := place_ne_empty same.innerNonempty name
  outerDownward := downward_place same.outerNonempty same.outerDownward noUp
  innerDownward := downward_place same.innerNonempty same.innerDownward noUp
  parts := by rw [parts_place, parts_place, same.parts, List.append_assoc]
  ending := by
    unfold place
    split
    · exact same.ending
    · exact .inr (by rw [namesDirectory_join, namesDirectory_join])

variable (root : tree.HasRoot above) (same : FileTree.Corresponds above outer inner)
include root same

theorem namesIn_within (directoriesOnly : Bool) :
    namesIn (tree.within above) inner directoriesOnly = namesIn tree outer directoriesOnly := by
  rw [namesIn, namesIn, same.hasDirectory_eq root, same.children_eq root]
  split
  · apply List.filter_congr
    intro name isChild
    obtain ⟨_, isDown⟩ :=
      FileTree.isPart_of_mem_children root.canonical same.outerDownward isChild
    rw [(corresponds_place same isDown.noUp).hasDirectory_eq root]
  · rfl

theorem matching_within (pattern : String) (directoriesOnly : Bool) :
    matching (tree.within above) inner pattern directoriesOnly =
      matching tree outer pattern directoriesOnly := by
  rw [matching, matching, namesIn_within root same]

theorem literal_within {name : String} (noUp : ".." ∉ parts name) :
    literal (tree.within above) inner name = literal tree outer name := by
  rw [literal, literal, same.hasDirectory_eq root, (corresponds_place same noUp).has_eq root]

/-- The search goes down in the same steps. Bounds on its depth do not matter once they are
greater than the number of directories that it can meet. -/
theorem descendants_within (directoriesOnly : Bool) {outerDepth innerDepth : Nat}
    (outerDeep : (tree.within (parts outer)).directories.length < outerDepth)
    (innerDeep : ((tree.within above).within (parts inner)).directories.length < innerDepth) :
    descendants (tree.within above) directoriesOnly innerDepth inner =
      descendants tree directoriesOnly outerDepth outer := by
  induction outerDepth generalizing innerDepth outer inner with
  | zero => omega
  | succ outerDepth inductionHypothesis =>
      cases innerDepth with
      | zero => omega
      | succ innerDepth =>
          rw [descendants, descendants, namesIn_within root same]
          apply List.flatMap_congr
          intro name isName
          obtain ⟨isPart, isDown⟩ := isPart_of_mem_namesIn root.canonical same.outerDownward
            (List.mem_of_mem_filter isName)
          have child := corresponds_place same isDown.noUp
          cases isDirectory : tree.hasDirectory (place outer name) with
          | false =>
              rw [descendants_of_missing isDirectory, descendants_of_missing]
              rw [child.hasDirectory_eq root]
              exact isDirectory
          | true =>
              have fewer := length_directories_place_lt isPart child.outerDownward isDirectory
              have fewerInside := length_directories_place_lt isPart child.innerDownward
                ((child.hasDirectory_eq root).trans isDirectory)
              rw [inductionHypothesis child (by omega) (by omega)]

theorem recursive_within (directoriesOnly : Bool) :
    recursive (tree.within above) inner directoriesOnly =
      recursive tree outer directoriesOnly := by
  rw [recursive, recursive, descendants_within root same]
  · exact Nat.lt_succ_of_le (length_directories_within_le _)
  · exact Nat.lt_succ_of_le (length_directories_within_le _)

theorem lastPart_within {pattern : String} (noUp : ".." ∉ parts pattern) (directoriesOnly : Bool) :
    lastPart (tree.within above) inner pattern directoriesOnly =
      lastPart tree outer pattern directoriesOnly := by
  rw [lastPart, lastPart, recursive_within root same, matching_within root same,
    literal_within root same noUp]

theorem expandFrom_within {fuel : Nat} {directoriesOnly : Bool} {pattern : String}
    (isPattern : Downward pattern) :
    expandFrom (tree.within above) inner fuel directoriesOnly pattern =
      expandFrom tree outer fuel directoriesOnly pattern := by
  induction fuel generalizing directoriesOnly pattern with
  | zero => rfl
  | succ fuel inductionHypothesis =>
      obtain ⟨aboveDown, baseDown⟩ := downward_split isPattern
      have sameDirectories : directoriesFor (tree.within above) inner fuel pattern =
          directoriesFor tree outer fuel pattern := by
        rw [directoriesFor, directoriesFor, inductionHypothesis aboveDown]
      have sameLast : (directoriesFor tree outer fuel pattern).flatMap (fun directory =>
            (lastPart (tree.within above) (place inner directory) (split pattern).2
              directoriesOnly).map (join directory)) =
          (directoriesFor tree outer fuel pattern).flatMap fun directory =>
            (lastPart tree (place outer directory) (split pattern).2 directoriesOnly).map
              (join directory) := by
        apply List.flatMap_congr
        intro directory isDirectory
        have directoryDown := downward_directoriesFor root.canonical same.outerNonempty
          same.outerDownward isPattern isDirectory
        rw [lastPart_within root (corresponds_place same directoryDown.noUp) baseDown.noUp]
      rw [expandFrom_succ, expandFrom_succ, lastPart_within root same baseDown.noUp,
        sameDirectories, sameLast, (corresponds_place same aboveDown.noUp).hasDirectory_eq root,
        (corresponds_place same isPattern.noUp).has_eq root]

end Glob

namespace FileTree

variable {tree : FileTree}

theorem glob_within {above : List String} {outer inner pattern : String}
    (root : tree.HasRoot above) (same : Corresponds above outer inner)
    (isPattern : Path.Downward pattern) :
    (tree.within above).glob inner pattern = tree.glob outer pattern := by
  rw [glob, glob, Glob.expandFrom_within root same isPattern]

theorem downward_glob (canonical : tree.Canonical) {top pattern found : String}
    (nonempty : top ≠ "") (downward : Path.Downward top) (isPattern : Path.Downward pattern)
    (isFound : found ∈ tree.glob top pattern) : Path.Downward found := by
  have expanded : found ∈ Glob.expandFrom tree top (pattern.length + 1) false pattern := by
    unfold glob at isFound
    dsimp only at isFound
    split at isFound
    · split at isFound
      · rename_i isEmpty
        rw [isEmpty]
        exact List.mem_cons_of_mem _ isFound
      · exact isFound
    · exact isFound
  exact Glob.downward_expandFrom canonical nonempty downward isPattern expanded

end FileTree

end PlcLint
