import PlcLint.Proofs.Suppression
import PlcLint.TypeName

/-!
The texts of array types. They are described by how they are put together of their parts, and the
reader of such texts finds exactly these parts: the bounds in the brackets, of which it counts the
commas, and the type of the elements.
-/

namespace PlcLint.TypeName

/-- The element stands on one line, after blanks and before lines of blanks. -/
inductive ElementText (element : List Char) : List Char → Prop where
  | parts {space tail : List Char} (spaceBlank : ∀ c ∈ space, Text.isBlank c = true)
      (spaced : space ≠ []) (starts : ∀ c ∈ element.head?, Text.isBlank c = false)
      (oneLine : '\n' ∉ element) (tailBlank : ∀ c ∈ tail, Text.isBlank c = true)
      (breaks : ∀ c ∈ tail.head?, c = '\n') : ElementText element (space ++ (element ++ tail))

/-- The text is `ARRAY [bounds] OF element`, with or without blanks before the brackets and between
them and `OF`. -/
inductive ArrayText (bounds element : List Char) : List Char → Prop where
  | parts {lead gap rest : List Char} (leadBlank : ∀ c ∈ lead, Text.isBlank c = true)
      (closed : ']' ∉ bounds) (gapBlank : ∀ c ∈ gap, Text.isBlank c = true)
      (behind : ElementText element rest) :
      ArrayText bounds element ("ARRAY".toList ++ (lead ++ ("[".toList ++ (bounds ++ ("]".toList ++
        (gap ++ ("OF".toList ++ rest)))))))

theorem after?_eq_some_iff {lead : String} {text rest : List Char} :
    after? lead text = some rest ↔ text = lead.toList ++ rest := by
  rw [after?, ← String.length_toList]
  constructor
  · intro found
    split at found
    · rename_i leads
      obtain ⟨behind, rfl⟩ := List.isPrefixOf_iff_prefix.mp leads
      rw [List.drop_left] at found
      rw [Option.some.inj found]
    · cases found
  · rintro rfl
    rw [if_pos (List.isPrefixOf_iff_prefix.mpr (List.prefix_append _ _)), List.drop_left]

section

variable {rest element : List Char}

theorem elementText_of_spaced (spaced : (rest.dropWhile Text.isBlank).length < rest.length)
    (tailBlank : ((rest.dropWhile Text.isBlank).dropWhile (· != '\n')).all Text.isBlank = true) :
    ElementText ((rest.dropWhile Text.isBlank).takeWhile (· != '\n')) rest := by
  have isSpaced : rest.takeWhile Text.isBlank ≠ [] := by
    intro empty
    have whole := List.takeWhile_append_dropWhile (p := Text.isBlank) (l := rest)
    rw [empty, List.nil_append] at whole
    rw [whole] at spaced
    exact absurd spaced (Nat.lt_irrefl _)
  have starts : ∀ c ∈ ((rest.dropWhile Text.isBlank).takeWhile (· != '\n')).head?,
      Text.isBlank c = false := by
    intro c isHead
    obtain ⟨others, isElement⟩ := List.head?_eq_some_iff.mp isHead
    have isFirst : c ∈ (rest.dropWhile Text.isBlank).head? := by
      rw [← List.takeWhile_append_dropWhile (p := (· != '\n')) (l := rest.dropWhile Text.isBlank),
        isElement]
      rfl
    exact head?_dropWhile c isFirst
  have text := ElementText.parts (fun c => List.mem_takeWhile_imp) isSpaced starts
    (fun inside => by simpa using List.mem_takeWhile_imp inside) (List.all_eq_true.mp tailBlank)
    (fun c isHead => by simpa using head?_dropWhile c isHead)
  rwa [List.takeWhile_append_dropWhile, List.takeWhile_append_dropWhile] at text

theorem ElementText.spaced (text : ElementText element rest) :
    (rest.dropWhile Text.isBlank).length < rest.length ∧
      ((rest.dropWhile Text.isBlank).dropWhile (· != '\n')).all Text.isBlank = true ∧
      (rest.dropWhile Text.isBlank).takeWhile (· != '\n') = element := by
  obtain ⟨spaceBlank, spaced, starts, oneLine, tailBlank, breaks⟩ := text
  rename_i space tail
  have positive : 0 < space.length := List.length_pos_iff.mpr spaced
  cases element with
  | nil =>
      -- All that follows is blank and counts as the space in front of the element.
      have allBlank : (space ++ ([] ++ tail)).dropWhile Text.isBlank = [] := by
        refine List.dropWhile_eq_nil_iff.mpr fun c inside => ?_
        exact (List.mem_append.mp inside).elim (spaceBlank c) (tailBlank c)
      rw [allBlank]
      exact ⟨by simp; omega, rfl, rfl⟩
  | cons first others =>
      have inElement : ∀ c ∈ first :: others, (c != '\n') = true := fun c inside =>
        bne_iff_ne.mpr fun isBreak => oneLine (isBreak ▸ inside)
      have atBreak : ∀ c ∈ tail.head?, (c != '\n') = false := fun c isHead => by
        rw [breaks c isHead]
        rfl
      have untilElement : (space ++ (first :: others ++ tail)).dropWhile Text.isBlank
          = first :: others ++ tail := dropWhile_run spaceBlank starts
      rw [untilElement, dropWhile_run inElement atBreak, takeWhile_run inElement atBreak]
      exact ⟨by simp; omega, List.all_eq_true.mpr tailBlank, rfl⟩

end

section

variable {typeName : String} {bounds : List Char} {element : String}

theorem arrayText_of_arrayParts? (found : arrayParts? typeName = some (bounds, element)) :
    ArrayText bounds element.toList typeName.toList := by
  simp only [arrayParts?, Option.bind_eq_bind, Option.bind_eq_some_iff, after?_eq_some_iff,
    Option.ite_none_right_eq_some, Option.some.injEq, Prod.mk.injEq] at found
  obtain ⟨behindArray, isText, behindOpen, isOpen, behindClose, isClose, behindOf, isOf,
    ⟨spaced, tailBlank⟩, rfl, rfl⟩ := found
  have closed : ']' ∉ behindOpen.takeWhile (· != ']') := fun inside => by
    simpa using List.mem_takeWhile_imp inside
  have leadBlank : ∀ c ∈ behindArray.takeWhile Text.isBlank, Text.isBlank c = true :=
    fun c => List.mem_takeWhile_imp
  have gapBlank : ∀ c ∈ behindClose.takeWhile Text.isBlank, Text.isBlank c = true :=
    fun c => List.mem_takeWhile_imp
  have text := ArrayText.parts leadBlank closed gapBlank (elementText_of_spaced spaced tailBlank)
  rw [← isOf, List.takeWhile_append_dropWhile, ← isClose, List.takeWhile_append_dropWhile,
    ← isOpen, List.takeWhile_append_dropWhile, ← isText] at text
  rwa [String.toList_ofList]

theorem arrayParts?_of_arrayText (text : ArrayText bounds element.toList typeName.toList) :
    arrayParts? typeName = some (bounds, element) := by
  generalize isText : typeName.toList = whole at text
  obtain ⟨leadBlank, closed, gapBlank, behind⟩ := text
  rename_i lead gap rest
  obtain ⟨spaced, tailBlank, isElement⟩ := behind.spaced
  have inBounds : ∀ c ∈ bounds, (c != ']') = true := fun c inside =>
    bne_iff_ne.mpr fun isClose => closed (isClose ▸ inside)
  simp only [arrayParts?, Option.bind_eq_bind, Option.bind_eq_some_iff, after?_eq_some_iff,
    Option.ite_none_right_eq_some, Option.some.injEq, Prod.mk.injEq]
  refine ⟨_, isText, _, dropWhile_run leadBlank ?_, _, dropWhile_run inBounds ?_, _,
    dropWhile_run gapBlank ?_, ⟨spaced, tailBlank⟩, takeWhile_run inBounds ?_,
    isElement ▸ String.ofList_toList⟩
  all_goals
    intro c isHead
    cases isHead
    decide

end

/-! Bounds as ranges with commas between them. -/

theorem count_commas_intercalate {ranges : List (List Char)} (someRange : ranges ≠ [])
    (separate : ∀ range ∈ ranges, ',' ∉ range) :
    ([','].intercalate ranges).count ',' + 1 = ranges.length := by
  induction ranges with
  | nil => exact absurd rfl someRange
  | cons range rest inductionHypothesis =>
      obtain ⟨notFirst, notLater⟩ := List.forall_mem_cons.mp separate
      have noComma : range.count ',' = 0 := List.count_eq_zero.mpr notFirst
      cases rest with
      | nil => rw [List.intercalate_singleton, noComma]; rfl
      | cons next others =>
          have later := inductionHypothesis (List.cons_ne_nil _ _) notLater
          rw [List.intercalate_cons_cons, List.count_append, List.count_append, noComma,
            List.count_singleton_self, List.length_cons, ← later]
          omega

theorem not_mem_intercalate {ranges : List (List Char)} {c : Char} (notComma : c ≠ ',')
    (absent : ∀ range ∈ ranges, c ∉ range) : c ∉ [','].intercalate ranges := by
  induction ranges with
  | nil => exact List.not_mem_nil
  | cons range rest inductionHypothesis =>
      obtain ⟨notFirst, notLater⟩ := List.forall_mem_cons.mp absent
      cases rest with
      | nil => rwa [List.intercalate_singleton]
      | cons next others =>
          rw [List.intercalate_cons_cons]
          simp [notComma, notFirst, inductionHypothesis notLater]

theorem exists_ranges (bounds : List Char) :
    ∃ ranges, ranges ≠ [] ∧ (∀ range ∈ ranges, ',' ∉ range) ∧
      [','].intercalate ranges = bounds := by
  induction bounds with
  | nil => exact ⟨[[]], List.cons_ne_nil _ _, by simp, rfl⟩
  | cons c bounds inductionHypothesis =>
      obtain ⟨ranges, someRange, separate, rfl⟩ := inductionHypothesis
      obtain ⟨range, rest, rfl⟩ := List.exists_cons_of_ne_nil someRange
      by_cases isComma : c = ','
      · refine ⟨[] :: range :: rest, List.cons_ne_nil _ _, ?_, ?_⟩
        · exact List.forall_mem_cons.mpr ⟨List.not_mem_nil, separate⟩
        · rw [List.intercalate_cons_cons, isComma]
          rfl
      · obtain ⟨noComma, others⟩ := List.forall_mem_cons.mp separate
        refine ⟨(c :: range) :: rest, List.cons_ne_nil _ _, ?_, ?_⟩
        · refine List.forall_mem_cons.mpr ⟨fun inside => ?_, others⟩
          exact (List.mem_cons.mp inside).elim (fun same => isComma same.symm) noComma
        · cases rest <;> rfl

/-- The type of arrays with these ranges and elements. -/
structure ArrayOf (ranges : List String) (element typeName : String) : Prop where
  someRange : ranges ≠ []
  separate : ∀ range ∈ ranges, ',' ∉ range.toList
  text : ArrayText (",".intercalate ranges).toList element.toList typeName.toList

section

variable {ranges : List String} {element typeName : String}

theorem arrayOf_written (someRange : ranges ≠ []) (separate : ∀ range ∈ ranges, ',' ∉ range.toList)
    (closed : ∀ range ∈ ranges, ']' ∉ range.toList)
    (starts : element.toList.head?.any Text.isBlank = false) (oneLine : '\n' ∉ element.toList) :
    ArrayOf ranges element ("ARRAY [" ++ ",".intercalate ranges ++ "] OF " ++ element) := by
  have noClose : ']' ∉ (",".intercalate ranges).toList := by
    rw [String.toList_intercalate]
    exact not_mem_intercalate (by decide) (by simpa using closed)
  have notBlank : ∀ c ∈ element.toList.head?, Text.isBlank c = false := by
    intro c isHead
    rwa [Option.mem_def.mp isHead] at starts
  have blank : ∀ c ∈ [' '], Text.isBlank c = true := List.forall_mem_singleton.mpr (by decide)
  have behind : ElementText element.toList ([' '] ++ (element.toList ++ [])) :=
    .parts blank (List.cons_ne_nil _ _) notBlank oneLine (by simp) (by simp)
  refine ⟨someRange, separate, ?_⟩
  simpa using ArrayText.parts blank noClose blank behind

/-- The number that is read off an array type is one less than that of its ranges. -/
theorem ArrayOf.arrayShape_eq (array : ArrayOf ranges element typeName) :
    arrayShape typeName = .ok (ranges.length - 1, element) := by
  have count : (",".intercalate ranges).toList.count ',' + 1 = ranges.length := by
    rw [String.toList_intercalate, ← List.length_map String.toList]
    refine count_commas_intercalate (by simpa using array.someRange) ?_
    simpa using array.separate
  rw [arrayShape, arrayParts?_of_arrayText array.text, ← count]
  rfl

/-- What is taken for an array is the type of arrays with some ranges. -/
theorem isArray_iff :
    isArray typeName = true ↔ ∃ ranges element, ArrayOf ranges element typeName := by
  rw [isArray, Option.isSome_iff_exists]
  constructor
  · rintro ⟨⟨bounds, element⟩, found⟩
    obtain ⟨ranges, someRange, separate, isBounds⟩ := exists_ranges bounds
    refine ⟨ranges.map String.ofList, element, by simpa using someRange,
      by simpa using separate, ?_⟩
    have sameText : (ranges.map String.ofList).map String.toList = ranges := by simp
    rw [String.toList_intercalate, sameText]
    exact isBounds ▸ arrayText_of_arrayParts? found
  · rintro ⟨ranges, element, array⟩
    exact ⟨_, arrayParts?_of_arrayText array.text⟩

theorem arrayShape_of_not_isArray (noArray : isArray typeName = false) :
    arrayShape typeName = .error .notAnArray := by
  rw [arrayShape, Option.not_isSome_iff_eq_none.mp (Bool.eq_false_iff.mp noArray)]

end

end PlcLint.TypeName
