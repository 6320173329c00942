import Mathlib.Data.List.Basic
import Mathlib.Data.List.TakeWhile
import PlcLint.Suppression

/-!
What a suppression comment is, and which checks it switches off. The comment is described by its
parts; the test on a line finds exactly the lines that end in one. A check is then switched off
if its code occurs anywhere in the line: in the list of the comment, inside a longer code of the
list, or in the text before the comment.
-/

namespace PlcLint

/-! Character classes that have no character in common. -/

theorem Text.not_inRanges_of_apart {first second : List (Nat × Nat)}
    (apart : ∀ range ∈ first, ∀ other ∈ second, range.2 < other.1 ∨ other.2 < range.1)
    {code : Nat} (inFirst : Text.inRanges first code = true) :
    Text.inRanges second code = false := by
  obtain ⟨range, isRange, within⟩ := List.any_eq_true.mp inFirst
  refine List.any_eq_false.mpr fun other isOther => ?_
  have separate := apart range isRange other isOther
  simp only [Bool.and_eq_true, decide_eq_true_eq] at within ⊢
  omega

theorem Text.inRanges_of_isDecimal {c : Char} (isDigit : Text.isDecimal c = true) :
    Text.inRanges Text.decimalRanges c.toNat = true := by
  unfold Text.isDecimal at isDigit
  split at isDigit
  · refine List.any_eq_true.mpr ⟨(48, 57), List.mem_cons_self, ?_⟩
    simpa [Char.isDigit, UInt32.le_iff_toNat_le, ← Char.toNat_val] using isDigit
  · exact isDigit

theorem Text.inRanges_of_isUpper {c : Char} (isCapital : c.isUpper = true) :
    Text.inRanges [(65, 90)] c.toNat = true := by
  unfold Char.isUpper at isCapital
  refine List.any_eq_true.mpr ⟨(65, 90), List.mem_cons_self, ?_⟩
  simpa [UInt32.le_iff_toNat_le, ← Char.toNat_val] using isCapital

theorem not_isUpper_of_isDecimal {c : Char} (isDigit : Text.isDecimal c = true) :
    c.isUpper = false := by
  refine Bool.eq_false_iff.mpr fun isCapital => ?_
  have notDigit : Text.inRanges Text.decimalRanges c.toNat = false :=
    Text.not_inRanges_of_apart (by decide) (Text.inRanges_of_isUpper isCapital)
  rw [Text.inRanges_of_isDecimal isDigit] at notDigit
  cases notDigit

/-! Runs of characters of one class. -/

section

variable {p : Char → Bool} {body rest : List Char}

theorem takeWhile_run (inside : ∀ c ∈ body, p c = true) (stop : ∀ c ∈ rest.head?, p c = false) :
    (body ++ rest).takeWhile p = body := by
  rw [List.takeWhile_append_of_pos inside]
  cases rest with
  | nil => simp
  | cons c rest => simp [stop c rfl]

theorem dropWhile_run (inside : ∀ c ∈ body, p c = true) (stop : ∀ c ∈ rest.head?, p c = false) :
    (body ++ rest).dropWhile p = rest := by
  rw [List.dropWhile_append_of_pos inside]
  cases rest with
  | nil => rfl
  | cons c rest => simp [stop c rfl]

theorem head?_dropWhile {text : List Char} : ∀ c ∈ (text.dropWhile p).head?, p c = false := by
  intro c isHead
  have stopped := List.head?_dropWhile_not p text
  rw [isHead] at stopped
  exact stopped

end

/-! Codes of checks. -/

/-- Two to four capital letters and then three or four digits. -/
def IsCode (text : List Char) : Prop :=
  ∃ letters digits, text = letters ++ digits ∧
    (2 ≤ letters.length ∧ letters.length ≤ 4 ∧ ∀ c ∈ letters, c.isUpper = true) ∧
    3 ≤ digits.length ∧ digits.length ≤ 4 ∧ ∀ c ∈ digits, Text.isDecimal c = true

theorem isCheckCode_iff {text : List Char} : isCheckCode text = true ↔ IsCode text := by
  constructor
  · intro accepted
    simp only [isCheckCode, Bool.and_eq_true, decide_eq_true_eq, List.all_eq_true] at accepted
    obtain ⟨⟨⟨⟨twoLetters, fourLetters⟩, threeDigits⟩, fourDigits⟩, areDigits⟩ := accepted
    exact ⟨_, _, List.takeWhile_append_dropWhile.symm,
      ⟨twoLetters, fourLetters, fun c inside => List.mem_takeWhile_imp inside⟩,
      threeDigits, fourDigits, areDigits⟩
  · rintro ⟨letters, digits, rfl, ⟨twoLetters, fourLetters, areLetters⟩, threeDigits, fourDigits,
      areDigits⟩
    have stop : ∀ c ∈ digits.head?, c.isUpper = false := fun c isHead =>
      not_isUpper_of_isDecimal (areDigits c (List.mem_of_mem_head? isHead))
    simp only [isCheckCode, takeWhile_run areLetters stop, dropWhile_run areLetters stop,
      Bool.and_eq_true, decide_eq_true_eq, List.all_eq_true]
    exact ⟨⟨⟨⟨twoLetters, fourLetters⟩, threeDigits⟩, fourDigits⟩, areDigits⟩

namespace IsCode

variable {code : List Char}

theorem ne_nil (isCode : IsCode code) : code ≠ [] := by
  rintro rfl
  obtain ⟨letters, digits, isEmpty, ⟨twoLetters, _⟩, _⟩ := isCode
  rw [(List.append_eq_nil_iff.mp isEmpty.symm).1] at twoLetters
  cases twoLetters

/-- Capital letters and the digits of all scripts. -/
def ranges : List (Nat × Nat) := (65, 90) :: Text.decimalRanges

theorem inRanges (isCode : IsCode code) {c : Char} (inside : c ∈ code) :
    Text.inRanges ranges c.toNat = true := by
  obtain ⟨letters, digits, rfl, ⟨_, _, areLetters⟩, _, _, areDigits⟩ := isCode
  have widen : Text.inRanges ranges c.toNat =
      (Text.inRanges [(65, 90)] c.toNat || Text.inRanges Text.decimalRanges c.toNat) := by
    simp [Text.inRanges, ranges]
  rcases List.mem_append.mp inside with inLetters | inDigits
  · rw [widen, Text.inRanges_of_isUpper (areLetters c inLetters), Bool.true_or]
  · rw [widen, Text.inRanges_of_isDecimal (areDigits c inDigits), Bool.or_true]

theorem not_isBlank (isCode : IsCode code) {c : Char} (inside : c ∈ code) :
    Text.isBlank c = false :=
  Text.not_inRanges_of_apart (by decide) (isCode.inRanges inside)

theorem blank_not_mem (isCode : IsCode code) {c : Char} (isBlank : Text.isBlank c = true) :
    c ∉ code := by
  intro inside
  rw [isCode.not_isBlank inside] at isBlank
  cases isBlank

theorem not_mem (isCode : IsCode code) {c : Char}
    (other : Text.inRanges ranges c.toNat = false) : c ∉ code := by
  intro inside
  rw [isCode.inRanges inside] at other
  cases other

end IsCode

/-! Lists of codes. -/

/-- Codes with white space between them, up to the end of the text. -/
inductive Listing : List (List Char) → List Char → Prop where
  | last {code} : IsCode code → Listing [code] code
  | more {code codes blanks text} :
      IsCode code → blanks ≠ [] → (∀ c ∈ blanks, Text.isBlank c = true) →
      Listing codes text → Listing (code :: codes) (code ++ (blanks ++ text))

namespace Listing

variable {codes : List (List Char)} {text : List Char}

theorem head?_not_blank (listing : Listing codes text) :
    ∀ c ∈ text.head?, Text.isBlank c = false := by
  have ofCode {code : List Char} (isCode : IsCode code) (rest : List Char) :
      ∀ c ∈ (code ++ rest).head?, Text.isBlank c = false := by
    intro c isHead
    rw [List.head?_append_of_ne_nil code isCode.ne_nil] at isHead
    exact isCode.not_isBlank (List.mem_of_mem_head? isHead)
  cases listing with
  | last isCode => simpa using ofCode isCode []
  | more isCode _ _ _ => exact ofCode isCode _

/-- The first code, and what is behind it. -/
theorem split (listing : Listing codes text) :
    let code := text.takeWhile fun c => !Text.isBlank c
    let rest := text.dropWhile fun c => !Text.isBlank c
    IsCode code ∧ (rest = [] ∧ codes = [code] ∨
      rest ≠ [] ∧ ∃ others, codes = code :: others ∧
        Listing others (rest.dropWhile Text.isBlank)) := by
  have solid {code : List Char} (isCode : IsCode code) :
      ∀ c ∈ code, (!Text.isBlank c) = true := fun c inside => by simp [isCode.not_isBlank inside]
  dsimp only
  cases listing with
  | last isCode =>
      rw [List.takeWhile_eq_self_iff.mpr (solid isCode),
        List.dropWhile_eq_nil_iff.mpr (solid isCode)]
      exact ⟨isCode, .inl ⟨rfl, rfl⟩⟩
  | @more code others blanks rest isCode someBlank areBlank listing =>
      have stop : ∀ c ∈ (blanks ++ rest).head?, (!Text.isBlank c) = false := by
        intro c isHead
        rw [List.head?_append_of_ne_nil blanks someBlank] at isHead
        simp [areBlank c (List.mem_of_mem_head? isHead)]
      rw [takeWhile_run (solid isCode) stop, dropWhile_run (solid isCode) stop,
        dropWhile_run areBlank listing.head?_not_blank]
      exact ⟨isCode, .inr ⟨by simp [someBlank], others, rfl, listing⟩⟩

theorem unique {others : List (List Char)} (listing : Listing codes text)
    (again : Listing others text) : codes = others := by
  induction codes generalizing text others with
  | nil => cases listing
  | cons code codes inductionHypothesis =>
      obtain ⟨_, ⟨isEnd, isOnly⟩ | ⟨goesOn, rest, isCons, listing⟩⟩ := listing.split
      · obtain ⟨_, ⟨_, isOther⟩ | ⟨goesOn, _⟩⟩ := again.split
        · rw [isOnly, isOther]
        · exact absurd isEnd goesOn
      · obtain ⟨_, ⟨isEnd, _⟩ | ⟨_, otherRest, isOther, again⟩⟩ := again.split
        · exact absurd isEnd goesOn
        · obtain ⟨isCode, rfl⟩ := List.cons.inj isCons
          rw [isOther, isCode, inductionHypothesis listing again]

end Listing

theorem exists_listing_iff {text : List Char} :
    (∃ codes, Listing codes text) ↔
      IsCode (text.takeWhile fun c => !Text.isBlank c) ∧
        ((text.dropWhile fun c => !Text.isBlank c) = [] ∨
          ∃ codes, Listing codes
            ((text.dropWhile fun c => !Text.isBlank c).dropWhile Text.isBlank)) := by
  constructor
  · rintro ⟨codes, listing⟩
    obtain ⟨isCode, ⟨isEnd, _⟩ | ⟨_, others, _, rest⟩⟩ := listing.split
    · exact ⟨isCode, .inl isEnd⟩
    · exact ⟨isCode, .inr ⟨others, rest⟩⟩
  · rintro ⟨isCode, behind⟩
    by_cases isEnd : (text.dropWhile fun c => !Text.isBlank c) = []
    · have whole : (text.takeWhile fun c => !Text.isBlank c) = text := by
        simpa [isEnd] using
          List.takeWhile_append_dropWhile (p := fun c => !Text.isBlank c) (l := text)
      rw [whole] at isCode
      exact ⟨[text], .last isCode⟩
    · obtain ⟨codes, listing⟩ := behind.resolve_left isEnd
      refine ⟨(text.takeWhile fun c => !Text.isBlank c) :: codes, ?_⟩
      have someBlank :
          (text.dropWhile fun c => !Text.isBlank c).takeWhile Text.isBlank ≠ [] := by
        obtain ⟨c, rest, isCons⟩ := List.exists_cons_of_ne_nil isEnd
        have isBlank : (!Text.isBlank c) = false := head?_dropWhile c (by rw [isCons]; rfl)
        rw [Bool.not_eq_false'] at isBlank
        simp [isCons, isBlank]
      have parts := Listing.more isCode someBlank
        (fun c inside => List.mem_takeWhile_imp inside) listing
      rwa [List.takeWhile_append_dropWhile, List.takeWhile_append_dropWhile] at parts

theorem isCodeListFrom_iff {fuel : Nat} {text : List Char} (bound : text.length ≤ fuel) :
    isCodeList.isCodeListFrom fuel text = true ↔
      ∃ codes, Listing codes (text.dropWhile Text.isBlank) := by
  induction fuel generalizing text with
  | zero =>
      rw [List.length_eq_zero_iff.mp (Nat.le_zero.mp bound), exists_listing_iff]
      refine iff_of_false Bool.false_ne_true fun listing => listing.1.ne_nil rfl
  | succ fuel inductionHypothesis =>
      rw [isCodeList.isCodeListFrom, exists_listing_iff]
      generalize isText : text.dropWhile Text.isBlank = solid
      have shorter : solid.length ≤ text.length := by
        rw [← isText]
        exact (List.dropWhile_suffix _).length_le
      by_cases isEnd : (solid.dropWhile fun c => !Text.isBlank c) = []
      · simp [isEnd, isCheckCode_iff]
      · simp only [isEnd, List.isEmpty_iff, if_false, Bool.and_eq_true, isCheckCode_iff, false_or]
        refine and_congr_right fun isCode => inductionHypothesis ?_
        -- The code takes up at least one character.
        have lengths := congrArg List.length
          (List.takeWhile_append_dropWhile (p := fun c => !Text.isBlank c) (l := solid))
        have codeLength := List.length_pos_of_ne_nil isCode.ne_nil
        rw [List.length_append] at lengths
        omega

theorem isCodeList_iff {text : List Char} :
    isCodeList text = true ↔ ∃ codes, Listing codes text := by
  rw [isCodeList, exists_listing_iff]
  by_cases isEnd : (text.dropWhile fun c => !Text.isBlank c) = []
  · simp [isEnd, isCheckCode_iff]
  · simp only [isEnd, List.isEmpty_iff, if_false, Bool.and_eq_true, isCheckCode_iff, false_or,
      isCodeListFrom_iff (le_refl _)]

/-! Comments at the end of a line. -/

/-- The line ends in a comment that lists these codes; `before` is what stands before it. -/
def EndsInComment (line before : List Char) (codes : List (List Char)) : Prop :=
  ∃ gap lead list,
    line = before ++ '/' :: '/' :: (gap ++ ("noqa:".toList ++ (lead ++ list))) ∧
      (∀ c ∈ gap, Text.isBlank c = true) ∧ (∀ c ∈ lead, Text.isBlank c = true) ∧
      Listing codes list

theorem dropWhile_gap {gap rest : List Char} (gapBlank : ∀ c ∈ gap, Text.isBlank c = true) :
    (gap ++ ("noqa:".toList ++ rest)).dropWhile Text.isBlank = "noqa:".toList ++ rest :=
  dropWhile_run gapBlank fun c isHead => by cases isHead; decide

theorem isSuppression_iff {text : List Char} (unbroken : '\n' ∉ text) :
    isSuppression text = true ↔ ∃ codes, EndsInComment text [] codes := by
  have whole {rest : List Char} (inside : rest <:+ text) : withoutFinalBreak rest = rest := by
    refine if_neg fun isLast => unbroken (inside.subset (List.mem_of_getLast? isLast))
  constructor
  · intro found
    unfold isSuppression at found
    split at found
    · rename_i rest
      obtain ⟨isMark, isList⟩ := Bool.and_eq_true_iff.mp found
      obtain ⟨tail, isTail⟩ := List.isPrefixOf_iff_prefix.mp isMark
      have dropped : (rest.dropWhile Text.isBlank).drop "noqa:".length = tail := by
        rw [← isTail]
        rfl
      rw [dropped] at isList
      have isRest : rest = rest.takeWhile Text.isBlank ++ ("noqa:".toList ++ tail) := by
        rw [isTail, List.takeWhile_append_dropWhile]
      have insideTail : tail.dropWhile Text.isBlank <:+ '/' :: '/' :: rest := by
        refine (List.dropWhile_suffix _).trans ⟨'/' :: '/' :: (rest.takeWhile Text.isBlank ++
          "noqa:".toList), ?_⟩
        rw [List.cons_append, List.cons_append, List.append_assoc, ← isRest]
      rw [whole insideTail, isCodeList_iff] at isList
      obtain ⟨codes, listing⟩ := isList
      refine ⟨codes, rest.takeWhile Text.isBlank, tail.takeWhile Text.isBlank,
        tail.dropWhile Text.isBlank, ?_, fun c inside => List.mem_takeWhile_imp inside,
        fun c inside => List.mem_takeWhile_imp inside, listing⟩
      rw [List.takeWhile_append_dropWhile, ← isRest]
      rfl
    · cases found
  · rintro ⟨codes, gap, lead, list, rfl, gapBlank, leadBlank, listing⟩
    have isList : (lead ++ list).dropWhile Text.isBlank = list :=
      dropWhile_run leadBlank listing.head?_not_blank
    have insideList : list <:+ [] ++ '/' :: '/' :: (gap ++ ("noqa:".toList ++ (lead ++ list))) :=
      ⟨'/' :: '/' :: (gap ++ ("noqa:".toList ++ lead)), by simp⟩
    refine Bool.and_eq_true_iff.mpr ⟨?_, ?_⟩
    · rw [dropWhile_gap gapBlank, List.isPrefixOf_iff_prefix]
      exact List.prefix_append _ _
    · have isTail : ("noqa:".toList ++ (lead ++ list)).drop "noqa:".length = lead ++ list := rfl
      rw [dropWhile_gap gapBlank, isTail, isList, whole insideList, isCodeList_iff]
      exact ⟨codes, listing⟩

theorem endsInComment_cons {c first : Char} {line before : List Char} {codes : List (List Char)} :
    EndsInComment (c :: line) (first :: before) codes ↔
      c = first ∧ EndsInComment line before codes := by
  constructor
  · rintro ⟨gap, lead, list, isLine, parts⟩
    obtain ⟨rfl, rfl⟩ := List.cons.inj isLine
    exact ⟨rfl, gap, lead, list, rfl, parts⟩
  · rintro ⟨rfl, gap, lead, list, rfl, parts⟩
    exact ⟨gap, lead, list, rfl, parts⟩

/-- The search through the line finds a comment at its end if there is one. -/
theorem hasSuppression_iff {line : List Char} (unbroken : '\n' ∉ line) :
    hasSuppression line = true ↔ ∃ before codes, EndsInComment line before codes := by
  induction line with
  | nil =>
      refine iff_of_false Bool.false_ne_true ?_
      rintro ⟨before, codes, gap, lead, list, isLine, _⟩
      simp at isLine
  | cons c line inductionHypothesis =>
      rw [hasSuppression, Bool.or_eq_true, isSuppression_iff unbroken,
        inductionHypothesis fun inside => unbroken (List.mem_cons_of_mem c inside)]
      constructor
      · rintro (⟨codes, ends⟩ | ⟨before, codes, ends⟩)
        · exact ⟨[], codes, ends⟩
        · exact ⟨c :: before, codes, endsInComment_cons.mpr ⟨rfl, ends⟩⟩
      · rintro ⟨before, codes, ends⟩
        cases before with
        | nil => exact .inl ⟨codes, ends⟩
        | cons first before => exact .inr ⟨before, codes, (endsInComment_cons.mp ends).2⟩

/-! Where a code can occur in a line. -/

theorem hasInfix_iff {part text : List Char} : hasInfix part text = true ↔ part <:+: text := by
  induction text with
  | nil => rw [hasInfix, List.isEmpty_iff, List.infix_nil]
  | cons c text inductionHypothesis =>
      rw [hasInfix, Bool.or_eq_true, List.isPrefixOf_iff_prefix, inductionHypothesis,
        List.infix_cons_iff]

section

variable {part before skipped after : List Char}

/-- An occurrence does not reach across a character that the part does not have. -/
theorem infix_append_cons_iff {c : Char} (absent : c ∉ part) :
    part <:+: before ++ c :: after ↔ part <:+: before ∨ part <:+: after := by
  constructor
  · rw [List.infix_append_iff, List.infix_cons_iff]
    rintro (inBefore | (atC | inAfter) | ⟨first, second, rfl, inBefore, atC⟩)
    · exact .inl inBefore
    · cases part with
      | nil => exact .inl (List.nil_infix)
      | cons d part => simp [(List.cons_prefix_cons.mp atC).1] at absent
    · exact .inr inAfter
    · cases second with
      | nil => exact .inl (by simpa using inBefore.isInfix)
      | cons d second => simp [(List.cons_prefix_cons.mp atC).1] at absent
  · rintro (inBefore | inAfter)
    · exact inBefore.trans (List.prefix_append _ _).isInfix
    · exact inAfter.trans ((List.suffix_cons c after).trans (List.suffix_append _ _)).isInfix

theorem infix_append_iff_of_absent (someChar : part ≠ []) (absent : ∀ c ∈ skipped, c ∉ part) :
    part <:+: skipped ++ after ↔ part <:+: after := by
  induction skipped with
  | nil => rfl
  | cons c skipped inductionHypothesis =>
      obtain ⟨absentHere, absentLater⟩ := List.forall_mem_cons.mp absent
      have behindFirst : part <:+: [] ++ c :: (skipped ++ after) ↔ _ :=
        infix_append_cons_iff absentHere
      rw [List.infix_nil, or_iff_right someChar, inductionHypothesis absentLater] at behindFirst
      exact behindFirst

end

theorem Listing.infix_iff {codes : List (List Char)} {text code : List Char}
    (listing : Listing codes text) (isCode : IsCode code) :
    code <:+: text ↔ ∃ listed ∈ codes, code <:+: listed := by
  induction listing with
  | last => simp
  | @more first codes blanks text _ someBlank areBlank _ inductionHypothesis =>
      obtain ⟨c, blanks, rfl⟩ := List.exists_cons_of_ne_nil someBlank
      obtain ⟨isBlank, areBlank⟩ := List.forall_mem_cons.mp areBlank
      rw [List.cons_append, infix_append_cons_iff (isCode.blank_not_mem isBlank),
        infix_append_iff_of_absent isCode.ne_nil fun c inside =>
          isCode.blank_not_mem (areBlank c inside),
        inductionHypothesis, List.exists_mem_cons_iff]

namespace EndsInComment

variable {line before : List Char} {codes : List (List Char)}

theorem infix_iff {code : List Char} (ends : EndsInComment line before codes)
    (isCode : IsCode code) :
    code <:+: line ↔ code <:+: before ∨ ∃ listed ∈ codes, code <:+: listed := by
  obtain ⟨gap, lead, list, rfl, gapBlank, leadBlank, listing⟩ := ends
  have noSlash : '/' ∉ code := isCode.not_mem (by decide)
  have noMark : ∀ c ∈ "noqa:".toList, c ∉ code := by
    have outside : ("noqa:".toList.all fun c => !Text.inRanges IsCode.ranges c.toNat) = true := by
      decide
    intro c inside
    exact isCode.not_mem (by simpa using List.all_eq_true.mp outside c inside)
  rw [infix_append_cons_iff noSlash, ← List.singleton_append (l := gap ++ _),
    infix_append_iff_of_absent isCode.ne_nil (by simpa using noSlash),
    infix_append_iff_of_absent isCode.ne_nil
      fun c inside => isCode.blank_not_mem (gapBlank c inside),
    infix_append_iff_of_absent isCode.ne_nil noMark,
    infix_append_iff_of_absent isCode.ne_nil fun c inside =>
      isCode.blank_not_mem (leadBlank c inside),
    listing.infix_iff isCode]

end EndsInComment

/-! The comment at the end of a line is told by the line. -/

theorem eq_of_last {c : Char} {first second firstRest secondRest : List Char}
    (notInFirst : c ∉ firstRest) (notInSecond : c ∉ secondRest)
    (same : first ++ c :: firstRest = second ++ c :: secondRest) :
    first = second ∧ firstRest = secondRest := by
  rcases List.append_eq_append_iff.mp same with
    ⟨between, rfl, isRest⟩ | ⟨between, rfl, isRest⟩
  · cases between with
    | nil => simpa using isRest
    | cons d between =>
        obtain ⟨rfl, rfl⟩ := List.cons.inj isRest
        simp at notInFirst
  · cases between with
    | nil => simpa using isRest.symm
    | cons d between =>
        obtain ⟨rfl, rfl⟩ := List.cons.inj isRest
        simp at notInSecond

theorem Listing.not_mem {codes : List (List Char)} {text : List Char} (listing : Listing codes text)
    {c : Char} (notInCode : Text.inRanges IsCode.ranges c.toNat = false)
    (notBlank : Text.isBlank c = false) : c ∉ text := by
  induction listing with
  | last isCode => exact isCode.not_mem notInCode
  | more isCode _ areBlank _ inductionHypothesis =>
      have notGap : c ∉ _ := fun inside => by
        rw [areBlank c inside] at notBlank
        cases notBlank
      simp [isCode.not_mem notInCode, notGap, inductionHypothesis]

theorem EndsInComment.unique {line before other : List Char} {codes others : List (List Char)}
    (ends : EndsInComment line before codes) (again : EndsInComment line other others) :
    before = other ∧ codes = others := by
  obtain ⟨gap, lead, list, rfl, gapBlank, leadBlank, listing⟩ := ends
  obtain ⟨otherGap, otherLead, otherList, same, otherGapBlank, otherLeadBlank, otherListing⟩ :=
    again
  have noSlash {gap lead list : List Char} {codes : List (List Char)}
      (gapBlank : ∀ c ∈ gap, Text.isBlank c = true) (leadBlank : ∀ c ∈ lead, Text.isBlank c = true)
      (listing : Listing codes list) : '/' ∉ gap ++ ("noqa:".toList ++ (lead ++ list)) := by
    have notBlank {blanks : List Char} (areBlank : ∀ c ∈ blanks, Text.isBlank c = true) :
        '/' ∉ blanks := fun inside => absurd (areBlank _ inside) (by decide)
    simp only [List.mem_append, not_or]
    exact ⟨notBlank gapBlank, by decide, notBlank leadBlank,
      listing.not_mem (by decide) (by decide)⟩
  have atSlash : (before ++ ['/']) ++ '/' :: (gap ++ ("noqa:".toList ++ (lead ++ list))) =
      (other ++ ['/']) ++ '/' :: (otherGap ++ ("noqa:".toList ++ (otherLead ++ otherList))) := by
    simpa using same
  obtain ⟨sameBefore, sameRest⟩ := eq_of_last (noSlash gapBlank leadBlank listing)
    (noSlash otherGapBlank otherLeadBlank otherListing) atSlash
  have sameMark := congrArg (List.dropWhile Text.isBlank) sameRest
  rw [dropWhile_gap gapBlank, dropWhile_gap otherGapBlank] at sameMark
  have sameList := congrArg (List.dropWhile Text.isBlank) (List.append_cancel_left sameMark)
  rw [dropWhile_run leadBlank listing.head?_not_blank,
    dropWhile_run otherLeadBlank otherListing.head?_not_blank] at sameList
  subst sameList
  exact ⟨List.append_cancel_right sameBefore, listing.unique otherListing⟩

/-- The code occurs in the line, but not as a code of the list: in the text before the comment,
or inside a longer code. -/
def Strays (code before : List Char) (codes : List (List Char)) : Prop :=
  code <:+: before ∨ ∃ listed ∈ codes, code <:+: listed ∧ listed ≠ code

theorem listed_or_strays_iff {code before : List Char} {codes : List (List Char)} :
    code ∈ codes ∨ Strays code before codes ↔
      code <:+: before ∨ ∃ listed ∈ codes, code <:+: listed := by
  constructor
  · rintro (isListed | inBefore | ⟨listed, isListed, inside, _⟩)
    · exact .inr ⟨code, isListed, List.infix_rfl⟩
    · exact .inl inBefore
    · exact .inr ⟨listed, isListed, inside⟩
  · rintro (inBefore | ⟨listed, isListed, inside⟩)
    · exact .inr (.inl inBefore)
    · by_cases same : listed = code
      · exact .inl (same ▸ isListed)
      · exact .inr (.inr ⟨listed, isListed, inside, same⟩)

theorem isSuppressed_iff_listed_or_strays {line code : String} (unbroken : '\n' ∉ line.toList)
    (isCode : IsCode code.toList) :
    (isSuppressed line code = true ↔
      ∃ before codes, EndsInComment line.toList before codes ∧
        (code.toList ∈ codes ∨ Strays code.toList before codes)) ∧
    ∀ before codes, EndsInComment line.toList before codes → ¬Strays code.toList before codes →
      (isSuppressed line code = true ↔ code.toList ∈ codes) := by
  have exactly : isSuppressed line code = true ↔
      ∃ before codes, EndsInComment line.toList before codes ∧
        (code.toList ∈ codes ∨ Strays code.toList before codes) := by
    rw [isSuppressed, Bool.and_eq_true, hasSuppression_iff unbroken, hasInfix_iff]
    constructor
    · rintro ⟨⟨before, codes, ends⟩, occurs⟩
      exact ⟨before, codes, ends, listed_or_strays_iff.mpr ((ends.infix_iff isCode).mp occurs)⟩
    · rintro ⟨before, codes, ends, occurs⟩
      exact ⟨⟨before, codes, ends⟩, (ends.infix_iff isCode).mpr (listed_or_strays_iff.mp occurs)⟩
  refine ⟨exactly, fun before codes ends orderly => exactly.trans ⟨?_, fun isListed => ?_⟩⟩
  · rintro ⟨other, others, again, occurs⟩
    obtain ⟨rfl, rfl⟩ := ends.unique again
    exact occurs.resolve_right orderly
  · exact ⟨before, codes, ends, .inl isListed⟩

theorem second_code_suppresses :
    '\n' ∉ "f(1); // noqa: ARG001  VAR001".toList ∧ IsCode "VAR001".toList ∧
      ∃ before codes, EndsInComment "f(1); // noqa: ARG001  VAR001".toList before codes ∧
        ("VAR001".toList ∈ codes ∨ Strays "VAR001".toList before codes) := by
  have unbroken : '\n' ∉ "f(1); // noqa: ARG001  VAR001".toList := by decide
  have isCode : IsCode "VAR001".toList := isCheckCode_iff.mp (by decide)
  exact ⟨unbroken, isCode, (isSuppressed_iff_listed_or_strays unbroken isCode).1.mp (by decide)⟩

/-- A code in the text before the comment is not listed, and neither is a part of a longer code;
but the checks of both are switched off. -/
theorem strayCode_suppresses :
    (isSuppressed "VAR001 := 1; // noqa: ARG001" "VAR001" = true ∧
      ¬∃ before codes, EndsInComment "VAR001 := 1; // noqa: ARG001".toList before codes ∧
        "VAR001".toList ∈ codes) ∧
    isSuppressed "x := 1; // noqa: ARG0011" "ARG001" = true ∧
      ¬∃ before codes, EndsInComment "x := 1; // noqa: ARG0011".toList before codes ∧
        "ARG001".toList ∈ codes := by
  have listsOne {line before code listed : List Char} (ends : EndsInComment line before [listed])
      (differs : code ≠ listed) :
      ¬∃ before codes, EndsInComment line before codes ∧ code ∈ codes := by
    rintro ⟨other, codes, again, isListed⟩
    obtain ⟨_, rfl⟩ := again.unique ends
    exact differs (List.mem_singleton.mp isListed)
  have blank : ∀ c ∈ [' '], Text.isBlank c = true := List.forall_mem_singleton.mpr (by decide)
  have listsShort : EndsInComment "VAR001 := 1; // noqa: ARG001".toList "VAR001 := 1; ".toList
      ["ARG001".toList] :=
    ⟨[' '], [' '], _, by decide, blank, blank, .last (isCheckCode_iff.mp (by decide))⟩
  have listsLong : EndsInComment "x := 1; // noqa: ARG0011".toList "x := 1; ".toList
      ["ARG0011".toList] :=
    ⟨[' '], [' '], _, by decide, blank, blank, .last (isCheckCode_iff.mp (by decide))⟩
  exact ⟨⟨by decide, listsOne listsShort (by decide)⟩, by decide, listsOne listsLong (by decide)⟩

end PlcLint
