import Mathlib.Data.List.DropRight
import PlcLint.Naming
import PlcLint.Proofs.TypeName

/-!
The letters for types that are wrapped in arrays and references. Each wrapping puts its letters in
front of those of the type inside; a wrapping around another one of the same kind adds nothing. What
is taken away for this, however, is not the text of the wrapping but all of its letters, in whatever
order, so that also a type which begins with one of them loses it.
-/

namespace PlcLint

namespace TypeName

/-- The text is `REFERENCE TO base`, on one line, which may have its end. -/
inductive ReferenceText (base : List Char) : List Char → Prop where
  | parts {tail : List Char} (oneLine : '\n' ∉ base) (ends : tail = [] ∨ tail = ['\n']) :
      ReferenceText base ("REFERENCE TO ".toList ++ (base ++ tail))

section

variable {typeName base : String}

theorem referenceBase?_of_referenceText
    (text : ReferenceText base.toList typeName.toList) : referenceBase? typeName = some base := by
  generalize isText : typeName.toList = whole at text
  obtain ⟨oneLine, ends⟩ := text
  rename_i tail
  have inBase : ∀ c ∈ base.toList, (c != '\n') = true := fun c inside =>
    bne_iff_ne.mpr fun isBreak => oneLine (isBreak ▸ inside)
  have atBreak : ∀ c ∈ tail.head?, (c != '\n') = false := by
    rcases ends with rfl | rfl
    · exact nofun
    · rintro c ⟨⟩
      rfl
  simp only [referenceBase?, Option.bind_eq_bind, Option.bind_eq_some_iff, after?_eq_some_iff,
    Option.ite_none_right_eq_some, Option.some.injEq]
  refine ⟨base.toList ++ tail, isText, ?_, ?_⟩
  · rw [dropWhile_run inBase atBreak]
    rcases ends with rfl | rfl <;> rfl
  · rw [takeWhile_run inBase atBreak, String.ofList_toList]

theorem referenceText_of_referenceBase? (found : referenceBase? typeName = some base) :
    ReferenceText base.toList typeName.toList := by
  simp only [referenceBase?, Option.bind_eq_bind, Option.bind_eq_some_iff, after?_eq_some_iff,
    Option.ite_none_right_eq_some, Option.some.injEq] at found
  obtain ⟨rest, isText, ends, rfl⟩ := found
  have oneLine : '\n' ∉ rest.takeWhile (· != '\n') := fun inside => by
    simpa using List.mem_takeWhile_imp inside
  have tail : rest.dropWhile (· != '\n') = [] ∨ rest.dropWhile (· != '\n') = ['\n'] := by
    simpa using ends
  have text := ReferenceText.parts oneLine tail
  rwa [List.takeWhile_append_dropWhile, ← isText, ← String.toList_ofList (l := rest.takeWhile _)]
    at text

theorem referenceText_written (oneLine : '\n' ∉ base.toList) :
    ReferenceText base.toList ("REFERENCE TO " ++ base).toList := by
  have text := ReferenceText.parts oneLine (.inl rfl)
  rwa [List.append_nil, ← String.toList_append] at text

/-- A reference is no array. -/
theorem arrayParts?_of_referenceText {base : List Char}
    (text : ReferenceText base typeName.toList) : arrayParts? typeName = none := by
  cases found : arrayParts? typeName with
  | none => rfl
  | some parts =>
      have arrayText := arrayText_of_arrayParts? found
      generalize typeName.toList = whole at text arrayText
      cases text
      cases arrayText

end

end TypeName

/-! Taking away letters. -/

/-- The text begins with one of the letters. -/
def BeginsWithin (letters text : String) : Prop := ∃ c ∈ text.toList.head?, c ∈ letters.toList

instance (letters text : String) : Decidable (BeginsWithin letters text) :=
  decidable_of_iff (text.toList.head?.any letters.toList.contains = true)
    (by simp [BeginsWithin, Option.any_eq_true])

theorem toList_stripLead (lead text : String) :
    (stripLead lead text).toList = text.toList.dropWhile lead.toList.contains :=
  String.toList_ofList

theorem stripLead_sublist (lead text : String) :
    (stripLead lead text).toList.Sublist text.toList := by
  rw [toList_stripLead]
  exact List.dropWhile_sublist _

theorem stripLead_eq_self_iff {lead text : String} :
    stripLead lead text = text ↔ ¬BeginsWithin lead text := by
  rw [← String.toList_inj, toList_stripLead, BeginsWithin]
  cases text.toList with
  | nil => simp
  | cons first rest =>
      by_cases within : first ∈ lead.toList
      · have shorter : (rest.dropWhile lead.toList.contains).length ≤ rest.length :=
          (List.dropWhile_sublist _).length_le
        rw [List.dropWhile_cons_of_pos (List.contains_iff_mem.mpr within)]
        refine iff_of_false (fun same => ?_) (fun apart => apart ⟨first, rfl, within⟩)
        rw [same, List.length_cons] at shorter
        omega
      · rw [List.dropWhile_cons_of_neg (mt List.contains_iff_mem.mp within)]
        refine iff_of_true rfl ?_
        rintro ⟨c, isFirst, inLead⟩
        cases isFirst
        exact within inLead

/-- The letters of a wrapping in front of those of the type inside. -/
def marked (lead letters : String) : String := lead ++ stripLead lead letters

theorem marked_marked (lead letters : String) :
    marked lead (marked lead letters) = marked lead letters := by
  have again : stripLead lead (marked lead letters) = stripLead lead letters := by
    rw [← String.toList_inj, toList_stripLead, marked, String.toList_append, toList_stripLead,
      List.dropWhile_append_of_pos (fun c inLead => List.contains_iff_mem.mpr inLead),
      List.dropWhile_idempotent]
  rw [marked, again, marked]

theorem marked_eq_append_iff {lead letters : String} :
    marked lead letters = lead ++ letters ↔ ¬BeginsWithin lead letters := by
  rw [marked, ← String.toList_inj, String.toList_append, String.toList_append,
    List.append_cancel_left_eq, String.toList_inj, stripLead_eq_self_iff]

/-! Wrapped types. -/

inductive Wrapping where
  | array
  | reference
  deriving DecidableEq

namespace Wrapping

/-- The letters that the settings have for the wrapping. -/
def lead (settings : Settings) : Wrapping → String
  | array => settings.arrayPrefix.getD ""
  | reference => settings.referencePrefix.getD ""

/-- The type is itself wrapped in this way. -/
def covers : Wrapping → String → Bool
  | array => TypeName.isArray
  | reference => TypeName.isReference

/-- The second type is the first one in a wrapping: an array of it, or a reference to it. -/
inductive Wraps : Wrapping → String → String → Prop where
  | array {bounds : List Char} {inner outer : String}
      (text : TypeName.ArrayText bounds inner.toList outer.toList) : Wraps .array inner outer
  | reference {inner outer : String}
      (text : TypeName.ReferenceText inner.toList outer.toList) : Wraps .reference inner outer

theorem exists_wraps {wrapping : Wrapping} {typeName : String}
    (covered : wrapping.covers typeName = true) : ∃ inner, Wraps wrapping inner typeName := by
  cases wrapping with
  | array =>
      obtain ⟨⟨bounds, inner⟩, found⟩ := Option.isSome_iff_exists.mp covered
      exact ⟨inner, .array (TypeName.arrayText_of_arrayParts? found)⟩
  | reference =>
      obtain ⟨inner, found⟩ := Option.isSome_iff_exists.mp covered
      exact ⟨inner, .reference (TypeName.referenceText_of_referenceBase? found)⟩

/-- The inner type is a part of the text. -/
theorem Wraps.exists_append {wrapping : Wrapping} {inner outer : String}
    (wraps : Wraps wrapping inner outer) :
    ∃ before after, before ≠ [] ∧ outer.toList = before ++ (inner.toList ++ after) := by
  cases wraps with
  | @array bounds _ _ text =>
      generalize outer.toList = whole at text
      obtain @⟨lead, gap, _, _, _, _, @⟨space, tail, _, _, _, _, _, _⟩⟩ := text
      refine ⟨"ARRAY".toList ++ (lead ++ ("[".toList ++ (bounds ++ ("]".toList ++
        (gap ++ ("OF".toList ++ space)))))), tail, by simp, by simp⟩
  | reference text =>
      generalize outer.toList = whole at text
      obtain @⟨tail, _, _⟩ := text
      exact ⟨"REFERENCE TO ".toList, tail, by decide, rfl⟩

theorem Wraps.length_lt {wrapping : Wrapping} {inner outer : String}
    (wraps : Wraps wrapping inner outer) : inner.length < outer.length := by
  obtain ⟨before, after, someBefore, isOuter⟩ := wraps.exists_append
  have positive := List.length_pos_iff.mpr someBefore
  have lengths := congrArg List.length isOuter
  simp only [List.length_append, String.length_toList] at lengths
  omega

theorem Wraps.not_mem {wrapping : Wrapping} {inner outer : String} {c : Char}
    (wraps : Wraps wrapping inner outer) (absent : c ∉ outer.toList) : c ∉ inner.toList := by
  obtain ⟨before, after, _, isOuter⟩ := wraps.exists_append
  rw [isOuter] at absent
  exact fun inside => absent (List.mem_append_right _ (List.mem_append_left _ inside))

end Wrapping

/-! The letters of a wrapped type from those of the type inside. -/

section

variable {code : Code} {settings : Settings} {wrapping : Wrapping} {inner outer : String}

theorem typeLettersFrom_of_wraps (wraps : wrapping.Wraps inner outer) (plain : '(' ∉ outer.toList)
    (fuel : Nat) :
    typeLettersFrom code settings (fuel + 1) outer =
      (typeLettersFrom code settings fuel inner).map
        (Option.map (marked (wrapping.lead settings))) := by
  have whole : String.ofList (outer.toList.takeWhile (· != '(')) = outer := by
    rw [List.takeWhile_eq_self_iff.mpr, String.ofList_toList]
    exact fun c inside => bne_iff_ne.mpr fun isOpen => plain (isOpen ▸ inside)
  have asMap (outcome : Except Fault (Option String)) (lead : String) :
      (do return (← outcome).map fun letters => lead ++ stripLead lead letters) =
        outcome.map (Option.map (marked lead)) := by
    cases outcome <;> rfl
  rw [typeLettersFrom, whole]
  cases wraps with
  | array text =>
      rw [TypeName.arrayParts?_of_arrayText text]
      exact asMap _ _
  | reference text =>
      rw [TypeName.arrayParts?_of_referenceText text,
        TypeName.referenceBase?_of_referenceText text]
      exact asMap _ _

/-- More fuel than characters makes no difference: the type inside a wrapping is shorter. -/
theorem typeLettersFrom_of_lt {fuel more : Nat} {text : String} (enough : text.length < fuel)
    (plenty : text.length < more) :
    typeLettersFrom code settings fuel text = typeLettersFrom code settings more text := by
  induction fuel generalizing text more with
  | zero => omega
  | succ fuel inductionHypothesis =>
      obtain ⟨more, rfl⟩ := Nat.exists_eq_add_one_of_ne_zero (Nat.ne_zero_of_lt plenty)
      rw [typeLettersFrom, typeLettersFrom]
      have shorter : (String.ofList (text.toList.takeWhile (· != '('))).length ≤ text.length := by
        rw [← String.length_toList, String.toList_ofList, ← String.length_toList]
        exact (List.takeWhile_sublist _).length_le
      have inside {wrapping : Wrapping} {inner : String}
          (wraps : wrapping.Wraps inner (String.ofList (text.toList.takeWhile (· != '(')))) :
          typeLettersFrom code settings fuel inner = typeLettersFrom code settings more inner := by
        have smaller := wraps.length_lt
        exact inductionHypothesis (by omega) (by omega)
      cases isArray : TypeName.arrayParts?
          (String.ofList (text.toList.takeWhile (· != '('))) with
      | some parts =>
          obtain ⟨bounds, element⟩ := parts
          simp only [inside (.array (TypeName.arrayText_of_arrayParts? isArray))]
      | none =>
          cases isReference : TypeName.referenceBase?
              (String.ofList (text.toList.takeWhile (· != '('))) with
          | some base =>
              simp only [inside (.reference (TypeName.referenceText_of_referenceBase? isReference))]
          | none => rfl

theorem Scope.typeLetters_of_wraps (scope : Scope) (wraps : wrapping.Wraps inner outer)
    (plain : '(' ∉ outer.toList) :
    scope.typeLetters outer =
      (scope.typeLetters inner).map (Option.map (marked (wrapping.lead scope.settings))) := by
  have smaller := wraps.length_lt
  rw [typeLetters, typeLettersFrom_of_wraps wraps plain, typeLetters,
    typeLettersFrom_of_lt smaller (Nat.lt_succ_self _)]

/-- A type that is itself wrapped in this way has the letters of the wrapping in front already. -/
theorem Scope.marked_of_covers {scope : Scope} {letters : String}
    (covered : wrapping.covers inner = true) (plain : '(' ∉ inner.toList)
    (found : scope.typeLetters inner = .ok (some letters)) :
    marked (wrapping.lead scope.settings) letters = letters := by
  obtain ⟨innermost, wraps⟩ := Wrapping.exists_wraps covered
  rw [scope.typeLetters_of_wraps wraps plain] at found
  cases isInnermost : scope.typeLetters innermost with
  | error fault =>
      rw [isInnermost] at found
      cases found
  | ok outcome =>
      rw [isInnermost] at found
      obtain ⟨inside, rfl, rfl⟩ := Option.map_eq_some_iff.mp (Except.ok.inj found)
      exact marked_marked _ inside

end

/-! Types in any number of wrappings. -/

/-- The second type is the first one in these wrappings, the outermost first. -/
inductive WrappedIn : List Wrapping → String → String → Prop where
  | base (typeName : String) : WrappedIn [] typeName typeName
  | wrap {wrapping : Wrapping} {wrappings : List Wrapping} {base inner outer : String}
      (wraps : wrapping.Wraps inner outer) (rest : WrappedIn wrappings base inner) :
      WrappedIn (wrapping :: wrappings) base outer

/-- The letters of a base type with those of all wrappings in front; of equal wrappings that follow
each other one counts. -/
def fullLetters (settings : Settings) (letters : String) : List Wrapping → String
  | [] => letters
  | wrapping :: rest =>
    if rest.head? = some wrapping then fullLetters settings letters rest
    else wrapping.lead settings ++ fullLetters settings letters rest

/-- Somewhere in the wrappings, what stands inside of one that is not of the same kind begins with a
letter of it. -/
def Clashes (settings : Settings) (letters : String) (wrappings : List Wrapping) : Prop :=
  ∃ wrapping rest, (wrapping :: rest) <:+ wrappings ∧ rest.head? ≠ some wrapping ∧
    BeginsWithin (wrapping.lead settings) (fullLetters settings letters rest)

section

variable {settings : Settings} {letters : String} {wrapping : Wrapping} {rest : List Wrapping}

theorem not_clashes_nil : ¬Clashes settings letters [] := by
  rintro ⟨wrapping, rest, suffix, _⟩
  exact List.cons_ne_nil _ _ (List.suffix_nil.mp suffix)

theorem clashes_cons_iff :
    Clashes settings letters (wrapping :: rest) ↔
      (rest.head? ≠ some wrapping ∧
        BeginsWithin (wrapping.lead settings) (fullLetters settings letters rest)) ∨
      Clashes settings letters rest := by
  simp only [Clashes, List.suffix_cons_iff, List.cons.injEq]
  constructor
  · rintro ⟨_, _, ⟨rfl, rfl⟩ | later, clash⟩
    · exact .inl clash
    · exact .inr ⟨_, _, later, clash⟩
  · rintro (clash | ⟨_, _, later, clash⟩)
    · exact ⟨_, _, .inl ⟨rfl, rfl⟩, clash⟩
    · exact ⟨_, _, .inr later, clash⟩

theorem WrappedIn.covers {base text : String} (wrapped : WrappedIn rest base text)
    (isFirst : rest.head? = some wrapping) : wrapping.covers text = true := by
  cases wrapped with
  | base => cases isFirst
  | wrap wraps _ =>
      cases isFirst
      cases wraps with
      | array text => exact Option.isSome_of_eq_some (TypeName.arrayParts?_of_arrayText text)
      | reference text =>
          exact Option.isSome_of_eq_some (TypeName.referenceBase?_of_referenceText text)

/-- One wrapping more around letters that are right, or lack some. -/
theorem marked_versus_full {found : String} (differs : rest.head? ≠ some wrapping)
    (lacks : found.toList.Sublist (fullLetters settings letters rest).toList)
    (complete : found = fullLetters settings letters rest ↔ ¬Clashes settings letters rest) :
    (marked (wrapping.lead settings) found).toList.Sublist
        (fullLetters settings letters (wrapping :: rest)).toList ∧
      (marked (wrapping.lead settings) found = fullLetters settings letters (wrapping :: rest) ↔
        ¬Clashes settings letters (wrapping :: rest)) := by
  have stripped := stripLead_sublist (wrapping.lead settings) found
  rw [fullLetters, if_neg differs, clashes_cons_iff, not_or, not_and, ← complete]
  constructor
  · rw [marked, String.toList_append, String.toList_append]
    exact (stripped.trans lacks).append_left _
  · constructor
    · intro same
      -- No letter can be missing inside, for none comes back.
      rw [marked, ← String.toList_inj, String.toList_append, String.toList_append,
        List.append_cancel_left_eq] at same
      have whole : found = fullLetters settings letters rest := by
        rw [← String.toList_inj]
        exact lacks.eq_of_length_le (same ▸ stripped.length_le)
      rw [whole, String.toList_inj, stripLead_eq_self_iff] at same
      exact ⟨fun _ => same, whole⟩
    · rintro ⟨apart, rfl⟩
      exact marked_eq_append_iff.mpr (apart differs)

end

theorem Scope.typeLetters_of_wrappedIn {scope : Scope} {wrappings : List Wrapping}
    {base text letters : String} (wrapped : WrappedIn wrappings base text)
    (plain : '(' ∉ text.toList) (isBase : scope.typeLetters base = .ok (some letters)) :
    ∃ found, scope.typeLetters text = .ok (some found) ∧
      found.toList.Sublist (fullLetters scope.settings letters wrappings).toList ∧
      (found = fullLetters scope.settings letters wrappings ↔
        ¬Clashes scope.settings letters wrappings) := by
  induction wrapped with
  | base typeName => exact ⟨letters, isBase, .refl _, iff_of_true rfl not_clashes_nil⟩
  | @wrap wrapping rest base inner outer wraps wrapped inductionHypothesis =>
      have innerPlain := wraps.not_mem plain
      obtain ⟨found, isFound, lacks, complete⟩ := inductionHypothesis innerPlain isBase
      have isOuter : scope.typeLetters outer =
          .ok (some (marked (wrapping.lead scope.settings) found)) := by
        rw [scope.typeLetters_of_wraps wraps plain, isFound]
        rfl
      refine ⟨_, isOuter, ?_⟩
      by_cases same : rest.head? = some wrapping
      · rw [marked_of_covers (wrapped.covers same) innerPlain isFound, fullLetters, if_pos same,
          clashes_cons_iff]
        exact ⟨lacks, complete.trans (by simp [same])⟩
      · exact marked_versus_full same lacks complete

/-- A wrapping around a type of the same kind keeps its letters. Around another type it puts its own
letters in front exactly if the letters of that type do not begin with one of them. In any nesting
of wrappings the letters are those of the wrappings and of the base type, or some of them are
missing; none is missing exactly if no wrapping clashes with what stands inside of it. -/
theorem wrapped_type_letters (scope : Scope) :
    (∀ wrapping inner outer letters, Wrapping.Wraps wrapping inner outer →
      '(' ∉ outer.toList → scope.typeLetters inner = .ok (some letters) →
      ∃ found, scope.typeLetters outer = .ok (some found) ∧
        (wrapping.covers inner = true → found = letters) ∧
        (wrapping.covers inner = false →
          (found = wrapping.lead scope.settings ++ letters ↔
            ¬BeginsWithin (wrapping.lead scope.settings) letters))) ∧
    ∀ wrappings base text letters, WrappedIn wrappings base text →
      '(' ∉ text.toList → scope.typeLetters base = .ok (some letters) →
      ∃ found, scope.typeLetters text = .ok (some found) ∧
        found.toList.Sublist (fullLetters scope.settings letters wrappings).toList ∧
        (found = fullLetters scope.settings letters wrappings ↔
          ¬Clashes scope.settings letters wrappings) := by
  constructor
  · intro wrapping inner outer letters wraps plain isInner
    refine ⟨marked (wrapping.lead scope.settings) letters, ?_, fun covered => ?_, fun _ => ?_⟩
    · rw [scope.typeLetters_of_wraps wraps plain, isInner]
      rfl
    · exact Scope.marked_of_covers covered (wraps.not_mem plain) isInner
    · exact marked_eq_append_iff
  · intro wrappings base text letters wrapped plain isBase
    exact Scope.typeLetters_of_wrappedIn wrapped plain isBase

/-! An array is told by `a`, a reference by `ref`, a count by `n` and a length by `r`. -/

def letteredScope : Scope where
  code := {}
  settings := {
    arrayPrefix := some "a"
    referencePrefix := some "ref"
    typePrefixes := ⟨[("INT", "n"), ("REAL", "r")]⟩ }
  layers := []

theorem reference_to_nested_arrays :
    WrappedIn [.reference, .array, .array] "INT"
      "REFERENCE TO ARRAY [0..3] OF ARRAY [1..2] OF INT" ∧
    letteredScope.typeLetters "INT" = .ok (some "n") ∧
    letteredScope.typeLetters "ARRAY [0..3] OF ARRAY [1..2] OF INT" = .ok (some "an") ∧
    letteredScope.typeLetters "REFERENCE TO ARRAY [0..3] OF ARRAY [1..2] OF INT" =
      .ok (some "refan") := by
  have pair : TypeName.ArrayOf ["1..2"] "INT" "ARRAY [1..2] OF INT" :=
    TypeName.arrayOf_written (by decide) (by decide) (by decide) (by decide) (by decide)
  have pairs : TypeName.ArrayOf ["0..3"] "ARRAY [1..2] OF INT"
      "ARRAY [0..3] OF ARRAY [1..2] OF INT" :=
    TypeName.arrayOf_written (by decide) (by decide) (by decide) (by decide) (by decide)
  have reference : Wrapping.Wraps .reference "ARRAY [0..3] OF ARRAY [1..2] OF INT"
      "REFERENCE TO ARRAY [0..3] OF ARRAY [1..2] OF INT" :=
    .reference (TypeName.referenceText_written (by decide))
  have isCount : letteredScope.typeLetters "INT" = .ok (some "n") := rfl
  obtain ⟨step, nesting⟩ := wrapped_type_letters letteredScope
  have inner : letteredScope.typeLetters "ARRAY [1..2] OF INT" = .ok (some "an") := rfl
  have wrapped :=
    WrappedIn.wrap reference (.wrap (.array pairs.text) (.wrap (.array pair.text) (.base "INT")))
  obtain ⟨found, isFound, same, _⟩ := step .array _ _ _ (.array pairs.text) (by decide) inner
  obtain ⟨all, isAll, _, complete⟩ := nesting _ _ _ _ wrapped (by decide) isCount
  have apart : ¬Clashes letteredScope.settings "n" [.reference, .array, .array] := by
    simp only [clashes_cons_iff, not_clashes_nil, or_false]
    decide
  rw [same (by decide)] at isFound
  rw [complete.mpr apart] at isAll
  exact ⟨wrapped, isCount, isFound, isAll⟩

/-- The letter of a length is among those of a reference, so a reference to a length is called just
a reference. -/
theorem reference_swallows_letter :
    Wrapping.Wraps .reference "REAL" "REFERENCE TO REAL" ∧
    Wrapping.covers .reference "REAL" = false ∧
    '(' ∉ "REFERENCE TO REAL".toList ∧
    letteredScope.typeLetters "REAL" = .ok (some "r") ∧
    letteredScope.typeLetters "REFERENCE TO REAL" = .ok (some "ref") ∧
    letteredScope.typeLetters "REFERENCE TO REAL" ≠
      .ok (some (Wrapping.lead letteredScope.settings .reference ++ "r")) := by
  have swallowed : letteredScope.typeLetters "REFERENCE TO REAL" = .ok (some "ref") := rfl
  refine ⟨.reference (TypeName.referenceText_written (by decide)), rfl, by decide, rfl, swallowed,
    ?_⟩
  rw [swallowed]
  intro same
  exact absurd (Option.some.inj (Except.ok.inj same)) (by decide)

end PlcLint
