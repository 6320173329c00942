import PlcLint.Check.Case
import PlcLint.Proofs.Lint.Order
import PlcLint.Proofs.Scope.Spelling

/-!
The values of an enumeration that a `CASE` statement leaves out. Each match strikes off one value
that it names, so what is left over are the values without a match, in whatever order the values are
looked through. This rests on one condition, which cannot be spared: no two values may be written
alike, ignoring case, where matches name them, that is behind the name of the enumeration.
-/

namespace PlcLint

namespace Check

/-- A value as matches name it. -/
def qualified (enumeration value : String) : String := enumeration ++ "." ++ value

/-- The match names the value. -/
def Names (enumeration value : String) : Match → Prop
  | .value _ => False
  | .enumerated name => Text.sameName name (qualified enumeration value) = true

instance (enumeration value : String) : (found : Match) → Decidable (Names enumeration value found)
  | .value _ => inferInstanceAs (Decidable False)
  | .enumerated name =>
    inferInstanceAs (Decidable (Text.sameName name (qualified enumeration value) = true))

/-- No two values are written alike behind the name of the enumeration, ignoring case. -/
def DistinctValues (enumeration : String) (values : List String) : Prop :=
  ∀ first ∈ values, ∀ second ∈ values,
    Text.sameName (qualified enumeration first) (qualified enumeration second) = true →
      first = second

/-- The values that are left when each match in turn strikes off one value that it names. Of several
such values it may be any. -/
inductive Struck (enumeration : String) : List String → List Match → List String → Prop where
  | done {left : List String} : Struck enumeration left [] left
  | skip {left rest : List String} {found : Match} {later : List Match}
      (unnamed : ∀ value ∈ left, ¬ Names enumeration value found)
      (onward : Struck enumeration left later rest) : Struck enumeration left (found :: later) rest
  | strike {left rest : List String} {value : String} {found : Match} {later : List Match}
      (isLeft : value ∈ left) (named : Names enumeration value found)
      (onward : Struck enumeration (left.erase value) later rest) :
      Struck enumeration left (found :: later) rest

variable {enumeration value other : String} {values left rest : List String} {found : Match}
  {later : List Match}

/-- The scan never fails, and strikes off the first value that a match names. -/
theorem unmatched_struck (enumeration : String) (left : List String) (later : List Match) :
    ∃ rest, (unmatched enumeration left later).result = .ok rest ∧
      Struck enumeration left later rest := by
  induction later generalizing left with
  | nil => exact ⟨left, rfl, .done⟩
  | cons found later inductionHypothesis =>
      cases found with
      | value expr =>
          obtain ⟨rest, returned, struck⟩ := inductionHypothesis left
          refine ⟨rest, ?_, .skip (fun _ _ named => named) struck⟩
          rw [unmatched, Logged.result_bind]
          exact returned
      | enumerated name =>
          rw [unmatched]
          cases first : left.find? fun value =>
              Text.sameName name (enumeration ++ "." ++ value) with
          | none =>
              obtain ⟨rest, returned, struck⟩ := inductionHypothesis left
              exact ⟨rest, returned, .skip (List.find?_eq_none.mp first) struck⟩
          | some value =>
              obtain ⟨rest, returned, struck⟩ := inductionHypothesis (left.erase value)
              have named : Names enumeration value (.enumerated name) := by
                simpa only [Names, qualified] using List.find?_some first
              exact ⟨rest, returned, .strike (List.mem_of_find?_eq_some first) named struck⟩

theorem Names.qualified_eq (first : Names enumeration value found)
    (second : Names enumeration other found) :
    Text.sameName (qualified enumeration value) (qualified enumeration other) = true := by
  cases found with
  | value expr => cases first
  | enumerated name =>
      exact Text.sameName_iff.mpr
        ((Text.sameName_iff.mp first).symm.trans (Text.sameName_iff.mp second))

theorem DistinctValues.subset (distinct : DistinctValues enumeration values)
    (inside : left ⊆ values) : DistinctValues enumeration left :=
  fun first isFirst second isSecond => distinct first (inside isFirst) second (inside isSecond)

/-- A value that no match names is never struck off. -/
theorem Struck.mem_of_unnamed (struck : Struck enumeration left later rest) (isLeft : value ∈ left)
    (unnamed : ∀ found ∈ later, ¬ Names enumeration value found) : value ∈ rest := by
  induction struck with
  | done => exact isLeft
  | skip _ _ inductionHypothesis =>
      exact inductionHypothesis isLeft (List.forall_mem_cons.mp unnamed).2
  | strike _ named _ inductionHypothesis =>
      obtain ⟨notHere, notLater⟩ := List.forall_mem_cons.mp unnamed
      refine inductionHypothesis ((List.mem_erase_of_ne ?_).mpr isLeft) notLater
      rintro rfl
      exact notHere named

/-- Of distinct values those are left that no match names. -/
theorem Struck.mem_iff (struck : Struck enumeration left later rest) (single : left.Nodup)
    (distinct : DistinctValues enumeration left) :
    value ∈ rest ↔ value ∈ left ∧ ∀ found ∈ later, ¬ Names enumeration value found := by
  refine ⟨fun isRest => ?_, fun ⟨isLeft, unnamed⟩ => struck.mem_of_unnamed isLeft unnamed⟩
  induction struck with
  | done => exact ⟨isRest, by simp⟩
  | skip unnamed _ inductionHypothesis =>
      obtain ⟨isLeft, notLater⟩ := inductionHypothesis single distinct isRest
      exact ⟨isLeft, List.forall_mem_cons.mpr ⟨unnamed value isLeft, notLater⟩⟩
  | @strike left rest struckOff found later isLeft named _ inductionHypothesis =>
      obtain ⟨isKept, notLater⟩ := inductionHypothesis (single.erase struckOff)
        (distinct.subset (List.erase_subset)) isRest
      obtain ⟨isOther, wasLeft⟩ := single.mem_erase_iff.mp isKept
      refine ⟨wasLeft, List.forall_mem_cons.mpr ⟨fun alsoNamed => isOther ?_, notLater⟩⟩
      -- the match names the value that it strikes off and no other one
      exact distinct value wasLeft struckOff isLeft (alsoNamed.qualified_eq named)

theorem Struck.sublist (struck : Struck enumeration left later rest) : rest.Sublist left := by
  induction struck with
  | done => exact .refl _
  | skip _ _ inductionHypothesis => exact inductionHypothesis
  | strike _ _ _ inductionHypothesis => exact inductionHypothesis.trans List.erase_sublist

/-- Matches of one value and of all values that are not written like it. -/
def matchesBut (enumeration first : String) (values : List String) : List Match :=
  .enumerated (qualified enumeration first) ::
    (values.filter fun value =>
      !Text.sameName (qualified enumeration first) (qualified enumeration value)).map
      (.enumerated <| qualified enumeration ·)

/-- These matches name every value. -/
theorem exists_names_matchesBut (first : String) (isValue : value ∈ values) :
    ∃ found ∈ matchesBut enumeration first values, Names enumeration value found := by
  by_cases alike :
      Text.sameName (qualified enumeration first) (qualified enumeration value) = true
  · exact ⟨_, List.mem_cons_self, alike⟩
  · refine ⟨.enumerated (qualified enumeration value), List.mem_cons_of_mem _ ?_,
      Text.sameName_iff.mpr rfl⟩
    exact List.mem_map_of_mem (List.mem_filter.mpr ⟨isValue, by simpa using alike⟩)

/-- Of two values that are written alike, the one match for both strikes off only one. -/
theorem Struck.ne_nil_of_alike {first second : String}
    (struck : Struck enumeration left (matchesBut enumeration first values) rest)
    (isFirst : first ∈ left) (isSecond : second ∈ left) (differ : first ≠ second)
    (alike : Text.sameName (qualified enumeration first) (qualified enumeration second) = true) :
    rest ≠ [] := by
  cases struck with
  | skip unnamed _ => exact absurd (Text.sameName_iff.mpr rfl) (unnamed first isFirst)
  | @strike _ _ struckOff _ _ isLeft named onward =>
      have stays (value : String) (isLeft : value ∈ left) (isOther : value ≠ struckOff)
          (likeFirst :
            Text.sameName (qualified enumeration first) (qualified enumeration value) = true) :
          rest ≠ [] := by
        refine List.ne_nil_of_mem
          (onward.mem_of_unnamed ((List.mem_erase_of_ne isOther).mpr isLeft) ?_)
        intro found isFound namesIt
        obtain ⟨unlike, isUnlike, rfl⟩ := List.mem_map.mp isFound
        have notLikeFirst := (List.mem_filter.mp isUnlike).2
        rw [Text.sameName_iff.mpr
          ((Text.sameName_iff.mp likeFirst).trans (Text.sameName_iff.mp namesIt).symm)]
          at notLikeFirst
        cases notLikeFirst
      by_cases firstStruck : first = struckOff
      · exact stays second isSecond (firstStruck ▸ differ.symm) alike
      · exact stays first isFirst firstStruck (Text.sameName_iff.mpr rfl)

end Check

theorem nodup_eraseDups (texts : List String) : texts.eraseDups.Nodup := by
  match texts with
  | [] => simp
  | text :: rest =>
      rw [List.eraseDups_cons, List.nodup_cons]
      exact ⟨by simp, nodup_eraseDups _⟩
termination_by texts.length
decreasing_by exact Nat.lt_succ_of_le (List.length_filter_le _ _)

namespace Check

/-- What is said about a `CASE` statement that leaves out these values. -/
def missingRemark (origin : Origin) (enumeration : String) (missing : List String) : Remark where
  message := "Case statement without else clause is missing cases for enum type " ++ enumeration
    ++ " (missing values " ++ Text.quotedSet missing ++ ")"
  violating := some (.node origin)

variable {scope : Scope} {subject : Expr} {type : Option TypeRef} {dataType : DataType}
  {values : List String}

theorem result_allCases (typed : (scope.exprType subject).result = .ok type)
    (resolved : dataTypeOf scope type = .ok (some dataType))
    (isEnumeration : dataType.kind = .enumeration values) (origin : Origin) (arms : List Arm) :
    ∃ left, Struck dataType.name values.eraseDups (arms.flatMap Arm.values) left ∧
      (allCases.run scope (.stmt (.select origin subject arms none))).result =
        .ok (Walk.ofList
          (if left = [] then [] else [missingRemark origin dataType.name left])) := by
  obtain ⟨left, returned, struck⟩ :=
    unmatched_struck dataType.name values.eraseDups (arms.flatMap Arm.values)
  refine ⟨left, struck, ?_⟩
  obtain ⟨name, kind, declarations, base⟩ := dataType
  cases isEnumeration
  simp only [allCases, resolved, Logged.ofExcept, Logged.result_bind, typed, Except.bind]
  change ((unmatched name values.eraseDups (arms.flatMap Arm.values)) >>= _).result = _
  rw [Logged.result_bind, returned]
  cases left <;> rfl

/-- The check names exactly the values without a match, and none exactly if each value has one,
whatever the order in which the values are looked through: this holds of all `CASE` statements over
an enumeration if, and only if, its values are distinct behind its name, ignoring case. -/
theorem missing_cases_exact_iff_distinct (typed : (scope.exprType subject).result = .ok type)
    (resolved : dataTypeOf scope type = .ok (some dataType))
    (isEnumeration : dataType.kind = .enumeration values) :
    DistinctValues dataType.name values ↔
      ∀ (origin : Origin) (arms : List Arm), ∃ missing : List String, missing.Nodup ∧
        (∀ value, value ∈ missing ↔ value ∈ values ∧
          ∀ found ∈ arms.flatMap Arm.values, ¬ Names dataType.name value found) ∧
        (allCases.run scope (.stmt (.select origin subject arms none))).result =
          .ok (Walk.ofList
            (if missing = [] then [] else [missingRemark origin dataType.name missing])) ∧
        ∀ start left, start.Perm values.eraseDups →
          Struck dataType.name start (arms.flatMap Arm.values) left → left.Perm missing := by
  have single := nodup_eraseDups values
  constructor
  · intro distinct origin arms
    have kept : DistinctValues dataType.name values.eraseDups :=
      distinct.subset fun _ => List.mem_eraseDups.mp
    obtain ⟨missing, struck, reported⟩ := result_allCases typed resolved isEnumeration origin arms
    refine ⟨missing, struck.sublist.nodup single, fun value => ?_, reported, ?_⟩
    · rw [struck.mem_iff single kept, List.mem_eraseDups]
    · intro start left sameValues otherwise
      have startSingle := sameValues.nodup_iff.mpr single
      refine (List.perm_ext_iff_of_nodup (otherwise.sublist.nodup startSingle)
        (struck.sublist.nodup single)).mpr fun value => ?_
      rw [otherwise.mem_iff startSingle (kept.subset sameValues.subset), struck.mem_iff single kept,
        sameValues.mem_iff]
  · intro exact first isFirst second isSecond alike
    by_contra differ
    let arms : List Arm := [.mk (matchesBut dataType.name first values) .missing]
    have areMatches : arms.flatMap Arm.values = matchesBut dataType.name first values :=
      List.flatMap_singleton ..
    obtain ⟨missing, -, isMissing, reported, -⟩ := exact ⟨0, none, none⟩ arms
    obtain ⟨left, struck, alsoReported⟩ :=
      result_allCases typed resolved isEnumeration ⟨0, none, none⟩ arms
    rw [areMatches] at isMissing struck
    have noneMissing : missing = [] := by
      refine List.eq_nil_iff_forall_not_mem.mpr fun value inMissing => ?_
      obtain ⟨isValue, unnamed⟩ := (isMissing value).mp inMissing
      obtain ⟨found, isFound, named⟩ := exists_names_matchesBut first isValue
      exact unnamed found isFound named
    have someLeft : left ≠ [] := struck.ne_nil_of_alike (List.mem_eraseDups.mpr isFirst)
      (List.mem_eraseDups.mpr isSecond) differ alike
    rw [reported, if_pos noneMissing, if_neg someLeft] at alsoReported
    cases alsoReported

/-! A `CASE` statement over a variable `shade`, whose declaration writes the name of its type in
another case. -/

def shadeScope (type : DataType) (written : String) : Scope where
  code := { dataTypes := ⟨[(type.name, type)]⟩ }
  settings := {}
  layers := [⟨[("shade", ⟨"shade", written, "VAR", none, none, none⟩)]⟩]

def shade : Expr := .var (.simple ⟨1, none, none⟩ "shade" false)

def shadeCase (arms : List Arm) : Subject := .stmt (.select ⟨0, none, none⟩ shade arms none)

theorem exprType_shade (type : DataType) (written : String)
    (isOther : Text.lower type.name ≠ Text.lower "shade") :
    ((shadeScope type written).exprType shade).result = .ok (some (.named written)) := by
  have noDataType : Scope.seek false (shadeScope type written).code.dataTypes "shade" = none :=
    Table.seek_eq_none (by simpa [shadeScope, Table.names] using isOther) false
  have noConversion : Scope.seek false TypeName.conversions "shade" = none :=
    TypeName.seek_conversions_eq_none (by decide) false
  rw [shade, Scope.exprType, Scope.varType, Scope.lookup, Scope.complexName?, noDataType,
    noConversion]
  rfl

def paintType : DataType where
  name := "Paint"
  kind := .enumeration ["Red", "Green", "Blue"]

def paintArms : List Arm :=
  [.mk [.value shade, .enumerated "PAINT.red"] .missing,
    .mk [.enumerated "Paint.Mauve", .enumerated "paint.RED"] .missing]

theorem paint_missing_cases :
    ((shadeScope paintType "PAINT").exprType shade).result = .ok (some (.named "PAINT")) ∧
    dataTypeOf (shadeScope paintType "PAINT") (some (.named "PAINT")) = .ok (some paintType) ∧
    DistinctValues "Paint" ["Red", "Green", "Blue"] ∧
    ∃ missing, (∀ value, value ∈ missing ↔ value = "Green" ∨ value = "Blue") ∧
      (allCases.run (shadeScope paintType "PAINT") (shadeCase paintArms)).result =
        .ok (Walk.ofList [missingRemark ⟨0, none, none⟩ "Paint" missing]) := by
  have typed := exprType_shade paintType "PAINT" (by decide)
  have resolved : dataTypeOf (shadeScope paintType "PAINT") (some (.named "PAINT")) =
      .ok (some paintType) := rfl
  have distinct : DistinctValues "Paint" ["Red", "Green", "Blue"] := by
    unfold DistinctValues
    decide
  obtain ⟨missing, -, isMissing, reported, -⟩ :=
    (missing_cases_exact_iff_distinct typed resolved rfl).mp distinct ⟨0, none, none⟩ paintArms
  have areMissing (value : String) : value ∈ missing ↔ value = "Green" ∨ value = "Blue" := by
    have named : ∀ value ∈ ["Red", "Green", "Blue"],
        (∀ found ∈ paintArms.flatMap Arm.values, ¬ Names "Paint" value found) ↔ value ≠ "Red" := by
      decide
    rw [isMissing]
    constructor
    · rintro ⟨isValue, unnamed⟩
      have notRed := (named value isValue).mp unnamed
      simpa [notRed] using isValue
    · rintro (rfl | rfl)
      · exact ⟨by simp, (named "Green" (by simp)).mpr (by decide)⟩
      · exact ⟨by simp, (named "Blue" (by simp)).mpr (by decide)⟩
  refine ⟨typed, resolved, distinct, missing, areMissing, ?_⟩
  rw [if_neg (List.ne_nil_of_mem ((areMissing "Green").mpr (.inl rfl)))] at reported
  exact reported

/-- The two small forms of the letter sigma are two values. Behind another letter the capital sigma
is the capital of the second form, so that one match names both values, and only one is struck
off. -/
def letterType : DataType where
  name := "Letter"
  kind := .enumeration ["Σ", "ς"]

def letterArms : List Arm := [.mk [.enumerated "Letter.Σ"] .missing]

theorem letter_reported_without_missing_case :
    (∀ first ∈ ["Σ", "ς"], ∀ second ∈ ["Σ", "ς"],
      Text.sameName first second = true → first = second) ∧
    ((shadeScope letterType "letter").exprType shade).result = .ok (some (.named "letter")) ∧
    dataTypeOf (shadeScope letterType "letter") (some (.named "letter")) = .ok (some letterType) ∧
    (∀ value ∈ ["Σ", "ς"], ∃ found ∈ letterArms.flatMap Arm.values, Names "Letter" value found) ∧
    ∃ remark, (allCases.run (shadeScope letterType "letter") (shadeCase letterArms)).result =
      .ok (Walk.ofList [remark]) := by
  have typed := exprType_shade letterType "letter" (by decide)
  refine ⟨by decide, typed, rfl, by decide, ?_⟩
  obtain ⟨left, struck, reported⟩ := result_allCases typed rfl rfl ⟨0, none, none⟩ letterArms
  have oneForBoth : letterArms.flatMap Arm.values = matchesBut "Letter" "Σ" ["Σ", "ς"] := rfl
  rw [oneForBoth] at struck
  have alike : Text.sameName (qualified "Letter" "Σ") (qualified "Letter" "ς") = true := by decide
  have someLeft : left ≠ [] := struck.ne_nil_of_alike (by simp) (by simp) (by decide) alike
  rw [if_neg someLeft] at reported
  exact ⟨_, reported⟩

end Check

end PlcLint
