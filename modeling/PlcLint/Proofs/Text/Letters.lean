import PlcLint.Text.Letters

/-!
Text in small ASCII letters. To write the capital ASCII letters of a text small does not change its
lower case, not even that of a capital sigma, which depends on the letters around it.
-/

namespace PlcLint.Text

theorem toLower_eq_or_capital (c : Char) :
    c.toLower = c ∨ (65 ≤ c.toNat ∧ c.toNat ≤ 90 ∧ c.toLower.toNat = c.toNat + 32) := by
  by_cases capital : c.val ≥ 'A'.val ∧ c.val ≤ 'Z'.val
  · right
    have fromA : 65 ≤ c.val.toNat := UInt32.le_iff_toNat_le.mp capital.1
    have toZ : c.val.toNat ≤ 90 := UInt32.le_iff_toNat_le.mp capital.2
    have moved : c.toLower.val = c.val + 32 := congrArg Char.val (dif_pos capital)
    refine ⟨fromA, toZ, ?_⟩
    change c.toLower.val.toNat = c.val.toNat + 32
    rw [moved, UInt32.toNat_add]
    exact Nat.mod_eq_of_lt (by change c.val.toNat + 32 < 4294967296; omega)
  · exact .inl (dif_neg capital)

theorem toLower_toLower (c : Char) : c.toLower.toLower = c.toLower := by
  rcases toLower_eq_or_capital c with same | ⟨least, _, moved⟩
  · rw [same, same]
  · rcases toLower_eq_or_capital c.toLower with same | ⟨_, most, _⟩
    · exact same
    · omega

theorem inRanges_of_mem {ranges : List (Nat × Nat)} {range : Nat × Nat} {code : Nat}
    (listed : range ∈ ranges) (least : range.1 ≤ code) (most : code ≤ range.2) :
    inRanges ranges code = true :=
  List.any_eq_true.mpr ⟨range, listed, by simp [least, most]⟩

/-- A capital ASCII letter and the small one both have case. -/
theorem casedNext_cons_toLower (c : Char) {rest others : List Char}
    (same : casedNext others = casedNext rest) :
    casedNext (c.toLower :: others) = casedNext (c :: rest) := by
  rw [casedNext, casedNext]
  rcases toLower_eq_or_capital c with unchanged | ⟨least, most, moved⟩
  · rw [unchanged, same]
  · have capital : inRanges casedRanges c.toNat = true :=
      inRanges_of_mem List.mem_cons_self least most
    have small : inRanges casedRanges c.toLower.toNat = true :=
      inRanges_of_mem (List.mem_cons_of_mem _ List.mem_cons_self)
        (by rw [moved]; exact Nat.add_le_add_right least 32)
        (by rw [moved]; exact Nat.add_le_add_right most 32)
    rw [if_pos capital, if_pos small]

theorem casedNext_map_toLower (text : List Char) :
    casedNext (text.map Char.toLower) = casedNext text := by
  induction text with
  | nil => rfl
  | cons c rest inductionHypothesis =>
      rw [List.map_cons]
      exact casedNext_cons_toLower c inductionHypothesis

theorem lowerChar_toLower (before after : List Char) (c : Char) :
    lowerChar (before.map Char.toLower) c.toLower (after.map Char.toLower) =
      lowerChar before c after := by
  rw [lowerChar, lowerChar, casedNext_map_toLower, casedNext_map_toLower]
  rcases toLower_eq_or_capital c with unchanged | ⟨_, most, moved⟩
  · rw [unchanged, unchanged]
  · rw [if_pos (by omega : c.toLower.toNat < 128), if_pos (by omega : c.toNat < 128),
      toLower_toLower]

theorem lowerFrom_map_toLower (before text : List Char) :
    lowerFrom (before.map Char.toLower) (text.map Char.toLower) = lowerFrom before text := by
  induction text generalizing before with
  | nil => rfl
  | cons c rest inductionHypothesis =>
      rw [List.map_cons, lowerFrom, lowerFrom, lowerChar_toLower, ← inductionHypothesis,
        List.map_cons]

@[simp]
theorem toList_toLower (text : String) : text.toLower.toList = text.toList.map Char.toLower :=
  String.toList_map

@[simp]
theorem toLower_append (first second : String) :
    (first ++ second).toLower = first.toLower ++ second.toLower := by
  rw [← String.toList_inj]
  simp

theorem toLower_join (texts : List String) :
    (String.join texts).toLower = String.join (texts.map String.toLower) := by
  rw [← String.toList_inj]
  simp [String.toList_join, List.map_flatMap, List.flatMap_map]

@[simp]
theorem toLower_eq_empty {text : String} : text.toLower = "" ↔ text = "" := by
  rw [← String.toList_inj, ← String.toList_inj]
  simp

theorem toLower_intercalate (between : String) (texts : List String) :
    (String.intercalate between texts).toLower =
      String.intercalate between.toLower (texts.map String.toLower) := by
  match texts with
  | [] => simp [String.intercalate_nil]
  | [text] => simp [String.intercalate_singleton]
  | first :: second :: rest =>
      rw [String.intercalate_cons_cons, toLower_append, toLower_append,
        toLower_intercalate between (second :: rest)]
      exact String.intercalate_cons_cons.symm

@[simp]
theorem toLower_idem (text : String) : text.toLower.toLower = text.toLower := by
  rw [← String.toList_inj]
  simp [toLower_toLower]

@[simp]
theorem lower_toLower (text : String) : lower text.toLower = lower text := by
  rw [lower, lower, toList_toLower]
  exact congrArg String.ofList (lowerFrom_map_toLower [] text.toList)

theorem toLower_eq_iff {first second : String} :
    first.toLower = second.toLower ↔
      first.toList.map Char.toLower = second.toList.map Char.toLower := by
  rw [← String.toList_inj, toList_toLower, toList_toLower]

/-- Texts that differ only in the case of ASCII letters have the same lower case. -/
theorem lower_eq_of_toLower_eq {first second : String} (same : first.toLower = second.toLower) :
    lower first = lower second := by
  rw [← lower_toLower first, same, lower_toLower]

end PlcLint.Text
