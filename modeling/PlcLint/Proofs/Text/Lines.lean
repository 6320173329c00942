import Mathlib.Data.List.Basic
import PlcLint.Text.Lines

/-!
Lines without a line feed, if there are any, are the lines of the text that they make. Of two texts
with a line feed between them the lines are those of the first and then those of the second.
-/

namespace PlcLint.Text

theorem splitLines_ne_nil (text : List Char) : splitLines text ≠ [] := by
  cases text with
  | nil => exact List.cons_ne_nil _ _
  | cons c rest =>
      rw [splitLines]
      split
      · exact List.cons_ne_nil _ _
      · split <;> exact List.cons_ne_nil _ _

theorem splitLines_cons {c : Char} (inside : c ≠ '\n') (rest : List Char) :
    ∃ line more, splitLines rest = line :: more ∧ splitLines (c :: rest) = (c :: line) :: more := by
  obtain ⟨line, more, split⟩ := List.exists_cons_of_ne_nil (splitLines_ne_nil rest)
  exact ⟨line, more, split, by rw [splitLines, if_neg inside, split]⟩

/-- A text ends its last line where another one is put behind a line feed. -/
theorem splitLines_append (first second : List Char) :
    splitLines (first ++ '\n' :: second) = splitLines first ++ splitLines second := by
  induction first with
  | nil => rfl
  | cons c rest inductionHypothesis =>
      by_cases isEnd : c = '\n'
      · rw [List.cons_append, splitLines, splitLines, if_pos isEnd, if_pos isEnd,
          inductionHypothesis, List.cons_append]
      · obtain ⟨line, more, split, whole⟩ := splitLines_cons isEnd rest
        obtain ⟨longLine, further, longSplit, longWhole⟩ :=
          splitLines_cons isEnd (rest ++ '\n' :: second)
        rw [inductionHypothesis, split, List.cons_append, List.cons.injEq] at longSplit
        rw [List.cons_append, longWhole, whole, ← longSplit.1, ← longSplit.2, List.cons_append]

theorem splitLines_of_not_mem {line : List Char} (inside : '\n' ∉ line) :
    splitLines line = [line] := by
  induction line with
  | nil => rfl
  | cons c rest inductionHypothesis =>
      obtain ⟨notEnd, later⟩ := List.ne_and_not_mem_of_not_mem_cons inside
      rw [splitLines, if_neg notEnd.symm, inductionHypothesis later]

theorem not_mem_of_mem_splitLines {text line : List Char} (isLine : line ∈ splitLines text) :
    '\n' ∉ line := by
  induction text generalizing line with
  | nil => simp_all [splitLines]
  | cons c rest inductionHypothesis =>
      by_cases isEnd : c = '\n'
      · rw [splitLines, if_pos isEnd] at isLine
        rcases List.mem_cons.mp isLine with rfl | later
        · exact List.not_mem_nil
        · exact inductionHypothesis later
      · obtain ⟨first, more, split, whole⟩ := splitLines_cons isEnd rest
        rw [whole] at isLine
        rw [split] at inductionHypothesis
        rcases List.mem_cons.mp isLine with rfl | later
        · exact List.not_mem_cons_of_ne_of_not_mem (Ne.symm isEnd)
            (inductionHypothesis List.mem_cons_self)
        · exact inductionHypothesis (List.mem_cons_of_mem _ later)

theorem lines_append (first second : String) :
    lines (first ++ "\n" ++ second) = lines first ++ lines second := by
  simp only [lines, String.toList_append]
  change (splitLines (first.toList ++ ['\n'] ++ second.toList)).map _ = _
  rw [List.append_assoc, List.singleton_append, splitLines_append, List.map_append]

theorem lines_append_blank (first second : String) :
    lines (first ++ "\n\n" ++ second) = lines first ++ [""] ++ lines second := by
  have twice : first ++ "\n\n" ++ second = first ++ "\n" ++ ("" ++ "\n" ++ second) := by
    simp [← String.toList_inj]
  rw [twice, lines_append, lines_append, List.append_assoc]
  rfl

/-- The text is one line. -/
def OneLine (text : String) : Prop := '\n' ∉ text.toList

theorem oneLine_of_mem_lines {text line : String} (isLine : line ∈ lines text) : OneLine line := by
  obtain ⟨chars, isChars, rfl⟩ := List.mem_map.mp isLine
  rw [OneLine, String.toList_ofList]
  exact not_mem_of_mem_splitLines isChars

theorem lines_of_oneLine {line : String} (single : OneLine line) : lines line = [line] := by
  rw [lines, splitLines_of_not_mem single, List.map_singleton, String.ofList_toList]

theorem lines_joinLines {shown : List String} (some : shown ≠ [])
    (single : ∀ line ∈ shown, OneLine line) : lines (joinLines shown) = shown := by
  induction shown with
  | nil => exact absurd rfl some
  | cons line rest inductionHypothesis =>
      obtain ⟨here, later⟩ := List.forall_mem_cons.mp single
      cases rest with
      | nil => rw [joinLines, String.intercalate_singleton, lines_of_oneLine here]
      | cons next rest =>
          rw [joinLines, String.intercalate_cons_cons, lines_append, lines_of_oneLine here]
          exact congrArg (line :: ·) (inductionHypothesis (List.cons_ne_nil _ _) later)

theorem joinLines_append {first second : List String} (someFirst : first ≠ [])
    (someSecond : second ≠ []) :
    joinLines (first ++ second) = joinLines first ++ "\n" ++ joinLines second :=
  String.intercalate_append_of_ne_nil someFirst someSecond

end PlcLint.Text
