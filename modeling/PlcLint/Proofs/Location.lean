import Mathlib.Data.List.Basic
import PlcLint.Location
import PlcLint.Proofs.Text.Lines

/-!
The excerpt that is shown with a finding. It consists of lines of the text up to the line that the
finding is about, of a line that marks columns, and of the lines behind. The marked line is the one
on which a comment can suppress the finding.
-/

namespace PlcLint

namespace Text

/-- The lines with the numbers from `first` to `last`, counted from one. -/
def numberedLines (all : List String) (first last : Nat) : List String :=
  (all.take last).drop (first - 1)

theorem boundary_of_le {length place : Nat} (inside : place ≤ length) :
    boundary length (place : Int) = place := by
  rw [boundary, if_neg (by omega), Int.toNat_natCast, Nat.min_eq_left inside]

theorem slice_eq_numberedLines {all : List String} {first last : Nat}
    (inside : first ≤ all.length) (lastInside : last ≤ all.length) :
    slice all (first : Int) (last : Int) = numberedLines all (first + 1) last := by
  rw [slice, boundary_of_le inside, boundary_of_le lastInside, numberedLines, Nat.add_sub_cancel,
    List.drop_take]

theorem oneLine_of_mem_numberedLines {text line : String} {first last : Nat}
    (isLine : line ∈ numberedLines (lines text) first last) : OneLine line :=
  oneLine_of_mem_lines (List.mem_of_mem_take (List.mem_of_mem_drop isLine))

/-- Lines up to some line end in it. -/
theorem numberedLines_eq_concat {all : List String} {first last : Nat} {line : String}
    (ordered : first ≤ last) (isLast : all[last - 1]? = some line) (counted : 1 ≤ last) :
    numberedLines all first last = numberedLines all first (last - 1) ++ [line] := by
  obtain ⟨inside, isLine⟩ := List.getElem?_eq_some_iff.mp isLast
  have taken : all.take last = all.take (last - 1) ++ [line] := by
    rw [← isLine, List.take_append_getElem inside, Nat.sub_add_cancel counted]
  rw [numberedLines, taken, List.drop_append_of_le_length, numberedLines]
  rw [List.length_take]
  omega

end Text

namespace Location

/-- The line that marks columns of another one: a tab below each tab in front of the column and
blanks below the other characters there, then a caret for each column, at least one. -/
def columnMarker (line : String) (column : Int) (endColumn : Option Int) : String :=
  let blanks := (List.range (min (column - 1) line.length).toNat).map fun place =>
    if line.toList[place]? = some '\t' then '\t' else ' '
  let carets := match endColumn with
    | some last => (max (last - column) 1).toNat
    | none => 1
  String.ofList (blanks ++ List.replicate carets '^')

theorem marker_eq_columnMarker (line : String) (column : Int) (endColumn : Option Int) :
    marker line column endColumn = columnMarker line column endColumn := by
  have blanks : (line.toList.take (column - 1).toNat).map (fun c => if c = '\t' then c else ' ') =
      (List.range (min (column - 1) line.length).toNat).map fun place =>
        if line.toList[place]? = some '\t' then '\t' else ' ' := by
    refine List.ext_getElem ?_ fun place inFirst inSecond => ?_
    · rw [List.length_map, List.length_take, List.length_map, List.length_range,
        String.length_toList]
      omega
    · rw [List.length_map, List.length_take] at inFirst
      have inside : place < line.toList.length := by omega
      simp only [List.getElem_map, List.getElem_take, List.getElem_range,
        List.getElem?_eq_getElem inside, Option.some.injEq]
      split <;> simp_all
  have count : (max (endColumn.getD column - column) 1).toNat =
      match endColumn with
      | some last => (max (last - column) 1).toNat
      | none => 1 := by
    cases endColumn with
    | some last => rfl
    | none => rw [Option.getD_none, Int.sub_self]; rfl
  rw [marker, indent, carets, blanks, count, ← String.ofList_append]
  rfl

theorem oneLine_columnMarker (line : String) (column : Int) (endColumn : Option Int) :
    Text.OneLine (columnMarker line column endColumn) := by
  unfold columnMarker
  rw [Text.OneLine, String.toList_ofList, List.mem_append, not_or]
  constructor
  · intro isBlank
    obtain ⟨place, _, isChar⟩ := List.mem_map.mp isBlank
    split at isChar <;> cases isChar
  · intro isCaret
    cases List.eq_of_mem_replicate isCaret

/-- Lines behind the marked one: where there are none, an empty line is shown. -/
def shownLines (lines : List String) : List String := if lines = [] then [""] else lines

theorem shownLines_ne_nil (lines : List String) : shownLines lines ≠ [] := by
  rw [shownLines]
  split
  · exact List.cons_ne_nil _ _
  · assumption

theorem oneLine_of_mem_shownLines {lines : List String} {line : String}
    (single : ∀ line ∈ lines, Text.OneLine line) (isShown : line ∈ shownLines lines) :
    Text.OneLine line := by
  rw [shownLines] at isShown
  split at isShown
  · rw [List.mem_singleton.mp isShown]
    exact List.not_mem_nil
  · exact single line isShown

theorem joinLines_shownLines (lines : List String) :
    Text.joinLines (shownLines lines) = Text.joinLines lines := by
  rw [shownLines]
  split
  · simp_all [Text.joinLines]
  · rfl

/-- The marker below a line, if the column is known. -/
def markers (line : String) (extent : Extent) : List String :=
  (extent.column.map fun column => columnMarker line column extent.endColumn).toList

theorem oneLine_of_mem_markers {line marker : String} {extent : Extent}
    (isMarker : marker ∈ markers line extent) : Text.OneLine marker := by
  obtain ⟨column, _, rfl⟩ := Option.map_eq_some_iff.mp (Option.mem_toList.mp isMarker)
  exact oneLine_columnMarker line column extent.endColumn

theorem excerpt_eq_joinLines (before behind : List String) (line : String) (extent : Extent) :
    excerpt (before ++ [line]) extent (some behind) =
      Text.joinLines (before ++ [line] ++ markers line extent ++ shownLines behind) := by
  have someBefore : before ++ [line] ≠ [] := by simp
  rw [excerpt, Text.joinLines_append (by simp) (shownLines_ne_nil behind), joinLines_shownLines,
    markers, List.getLast?_concat]
  cases extent.column with
  | none => simp [String.append_assoc]
  | some column =>
      rw [Option.map_some, Option.toList_some, Text.joinLines_append someBefore (by simp)]
      simp [String.append_assoc, marker_eq_columnMarker, Text.joinLines]

variable {location : Location} {source : String} {line size : Nat}

theorem errorLine_of_source (hasSource : location.source = some source)
    (hasLine : location.inSource.line = some (line : Int)) (counted : 1 ≤ line) {text : String}
    (isLine : (Text.lines source)[line - 1]? = some text) (files : FileTree) :
    location.errorLine files = pure (some text) := by
  obtain ⟨inside, -⟩ := List.getElem?_eq_some_iff.mp isLine
  have place : ((line : Int) - 1).toNat = line - 1 := by omega
  simp only [errorLine, hasSource, hasLine, Text.item?, place, isLine]
  rw [if_neg (by omega), if_pos (by omega)]

theorem pretty_of_source (hasSource : location.source = some source)
    (hasLine : location.inSource.line = some (line : Int))
    (last : line ≤ (Text.lines source).length) (files : FileTree) :
    location.pretty files size = .ok (location.heading ++ " in line " ++ toString line ++ ":"
      ++ shownNumber location.inSource.column ++ "\n\n"
      ++ excerpt (Text.numberedLines (Text.lines source) (line - size + 1) line) location.inSource
        (some (Text.numberedLines (Text.lines source) (line + 1)
          (min (line + size) (Text.lines source).length)))) := by
  have ahead : max ((line : Int) - size) 0 = ((line - size : Nat) : Int) := by omega
  have behind : min ((line : Int) + size) (Text.lines source).length =
      ((min (line + size) (Text.lines source).length : Nat) : Int) := by omega
  simp only [pretty, hasSource, hasLine, ahead, behind]
  rw [Text.slice_eq_numberedLines (by omega) last, Text.slice_eq_numberedLines last (by omega)]
  rfl

/-- For a text of lines and a line of it the excerpt consists of the lines of the text from at most
`size` lines ahead up to that line, of its marker if the column is known, and of at most `size`
lines behind it; it stands below a heading and an empty line. The line above the marker is the line
on which suppression is tested. -/
theorem excerpt_marks_error_line (hasSource : location.source = some source)
    (hasLine : location.inSource.line = some (line : Int)) (counted : 1 ≤ line)
    (last : line ≤ (Text.lines source).length) (sized : 1 ≤ size) (files : FileTree) :
    ∃ marked text, location.errorLine files = pure (some marked) ∧
      (Text.numberedLines (Text.lines source) (line - size + 1) line).getLast? = some marked ∧
      location.pretty files size = .ok text ∧
      Text.lines text =
        Text.lines (location.heading ++ " in line " ++ toString line ++ ":"
          ++ shownNumber location.inSource.column) ++ [""] ++
        Text.numberedLines (Text.lines source) (line - size + 1) line ++
        markers marked location.inSource ++
        shownLines (Text.numberedLines (Text.lines source) (line + 1)
          (min (line + size) (Text.lines source).length)) := by
  have isMarked : (Text.lines source)[line - 1]? = some (Text.lines source)[line - 1] :=
    List.getElem?_eq_getElem (by omega)
  have upTo := Text.numberedLines_eq_concat (by omega : line - size + 1 ≤ line) isMarked counted
  refine ⟨_, _, errorLine_of_source hasSource hasLine counted isMarked files, ?_,
    pretty_of_source hasSource hasLine last files, ?_⟩
  · rw [upTo, List.getLast?_concat]
  · rw [Text.lines_append_blank, upTo, excerpt_eq_joinLines, ← upTo, Text.lines_joinLines]
    · simp only [List.append_assoc]
    · exact List.append_ne_nil_of_right_ne_nil _ (shownLines_ne_nil _)
    · intro shown isShown
      rw [List.mem_append, List.mem_append] at isShown
      rcases isShown with (ahead | isMarker) | behind
      · exact Text.oneLine_of_mem_numberedLines ahead
      · exact oneLine_of_mem_markers isMarker
      · exact oneLine_of_mem_shownLines (fun _ => Text.oneLine_of_mem_numberedLines) behind

/-! The third of four lines. The tab in front of what is marked is kept. -/

def loopSource : String := "x := 1;\nWHILE x < 9 DO\n\tx := x + y;\nEND_WHILE"

def loopLocation : Location where
  file := some "Loop.TcPOU"
  block := some "Loop"
  source := some loopSource
  inSource := ⟨some 3, some 4, some 8⟩

theorem lines_loopSource :
    Text.lines loopSource = ["x := 1;", "WHILE x < 9 DO", "\tx := x + y;", "END_WHILE"] := by
  decide +kernel

theorem loopLocation_marks_third_line :
    3 ≤ (Text.lines loopSource).length ∧
      loopLocation.errorLine {} = pure (some "\tx := x + y;") ∧
      ∃ text, loopLocation.pretty {} 2 = .ok text ∧
        Text.lines text = ["In Loop.TcPOU in function block Loop in line 3:4", "",
          "WHILE x < 9 DO", "\tx := x + y;", "\t  ^^^^", "END_WHILE"] := by
  have hasLine : loopLocation.inSource.line = some ((3 : Nat) : Int) := rfl
  have last : 3 ≤ (Text.lines loopSource).length := by rw [lines_loopSource]; decide
  obtain ⟨marked, text, tested, isMarked, shown, lines⟩ :=
    excerpt_marks_error_line rfl hasLine (by decide) last (by decide : 1 ≤ 2) {}
  rw [lines_loopSource] at isMarked lines
  cases isMarked
  refine ⟨last, tested, text, shown, lines.trans ?_⟩
  decide +kernel

end Location

end PlcLint
