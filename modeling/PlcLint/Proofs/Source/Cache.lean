import Mathlib.Data.List.Induction
import Mathlib.Data.Nat.Digits.Defs
import PlcLint.Proofs.FileTree.Within
import PlcLint.Proofs.Source.Stored

/-!
Parsing through a cache. An entry has the digest of a text in its name, so it can be told from any
place in the tree which text an entry is for. Through all edits and calls, entries for a text are
what is stored for the results of parsing it. So a call with a cache gives what a call without one
gives, unless something is in the way of its entry, or the results do not come back as they were.
-/

namespace PlcLint

namespace Text

theorem length_hexText {width code : Nat} (positive : 0 < width) (small : code < 16 ^ width) :
    (hexText width code).length = width := by
  have short : (Nat.toDigits 16 code).length ≤ width :=
    Nat.toDigits_length 16 code width positive small
  simp only [hexText, List.length_append, List.length_replicate]
  omega

theorem digitChar_ne_slash : ∀ digit < 16, '/' ≠ Nat.digitChar digit := by decide

theorem slash_not_mem_toDigits (code : Nat) : '/' ∉ Nat.toDigits 16 code := by
  induction code using Nat.strongRecOn with
  | ind code inductionHypothesis =>
      by_cases single : code < 16
      · rw [Nat.toDigits_of_lt_base single, List.mem_singleton]
        exact digitChar_ne_slash code single
      · rw [Nat.toDigits_of_base_le (by decide) (by omega), List.mem_append, not_or,
          List.mem_singleton]
        exact ⟨inductionHypothesis (code / 16) (by omega), digitChar_ne_slash _ (by omega)⟩

theorem slash_not_mem_hexText (width code : Nat) : '/' ∉ hexText width code := by
  intro membership
  rcases List.mem_append.mp membership with isZero | isDigit
  · exact absurd (List.mem_replicate.mp isZero).2 (by decide)
  · exact slash_not_mem_toDigits code isDigit

end Text

/-- Parsing depends on the bytes of a file, not on its path. -/
def Parser.OfBytes {Item : Type} (parser : Parser Item) : Prop :=
  ∀ path other text, parser.load path text = parser.load other text

namespace Source

/-! Names and places of entries. -/

theorem length_digest (version text : String) : (digest version text).toList.length = 64 := by
  simp only [digest, Sha256.digest, String.toList_ofList, Sha256.State.words, List.flatMap_cons,
    List.flatMap_nil, List.length_append, List.length_nil]
  have word (value : UInt32) : (Text.hexText 8 value.toNat).length = 8 :=
    Text.length_hexText (by decide) value.toNat_lt
  simp only [word]

theorem slash_not_mem_digest (version text : String) : '/' ∉ (digest version text).toList := by
  rw [digest, Sha256.digest, String.toList_ofList]
  intro membership
  obtain ⟨word, _, inWord⟩ := List.mem_flatMap.mp membership
  exact Text.slash_not_mem_hexText _ _ inWord

/-- The name of an entry for a text, in a file of this name. -/
def entryName (version name text : String) : String :=
  name ++ "." ++ digest version text ++ ".pkl"

/-- Where a cache directory holds the entry. -/
def entryPlace (version directory name text : String) : String :=
  Path.join (Path.lead [] (Path.parts directory) ++ [entryName version name text])

theorem suffix_entryName (version name text : String) :
    (digest version text ++ ".pkl").toList <:+ (entryName version name text).toList := by
  refine ⟨(name ++ ".").toList, ?_⟩
  simp [entryName]

theorem length_entryName (version name text : String) :
    68 ≤ (entryName version name text).toList.length := by
  have long := (suffix_entryName version name text).length_le
  rw [String.toList_append, List.length_append, length_digest] at long
  exact long

theorem entryName_ne {version name text other : String} (short : other.toList.length < 68) :
    entryName version name text ≠ other := by
  intro same
  have long := length_entryName version name text
  rw [same] at long
  omega

theorem isPart_entryName {name : String} (noSlash : '/' ∉ name.toList) (version text : String) :
    Path.IsPart (entryName version name text) := by
  refine ⟨entryName_ne (by decide), entryName_ne (by decide), ?_⟩
  simp [entryName, noSlash, slash_not_mem_digest]

theorem entryPath_eq_below (version directory path text : String) :
    entryPath version directory path text =
      Path.below directory (entryName version (Path.name path) text) := rfl

theorem parts_entryPath (version directory path text : String) :
    Path.parts (entryPath version directory path text) =
      Path.parts directory ++ [entryName version (Path.name path) text] := by
  rw [entryPath_eq_below, Path.parts_below,
    Path.parts_of_isPart (isPart_entryName (Path.noSlash_name path) version text)]

theorem entryName_ne_up (version name text : String) : entryName version name text ≠ ".." :=
  entryName_ne (by decide)

/-- The place of an entry tells the digest. -/
theorem digest_eq_of_join_eq {above below : List String} {version name other text more : String}
    (same : Path.join (above ++ [entryName version name text]) =
      Path.join (below ++ [entryName version other more])) :
    digest version text = digest version more := by
  have first := (suffix_entryName version name text).trans (Path.suffix_join above _)
  have second := (suffix_entryName version other more).trans (Path.suffix_join below _)
  rw [← same] at second
  have tails : (digest version text ++ ".pkl").toList = (digest version more ++ ".pkl").toList := by
    refine (List.suffix_of_suffix_length_le first second ?_).eq_of_length ?_
    all_goals simp [length_digest]
  rw [String.toList_append, String.toList_append] at tails
  exact String.toList_inj.mp (List.append_cancel_right tails)

theorem resolve?_entryPath {files : FileTree} {version directory path text place : String}
    (arrived : files.resolve? (entryPath version directory path text) = some place) :
    place = entryPlace version directory (Path.name path) text := by
  rw [FileTree.resolve?_eq_lead arrived, parts_entryPath, Path.lead_concat (entryName_ne_up _ _ _)]
  rfl

theorem file?_entryPath {files : FileTree} {version directory path text : String}
    {content : Content}
    (found : files.file? (entryPath version directory path text) = some content) :
    files.files.find? (entryPlace version directory (Path.name path) text) = some content := by
  obtain ⟨place, arrived, isContent⟩ := Option.bind_eq_some_iff.mp found
  rwa [resolve?_entryPath arrived] at isContent

section Below

variable {directory : String} (downward : Path.Downward directory)
include downward

theorem downward_entryPath (version path text : String) :
    Path.Downward (entryPath version directory path text) := by
  have isPart := isPart_entryName (Path.noSlash_name path) version text
  exact (downward.below (.of_isPart isPart (entryName_ne_up _ _ _))).normal

theorem entryPlace_eq_join (version name text : String) :
    entryPlace version directory name text =
      Path.join (Path.parts directory ++ [entryName version name text]) := by
  rw [entryPlace, Path.lead_of_not_mem downward.noUp, List.nil_append]

theorem file?_entryPath_eq (files : FileTree) (version path text : String) :
    files.file? (entryPath version directory path text) =
      files.files.find? (entryPlace version directory (Path.name path) text) := by
  have isNormal : Path.normal (entryPath version directory path text) =
      entryPath version directory path text := Path.normal_normal _
  rw [← isNormal, FileTree.file?_normal (downward_entryPath downward version path text),
    parts_entryPath, entryPlace_eq_join downward]

theorem hasDirectory_entryPath (files : FileTree) (version path text : String) :
    files.hasDirectory (entryPath version directory path text) =
      files.directories.contains (entryPlace version directory (Path.name path) text) := by
  rw [FileTree.hasDirectory_of_downward (downward_entryPath downward version path text),
    FileTree.isDirectory, parts_entryPath, entryPlace_eq_join downward]
  simp

theorem target_entryPath (files : FileTree) (version path text : String) :
    files.target (entryPath version directory path text) =
      entryPlace version directory (Path.name path) text := by
  rw [FileTree.target_of_not_mem (downward_entryPath downward version path text).noUp,
    parts_entryPath, entryPlace_eq_join downward]

end Below

theorem parse_of_bytes {Item : Type} {parser : Parser Item} (ofBytes : parser.OfBytes)
    (path other text : String) : parse parser path text = parse parser other text := by
  unfold parse items
  rw [ofBytes path other text]

/-! Runs: edits of source files, and calls to parse them. -/

structure Call where
  path : String
  directory : Option String
  useCache : Bool

section

variable {Item : Type} (parser : Parser Item)

namespace Call

/-- The cache directory that the call uses. -/
def cache? (call : Call) : Option String := if call.useCache then call.directory else none

def parse (files : FileTree) (call : Call) : Parsed :=
  parseFile parser call.cache? files call.path

theorem parse_cached (files : FileTree) (path directory : String) :
    parse parser files ⟨path, some directory, true⟩ =
      parseCached parser directory files (Path.normal path) := rfl

end Call

/-- An entry serves: it gives what parsing gives, or it can be made. -/
structure Serves (files : FileTree) (directory entry : String)
    (parsed : Except Fault (List ParseResult)) : Prop where
  /-- Results that have been stored come back as they were. -/
  durable : (files.file? entry).isSome → ∀ found, parsed = .ok found →
    ∀ result ∈ found, result.Durable
  /-- A directory in its place is reported, unless parsing fails in the same way. -/
  unblocked : files.file? entry = none → files.hasDirectory entry = true →
    parsed = .error .isADirectory
  canStore : files.file? entry = none → files.hasDirectory entry = false →
    ∀ found, parsed = .ok found → CanStore files directory found

/-- The entry that the call looks for, if any, serves. -/
def Call.Served (files : FileTree) (call : Call) : Prop :=
  ∀ directory text, call.cache? = some directory → files.read (Path.normal call.path) = .ok text →
    Serves files directory (entryPath parser.version directory (Path.normal call.path) text)
      (Source.parse parser (Path.normal call.path) text)

inductive Event where
  | write (path : String) (content : Content)
  | remove (path : String)
  | call (call : Call)

namespace Event

def apply (files : FileTree) : Event → FileTree
  | write path content => files.write path content
  | remove path => files.remove path
  | call request => (request.parse parser files).files

def cache? : Event → Option String
  | call request => request.cache?
  | _ => none

def text? : Event → Option String
  | write _ content => content.text?
  | _ => none

end Event

def after (files : FileTree) (events : List Event) : FileTree :=
  events.foldl (Event.apply parser) files

theorem after_concat (files : FileTree) (events : List Event) (event : Event) :
    after parser files (events ++ [event]) = event.apply parser (after parser files events) := by
  rw [after, List.foldl_append]
  rfl

theorem after_single (files : FileTree) (event : Event) :
    after parser files [event] = event.apply parser files := rfl

/-- The texts that files hold at some time of the run. -/
def texts (initial : FileTree) (events : List Event) : List String :=
  initial.files.values.filterMap Content.text? ++ events.filterMap Event.text?

/-- A run from empty cache directories, in which edits leave the entries of caches alone and the
digest tells apart the texts that occur. -/
structure Regular (initial : FileTree) (events : List Event) : Prop where
  distinct : ∀ first ∈ texts initial events, ∀ second ∈ texts initial events,
    digest parser.version first = digest parser.version second → first = second
  empty : ∀ directory ∈ events.filterMap Event.cache?, ∀ name,
    initial.files.find? (Path.join (Path.lead [] (Path.parts directory) ++ [name])) = none
  edits : ∀ before path content rest, events = before ++ .write path content :: rest →
    ∀ directory ∈ events.filterMap Event.cache?, ∀ name, ∀ text ∈ texts initial events,
      (after parser initial before).target path ≠ entryPlace parser.version directory name text

/-- Entries in the cache directories are what is stored for the results of parsing their texts. -/
structure Cached (directories texts : List String) (files : FileTree) : Prop where
  entries : ∀ directory ∈ directories, ∀ name, ∀ text ∈ texts, ∀ content,
    files.files.find? (entryPlace parser.version directory name text) = some content →
      ∃ path found, Source.parse parser path text = .ok found ∧ content = entryOf found
  texts : ∀ place value, files.files.find? place = some (.text value) → value ∈ texts

end

section

variable {Item : Type} {parser : Parser Item}

namespace Cached

variable {directories texts : List String} {files : FileTree}

theorem mem_texts_of_read (cached : Cached parser directories texts files) {path text : String}
    (isRead : files.read path = .ok text) : text ∈ texts := by
  obtain ⟨place, _, found⟩ := Option.bind_eq_some_iff.mp (FileTree.read_eq_ok_iff.mp isRead)
  exact cached.texts place text found

theorem write (cached : Cached parser directories texts files) {path : String} {content : Content}
    (known : ∀ value, content.text? = some value → value ∈ texts)
    (right : ∀ directory ∈ directories, ∀ name, ∀ text ∈ texts,
      files.target path = entryPlace parser.version directory name text →
        ∃ path found, Source.parse parser path text = .ok found ∧ content = entryOf found) :
    Cached parser directories texts (files.write path content) := by
  constructor
  · intro directory isDirectory name text isText found isFound
    rw [FileTree.find?_write] at isFound
    split at isFound
    · rename_i isTarget
      rw [← Option.some.inj isFound]
      exact right directory isDirectory name text isText isTarget.symm
    · exact cached.entries directory isDirectory name text isText found isFound
  · intro place value isFound
    rw [FileTree.find?_write] at isFound
    split at isFound
    · refine known value ?_
      rw [Option.some.inj isFound]
      rfl
    · exact cached.texts place value isFound

theorem remove (cached : Cached parser directories texts files) (path : String) :
    Cached parser directories texts (files.remove path) := by
  have kept {place : String} {content : Content}
      (found : (files.remove path).files.find? place = some content) :
      files.files.find? place = some content := by
    rw [FileTree.find?_remove] at found
    split at found
    · cases found
    · exact found
  exact ⟨fun directory isDirectory name text isText content found =>
    cached.entries directory isDirectory name text isText content (kept found),
    fun place value found => cached.texts place value (kept found)⟩

/-- Only the files of a tree count. -/
theorem of_files_eq (cached : Cached parser directories texts files) {other : FileTree}
    (same : other.files = files.files) : Cached parser directories texts other := by
  obtain ⟨entries, isText⟩ := cached
  constructor
  · rw [same]
    exact entries
  · rw [same]
    exact isText

/-- What a call stores is right for its text, so it is right wherever it is found. -/
theorem call (cached : Cached parser directories texts files)
    (distinct : ∀ first ∈ texts, ∀ second ∈ texts,
      digest parser.version first = digest parser.version second → first = second)
    (request : Call) : Cached parser directories texts (request.parse parser files).files := by
  rcases files_parseFile parser request.cache? files request.path with
    same | ⟨directory, text, found, made, _, isRead, isParsed, isMade, isWritten⟩
  · rwa [Call.parse, same]
  · rw [Call.parse, isWritten]
    refine (cached.of_files_eq (FileTree.files_makeDirectory isMade)).write ?_ ?_
    · intro value isText
      rw [text?_entryOf] at isText
      cases isText
    · intro other _ name more isText isTarget
      obtain ⟨above, isPlace⟩ := FileTree.target_concat
        (parts_entryPath parser.version directory (Path.normal request.path) text)
        (entryName_ne_up _ _ _) made
      have same : text = more := distinct text (cached.mem_texts_of_read isRead) more isText
        (digest_eq_of_join_eq (isPlace.symm.trans isTarget))
      exact ⟨_, found, same ▸ isParsed, rfl⟩

end Cached

theorem Regular.cached {initial : FileTree} {events : List Event}
    (regular : Regular parser initial events) {before rest : List Event}
    (isRun : events = before ++ rest) :
    Cached parser (events.filterMap Event.cache?) (texts initial events)
      (after parser initial before) := by
  induction before using List.reverseRecOn generalizing rest with
  | nil =>
      constructor
      · intro directory isDirectory name text _ content found
        rw [entryPlace, after, List.foldl_nil, regular.empty directory isDirectory] at found
        cases found
      · intro place value found
        refine List.mem_append_left _ (List.mem_filterMap.mpr ⟨.text value, ?_, rfl⟩)
        exact List.mem_map_of_mem (f := Prod.snd) (Table.mem_of_lookup found)
  | append_singleton before event inductionHypothesis =>
      rw [List.append_assoc] at isRun
      have cached := inductionHypothesis isRun
      rw [after_concat]
      cases event with
      | write path content =>
          refine cached.write (fun value isText => ?_) ?_
          · apply List.mem_append_right
            refine List.mem_filterMap.mpr ⟨.write path content, ?_, isText⟩
            rw [isRun]
            simp
          · intro directory isDirectory name text isText isTarget
            exact absurd isTarget
              (regular.edits before path content rest isRun directory isDirectory name text isText)
      | remove path => exact cached.remove path
      | call request => exact cached.call regular.distinct request

/-! What a call with a cache gives for a file that can be read. -/

section Outcome

variable {files : FileTree} {directory path text : String} (isRead : files.read path = .ok text)

include isRead

theorem outcome_of_entry {content : Content}
    (isEntry : files.file? (entryPath parser.version directory path text) = some content) :
    (parseCached parser directory files path).outcome = ofEntry content := by
  simp only [parseCached, isRead, isEntry]

theorem outcome_of_directory
    (noEntry : files.file? (entryPath parser.version directory path text) = none)
    (isDirectory : files.hasDirectory (entryPath parser.version directory path text) = true) :
    (parseCached parser directory files path).outcome = .error .isADirectory := by
  simp only [parseCached, isRead, noEntry, isDirectory, if_true]

theorem outcome_of_nothing
    (noEntry : files.file? (entryPath parser.version directory path text) = none)
    (noDirectory : files.hasDirectory (entryPath parser.version directory path text) = false) :
    (parseCached parser directory files path).outcome =
      (Source.parse parser path text).bind fun found =>
        (store files directory (entryPath parser.version directory path text) found).2 := by
  simp only [parseCached, isRead, noEntry, noDirectory, Bool.false_eq_true, if_false]
  cases Source.parse parser path text <;> rfl

theorem files_of_nothing
    (noEntry : files.file? (entryPath parser.version directory path text) = none)
    (noDirectory : files.hasDirectory (entryPath parser.version directory path text) = false)
    {found : List ParseResult} (isParsed : Source.parse parser path text = .ok found)
    {made : FileTree} (isMade : files.makeDirectory directory = .ok made) :
    (parseCached parser directory files path).files =
      made.write (entryPath parser.version directory path text) (entryOf found) := by
  simp only [parseCached, isRead, noEntry, noDirectory, isParsed, store_of_made isMade,
    Bool.false_eq_true, if_false]

/-- What is parsed now is what was parsed for the entry. -/
theorem Cached.outcome_eq_iff_serves {directories texts : List String}
    (cached : Cached parser directories texts files) (ofBytes : parser.OfBytes)
    (used : directory ∈ directories) :
    (parseCached parser directory files path).outcome = Source.parse parser path text ↔
      Serves files directory (entryPath parser.version directory path text)
        (Source.parse parser path text) := by
  cases isEntry : files.file? (entryPath parser.version directory path text) with
  | some content =>
      obtain ⟨other, found, isParsed, rfl⟩ := cached.entries directory used (Path.name path) text
        (cached.mem_texts_of_read isRead) content (file?_entryPath isEntry)
      rw [parse_of_bytes ofBytes other path] at isParsed
      rw [outcome_of_entry isRead isEntry, isParsed, ofEntry_entryOf]
      constructor
      · intro durable
        refine ⟨fun _ others same => ?_, fun none => ?_, fun none => ?_⟩
        · cases same
          exact durable
        · rw [isEntry] at none
          cases none
        · rw [isEntry] at none
          cases none
      · intro serves
        exact serves.durable (by rw [isEntry]; rfl) found rfl
  | none =>
      cases isDirectory : files.hasDirectory (entryPath parser.version directory path text) with
      | true =>
          rw [outcome_of_directory isRead isEntry isDirectory]
          constructor
          · intro same
            refine ⟨fun some => ?_, fun _ _ => same.symm, fun _ noDirectory => ?_⟩
            · rw [isEntry] at some
              cases some
            · rw [isDirectory] at noDirectory
              cases noDirectory
          · exact fun serves => (serves.unblocked isEntry isDirectory).symm
      | false =>
          rw [outcome_of_nothing isRead isEntry isDirectory]
          constructor
          · intro same
            refine ⟨fun some => ?_, fun _ directory => ?_, fun _ _ found isParsed => ?_⟩
            · rw [isEntry] at some
              cases some
            · rw [isDirectory] at directory
              cases directory
            · rw [isParsed] at same
              exact outcome_store_iff.mp same
          · intro serves
            cases isParsed : Source.parse parser path text with
            | error fault => rfl
            | ok found =>
                exact outcome_store_iff.mpr (serves.canStore isEntry isDirectory found isParsed)

end Outcome

/-- A call that uses a cache, and the same call without, at the same time. -/
theorem Cached.outcome_eq_iff {directories texts : List String} {files : FileTree}
    (cached : Cached parser directories texts files) (ofBytes : parser.OfBytes) {request : Call}
    (used : ∀ directory, request.cache? = some directory → directory ∈ directories) :
    (request.parse parser files).outcome =
        (Call.parse parser files { request with useCache := false }).outcome ↔
      request.Served parser files := by
  have fresh : (Call.parse parser files { request with useCache := false }).outcome =
      (files.read (Path.normal request.path)).bind
        (Source.parse parser (Path.normal request.path)) := rfl
  rw [fresh, Call.parse, Call.Served]
  cases isCache : request.cache? with
  | none =>
      refine iff_of_true rfl fun directory text isUsed => ?_
      cases isUsed
  | some directory =>
      change (parseCached parser directory files (Path.normal request.path)).outcome = _ ↔ _
      cases isRead : files.read (Path.normal request.path) with
      | error fault =>
          refine iff_of_true ?_ fun other text _ otherRead => ?_
          · simp only [parseCached, isRead, Except.bind]
          · cases otherRead
      | ok text =>
          refine (cached.outcome_eq_iff_serves isRead ofBytes (used directory isCache)).trans ?_
          constructor
          · intro serves other more isOther isMore
            cases isOther
            cases isMore
            exact serves
          · exact fun served => served directory text rfl rfl

theorem mem_caches_of_call {events before rest : List Event} {request : Call}
    (isRun : events = before ++ .call request :: rest) {directory : String}
    (isCache : request.cache? = some directory) : directory ∈ events.filterMap Event.cache? := by
  refine List.mem_filterMap.mpr ⟨.call request, ?_, isCache⟩
  rw [isRun]
  exact List.mem_append_right _ List.mem_cons_self

end

/-! Two files of one name in different directories, and a parser that finds one result in each,
which holds XML data. -/

def holding (held : Xml.Held) : Parser Unit where
  version := "0.3.0"
  load _ _ := .ok [.single ()]
  parse _ := .ok [⟨none, .null, [held]⟩]
  summarize _ := .ok {}

theorem holding_ofBytes (held : Xml.Held) : (holding held).OfBytes := fun _ _ _ => rfl

def leaf : Xml := .element { plain := "b" } [] [] []

def twinText : String := "x := y + 1;"

def twinTree : FileTree where
  files := ⟨[("a.st", .text twinText), ("d/a.st", .text twinText)]⟩
  directories := ["d"]

/-- One of the files is parsed, then it is changed, then the other one is parsed. -/
def twinEvents : List Event :=
  [.call ⟨"a.st", some "c", true⟩, .write "a.st" (.text "x := y + 2;"),
    .call ⟨"d/a.st", some "c", true⟩]

theorem parse_holding (held : Xml.Held) (path : String) :
    parse (holding held) path twinText = .ok [⟨none, .null, [held]⟩] := rfl

/-- No file in the directory `c` has such a path. -/
theorem join_c_ne {rest : List String} {other : String} (inside : rest ≠ [])
    (apart : other.toList.take 2 ≠ ['c', '/']) : Path.join ("c" :: rest) ≠ other := by
  rintro rfl
  rw [Path.join, String.intercalate_cons_of_ne_nil inside, String.toList_append,
    String.toList_append] at apart
  exact apart rfl

theorem find?_join_c {rest : List String} (inside : rest ≠ []) :
    twinTree.files.find? (Path.join ("c" :: rest)) = none := by
  refine List.lookup_eq_none_iff.mpr fun entry isEntry => bne_iff_ne.mpr (join_c_ne inside ?_)
  have apart : ∀ name ∈ twinTree.files.names, name.toList.take 2 ≠ ['c', '/'] := by decide
  exact apart entry.1 (List.mem_map_of_mem isEntry)

/-- At first there is no entry in the directory `c` or below it. -/
theorem nothing_in_c {directory : String} {rest : List String}
    (downward : Path.Downward directory) (inside : Path.parts directory = "c" :: rest)
    (version path text : String) :
    twinTree.file? (entryPath version directory path text) = none ∧
      twinTree.hasDirectory (entryPath version directory path text) = false := by
  have nonempty : rest ++ [entryName version (Path.name path) text] ≠ [] := by simp
  rw [file?_entryPath_eq downward, hasDirectory_entryPath downward, entryPlace_eq_join downward,
    inside, List.cons_append, List.contains_eq_mem, decide_eq_false_iff_not]
  refine ⟨find?_join_c nonempty, fun isKnown => ?_⟩
  exact join_c_ne nonempty (by decide) (List.mem_singleton.mp isKnown)

theorem digest_twinText_ne : digest "0.3.0" twinText ≠ digest "0.3.0" "x := y + 2;" := by
  decide +kernel

theorem twinEvents_regular (held : Xml.Held) : Regular (holding held) twinTree twinEvents where
  distinct := by
    have each (text : String) (occurs : text ∈ texts twinTree twinEvents) :
        text = twinText ∨ text = "x := y + 2;" := by
      have occurring : texts twinTree twinEvents = [twinText, twinText, "x := y + 2;"] := rfl
      simpa [occurring] using occurs
    intro first isFirst second isSecond same
    rcases each first isFirst with rfl | rfl <;> rcases each second isSecond with rfl | rfl
    · rfl
    · exact absurd same digest_twinText_ne
    · exact absurd same.symm digest_twinText_ne
    · rfl
  empty := by
    have directories : twinEvents.filterMap Event.cache? = ["c", "c"] := rfl
    rw [directories]
    intro directory isDirectory name
    obtain rfl : directory = "c" := by simpa using isDirectory
    exact find?_join_c (List.cons_ne_nil name [])
  edits := by
    intro before path content rest isRun directory isDirectory name text _
    have isWrite : Event.write path content ∈ twinEvents := by
      rw [isRun]
      exact List.mem_append_right _ List.mem_cons_self
    obtain ⟨rfl, rfl⟩ : path = "a.st" ∧ content = .text "x := y + 2;" := by
      simpa [twinEvents] using isWrite
    have directories : twinEvents.filterMap Event.cache? = ["c", "c"] := rfl
    rw [directories] at isDirectory
    obtain rfl : directory = "c" := by simpa using isDirectory
    have isTarget : (after (holding held) twinTree before).target "a.st" = "a.st" := rfl
    rw [isTarget]
    exact (join_c_ne (List.cons_ne_nil _ []) (by decide)).symm

/-- The files before the last call. -/
def twinsCached (held : Xml.Held) : FileTree :=
  after (holding held) twinTree (twinEvents.take 2)

def lastCall : Call := ⟨"d/a.st", some "c", true⟩

/-- Where both calls look for their entry. -/
def twinPlace : String := entryPlace "0.3.0" "c" "a.st" twinText

theorem twinPlace_ne {other : String} (apart : other.toList.take 2 ≠ ['c', '/']) :
    other ≠ twinPlace :=
  (join_c_ne (List.cons_ne_nil _ []) apart).symm

theorem find?_twinsCached (held : Xml.Held) (place : String) :
    (twinsCached held).files.find? place =
      if place = "a.st" then some (.text "x := y + 2;")
      else if place = twinPlace then some (entryOf [⟨none, .null, [held]⟩])
      else twinTree.files.find? place := by
  have downward : Path.Downward "c" := by decide
  have isRead : twinTree.read "a.st" = .ok twinText := rfl
  have isMade : twinTree.makeDirectory "c" = .ok (twinTree.addDirectories ["c"]) := rfl
  obtain ⟨noEntry, noDirectory⟩ :=
    nothing_in_c downward rfl (holding held).version "a.st" twinText
  have isStored := files_of_nothing isRead noEntry noDirectory (parse_holding held "a.st") isMade
  have isAfter : twinsCached held = (parseCached (holding held) "c" twinTree "a.st").files.write
      "a.st" (.text "x := y + 2;") := rfl
  rw [isAfter, FileTree.find?_write, FileTree.target_of_not_mem (by decide), isStored,
    FileTree.find?_write, target_entryPath downward]
  rfl

theorem read_twinsCached (held : Xml.Held) : (twinsCached held).read "d/a.st" = .ok twinText := by
  have downward : Path.Downward "d/a.st" := by decide
  have isNormal : Path.normal "d/a.st" = "d/a.st" := rfl
  have isPlace : Path.join (Path.parts "d/a.st") = "d/a.st" := rfl
  rw [FileTree.read_eq_ok_iff, ← isNormal, FileTree.file?_normal downward, isPlace,
    find?_twinsCached, if_neg (by decide), if_neg (twinPlace_ne (by decide))]
  rfl

/-- The entry is there, stored for the other file. -/
theorem entry_twinsCached (held : Xml.Held) :
    (twinsCached held).file? (entryPath "0.3.0" "c" "d/a.st" twinText) =
      some (entryOf [⟨none, .null, [held]⟩]) := by
  rw [file?_entryPath_eq (by decide)]
  change (twinsCached held).files.find? twinPlace = _
  rw [find?_twinsCached, if_neg (twinPlace_ne (by decide)).symm, if_pos rfl]

/-- So all depends on what comes back. -/
theorem lastCall_served_iff (held : Xml.Held) :
    lastCall.Served (holding held) (twinsCached held) ↔ held.Durable := by
  have isNormal : Path.normal lastCall.path = "d/a.st" := rfl
  have isParsed := parse_holding held "d/a.st"
  have isEntry := entry_twinsCached held
  have durable : (∀ result ∈ [(⟨none, .null, [held]⟩ : ParseResult)], result.Durable) ↔
      held.Durable := by simp [ParseResult.Durable]
  rw [Call.Served, isNormal, ← durable]
  constructor
  · intro served
    have serves := served "c" twinText rfl (read_twinsCached held)
    exact serves.durable (Option.isSome_of_eq_some isEntry) _ isParsed
  · intro isDurable directory text isCache isRead
    obtain rfl := Option.some.inj isCache
    obtain rfl := Except.ok.inj ((read_twinsCached held).symm.trans isRead)
    refine ⟨fun _ found same => ?_, fun none => ?_, fun none => ?_⟩
    · rw [isParsed] at same
      cases same
      exact isDurable
    · cases none.symm.trans isEntry
    · cases none.symm.trans isEntry

/-- A document of one element, and the element alone. -/
def heldTree : Xml.Held := .tree { root := leaf }

def heldElement : Xml.Held := .element ⟨leaf, [], ""⟩

theorem heldTree_durable : heldTree.Durable := by
  unfold heldTree Xml.Held.Durable
  rfl

def entryDirectory : String := entryPath "0.3.0" "c" "a.st" twinText

def blockingCall : Call := ⟨"a.st", some entryDirectory, true⟩

def blockedCall : Call := ⟨"a.st", some "c", true⟩

theorem downward_entryDirectory : Path.Downward entryDirectory :=
  downward_entryPath (by decide) _ _ _

theorem parts_entryDirectory :
    Path.parts entryDirectory = ["c", entryName "0.3.0" "a.st" twinText] :=
  parts_entryPath _ _ _ _

theorem twinPlace_eq_join : twinPlace = Path.join (Path.parts entryDirectory) := by
  rw [parts_entryDirectory]
  rfl

theorem blocking_regular (held : Xml.Held) :
    Regular (holding held) twinTree [.call blockingCall, .call blockedCall] where
  distinct := by
    have occurring : texts twinTree [.call blockingCall, .call blockedCall] =
        [twinText, twinText] := rfl
    intro first isFirst second isSecond _
    rw [occurring] at isFirst isSecond
    simp only [List.mem_cons, List.not_mem_nil, or_false, or_self] at isFirst isSecond
    rw [isFirst, isSecond]
  empty := by
    have directories : [Event.call blockingCall, .call blockedCall].filterMap Event.cache? =
        [entryDirectory, "c"] := rfl
    have leads : ∀ directory ∈ [entryDirectory, "c"],
        (Path.lead [] (Path.parts directory)).head? = some "c" := by
      rw [List.forall_mem_cons, List.forall_mem_singleton,
        Path.lead_of_not_mem downward_entryDirectory.noUp, parts_entryDirectory]
      exact ⟨rfl, rfl⟩
    rw [directories]
    intro directory isDirectory name
    obtain ⟨rest, isLead⟩ := List.head?_eq_some_iff.mp (leads directory isDirectory)
    rw [isLead]
    exact find?_join_c (List.append_ne_nil_of_right_ne_nil _ (List.cons_ne_nil name []))
  edits := by
    intro before path content rest isRun
    have isWrite : Event.write path content ∈ [Event.call blockingCall, .call blockedCall] := by
      rw [isRun]
      exact List.mem_append_right _ List.mem_cons_self
    simp at isWrite

/-- The files before the second call. -/
def blocked : FileTree := after (holding heldTree) twinTree [.call blockingCall]

theorem makeDirectory_entryDirectory :
    twinTree.makeDirectory entryDirectory = .ok (twinTree.addDirectories ["c", twinPlace]) := by
  have isTarget : twinTree.target entryDirectory = twinPlace :=
    target_entryPath (by decide) _ _ _ _
  have ancestors : Path.ancestors twinPlace = ["c"] := by
    have parts : Path.parts twinPlace = Path.parts entryDirectory := by
      rw [twinPlace_eq_join]
      exact Path.parts_join (Path.isPart_parts entryDirectory)
    rw [Path.ancestors, parts, parts_entryDirectory]
    rfl
  have noAncestor : (["c"] : List String).any twinTree.files.contains = false := rfl
  have noFile : twinTree.files.contains twinPlace = false := by
    rw [Table.contains, twinPlace_eq_join, parts_entryDirectory,
      find?_join_c (List.cons_ne_nil _ [])]
    rfl
  rw [FileTree.makeDirectory, isTarget, ancestors, noAncestor, noFile, if_neg Bool.false_ne_true,
    if_neg Bool.false_ne_true, if_neg (twinPlace_ne (by decide)).symm]
  rfl

theorem files_blocked : blocked = (twinTree.addDirectories ["c", twinPlace]).write
    (entryPath (holding heldTree).version entryDirectory "a.st" twinText)
    (entryOf [⟨none, .null, [heldTree]⟩]) := by
  have isRead : twinTree.read "a.st" = .ok twinText := rfl
  obtain ⟨noEntry, noDirectory⟩ := nothing_in_c downward_entryDirectory parts_entryDirectory
    (holding heldTree).version "a.st" twinText
  have isNormal : Path.normal "a.st" = "a.st" := rfl
  rw [blocked, after_single, Event.apply, blockingCall, Call.parse_cached, isNormal]
  exact files_of_nothing isRead noEntry noDirectory (parse_holding heldTree "a.st")
    makeDirectory_entryDirectory

theorem find?_blocked {place : String}
    (apart : place ≠ Path.join (Path.parts entryDirectory ++ [entryName "0.3.0" "a.st" twinText])) :
    blocked.files.find? place = twinTree.files.find? place := by
  rw [files_blocked, FileTree.find?_write, target_entryPath downward_entryDirectory,
    entryPlace_eq_join downward_entryDirectory]
  exact if_neg apart

theorem twinPlace_ne_within :
    twinPlace ≠ Path.join (Path.parts entryDirectory ++ [entryName "0.3.0" "a.st" twinText]) := by
  rw [twinPlace_eq_join]
  intro same
  have areParts := Path.isPart_parts entryDirectory
  have isPart : Path.IsPart (entryName "0.3.0" "a.st" twinText) :=
    areParts _ (parts_entryDirectory ▸ List.mem_cons_of_mem _ List.mem_cons_self)
  refine absurd (Path.join_inj areParts ?_ same) (by simp)
  exact List.forall_mem_append.mpr ⟨areParts, List.forall_mem_singleton.mpr isPart⟩

theorem blockedCall_not_served : ¬blockedCall.Served (holding heldTree) blocked := by
  have downward : Path.Downward "a.st" := by decide
  have isRead : blocked.read (Path.normal "a.st") = .ok twinText := by
    rw [FileTree.read_eq_ok_iff, FileTree.file?_normal downward, find?_blocked]
    · rfl
    · rw [parts_entryDirectory]
      exact (join_c_ne (List.cons_ne_nil _ _) (by decide)).symm
  have noEntry : blocked.file? (entryPath "0.3.0" "c" "a.st" twinText) = none := by
    rw [file?_entryPath_eq (by decide)]
    change blocked.files.find? twinPlace = none
    rw [find?_blocked twinPlace_ne_within, twinPlace_eq_join, parts_entryDirectory]
    exact find?_join_c (List.cons_ne_nil _ [])
  have isDirectory : blocked.hasDirectory (entryPath "0.3.0" "c" "a.st" twinText) = true := by
    rw [hasDirectory_entryPath (by decide), List.contains_iff_mem, files_blocked]
    refine FileTree.mem_directories_write ((FileTree.mem_addDirectories _ _).mpr (.inr ?_)) _ _
    exact List.mem_cons_of_mem _ List.mem_cons_self
  intro served
  have isParsed := (served "c" twinText rfl isRead).unblocked noEntry isDirectory
  cases isParsed.symm.trans (parse_holding heldTree _)

end Source

end PlcLint
