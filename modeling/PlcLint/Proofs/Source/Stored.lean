import PlcLint.Source

/-!
What is stored for results or sent to another process, and what comes back. XML data is written as
text and read as documents, so results come back as they were only if all that they hold are
documents, and are read as they are written. Faults come back as they were.
-/

namespace PlcLint

theorem ok_bind {α β : Type} (value : α) (next : α → Except Fault β) :
    (Except.ok value >>= next) = next value := rfl

/-- Items that are made into something else and back, all at once or one by one. -/
theorem mapM_bind_mapM_iff {α β : Type} {make : α → Except Fault β} {back : β → Except Fault α}
    {items : List α} :
    (items.mapM make >>= List.mapM back) = .ok items ↔
      ∀ item ∈ items, (make item >>= back) = .ok item := by
  induction items with
  | nil => simp [bind, Except.bind, pure, Except.pure]
  | cons item rest inductionHypothesis =>
      rw [List.forall_mem_cons, ← inductionHypothesis, List.mapM_cons]
      cases isMade : make item with
      | error fault => simp [bind, Except.bind]
      | ok made =>
          cases areMade : rest.mapM make with
          | error fault => simp [bind, Except.bind]
          | ok others =>
              simp only [bind, Except.bind, pure, Except.pure, List.mapM_cons]
              cases back made with
              | error fault => simp
              | ok found =>
                  cases others.mapM back with
                  | error fault => simp
                  | ok founds => simp

namespace Xml.Held

/-- XML data that comes back as it is: a document that is read as it is written. -/
def Durable : Held → Prop
  | element _ => False
  | tree document => parse (inAscii document.render) = .ok document

theorem ofStored_eq_map (text : String) : ofStored text = (parse text).map tree := by
  unfold ofStored
  cases parse text <;> rfl

theorem durable_iff (held : Held) : (held.stored >>= ofStored) = .ok held ↔ held.Durable := by
  cases held with
  | element selection =>
      refine iff_of_false (fun same => ?_) id
      cases isStored : (element selection).stored with
      | error fault =>
          rw [isStored] at same
          cases same
      | ok text =>
          rw [isStored, ok_bind, ofStored_eq_map] at same
          cases isRead : parse text with
          | error fault =>
              rw [isRead] at same
              cases same
          | ok document =>
              rw [isRead] at same
              cases same
  | tree document =>
      have isStored : (tree document).stored = .ok (inAscii document.render) := rfl
      rw [isStored, ok_bind, ofStored_eq_map, Durable]
      cases parse (inAscii document.render) with
      | error fault => simp [Except.map]
      | ok found => simp [Except.map]

end Xml.Held

namespace ParseResult

/-- A result that comes back as it is. -/
def Durable (result : ParseResult) : Prop := ∀ held ∈ result.xml, held.Durable

theorem durable_iff (result : ParseResult) :
    (result.stored >>= ofStored) = .ok result ↔ result.Durable := by
  have each : (result.xml.mapM Xml.Held.stored >>= List.mapM Xml.Held.ofStored) = .ok result.xml ↔
      result.Durable := by
    rw [mapM_bind_mapM_iff]
    exact forall_congr' fun held => imp_congr_right fun _ => held.durable_iff
  rw [← each, stored]
  cases result.xml.mapM Xml.Held.stored with
  | error fault => simp [bind, Except.bind]
  | ok texts =>
      simp only [bind, Except.bind, pure, Except.pure, ofStored]
      cases texts.mapM Xml.Held.ofStored with
      | error fault => simp
      | ok found =>
          simp only [Except.ok.injEq]
          constructor
          · exact congrArg ParseResult.xml
          · rintro rfl
            rfl

end ParseResult

theorem SyntaxError.received_sent (error : SyntaxError) : received error.sent = error := rfl

theorem Fault.received_eq (fault : Fault) : fault.received = fault := by
  cases fault with
  | unexpectedCharacter error => exact congrArg unexpectedCharacter error.received_sent
  | _ => rfl

namespace Source

theorem mapM_stored_bind_iff (found : List ParseResult) :
    (found.mapM ParseResult.stored >>= List.mapM ParseResult.ofStored) = .ok found ↔
      ∀ result ∈ found, result.Durable := by
  rw [mapM_bind_mapM_iff]
  exact forall_congr' fun result => imp_congr_right fun _ => result.durable_iff

/-- What a file gives comes in from another process as it is, unless results do not come back. -/
theorem received_eq_iff (outcome : Except Fault (List ParseResult)) :
    received outcome = outcome ↔
      ∀ found, outcome = .ok found → ∀ result ∈ found, result.Durable := by
  cases outcome with
  | error fault => simp [received, Fault.received_eq]
  | ok found =>
      simp only [Except.ok.injEq, forall_eq']
      rw [← mapM_stored_bind_iff, received]
      cases found.mapM ParseResult.stored with
      | error fault => simp [bind, Except.bind]
      | ok stored =>
          simp only [bind, Except.bind]
          cases stored.mapM ParseResult.ofStored <;> simp

/-- What is written to the entry for results. -/
def entryOf (found : List ParseResult) : Content :=
  match found.mapM ParseResult.stored with
  | .ok stored => .parsed stored
  | .error _ => .unfinished

theorem ofEntry_entryOf (found : List ParseResult) :
    ofEntry (entryOf found) = .ok found ↔ ∀ result ∈ found, result.Durable := by
  rw [← mapM_stored_bind_iff, entryOf]
  cases found.mapM ParseResult.stored with
  | error fault => simp [ofEntry, bind, Except.bind]
  | ok stored => rfl

/-- Results are never stored as a text. -/
theorem text?_entryOf (found : List ParseResult) : (entryOf found).text? = none := by
  unfold entryOf
  split <;> rfl

theorem store_of_made {files made : FileTree} {directory : String}
    (isMade : files.makeDirectory directory = .ok made) (entry : String)
    (found : List ParseResult) :
    store files directory entry found =
      (made.write entry (entryOf found), (found.mapM ParseResult.stored).map fun _ => found) := by
  unfold store entryOf
  rw [isMade]
  cases found.mapM ParseResult.stored <;> rfl

theorem files_store (files : FileTree) (directory entry : String) (found : List ParseResult) :
    (store files directory entry found).1 = files ∨
      ∃ made, files.makeDirectory directory = .ok made ∧
        (store files directory entry found).1 = made.write entry (entryOf found) := by
  cases isMade : files.makeDirectory directory with
  | error fault =>
      left
      rw [store, isMade]
  | ok made => exact .inr ⟨made, rfl, congrArg Prod.fst (store_of_made isMade entry found)⟩

/-- Results can be stored: the directory can be made, and all that they hold can be written. -/
def CanStore (files : FileTree) (directory : String) (found : List ParseResult) : Prop :=
  (∃ made, files.makeDirectory directory = .ok made) ∧
    ∃ stored, found.mapM ParseResult.stored = .ok stored

theorem outcome_store_iff {files : FileTree} {directory entry : String}
    {found : List ParseResult} :
    (store files directory entry found).2 = .ok found ↔ CanStore files directory found := by
  cases isMade : files.makeDirectory directory with
  | error fault =>
      unfold store
      simp [CanStore, isMade]
  | ok made =>
      rw [store_of_made isMade, CanStore, isMade]
      cases found.mapM ParseResult.stored with
      | error fault => simp [Except.map]
      | ok stored => simp [Except.map]

section

variable {Item : Type} (parser : Parser Item)

/-- What a call does to the files: nothing, or it writes the entry for what it has parsed. -/
theorem files_parseCached (directory : String) (files : FileTree) (path : String) :
    (parseCached parser directory files path).files = files ∨
      ∃ text found made, files.read path = .ok text ∧ parse parser path text = .ok found ∧
        files.makeDirectory directory = .ok made ∧
        (parseCached parser directory files path).files =
          made.write (entryPath parser.version directory path text) (entryOf found) := by
  unfold parseCached
  cases isRead : files.read path with
  | error fault => exact .inl rfl
  | ok text =>
      dsimp only
      cases files.file? (entryPath parser.version directory path text) with
      | some content => exact .inl rfl
      | none =>
          dsimp only
          split
          · exact .inl rfl
          cases isParsed : parse parser path text with
          | error fault => exact .inl rfl
          | ok found =>
              dsimp only
              rcases files_store files directory (entryPath parser.version directory path text)
                found with same | ⟨made, isMade, isWritten⟩
              · exact .inl same
              · exact .inr ⟨text, found, made, rfl, isParsed, isMade, isWritten⟩

theorem files_parseFile (directory : Option String) (files : FileTree) (path : String) :
    (parseFile parser directory files path).files = files ∨
      ∃ cache text found made, directory = some cache ∧
        files.read (Path.normal path) = .ok text ∧
        parse parser (Path.normal path) text = .ok found ∧
        files.makeDirectory cache = .ok made ∧
        (parseFile parser directory files path).files =
          made.write (entryPath parser.version cache (Path.normal path) text) (entryOf found) := by
  cases directory with
  | none => exact .inl rfl
  | some cache =>
      rcases files_parseCached parser cache files (Path.normal path) with
        same | ⟨text, found, made, isRead, isParsed, isMade, isWritten⟩
      · exact .inl same
      · exact .inr ⟨cache, text, found, made, rfl, isRead, isParsed, isMade, isWritten⟩

end

end Source

end PlcLint
