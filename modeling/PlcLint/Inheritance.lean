import PlcLint.Declared

/-!
Inheritance: a function block or data type together with what its bases declare. How it is put
together is left open. It is known that what a block declares itself stays, which routines are
offered in the end, and that the order in which the code lists its parts has no bearing on it.
-/

namespace PlcLint

namespace FunctionBlock

def routineNames (block : FunctionBlock) : List String :=
  block.methods.map (·.name) ++ block.properties.map (·.name)

/-- The block declares a method or property of this name, or extends a block that offers one. A base
is known under its exact name only. -/
inductive Offers (blocks : Table FunctionBlock) (name : String) : FunctionBlock → Prop where
  | declared {block : FunctionBlock} (own : name ∈ block.routineNames) : Offers blocks name block
  | inherited {block parent : FunctionBlock} {base : String} (extended : base ∈ block.bases.getD [])
      (known : blocks.find? base = some parent) (offers : Offers blocks name parent) :
      Offers blocks name block

end FunctionBlock

/-- Both tables have the same entries, in whatever order. -/
structure Table.Rearranged {α : Type} (first second : Table α) : Prop where
  find : ∀ name, first.find? name = second.find? name
  count : first.entries.length = second.entries.length

structure Inheritance where
  block : Table FunctionBlock → FunctionBlock → FunctionBlock
  type : Table DataType → DataType → DataType
  keeps : ∀ blocks found, ∀ method ∈ found.methods, method ∈ (block blocks found).methods
  offers : ∀ blocks found name,
    name ∈ (block blocks found).routineNames ↔ found.Offers blocks name
  block_rearranged : ∀ {first second : Table FunctionBlock}, first.Rearranged second →
    ∀ found, block first found = block second found
  type_rearranged : ∀ {first second : Table DataType}, first.Rearranged second →
    ∀ found, type first found = type second found

/-! Inheritance by the names of bases. -/

/-- A function block with all that it inherits, base blocks first. Bases are found by their
exact names; a name that is inherited twice keeps its first place and takes the last value. The
number bounds the length of a chain of bases. -/
def FunctionBlock.inherited (blocks : Table FunctionBlock) : Nat → FunctionBlock → FunctionBlock
  | 0, block => block
  | depth + 1, block =>
    let bases := ((block.bases.getD []).filterMap blocks.find?).map
      (FunctionBlock.inherited blocks depth)
    { block with
      declarations :=
        ((bases.map (·.declarations)).foldl Table.update {}).update block.declarations
      methods := bases.flatMap (·.methods) ++ block.methods
      properties := bases.flatMap (·.properties) ++ block.properties }

def DataType.inherited (types : Table DataType) : Nat → DataType → DataType
  | 0, type => type
  | depth + 1, type =>
    match type.base.bind types.find? with
    | none => type
    | some base =>
      { type with
        declarations := (base.inherited types depth).declarations.update type.declarations }

namespace FunctionBlock

section

variable {blocks : Table FunctionBlock} {name : String} {block : FunctionBlock} {depth : Nat}

theorem mem_routineNames_inherited_iff :
    name ∈ (block.inherited blocks (depth + 1)).routineNames ↔
      name ∈ block.routineNames ∨
        ∃ base ∈ block.bases.getD [], ∃ parent, blocks.find? base = some parent ∧
          name ∈ (parent.inherited blocks depth).routineNames := by
  simp only [inherited, routineNames, List.mem_append, List.mem_map, List.mem_flatMap,
    List.mem_filterMap]
  grind

theorem offers_of_mem_inherited
    (membership : name ∈ (block.inherited blocks depth).routineNames) :
    Offers blocks name block := by
  induction depth generalizing block with
  | zero => exact .declared membership
  | succ depth inductionHypothesis =>
      rcases mem_routineNames_inherited_iff.mp membership with
        own | ⟨base, extended, parent, known, offered⟩
      · exact .declared own
      · exact .inherited extended known (inductionHypothesis offered)

theorem mem_inherited_of_offers (offers : Offers blocks name block) :
    ∃ depth, name ∈ (block.inherited blocks depth).routineNames := by
  induction offers with
  | declared own => exact ⟨0, own⟩
  | inherited extended known _ inductionHypothesis =>
      obtain ⟨depth, offered⟩ := inductionHypothesis
      exact ⟨depth + 1, mem_routineNames_inherited_iff.mpr (.inr ⟨_, extended, _, known, offered⟩)⟩

theorem mem_inherited_of_le {more : Nat} (deeper : depth ≤ more)
    (membership : name ∈ (block.inherited blocks depth).routineNames) :
    name ∈ (block.inherited blocks more).routineNames := by
  induction depth generalizing block more with
  | zero =>
      cases more with
      | zero => exact membership
      | succ more => exact mem_routineNames_inherited_iff.mpr (.inl membership)
  | succ depth inductionHypothesis =>
      obtain ⟨more, rfl⟩ : ∃ less, more = less + 1 := ⟨more - 1, by omega⟩
      refine mem_routineNames_inherited_iff.mpr
        ((mem_routineNames_inherited_iff.mp membership).imp_right ?_)
      rintro ⟨base, extended, parent, known, offered⟩
      exact ⟨base, extended, parent, known, inductionHypothesis (by omega) offered⟩

/-- The least number of steps over bases after which the name is offered. -/
def OffersAfter (blocks : Table FunctionBlock) (name : String) (depth : Nat)
    (block : FunctionBlock) : Prop :=
  name ∈ (block.inherited blocks depth).routineNames ∧
    ∀ less < depth, name ∉ (block.inherited blocks less).routineNames

theorem exists_offersAfter (membership : name ∈ (block.inherited blocks depth).routineNames) :
    ∃ least, OffersAfter blocks name least block := by
  induction depth using Nat.strongRecOn with
  | ind depth inductionHypothesis =>
      by_cases earlier : ∃ less < depth, name ∈ (block.inherited blocks less).routineNames
      · obtain ⟨less, isLess, inLess⟩ := earlier
        exact inductionHypothesis less isLess inLess
      · exact ⟨depth, membership, fun less isLess inLess => earlier ⟨less, isLess, inLess⟩⟩

/-- Each of these steps goes to a block of a name of its own: the blocks on the way differ in the
number of steps that are left. -/
theorem OffersAfter.names (offered : OffersAfter blocks name depth block) :
    ∃ names : List String, names.Nodup ∧ names.length = depth ∧
      ∀ base ∈ names, ∃ parent, blocks.find? base = some parent ∧
        ∃ less < depth, OffersAfter blocks name less parent := by
  induction depth generalizing block with
  | zero => exact ⟨[], List.nodup_nil, rfl, by simp⟩
  | succ depth inductionHypothesis =>
      obtain ⟨membership, least⟩ := offered
      rcases mem_routineNames_inherited_iff.mp membership with
        own | ⟨base, extended, parent, known, inParent⟩
      · exact absurd own (least 0 (Nat.succ_pos depth))
      · have afterParent : OffersAfter blocks name depth parent := by
          refine ⟨inParent, fun less isLess inLess => least (less + 1) (by omega) ?_⟩
          exact mem_routineNames_inherited_iff.mpr (.inr ⟨base, extended, parent, known, inLess⟩)
        obtain ⟨names, distinct, count, onWay⟩ := inductionHypothesis afterParent
        refine ⟨base :: names, List.nodup_cons.mpr ⟨fun again => ?_, distinct⟩,
          congrArg Nat.succ count, ?_⟩
        · obtain ⟨same, isSame, less, isLess, afterSame⟩ := onWay base again
          cases known.symm.trans isSame
          exact afterParent.2 less isLess afterSame.1
        · intro other isOther
          rcases List.mem_cons.mp isOther with rfl | later
          · exact ⟨parent, known, depth, Nat.lt_succ_self depth, afterParent⟩
          · obtain ⟨found, isFound, less, isLess, afterFound⟩ := onWay other later
            exact ⟨found, isFound, less, Nat.lt_succ_of_lt isLess, afterFound⟩

end

end FunctionBlock

theorem Table.mem_names_of_find? {α : Type} {table : Table α} {name : String} {value : α}
    (found : table.find? name = some value) : name ∈ table.names := by
  obtain ⟨before, after, split, _⟩ := List.lookup_eq_some_iff.mp found
  simp [names, split]

/-- Different names of a table are no more than its entries. -/
theorem Table.length_le_of_nodup {α : Type} (table : Table α) {names : List String}
    (distinct : names.Nodup) (known : ∀ name ∈ names, name ∈ table.names) :
    names.length ≤ table.entries.length := by
  rw [← List.length_map Prod.fst]
  change names.length ≤ table.names.length
  generalize table.names = all at known
  induction names generalizing all with
  | nil => exact Nat.zero_le _
  | cons name rest inductionHypothesis =>
      obtain ⟨fresh, restDistinct⟩ := List.nodup_cons.mp distinct
      obtain ⟨isKnown, restKnown⟩ := List.forall_mem_cons.mp known
      have others : ∀ other ∈ rest, other ∈ all.erase name := by
        intro other isOther
        refine (List.mem_erase_of_ne ?_).mpr (restKnown other isOther)
        rintro rfl
        exact fresh isOther
      have shorter := inductionHypothesis restDistinct (all.erase name) others
      have positive := List.length_pos_of_mem isKnown
      rw [List.length_erase_of_mem isKnown] at shorter
      rw [List.length_cons]
      omega

namespace FunctionBlock

/-- The bound on chains of bases leaves nothing out. -/
theorem mem_routineNames_inherited {blocks : Table FunctionBlock} {block : FunctionBlock}
    {name : String} :
    name ∈ (block.inherited blocks (blocks.entries.length + 1)).routineNames ↔
      block.Offers blocks name := by
  refine ⟨offers_of_mem_inherited, fun offers => ?_⟩
  obtain ⟨depth, somewhere⟩ := mem_inherited_of_offers offers
  obtain ⟨least, offered⟩ := exists_offersAfter somewhere
  obtain ⟨names, distinct, rfl, onWay⟩ := offered.names
  have short := blocks.length_le_of_nodup distinct fun base isBase =>
    have ⟨_, known, _⟩ := onWay base isBase
    Table.mem_names_of_find? known
  exact mem_inherited_of_le (Nat.le_succ_of_le short) offered.1

theorem inherited_rearranged {first second : Table FunctionBlock}
    (rearranged : first.Rearranged second) (depth : Nat) (block : FunctionBlock) :
    block.inherited first depth = block.inherited second depth := by
  induction depth generalizing block with
  | zero => rfl
  | succ depth inductionHypothesis =>
      rw [inherited, inherited, funext rearranged.find, funext inductionHypothesis]

end FunctionBlock

theorem DataType.inherited_rearranged {first second : Table DataType}
    (rearranged : first.Rearranged second) (depth : Nat) (type : DataType) :
    type.inherited first depth = type.inherited second depth := by
  induction depth generalizing type with
  | zero => rfl
  | succ depth inductionHypothesis =>
      rw [inherited, inherited, funext rearranged.find]
      simp only [inductionHypothesis]

/-- Blocks and types inherit from those whose names they give exactly. -/
def Inheritance.byName : Inheritance where
  block blocks found := found.inherited blocks (blocks.entries.length + 1)
  type types found := found.inherited types (types.entries.length + 1)
  keeps _ _ _ isMethod := List.mem_append_right _ isMethod
  offers _ _ _ := FunctionBlock.mem_routineNames_inherited
  block_rearranged rearranged found := by
    rw [rearranged.count, FunctionBlock.inherited_rearranged rearranged]
  type_rearranged rearranged found := by
    rw [rearranged.count, DataType.inherited_rearranged rearranged]

end PlcLint
