import Mathlib.Data.List.Nodup
import Mathlib.Data.List.Perm.Subperm
import PlcLint.Proofs.Scope.Alike

/-!
Tables merged from several ones. A later entry overrides an earlier one of the same name, and where
case is ignored the first spelling counts; so the order of the tables matters only where two of them
have entries under one name that differ.
-/

namespace PlcLint.Table

variable {α β : Type}

/-! One entry after the other. -/

theorem find?_put (table : Table α) (name : String) (value : α) (other : String) :
    (table.put name value).find? other = if other = name then some value else table.find? other := by
  change (putEntry name value table.entries).lookup other =
    if other = name then some value else table.entries.lookup other
  induction table.entries with
  | nil =>
      rw [putEntry, List.lookup_cons]
      by_cases same : other = name
      · simp [same]
      · rw [beq_false_of_ne same, if_neg same]
  | cons entry rest inductionHypothesis =>
      rw [putEntry]
      by_cases found : entry.1 = name
      · rw [if_pos found, List.lookup_cons, List.lookup_cons, found]
        by_cases same : other = name
        · simp [same]
        · rw [beq_false_of_ne same, if_neg same]
      · rw [if_neg found, List.lookup_cons, List.lookup_cons, inductionHypothesis]
        by_cases isFirst : other = entry.1
        · simp [isFirst, found]
        · rw [beq_false_of_ne isFirst]

theorem names_put (table : Table α) (name : String) (value : α) :
    (table.put name value).names =
      if name ∈ table.names then table.names else table.names ++ [name] := by
  rw [put, names, names]
  induction table.entries with
  | nil => simp [putEntry]
  | cons entry rest inductionHypothesis =>
      rw [putEntry]
      by_cases found : entry.1 = name
      · simp [found]
      · rw [if_neg found, List.map_cons, inductionHypothesis]
        by_cases later : name ∈ rest.map Prod.fst
        · simp [later]
        · simp [later, Ne.symm found]

theorem entries_put_of_not_mem {table : Table α} {name : String} (unknown : name ∉ table.names)
    (value : α) : (table.put name value).entries = table.entries ++ [(name, value)] := by
  change putEntry name value table.entries = _
  rw [names] at unknown
  generalize table.entries = entries at unknown ⊢
  induction entries with
  | nil => rfl
  | cons entry rest inductionHypothesis =>
      rw [List.map_cons, List.mem_cons, not_or] at unknown
      rw [putEntry, if_neg (Ne.symm unknown.1), inductionHypothesis unknown.2, List.cons_append]

/-! The entries of one table after the other. -/

theorem update_cons (table : Table α) (entry : String × α) (rest : List (String × α)) :
    table.update ⟨entry :: rest⟩ = (table.put entry.1 entry.2).update ⟨rest⟩ := rfl

theorem find?_update (table : Table α) (entries : List (String × α)) (name : String) :
    (table.update ⟨entries⟩).find? name = (entries.reverse.lookup name).or (table.find? name) := by
  induction entries generalizing table with
  | nil => rfl
  | cons entry rest inductionHypothesis =>
      rw [update_cons, inductionHypothesis, find?_put, List.reverse_cons, List.lookup_append,
        Option.or_assoc, List.lookup_cons]
      by_cases same : name = entry.1
      · simp [same]
      · simp [same, beq_false_of_ne same]

theorem find?_names_update (table : Table α) (entries : List (String × α))
    (test : String → Bool) :
    (table.update ⟨entries⟩).names.find? test =
      (table.names ++ entries.map Prod.fst).find? test := by
  induction entries generalizing table with
  | nil => rw [List.map_nil, List.append_nil, update, List.foldl_nil]
  | cons entry rest inductionHypothesis =>
      rw [update_cons, inductionHypothesis, names_put]
      by_cases known : entry.1 ∈ table.names
      · -- The name is found before, if it passes the test at all.
        rw [if_pos known, List.map_cons, List.find?_append, List.find?_append, List.find?_cons]
        cases passes : test entry.1 with
        | false => rfl
        | true =>
            obtain ⟨found, isFound⟩ : ∃ found, table.names.find? test = some found :=
              Option.isSome_iff_exists.mp (List.find?_isSome.mpr ⟨entry.1, known, passes⟩)
            simp [isFound]
      · rw [if_neg known, List.append_assoc, List.map_cons]
        rfl

theorem nodup_names_update {table : Table α} (distinct : table.names.Nodup)
    (entries : List (String × α)) : (table.update ⟨entries⟩).names.Nodup := by
  induction entries generalizing table with
  | nil => exact distinct
  | cons entry rest inductionHypothesis =>
      refine inductionHypothesis ?_
      rw [names_put]
      by_cases known : entry.1 ∈ table.names
      · rwa [if_pos known]
      · rw [if_neg known]
        exact distinct.append (List.nodup_singleton _) (by simpa using known)

theorem entries_update {table : Table α} {entries : List (String × α)}
    (distinct : (table.names ++ entries.map Prod.fst).Nodup) :
    (table.update ⟨entries⟩).entries = table.entries ++ entries := by
  induction entries generalizing table with
  | nil => rw [List.append_nil, update, List.foldl_nil]
  | cons entry rest inductionHypothesis =>
      have unknown : entry.1 ∉ table.names := fun known =>
        (List.nodup_append.mp distinct).2.2 _ known _ (by simp) rfl
      have onward : ((table.put entry.1 entry.2).names ++ rest.map Prod.fst).Nodup := by
        rw [names_put, if_neg unknown, List.append_assoc]
        exact distinct
      rw [update_cons, inductionHypothesis onward, entries_put_of_not_mem unknown,
        List.append_assoc, List.singleton_append]

theorem values_put_subperm (table : Table α) (name : String) (value : α) :
    (table.put name value).values.Subperm (table.values ++ [value]) := by
  change ((putEntry name value table.entries).map Prod.snd).Subperm
    (table.entries.map Prod.snd ++ [value])
  induction table.entries with
  | nil => exact .refl _
  | cons entry rest inductionHypothesis =>
      rw [putEntry]
      by_cases found : entry.1 = name
      · rw [if_pos found, List.map_cons, List.map_cons]
        refine (List.perm_append_singleton _ _).symm.subperm.trans (List.Sublist.subperm ?_)
        exact List.sublist_cons_self _ _
      · rw [if_neg found, List.map_cons, List.map_cons, List.cons_append]
        exact (List.subperm_cons entry.2).mpr inductionHypothesis

theorem values_update_subperm (table : Table α) (entries : List (String × α)) :
    (table.update ⟨entries⟩).values.Subperm (table.values ++ entries.map Prod.snd) := by
  induction entries generalizing table with
  | nil =>
      rw [List.map_nil, List.append_nil]
      exact .refl _
  | cons entry rest inductionHypothesis =>
      rw [update_cons, List.map_cons, List.append_cons]
      exact List.Subperm.trans (inductionHypothesis _)
        ((values_put_subperm table _ _).append (.refl _))

theorem map_put (f : α → β) (table : Table α) (name : String) (value : α) :
    (table.put name value).map f = (table.map f).put name (f value) := by
  rw [put, put, map, map]
  congr 1
  induction table.entries with
  | nil => rfl
  | cons entry rest inductionHypothesis =>
      rw [putEntry, List.map_cons, putEntry]
      by_cases found : entry.1 = name
      · simp [found]
      · simp [found, inductionHypothesis]

theorem map_update (f : α → β) (table later : Table α) :
    (table.update later).map f = (table.map f).update (later.map f) := by
  obtain ⟨entries⟩ := later
  induction entries generalizing table with
  | nil => rfl
  | cons entry rest inductionHypothesis =>
      rw [update_cons, inductionHypothesis, map_put]
      rfl

/-! Look-up where case is ignored. -/

theorem find?_map (f : α → β) (table : Table α) (name : String) :
    (table.map f).find? name = (table.find? name).map f := by
  rw [find?, find?, map]
  induction table.entries with
  | nil => rfl
  | cons entry rest inductionHypothesis =>
      rw [List.map_cons, List.lookup_cons, List.lookup_cons, inductionHypothesis]
      cases name == entry.1 <;> rfl

theorem seek_map (f : α → β) (strict : Bool) (table : Table α) (name : String) :
    Scope.seek strict (table.map f) name =
      (Scope.seek strict table name).map fun entry => (entry.1, f entry.2) := by
  rw [Scope.seek, Scope.seek]
  cases strict with
  | true => simp [find?_map, Function.comp_def]
  | false =>
      simp only [Bool.false_eq_true, if_false]
      rw [findNamed?, findNamed?, find?_map]
      cases table.find? name with
      | some value => rfl
      | none =>
          simp only [Option.map_none, map, List.find?_map]
          rfl

/-! Found entries. -/

theorem mem_of_lookup {entries : List (String × α)} {name : String} {value : α}
    (found : entries.lookup name = some value) : (name, value) ∈ entries := by
  obtain ⟨before, after, rfl, _⟩ := List.lookup_eq_some_iff.mp found
  exact List.mem_append_right _ List.mem_cons_self

theorem mem_values_of_find? {table : Table α} {name : String} {value : α}
    (found : table.find? name = some value) : value ∈ table.values :=
  List.mem_map_of_mem (mem_of_lookup found)

theorem mem_values_of_findFolded? {table : Table α} {name : String} {value : α}
    (found : table.findFolded? name = some value) : value ∈ table.values := by
  obtain ⟨entry, isEntry, rfl⟩ := Option.map_eq_some_iff.mp found
  rw [findNamed?] at isEntry
  split at isEntry
  · cases isEntry
    exact mem_values_of_find? ‹_›
  · exact List.mem_map_of_mem (List.mem_of_find?_eq_some isEntry)

theorem find?_eq_none_iff {table : Table α} {name : String} :
    table.find? name = none ↔ name ∉ table.names := by
  rw [find?, List.lookup_eq_none_iff]
  constructor
  · intro differ isName
    obtain ⟨entry, isEntry, rfl⟩ := List.mem_map.mp isName
    exact bne_iff_ne.mp (differ entry isEntry) rfl
  · intro unknown entry isEntry
    exact bne_iff_ne.mpr fun same => unknown (same ▸ List.mem_map_of_mem isEntry)

/-- A name that agrees with none of the table's names, ignoring case, is not found. -/
theorem seek_eq_none {table : Table α} {name : String}
    (unknown : ∀ known ∈ table.names, Text.lower known ≠ Text.lower name) (strict : Bool) :
    Scope.seek strict table name = none := by
  have exactly : table.find? name = none :=
    find?_eq_none_iff.mpr fun isName => unknown name isName rfl
  have folded : table.findNamed? name = none := by
    rw [findNamed?, exactly]
    refine List.find?_eq_none.mpr fun entry isEntry agrees => ?_
    exact unknown entry.1 (List.mem_map_of_mem isEntry) (eq_of_beq agrees)
  rw [Scope.seek, exactly, folded]
  cases strict <;> rfl

/-- The entry under the first name that agrees. -/
theorem findNamed?_eq {table : Table α} (distinct : table.names.Nodup) (name : String) :
    table.findNamed? name =
      match table.find? name with
      | some value => some (name, value)
      | none => (table.names.find? fun key => Text.lower key == Text.lower name).bind fun key =>
          (table.find? key).map fun value => (key, value) := by
  rw [findNamed?]
  cases exact : table.find? name with
  | some value => rfl
  | none =>
      simp only
      rw [names, List.find?_map]
      cases found : table.entries.find? ((fun key => Text.lower key == Text.lower name) ∘ Prod.fst)
        with
      | none => simpa using found
      | some entry =>
          have member := List.mem_of_find?_eq_some found
          obtain ⟨before, after, split⟩ := List.append_of_mem member
          have isValue : table.find? entry.1 = some entry.2 := by
            rw [find?, List.lookup_eq_some_iff]
            refine ⟨before, after, split, fun other inBefore => ?_⟩
            rw [names, split, List.map_append, List.map_cons] at distinct
            have differs := (List.nodup_append.mp distinct).2.2 _ (List.mem_map_of_mem inBefore) _
              List.mem_cons_self
            simpa using Ne.symm differs
          simpa [isValue] using! found

/-! Merged tables. -/

def merged (tables : List (Table α)) : Table α := tables.foldl update {}

theorem merged_eq_update (tables : List (Table α)) :
    merged tables = update {} ⟨tables.flatMap entries⟩ := by
  have onto (table : Table α) :
      tables.foldl update table = table.update ⟨tables.flatMap entries⟩ := by
    induction tables generalizing table with
    | nil => rfl
    | cons first rest inductionHypothesis =>
        rw [List.foldl_cons, inductionHypothesis, List.flatMap_cons, update, update, update,
          List.foldl_append]
  exact onto {}

/-- Entries under different names are all there, in their order. -/
theorem entries_merged {tables : List (Table α)} (distinct : (tables.flatMap names).Nodup) :
    (merged tables).entries = tables.flatMap entries := by
  rw [merged_eq_update]
  refine entries_update ?_
  rw [List.map_flatMap]
  exact distinct

theorem map_merged (f : α → β) (tables : List (Table α)) :
    (merged tables).map f = merged (tables.map (map f)) := by
  have onto (table : Table α) :
      (tables.foldl update table).map f = (tables.map (map f)).foldl update (table.map f) := by
    induction tables generalizing table with
    | nil => rfl
    | cons first rest inductionHypothesis =>
        rw [List.foldl_cons, inductionHypothesis, List.map_cons, List.foldl_cons, map_update]
  exact onto {}

/-- Entries under names that agree when case is ignored are the same. -/
def Consistent (first second : Table α) : Prop :=
  ∀ a ∈ first.entries, ∀ b ∈ second.entries, Text.lower a.1 = Text.lower b.1 → a = b

theorem Consistent.symm {first second : Table α} (consistent : Consistent first second) :
    Consistent second first :=
  fun b inSecond a inFirst same => (consistent a inFirst b inSecond same.symm).symm

theorem pairwise_consistent {tables : List (Table α)}
    (distinct : ((tables.flatMap names).map Text.lower).Nodup) : tables.Pairwise Consistent := by
  rw [List.map_flatMap, List.nodup_flatMap] at distinct
  refine distinct.2.imp fun {first second} apart a inFirst b inSecond same => ?_
  have ofFirst : Text.lower a.1 ∈ first.names.map Text.lower :=
    List.mem_map_of_mem (List.mem_map_of_mem inFirst)
  have ofSecond : Text.lower b.1 ∈ second.names.map Text.lower :=
    List.mem_map_of_mem (List.mem_map_of_mem inSecond)
  exact (apart ofFirst (same ▸ ofSecond)).elim

section Reordered

variable {tables others : List (Table α)}

theorem lookup_perm (perm : tables.Perm others) (consistent : tables.Pairwise Consistent)
    (name : String) :
    (tables.flatMap entries).reverse.lookup name =
      (others.flatMap entries).reverse.lookup name := by
  induction perm with
  | nil => rfl
  | cons table perm inductionHypothesis =>
      simp only [List.flatMap_cons, List.reverse_append, List.lookup_append]
      rw [inductionHypothesis (List.pairwise_cons.mp consistent).2]
  | swap first second rest =>
      have agree := (List.pairwise_cons.mp consistent).1 first List.mem_cons_self
      simp only [List.flatMap_cons, List.reverse_append, List.lookup_append, Option.or_assoc]
      congr 1
      cases inFirst : first.entries.reverse.lookup name with
      | none => simp
      | some value =>
          cases inSecond : second.entries.reverse.lookup name with
          | none => simp
          | some other =>
              have same := agree _ (List.mem_reverse.mp (mem_of_lookup inSecond)) _
                (List.mem_reverse.mp (mem_of_lookup inFirst)) rfl
              simpa using (Prod.mk.inj same).2.symm
  | trans first second firstHypothesis secondHypothesis =>
      rw [firstHypothesis consistent,
        secondHypothesis ((first.pairwise_iff Consistent.symm).mp consistent)]

theorem find?_names_perm (perm : tables.Perm others) (consistent : tables.Pairwise Consistent)
    (lowered : String) :
    ((tables.flatMap entries).map Prod.fst).find? (fun key => Text.lower key == lowered) =
      ((others.flatMap entries).map Prod.fst).find? fun key => Text.lower key == lowered := by
  induction perm with
  | nil => rfl
  | cons table perm inductionHypothesis =>
      simp only [List.flatMap_cons, List.map_append, List.find?_append]
      rw [inductionHypothesis (List.pairwise_cons.mp consistent).2]
  | swap first second rest =>
      have agree := (List.pairwise_cons.mp consistent).1 first List.mem_cons_self
      simp only [List.flatMap_cons, List.map_append, List.find?_append, ← Option.or_assoc]
      congr 1
      cases inFirst : (first.entries.map Prod.fst).find? fun key => Text.lower key == lowered with
      | none => simp
      | some key =>
          cases inSecond : (second.entries.map Prod.fst).find? fun key => Text.lower key == lowered
            with
          | none => simp
          | some other =>
              obtain ⟨a, aInside, rfl⟩ := List.mem_map.mp (List.mem_of_find?_eq_some inFirst)
              obtain ⟨b, bInside, rfl⟩ := List.mem_map.mp (List.mem_of_find?_eq_some inSecond)
              have aLowered := List.find?_some inFirst
              have bLowered := List.find?_some inSecond
              rw [beq_iff_eq] at aLowered bLowered
              simp [agree b bInside a aInside (bLowered.trans aLowered.symm)]
  | trans first second firstHypothesis secondHypothesis =>
      rw [firstHypothesis consistent,
        secondHypothesis ((first.pairwise_iff Consistent.symm).mp consistent)]

theorem merged_alike (perm : tables.Perm others) (consistent : tables.Pairwise Consistent) :
    (merged tables).Alike (merged others) := by
  rw [merged_eq_update, merged_eq_update]
  have find (name : String) : (update {} ⟨tables.flatMap entries⟩).find? name =
      (update {} ⟨others.flatMap entries⟩).find? name := by
    rw [find?_update, find?_update, lookup_perm perm consistent]
  have firstNamed (lowered : String) : ((update {} ⟨tables.flatMap entries⟩).names.find? fun key =>
      Text.lower key == lowered) =
        (update {} ⟨others.flatMap entries⟩).names.find? fun key => Text.lower key == lowered := by
    rw [find?_names_update, find?_names_update, List.find?_append, List.find?_append,
      find?_names_perm perm consistent]
  have distinct : ({} : Table α).names.Nodup := List.nodup_nil
  refine ⟨find, fun name => ?_⟩
  rw [findNamed?_eq (nodup_names_update distinct _), findNamed?_eq (nodup_names_update distinct _),
    find, firstNamed]
  simp only [find]

/-- Tables without common names give the same entries in every order. -/
theorem entries_merged_perm (perm : tables.Perm others)
    (distinct : ((tables.flatMap names).map Text.lower).Nodup) :
    (merged tables).entries.Perm (merged others).entries := by
  have named : (tables.flatMap names).Perm (others.flatMap names) := perm.flatMap_right _
  have distinctNames : (tables.flatMap names).Nodup := List.Nodup.of_map _ distinct
  rw [entries_merged distinctNames, entries_merged (named.nodup_iff.mp distinctNames)]
  exact perm.flatMap_right _

end Reordered

end PlcLint.Table
