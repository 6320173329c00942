import Mathlib.Data.List.Induction
import Mathlib.Data.List.Nodup
import PlcLint.Check.Registry
import PlcLint.Proofs.Suppression

/-!
The registry after any registrations. It lists the checks that were accepted, by the kinds of
objects they look at: kinds in the order in which they first came, and for each kind its checks in
the order of their registration. A check that is refused leaves the listing as it is.
-/

namespace PlcLint.Registry

/-! Groups of checks. -/

/-- Checks in groups by their kind, kinds in the order in which they first come. -/
def grouped (checks : List Check) : List (Target × List Check) :=
  (checks.map Check.target).eraseDups.map fun target =>
    (target, checks.filter fun check => check.target = target)

theorem eraseDups_concat {α : Type} [DecidableEq α] (items : List α) (item : α) :
    (items ++ [item]).eraseDups =
      if item ∈ items then items.eraseDups else items.eraseDups ++ [item] := by
  rw [List.eraseDups_append]
  by_cases isKnown : item ∈ items
  · simp [List.removeAll, isKnown]
  · simp [List.removeAll, isKnown, List.eraseDups_cons]

theorem nodup_eraseDups {α : Type} [DecidableEq α] (items : List α) : items.eraseDups.Nodup := by
  induction items using List.reverseRecOn with
  | nil => simp
  | append_singleton items item inductionHypothesis =>
      rw [eraseDups_concat]
      split
      · exact inductionHypothesis
      · rename_i isNew
        rw [List.nodup_append_comm, List.singleton_append, List.nodup_cons, List.mem_eraseDups]
        exact ⟨isNew, inductionHypothesis⟩

theorem addTo_of_not_mem {check : Check} {groups : List (Target × List Check)}
    (isNew : check.target ∉ groups.map Prod.fst) :
    addTo check groups = groups ++ [(check.target, [check])] := by
  induction groups with
  | nil => rfl
  | cons group rest inductionHypothesis =>
      obtain ⟨notFirst, notLater⟩ := not_or.mp (mt List.mem_cons.mpr isNew)
      rw [addTo, if_neg (Ne.symm notFirst), inductionHypothesis notLater, List.cons_append]

/-- A check of a known kind goes to the end of its group; each kind has one group. -/
theorem addTo_of_mem {check : Check} {kinds : List Target} (distinct : kinds.Nodup)
    (isKnown : check.target ∈ kinds) (found : Target → List Check) :
    addTo check (kinds.map fun kind => (kind, found kind)) =
      kinds.map fun kind =>
        (kind, if kind = check.target then found kind ++ [check] else found kind) := by
  induction kinds with
  | nil => cases isKnown
  | cons kind rest inductionHypothesis =>
      obtain ⟨notLater, distinctLater⟩ := List.nodup_cons.mp distinct
      rw [List.map_cons, addTo, List.map_cons]
      by_cases isKind : kind = check.target
      · have unmoved : ∀ other ∈ rest, (other, found other) =
            (other, if other = check.target then found other ++ [check] else found other) := by
          intro other inside
          have differs : other ≠ check.target := by
            rintro rfl
            exact notLater (isKind ▸ inside)
          rw [if_neg differs]
        rw [if_pos isKind, if_pos isKind, List.map_congr_left unmoved]
      · have inRest := (List.mem_cons.mp isKnown).resolve_left (Ne.symm isKind)
        rw [if_neg isKind, if_neg isKind, inductionHypothesis distinctLater inRest]

/-- Groups grow by one check at a time. -/
theorem grouped_concat (checks : List Check) (check : Check) :
    grouped (checks ++ [check]) = addTo check (grouped checks) := by
  have groupOf (kind : Target) :
      ((checks ++ [check]).filter fun other => other.target = kind) =
        if kind = check.target then
          (checks.filter fun other => other.target = kind) ++ [check]
        else checks.filter fun other => other.target = kind := by
    rw [List.filter_append]
    by_cases isKind : kind = check.target
    · rw [if_pos isKind, List.filter_singleton, decide_eq_true isKind.symm, cond_true]
    · rw [if_neg isKind, List.filter_singleton, decide_eq_false (Ne.symm isKind), cond_false,
        List.append_nil]
  simp only [grouped, List.map_append, List.map_singleton, eraseDups_concat, groupOf]
  by_cases isKnown : check.target ∈ checks.map Check.target
  · rw [if_pos isKnown, addTo_of_mem (nodup_eraseDups _) (List.mem_eraseDups.mpr isKnown)]
  · have unmoved : ∀ kind ∈ (checks.map Check.target).eraseDups, kind ≠ check.target :=
      fun kind inside same => isKnown (same ▸ List.mem_eraseDups.mp inside)
    have noneYet : (checks.filter fun other => other.target = check.target) = [] :=
      List.filter_eq_nil_iff.mpr fun other inside same =>
        isKnown (List.mem_map.mpr ⟨other, inside, of_decide_eq_true same⟩)
    rw [if_neg isKnown, addTo_of_not_mem (by simpa using isKnown), List.map_append,
      List.map_congr_left fun kind inside => by rw [if_neg (unmoved kind inside)]]
    simp [noneYet]

theorem perm_addTo (check : Check) (groups : List (Target × List Check)) :
    ((addTo check groups).flatMap Prod.snd).Perm (check :: groups.flatMap Prod.snd) := by
  induction groups with
  | nil => exact .refl _
  | cons group rest inductionHypothesis =>
      rw [addTo]
      split
      · rw [List.flatMap_cons, List.flatMap_cons, List.append_assoc]
        exact List.perm_middle
      · rw [List.flatMap_cons, List.flatMap_cons]
        exact (inductionHypothesis.append_left _).trans List.perm_middle

/-- The groups hold all checks, each as often as it was registered. -/
theorem perm_grouped (checks : List Check) : ((grouped checks).flatMap Prod.snd).Perm checks := by
  induction checks using List.reverseRecOn with
  | nil => exact .refl _
  | append_singleton checks check inductionHypothesis =>
      rw [grouped_concat]
      refine (perm_addTo check _).trans ((inductionHypothesis.cons check).trans ?_)
      exact (List.perm_append_singleton check checks).symm

/-- One check more in a listing, behind all others of its kind: right behind the last of them, or at
the very end if there are none. -/
def InsertedLast (check : Check) (listed next : List Check) : Prop :=
  ∃ before after, listed = before ++ after ∧ next = before ++ check :: after ∧
    (∀ other ∈ after, other.target ≠ check.target) ∧
    if ∃ other ∈ listed, other.target = check.target then
      ∃ last ∈ before.getLast?, last.target = check.target
    else after = []

theorem insertedLast_addTo {check : Check} {groups : List (Target × List Check)}
    (distinct : (groups.map Prod.fst).Nodup) (filled : ∀ group ∈ groups, group.2 ≠ [])
    (sameKind : ∀ group ∈ groups, ∀ member ∈ group.2, member.target = group.1) :
    InsertedLast check (groups.flatMap Prod.snd) ((addTo check groups).flatMap Prod.snd) := by
  induction groups with
  | nil => exact ⟨[], [], rfl, rfl, by simp, by simp⟩
  | cons group rest inductionHypothesis =>
      obtain ⟨kind, found⟩ := group
      obtain ⟨notLater, distinctLater⟩ := List.nodup_cons.mp distinct
      obtain ⟨someFound, filledLater⟩ := List.forall_mem_cons.mp filled
      obtain ⟨ofKind, sameKindLater⟩ := List.forall_mem_cons.mp sameKind
      rw [addTo]
      by_cases isKind : kind = check.target
      · rw [if_pos isKind]
        refine ⟨found, rest.flatMap Prod.snd, rfl, by simp, fun other inside same => ?_, ?_⟩
        · obtain ⟨group, inGroups, inGroup⟩ := List.mem_flatMap.mp inside
          rw [sameKindLater group inGroups other inGroup, ← isKind] at same
          exact notLater (List.mem_map.mpr ⟨group, inGroups, same⟩)
        · have known : found.getLast someFound ∈ found := List.getLast_mem someFound
          rw [if_pos ⟨_, List.mem_append_left _ known, (ofKind _ known).trans isKind⟩]
          exact ⟨_, List.getLast?_eq_some_getLast someFound, (ofKind _ known).trans isKind⟩
      · rw [if_neg isKind]
        obtain ⟨before, after, isListed, isNext, behind, atEnd⟩ :=
          inductionHypothesis distinctLater filledLater sameKindLater
        refine ⟨found ++ before, after, by simp [isListed], by simp [isNext], behind, ?_⟩
        have notHere : (∃ other ∈ ((kind, found) :: rest).flatMap Prod.snd,
            other.target = check.target) ↔
              ∃ other ∈ rest.flatMap Prod.snd, other.target = check.target := by
          rw [List.flatMap_cons]
          simp only [List.mem_append, or_and_right, exists_or]
          refine or_iff_right ?_
          rintro ⟨other, inside, same⟩
          exact isKind ((ofKind other inside).symm.trans same)
        simp only [notHere]
        split at atEnd
        · rename_i known
          rw [if_pos known]
          obtain ⟨last, isLast, same⟩ := atEnd
          refine ⟨last, ?_, same⟩
          rw [List.getLast?_append, isLast]
          rfl
        · rename_i unknown
          rw [if_neg unknown]
          exact atEnd

theorem insertedLast_grouped (checks : List Check) (check : Check) :
    InsertedLast check ((grouped checks).flatMap Prod.snd)
      ((grouped (checks ++ [check])).flatMap Prod.snd) := by
  rw [grouped_concat]
  refine insertedLast_addTo ?_ (fun group inside => ?_) fun group inside member inGroup => ?_
  · simpa [grouped, Function.comp_def] using nodup_eraseDups _
  · obtain ⟨kind, isKind, rfl⟩ := List.mem_map.mp inside
    obtain ⟨other, isOther, rfl⟩ := List.mem_map.mp (List.mem_eraseDups.mp isKind)
    exact List.ne_nil_of_mem (List.mem_filter.mpr ⟨isOther, decide_eq_true rfl⟩)
  · obtain ⟨kind, isKind, rfl⟩ := List.mem_map.mp inside
    exact of_decide_eq_true (List.mem_filter.mp inGroup).2

/-! Registrations one after the other. -/

/-- The check, if it is accepted. -/
def admitted (registry : Registry) (check : Check) : List Check :=
  if (registry.register check).2.isOk then [check] else []

/-- The checks that are accepted when all of these are registered one after the other. -/
def accepted (registry : Registry) : List Check → List Check
  | [] => []
  | check :: rest => registry.admitted check ++ (registry.register check).1.accepted rest

/-- All that a registration can do. -/
theorem register_cases (registry : Registry) (check : Check) :
    IsCode check.code.toList ∧ check.code ∉ registry.used ∧
      registry.register check =
        (⟨registry.used ++ [check.code], addTo check registry.groups,
          filed_addTo check registry.filed⟩, .ok ()) ∨
    ∃ used fault, registry.used ⊆ used ∧
      registry.register check = (⟨used, registry.groups, registry.filed⟩, .error fault) := by
  unfold register
  by_cases isCode : isCheckCode check.code.toList = true
  · by_cases isUsed : registry.used.contains check.code = true
    · exact .inr ⟨registry.used, _, List.Subset.refl _, by simp only [isCode, isUsed]; rfl⟩
    · by_cases isCheckable : check.target.isCheckable = true
      · exact .inl ⟨isCheckCode_iff.mp isCode, by simpa using isUsed,
          by simp only [isCode, isUsed, isCheckable]; rfl⟩
      · exact .inr ⟨registry.used ++ [check.code], _, List.subset_append_left _ _,
          by simp only [isCode, isUsed, isCheckable]; rfl⟩
  · exact .inr ⟨registry.used, _, List.Subset.refl _, by simp only [isCode]; rfl⟩

/-- The registry holds the checks that were accepted, in their groups. -/
structure Holds (registry : Registry) (checks : List Check) : Prop where
  groups : registry.groups = grouped checks
  distinct : (checks.map Check.code).Nodup
  coded : ∀ check ∈ checks, IsCode check.code.toList
  used : ∀ check ∈ checks, check.code ∈ registry.used

theorem Holds.register {registry : Registry} {checks : List Check} (holds : registry.Holds checks)
    (check : Check) :
    (registry.register check).1.Holds (checks ++ registry.admitted check) := by
  rcases registry.register_cases check with
    ⟨isCode, isNew, isNext⟩ | ⟨used, fault, grown, isNext⟩
  · have added : registry.admitted check = [check] := by
      rw [admitted, isNext]
      rfl
    rw [added, isNext]
    refine ⟨?_, ?_, ?_, ?_⟩
    · rw [grouped_concat, ← holds.groups]
    · rw [List.map_append, List.nodup_append_comm, List.map_singleton, List.singleton_append,
        List.nodup_cons]
      refine ⟨fun again => isNew ?_, holds.distinct⟩
      obtain ⟨other, isOther, same⟩ := List.mem_map.mp again
      exact same ▸ holds.used other isOther
    · exact List.forall_mem_append.mpr ⟨holds.coded, List.forall_mem_singleton.mpr isCode⟩
    · refine List.forall_mem_append.mpr ⟨fun other isOther => ?_, List.forall_mem_singleton.mpr ?_⟩
      · exact List.mem_append_left _ (holds.used other isOther)
      · exact List.mem_append_right _ (List.mem_singleton.mpr rfl)
  · have added : registry.admitted check = [] := by
      rw [admitted, isNext]
      rfl
    rw [added, isNext, List.append_nil]
    exact ⟨holds.groups, holds.distinct, holds.coded, fun other isOther =>
      grown (holds.used other isOther)⟩

theorem Holds.registerAll {registry : Registry} {checks : List Check}
    (holds : registry.Holds checks) (history : List Check) :
    (registry.registerAll history).Holds (checks ++ registry.accepted history) := by
  induction history generalizing registry checks with
  | nil => exact (List.append_nil checks).symm ▸ holds
  | cons check rest inductionHypothesis =>
      have later := inductionHypothesis (holds.register check)
      rwa [List.append_assoc] at later

theorem holds_empty : Registry.Holds {} [] :=
  ⟨rfl, List.nodup_nil, by simp, by simp⟩

theorem listing_after_registrations (history : List Check) :
    let registry := Registry.registerAll {} history
    (registry.checks.map Check.code).Nodup ∧
    (∀ check ∈ registry.checks, IsCode check.code.toList ∧ check.code ∈ registry.used) ∧
    registry.checks = (grouped (Registry.accepted {} history)).flatMap Prod.snd ∧
    ∀ check, match registry.register check with
      | (next, .ok ()) => InsertedLast check registry.checks next.checks
      | (next, .error _) => next.checks = registry.checks := by
  intro registry
  have holds : registry.Holds (Registry.accepted {} history) := holds_empty.registerAll history
  have listing : registry.checks = (grouped (Registry.accepted {} history)).flatMap Prod.snd := by
    rw [checks, holds.groups]
  have isPerm := perm_grouped (Registry.accepted {} history)
  refine ⟨?_, fun check listed => ?_, listing, fun check => ?_⟩
  · rw [listing, (isPerm.map Check.code).nodup_iff]
    exact holds.distinct
  · rw [listing, isPerm.mem_iff] at listed
    exact ⟨holds.coded check listed, holds.used check listed⟩
  · rcases registry.register_cases check with ⟨_, _, isNext⟩ | ⟨_, _, _, isNext⟩
    · rw [isNext, listing]
      dsimp only [checks]
      rw [holds.groups, ← grouped_concat]
      exact insertedLast_grouped _ check
    · rw [isNext]
      rfl

end PlcLint.Registry
