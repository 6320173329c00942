import PlcLint.Proofs.Check.Registration

/-!
What a refused registration leaves behind. A check with a malformed code or with a code that is in
use changes nothing. A check that is refused for its kind of object changes no group, but its code
is spent: from then on the registry acts as if no registration with that code were ever made.
-/

namespace PlcLint.Registry

variable {registry spent : Registry} {check : Check} {code : String} {fault : Fault}

theorem register_of_malformed (malformed : ¬IsCode check.code.toList) :
    registry.register check = (registry, .error (.badCheckCode check.code)) := by
  have invalid : isCheckCode check.code.toList = false :=
    Bool.eq_false_iff.mpr (mt isCheckCode_iff.mp malformed)
  simp only [register, invalid]
  rfl

theorem register_of_used (isCode : IsCode check.code.toList) (isUsed : check.code ∈ registry.used) :
    registry.register check = (registry, .error (.usedCheckCode check.code)) := by
  have valid : isCheckCode check.code.toList = true := isCheckCode_iff.mpr isCode
  have contained : registry.used.contains check.code = true := by simpa using isUsed
  simp only [register, valid, contained]
  rfl

theorem register_of_new (isCode : IsCode check.code.toList) (isNew : check.code ∉ registry.used) :
    registry.register check =
      if check.target.isCheckable then
        (⟨registry.used ++ [check.code], addTo check registry.groups,
          filed_addTo check registry.filed⟩, .ok ())
      else ({ registry with used := registry.used ++ [check.code] },
        .error .uncheckableObject) := by
  have valid : isCheckCode check.code.toList = true := isCheckCode_iff.mpr isCode
  have contained : registry.used.contains check.code = false := by simpa using isNew
  simp only [register, valid, contained]
  rfl

/-- A refusal is for the code, and changes nothing, or for the kind of object. -/
theorem register_refused (refused : (registry.register check).2 = .error fault) :
    (registry.register check).1 = registry ∧ fault ≠ .uncheckableObject ∨
      IsCode check.code.toList ∧ check.code ∉ registry.used ∧ fault = .uncheckableObject ∧
        (registry.register check).1 = { registry with used := registry.used ++ [check.code] } := by
  by_cases isCode : IsCode check.code.toList
  · by_cases isUsed : check.code ∈ registry.used
    · rw [register_of_used isCode isUsed] at refused ⊢
      cases refused
      exact .inl ⟨rfl, by simp⟩
    · rw [register_of_new isCode isUsed] at refused ⊢
      split at refused
      · cases refused
      · rename_i uncheckable
        cases refused
        rw [if_neg uncheckable]
        exact .inr ⟨isCode, isUsed, rfl, rfl⟩
  · rw [register_of_malformed isCode] at refused ⊢
    cases refused
    exact .inl ⟨rfl, by simp⟩

/-- The second registry is the first one, but for a code that the first has not used. -/
structure Spends (code : String) (registry spent : Registry) : Prop where
  groups : spent.groups = registry.groups
  used : ∀ other, other ∈ spent.used ↔ other ∈ registry.used ∨ other = code
  unused : code ∉ registry.used

namespace Spends

/-- Checks with other codes are registered alike. -/
theorem register (spends : Spends code registry spent) (other : check.code ≠ code) :
    Spends code (registry.register check).1 (spent.register check).1 ∧
      (spent.register check).2 = (registry.register check).2 := by
  have sameUse : check.code ∈ spent.used ↔ check.code ∈ registry.used := by
    rw [spends.used, or_iff_left other]
  by_cases isCode : IsCode check.code.toList
  · by_cases isUsed : check.code ∈ registry.used
    · rw [register_of_used isCode isUsed, register_of_used isCode (sameUse.mpr isUsed)]
      exact ⟨spends, rfl⟩
    · rw [register_of_new isCode isUsed, register_of_new isCode (mt sameUse.mp isUsed)]
      have grown (name : String) : name ∈ spent.used ++ [check.code] ↔
          name ∈ registry.used ++ [check.code] ∨ name = code := by
        rw [List.mem_append, List.mem_append, spends.used, or_right_comm]
      have stillUnused : code ∉ registry.used ++ [check.code] := by
        simpa using ⟨spends.unused, Ne.symm other⟩
      split
      · exact ⟨⟨congrArg (addTo check) spends.groups, grown, stillUnused⟩, rfl⟩
      · exact ⟨⟨spends.groups, grown, stillUnused⟩, rfl⟩
  · rw [register_of_malformed isCode, register_of_malformed isCode]
    exact ⟨spends, rfl⟩

theorem register_same (spends : Spends code registry spent) (isCode : IsCode code.toList)
    (same : check.code = code) :
    spent.register check = (spent, .error (.usedCheckCode code)) := by
  subst same
  exact register_of_used isCode ((spends.used _).mpr (.inr rfl))

/-- Registrations with the code are as if they were not made. -/
theorem registerAll (spends : Spends code registry spent) (isCode : IsCode code.toList)
    (history : List Check) :
    Spends code (registry.registerAll (history.filter (·.code ≠ code)))
      (spent.registerAll history) := by
  induction history generalizing registry spent with
  | nil => exact spends
  | cons check rest inductionHypothesis =>
      by_cases same : check.code = code
      · have unchanged : Spends code registry (spent.register check).1 := by
          rwa [spends.register_same isCode same]
        rw [List.filter_cons_of_neg (by simpa using same)]
        exact inductionHypothesis unchanged
      · rw [List.filter_cons_of_pos (by simpa using same)]
        exact inductionHypothesis (spends.register same).1

end Spends

/-- A refused registration leaves the groups as they are, and the whole registry unless it is for
the kind of object. Then the code of the check is spent: any correct check could have been
registered with it before, none can after any further registrations, and all else goes on as if
these had not used the code. -/
theorem refused_registration (history further : List Check) (check : Check) {fault : Fault}
    (refused : ((Registry.registerAll {} history).register check).2 = .error fault) :
    let registry := Registry.registerAll {} history
    let next := (registry.register check).1
    next.groups = registry.groups ∧
    (next = registry ↔ fault ≠ .uncheckableObject) ∧
    (fault = .uncheckableObject →
      let later := next.registerAll further
      let unspent := registry.registerAll (further.filter (·.code ≠ check.code))
      next.used = registry.used ++ [check.code] ∧
      later.checks = unspent.checks ∧ (∀ listed ∈ later.checks, listed.code ≠ check.code) ∧
      (∀ other, other.code = check.code →
        ((registry.register other).2 = .ok () ↔ other.target.isCheckable = true) ∧
          later.register other = (later, .error (.usedCheckCode check.code))) ∧
      ∀ other, other.code ≠ check.code →
        (later.register other).2 = (unspent.register other).2) := by
  intro registry next
  rcases register_refused refused with
    ⟨unchanged, forCode⟩ | ⟨isCode, isNew, forKind, isNext⟩
  · exact ⟨congrArg groups unchanged, iff_of_true unchanged forCode, (absurd · forCode)⟩
  · have isNext : next = { registry with used := registry.used ++ [check.code] } := isNext
    have spends : Spends check.code registry next := by
      rw [isNext]
      exact ⟨rfl, fun other => by simp, isNew⟩
    refine ⟨spends.groups, iff_of_false (fun same => ?_) (not_not_intro forKind), fun _ => ?_⟩
    · have found := (spends.used check.code).mpr (.inr rfl)
      rw [same] at found
      exact isNew found
    intro later unspent
    have stillSpends : Spends check.code unspent later := spends.registerAll isCode further
    have listing : later.checks = unspent.checks := congrArg (·.flatMap Prod.snd) stillSpends.groups
    have holds : unspent.Holds _ :=
      (holds_empty.registerAll history).registerAll (further.filter (·.code ≠ check.code))
    refine ⟨by rw [isNext], listing, fun listed inside same => ?_, fun other same => ?_,
      fun other differs => (stillSpends.register differs).2⟩
    · rw [listing, checks, holds.groups, (perm_grouped _).mem_iff] at inside
      exact stillSpends.unused (same ▸ holds.used listed inside)
    · refine ⟨?_, stillSpends.register_same isCode same⟩
      rw [register_of_new (same ▸ isCode) (same ▸ isNew)]
      cases other.target.isCheckable <;> simp

/-- A check that says nothing. -/
def silentCheck (code : String) (target : Target) : Check where
  code := code
  name := "check"
  doc := ""
  target := target
  run := fun _ _ => noRemarks

/-- A check on texts is refused, and after it neither a check on statements nor one on expressions
can have its code. -/
theorem refused_registration_of_text :
    let registry := Registry.registerAll {} [silentCheck "TST001" .statement]
    let next := (registry.register (silentCheck "TST002" .text)).1
    let later := next.registerAll [silentCheck "TST002" .statement, silentCheck "TST003" .call]
    (registry.register (silentCheck "TST002" .text)).2 = .error .uncheckableObject ∧
      later.checks = (registry.registerAll [silentCheck "TST003" .call]).checks ∧
      (later.register (silentCheck "TST002" .expression)).2 =
        .error (.usedCheckCode "TST002") := by
  have refused : ((Registry.registerAll {} [silentCheck "TST001" .statement]).register
      (silentCheck "TST002" .text)).2 = .error .uncheckableObject := rfl
  obtain ⟨_, _, spent⟩ := refused_registration [silentCheck "TST001" .statement]
    [silentCheck "TST002" .statement, silentCheck "TST003" .call] _ refused
  obtain ⟨_, listing, _, sameCode, _⟩ := spent rfl
  exact ⟨refused, listing, congrArg Prod.snd (sameCode (silentCheck "TST002" .expression) rfl).2⟩

/-- A refusal can change the codes in use, so that a registration fails that would have
succeeded. -/
theorem refusal_spends_code :
    let registry : Registry := {}
    let next := (registry.register (silentCheck "TST001" .text)).1
    (registry.register (silentCheck "TST001" .text)).2 = .error .uncheckableObject ∧
      next.used ≠ registry.used ∧
      (registry.register (silentCheck "TST001" .statement)).2 = .ok () ∧
      (next.register (silentCheck "TST001" .statement)).2 = .error (.usedCheckCode "TST001") := by
  refine ⟨rfl, ?_, rfl, rfl⟩
  decide

end PlcLint.Registry
