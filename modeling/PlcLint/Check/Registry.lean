import PlcLint.Check.Basic
import PlcLint.Suppression

/-!
The registry of checks. Checks are listed by the kind of object they look at, kinds in the
order in which their first check came. A code is used up also by a check that is refused for
its kind of object.
-/

namespace PlcLint

structure Registry where
  used : List String := []
  groups : List (Target × List Check) := []
  /-- A check is in the group of its kind. -/
  filed : ∀ group ∈ groups, ∀ check ∈ group.2, check.target = group.1 := by simp

namespace Registry

def checks (registry : Registry) : List Check := registry.groups.flatMap Prod.snd

/-- A check at the end of the group of its kind. -/
def addTo (check : Check) : List (Target × List Check) → List (Target × List Check)
  | [] => [(check.target, [check])]
  | (target, found) :: rest =>
    if target = check.target then (target, found ++ [check]) :: rest
    else (target, found) :: addTo check rest

theorem filed_addTo (check : Check) {groups : List (Target × List Check)}
    (filed : ∀ group ∈ groups, ∀ found ∈ group.2, found.target = group.1) :
    ∀ group ∈ addTo check groups, ∀ found ∈ group.2, found.target = group.1 := by
  induction groups with
  | nil => simp [addTo]
  | cons group rest inductionHypothesis =>
      obtain ⟨here, later⟩ := List.forall_mem_cons.mp filed
      rw [addTo]
      split
      · rename_i isKind
        refine List.forall_mem_cons.mpr ⟨fun found isFound => ?_, later⟩
        rcases List.mem_append.mp isFound with known | isNew
        · exact here found known
        · rw [List.mem_singleton.mp isNew, isKind]
      · exact List.forall_mem_cons.mpr ⟨here, inductionHypothesis later⟩

/-- Registers a check, or says why it cannot be registered. -/
def register (registry : Registry) (check : Check) : Registry × Except Fault Unit :=
  if !isCheckCode check.code.toList then (registry, .error (.badCheckCode check.code))
  else if registry.used.contains check.code then
    (registry, .error (.usedCheckCode check.code))
  else
    let used := registry.used ++ [check.code]
    if check.target.isCheckable then
      ({ used := used
         groups := addTo check registry.groups
         filed := filed_addTo check registry.filed }, .ok ())
    else ({ registry with used := used }, .error .uncheckableObject)

def registerAll (registry : Registry) : List Check → Registry
  | [] => registry
  | check :: rest => registerAll (registry.register check).1 rest

/-- The checks that look at an object, in the order of the listing. -/
def checksFor (registry : Registry) (subject : Subject) : List Check :=
  (registry.groups.filter fun group => group.1.accepts subject).flatMap Prod.snd

end Registry

end PlcLint
