import PlcLint.Walk

/-!
Laws of walks. A walk that comes to its end has given everything.
-/

namespace PlcLint.Walk

variable {α β : Type}

theorem append_done {first second : Walk α} (done : (first ++ second).fault = none) :
    first.fault = none ∧ second.fault = none ∧
      (first ++ second).found = first.found ++ second.found := by
  change (first.append second).fault = none at done
  change _ ∧ _ ∧ (first.append second).found = _
  unfold append at done ⊢
  cases faulty : first.fault with
  | none => simpa [faulty] using done
  | some fault => simp [faulty] at done

theorem concat_done {walks : List (Walk α)} (done : (concat walks).fault = none) :
    (∀ walk ∈ walks, walk.fault = none) ∧ (concat walks).found = walks.flatMap found := by
  induction walks with
  | nil => simp [concat]
  | cons walk rest inductionHypothesis =>
      obtain ⟨walkDone, restDone, together⟩ := append_done done
      obtain ⟨allDone, restFound⟩ := inductionHypothesis restDone
      refine ⟨List.forall_mem_cons.mpr ⟨walkDone, allDone⟩, ?_⟩
      rw [concat, together, restFound, List.flatMap_cons]

theorem concat_fault_eq_none {walks : List (Walk α)} :
    (concat walks).fault = none ↔ ∀ walk ∈ walks, walk.fault = none := by
  refine ⟨fun done => (concat_done done).1, fun allDone => ?_⟩
  induction walks with
  | nil => rfl
  | cons walk rest inductionHypothesis =>
      obtain ⟨walkDone, restDone⟩ := List.forall_mem_cons.mp allDone
      change (walk.append (concat rest)).fault = none
      rw [append, walkDone]
      exact inductionHypothesis restDone

theorem flatMap_done {f : α → Walk β} {walk : Walk α} (done : (walk.flatMap f).fault = none) :
    walk.fault = none ∧ (∀ item ∈ walk.found, (f item).fault = none) ∧
      (walk.flatMap f).found = walk.found.flatMap fun item => (f item).found := by
  obtain ⟨insideDone, walkDone, together⟩ := append_done done
  obtain ⟨allDone, insideFound⟩ := concat_done insideDone
  refine ⟨walkDone, fun item membership => allDone _ (List.mem_map_of_mem membership), ?_⟩
  rw [flatMap, together, insideFound, List.append_nil, List.flatMap_map]

theorem concat_ofList (lists : List (List α)) :
    concat (lists.map ofList) = ofList lists.flatten := by
  induction lists with
  | nil => rfl
  | cons first rest inductionHypothesis =>
      rw [List.map_cons, concat, inductionHypothesis]
      rfl

/-- Results that are all at hand are given also if the walk fails after them. -/
theorem flatMap_ofList (f : α → List β) (walk : Walk α) :
    (walk.flatMap fun item => ofList (f item)) = ⟨walk.found.flatMap f, walk.fault⟩ := by
  have inside := concat_ofList (walk.found.map f)
  rw [List.map_map] at inside
  change append (concat (walk.found.map (ofList ∘ f))) ⟨[], walk.fault⟩ = _
  rw [inside, append, ofList]
  simp [List.flatMap_def]

theorem found_flatMap_ofList (f : α → List β) (walk : Walk α) :
    (walk.flatMap fun item => ofList (f item)).found = walk.found.flatMap f := by
  rw [flatMap_ofList]

/-! Also a walk that fails gives only what its parts give. -/

theorem mem_append {first second : Walk α} {item : α} (given : item ∈ (first ++ second).found) :
    item ∈ first.found ∨ item ∈ second.found := by
  change item ∈ (first.append second).found at given
  unfold append at given
  split at given
  · exact .inl given
  · exact List.mem_append.mp given

theorem mem_concat {walks : List (Walk α)} {item : α} (given : item ∈ (concat walks).found) :
    ∃ walk ∈ walks, item ∈ walk.found := by
  induction walks with
  | nil => cases given
  | cons walk rest inductionHypothesis =>
      rcases mem_append given with inFirst | inRest
      · exact ⟨walk, List.mem_cons_self, inFirst⟩
      · obtain ⟨later, inside, found⟩ := inductionHypothesis inRest
        exact ⟨later, List.mem_cons_of_mem _ inside, found⟩

theorem mem_flatMap {f : α → Walk β} {walk : Walk α} {item : β}
    (given : item ∈ (walk.flatMap f).found) :
    ∃ source ∈ walk.found, item ∈ (f source).found := by
  rcases mem_append given with inside | behind
  · obtain ⟨inner, isInner, found⟩ := mem_concat inside
    obtain ⟨source, inWalk, rfl⟩ := List.mem_map.mp isInner
    exact ⟨source, inWalk, found⟩
  · cases behind

/-! Walks whose results are changed one by one. -/

def map (f : α → β) (walk : Walk α) : Walk β := ⟨walk.found.map f, walk.fault⟩

theorem map_append (f : α → β) (first second : Walk α) :
    (first ++ second).map f = first.map f ++ second.map f := by
  change (first.append second).map f = (first.map f).append (second.map f)
  cases faulty : first.fault <;> simp [append, map, faulty]

theorem map_concat (f : α → β) (walks : List (Walk α)) :
    (concat walks).map f = concat (walks.map (map f)) := by
  induction walks with
  | nil => rfl
  | cons walk rest inductionHypothesis =>
      rw [concat, map_append, inductionHypothesis, List.map_cons, concat]

theorem map_flatMap {γ : Type} (f : β → γ) (next : α → Walk β) (walk : Walk α) :
    (walk.flatMap next).map f = walk.flatMap fun item => (next item).map f := by
  rw [flatMap, map_append, map_concat, List.map_map]
  rfl

theorem map_map {γ : Type} (f : β → γ) (g : α → β) (walk : Walk α) :
    (walk.map g).map f = walk.map (f ∘ g) := by
  simp [map]

theorem append_assoc (first second third : Walk α) :
    first ++ second ++ third = first ++ (second ++ third) := by
  change (first.append second).append third = first.append (second.append third)
  cases firstFaulty : first.fault with
  | some fault => simp [append, firstFaulty]
  | none => cases secondFaulty : second.fault <;> simp [append, firstFaulty, secondFaulty]

theorem concat_append (first second : List (Walk α)) :
    concat (first ++ second) = concat first ++ concat second := by
  induction first with
  | nil => rfl
  | cons walk rest inductionHypothesis =>
      rw [List.cons_append, concat, concat, inductionHypothesis, append_assoc]

theorem ofList_append (first second : List α) :
    ofList (first ++ second) = ofList first ++ ofList second := rfl

/-! A test of a walk made of parts tests the parts one after the other. -/

/-- The second test is made if the first does not hold. -/
def orElse (first second : Except Fault Bool) : Except Fault Bool :=
  match first with
  | .ok false => second
  | outcome => outcome

variable (test : α → Except Fault Bool)

theorem anyOf_cons (item : α) (rest : List α) :
    anyOf test (item :: rest) = orElse (test item) (anyOf test rest) := by
  rw [anyOf]
  cases test item with
  | error fault => rfl
  | ok holds => cases holds <;> rfl

theorem orElse_assoc (first second third : Except Fault Bool) :
    orElse (orElse first second) third = orElse first (orElse second third) := by
  cases first with
  | error fault => rfl
  | ok holds => cases holds <;> rfl

theorem anyOf_append (first second : List α) :
    anyOf test (first ++ second) = orElse (anyOf test first) (anyOf test second) := by
  induction first with
  | nil => rfl
  | cons item rest inductionHypothesis =>
      rw [List.cons_append, anyOf_cons, anyOf_cons, inductionHypothesis, orElse_assoc]

theorem anyOf_map (f : β → α) (items : List β) :
    anyOf test (items.map f) = anyOf (fun item => test (f item)) items := by
  induction items with
  | nil => rfl
  | cons item rest inductionHypothesis =>
      rw [List.map_cons, anyOf_cons, anyOf_cons, inductionHypothesis]

theorem anyOf_flatMap (inside : β → List α) (items : List β) :
    anyOf test (items.flatMap inside) = anyOf (fun item => anyOf test (inside item)) items := by
  induction items with
  | nil => rfl
  | cons item rest inductionHypothesis =>
      rw [List.flatMap_cons, anyOf_append, inductionHypothesis, anyOf_cons]

theorem any_eq (walk : Walk α) :
    walk.any test = orElse (anyOf test walk.found)
      (match walk.fault with
        | some fault => .error fault
        | none => .ok false) := by
  rw [any]
  cases anyOf test walk.found with
  | error fault => rfl
  | ok holds => cases holds <;> rfl

theorem any_append (first second : Walk α) :
    (first ++ second).any test = orElse (first.any test) (second.any test) := by
  change (first.append second).any test = _
  rw [append, any_eq test first, any_eq test second, orElse_assoc]
  cases first.fault with
  | some fault => rw [any_eq]; rfl
  | none => rw [any_eq, anyOf_append, orElse_assoc]; rfl

theorem any_flatMap_ofList (inside : β → List α) (walk : Walk β) :
    (walk.flatMap fun item => ofList (inside item)).any test =
      walk.any fun item => anyOf test (inside item) := by
  rw [flatMap_ofList, any, any, anyOf_flatMap]

end PlcLint.Walk
