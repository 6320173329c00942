import PlcLint.Check.Call
import PlcLint.Proofs.Scope.Bases

/-!
The base whose method a method overrides. The check of calls through `SUPER` takes the first block
on the walk through the bases that declares a method of this name; the walk comes to a block before
it comes to the bases of that block, so that none of the blocks on the way declares one.
-/

namespace PlcLint.Check

open Scope

/-- The base at the end of the chain declares the method, and no block does that the walk comes to
before it, the blocks on the chain among them. -/
structure FirstSuper (blocks : Table FunctionBlock) (block : FunctionBlock) (method : String)
    (chain : List Nat) (base : FunctionBlock) (overridden : Routine) : Prop where
  leads : baseAlong blocks (block.bases.getD []) chain = some base
  declares : base.methods.find? (Text.sameName ·.name method) = some overridden
  first : ∀ earlier < chain, ∀ between,
    baseAlong blocks (block.bases.getD []) earlier = some between →
      ∀ other ∈ between.methods, Text.sameName other.name method = false
  onChain : ∀ earlier, earlier <+: chain → earlier ≠ chain → ∀ between,
    baseAlong blocks (block.bases.getD []) earlier = some between →
      ∀ other ∈ between.methods, Text.sameName other.name method = false

/-- What is said about a method that overrides one of a base. -/
def superCallVerdict (block : FunctionBlock) (method : Routine) (base : FunctionBlock)
    (overridden : Routine) : Except Fault (Walk Remark) :=
  if overridden.isAbstract then .ok {}
  else ((method.flow.subexprs fun _ => false).any fun expr =>
      .ok (expr.isSuperCall method.name)).map fun calls =>
    Walk.ofList (if calls then [] else [{
      message := "Missing super call in method " ++ method.name ++ " of function block "
        ++ block.name ++ " (first SUPER with method is " ++ base.name ++ ")" }])

/-- The base, if it declares a method of this name, and that method. -/
def overriddenIn? (method : String) (base : FunctionBlock) : Option (FunctionBlock × Routine) :=
  (base.methods.find? (Text.sameName ·.name method)).map fun other => (base, other)

theorem result_superCallWhenPossible {scope : Scope} {block : FunctionBlock}
    (inBlock : scope.block = some block) (method : Routine) :
    (superCallWhenPossible.run scope (.method method)).result =
      match (foundBlocks (scope.bases block)).findSome? (overriddenIn? method.name) with
      | none => .ok {}
      | some (base, overridden) => superCallVerdict block method base overridden := by
  simp only [superCallWhenPossible, inBlock, Logged.result_bind, result_firstBase]
  change (match (foundBlocks (scope.bases block)).findSome? (overriddenIn? method.name) with
    | none => noRemarks
    | some (base, overridden) => _).result = _
  cases (foundBlocks (scope.bases block)).findSome? (overriddenIn? method.name) with
  | none => rfl
  | some chosen =>
      obtain ⟨base, overridden⟩ := chosen
      change (if overridden.isAbstract = true then _ else _ : Remarks).result =
        superCallVerdict block method base overridden
      rw [superCallVerdict]
      split
      · rfl
      · cases (method.flow.subexprs fun _ => false).any fun expr =>
          .ok (expr.isSuperCall method.name) with
        | error fault => rfl
        | ok calls => cases calls <;> rfl

/-- Where no block extends itself, the walk through the bases of a block comes to its end without a
bound and gives each block that is extended over one or more steps, once for each chain of entries
that leads to it, depth first and in the order of the entries. The check of calls through `SUPER`
takes from it the first base that declares a method of the same name, if there is one. -/
theorem inheritance_walk_by_chains {scope : Scope} (acyclic : Acyclic scope.code.blocks)
    (block : FunctionBlock) :
    (∀ steps, Walks scope.code.blocks block (block.bases.getD []) steps ↔
      steps = scope.bases block) ∧
    (∃ chains given, (knownBases (scope.bases block)).result = .ok given ∧
      Lists scope.code.blocks (block.bases.getD []) chains given ∧
      ∀ base, base ∈ given ↔ Relation.TransGen (Extends scope.code.blocks) block base) ∧
    (scope.block = some block → ∀ method : Routine,
      (∃ chain base overridden,
        FirstSuper scope.code.blocks block method.name chain base overridden ∧
        (superCallWhenPossible.run scope (.method method)).result =
          superCallVerdict block method base overridden) ∨
      (∀ base, Relation.TransGen (Extends scope.code.blocks) block base →
        ∀ other ∈ base.methods, Text.sameName other.name method.name = false) ∧
        (superCallWhenPossible.run scope (.method method)).result = .ok {}) := by
  have walks := walks_iff_eq_bases acyclic block
  obtain ⟨chains, lists⟩ := ((walks _).mpr rfl).exists_lists
  refine ⟨walks, ⟨chains, _, result_knownBases _, lists, fun base => lists.mem_iff⟩, ?_⟩
  intro inBlock method
  rw [result_superCallWhenPossible inBlock]
  have undeclared {other : FunctionBlock} (notChosen : overriddenIn? method.name other = none) :
      ∀ declared ∈ other.methods, Text.sameName declared.name method.name = false := by
    simpa [overriddenIn?] using notChosen
  cases isFirst : (foundBlocks (scope.bases block)).findSome? (overriddenIn? method.name) with
  | none =>
      refine .inr ⟨fun base extended => ?_, rfl⟩
      have isGiven := (lists.mem_iff).mpr extended
      exact undeclared (List.findSome?_eq_none_iff.mp isFirst base isGiven)
  | some chosen =>
      obtain ⟨chain, base, leads, isChosen, notEarlier⟩ := lists.exists_first isFirst
      obtain ⟨overridden, declares, rfl⟩ := Option.map_eq_some_iff.mp isChosen
      have first (earlier : List Nat) (less : earlier < chain) (between : FunctionBlock)
          (leadsThere : baseAlong scope.code.blocks (block.bases.getD []) earlier = some between) :
          ∀ other ∈ between.methods, Text.sameName other.name method.name = false :=
        undeclared (notEarlier earlier less between leadsThere)
      refine .inl ⟨chain, base, overridden, ⟨leads, declares, first, ?_⟩, rfl⟩
      exact fun earlier ahead differ => first earlier (lt_of_isPrefix ahead differ)

/-! A station of which both bases are devices. -/

def devicePart : FunctionBlock :=
  { name := "Device", methods := [{ name := "Run", kind := .method }] }

def pumpPart : FunctionBlock := { name := "Pump", bases := some ["device"] }

def motorPart : FunctionBlock := { name := "Motor", bases := some ["DEVICE", "Unknown"] }

def stationRun : Routine := { name := "run", kind := .method, body := some [] }

def stationPart : FunctionBlock :=
  { name := "Station", bases := some ["pump", "Motor"], methods := [stationRun] }

def stationScope : Scope where
  code := { blocks :=
    ⟨[pumpPart, devicePart, stationPart, motorPart].map fun part => (part.name, part)⟩ }
  settings := {}
  block := some stationPart
  layers := []

theorem station_super_is_device : Acyclic stationScope.code.blocks ∧
    (knownBases (stationScope.bases stationPart)).result =
      .ok [pumpPart, devicePart, motorPart, devicePart] ∧
    ∃ chain base overridden,
      FirstSuper stationScope.code.blocks stationPart "run" chain base overridden ∧
      (superCallWhenPossible.run stationScope (.method stationRun)).result =
        superCallVerdict stationPart stationRun base overridden := by
  have acyclic : Acyclic stationScope.code.blocks :=
    acyclic_of_rank (fun part => ["Device", "Pump", "Motor", "Station"].idxOf part.name) (by decide)
  have given : (knownBases (stationScope.bases stationPart)).result =
    .ok [pumpPart, devicePart, motorPart, devicePart] := rfl
  refine ⟨acyclic, given, ?_⟩
  obtain ⟨_, ⟨_, all, isAll, _, reached⟩, first⟩ := inheritance_walk_by_chains acyclic stationPart
  rcases first rfl stationRun with found | ⟨undeclared, _⟩
  · exact found
  · cases given.symm.trans isAll
    exact absurd (undeclared devicePart ((reached _).mp (by simp)) _ (List.mem_singleton.mpr rfl))
      (by decide)

end PlcLint.Check
