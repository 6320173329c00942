import PlcLint.Proofs.Lint.Isolation
import PlcLint.Proofs.Table

/-!
Code put together from the same parts in different orders. Where the names of the parts are
distinct and variables of different global lists do not contradict each other, every name is found
alike, the same objects are looked at in some order, and the same errors are reported.
-/

namespace PlcLint

namespace Code

/-- Among the parts of code no two names of one kind agree when case is ignored. -/
structure Distinct (parts : List Code) : Prop where
  functions : ((parts.flatMap (·.functions.names)).map Text.lower).Nodup
  blocks : ((parts.flatMap (·.blocks.names)).map Text.lower).Nodup
  dataTypes : ((parts.flatMap (·.dataTypes.names)).map Text.lower).Nodup
  globals : ((parts.flatMap (·.globals.names)).map Text.lower).Nodup

/-- Variables of different global lists whose names agree when case is ignored are spelled alike
and have the same type. -/
def GlobalsAgree (parts : List Code) : Prop :=
  (parts.flatMap (·.globals.values)).Pairwise fun first second =>
    ∀ a ∈ first.entries, ∀ b ∈ second.entries, Text.lower a.1 = Text.lower b.1 →
      a.1 = b.1 ∧ a.2.type = b.2.type

theorem Distinct.perm {parts others : List Code} (distinct : Distinct parts)
    (perm : parts.Perm others) : Distinct others where
  functions := ((perm.flatMap_right _).map _).nodup_iff.mp distinct.functions
  blocks := ((perm.flatMap_right _).map _).nodup_iff.mp distinct.blocks
  dataTypes := ((perm.flatMap_right _).map _).nodup_iff.mp distinct.dataTypes
  globals := ((perm.flatMap_right _).map _).nodup_iff.mp distinct.globals

/-! The tables of the whole code are merged from those of the parts. -/

section

variable {inheritance : Inheritance}

theorem concat_table {α : Type} (field : Code → Table α)
    (empty : field { inheritance := inheritance } = {})
    (append : ∀ first second, field (first.append second) = (field first).update (field second))
    (parts : List Code) : field (concat parts inheritance) = Table.merged (parts.map field) := by
  have onto (code : Code) : field (parts.foldl Code.append code) =
      (parts.map field).foldl Table.update (field code) := by
    induction parts generalizing code with
    | nil => rfl
    | cons first rest inductionHypothesis =>
        rw [List.foldl_cons, inductionHypothesis, append, List.map_cons, List.foldl_cons]
  rw [concat, onto, empty]
  rfl

theorem concat_interfaces (parts : List Code) :
    (concat parts inheritance).interfaces = parts.flatMap interfaces := by
  have onto (code : Code) : (parts.foldl Code.append code).interfaces =
      code.interfaces ++ parts.flatMap interfaces := by
    induction parts generalizing code with
    | nil => simp
    | cons first rest inductionHypothesis =>
        rw [List.foldl_cons, inductionHypothesis, List.flatMap_cons, ← List.append_assoc]
        rfl
  exact onto { inheritance := inheritance }

theorem concat_inheritance (parts : List Code) :
    (concat parts inheritance).inheritance = inheritance := by
  have onto (code : Code) : (parts.foldl Code.append code).inheritance = code.inheritance := by
    induction parts generalizing code with
    | nil => rfl
    | cons first rest inductionHypothesis =>
        rw [List.foldl_cons, inductionHypothesis]
        rfl
  exact onto { inheritance := inheritance }

end

section Reordered

variable {parts others : List Code} {inheritance : Inheritance}

theorem concat_table_perm {α : Type} (field : Code → Table α)
    (empty : field { inheritance := inheritance } = {})
    (append : ∀ first second, field (first.append second) = (field first).update (field second))
    (perm : parts.Perm others)
    (distinct : ((parts.flatMap fun part => (field part).names).map Text.lower).Nodup) :
    (field (concat parts inheritance)).Alike (field (concat others inheritance)) ∧
      (field (concat parts inheritance)).entries.Perm
        (field (concat others inheritance)).entries := by
  rw [concat_table field empty append, concat_table field empty append]
  have distinctTables : (((parts.map field).flatMap Table.names).map Text.lower).Nodup := by
    rwa [List.flatMap_map]
  exact ⟨Table.merged_alike (perm.map field) (Table.pairwise_consistent distinctTables),
    Table.entries_merged_perm (perm.map field) distinctTables⟩

theorem concat_alike (perm : parts.Perm others) (distinct : Distinct parts) :
    (concat parts inheritance).Alike (concat others inheritance) := by
  obtain ⟨functions, _⟩ :=
    concat_table_perm functions rfl (fun _ _ => rfl) perm distinct.functions
  obtain ⟨blocks, sameBlocks⟩ := concat_table_perm blocks rfl (fun _ _ => rfl) perm distinct.blocks
  obtain ⟨dataTypes, sameTypes⟩ :=
    concat_table_perm dataTypes rfl (fun _ _ => rfl) perm distinct.dataTypes
  refine ⟨functions, blocks, sameBlocks.length_eq, dataTypes, sameTypes.length_eq,
    fun name => ?_, ?_⟩
  · rw [concat_interfaces, concat_interfaces, (perm.flatMap_right interfaces).contains_eq]
  · rw [concat_inheritance, concat_inheritance]

theorem concat_blocks_perm (inheritance : Inheritance) (perm : parts.Perm others)
    (distinct : Distinct parts) :
    (concat parts inheritance).blocks.values.Perm (concat others inheritance).blocks.values :=
  (concat_table_perm blocks rfl (fun _ _ => rfl) perm distinct.blocks).2.map Prod.snd

theorem concat_globals {parts : List Code} (distinct : Distinct parts) :
    (concat parts inheritance).globals.values = parts.flatMap (·.globals.values) := by
  have distinctNames : ((parts.map globals).flatMap Table.names).Nodup := by
    rw [List.flatMap_map]
    exact .of_map _ distinct.globals
  rw [concat_table globals rfl (fun _ _ => rfl), Table.values, Table.entries_merged distinctNames,
    List.flatMap_map, List.map_flatMap]
  rfl

/-- The merged global variables, each by its type. -/
theorem concat_globals_alike (perm : parts.Perm others) (distinct : Distinct parts)
    (agree : GlobalsAgree parts) :
    ((Table.merged (concat parts inheritance).globals.values).map Declaration.type).Alike
      ((Table.merged (concat others inheritance).globals.values).map Declaration.type) := by
  rw [concat_globals distinct, concat_globals (distinct.perm perm), Table.map_merged,
    Table.map_merged]
  refine Table.merged_alike ((perm.flatMap_right _).map _) (List.pairwise_map.mpr ?_)
  refine agree.imp fun {first second} agree a inFirst b inSecond same => ?_
  obtain ⟨declared, isDeclared, rfl⟩ := List.mem_map.mp inFirst
  obtain ⟨other, isOther, rfl⟩ := List.mem_map.mp inSecond
  obtain ⟨sameName, sameType⟩ := agree declared isDeclared other isOther same
  exact Prod.ext sameName sameType

end Reordered

end Code

/-! Names are found alike at each place. -/

theorem Place.layered?_scope (code : Code) (settings : Settings) (place : Place) (strict : Bool)
    (name : String) :
    (place.scope code settings).layered? strict name =
      ((place.routine.toList.map Routine.declarations).reverse.findSome? fun layer =>
        Scope.seek strict layer name).or
          (Scope.seek strict (Table.merged code.globals.values) name) := by
  rw [Scope.layered?, scope, List.reverse_cons, List.findSome?_append, List.findSome?_singleton]
  rfl

theorem Place.scope_alike {parts others : List Code} (inheritance : Inheritance)
    (perm : parts.Perm others) (distinct : Code.Distinct parts) (agree : Code.GlobalsAgree parts)
    (settings : Settings) (place : Place) :
    (place.scope (Code.concat parts inheritance) settings).Alike
      (place.scope (Code.concat others inheritance) settings) := by
  refine ⟨Code.concat_alike perm distinct, .refl _, rfl, rfl, fun strict name => ?_⟩
  rw [layered?_scope, layered?_scope, Option.map_or, Option.map_or, ← Table.seek_map,
    ← Table.seek_map, (Code.concat_globals_alike perm distinct agree).seek]

/-! The objects that are looked at in one function block do not depend on the other blocks. -/

/-- What is met in a function block are nodes of its bodies. -/
theorem FunctionBlock.mem_serials {block : FunctionBlock} (done : block.steps.fault = none)
    {serial : Nat} (met : serial ∈ serials block.steps.found) :
    some serial ∈ (block.places.flatMap Place.nodes).map Subject.serial? := by
  obtain ⟨step, isStep, hasSerial⟩ := List.mem_filterMap.mp met
  have inside := (steps_gives done).mem_inside.mpr
    ⟨isStep, Bool.eq_false_iff.mpr (not_isSummary_of_numbered hasSerial)⟩
  obtain ⟨place, placed, member⟩ := List.mem_flatMap.mp inside
  obtain ⟨subject, isSubject, rfl⟩ := List.mem_map.mp member
  refine List.mem_map.mpr ⟨subject.node, ?_, (Subject.serial?_node subject).trans hasSerial⟩
  exact List.mem_flatMap.mpr ⟨place, placed, Place.node_mem_nodes isSubject⟩

namespace Code

theorem Numbered.blocks {code : Code} (numbered : code.Numbered) :
    code.blocks.values.Pairwise fun first second =>
      ((first.places.flatMap Place.nodes).map Subject.serial?).Disjoint
        ((second.places.flatMap Place.nodes).map Subject.serial?) := by
  rw [Numbered, places, List.flatMap_assoc, List.map_flatMap, List.nodup_flatMap] at numbered
  exact numbered.2

theorem Numbered.perm {first second : Code} (numbered : first.Numbered)
    (perm : first.blocks.values.Perm second.blocks.values) : second.Numbered := by
  have sameNodes := ((perm.flatMap_right FunctionBlock.places).flatMap_right Place.nodes).map
    Subject.serial?
  exact sameNodes.nodup_iff.mp numbered

theorem steps_done_perm {first second : Code}
    (perm : first.blocks.values.Perm second.blocks.values) :
    first.steps.fault = none ↔ second.steps.fault = none := by
  rw [steps, steps, Walk.concat_fault_eq_none, Walk.concat_fault_eq_none]
  exact forall_congr' fun walk => imp_congr_left (perm.map FunctionBlock.steps).mem_iff

theorem checked_eq {code : Code} (done : code.steps.fault = none) (numbered : code.Numbered) :
    code.checked = code.blocks.values.flatMap fun block => firstSteps [] block.steps.found := by
  obtain ⟨eachDone, found⟩ := Walk.concat_done done
  rw [checked, steps, found, List.flatMap_map]
  refine firstSteps_flatMap (numbered.blocks.imp_of_mem ?_)
  intro first second isFirst isSecond apart serial inFirst inSecond
  exact apart (FunctionBlock.mem_serials (eachDone _ (List.mem_map_of_mem isFirst)) inFirst)
    (FunctionBlock.mem_serials (eachDone _ (List.mem_map_of_mem isSecond)) inSecond)

theorem checked_perm {first second : Code}
    (perm : first.blocks.values.Perm second.blocks.values) (done : first.steps.fault = none)
    (numbered : first.Numbered) : first.checked.Perm second.checked := by
  rw [checked_eq done numbered, checked_eq ((steps_done_perm perm).mp done) (numbered.perm perm)]
  exact perm.flatMap_right _

end Code

namespace Lint

/-! Outcomes that are the same up to the order of what is reported. -/

inductive SameOutcome : Except Fault Report → Except Fault Report → Prop where
  | failed (first second : Fault) : SameOutcome (.error first) (.error second)
  | returned {first second : Report} (errors : first.errors.Perm second.errors)
      (printed : first.printed.Perm second.printed) : SameOutcome (.ok first) (.ok second)

namespace SameOutcome

theorem refl (outcome : Except Fault Report) : SameOutcome outcome outcome := by
  cases outcome with
  | error fault => exact .failed fault fault
  | ok report => exact .returned (.refl _) (.refl _)

theorem trans {first second third : Except Fault Report} (ahead : SameOutcome first second)
    (behind : SameOutcome second third) : SameOutcome first third := by
  cases ahead with
  | failed fault other =>
      cases behind
      exact .failed _ _
  | returned errors printed =>
      cases behind with
      | returned laterErrors laterPrinted =>
          exact .returned (errors.trans laterErrors) (printed.trans laterPrinted)

end SameOutcome

theorem result_inTurn (first second : Logged Report) :
    (inTurn first second).result = first.result.bind fun before =>
      second.result.bind fun after => .ok (before.append after) := by
  rw [inTurn, Logged.result_bind]
  congr 1
  funext before
  exact Logged.result_bind _ _

theorem inTurn_sameOutcome (first : Logged Report) {second third : Logged Report}
    (same : SameOutcome second.result third.result) :
    SameOutcome (inTurn first second).result (inTurn first third).result := by
  rw [result_inTurn, result_inTurn]
  cases first.result with
  | error fault => exact .failed _ _
  | ok before =>
      generalize second.result = one at same ⊢
      generalize third.result = two at same ⊢
      cases same with
      | failed fault other => exact .failed _ _
      | returned errors printed =>
          exact .returned (errors.append_left before.errors) (printed.append_left before.printed)

theorem inTurn_swap (first second third : Logged Report) :
    SameOutcome (inTurn first (inTurn second third)).result
      (inTurn second (inTurn first third)).result := by
  simp only [result_inTurn]
  cases first.result with
  | error fault => cases second.result <;> exact .failed _ _
  | ok one =>
      cases second.result with
      | error fault => exact .failed _ _
      | ok two =>
          cases third.result with
          | error fault => exact .failed _ _
          | ok three =>
              exact .returned (List.perm_append_comm_assoc _ _ _)
                (List.perm_append_comm_assoc _ _ _)

theorem checkEach_perm (registry : Registry) (files : FileTree) {visits others : List Visit}
    (perm : visits.Perm others) :
    SameOutcome (checkEach registry files visits).result
      (checkEach registry files others).result := by
  induction perm with
  | nil => exact .refl _
  | cons visit perm inductionHypothesis => exact inTurn_sameOutcome _ inductionHypothesis
  | swap first second rest => exact inTurn_swap _ _ _
  | trans first second firstHypothesis secondHypothesis =>
      exact firstHypothesis.trans secondHypothesis

theorem checkEach_eq_pure {registry : Registry} {files : FileTree} {visits : List Visit}
    {reports : List Report}
    (each : List.Forall₂ (fun visit report =>
      runChecks files visit (registry.checksFor visit.subject) = pure report) visits reports) :
    checkEach registry files visits = pure (reports.foldr Report.append {}) := by
  induction each with
  | nil => rfl
  | cons here _ inductionHypothesis =>
      rw [checkEach, ← Registry.checksFor_eq_filter, here, inductionHypothesis]
      rfl

/-! Steady checks say the same in both orders. -/

section Reordered

variable {registry : Registry} {parts others : List Code} {inheritance : Inheritance}

theorem runChecks_reordered (perm : parts.Perm others) (distinct : Code.Distinct parts)
    (agree : Code.GlobalsAgree parts) (settings : Settings) (files : FileTree) (step : Step)
    {checks : List Check} (steady : ∀ check ∈ checks, check.Steady) :
    runChecks files (step.visit (Code.concat parts inheritance) settings) checks =
      runChecks files (step.visit (Code.concat others inheritance) settings) checks := by
  induction checks with
  | nil => rfl
  | cons check rest inductionHypothesis =>
      obtain ⟨checkSteady, restSteady⟩ := List.forall_mem_cons.mp steady
      have alike := Place.scope_alike inheritance perm distinct agree settings step.1
      have sameCheck : runCheck files (step.visit (Code.concat parts inheritance) settings) check =
          runCheck files (step.visit (Code.concat others inheritance) settings) check :=
        runCheck_congr (checkSteady alike step.2) rfl rfl rfl
      rw [runChecks, runChecks, sameCheck, inductionHypothesis restSteady]

theorem checkEach_reordered (steady : ∀ check ∈ registry.checks, check.Steady)
    (perm : parts.Perm others) (distinct : Code.Distinct parts) (agree : Code.GlobalsAgree parts)
    (settings : Settings) (files : FileTree) (steps : List Step) :
    checkEach registry files (steps.map (Step.visit (Code.concat parts inheritance) settings)) =
      checkEach registry files
        (steps.map (Step.visit (Code.concat others inheritance) settings)) := by
  induction steps with
  | nil => rfl
  | cons step rest inductionHypothesis =>
      rw [List.map_cons, List.map_cons, checkEach, checkEach, inductionHypothesis]
      refine congrArg (inTurn · _) (runChecks_reordered perm distinct agree settings files step ?_)
      exact fun check accepting => steady check (List.mem_of_mem_filter accepting)

theorem lint_sameOutcome (steady : ∀ check ∈ registry.checks, check.Steady)
    (perm : parts.Perm others) (distinct : Code.Distinct parts) (agree : Code.GlobalsAgree parts)
    (numbered : (Code.concat parts inheritance).Numbered) (settings : Settings) (files : FileTree) :
    SameOutcome (lint registry settings files (Code.concat parts inheritance)).result
      (lint registry settings files (Code.concat others inheritance)).result := by
  have blocks := Code.concat_blocks_perm inheritance perm distinct
  by_cases done : (Code.concat parts inheritance).steps.fault = none
  · have checked := (Code.checked_perm blocks done numbered).map
      (Step.visit (Code.concat others inheritance) settings)
    have same := checkEach_perm registry files checked
    rw [← checkEach_reordered steady perm distinct agree] at same
    rwa [result_lint_of_done registry settings files done,
      result_lint_of_done registry settings files ((Code.steps_done_perm blocks).mp done)]
  · obtain ⟨fault, failed⟩ := lint_fails_of_not_done registry settings files done
    obtain ⟨other, otherFailed⟩ := lint_fails_of_not_done registry settings files
      (mt (Code.steps_done_perm blocks).mpr done)
    rw [failed, otherFailed]
    exact .failed _ _

end Reordered

end Lint

theorem lint_same_in_every_order {registry : Registry}
    (steady : ∀ check ∈ registry.checks, check ∈ Check.builtin ∨ check.Steady)
    {parts others : List Code} (perm : parts.Perm others) (distinct : Code.Distinct parts)
    (agree : Code.GlobalsAgree parts) {inheritance : Inheritance}
    (numbered : (Code.concat parts inheritance).Numbered) (settings : Settings)
    (files : FileTree) :
    let first := lint registry settings files (Code.concat parts inheritance)
    let second := lint registry settings files (Code.concat others inheritance)
    (∃ fault other, first.result = .error fault ∧ second.result = .error other) ∨
    ∃ before after, first.result = .ok before ∧ second.result = .ok after ∧
      before.exitCode = after.exitCode ∧ before.errors.Perm after.errors ∧
      before.printed.Perm after.printed := by
  intro first second
  have allSteady : ∀ check ∈ registry.checks, check.Steady := fun check registered =>
    (steady check registered).elim Check.builtin_steady id
  have same := Lint.lint_sameOutcome allSteady perm distinct agree numbered settings files
  change Lint.SameOutcome first.result second.result at same
  generalize first.result = firstResult at same ⊢
  generalize second.result = secondResult at same ⊢
  cases same with
  | failed fault other => exact .inl ⟨fault, other, rfl, rfl⟩
  | @returned before after errors printed =>
      refine .inr ⟨before, after, rfl, rfl, ?_, errors, printed⟩
      rw [Report.exitCode, Report.exitCode, errors.isEmpty_eq]

/-- A function block that inherits from the sample, with a global list that declares a variable of
the sample once more. -/
def samplePart : Code where
  blocks := ⟨[("FB_Derived", {
    name := "FB_Derived"
    bases := some ["FB_Sample"]
    body := some [.action ⟨31, none, none⟩ (.assign [.var (.simple ⟨32, none, none⟩ "count" false)]
      (.binary ⟨33, none, none⟩ (.var (.simple ⟨34, none, none⟩ "limit" false)) "-"
        (.var (.simple ⟨35, none, none⟩ "Count" false))))] })]⟩
  globals := ⟨[("GVL_Derived", ⟨[("limit", ⟨"limit", "INT", "VAR_GLOBAL", some "3", none, none⟩)]⟩)]⟩

theorem lint_same_in_every_order_sample :
    Check.namedArguments ∈ Registry.builtin.checks ∧
    (∀ check ∈ Registry.builtin.checks, check ∈ Check.builtin ∨ check.Steady) ∧
    [sampleCode, samplePart].Perm [samplePart, sampleCode] ∧
    Code.Distinct [sampleCode, samplePart] ∧ Code.GlobalsAgree [sampleCode, samplePart] ∧
    (Code.concat [sampleCode, samplePart]).Numbered ∧
    ((∃ fault other,
      (lint Registry.builtin {} {} (Code.concat [sampleCode, samplePart])).result = .error fault ∧
      (lint Registry.builtin {} {} (Code.concat [samplePart, sampleCode])).result = .error other) ∨
    ∃ before after,
      (lint Registry.builtin {} {} (Code.concat [sampleCode, samplePart])).result = .ok before ∧
      (lint Registry.builtin {} {} (Code.concat [samplePart, sampleCode])).result = .ok after ∧
      before.exitCode = after.exitCode ∧ before.errors.Perm after.errors ∧
      before.printed.Perm after.printed) := by
  have steady : ∀ check ∈ Registry.builtin.checks, check ∈ Check.builtin ∨ check.Steady :=
    fun check registered => .inl (Registry.mem_builtin registered)
  have perm : [sampleCode, samplePart].Perm [samplePart, sampleCode] := .swap _ _ _
  have distinct : Code.Distinct [sampleCode, samplePart] :=
    ⟨by decide, by decide, by decide, by decide⟩
  have agree : Code.GlobalsAgree [sampleCode, samplePart] := by
    unfold Code.GlobalsAgree
    decide
  have numbered : (Code.concat [sampleCode, samplePart]).Numbered := by decide
  exact ⟨List.mem_of_getElem? (i := 0) rfl, steady, perm, distinct, agree, numbered,
    lint_same_in_every_order steady perm distinct agree numbered {} {}⟩

/-! A name without underscore is no conversion. -/

theorem Text.underscore_mem_lowerFrom (before : List Char) {text : List Char}
    (inside : '_' ∈ text) : '_' ∈ lowerFrom before text := by
  induction text generalizing before with
  | nil => exact inside
  | cons c rest inductionHypothesis =>
      rw [lowerFrom, List.mem_append]
      rcases List.mem_cons.mp inside with rfl | later
      · exact .inl List.mem_cons_self
      · exact .inr (inductionHypothesis _ later)

theorem TypeName.underscore_mem_conversions {entry : String × String}
    (membership : entry ∈ conversions.entries) : '_' ∈ entry.1.toList := by
  rcases List.mem_append.mp membership with between | plain
  · obtain ⟨source, _, inside⟩ := List.mem_flatMap.mp between
    obtain ⟨target, _, rfl⟩ := List.mem_map.mp inside
    simp
  · obtain ⟨target, _, rfl⟩ := List.mem_map.mp plain
    simp

theorem TypeName.lower_ne_of_mem_conversions {name : String}
    (plain : '_' ∉ (Text.lower name).toList) {known : String}
    (membership : known ∈ conversions.names) : Text.lower known ≠ Text.lower name := by
  intro same
  obtain ⟨entry, isEntry, rfl⟩ := List.mem_map.mp membership
  have inside := Text.underscore_mem_lowerFrom [] (underscore_mem_conversions isEntry)
  rw [← same, Text.lower, String.toList_ofList] at plain
  exact plain inside

theorem TypeName.seek_conversions_eq_none {name : String}
    (plain : '_' ∉ (Text.lower name).toList) (strict : Bool) :
    Scope.seek strict conversions name = none :=
  Table.seek_eq_none (fun _ => lower_ne_of_mem_conversions plain) strict

theorem Lint.runCheck_noRemarks {files : FileTree} {visit : Visit} {check : Check}
    (silent : check.run visit.scope visit.subject = noRemarks) :
    runCheck files visit check = pure {} := by
  rw [runCheck, silent]
  cases effectiveLevel? visit.scope.settings check.code <;> rfl

/-- The check of scoping is silent about a name that can be looked up. -/
theorem Check.validScoping_of_varType {scope : Scope} {origin : Origin} {name : String}
    {deref : Bool} {type : Option TypeRef} (found : scope.varType name = pure type) :
    validScoping.run scope (.expr (.var (.simple origin name deref))) = noRemarks := by
  change tryCatch (scope.varType name >>= fun _ => _) _ = _
  rw [found]
  rfl

/-- The checks of variables have nothing to say about a variable that is found as it is written. -/
theorem Lint.runChecks_known {files : FileTree} {scope : Scope} {origin : Origin} {name : String}
    {deref : Bool} {type : TypeRef}
    (known : ∀ strict, scope.lookup strict name = pure (some name, some type)) :
    Lint.runChecks files ⟨scope, .expr (.var (.simple origin name deref))⟩
      [Check.validScoping, Check.variableExists] = pure {} := by
  have scoping : Check.validScoping.run scope (.expr (.var (.simple origin name deref))) =
      noRemarks := by
    have found : scope.varType name = pure (some type) := by
      rw [Scope.varType, known]
      rfl
    exact Check.validScoping_of_varType found
  have existence : Check.variableExists.run scope (.expr (.var (.simple origin name deref))) =
      noRemarks := by
    change (scope.varType name true >>= fun _ => _) = _
    rw [Scope.varType, known]
    rfl
  rw [Lint.runChecks, Lint.runCheck_noRemarks scoping, Lint.runChecks,
    Lint.runCheck_noRemarks existence]
  rfl

/-! Code in which a variable `x` is decremented that only global lists declare. -/

def counter : Expr := .var (.simple ⟨4, none, none⟩ "x" false)

def one : Expr := .literal ⟨5, none, none⟩ (.integer .decimal "1" none)

def difference : Expr := .binary ⟨3, none, none⟩ counter "-" one

def decrement : Stmt :=
  .action ⟨1, none, none⟩ (.assign [.var (.simple ⟨2, none, none⟩ "y" false)] difference)

def decrementBlock : FunctionBlock where
  name := "FB"
  body := some [decrement]

def decrementScope (code : Code) (layer : Table Declaration) : Scope where
  code := code
  settings := {}
  block := some decrementBlock
  layers := [layer]
  entered := [.block]

section Decrement

variable {code : Code} {layer : Table Declaration} {type : String}
  (known : ∀ strict, (decrementScope code layer).lookup strict "x" =
    pure (some "x", some (.named type)))

include known

theorem runChecks_difference {common : TypeRef}
    (isCommon : TypeName.common (some (.named type)) (some (.named "INT")) =
      pure (some common)) :
    ∃ report, Lint.runChecks {} ⟨decrementScope code layer, .expr difference⟩
        [Check.unsignedUnderflow, Check.divisionByZero] = pure report ∧
      report.exitCode = if Check.isUnsigned (some common) then 1 else 0 := by
  have typed : (decrementScope code layer).exprType difference = pure (some common) := by
    simp only [difference, counter, one, Scope.exprType, Scope.varType, known]
    exact isCommon
  have underflow : Check.unsignedUnderflow.run (decrementScope code layer) (.expr difference) =
      remarkIf (Check.isUnsigned (some common)) {
        message := "Potential unsigned integer underflow in subtraction expression"
        violating := some (.node ⟨3, none, none⟩) } := by
    change ((decrementScope code layer).exprType difference >>= fun _ => _) = _
    rw [typed]
    rfl
  rw [Lint.runChecks, Lint.runCheck, underflow]
  cases Check.isUnsigned (some common) with
  | false => exact ⟨{}, rfl, rfl⟩
  | true => exact ⟨_, rfl, rfl⟩

end Decrement

def decrementing (globals : Table (Table Declaration)) : Code where
  blocks := ⟨[("FB", decrementBlock)]⟩
  globals := globals

theorem lookup_counter {globals : Table (Table Declaration)} {declaration : Declaration}
    (visible : Table.merged globals.values = ⟨[("x", declaration)]⟩) (strict : Bool) :
    (decrementScope (decrementing globals) (Table.merged globals.values)).lookup strict "x" =
      pure (some "x", some (.named declaration.type)) := by
  have noConversion : Scope.seek strict TypeName.conversions "x" = none :=
    TypeName.seek_conversions_eq_none (by decide) strict
  rw [visible, Scope.lookup, Scope.complexName?, noConversion]
  cases strict <;> rfl

theorem lint_decrementing {globals : Table (Table Declaration)} {d : Declaration}
    {common : TypeRef} (visible : Table.merged globals.values = ⟨[("x", d)]⟩)
    (isCommon : TypeName.common (some (.named d.type)) (some (.named "INT")) =
      pure (some common)) :
    (lint Registry.builtin {} {} (decrementing globals)).result.map Report.exitCode =
      .ok (if Check.isUnsigned (some common) then 1 else 0) := by
  have done : (decrementing globals).steps.fault = none := rfl
  have checked : (decrementing globals).checked.map (Step.visit (decrementing globals) {}) =
      [.block decrementBlock, .stmt decrement, .expr difference, .expr counter, .expr one].map
        (Visit.mk (decrementScope (decrementing globals) (Table.merged globals.values))) := rfl
  have looking : [.block decrementBlock, .stmt decrement, .expr difference, .expr counter,
      .expr one].map Registry.builtin.checksFor =
        [[Check.superCallInFunctionBlock], [Check.uninitializedRead],
          [Check.unsignedUnderflow, Check.divisionByZero],
          [Check.validScoping, Check.variableExists], []] := rfl
  simp only [List.map_cons, List.map_nil, List.cons.injEq] at looking
  obtain ⟨atBlock, atStmt, atDifference, atCounter, atOne, _⟩ := looking
  obtain ⟨report, onDifference, exits⟩ := runChecks_difference (lookup_counter visible) isCommon
  have each : List.Forall₂ (fun visit report =>
      Lint.runChecks {} visit (Registry.builtin.checksFor visit.subject) = pure report)
      ((decrementing globals).checked.map (Step.visit (decrementing globals) {}))
      [{}, {}, report, {}, {}] := by
    rw [checked]
    refine .cons ?_ (.cons ?_ (.cons ?_ (.cons ?_ (.cons ?_ .nil))))
    · rw [atBlock]
      rfl
    · rw [atStmt]
      rfl
    · rw [atDifference]
      exact onDifference
    · rw [atCounter]
      exact Lint.runChecks_known (lookup_counter visible)
    · rw [atOne]
      rfl
  rw [Lint.result_lint_of_done _ _ _ done, Lint.checkEach_eq_pure each, ← exits]
  change Except.ok (if (report.errors ++ []).isEmpty then 0 else 1) = _
  rw [List.append_nil, Report.exitCode]

def globalList (name type : String) : Code where
  globals := ⟨[(name, ⟨[("x", ⟨"x", type, "VAR_GLOBAL", none, none, none⟩)]⟩)]⟩

/-- The global list that comes last gives the type of a variable that two of them declare. -/
theorem lint_differs_by_order_of_globals :
    [decrementing {}, globalList "A" "INT", globalList "B" "UINT"].Perm
      [decrementing {}, globalList "B" "UINT", globalList "A" "INT"] ∧
    Code.Distinct [decrementing {}, globalList "A" "INT", globalList "B" "UINT"] ∧
    (Code.concat [decrementing {}, globalList "A" "INT", globalList "B" "UINT"]).Numbered ∧
    (lint Registry.builtin {} {} (Code.concat
      [decrementing {}, globalList "A" "INT", globalList "B" "UINT"])).result.map
        Report.exitCode = .ok 1 ∧
    (lint Registry.builtin {} {} (Code.concat
      [decrementing {}, globalList "B" "UINT", globalList "A" "INT"])).result.map
        Report.exitCode = .ok 0 := by
  refine ⟨.cons _ (.swap _ _ _), ⟨by decide, by decide, by decide, by decide⟩, by decide, ?_, ?_⟩
  · have isCode : Code.concat [decrementing {}, globalList "A" "INT", globalList "B" "UINT"] =
        decrementing ((globalList "A" "INT").globals.update (globalList "B" "UINT").globals) := rfl
    rw [isCode]
    exact lint_decrementing (d := ⟨"x", "UINT", "VAR_GLOBAL", none, none, none⟩) rfl rfl
  · have isCode : Code.concat [decrementing {}, globalList "B" "UINT", globalList "A" "INT"] =
        decrementing ((globalList "B" "UINT").globals.update (globalList "A" "INT").globals) := rfl
    rw [isCode]
    exact lint_decrementing (d := ⟨"x", "INT", "VAR_GLOBAL", none, none, none⟩) rfl rfl

end PlcLint
