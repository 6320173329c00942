import PlcLint.Lint
import PlcLint.Proofs.Lint.Nodes

/-!
Which objects linting looks at, and in which scope. The walk through the code is the same for all
settings: it gives objects with their places, and a place has its scope. A node that is met
several times is looked at when it is first met; nodes are told apart by their serial numbers.
-/

namespace PlcLint

/-- Where code stands: in a function block itself, or in one of its methods and accessors. -/
structure Place where
  block : FunctionBlock
  routine : Option Routine := none

/-- An object at its place. -/
abbrev Step := Place × Subject

namespace Place

/-- The scope of a place: the variables of its routine lie above those visible everywhere. -/
def scope (code : Code) (settings : Settings) (place : Place) : Scope where
  code := code
  settings := settings
  block := some place.block
  routine := place.routine
  layers := code.globals.values.foldl Table.update {}
    :: place.routine.toList.map Routine.declarations
  entered := (place.routine.toList.map fun _ => .routine) ++ [.block]

def stmts (place : Place) : List Stmt :=
  match place.routine with
  | some routine => routine.body.getD []
  | none => place.block.body.getD []

def declarations (place : Place) : List Subject :=
  match place.routine with
  | some routine => routine.declarations.values.map .declaration
  | none => place.block.declarations.values.map .declaration

/-- The objects in the body: the statements that can be reached, and the expressions inside
those that they read. -/
def subjects (place : Place) : List Subject :=
  (Flow.stmtsReached place.stmts).flatMap Stmt.subjects

/-- The nodes of the body, reached or not. -/
def nodes (place : Place) : List Subject := stmtsNodes place.stmts

theorem node_mem_nodes {place : Place} {subject : Subject}
    (membership : subject ∈ place.subjects) : subject.node ∈ place.nodes := by
  obtain ⟨stmt, reached, inside⟩ := List.mem_flatMap.mp membership
  exact node_mem_stmtsNodes reached inside

theorem not_isSummary_of_mem {place : Place} {subject : Subject}
    (membership : subject ∈ place.subjects) : subject.isSummary = false := by
  obtain ⟨stmt, _, inside⟩ := List.mem_flatMap.mp membership
  rcases List.mem_cons.mp inside with rfl | isExpr
  · rfl
  · obtain ⟨expr, _, rfl⟩ := List.mem_map.mp isExpr
    rfl

theorem isSummary_of_mem_declarations {place : Place} {subject : Subject}
    (membership : subject ∈ place.declarations) : subject.isSummary = true := by
  unfold declarations at membership
  split at membership
  all_goals
    obtain ⟨declaration, _, rfl⟩ := List.mem_map.mp membership
    rfl

/-! The walk through one place. -/

/-- The code of the body. A function block may have none. -/
def source? (place : Place) : Option Flow.Source :=
  match place.routine with
  | some routine => some routine.flow
  | none => place.block.body.map .block

def bodyWalk (place : Place) : Walk Subject :=
  match place.source? with
  | some source => source.statements.flatMap Stmt.subjectWalk
  | none => {}

/-- First some objects of the structure, then the declarations, then the body. -/
def steps (place : Place) (heads : List Subject) : Walk Step :=
  (Walk.ofList (heads ++ place.declarations) ++ place.bodyWalk).map fun subject =>
    (place, subject)

theorem stmts_of_source {place : Place} {source : Flow.Source}
    (isSource : place.source? = some source) : source.stmts = place.stmts := by
  unfold source? at isSource
  split at isSource
  · rename_i routine isRoutine
    rw [← Option.some.inj isSource, stmts, isRoutine]
    rfl
  · rename_i isBlock
    obtain ⟨body, isBody, rfl⟩ := Option.map_eq_some_iff.mp isSource
    simp [stmts, isBlock, isBody, Flow.Source.stmts]

theorem bodyWalk_perm {place : Place} (done : place.bodyWalk.fault = none) :
    place.bodyWalk.found.Perm place.subjects := by
  have fromSource (source : Flow.Source) (isBody : source.stmts = place.stmts)
      (sourceDone : (source.statements.flatMap Stmt.subjectWalk).fault = none) :
      (source.statements.flatMap Stmt.subjectWalk).found.Perm place.subjects := by
    obtain ⟨graphDone, _, found⟩ := Walk.flatMap_done sourceDone
    have reached : source.statements.found.Perm (Flow.stmtsReached place.stmts) := by
      unfold Flow.Source.statements at graphDone ⊢
      cases built : source.graph with
      | error fault => simp [built, Walk.ofExcept, Except.map] at graphDone
      | ok graph =>
          rw [← isBody]
          exact Flow.Source.reachableStmts_perm built
    rw [found, subjects]
    simp only [Stmt.found_subjectWalk]
    exact reached.flatMap_right _
  unfold bodyWalk at done ⊢
  cases isSource : place.source? with
  | none =>
      have noBody : place.subjects = [] := by
        unfold source? at isSource
        split at isSource
        · cases isSource
        · rename_i isBlock
          have noStmts := Option.map_eq_none_iff.mp isSource
          simp [subjects, stmts, isBlock, noStmts, Flow.stmtsReached]
      rw [noBody]
  | some source =>
      rw [isSource] at done
      exact fromSource source (stmts_of_source isSource) done

end Place

namespace FunctionBlock

def accessors (block : FunctionBlock) : List Routine :=
  block.properties.flatMap fun property => [property.getter, property.setter]

/-- The function block itself, its methods, and the accessors of its properties. -/
def places (block : FunctionBlock) : List Place :=
  ⟨block, none⟩ :: (block.methods ++ block.accessors).map fun routine => ⟨block, some routine⟩

/-- The objects of the structure of a function block. A property is looked at in the place of the
function block, a method in its own. -/
def summaries (block : FunctionBlock) : List Step :=
  let declared (place : Place) : List Step :=
    place.declarations.map fun subject => (place, subject)
  (⟨block, none⟩, .block block) :: declared ⟨block, none⟩
    ++ block.methods.flatMap (fun method =>
      (⟨block, some method⟩, .method method) :: declared ⟨block, some method⟩)
    ++ block.properties.flatMap fun property =>
      (⟨block, none⟩, .property property)
        :: declared ⟨block, some property.getter⟩ ++ declared ⟨block, some property.setter⟩

def methodSteps (block : FunctionBlock) (method : Routine) : Walk Step :=
  Place.steps ⟨block, some method⟩ [.method method]

def propertySteps (block : FunctionBlock) (property : Property) : Walk Step :=
  Walk.ofList [(⟨block, none⟩, .property property)]
    ++ Place.steps ⟨block, some property.getter⟩ []
    ++ Place.steps ⟨block, some property.setter⟩ []

/-- The walk through a function block. -/
def steps (block : FunctionBlock) : Walk Step :=
  Place.steps ⟨block, none⟩ [.block block]
    ++ Walk.concat (block.methods.map block.methodSteps)
    ++ Walk.concat (block.properties.map block.propertySteps)

end FunctionBlock

namespace Code

def places (code : Code) : List Place := code.blocks.values.flatMap FunctionBlock.places

def summaries (code : Code) : List Step := code.blocks.values.flatMap FunctionBlock.summaries

def steps (code : Code) : Walk Step := Walk.concat (code.blocks.values.map FunctionBlock.steps)

/-- Each node of the bodies has a serial number of its own. -/
def Numbered (code : Code) : Prop :=
  ((code.places.flatMap Place.nodes).map Subject.serial?).Nodup

instance (code : Code) : Decidable code.Numbered := inferInstanceAs (Decidable (List.Nodup _))

/-- A serial number tells the node and its place. -/
theorem Numbered.unique {code : Code} (numbered : code.Numbered) {first second : Place}
    {firstNode secondNode : Subject} (firstPlace : first ∈ code.places)
    (secondPlace : second ∈ code.places) (firstInside : firstNode ∈ first.nodes)
    (secondInside : secondNode ∈ second.nodes)
    (same : firstNode.serial? = secondNode.serial?) : first = second ∧ firstNode = secondNode := by
  have labelled : ((code.places.flatMap fun place => place.nodes.map fun node => (place, node)).map
      fun step => step.2.serial?) = (code.places.flatMap Place.nodes).map Subject.serial? := by
    simp [List.map_flatMap, Function.comp_def]
  have distinct := (congrArg List.Nodup labelled).mpr numbered
  have equal := List.inj_on_of_nodup_map distinct
    (List.mem_flatMap.mpr ⟨first, firstPlace, List.mem_map_of_mem firstInside⟩)
    (List.mem_flatMap.mpr ⟨second, secondPlace, List.mem_map_of_mem secondInside⟩) same
  exact Prod.mk.inj equal

end Code

/-- The visit of an object at its place. -/
def Step.visit (code : Code) (settings : Settings) (step : Step) : Visit :=
  ⟨step.1.scope code settings, step.2⟩

namespace Lint

/-! The visits are the steps through the code, each in the scope of its place. -/

theorem stmtVisits_eq (scope : Scope) (stmt : Stmt) :
    stmtVisits scope stmt = stmt.subjectWalk.map (Visit.mk scope) := by
  rw [stmtVisits, Stmt.subjectWalk, Walk.map_append, Walk.map_flatMap]
  rfl

theorem bodyVisits_eq (scope : Scope) (source : Flow.Source) :
    bodyVisits scope source =
      (source.statements.flatMap Stmt.subjectWalk).map (Visit.mk scope) := by
  rw [bodyVisits, Walk.map_flatMap, funext (stmtVisits_eq scope)]

theorem steps_map (code : Code) (settings : Settings) (place : Place) (heads : List Subject) :
    (place.steps heads).map (Step.visit code settings) =
      Walk.ofList (heads.map (Visit.mk (place.scope code settings))) ++
        (Walk.ofList (place.declarations.map (Visit.mk (place.scope code settings))) ++
          place.bodyWalk.map (Visit.mk (place.scope code settings))) := by
  rw [Place.steps, Walk.map_map, Walk.map_append, ← Walk.append_assoc, ← Walk.ofList_append,
    ← List.map_append]
  rfl

theorem routineVisits_eq (code : Code) (settings : Settings) (block : FunctionBlock)
    (routine : Routine) :
    routineVisits (Place.scope code settings ⟨block, some routine⟩) routine =
      (Place.steps ⟨block, some routine⟩ []).map (Step.visit code settings) := by
  rw [steps_map, routineVisits, bodyVisits_eq, declarationVisits]
  simp only [Place.declarations, List.map_map]
  rfl

theorem methodVisits_eq (code : Code) (settings : Settings) (block : FunctionBlock)
    (method : Routine) :
    methodVisits (Place.scope code settings ⟨block, none⟩) method =
      (block.methodSteps method).map (Step.visit code settings) := by
  have entered : (Place.scope code settings ⟨block, none⟩).enterRoutine method =
      .ok (Place.scope code settings ⟨block, some method⟩) := rfl
  rw [methodVisits, entered, within, routineVisits_eq, FunctionBlock.methodSteps, steps_map,
    steps_map]
  rfl

theorem propertyVisits_eq (code : Code) (settings : Settings) (block : FunctionBlock)
    (property : Property) :
    propertyVisits (Place.scope code settings ⟨block, none⟩) property =
      (block.propertySteps property).map (Step.visit code settings) := by
  have entered (accessor : Routine) :
      (Place.scope code settings ⟨block, none⟩).enterRoutine accessor =
        .ok (Place.scope code settings ⟨block, some accessor⟩) := rfl
  rw [propertyVisits, entered, entered, within, within, routineVisits_eq, routineVisits_eq,
    FunctionBlock.propertySteps, Walk.map_append, Walk.map_append]
  rfl

theorem blockVisits_eq (code : Code) (settings : Settings) (block : FunctionBlock) :
    blockVisits (Scope.outermost code settings) block =
      block.steps.map (Step.visit code settings) := by
  have entered : (Scope.outermost code settings).enterBlock block =
      .ok (Place.scope code settings ⟨block, none⟩) := rfl
  have methods : block.methods.map (methodVisits (Place.scope code settings ⟨block, none⟩)) =
      (block.methods.map block.methodSteps).map (Walk.map (Step.visit code settings)) := by
    rw [List.map_map]
    exact List.map_congr_left fun method _ => methodVisits_eq code settings block method
  have properties :
      block.properties.map (propertyVisits (Place.scope code settings ⟨block, none⟩)) =
        (block.properties.map block.propertySteps).map (Walk.map (Step.visit code settings)) := by
    rw [List.map_map]
    exact List.map_congr_left fun property _ => propertyVisits_eq code settings block property
  rw [blockVisits, entered, within, methods, properties, FunctionBlock.steps, Walk.map_append,
    Walk.map_append, Walk.map_concat, Walk.map_concat, steps_map, ← Walk.append_assoc,
    declarationVisits, Place.bodyWalk, Place.source?]
  simp only [Place.declarations, List.map_map]
  cases block.body with
  | none => rfl
  | some stmts =>
      simp only [bodyVisits_eq]
      rfl

theorem visits_eq (code : Code) (settings : Settings) :
    visits code settings = code.steps.map (Step.visit code settings) := by
  rw [visits, Code.steps, Walk.map_concat, List.map_map]
  congr 1
  exact List.map_congr_left fun block _ => blockVisits_eq code settings block

end Lint

/-! What the steps give: the objects of the structure in their order, and those of the bodies in
some order. -/

/-- The objects of the bodies, each at its place. -/
def Place.inside (place : Place) : List Step :=
  place.subjects.map fun subject => (place, subject)

/-- Steps split into those to the structure and those inside bodies. -/
structure Gives (steps summaries inside : List Step) : Prop where
  summaries : steps.filter (·.2.isSummary) = summaries
  inside : (steps.filter fun step => !step.2.isSummary).Perm inside

namespace Gives

variable {first second firstSummaries secondSummaries firstInside secondInside : List Step}

theorem append (firstGives : Gives first firstSummaries firstInside)
    (secondGives : Gives second secondSummaries secondInside) :
    Gives (first ++ second) (firstSummaries ++ secondSummaries) (firstInside ++ secondInside) where
  summaries := by rw [List.filter_append, firstGives.summaries, secondGives.summaries]
  inside := by
    rw [List.filter_append]
    exact firstGives.inside.append secondGives.inside

theorem flatMap {α : Type} (items : List α) {steps summaries inside : α → List Step}
    (each : ∀ item ∈ items, Gives (steps item) (summaries item) (inside item)) :
    Gives (items.flatMap steps) (items.flatMap summaries) (items.flatMap inside) := by
  induction items with
  | nil => exact ⟨rfl, .nil⟩
  | cons item rest inductionHypothesis =>
      obtain ⟨itemGives, restGive⟩ := List.forall_mem_cons.mp each
      exact itemGives.append (inductionHypothesis restGive)

theorem of_summaries {steps : List Step} (all : ∀ step ∈ steps, step.2.isSummary = true) :
    Gives steps steps [] where
  summaries := List.filter_eq_self.mpr all
  inside := by
    rw [List.filter_eq_nil_iff.mpr fun step membership => by simp [all step membership]]

theorem of_perm {steps inside : List Step} (perm : steps.Perm inside)
    (none : ∀ step ∈ steps, step.2.isSummary = false) : Gives steps [] inside where
  summaries := List.filter_eq_nil_iff.mpr fun step membership => by simp [none step membership]
  inside := by
    rwa [List.filter_eq_self.mpr fun step membership => by simp [none step membership]]

theorem mem_inside {steps summaries inside : List Step} (gives : Gives steps summaries inside)
    {step : Step} : step ∈ inside ↔ step ∈ steps ∧ step.2.isSummary = false := by
  rw [← gives.inside.mem_iff, List.mem_filter, Bool.not_eq_true']

end Gives

theorem Place.steps_gives {place : Place} {heads : List Subject}
    (areSummaries : ∀ head ∈ heads, head.isSummary = true)
    (done : (place.steps heads).fault = none) :
    Gives (place.steps heads).found
      ((heads ++ place.declarations).map fun subject => (place, subject)) place.inside := by
  obtain ⟨_, bodyDone, found⟩ :=
    Walk.append_done (show (Walk.ofList (heads ++ place.declarations) ++ place.bodyWalk).fault =
      none from done)
  change Gives (List.map _ (Walk.found _)) _ _
  rw [found, List.map_append]
  have structural : ∀ step ∈ (heads ++ place.declarations).map fun subject => (place, subject),
      step.2.isSummary = true := by
    intro step membership
    obtain ⟨subject, inHead, rfl⟩ := List.mem_map.mp membership
    rcases List.mem_append.mp inHead with isHead | isDeclaration
    · exact areSummaries subject isHead
    · exact isSummary_of_mem_declarations isDeclaration
  have perm := (bodyWalk_perm bodyDone).map fun subject => (place, subject)
  have nodes : ∀ step ∈ place.bodyWalk.found.map fun subject => (place, subject),
      step.2.isSummary = false := by
    intro step membership
    obtain ⟨subject, inBody, rfl⟩ := List.mem_map.mp (perm.mem_iff.mp membership)
    exact not_isSummary_of_mem inBody
  have gives := (Gives.of_summaries structural).append (Gives.of_perm perm nodes)
  rw [List.append_nil, List.nil_append] at gives
  exact gives

theorem FunctionBlock.methodSteps_gives {block : FunctionBlock} {method : Routine}
    (done : (block.methodSteps method).fault = none) :
    Gives (block.methodSteps method).found
      ((⟨block, some method⟩, .method method) ::
        (Place.declarations ⟨block, some method⟩).map fun subject =>
          (⟨block, some method⟩, subject))
      (Place.inside ⟨block, some method⟩) :=
  Place.steps_gives (List.forall_mem_singleton.mpr rfl) done

theorem FunctionBlock.propertySteps_gives {block : FunctionBlock} {property : Property}
    (done : (block.propertySteps property).fault = none) :
    Gives (block.propertySteps property).found
      ((⟨block, none⟩, .property property) ::
        ((Place.declarations ⟨block, some property.getter⟩).map fun subject =>
          (⟨block, some property.getter⟩, subject)) ++
        (Place.declarations ⟨block, some property.setter⟩).map fun subject =>
          (⟨block, some property.setter⟩, subject))
      (Place.inside ⟨block, some property.getter⟩ ++
        Place.inside ⟨block, some property.setter⟩) := by
  obtain ⟨beforeDone, setterDone, found⟩ := Walk.append_done done
  obtain ⟨_, getterDone, before⟩ := Walk.append_done beforeDone
  have itself : Gives (Walk.ofList [((⟨block, none⟩, .property property) : Step)]).found
      [(⟨block, none⟩, .property property)] [] :=
    Gives.of_summaries (List.forall_mem_singleton.mpr rfl)
  rw [propertySteps, found, before]
  exact (itself.append (Place.steps_gives (by simp) getterDone)).append
    (Place.steps_gives (by simp) setterDone)

theorem FunctionBlock.steps_gives {block : FunctionBlock} (done : block.steps.fault = none) :
    Gives block.steps.found block.summaries (block.places.flatMap Place.inside) := by
  obtain ⟨beforeDone, propertiesDone, found⟩ := Walk.append_done done
  obtain ⟨ownDone, methodsDone, before⟩ := Walk.append_done beforeDone
  obtain ⟨eachMethod, methodsFound⟩ := Walk.concat_done methodsDone
  obtain ⟨eachProperty, propertiesFound⟩ := Walk.concat_done propertiesDone
  have own := Place.steps_gives (List.forall_mem_singleton.mpr rfl) ownDone
  have methods := Gives.flatMap block.methods fun method membership =>
    methodSteps_gives (eachMethod _ (List.mem_map_of_mem membership))
  have properties := Gives.flatMap block.properties fun property membership =>
    propertySteps_gives (eachProperty _ (List.mem_map_of_mem membership))
  have insides : block.places.flatMap Place.inside =
      Place.inside ⟨block, none⟩ ++
        block.methods.flatMap (fun method => Place.inside ⟨block, some method⟩) ++
        block.properties.flatMap (fun property =>
          Place.inside ⟨block, some property.getter⟩ ++
            Place.inside ⟨block, some property.setter⟩) := by
    simp [places, accessors, List.flatMap_map, List.flatMap_assoc]
  rw [steps, found, before, methodsFound, propertiesFound, List.flatMap_map, List.flatMap_map,
    insides]
  exact (own.append methods).append properties

theorem Code.steps_gives {code : Code} (done : code.steps.fault = none) :
    Gives code.steps.found code.summaries (code.places.flatMap Place.inside) := by
  obtain ⟨eachBlock, found⟩ := Walk.concat_done done
  have blocks := Gives.flatMap code.blocks.values fun block membership =>
    FunctionBlock.steps_gives (eachBlock _ (List.mem_map_of_mem membership))
  rw [steps, found, List.flatMap_map, places, List.flatMap_assoc]
  exact blocks

/-! Steps to nodes that have been met before are left out. -/

def firstSteps : List Nat → List Step → List Step
  | _, [] => []
  | seen, step :: rest =>
    match step.2.serial? with
    | some serial =>
      if seen.contains serial then firstSteps seen rest
      else step :: firstSteps (serial :: seen) rest
    | none => step :: firstSteps seen rest

/-- The objects that are looked at, each at its place. -/
def Code.checked (code : Code) : List Step := firstSteps [] code.steps.found

theorem isSummary_iff_unnumbered {subject : Subject} :
    subject.isSummary = true ↔ subject.serial? = none := by
  cases subject <;> simp [Subject.isSummary, Subject.serial?]

theorem isSummary_node (subject : Subject) : subject.node.isSummary = subject.isSummary := by
  rw [Bool.eq_iff_iff, isSummary_iff_unnumbered, isSummary_iff_unnumbered, Subject.serial?_node]

theorem not_isSummary_of_numbered {subject : Subject} {serial : Nat}
    (numbered : subject.serial? = some serial) : ¬subject.isSummary = true := by
  rw [isSummary_iff_unnumbered, numbered]
  exact nofun

theorem firstSteps_sublist (seen : List Nat) (steps : List Step) :
    (firstSteps seen steps).Sublist steps := by
  fun_induction firstSteps seen steps with
  | case1 seen => exact .slnil
  | case2 seen step rest serial numbered known inductionHypothesis =>
      exact inductionHypothesis.cons _
  | case3 seen step rest serial numbered unknown inductionHypothesis =>
      exact inductionHypothesis.cons_cons _
  | case4 seen step rest unnumbered inductionHypothesis =>
      exact inductionHypothesis.cons_cons _

theorem filter_firstSteps (seen : List Nat) (steps : List Step) :
    (firstSteps seen steps).filter (·.2.isSummary) = steps.filter (·.2.isSummary) := by
  fun_induction firstSteps seen steps with
  | case1 seen => rfl
  | case2 seen step rest serial numbered known inductionHypothesis =>
      simpa [not_isSummary_of_numbered numbered] using inductionHypothesis
  | case3 seen step rest serial numbered unknown inductionHypothesis =>
      simpa [not_isSummary_of_numbered numbered] using inductionHypothesis
  | case4 seen step rest unnumbered inductionHypothesis =>
      simpa [isSummary_iff_unnumbered.mpr unnumbered] using inductionHypothesis

/-- The serial numbers among some steps. -/
def serials (steps : List Step) : List Nat := steps.filterMap (·.2.serial?)

/-- No serial number comes twice, and none that was seen before. -/
theorem nodup_firstSteps (seen : List Nat) (steps : List Step) :
    (serials (firstSteps seen steps)).Nodup ∧
      ∀ serial ∈ serials (firstSteps seen steps), serial ∉ seen := by
  fun_induction firstSteps seen steps with
  | case1 seen => simp [serials]
  | case2 seen step rest serial numbered known inductionHypothesis => exact inductionHypothesis
  | case3 seen step rest serial numbered unknown inductionHypothesis =>
      obtain ⟨distinct, fresh⟩ := inductionHypothesis
      have opened : serials (step :: firstSteps (serial :: seen) rest) =
          serial :: serials (firstSteps (serial :: seen) rest) := by
        simp [serials, numbered]
      rw [opened]
      refine ⟨List.nodup_cons.mpr ⟨fun again => fresh serial again List.mem_cons_self, distinct⟩,
        List.forall_mem_cons.mpr ⟨by simpa using unknown, fun later membership old => ?_⟩⟩
      exact fresh later membership (List.mem_cons_of_mem _ old)
  | case4 seen step rest unnumbered inductionHypothesis =>
      simpa [serials, unnumbered] using inductionHypothesis

/-- A serial number that is met and was not seen before is kept. -/
theorem mem_serials_firstSteps {seen : List Nat} {steps : List Step} {serial : Nat}
    (met : serial ∈ serials steps) (unseen : serial ∉ seen) :
    serial ∈ serials (firstSteps seen steps) := by
  fun_induction firstSteps seen steps with
  | case1 seen => exact met
  | case2 seen step rest other numbered known inductionHypothesis =>
      have isOther : serial ≠ other := fun equal => unseen (by simpa [equal] using known)
      refine inductionHypothesis ?_ unseen
      simpa [serials, numbered, isOther] using met
  | case3 seen step rest other numbered unknown inductionHypothesis =>
      by_cases isOther : serial = other
      · simp [serials, numbered, isOther]
      · have inRest : serial ∈ serials rest := by
          simpa [serials, numbered, isOther] using met
        have kept := inductionHypothesis inRest (by simp [isOther, unseen])
        simpa [serials, numbered, isOther] using kept
  | case4 seen step rest unnumbered inductionHypothesis =>
      have kept := inductionHypothesis (by simpa [serials, unnumbered] using met) unseen
      simpa [serials, unnumbered] using kept

theorem firstSteps_congr {seen other : List Nat} {steps : List Step}
    (same : ∀ serial ∈ serials steps, seen.contains serial = other.contains serial) :
    firstSteps seen steps = firstSteps other steps := by
  induction steps generalizing seen other with
  | nil => rfl
  | cons step rest inductionHypothesis =>
      rw [firstSteps, firstSteps]
      cases numbered : step.2.serial? with
      | none =>
          have inRest : serials (step :: rest) = serials rest := by simp [serials, numbered]
          rw [inRest] at same
          simp only [inductionHypothesis same]
      | some serial =>
          have isFirst : serials (step :: rest) = serial :: serials rest := by
            simp [serials, numbered]
          rw [isFirst] at same
          obtain ⟨sameHere, sameLater⟩ := List.forall_mem_cons.mp same
          have sameWith (later : Nat) (inRest : later ∈ serials rest) :
              (serial :: seen).contains later = (serial :: other).contains later := by
            rw [List.contains_cons, List.contains_cons, sameLater later inRest]
          simp only [sameHere, inductionHypothesis sameLater, inductionHypothesis sameWith]

/-- Steps to other nodes do not bear on which of these come first. -/
theorem firstSteps_append {before after : List Step} (seen : List Nat)
    (apart : (serials before).Disjoint (serials after)) :
    firstSteps seen (before ++ after) = firstSteps seen before ++ firstSteps seen after := by
  induction before generalizing seen with
  | nil => rfl
  | cons step rest inductionHypothesis =>
      rw [List.cons_append, firstSteps, firstSteps]
      cases numbered : step.2.serial? with
      | none =>
          have inRest : serials (step :: rest) = serials rest := by simp [serials, numbered]
          rw [inRest] at apart
          simp only [inductionHypothesis seen apart, List.cons_append]
      | some serial =>
          have isFirst : serials (step :: rest) = serial :: serials rest := by
            simp [serials, numbered]
          rw [isFirst, List.disjoint_cons_left] at apart
          have unmoved : firstSteps (serial :: seen) after = firstSteps seen after := by
            refine firstSteps_congr fun later inAfter => ?_
            have differs : later ≠ serial := fun equal => apart.1 (equal ▸ inAfter)
            rw [List.contains_cons, beq_false_of_ne differs, Bool.false_or]
          by_cases known : seen.contains serial = true
          · simp only [known, if_true, inductionHypothesis seen apart.2]
          · simp only [known, inductionHypothesis (serial :: seen) apart.2, unmoved]
            rfl

theorem firstSteps_flatMap {α : Type} {items : List α} {steps : α → List Step}
    (apart : items.Pairwise fun first second =>
      (serials (steps first)).Disjoint (serials (steps second))) :
    firstSteps [] (items.flatMap steps) = items.flatMap fun item => firstSteps [] (steps item) := by
  induction items with
  | nil => rfl
  | cons item rest inductionHypothesis =>
      obtain ⟨itemApart, restApart⟩ := List.pairwise_cons.mp apart
      rw [List.flatMap_cons, List.flatMap_cons, firstSteps_append, inductionHypothesis restApart]
      intro serial inItem inRest
      obtain ⟨step, isStep, hasSerial⟩ := List.mem_filterMap.mp inRest
      obtain ⟨other, isOther, inside⟩ := List.mem_flatMap.mp isStep
      exact itemApart other isOther inItem (List.mem_filterMap.mpr ⟨step, inside, hasSerial⟩)

/-- A serial number inside the bodies tells place and node. -/
theorem Code.Numbered.sameNode {code : Code} (numbered : code.Numbered) {first second : Step}
    (firstInside : first ∈ code.places.flatMap Place.inside)
    (secondInside : second ∈ code.places.flatMap Place.inside)
    (same : first.2.serial? = second.2.serial?) :
    first.1 = second.1 ∧ first.2.node = second.2.node := by
  obtain ⟨firstPlace, firstPlaced, firstMember⟩ := List.mem_flatMap.mp firstInside
  obtain ⟨firstSubject, firstMet, rfl⟩ := List.mem_map.mp firstMember
  obtain ⟨secondPlace, secondPlaced, secondMember⟩ := List.mem_flatMap.mp secondInside
  obtain ⟨secondSubject, secondMet, rfl⟩ := List.mem_map.mp secondMember
  refine numbered.unique firstPlaced secondPlaced (Place.node_mem_nodes firstMet)
    (Place.node_mem_nodes secondMet) ?_
  rw [Subject.serial?_node, Subject.serial?_node]
  exact same

namespace Logged

variable {α β : Type}

theorem result_bind (first : Logged α) (next : α → Logged β) :
    (first >>= next).result = first.result.bind fun value => (next value).result := by
  obtain ⟨result, notices⟩ := first
  cases result <;> rfl

/-- A computation in two steps returns if both of them do. -/
theorem result_bind_eq_ok {first : Logged α} {next : α → Logged β} {value : β} :
    (first >>= next).result = .ok value ↔
      ∃ middle, first.result = .ok middle ∧ (next middle).result = .ok value := by
  rw [result_bind]
  cases first.result with
  | error fault => simp [Except.bind]
  | ok middle => simp [Except.bind]

end Logged

namespace Registry

/-- An object is looked at by the registered checks that accept it, in the order of the listing. -/
theorem checksFor_eq_filter (registry : Registry) (subject : Subject) :
    registry.checksFor subject =
      registry.checks.filter fun check => check.target.accepts subject := by
  have filed := registry.filed
  unfold checksFor checks
  generalize registry.groups = groups at filed
  induction groups with
  | nil => rfl
  | cons group rest inductionHypothesis =>
      obtain ⟨here, later⟩ := List.forall_mem_cons.mp filed
      have whole : (group.2.filter fun check => check.target.accepts subject) =
          if group.1.accepts subject then group.2 else [] := by
        rw [List.filter_congr fun check isCheck => by rw [here check isCheck]]
        cases group.1.accepts subject <;> simp
      rw [List.flatMap_cons, List.filter_append, whole, ← inductionHypothesis later,
        List.filter_cons]
      cases group.1.accepts subject <;> rfl

end Registry

namespace Lint

/-- The reports of two computations put together. -/
def inTurn (first second : Logged Report) : Logged Report := do
  let report ← first
  return report.append (← second)

theorem inTurn_ok {first second : Logged Report} {report : Report} :
    (inTurn first second).result = .ok report ↔
      ∃ before after, first.result = .ok before ∧ second.result = .ok after ∧
        report = before.append after := by
  rw [inTurn, Logged.result_bind_eq_ok]
  refine exists_congr fun before => ?_
  rw [Logged.result_bind_eq_ok]
  constructor
  · rintro ⟨firstOk, after, secondOk, together⟩
    exact ⟨after, firstOk, secondOk, (Except.ok.inj together).symm⟩
  · rintro ⟨after, firstOk, secondOk, rfl⟩
    exact ⟨firstOk, after, secondOk, rfl⟩

/-- Runs on each object in turn the checks that accept it. -/
def checkEach (registry : Registry) (files : FileTree) : List Visit → Logged Report
  | [] => return {}
  | visit :: rest => do
    let first ← runChecks files visit
      (registry.checks.filter fun check => check.target.accepts visit.subject)
    return first.append (← checkEach registry files rest)

theorem checkVisits_eq_checkEach (registry : Registry) (files : FileTree) (code : Code)
    (settings : Settings) (seen : List Nat) (steps : List Step) :
    checkVisits registry files seen (steps.map (Step.visit code settings)) =
      checkEach registry files ((firstSteps seen steps).map (Step.visit code settings)) := by
  fun_induction firstSteps seen steps with
  | case1 seen => rfl
  | case2 seen step rest serial numbered known inductionHypothesis =>
      rw [List.map_cons, checkVisits, ← inductionHypothesis,
        show (step.visit code settings).subject.serial? = some serial from numbered]
      exact if_pos known
  | case3 seen step rest serial numbered unknown inductionHypothesis =>
      rw [List.map_cons, checkVisits, List.map_cons, checkEach, ← inductionHypothesis,
        ← Registry.checksFor_eq_filter,
        show (step.visit code settings).subject.serial? = some serial from numbered]
      exact if_neg unknown
  | case4 seen step rest unnumbered inductionHypothesis =>
      rw [List.map_cons, checkVisits, List.map_cons, checkEach, ← inductionHypothesis,
        ← Registry.checksFor_eq_filter,
        show (step.visit code settings).subject.serial? = none from unnumbered]

/-- Linting in one piece: the checks on each object, then the fault at which the walk through the
code has ended, or the number of errors. -/
theorem lint_eq (registry : Registry) (settings : Settings) (files : FileTree) (code : Code) :
    lint registry settings files code = (do
      let report ← checkEach registry files (code.checked.map (Step.visit code settings))
      if let some fault := code.steps.fault then throw fault
      if !report.errors.isEmpty then
        Logged.note .error (toString report.errors.length ++ " errors found")
      return report) := by
  rw [lint, visits_eq, Code.checked, ← checkVisits_eq_checkEach]
  rfl

/-- Linting returns if the walk through the code comes to its end and all checks return. -/
theorem lint_ok {registry : Registry} {settings : Settings} {files : FileTree} {code : Code}
    {report : Report} :
    (lint registry settings files code).result = .ok report ↔
      code.steps.fault = none ∧
        (checkEach registry files (code.checked.map (Step.visit code settings))).result =
          .ok report := by
  rw [lint_eq, Logged.result_bind_eq_ok]
  cases code.steps.fault with
  | some fault =>
      constructor
      · rintro ⟨found, returned, rest⟩
        cases rest
      · rintro ⟨done, returned⟩
        cases done
  | none =>
      constructor
      · rintro ⟨found, returned, rest⟩
        cases errorless : found.errors.isEmpty with
        | true =>
            simp only [errorless] at rest
            exact ⟨rfl, returned.trans rest⟩
        | false =>
            simp only [errorless] at rest
            exact ⟨rfl, returned.trans rest⟩
      · rintro ⟨done, returned⟩
        refine ⟨report, returned, ?_⟩
        cases report.errors.isEmpty <;> rfl

end Lint

/-- The runs of checks on objects: each object with the registered checks that accept it. -/
def Registry.runs (registry : Registry) (steps : List Step) : List (Step × Check) :=
  steps.flatMap fun step =>
    (registry.checks.filter fun check => check.target.accepts step.2).map fun check =>
      (step, check)

namespace Report

def joined (parts : List Report) : Report := parts.foldr append {}

theorem joined_append (first second : List Report) :
    joined (first ++ second) = (joined first).append (joined second) := by
  induction first with
  | nil => rfl
  | cons part rest inductionHypothesis =>
      change part.append (joined (rest ++ second)) = _
      rw [inductionHypothesis]
      simp [joined, append]

end Report

namespace Lint

variable {files : FileTree} {report : Report}

/-- Some checks on one object have reported what each of them reports. -/
theorem exists_parts_of_runChecks {visit : Visit} {checks : List Check}
    (returned : (runChecks files visit checks).result = .ok report) :
    ∃ parts, List.Forall₂ (fun check part => (runCheck files visit check).result = .ok part)
      checks parts ∧ report = Report.joined parts := by
  induction checks generalizing report with
  | nil => exact ⟨[], .nil, (Except.ok.inj returned).symm⟩
  | cons check rest inductionHypothesis =>
      obtain ⟨first, later, firstOk, laterOk, rfl⟩ := inTurn_ok.mp returned
      obtain ⟨parts, areParts, rfl⟩ := inductionHypothesis laterOk
      exact ⟨first :: parts, .cons firstOk areParts, rfl⟩

theorem exists_parts_of_checkEach {registry : Registry} {code : Code} {settings : Settings}
    {steps : List Step}
    (returned : (checkEach registry files (steps.map (Step.visit code settings))).result =
      .ok report) :
    ∃ parts, List.Forall₂ (fun run part =>
        (runCheck files (run.1.visit code settings) run.2).result = .ok part)
      (registry.runs steps) parts ∧ report = Report.joined parts := by
  induction steps generalizing report with
  | nil => exact ⟨[], .nil, (Except.ok.inj returned).symm⟩
  | cons step rest inductionHypothesis =>
      obtain ⟨first, later, firstOk, laterOk, rfl⟩ := inTurn_ok.mp returned
      obtain ⟨here, areHere, rfl⟩ := exists_parts_of_runChecks firstOk
      obtain ⟨behind, areBehind, rfl⟩ := inductionHypothesis laterOk
      refine ⟨here ++ behind, ?_, (Report.joined_append here behind).symm⟩
      rw [Registry.runs, List.flatMap_cons]
      exact List.rel_append (List.forall₂_map_left_iff.mpr areHere) areBehind

end Lint

/-- The objects on which linting runs the checks, one after the other, each in the scope of its
place: those of the code's structure, and at each place the nodes that are reached, and read by
what is reached. No node comes twice. -/
structure Lint.LooksAt (code : Code) (settings : Settings) (checked : List Step) : Prop where
  runs : ∀ registry files, lint registry settings files code = do
    let report ← Lint.checkEach registry files
      (checked.map fun step => ⟨step.1.scope code settings, step.2⟩)
    if !report.errors.isEmpty then
      Logged.note .error (toString report.errors.length ++ " errors found")
    return report
  /-- Every registered check that accepts an object is run on it, once, and what these runs report
  is all that is reported. -/
  reports : ∀ registry files report, (lint registry settings files code).result = .ok report →
    ∃ parts, List.Forall₂ (fun run part =>
        (Lint.runCheck files (run.1.visit code settings) run.2).result = .ok part)
      (registry.runs checked) parts ∧ report = Report.joined parts
  summaries : checked.filter (·.2.isSummary) = code.summaries
  once : (checked.filterMap (·.2.serial?)).Nodup
  inside : ∀ (place : Place) (node : Subject), node.isSummary = false →
    ((∃ step ∈ checked, step.1 = place ∧ step.2.node = node) ↔
      place ∈ code.places ∧ ∃ subject ∈ place.subjects, subject.node = node)

theorem lint_looks_at_each_object_once {code : Code} {settings : Settings}
    (done : (Lint.visits code settings).fault = none) (numbered : code.Numbered) :
    ∃ checked, Lint.LooksAt code settings checked := by
  have stepsDone : code.steps.fault = none := by
    rw [Lint.visits_eq] at done
    exact done
  have gives := Code.steps_gives stepsDone
  refine ⟨code.checked, fun registry files => ?_, fun registry files report returned => ?_, ?_,
    (nodup_firstSteps [] _).1, fun place node isNode => ⟨?_, ?_⟩⟩
  · rw [Lint.lint_eq, stepsDone]
    rfl
  · exact Lint.exists_parts_of_checkEach (Lint.lint_ok.mp returned).2
  · rw [Code.checked, filter_firstSteps, gives.summaries]
  · rintro ⟨step, kept, rfl, rfl⟩
    rw [isSummary_node] at isNode
    have inside := gives.mem_inside.mpr ⟨(firstSteps_sublist _ _).subset kept, isNode⟩
    obtain ⟨place, placed, member⟩ := List.mem_flatMap.mp inside
    obtain ⟨subject, met, rfl⟩ := List.mem_map.mp member
    exact ⟨placed, subject, met, rfl⟩
  · rintro ⟨placed, subject, met, rfl⟩
    have inside : (place, subject) ∈ code.places.flatMap Place.inside :=
      List.mem_flatMap.mpr ⟨place, placed, List.mem_map_of_mem met⟩
    obtain ⟨serial, hasSerial⟩ : ∃ serial, subject.serial? = some serial := by
      rw [← Option.ne_none_iff_exists', Ne, ← isSummary_iff_unnumbered,
        Place.not_isSummary_of_mem met]
      exact Bool.false_ne_true
    -- The first step to the node is kept; it has the same number, so it leads to the same node.
    have kept : serial ∈ serials code.checked := mem_serials_firstSteps
      (List.mem_filterMap.mpr ⟨_, (gives.mem_inside.mp inside).1, hasSerial⟩) List.not_mem_nil
    obtain ⟨first, firstKept, firstSerial⟩ := List.mem_filterMap.mp kept
    have firstInside := gives.mem_inside.mpr ⟨(firstSteps_sublist _ _).subset firstKept,
      Bool.eq_false_iff.mpr (not_isSummary_of_numbered firstSerial)⟩
    obtain ⟨samePlace, sameNode⟩ := numbered.sameNode firstInside inside
      (firstSerial.trans hasSerial.symm)
    exact ⟨first, firstKept, samePlace, sameNode⟩

/-- A block whose body reads one expression twice, through a `FOR` loop, and calls a function;
with a method whose `CASE` ends it, and a property. -/
def sampleBlock : FunctionBlock where
  name := "FB_Sample"
  declarations := ⟨[("count", ⟨"count", "INT", "VAR", none, none, none⟩)]⟩
  body := some [
    .loop ⟨1, none, none⟩ (.forTo (.var (.simple ⟨2, none, none⟩ "count" false))
      (.literal ⟨3, none, none⟩ (.integer .decimal "1" none))
      (.literal ⟨4, none, none⟩ (.integer .decimal "9" none)) none)
      (.given [.action ⟨5, none, none⟩ (.assign [.var (.simple ⟨6, none, none⟩ "count" false)]
        (.unary ⟨7, none, none⟩ "-" (.var (.simple ⟨8, none, none⟩ "count" false))))]),
    .action ⟨9, none, none⟩ (.call (.simple ⟨10, none, none⟩ "f" false)
      [.input ⟨11, none, none⟩ none (some (.var (.simple ⟨12, none, none⟩ "count" false)))])]
  methods := [
    { name := "Run", kind := .method
      body := some [
        .select ⟨13, none, none⟩ (.var (.simple ⟨14, none, none⟩ "count" false))
          [.mk [] (.given [.returnStmt ⟨15, none, none⟩]),
            .mk [] (.given [.returnStmt ⟨16, none, none⟩])] none,
        .returnStmt ⟨17, none, none⟩] }]
  properties := [
    { name := "Value"
      getter := { name := "Value", kind := .accessor, body := some [.returnStmt ⟨18, none, none⟩] }
      setter := { name := "Value", kind := .accessor } }]

def sampleCode : Code where
  blocks := ⟨[("FB_Sample", sampleBlock)]⟩
  globals := ⟨[("GVL", ⟨[("limit", ⟨"limit", "INT", "VAR_GLOBAL", none, none, none⟩)]⟩)]⟩

theorem lint_looks_at_sampleCode :
    (Lint.visits sampleCode {}).fault = none ∧ sampleCode.Numbered ∧
      ∃ checked, Lint.LooksAt sampleCode {} checked := by
  have done : (Lint.visits sampleCode {}).fault = none := by decide
  have numbered : sampleCode.Numbered := by decide
  exact ⟨done, numbered, lint_looks_at_each_object_once done numbered⟩

end PlcLint
