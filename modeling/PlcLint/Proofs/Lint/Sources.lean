import PlcLint.Proofs.Check.Inside
import PlcLint.Proofs.Lint.Isolation
import PlcLint.Proofs.Lint.Order

/-!
Which text a finding points into. A check runs in the scope of the place where its object stands,
and a finding takes its text from that scope. So a finding about a node has the text of the body in
which the node stands, as long as the check stays inside the object it looks at.
-/

namespace PlcLint

/-- A statement that the walk through a body gives is reached along the syntax. -/
theorem Flow.Source.mem_statements {source : Flow.Source} {stmt : Stmt}
    (given : stmt ∈ source.statements.found) : stmt ∈ Flow.stmtsReached source.stmts := by
  unfold Flow.Source.statements at given
  cases built : source.graph with
  | error fault => simp [built, Walk.ofExcept, Except.map] at given
  | ok graph =>
      rw [built] at given
      exact (Flow.Source.reachableStmts_perm built).mem_iff.mp given

namespace Place

/-- The implementation text of a place. -/
def bodySource (place : Place) : Option String :=
  match place.routine with
  | some routine => routine.bodySource
  | none => place.block.bodySource

/-- The origins of all nodes that stand in the body. -/
def origins (place : Place) : List Origin := stmtsOrigins place.stmts

theorem origins_of_mem_subjects {place : Place} {subject : Subject}
    (membership : subject ∈ place.subjects) : subject.origins ⊆ place.origins := by
  obtain ⟨stmt, reached, inside⟩ := List.mem_flatMap.mp membership
  rcases List.mem_cons.mp inside with rfl | isExpr
  · exact Stmt.origins_reached reached
  · obtain ⟨expr, read, rfl⟩ := List.mem_map.mp isExpr
    exact List.Subset.trans (stmt.origins_readSubexprs read) (Stmt.origins_reached reached)

theorem origins_of_mem_declarations {place : Place} {subject : Subject}
    (membership : subject ∈ place.declarations) : subject.origins = [] := by
  unfold declarations at membership
  split at membership
  all_goals
    obtain ⟨declaration, _, rfl⟩ := List.mem_map.mp membership
    rfl

theorem mem_subjects_of_mem_bodyWalk {place : Place} {subject : Subject}
    (given : subject ∈ place.bodyWalk.found) : subject ∈ place.subjects := by
  unfold bodyWalk at given
  cases isSource : place.source? with
  | none =>
      rw [isSource] at given
      cases given
  | some source =>
      rw [isSource] at given
      obtain ⟨stmt, isStmt, inside⟩ := Walk.mem_flatMap given
      rw [Stmt.found_subjectWalk] at inside
      refine List.mem_flatMap.mpr ⟨stmt, ?_, inside⟩
      rw [← stmts_of_source isSource]
      exact Flow.Source.mem_statements isStmt

/-- The text of a finding about a node is the implementation text of the place. -/
theorem source_locate (place : Place) (code : Code) (settings : Settings) {remark : Remark}
    {origin : Origin} (isNode : remark.violating = some (.node origin)) :
    (Finding.locate (place.scope code settings) remark).source = place.bodySource := by
  have notDeclared : remark.inDeclaration = false := by
    rw [Remark.inDeclaration, isNode]
    rfl
  obtain ⟨block, routine⟩ := place
  cases routine <;> simp [Finding.locate, scope, bodySource, notDeclared]

end Place

/-! Each object is looked at where its nodes stand; a property where its function block does. -/

/-- The object of the step has its nodes at the place of the step. -/
structure Step.Inside (step : Step) : Prop where
  origins : step.2.origins ⊆ step.1.origins
  property : ∀ property, step.2 = .property property →
    step.1.routine = none ∧ property ∈ step.1.block.properties

theorem Place.inside_steps {place : Place} {heads : List Subject}
    (headsInside : ∀ head ∈ heads, Step.Inside (place, head)) {step : Step}
    (given : step ∈ (place.steps heads).found) : step.1 = place ∧ step.Inside := by
  obtain ⟨subject, isSubject, rfl⟩ := List.mem_map.mp given
  refine ⟨rfl, ?_⟩
  rcases Walk.mem_append isSubject with structural | inBody
  · rcases List.mem_append.mp structural with isHead | isDeclaration
    · exact headsInside subject isHead
    · refine ⟨?_, ?_⟩
      · rw [Place.origins_of_mem_declarations isDeclaration]
        exact List.nil_subset _
      · rintro property rfl
        unfold Place.declarations at isDeclaration
        split at isDeclaration <;> simp at isDeclaration
  · have inside := mem_subjects_of_mem_bodyWalk inBody
    refine ⟨Place.origins_of_mem_subjects inside, ?_⟩
    rintro property rfl
    cases Place.not_isSummary_of_mem inside

theorem FunctionBlock.inside_steps {block : FunctionBlock} {step : Step}
    (given : step ∈ block.steps.found) : step.1 ∈ block.places ∧ step.Inside := by
  have ofRoutine {routine : Routine} (isRoutine : routine ∈ block.methods ++ block.accessors)
      {heads : List Subject}
      (headsInside : ∀ head ∈ heads, Step.Inside (⟨block, some routine⟩, head))
      (inSteps : step ∈ (Place.steps ⟨block, some routine⟩ heads).found) :
      step.1 ∈ block.places ∧ step.Inside := by
    obtain ⟨isPlace, inside⟩ := Place.inside_steps headsInside inSteps
    rw [isPlace]
    exact ⟨List.mem_cons_of_mem _ (List.mem_map_of_mem isRoutine), inside⟩
  rcases Walk.mem_append given with before | inProperties
  · rcases Walk.mem_append before with own | inMethods
    · have itself : Step.Inside (⟨block, none⟩, .block block) :=
        ⟨List.Subset.refl _, fun property isProperty => by cases isProperty⟩
      obtain ⟨isPlace, inside⟩ := Place.inside_steps (List.forall_mem_singleton.mpr itself) own
      rw [isPlace]
      exact ⟨List.mem_cons_self, inside⟩
    · obtain ⟨walk, isWalk, inWalk⟩ := Walk.mem_concat inMethods
      obtain ⟨method, isMethod, rfl⟩ := List.mem_map.mp isWalk
      have itself : Step.Inside (⟨block, some method⟩, .method method) :=
        ⟨List.Subset.refl _, fun property isProperty => by cases isProperty⟩
      exact ofRoutine (List.mem_append_left _ isMethod) (List.forall_mem_singleton.mpr itself)
        inWalk
  · obtain ⟨walk, isWalk, inWalk⟩ := Walk.mem_concat inProperties
    obtain ⟨property, isProperty, rfl⟩ := List.mem_map.mp isWalk
    have accessor {routine : Routine} (either : routine ∈ [property.getter, property.setter]) :
        routine ∈ block.methods ++ block.accessors :=
      List.mem_append_right _ (List.mem_flatMap.mpr ⟨property, isProperty, either⟩)
    rcases Walk.mem_append inWalk with before | inSetter
    · rcases Walk.mem_append before with itself | inGetter
      · obtain rfl := List.mem_singleton.mp itself
        refine ⟨List.mem_cons_self, List.nil_subset _, ?_⟩
        rintro other ⟨⟩
        exact ⟨rfl, isProperty⟩
      · exact ofRoutine (accessor (by simp)) (by simp) inGetter
    · exact ofRoutine (accessor (by simp)) (by simp) inSetter

theorem Code.inside_steps {code : Code} {step : Step} (given : step ∈ code.steps.found) :
    step.1 ∈ code.places ∧ step.Inside := by
  obtain ⟨walk, isWalk, inWalk⟩ := Walk.mem_concat given
  obtain ⟨block, isBlock, rfl⟩ := List.mem_map.mp isWalk
  obtain ⟨placed, inside⟩ := FunctionBlock.inside_steps inWalk
  exact ⟨List.mem_flatMap.mpr ⟨block, isBlock, placed⟩, inside⟩

theorem Code.inside_checked {code : Code} {step : Step} (checked : step ∈ code.checked) :
    step.1 ∈ code.places ∧ step.Inside :=
  Code.inside_steps ((firstSteps_sublist _ _).subset checked)

/-! What a run reports comes of findings. -/

/-- The report holds the texts of some findings that stand and, as errors, those of them with this
level. -/
def Report.Of (files : FileTree) (made : Finding → Prop) (report : Report) : Prop :=
  ∃ findings : List Finding, (∀ finding ∈ findings, made finding ∧ finding.Stands files) ∧
    report.errors = findings.filter (fun finding => finding.level = .error) ∧
    List.Forall₂ (fun finding text => finding.text files = .ok text) findings report.printed

namespace Report.Of

variable {files : FileTree} {made other : Finding → Prop} {first second : Report}

theorem empty : Report.Of files made {} := ⟨[], by simp, rfl, .nil⟩

theorem append (firstOf : first.Of files made) (secondOf : second.Of files made) :
    (first.append second).Of files made := by
  obtain ⟨findings, areMade, errors, printed⟩ := firstOf
  obtain ⟨more, moreMade, moreErrors, morePrinted⟩ := secondOf
  refine ⟨findings ++ more, ?_, ?_, List.rel_append printed morePrinted⟩
  · simp only [List.mem_append]
    exact fun finding either => either.elim (areMade finding) (moreMade finding)
  · rw [Report.append, errors, moreErrors, List.filter_append]

theorem mono (firstOf : first.Of files made) (weaker : ∀ finding, made finding → other finding) :
    first.Of files other := by
  obtain ⟨findings, areMade, rest⟩ := firstOf
  exact ⟨findings, fun finding inside => (areMade finding inside).imp_left (weaker finding), rest⟩

end Report.Of

namespace Lint

theorem of_reportFinding {files : FileTree} {finding : Finding} {report : Report}
    (returned : (reportFinding files finding).result = .ok report) :
    report.Of files (· = finding) := by
  rw [reportFinding, Logged.result_bind_eq_ok] at returned
  obtain ⟨line, isLine, rest⟩ := returned
  have printed (unsuppressed : ∀ text ∈ line, isSuppressed text finding.code = false)
      (spoken : (do
        let text ← Logged.ofExcept (finding.text files)
        return (⟨[text], if finding.level = Level.error then [finding] else []⟩ : Report)).result =
          .ok report) : report.Of files (· = finding) := by
    obtain ⟨text, isText, isReport⟩ := Logged.result_bind_eq_ok.mp spoken
    have shown : finding.text files = .ok text := by
      cases outcome : finding.text files with
      | error fault =>
          rw [outcome] at isText
          cases isText
      | ok given =>
          rw [outcome] at isText
          cases isText
          rfl
    rw [← Except.ok.inj isReport]
    refine ⟨[finding], ?_, ?_, .cons shown .nil⟩
    · simpa using ⟨line, isLine, unsuppressed⟩
    · by_cases isError : finding.level = .error <;> simp [isError]
  cases line with
  | none => exact printed (by simp) rest
  | some text =>
      cases suppressed : isSuppressed text finding.code with
      | true =>
          simp only [suppressed, if_true] at rest
          rw [← Except.ok.inj rest]
          exact .empty
      | false =>
          simp only [suppressed, Bool.false_eq_true, if_false] at rest
          exact printed (by simpa using suppressed) rest

theorem of_reportAll {files : FileTree} {findings : List Finding} {report : Report}
    (returned : (reportAll files findings).result = .ok report) :
    report.Of files (· ∈ findings) := by
  induction findings generalizing report with
  | nil =>
      rw [← Except.ok.inj returned]
      exact .empty
  | cons finding rest inductionHypothesis =>
      obtain ⟨before, after, firstOk, restOk, rfl⟩ := inTurn_ok.mp returned
      refine ((of_reportFinding firstOk).mono ?_).append ((inductionHypothesis restOk).mono ?_)
      · rintro _ rfl
        exact List.mem_cons_self
      · exact fun later inRest => List.mem_cons_of_mem _ inRest

/-- A remark that the check makes on the object, and the finding that it becomes. -/
def Becomes (visit : Visit) (check : Check) (remark : Remark) (finding : Finding) : Prop :=
  ∃ level walk, effectiveLevel? visit.scope.settings check.code = some level ∧
    (check.run visit.scope visit.subject).result = .ok walk ∧ remark ∈ walk.found ∧
    finding = ⟨check.code, remark.message, level, Finding.locate visit.scope remark⟩

theorem of_runCheck {files : FileTree} {visit : Visit} {check : Check} {report : Report}
    (returned : (runCheck files visit check).result = .ok report) :
    report.Of files fun finding => ∃ remark, Becomes visit check remark finding := by
  unfold runCheck at returned
  cases isLevel : effectiveLevel? visit.scope.settings check.code with
  | none =>
      rw [isLevel] at returned
      rw [← Except.ok.inj returned]
      exact .empty
  | some level =>
      rw [isLevel] at returned
      obtain ⟨walk, isWalk, rest⟩ := Logged.result_bind_eq_ok.mp returned
      obtain ⟨all, allOk, last⟩ := Logged.result_bind_eq_ok.mp rest
      have isReport : all = report := by
        cases faulty : walk.fault with
        | none =>
            rw [faulty] at last
            exact Except.ok.inj last
        | some fault =>
            rw [faulty] at last
            cases last
      rw [← isReport]
      refine (of_reportAll allOk).mono fun finding inside => ?_
      obtain ⟨remark, isRemark, rfl⟩ := List.mem_map.mp inside
      exact ⟨remark, level, walk, isLevel, isWalk, isRemark, rfl⟩

theorem of_runChecks {files : FileTree} {visit : Visit} {checks : List Check} {report : Report}
    (returned : (runChecks files visit checks).result = .ok report) :
    report.Of files fun finding =>
      ∃ check ∈ checks, ∃ remark, Becomes visit check remark finding := by
  induction checks generalizing report with
  | nil =>
      rw [← Except.ok.inj returned]
      exact .empty
  | cons check rest inductionHypothesis =>
      obtain ⟨before, after, firstOk, restOk, rfl⟩ := inTurn_ok.mp returned
      refine ((of_runCheck firstOk).mono ?_).append ((inductionHypothesis restOk).mono ?_)
      · exact fun finding becomes => ⟨check, List.mem_cons_self, becomes⟩
      · rintro finding ⟨later, inRest, becomes⟩
        exact ⟨later, List.mem_cons_of_mem _ inRest, becomes⟩

theorem of_checkEach {registry : Registry} {files : FileTree} {visits : List Visit}
    {report : Report} (returned : (checkEach registry files visits).result = .ok report) :
    report.Of files fun finding => ∃ visit ∈ visits, ∃ check ∈ registry.checks,
      check.target.accepts visit.subject = true ∧
        ∃ remark, Becomes visit check remark finding := by
  induction visits generalizing report with
  | nil =>
      rw [← Except.ok.inj returned]
      exact .empty
  | cons visit rest inductionHypothesis =>
      obtain ⟨before, after, firstOk, restOk, rfl⟩ := inTurn_ok.mp returned
      refine ((of_runChecks firstOk).mono ?_).append ((inductionHypothesis restOk).mono ?_)
      · rintro finding ⟨check, accepting, becomes⟩
        obtain ⟨registered, accepts⟩ := List.mem_filter.mp accepting
        exact ⟨visit, List.mem_cons_self, check, registered, accepts, becomes⟩
      · rintro finding ⟨later, inRest, found⟩
        exact ⟨later, List.mem_cons_of_mem _ inRest, found⟩

/-- Linting this code, the check makes the remark, and it becomes the finding. -/
def Makes (registry : Registry) (settings : Settings) (code : Code) (check : Check)
    (remark : Remark) (finding : Finding) : Prop :=
  ∃ step ∈ code.checked, check ∈ registry.checks ∧ check.target.accepts step.2 = true ∧
    Becomes (step.visit code settings) check remark finding

theorem of_lint {registry : Registry} {settings : Settings} {files : FileTree} {code : Code}
    {report : Report} (returned : (lint registry settings files code).result = .ok report) :
    report.Of files fun finding =>
      ∃ check remark, Makes registry settings code check remark finding := by
  refine (of_checkEach (lint_ok.mp returned).2).mono ?_
  rintro finding ⟨visit, isVisit, check, registered, accepts, remark, becomes⟩
  obtain ⟨step, checked, rfl⟩ := List.mem_map.mp isVisit
  exact ⟨check, remark, step, checked, registered, accepts, becomes⟩

/-- The nodes that a check remarks on stand at the place of its object, if it stays inside. -/
theorem Makes.source {registry : Registry} {settings : Settings} {code : Code} {check : Check}
    {remark : Remark} {finding : Finding} {origin : Origin}
    (makes : Makes registry settings code check remark finding)
    (isNode : remark.violating = some (.node origin)) (staysInside : check.StaysInside) :
    ∃ place ∈ code.places, origin ∈ place.origins ∧
      finding.location.source = place.bodySource := by
  obtain ⟨step, checked, _, _, level, walk, _, ran, isRemark, rfl⟩ := makes
  obtain ⟨placed, inside⟩ := Code.inside_checked checked
  exact ⟨step.1, placed, inside.origins (staysInside _ _ walk ran remark isRemark origin isNode),
    step.1.source_locate code settings isNode⟩

/-- The check on writes to the value of a setter remarks on nodes of the setter, but at the place
of the function block. -/
theorem Makes.setter_source {registry : Registry} {settings : Settings} {code : Code}
    {remark : Remark} {finding : Finding} {origin : Origin}
    (makes : Makes registry settings code .setterValueNotWritten remark finding)
    (isNode : remark.violating = some (.node origin)) :
    ∃ place ∈ code.places, origin ∈ place.origins ∧
      (∃ property ∈ place.block.properties, place.routine = some property.setter) ∧
      finding.location.source = place.block.bodySource := by
  obtain ⟨⟨⟨block, routine⟩, subject⟩, checked, _, _, level, walk, _, ran, isRemark, rfl⟩ :=
    makes
  obtain ⟨placed, inside⟩ := Code.inside_checked checked
  cases subject with
  | property property =>
      obtain ⟨rfl, isProperty⟩ := inside.property property rfl
      have isSetter : (⟨block, some property.setter⟩ : Place) ∈ code.places := by
        obtain ⟨owner, isOwner, inOwner⟩ := List.mem_flatMap.mp placed
        obtain rfl : block = owner := by
          rcases List.mem_cons.mp inOwner with same | isRoutine
          · exact congrArg Place.block same
          · obtain ⟨other, _, same⟩ := List.mem_map.mp isRoutine
            cases same
        refine List.mem_flatMap.mpr ⟨block, isOwner, List.mem_cons_of_mem _ ?_⟩
        refine List.mem_map_of_mem (List.mem_append_right _ ?_)
        exact List.mem_flatMap.mpr ⟨property, isProperty, by simp⟩
      refine ⟨⟨block, some property.setter⟩, isSetter, ?_, ⟨property, isProperty, rfl⟩,
        Place.source_locate ⟨block, none⟩ code settings isNode⟩
      change (Check.setterValueNotWritten.run _ (.property property)).result = .ok walk at ran
      simp only [Check.setterValueNotWritten] at ran
      split at ran
      · obtain rfl := Except.ok.inj ran
        cases isRemark
      · obtain rfl := Except.ok.inj ran
        obtain ⟨stmt, isStmt, given⟩ := Walk.mem_flatMap isRemark
        split at given
        · cases given
        · cases given
        · rw [List.mem_singleton.mp given] at isNode
          cases isNode
          exact Stmt.origins_reached (Flow.Source.mem_statements isStmt) stmt.origin_mem
  | _ =>
      obtain rfl := Except.ok.inj ran
      cases isRemark

end Lint

/-! Lines of the text that a location points into. -/

theorem Text.mem_of_item? {α : Type} {items : List α} {place : Int} {item : α}
    (found : Text.item? items place = some item) : item ∈ items := by
  unfold Text.item? at found
  split at found
  · exact List.mem_of_getElem? found
  split at found
  · exact List.mem_of_getElem? found
  · cases found

theorem Text.slice_subset {α : Type} (items : List α) (first last : Int) :
    Text.slice items first last ⊆ items :=
  fun _ inside => List.mem_of_mem_drop (List.mem_of_mem_take inside)

/-- The line that is tested for a comment, and those that are shown, are lines of this text. -/
structure Location.PointsInto (location : Location) (text : String) : Prop where
  tested : ∀ files line, (location.errorLine files).result = .ok (some line) →
    line ∈ Text.lines text
  shown : ∀ files, ∃ before behind, before ⊆ Text.lines text ∧ behind ⊆ Text.lines text ∧
    location.pretty files = .ok (location.heading ++ " in line "
      ++ shownNumber location.inSource.line ++ ":" ++ shownNumber location.inSource.column
      ++ "\n\n" ++ excerpt before location.inSource (some behind))

theorem Location.pointsInto {location : Location} {text : String} {number : Int}
    (isSource : location.source = some text) (isLine : location.inSource.line = some number) :
    location.PointsInto text where
  tested := by
    intro files line tested
    unfold errorLine at tested
    simp only [isSource, isLine] at tested
    split at tested
    · cases tested
    · cases isItem : Text.item? (Text.lines text) (number - 1) with
      | none =>
          rw [isItem] at tested
          cases tested
      | some item =>
          rw [isItem] at tested
          cases tested
          exact Text.mem_of_item? isItem
  shown := by
    intro files
    refine ⟨Text.slice (Text.lines text) (max (number - 2) 0) number,
      Text.slice (Text.lines text) number (min (number + 2) (Text.lines text).length),
      Text.slice_subset _ _ _, Text.slice_subset _ _ _, ?_⟩
    unfold pretty
    simp only [isSource, isLine]
    rfl

/-- The node stands in the body of this place and of no other. -/
structure Code.Owns (code : Code) (place : Place) (origin : Origin) : Prop where
  placed : place ∈ code.places
  inside : origin ∈ place.origins
  only : ∀ other ∈ code.places, origin ∈ other.origins → other = place

/-- Where the findings of a run point to. -/
structure Lint.PointsIntoBodies (registry : Registry) (settings : Settings) (code : Code) :
    Prop where
  /-- What is printed and what counts as an error are findings that checks make on this code. -/
  reported : ∀ files report, (lint registry settings files code).result = .ok report →
    report.Of files fun finding =>
      ∃ check remark, Makes registry settings code check remark finding
  held : ∀ check remark finding origin, Makes registry settings code check remark finding →
    remark.violating = some (.node origin) → ∃ place ∈ code.places, origin ∈ place.origins
  /-- A finding about a node has the text of the body in which the node stands. -/
  source : ∀ check remark finding origin place,
    Makes registry settings code check remark finding → check ≠ .setterValueNotWritten →
    remark.violating = some (.node origin) → code.Owns place origin →
      finding.location.source = place.bodySource ∧
      ∀ span number text, origin.span = some span → span.container.line = some number →
        place.bodySource = some text → finding.location.PointsInto text
  /-- With one exception: what is said about a statement in a setter that writes to its value has
  the text of the function block. -/
  setter : ∀ remark finding origin place,
    Makes registry settings code .setterValueNotWritten remark finding →
    remark.violating = some (.node origin) → code.Owns place origin →
      (∃ property ∈ place.block.properties, place.routine = some property.setter) ∧
      finding.location.source = place.block.bodySource

theorem Lint.Makes.inSource {registry : Registry} {settings : Settings} {code : Code}
    {check : Check} {remark : Remark} {finding : Finding} {origin : Origin} {span : Span}
    (makes : Makes registry settings code check remark finding)
    (isNode : remark.violating = some (.node origin)) (spanned : origin.span = some span) :
    finding.location.inSource = span.container := by
  obtain ⟨step, _, _, _, level, walk, _, _, _, rfl⟩ := makes
  have isSpan : remark.span = some span := by
    rw [Remark.span, isNode]
    exact spanned
  simp [Finding.locate, isSpan]

theorem findings_point_into_bodies {registry : Registry}
    (known : ∀ check ∈ registry.checks, check ∈ Check.builtin ∨ check.StaysInside)
    (settings : Settings) (code : Code) : Lint.PointsIntoBodies registry settings code := by
  have staysInside {check : Check} {remark : Remark} {finding : Finding}
      (makes : Lint.Makes registry settings code check remark finding)
      (other : check ≠ .setterValueNotWritten) : check.StaysInside := by
    obtain ⟨step, _, registered, _⟩ := makes
    exact (known check registered).elim
      (fun isBuiltin => Check.builtin_staysInside isBuiltin other) id
  refine ⟨fun files report returned => Lint.of_lint returned, ?_, ?_, ?_⟩
  · intro check remark finding origin makes isNode
    by_cases isSetter : check = .setterValueNotWritten
    · subst isSetter
      obtain ⟨place, placed, inside, _⟩ := makes.setter_source isNode
      exact ⟨place, placed, inside⟩
    · obtain ⟨place, placed, inside, _⟩ := makes.source isNode (staysInside makes isSetter)
      exact ⟨place, placed, inside⟩
  · intro check remark finding origin place makes other isNode owns
    obtain ⟨found, placed, inside, isSource⟩ := makes.source isNode (staysInside makes other)
    obtain rfl := owns.only found placed inside
    refine ⟨isSource, fun span number text spanned isLine isText => ?_⟩
    have isNumber : finding.location.inSource.line = some number := by
      rw [makes.inSource isNode spanned, isLine]
    exact Location.pointsInto (isSource.trans isText) isNumber
  · intro remark finding origin place makes isNode owns
    obtain ⟨found, placed, inside, isSetter, isSource⟩ := makes.setter_source isNode
    obtain rfl := owns.only found placed inside
    exact ⟨isSetter, isSource⟩

/-! A division in a method, and a setter that writes to its value. -/

def quotientOrigin : Origin := ⟨3, none, some ⟨{ line := some 7 }, { line := some 1 }⟩⟩

def scaleMethod : Routine where
  name := "Scale"
  kind := .method
  body := some [.action ⟨1, none, none⟩ (.assign [.var (.simple ⟨2, none, none⟩ "ratio" false)]
    (.binary quotientOrigin (.literal ⟨4, none, none⟩ (.integer .decimal "1" none)) "/"
      (.var (.simple ⟨5, none, none⟩ "count" false))))]
  bodySource := some "ratio := 1 / count;"

def ratioBlock : FunctionBlock where
  name := "FB_Ratio"
  methods := [scaleMethod]
  body := some []
  bodySource := some "// The body of the block"

def ratioCode : Code where
  blocks := ⟨[("FB_Ratio", ratioBlock)]⟩

theorem quotient_points_into_method :
    (∀ check ∈ pluginRegistry.checks, check ∈ Check.builtin ∨ check.StaysInside) ∧
      ratioCode.Owns ⟨ratioBlock, some scaleMethod⟩ quotientOrigin ∧
      ∃ remark finding, Lint.Makes pluginRegistry {} ratioCode .divisionByZero remark finding ∧
        remark.violating = some (.node quotientOrigin) ∧
        finding.location.source = some "ratio := 1 / count;" ∧
        finding.location.PointsInto "ratio := 1 / count;" := by
  have known : ∀ check ∈ pluginRegistry.checks, check ∈ Check.builtin ∨ check.StaysInside := by
    intro check registered
    rcases Registry.mem_checks_registerAll registered with isPlugin | isBuiltin
    · rcases List.mem_pair.mp isPlugin with rfl | rfl
      · exact .inr (Check.constant_staysInside _ _ _ _ _)
      · exact .inr (Check.constant_staysInside _ _ _ _ _)
    · exact .inl (Registry.mem_builtin isBuiltin)
  have owns : ratioCode.Owns ⟨ratioBlock, some scaleMethod⟩ quotientOrigin := by
    refine ⟨List.mem_of_getElem? (i := 1) rfl, List.mem_of_getElem? (i := 2) rfl,
      fun other placed inside => ?_⟩
    rcases List.mem_cons.mp placed with rfl | isMethod
    · cases inside
    · exact List.mem_singleton.mp isMethod
  have other : Check.divisionByZero ≠ .setterValueNotWritten :=
    fun same => absurd (congrArg Check.code same) (by decide)
  have makes : Lint.Makes pluginRegistry {} ratioCode .divisionByZero
      ⟨"Potential division by zero", some (.node quotientOrigin)⟩ _ :=
    ⟨_, List.mem_of_getElem? (i := 3) rfl, List.mem_of_getElem? (i := 4) rfl, rfl, .error, _, rfl,
      rfl, List.mem_singleton.mpr rfl, rfl⟩
  obtain ⟨isSource, points⟩ :=
    (findings_point_into_bodies known {} ratioCode).source _ _ _ _ _ makes other rfl owns
  exact ⟨known, owns, _, _, makes, rfl, isSource, points _ _ _ rfl rfl rfl⟩

def writeOrigin : Origin := ⟨1, none, some ⟨{ line := some 7 }, { line := some 1 }⟩⟩

def valueRead : Expr := .var (.simple ⟨3, none, none⟩ "Value" false)

def valueWrite : Stmt :=
  .action writeOrigin (.assign [.var (.simple ⟨2, none, none⟩ "Value" false)] valueRead)

def valueSetter : Routine where
  name := "Value"
  kind := .accessor
  body := some [valueWrite]
  bodySource := some "Value := Value; // noqa: PROP002"

def valueLiteral : Expr := .literal ⟨6, none, none⟩ (.integer .decimal "1" none)

def valueReturn : Stmt :=
  .action ⟨4, none, none⟩ (.assign [.var (.simple ⟨5, none, none⟩ "Value" false)] valueLiteral)

def valueGetter : Routine where
  name := "Value"
  kind := .accessor
  returnType := some "INT"
  body := some [valueReturn]

def valueProperty : Property := ⟨"Value", none, valueGetter, valueSetter⟩

def valueBlock : FunctionBlock where
  name := "FB_Value"
  properties := [valueProperty]
  body := some []
  bodySource := some "own := text;"

def valueCode : Code where
  blocks := ⟨[("FB_Value", valueBlock)]⟩

theorem lookup_value (strict : Bool) :
    (Place.scope valueCode {} ⟨valueBlock, some valueSetter⟩).lookup strict "Value" =
      pure (some "Value", some (.named "INT")) := by
  have noConversion : Scope.seek strict TypeName.conversions "Value" = none :=
    TypeName.seek_conversions_eq_none (by decide) strict
  rw [Scope.lookup, Scope.complexName?, noConversion]
  cases strict <;> rfl

def writeRemark : Remark :=
  ⟨"Property setter variable 'Value' is written to", some (.node writeOrigin)⟩

def writeFinding : Finding :=
  ⟨"PROP002", writeRemark.message, .error,
    Finding.locate (Place.scope valueCode {} ⟨valueBlock, none⟩) writeRemark⟩

theorem lint_valueCode : ∃ report, (lint Registry.builtin {} {} valueCode).result = .ok report ∧
    report.errors = [writeFinding] := by
  have done : valueCode.steps.fault = none := rfl
  have checked : valueCode.checked =
      [(⟨valueBlock, none⟩, .block valueBlock), (⟨valueBlock, none⟩, .property valueProperty),
        (⟨valueBlock, some valueGetter⟩, .stmt valueReturn),
        (⟨valueBlock, some valueGetter⟩, .expr valueLiteral),
        (⟨valueBlock, some valueSetter⟩, .stmt valueWrite),
        (⟨valueBlock, some valueSetter⟩, .expr valueRead)] := rfl
  have looking : [.block valueBlock, .property valueProperty, .stmt valueReturn,
      .expr valueLiteral, .stmt valueWrite, .expr valueRead].map Registry.builtin.checksFor =
        [[Check.superCallInFunctionBlock],
          [Check.setterReadsValue, Check.setterValueNotWritten, Check.propertyHasReturn],
          [Check.uninitializedRead], [], [Check.uninitializedRead],
          [Check.validScoping, Check.variableExists]] := rfl
  simp only [List.map_cons, List.map_nil, List.cons.injEq] at looking
  obtain ⟨atBlock, atProperty, atReturn, atLiteral, atWrite, atRead, _⟩ := looking
  obtain ⟨report, onProperty, isError⟩ : ∃ report, Lint.runChecks {}
      ⟨Place.scope valueCode {} ⟨valueBlock, none⟩, .property valueProperty⟩
      [Check.setterReadsValue, Check.setterValueNotWritten, Check.propertyHasReturn] =
        pure report ∧ report.errors = [writeFinding] := ⟨_, rfl, rfl⟩
  have each : List.Forall₂ (fun visit report =>
      Lint.runChecks {} visit (Registry.builtin.checksFor visit.subject) = pure report)
      (valueCode.checked.map (Step.visit valueCode {})) [{}, report, {}, {}, {}, {}] := by
    rw [checked]
    refine .cons ?_ (.cons ?_ (.cons ?_ (.cons ?_ (.cons ?_ (.cons ?_ .nil)))))
    · exact (congrArg _ atBlock).trans rfl
    · exact (congrArg _ atProperty).trans onProperty
    · exact (congrArg _ atReturn).trans rfl
    · exact (congrArg _ atLiteral).trans rfl
    · exact (congrArg _ atWrite).trans rfl
    · exact (congrArg _ atRead).trans (Lint.runChecks_known lookup_value)
  rw [Lint.result_lint_of_done _ _ _ done, Lint.checkEach_eq_pure each]
  refine ⟨_, rfl, ?_⟩
  change report.errors ++ [] = _
  rw [List.append_nil, isError]

/-- The text is that of the function block, so the comment on the statement itself goes unseen. -/
theorem setter_finding_points_into_block :
    (∃ report, (lint Registry.builtin {} {} valueCode).result = .ok report ∧
      report.errors = [writeFinding]) ∧
    Lint.Makes Registry.builtin {} valueCode .setterValueNotWritten writeRemark writeFinding ∧
    writeRemark.violating = some (.node writeOrigin) ∧
    valueCode.Owns ⟨valueBlock, some valueSetter⟩ writeOrigin ∧
    writeFinding.location.source = some "own := text;" ∧
    valueSetter.bodySource = some "Value := Value; // noqa: PROP002" ∧
    isSuppressed "Value := Value; // noqa: PROP002" writeFinding.code = true := by
  refine ⟨lint_valueCode, ?_, rfl, ⟨List.mem_of_getElem? (i := 2) rfl,
    List.mem_of_getElem? (i := 0) rfl, fun other placed inside => ?_⟩, rfl, rfl, by decide⟩
  · exact ⟨_, List.mem_of_getElem? (i := 1) rfl, List.mem_of_getElem? (i := 11) rfl, rfl, .error, _,
      rfl, rfl, List.mem_singleton.mpr rfl, rfl⟩
  · rcases List.mem_cons.mp placed with rfl | isAccessor
    · cases inside
    rcases List.mem_cons.mp isAccessor with rfl | isSetter
    · have serials : (Place.origins ⟨valueBlock, some valueGetter⟩).map Origin.serial =
          [4, 5, 6, 6] := rfl
      exact absurd (serials ▸ List.mem_map_of_mem inside) (by decide)
    · exact List.mem_singleton.mp isSetter

end PlcLint
