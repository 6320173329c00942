import Mathlib.Data.Finset.Max
import Mathlib.Data.Multiset.Bind
import Mathlib.Logic.Relation
import PlcLint.Proofs.Syntax.Descent

/-!
Expressions in which the arguments of a call are put in another order. A descent into every value
that is passed in does not depend on the order. The walk leaves a call at the first argument that
takes a value out, so what it gives depends on which values are passed in front of that one.
-/

namespace PlcLint

section

variable (allowed : List Argument → List Argument → Prop)

mutual

/-- The second expression is the first with the arguments of one call in it, at any depth, put in
another order, which `allowed` admits. -/
inductive Expr.Rearranged : Expr → Expr → Prop
  | here {origin asStatement callee arguments others} (admitted : allowed arguments others) :
      Expr.Rearranged (.call origin asStatement callee arguments)
        (.call origin asStatement callee others)
  | var {value other} (inside : Variable.Rearranged value other) :
      Expr.Rearranged (.var value) (.var other)
  | unary {origin op operand other} (inside : Expr.Rearranged operand other) :
      Expr.Rearranged (.unary origin op operand) (.unary origin op other)
  | left {origin left op right other} (inside : Expr.Rearranged left other) :
      Expr.Rearranged (.binary origin left op right) (.binary origin other op right)
  | right {origin left op right other} (inside : Expr.Rearranged right other) :
      Expr.Rearranged (.binary origin left op right) (.binary origin left op other)
  | paren {origin inner other} (inside : Expr.Rearranged inner other) :
      Expr.Rearranged (.paren origin inner) (.paren origin other)
  | bracket {origin inner other} (inside : Expr.Rearranged inner other) :
      Expr.Rearranged (.bracket origin inner) (.bracket origin other)
  | callee {origin asStatement callee other arguments}
      (inside : Variable.Rearranged callee other) :
      Expr.Rearranged (.call origin asStatement callee arguments)
        (.call origin asStatement other arguments)
  | argument {origin asStatement callee before argument other after}
      (inside : Argument.Rearranged argument other) :
      Expr.Rearranged (.call origin asStatement callee (before ++ argument :: after))
        (.call origin asStatement callee (before ++ other :: after))
  | chain {origin before call other after} (inside : Expr.Rearranged call other) :
      Expr.Rearranged (.chain origin (before ++ call :: after))
        (.chain origin (before ++ other :: after))

inductive Variable.Rearranged : Variable → Variable → Prop
  | base {origin base other elements} (inside : Variable.Rearranged base other) :
      Variable.Rearranged (.path origin base elements) (.path origin other elements)
  | element {origin base before element other after}
      (inside : Element.Rearranged element other) :
      Variable.Rearranged (.path origin base (before ++ element :: after))
        (.path origin base (before ++ other :: after))

inductive Element.Rearranged : Element → Element → Prop
  | field {selected other deref} (inside : Variable.Rearranged selected other) :
      Element.Rearranged (.field selected deref) (.field other deref)
  | index {before index other after deref} (inside : Expr.Rearranged index other) :
      Element.Rearranged (.subscripts (before ++ index :: after) deref)
        (.subscripts (before ++ other :: after) deref)

inductive Argument.Rearranged : Argument → Argument → Prop
  | inputName {origin name other value} (inside : Variable.Rearranged name other) :
      Argument.Rearranged (.input origin (some name) value) (.input origin (some other) value)
  | inputValue {origin name value other} (inside : Expr.Rearranged value other) :
      Argument.Rearranged (.input origin name (some value)) (.input origin name (some other))
  | outputName {origin name other value inverted} (inside : Variable.Rearranged name other) :
      Argument.Rearranged (.output origin (some name) value inverted)
        (.output origin (some other) value inverted)
  | outputValue {origin name value other inverted} (inside : Expr.Rearranged value other) :
      Argument.Rearranged (.output origin name (some value) inverted)
        (.output origin name (some other) inverted)

end

/-- The same expression, or one with the arguments of a call in it put in another order. -/
def Expr.Alike : Expr → Expr → Prop := Relation.ReflGen (Expr.Rearranged allowed)

/-- The lists can be matched one to one, each expression with one that is alike. -/
def AlikeExprs (first second : List Expr) : Prop :=
  Multiset.Rel (Expr.Alike allowed) first second

/-- An expression up to the order of arguments in it. -/
def Expr.upToOrder : Expr → Quot (Expr.Rearranged allowed) := Quot.mk _

/-- The lists hold the same expressions equally often, up to the order of arguments in them. -/
def SameExprs (first second : List Expr) : Prop :=
  (first.map (Expr.upToOrder allowed)).Perm (second.map (Expr.upToOrder allowed))

end

variable {allowed : List Argument → List Argument → Prop} {past : Bool}

namespace AlikeExprs

variable {first second : List Expr}

theorem refl (exprs : List Expr) : AlikeExprs allowed exprs exprs :=
  Multiset.rel_refl_of_refl_on fun _ _ => .refl

theorem of_perm (perm : first.Perm second) : AlikeExprs allowed first second := by
  rw [AlikeExprs, Multiset.coe_eq_coe.mpr perm]
  exact refl second

theorem append {firstRest secondRest : List Expr} (here : AlikeExprs allowed first second)
    (rest : AlikeExprs allowed firstRest secondRest) :
    AlikeExprs allowed (first ++ firstRest) (second ++ secondRest) := by
  rw [AlikeExprs, ← Multiset.coe_add, ← Multiset.coe_add]
  exact Multiset.Rel.add here rest

theorem replace {expr other : Expr} (inside : expr.Rearranged allowed other)
    (before after : List Expr) :
    AlikeExprs allowed (before ++ expr :: after) (before ++ other :: after) :=
  append (refl before) (Multiset.Rel.cons (.single inside) (refl after))

theorem flatMap {f : Expr → List Expr} (alike : AlikeExprs allowed first second)
    (inside : ∀ expr ∈ first, ∀ other, expr.Alike allowed other →
      AlikeExprs allowed (f expr) (f other)) :
    AlikeExprs allowed (first.flatMap f) (second.flatMap f) := by
  have related : Multiset.Rel (fun expr other => AlikeExprs allowed (f expr) (f other))
      (first : Multiset Expr) second :=
    Multiset.Rel.mono alike fun expr given other _ pair => inside expr given other pair
  rw [AlikeExprs, ← Multiset.coe_bind, ← Multiset.coe_bind]
  exact Multiset.rel_bind (fun _ _ holds => holds) related

theorem sameExprs (alike : AlikeExprs allowed first second) : SameExprs allowed first second := by
  refine Multiset.coe_eq_coe.mp ?_
  rw [← Multiset.map_coe, ← Multiset.map_coe, ← Multiset.rel_eq, Multiset.rel_map]
  refine Multiset.Rel.mono alike fun expr _ other _ pair => ?_
  cases pair with
  | refl => rfl
  | single rearranged => exact Quot.sound rearranged

end AlikeExprs

/-! What a rearrangement does to the parts of an expression. -/

theorem passedValues_cons (past : Bool) (argument : Argument) (rest : List Argument) :
    passedValues past (argument :: rest) =
      if argument.isOutput && !past then []
      else argument.passed?.toList ++ passedValues past rest := by
  cases past <;> cases argument with
  | input origin name value => cases value <;> rfl
  | output origin name value inverted => rfl

theorem Element.Rearranged.indices {element other : Element}
    (rearranged : element.Rearranged allowed other) :
    AlikeExprs allowed element.indices other.indices := by
  cases rearranged with
  | field inside => exact .refl _
  | index inside => exact .replace inside _ _

theorem Variable.Rearranged.indices {value other : Variable}
    (rearranged : value.Rearranged allowed other) :
    AlikeExprs allowed value.indices other.indices := by
  cases rearranged with
  | base inside => exact .refl _
  | element inside =>
      simp only [Variable.indices, List.flatMap_append, List.flatMap_cons]
      exact .append (.refl _) (.append inside.indices (.refl _))

theorem Argument.Rearranged.isOutput {argument other : Argument}
    (rearranged : argument.Rearranged allowed other) : argument.isOutput = other.isOutput := by
  cases rearranged <;> rfl

theorem Argument.Rearranged.passed? {argument other : Argument}
    (rearranged : argument.Rearranged allowed other) :
    AlikeExprs allowed argument.passed?.toList other.passed?.toList := by
  cases rearranged with
  | inputValue inside => exact .replace inside [] []
  | _ => exact .refl _

theorem Argument.Rearranged.passedValues {argument other : Argument}
    (rearranged : argument.Rearranged allowed other) (before after : List Argument) :
    AlikeExprs allowed (PlcLint.passedValues past (before ++ argument :: after))
      (PlcLint.passedValues past (before ++ other :: after)) := by
  induction before with
  | nil =>
      rw [List.nil_append, List.nil_append, passedValues_cons, passedValues_cons,
        rearranged.isOutput]
      split
      · exact .refl _
      · exact .append rearranged.passed? (.refl _)
  | cons first before inductionHypothesis =>
      rw [List.cons_append, List.cons_append, passedValues_cons, passedValues_cons]
      split
      · exact .refl _
      · exact .append (.refl _) inductionHypothesis

theorem Expr.Rearranged.parts {expr other : Expr}
    (keeps : ∀ {arguments others}, allowed arguments others →
      (passedValues past arguments).Perm (passedValues past others))
    (rearranged : expr.Rearranged allowed other) :
    AlikeExprs allowed (expr.parts past) (other.parts past) := by
  cases rearranged with
  | here admitted => exact .of_perm (keeps admitted)
  | var inside => exact inside.indices
  | unary inside => exact .replace inside [] []
  | left inside => exact .replace inside [] _
  | right inside => exact .replace inside [_] []
  | paren inside => exact .replace inside [] []
  | bracket inside => exact .replace inside [] []
  | callee inside => exact .refl _
  | argument inside => exact inside.passedValues _ _
  | chain inside => exact .replace inside _ _

/-- A descent gives the same expressions if an admitted order keeps the values passed in. -/
theorem Expr.Rearranged.descent {expr other : Expr}
    (keeps : ∀ {arguments others}, allowed arguments others →
      (passedValues past arguments).Perm (passedValues past others))
    (rearranged : expr.Rearranged allowed other) :
    AlikeExprs allowed (expr.descent past) (other.descent past) := by
  rw [expr.descent_eq, other.descent_eq]
  refine AlikeExprs.append (.replace rearranged [] []) ?_
  refine (rearranged.parts keeps).flatMap fun part membership counterpart alike => ?_
  cases alike with
  | refl => exact .refl _
  | single inside => exact inside.descent keeps
termination_by sizeOf expr
decreasing_by exact Expr.sizeOf_of_mem_parts membership

/-! What the walk misses. -/

/-- The values that a call passes in behind an argument that takes a value out. -/
def Expr.hidden : Expr → List Expr
  | .call _ _ _ arguments => (arguments.dropWhile (!·.isOutput)).filterMap Argument.passed?
  | _ => []

/-- What lies in the hidden values of the calls that the walk comes to. -/
def Expr.missed (expr : Expr) : List Expr :=
  expr.subexprs.flatMap fun inner => inner.hidden.flatMap (Expr.descent true)

theorem Expr.parts_true (expr : Expr) : expr.parts true = expr.parts false ++ expr.hidden := by
  cases expr with
  | call origin asStatement callee arguments =>
      change arguments.filterMap _ = (arguments.takeWhile _).filterMap _ ++ _
      rw [hidden, ← List.filterMap_append, List.takeWhile_append_dropWhile]
  | _ => simp [parts, hidden]

theorem Expr.missed_eq (expr : Expr) :
    expr.missed = expr.hidden.flatMap (Expr.descent true) ++
      (expr.parts false).flatMap Expr.missed := by
  rw [missed, subexprs_eq_parts, List.flatMap_cons, List.flatMap_assoc]
  rfl

/-- A descent into every value that is passed in gives what the walk gives and what it misses. -/
theorem Expr.descent_true_perm (expr : Expr) :
    (expr.descent true).Perm (expr.subexprs ++ expr.missed) := by
  have inParts : ((expr.parts false).flatMap (Expr.descent true)).Perm
      ((expr.parts false).flatMap Expr.subexprs ++ (expr.parts false).flatMap Expr.missed) := by
    refine List.Perm.trans (List.Perm.flatMap_left _ fun part membership => ?_)
      (List.flatMap_append_perm _ _ _).symm
    exact part.descent_true_perm
  rw [descent_eq, parts_true, List.flatMap_append, missed_eq, subexprs_eq_parts, List.cons_append]
  refine List.Perm.cons _ ?_
  refine (inParts.append_right _).trans ?_
  rw [List.append_assoc]
  exact List.perm_append_comm.append_left _
termination_by sizeOf expr
decreasing_by exact Expr.sizeOf_of_mem_parts membership

theorem Expr.missed_eq_nil_iff (expr : Expr) :
    expr.missed = [] ↔ ∀ inner ∈ expr.subexprs, inner.hidden = [] := by
  rw [missed, List.flatMap_eq_nil_iff]
  refine forall₂_congr fun inner _ => ?_
  rw [List.flatMap_eq_nil_iff]
  constructor
  · intro empty
    refine List.eq_nil_iff_forall_not_mem.mpr fun value isHidden => ?_
    have nothing := empty value isHidden
    rw [descent_eq] at nothing
    cases nothing
  · intro empty
    simp [empty]

/-- Where the full descents agree, the walks agree exactly if they miss the same. -/
theorem SameExprs.subexprs_iff {expr other : Expr}
    (full : SameExprs allowed (expr.descent true) (other.descent true)) :
    SameExprs allowed expr.subexprs other.subexprs ↔
      SameExprs allowed expr.missed other.missed := by
  have both := ((expr.descent_true_perm.map (Expr.upToOrder allowed)).symm.trans full).trans
    (other.descent_true_perm.map _)
  rw [List.map_append, List.map_append] at both
  constructor
  · intro walks
    exact (List.perm_append_left_iff _).mp ((walks.append_right _).symm.trans both)
  · intro misses
    exact (List.perm_append_right_iff _).mp (both.trans (misses.append_left _).symm)

/-! Which expressions were walked can be told from what the walks gave: the largest of all that was
given can only have been given as an expression that was walked. -/

theorem Expr.eq_or_sizeOf_lt {expr inner : Expr} (inside : inner ∈ expr.subexprs) :
    inner = expr ∨ sizeOf inner < sizeOf expr := by
  rw [subexprs_eq_parts] at inside
  rcases List.mem_cons.mp inside with isSelf | isBelow
  · exact .inl isSelf
  · obtain ⟨part, membership, inPart⟩ := List.mem_flatMap.mp isBelow
    have smaller := Expr.sizeOf_of_mem_parts membership
    rcases part.eq_or_sizeOf_lt inPart with rfl | deeper
    · exact .inr smaller
    · exact .inr (by omega)
termination_by sizeOf expr
decreasing_by exact Expr.sizeOf_of_mem_parts membership

theorem Expr.self_mem_flatMap_subexprs {expr : Expr} {exprs : List Expr}
    (membership : expr ∈ exprs) : expr ∈ exprs.flatMap Expr.subexprs :=
  List.mem_flatMap.mpr ⟨expr, membership, expr.mem_subexprs_self⟩

theorem exists_mem_both {first second : List Expr}
    (perm : (first.flatMap Expr.subexprs).Perm (second.flatMap Expr.subexprs))
    (nonempty : first ≠ []) : ∃ expr ∈ first, expr ∈ second := by
  have nonzero : (first : Multiset Expr) ≠ 0 := by simpa using nonempty
  obtain ⟨largest, isFirst, above⟩ := Multiset.exists_max_image sizeOf nonzero
  -- Some expression of the second list gives it, and is itself given by one of the first list.
  obtain ⟨other, isSecond, gives⟩ := List.mem_flatMap.mp
    (perm.mem_iff.mp (Expr.self_mem_flatMap_subexprs isFirst))
  obtain ⟨source, isSource, givesOther⟩ := List.mem_flatMap.mp
    (perm.mem_iff.mpr (Expr.self_mem_flatMap_subexprs isSecond))
  have bound := above source isSource
  have same : largest = other := by
    rcases Expr.eq_or_sizeOf_lt gives with equal | smaller
    · exact equal
    · rcases Expr.eq_or_sizeOf_lt givesOther with rfl | deeper <;> omega
  exact ⟨largest, isFirst, same ▸ isSecond⟩

theorem perm_of_flatMap_subexprs_perm {count : Nat} {first second : List Expr}
    (length : first.length = count)
    (perm : (first.flatMap Expr.subexprs).Perm (second.flatMap Expr.subexprs)) :
    first.Perm second := by
  induction count generalizing first second with
  | zero =>
      cases List.eq_nil_of_length_eq_zero length
      cases second with
      | nil => exact .nil
      | cons expr rest =>
          have given := Expr.self_mem_flatMap_subexprs (List.mem_cons_self (a := expr) (l := rest))
          rw [List.nil_perm.mp perm] at given
          cases given
  | succ count inductionHypothesis =>
      have nonempty : first ≠ [] := by
        rintro rfl
        cases length
      obtain ⟨common, isFirst, isSecond⟩ := exists_mem_both perm nonempty
      obtain ⟨firstBefore, firstAfter, rfl⟩ := List.append_of_mem isFirst
      obtain ⟨secondBefore, secondAfter, rfl⟩ := List.append_of_mem isSecond
      have firstFront : (firstBefore ++ common :: firstAfter).Perm
          (common :: (firstBefore ++ firstAfter)) := List.perm_middle
      have secondFront : (secondBefore ++ common :: secondAfter).Perm
          (common :: (secondBefore ++ secondAfter)) := List.perm_middle
      have moved := ((firstFront.flatMap_right _).symm.trans perm).trans
        (secondFront.flatMap_right _)
      rw [List.flatMap_cons, List.flatMap_cons, List.perm_append_left_iff] at moved
      have shorter : (firstBefore ++ firstAfter).length = count := by
        simpa using firstFront.length_eq.symm.trans length
      have rest := inductionHypothesis shorter moved
      exact (firstFront.trans (rest.cons common)).trans secondFront.symm

/-- The order keeps the values that are passed in front of the first argument that takes a value
out. -/
def KeepsLead (arguments others : List Argument) : Prop :=
  arguments.Perm others ∧ (passedValues false arguments).Perm (passedValues false others)

/-- The walk gives all that a descent into every value passed in gives, but for what it misses in
the calls with a value behind an argument that takes one out. Whatever order the arguments of a
call are in, at any depth, that descent gives the same expressions, so the walk gives the same
exactly if it misses the same. It does so always if the order keeps the values in front of the
first argument that takes a value out; and in the call itself only then. -/
theorem subexprs_of_rearranged (expr : Expr) :
    (expr.descent true).Perm (expr.subexprs ++ expr.missed) ∧
      (expr.missed = [] ↔ ∀ inner ∈ expr.subexprs, inner.hidden = []) ∧
      (∀ other, expr.Rearranged List.Perm other →
        SameExprs List.Perm (expr.descent true) (other.descent true) ∧
          (SameExprs List.Perm expr.subexprs other.subexprs ↔
            SameExprs List.Perm expr.missed other.missed)) ∧
      (∀ other, expr.Rearranged KeepsLead other →
        SameExprs KeepsLead expr.subexprs other.subexprs) ∧
      ∀ origin asStatement callee arguments others,
        (Expr.call origin asStatement callee arguments).subexprs.tail.Perm
            (Expr.call origin asStatement callee others).subexprs.tail ↔
          (passedValues false arguments).Perm (passedValues false others) := by
  refine ⟨expr.descent_true_perm, expr.missed_eq_nil_iff, fun other rearranged => ?_,
    fun other rearranged => ?_, fun origin asStatement callee arguments others => ?_⟩
  · have full : AlikeExprs List.Perm (expr.descent true) (other.descent true) :=
      rearranged.descent fun perm => perm.filterMap _
    exact ⟨full.sameExprs, full.sameExprs.subexprs_iff⟩
  · have walked : AlikeExprs KeepsLead (expr.descent false) (other.descent false) :=
      rearranged.descent fun keeps => keeps.2
    rw [← Expr.subexprs_eq_descent, ← Expr.subexprs_eq_descent] at walked
    exact walked.sameExprs
  · simp only [Expr.subexprs, List.tail_cons, inputSubexprs_eq]
    exact ⟨perm_of_flatMap_subexprs_perm rfl, fun perm => perm.flatMap_right _⟩

/-! Calls of `F` with the values `x` and `y` passed in and a value taken out into `z`. -/

def readY : Expr := .var (.simple ⟨13, none, none⟩ "y" false)

def passX : Argument := .input ⟨10, none, none⟩ none (some readX)

def passY : Argument := .input ⟨11, none, none⟩ none (some readY)

def takeZ : Argument :=
  .output ⟨12, none, none⟩ (some (.simple ⟨14, none, none⟩ "q" false))
    (some (.var (.simple ⟨15, none, none⟩ "z" false))) false

def negatedF (arguments : List Argument) : Expr :=
  .unary ⟨0, none, none⟩ "-"
    (.call ⟨1, none, none⟩ false (.simple ⟨2, none, none⟩ "F" false) arguments)

theorem subexprs_of_exchanged_inputs :
    (negatedF [passX, passY, takeZ]).Rearranged KeepsLead (negatedF [passY, passX, takeZ]) ∧
      SameExprs KeepsLead (negatedF [passX, passY, takeZ]).subexprs
        (negatedF [passY, passX, takeZ]).subexprs := by
  have rearranged : (negatedF [passX, passY, takeZ]).Rearranged KeepsLead
      (negatedF [passY, passX, takeZ]) := .unary (.here ⟨.swap _ _ _, .swap _ _ _⟩)
  exact ⟨rearranged, (subexprs_of_rearranged _).2.2.2.1 _ rearranged⟩

/-- With the argument that takes a value out in front, nothing of `x` is given. -/
theorem hidden_input_missed :
    (negatedF [passX, takeZ]).Rearranged List.Perm (negatedF [takeZ, passX]) ∧
      readX ∈ (negatedF [passX, takeZ]).subexprs ∧
      readX ∉ (negatedF [takeZ, passX]).subexprs ∧
      ¬ SameExprs List.Perm (negatedF [passX, takeZ]).subexprs
        (negatedF [takeZ, passX]).subexprs := by
  refine ⟨.unary (.here (.swap _ _ _)), ?_, ?_, fun same => ?_⟩
  · exact .tail _ (.tail _ (.head _))
  · simp [negatedF, passX, takeZ, readX, Expr.subexprs, inputSubexprs]
  · cases same.length_eq

end PlcLint
