import PlcLint.Proofs.Lint.Errors

/-!
The type of an arithmetic expression. A type has a weight, by its class and its place in the class,
and the common type of two operands is the heavier one, the left one if they weigh the same. So the
type of an expression depends on the types of its operands and their order, but not on how the
operands are grouped, nor on the operators between them.
-/

namespace PlcLint

namespace TypeName

/-- How a type stands against others by these classes: above the types of later classes and those
that come before it in its own. Types of no class all weigh the same, but for the empty name. -/
def weightIn : List (List String) → TypeRef → Nat
  | [], type => if type = .named "" then 1 else 2
  | group :: rest, type =>
    match rank? group type with
    | some place => 3 + rest.flatten.length + place
    | none => weightIn rest type

/-- What is not known has no weight. -/
def weight : Option TypeRef → Nat
  | none => 0
  | some type => weightIn dominance type

/-- The type belongs to one of the classes. -/
def Classed (groups : List (List String)) (type : TypeRef) : Prop :=
  ∃ group ∈ groups, ∃ name ∈ group, type = .named name

section Rank

variable {group : List String} {type other : TypeRef} {place : Nat}

theorem rank?_eq_none_iff : rank? group type = none ↔ ¬∃ name ∈ group, type = .named name := by
  cases type with
  | named name =>
      rw [rank?, List.idxOf?_eq_none_iff]
      simp
  | complex => simp [rank?]
  | declared text => simp [rank?]

/-- The place of a type tells the type. -/
theorem rank?_eq_some (found : rank? group type = some place) :
    ∃ inside : place < group.length, type = .named group[place] := by
  cases type with
  | named name =>
      obtain ⟨inside, isName, _⟩ := List.idxOf?_eq_some_iff.mp found
      exact ⟨inside, congrArg TypeRef.named isName.symm⟩
  | complex => cases found
  | declared text => cases found

end Rank

section Weight

variable {groups : List (List String)} {type other left right : TypeRef}

theorem weightIn_of_ranked {group : List String} {place : Nat}
    (found : rank? group type = some place) (rest : List (List String)) :
    weightIn (group :: rest) type = 3 + rest.flatten.length + place := by
  rw [weightIn, found]

theorem weightIn_of_unranked {group : List String} (unknown : rank? group type = none)
    (rest : List (List String)) : weightIn (group :: rest) type = weightIn rest type := by
  rw [weightIn, unknown]

theorem weightIn_pos (groups : List (List String)) (type : TypeRef) : 0 < weightIn groups type := by
  induction groups with
  | nil =>
      rw [weightIn]
      split <;> omega
  | cons group rest inductionHypothesis =>
      cases found : rank? group type with
      | some place =>
          rw [weightIn_of_ranked found]
          omega
      | none =>
          rw [weightIn_of_unranked found]
          exact inductionHypothesis

theorem weightIn_le (groups : List (List String)) (type : TypeRef) :
    weightIn groups type ≤ 2 + groups.flatten.length := by
  induction groups with
  | nil =>
      rw [weightIn]
      split <;> simp
  | cons group rest inductionHypothesis =>
      rw [List.flatten_cons, List.length_append]
      cases found : rank? group type with
      | some place =>
          obtain ⟨inside, _⟩ := rank?_eq_some found
          rw [weightIn_of_ranked found]
          omega
      | none =>
          rw [weightIn_of_unranked found]
          omega

/-- Only the types of the classes weigh more than two. -/
theorem weightIn_le_two_iff : weightIn groups type ≤ 2 ↔ ¬Classed groups type := by
  induction groups with
  | nil =>
      rw [weightIn]
      simp only [Classed, List.not_mem_nil, false_and, exists_false, not_false_eq_true, iff_true]
      split <;> omega
  | cons group rest inductionHypothesis =>
      have split : Classed (group :: rest) type ↔
          (∃ name ∈ group, type = .named name) ∨ Classed rest type := by
        simp [Classed]
      rw [split, not_or, ← rank?_eq_none_iff]
      cases found : rank? group type with
      | some place =>
          rw [weightIn_of_ranked found]
          exact iff_of_false (by omega) fun unclassed => nomatch unclassed.1
      | none =>
          rw [weightIn_of_unranked found, inductionHypothesis]
          exact (and_iff_right rfl).symm

/-- A type of no class weighs two, unless its name is empty. -/
theorem weightIn_eq_two_iff :
    weightIn groups type = 2 ↔ type ≠ .named "" ∧ ¬Classed groups type := by
  rw [← weightIn_le_two_iff]
  induction groups with
  | nil =>
      rw [weightIn]
      split <;> simp_all
  | cons group rest inductionHypothesis =>
      cases found : rank? group type with
      | some place =>
          rw [weightIn_of_ranked found]
          exact iff_of_false (by omega) fun light => by omega
      | none =>
          rw [weightIn_of_unranked found]
          exact inductionHypothesis

/-- Different types weigh the same only if both weigh two. -/
theorem eq_of_weightIn_eq (same : weightIn groups type = weightIn groups other)
    (notTwo : weightIn groups type ≠ 2) : type = other := by
  induction groups with
  | nil =>
      simp only [weightIn] at same notTwo
      by_cases empty : type = .named ""
      · by_cases otherEmpty : other = .named ""
        · rw [empty, otherEmpty]
        · simp [empty, otherEmpty] at same
      · simp [empty] at notTwo
  | cons group rest inductionHypothesis =>
      have typeBound := weightIn_le rest type
      have otherBound := weightIn_le rest other
      cases found : rank? group type with
      | some place =>
          rw [weightIn_of_ranked found] at same
          cases otherFound : rank? group other with
          | some otherPlace =>
              rw [weightIn_of_ranked otherFound] at same
              obtain rfl : place = otherPlace := by omega
              obtain ⟨_, isType⟩ := rank?_eq_some found
              obtain ⟨_, isOther⟩ := rank?_eq_some otherFound
              rw [isType, isOther]
          | none =>
              rw [weightIn_of_unranked otherFound] at same
              omega
      | none =>
          rw [weightIn_of_unranked found] at same notTwo
          cases otherFound : rank? group other with
          | some otherPlace =>
              rw [weightIn_of_ranked otherFound] at same
              omega
          | none =>
              rw [weightIn_of_unranked otherFound] at same
              exact inductionHypothesis same notTwo

/-- The classes decide for the heavier type, if they know one of the two at all. -/
theorem commonIn?_eq (groups : List (List String)) (left right : TypeRef) :
    commonIn? left right groups =
      if weightIn groups left ≤ 2 ∧ weightIn groups right ≤ 2 then none
      else some (if weightIn groups left < weightIn groups right then right else left) := by
  induction groups with
  | nil =>
      have bounds := And.intro (weightIn_le [] left) (weightIn_le [] right)
      rw [if_pos (by simpa using bounds), commonIn?]
  | cons group rest inductionHypothesis =>
      have leftBound := weightIn_le rest left
      have rightBound := weightIn_le rest right
      rw [commonIn?]
      cases found : rank? group left with
      | some place =>
          rw [weightIn_of_ranked found]
          cases otherFound : rank? group right with
          | some otherPlace =>
              rw [weightIn_of_ranked otherFound, if_neg (by omega)]
              simp only [Nat.add_lt_add_iff_left]
          | none =>
              rw [weightIn_of_unranked otherFound, if_neg (by omega), if_neg (by omega)]
      | none =>
          rw [weightIn_of_unranked found]
          cases otherFound : rank? group right with
          | some otherPlace =>
              rw [weightIn_of_ranked otherFound, if_neg (by omega), if_pos (by omega)]
          | none =>
              rw [weightIn_of_unranked otherFound]
              exact inductionHypothesis

end Weight

/-- The heavier of two types; of two that weigh the same, the left one. -/
def heavier (left right : Option TypeRef) : Option TypeRef :=
  if weight left < weight right then right else left

theorem heavier_some (left right : TypeRef) :
    heavier (some left) (some right) =
      some (if weightIn dominance left < weightIn dominance right then right else left) := by
  rw [apply_ite some]
  rfl

theorem weight_heavier (left right : Option TypeRef) :
    weight (heavier left right) = max (weight left) (weight right) := by
  rw [heavier]
  split <;> omega

theorem heavier_none (type : Option TypeRef) : heavier type none = type :=
  if_neg (Nat.not_lt_zero _)

theorem none_heavier (type : Option TypeRef) : heavier none type = type := by
  cases type with
  | none => rfl
  | some type => exact if_pos (weightIn_pos dominance type)

instance : Std.Associative heavier where
  assoc first second third := by
    have outer := weight_heavier first second
    have inner := weight_heavier second third
    by_cases rises : weight first < weight second
    · by_cases risesOn : weight second < weight third
      · simp only [heavier, rises, risesOn, if_true]
        rw [if_pos (by omega)]
      · simp only [heavier, rises, risesOn, if_true, if_false]
    · by_cases risesOn : weight second < weight third
      · simp only [heavier, rises, risesOn, if_true, if_false]
      · simp only [heavier, rises, risesOn, if_false]
        rw [if_neg (by omega)]

/-- The common type is always found, and it is the heavier one. -/
theorem result_common (left right : Option TypeRef) :
    (common left right).result = .ok (heavier left right) := by
  rcases left with _ | left
  · rw [none_heavier]
    rfl
  · rcases right with _ | right
    · rw [heavier_none]
      rfl
    · rw [common]
      by_cases same : left = right
      · rw [if_pos same, heavier, same, if_neg (Nat.lt_irrefl _)]
        rfl
      · rw [if_neg same, commonIn?_eq, heavier_some]
        by_cases unclassed : weightIn dominance left ≤ 2 ∧ weightIn dominance right ≤ 2
        · -- Of two types without a class only an empty name gives way.
          rw [if_pos unclassed]
          change Except.ok (if left = .named "" then some right else some left) = _
          by_cases empty : left = .named ""
          · have rightTwo : weightIn dominance right = 2 := weightIn_eq_two_iff.mpr
              ⟨fun otherEmpty => same (empty.trans otherEmpty.symm),
                weightIn_le_two_iff.mp unclassed.2⟩
            have leftOne : weightIn dominance left = 1 := by
              rw [empty]
              rfl
            rw [if_pos empty, if_pos (by omega)]
          · have leftTwo : weightIn dominance left = 2 :=
              weightIn_eq_two_iff.mpr ⟨empty, weightIn_le_two_iff.mp unclassed.1⟩
            rw [if_neg empty, if_neg (by omega)]
        · rw [if_neg unclassed]
          rfl

theorem result_foldlM_common (types : List (Option TypeRef)) (first : Option TypeRef) :
    (types.foldlM common first).result = .ok (types.foldl heavier first) := by
  induction types generalizing first with
  | nil => rfl
  | cons type rest inductionHypothesis =>
      rw [List.foldlM_cons, Logged.result_bind, result_common]
      exact inductionHypothesis _

theorem foldl_heavier_append (first second : List (Option TypeRef)) :
    (first ++ second).foldl heavier none =
      heavier (first.foldl heavier none) (second.foldl heavier none) := by
  have regrouped : second.foldl heavier (heavier (first.foldl heavier none) none) =
      heavier (first.foldl heavier none) (second.foldl heavier none) := List.foldl_assoc
  rw [heavier_none] at regrouped
  rw [List.foldl_append, regrouped]

/-- The order of two operands matters only if both have types, which differ, belong to no class and
have names. -/
theorem heavier_ne_swap_iff {left right : Option TypeRef} :
    heavier left right ≠ heavier right left ↔
      ∃ first second, left = some first ∧ right = some second ∧ first ≠ second ∧
        (first ≠ .named "" ∧ ¬Classed dominance first) ∧
        (second ≠ .named "" ∧ ¬Classed dominance second) := by
  constructor
  · intro differ
    have sameWeight : weight left = weight right := by
      by_contra different
      refine differ ?_
      rcases Nat.lt_or_gt_of_ne different with less | less
      · rw [heavier, heavier, if_pos less, if_neg (Nat.lt_asymm less)]
      · rw [heavier, heavier, if_neg (Nat.lt_asymm less), if_pos less]
    have keepsLeft : heavier left right = left := if_neg (by omega)
    have keepsRight : heavier right left = right := if_neg (by omega)
    rw [keepsLeft, keepsRight] at differ
    rcases left with _ | first <;> rcases right with _ | second
    · exact absurd rfl differ
    · exact absurd sameWeight.symm (Nat.ne_of_gt (weightIn_pos _ _))
    · exact absurd sameWeight (Nat.ne_of_gt (weightIn_pos _ _))
    · have different : first ≠ second := fun same => differ (congrArg some same)
      have firstTwo : weightIn dominance first = 2 := by
        by_contra notTwo
        exact different (eq_of_weightIn_eq sameWeight notTwo)
      have secondTwo : weightIn dominance second = 2 := sameWeight.symm.trans firstTwo
      exact ⟨first, second, rfl, rfl, different, weightIn_eq_two_iff.mp firstTwo,
        weightIn_eq_two_iff.mp secondTwo⟩
  · rintro ⟨first, second, rfl, rfl, different, firstPlain, secondPlain⟩
    have firstTwo : weight (some first) = 2 := weightIn_eq_two_iff.mpr firstPlain
    have secondTwo : weight (some second) = 2 := weightIn_eq_two_iff.mpr secondPlain
    rw [heavier, heavier, firstTwo, secondTwo, if_neg (Nat.lt_irrefl 2)]
    exact fun same => different (Option.some.inj same)

end TypeName

/-- The expression is put together of these operands, in this order, by arithmetic, signs and
parentheses. -/
inductive ArithmeticOver : Expr → List Expr → Prop where
  | operand (expr : Expr) : ArithmeticOver expr [expr]
  | sign {origin : Origin} {op : String} {inner : Expr} {operands : List Expr}
      (isSign : op = "+" ∨ op = "-") (inside : ArithmeticOver inner operands) :
      ArithmeticOver (.unary origin op inner) operands
  | paren {origin : Origin} {inner : Expr} {operands : List Expr}
      (inside : ArithmeticOver inner operands) : ArithmeticOver (.paren origin inner) operands
  | binary {origin : Origin} {left right : Expr} {op : String} {before after : List Expr}
      (isArithmetic : op ∈ ["+", "-", "*", "/"]) (first : ArithmeticOver left before)
      (second : ArithmeticOver right after) :
      ArithmeticOver (.binary origin left op right) (before ++ after)

namespace Scope

variable {scope : Scope} {typeOf : Expr → Option TypeRef}

theorem exprType_sign {origin : Origin} {op : String} {inner : Expr}
    (isSign : op = "+" ∨ op = "-") :
    scope.exprType (.unary origin op inner) = scope.exprType inner := by
  rcases isSign with rfl | rfl <;> rw [exprType] <;> rfl

theorem result_exprType_binary {origin : Origin} {left right : Expr} {op : String}
    {leftType rightType : Option TypeRef} (isArithmetic : op ∈ ["+", "-", "*", "/"])
    (isLeft : (scope.exprType left).result = .ok leftType)
    (isRight : (scope.exprType right).result = .ok rightType) :
    (scope.exprType (.binary origin left op right)).result =
      .ok (TypeName.heavier leftType rightType) := by
  have noComparison : comparisons.contains op = false := by
    simp only [List.mem_cons, List.not_mem_nil, or_false] at isArithmetic
    rcases isArithmetic with rfl | rfl | rfl | rfl <;> decide
  have notMod : op ≠ "MOD" := by
    rintro rfl
    simp at isArithmetic
  have arithmetical : arithmetic.contains op = true := List.contains_iff_mem.mpr isArithmetic
  rw [exprType, if_neg (Bool.eq_false_iff.mp noComparison), if_neg notMod, if_pos arithmetical,
    Logged.result_bind, isLeft]
  change (scope.exprType right >>= TypeName.common leftType).result = _
  rw [Logged.result_bind, isRight]
  exact TypeName.result_common leftType rightType

/-- The type of an expression of arithmetic is the heaviest among the types of its operands. -/
theorem result_exprType_of_arithmeticOver {expr : Expr} {operands : List Expr}
    (arithmetical : ArithmeticOver expr operands)
    (known : ∀ operand ∈ operands, (scope.exprType operand).result = .ok (typeOf operand)) :
    (scope.exprType expr).result = .ok ((operands.map typeOf).foldl TypeName.heavier none) := by
  induction arithmetical with
  | operand expr =>
      rw [known expr (List.mem_singleton_self expr)]
      exact congrArg Except.ok (TypeName.none_heavier _).symm
  | sign isSign _ inductionHypothesis =>
      rw [exprType_sign isSign]
      exact inductionHypothesis known
  | paren _ inductionHypothesis =>
      rw [exprType]
      exact inductionHypothesis known
  | binary isArithmetic _ _ beforeHypothesis afterHypothesis =>
      obtain ⟨knownBefore, knownAfter⟩ := List.forall_mem_append.mp known
      rw [result_exprType_binary isArithmetic (beforeHypothesis knownBefore)
        (afterHypothesis knownAfter), List.map_append, TypeName.foldl_heavier_append]

/-- An expression of arithmetic has the type that is found by going through the types of its
operands from left to right, so all expressions over operands of these types have it, however they
are grouped. Common types may be taken in any grouping, an unknown type changes nothing, and the
order matters exactly for two known types that differ, are of no class and have names. -/
theorem arithmetic_type_ignores_grouping :
    (∀ (scope : Scope) (typeOf : Expr → Option TypeRef) (expr : Expr) (operands : List Expr),
      ArithmeticOver expr operands →
      (∀ operand ∈ operands, (scope.exprType operand).result = .ok (typeOf operand)) →
      (∃ type, (scope.exprType expr).result = .ok type ∧
        ((operands.map typeOf).foldlM TypeName.common none).result = .ok type) ∧
      ∀ other others, ArithmeticOver other others →
        (∀ operand ∈ others, (scope.exprType operand).result = .ok (typeOf operand)) →
        others.map typeOf = operands.map typeOf →
        (scope.exprType other).result = (scope.exprType expr).result) ∧
    (∀ first second third : Option TypeRef,
      (TypeName.common first second >>= (TypeName.common · third)).result =
        (TypeName.common second third >>= TypeName.common first).result) ∧
    (∀ type : Option TypeRef,
      TypeName.common none type = pure type ∧ TypeName.common type none = pure type) ∧
    ∀ left right : Option TypeRef,
      (TypeName.common left right).result ≠ (TypeName.common right left).result ↔
        ∃ first second, left = some first ∧ right = some second ∧ first ≠ second ∧
          (first ≠ .named "" ∧ ¬TypeName.Classed TypeName.dominance first) ∧
          (second ≠ .named "" ∧ ¬TypeName.Classed TypeName.dominance second) := by
  refine ⟨fun scope typeOf expr operands whole known => ⟨?_, ?_⟩, fun first second third => ?_,
    fun type => ⟨rfl, ?_⟩, fun left right => ?_⟩
  · exact ⟨_, result_exprType_of_arithmeticOver whole known, TypeName.result_foldlM_common _ _⟩
  · intro other others otherWhole otherKnown sameTypes
    rw [result_exprType_of_arithmeticOver whole known,
      result_exprType_of_arithmeticOver otherWhole otherKnown, sameTypes]
  · simp only [Logged.result_bind, TypeName.result_common, Except.bind]
    exact congrArg Except.ok (Std.Associative.assoc first second third)
  · cases type <;> rfl
  · rw [TypeName.result_common, TypeName.result_common, ← TypeName.heavier_ne_swap_iff]
    exact not_congr ⟨Except.ok.inj, congrArg Except.ok⟩

/-! A number without sign, one with a sign, and bits of which no type is known. -/

def unsignedOperand : Expr := .literal ⟨1, none, none⟩ (.integer .decimal "7" (some "UINT"))

def signedOperand : Expr := .literal ⟨2, none, none⟩ (.integer .decimal "3" (some "DINT"))

def untypedOperand : Expr := .literal ⟨3, none, none⟩ (.bits .hexadecimal "F" none)

/-- `(UINT#7 - DINT#3) * 16#F` -/
def groupedLeft : Expr :=
  .binary ⟨4, none, none⟩
    (.paren ⟨5, none, none⟩ (.binary ⟨6, none, none⟩ unsignedOperand "-" signedOperand))
    "*" untypedOperand

/-- `UINT#7 / -(DINT#3 + 16#F)` -/
def groupedRight : Expr :=
  .binary ⟨7, none, none⟩ unsignedOperand "/"
    (.unary ⟨8, none, none⟩ "-"
      (.paren ⟨9, none, none⟩ (.binary ⟨10, none, none⟩ signedOperand "+" untypedOperand)))

/-- The type that a literal is given by its form. -/
def literalTypeOf : Expr → Option TypeRef
  | .literal _ value => (literalType? value).map .named
  | _ => none

def bareScope : Scope where
  code := {}
  settings := {}
  layers := []

theorem unsigned_dominates_either_grouping :
    ArithmeticOver groupedLeft [unsignedOperand, signedOperand, untypedOperand] ∧
    ArithmeticOver groupedRight [unsignedOperand, signedOperand, untypedOperand] ∧
    (bareScope.exprType groupedLeft).result = .ok (some (.named "UINT")) ∧
    (bareScope.exprType groupedRight).result = .ok (some (.named "UINT")) ∧
    (TypeName.common (some (.named "WORD")) (some (.named "BYTE"))).result ≠
      (TypeName.common (some (.named "BYTE")) (some (.named "WORD"))).result := by
  have left : ArithmeticOver groupedLeft ([unsignedOperand, signedOperand] ++ [untypedOperand]) :=
    .binary (by decide) (.paren (.binary (by decide) (.operand _) (.operand _))) (.operand _)
  have right : ArithmeticOver groupedRight
      ([unsignedOperand] ++ ([signedOperand] ++ [untypedOperand])) :=
    .binary (by decide) (.operand _)
      (.sign (.inr rfl) (.paren (.binary (by decide) (.operand _) (.operand _))))
  have known : ∀ operand ∈ [unsignedOperand, signedOperand, untypedOperand],
      (bareScope.exprType operand).result = .ok (literalTypeOf operand) := by
    simp only [List.forall_mem_cons]
    exact ⟨rfl, rfl, rfl, nofun⟩
  obtain ⟨law, _, _, swap⟩ := arithmetic_type_ignores_grouping
  obtain ⟨⟨type, isType, folded⟩, same⟩ := law bareScope literalTypeOf groupedLeft _ left known
  obtain rfl : type = some (.named "UINT") := Except.ok.inj (folded.symm.trans rfl)
  refine ⟨left, right, isType, (same groupedRight _ right known rfl).trans isType,
    (swap _ _).mpr ?_⟩
  have unclassed {name : String} (light : TypeName.weightIn TypeName.dominance (.named name) ≤ 2) :
      ¬TypeName.Classed TypeName.dominance (.named name) := TypeName.weightIn_le_two_iff.mp light
  exact ⟨.named "WORD", .named "BYTE", rfl, rfl, by decide, ⟨by decide, unclassed (by decide)⟩,
    by decide, unclassed (by decide)⟩

end Scope

end PlcLint
