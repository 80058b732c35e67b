import Mathlib.Tactic.SplitIfs
import SparqlBag.Term.Order

/-!
# The laws of the order of terms

`compareTerms` orders two literals by their values when these compare and
differ, and lexically otherwise.  The lexical order `fastCompareTerms` is total:
it compares five parts of a key in turn (`fastCompareTerms_eq_compareKeys`).  The
value comparison is antisymmetric wherever it decides, so `compareTerms` is
antisymmetric and tells distinct terms apart (`compareTerms_swap`,
`compareTerms_eq_iff`).  It is transitive where no value decides
(`compareTerms_lt_trans`), but not in general: two integers ordered by value and a
literal of another datatype ordered lexically can make a cycle
(`compareTerms_not_transitive`).
-/

namespace SparqlBag

open Std

/-! ## Values -/

namespace BinaryFormat

theorem compareBits_swap (f : BinaryFormat) (x y : Nat) :
    f.compareBits y x = (f.compareBits x y).map Ordering.swap := by
  unfold compareBits
  cases f.orderKey x <;> cases f.orderKey y
  all_goals first | rfl | exact congrArg some OrientedOrd.eq_swap

end BinaryFormat

namespace Numeric

/-- A promoted pair in the other order. -/
def Pair.swap : Pair → Pair
  | .integer a b => .integer b a
  | .decimal a b => .decimal b a
  | .float a b => .float b a
  | .double a b => .double b a

theorem promote_swap (a b : Numeric) : promote b a = (promote a b).swap := by
  cases a <;> cases b <;> rfl

theorem partialCompare_swap (a b : Numeric) :
    partialCompare b a = (partialCompare a b).map Ordering.swap := by
  unfold partialCompare
  rw [promote_swap]
  cases promote a b with
  | integer x y => exact congrArg some OrientedOrd.eq_swap
  | decimal x y => exact congrArg some OrientedOrd.eq_swap
  | float x y => exact BinaryFormat.compareBits_swap _ _ _
  | double x y => exact BinaryFormat.compareBits_swap _ _ _

end Numeric

/-- Comparing against both ends of a window gives the same answer with the
arguments swapped, swapped. -/
theorem window_swap (u l : Ordering) :
    (if u.swap == l.swap then some u.swap else none) =
      (if u == l then some u else none).map Ordering.swap := by
  cases u <;> cases l <;> rfl

/-- The order of date-times is antisymmetric, also when only one of the two
has a time zone and the other is placed in a window of fourteen hours. -/
theorem DateTime.partialCompare_swap (a b : DateTime) :
    b.partialCompare a = (a.partialCompare b).map Ordering.swap := by
  unfold DateTime.partialCompare
  rcases ha : a.offset with _ | oa <;> rcases hb : b.offset with _ | ob
  · exact congrArg some OrientedOrd.eq_swap
  · -- Only `b` has a time zone: both sides place `b` in the window around `a`.
    simp only
    cases a.instant.add (Decimal.ofInt (14 * 3600)) <;>
      cases a.instant.sub (Decimal.ofInt (14 * 3600)) <;> try rfl
    rename_i hi lo
    have e₁ : compare hi.scaled b.instant.scaled = (compare b.instant.scaled hi.scaled).swap :=
      OrientedOrd.eq_swap
    have e₂ : compare lo.scaled b.instant.scaled = (compare b.instant.scaled lo.scaled).swap :=
      OrientedOrd.eq_swap
    simp only [e₁, e₂]
    simpa only [Ordering.swap_swap] using window_swap (compare b.instant.scaled hi.scaled).swap
      (compare b.instant.scaled lo.scaled).swap
  · -- Only `a` has a time zone: both sides place `a` in the window around `b`.
    simp only
    cases b.instant.add (Decimal.ofInt (14 * 3600)) <;>
      cases b.instant.sub (Decimal.ofInt (14 * 3600)) <;> try rfl
    rename_i hi lo
    have e₁ : compare hi.scaled a.instant.scaled = (compare a.instant.scaled hi.scaled).swap :=
      OrientedOrd.eq_swap
    have e₂ : compare lo.scaled a.instant.scaled = (compare a.instant.scaled lo.scaled).swap :=
      OrientedOrd.eq_swap
    simp only [e₁, e₂]
    exact window_swap _ _
  · exact congrArg some OrientedOrd.eq_swap

theorem compare_boolean_swap (x y : Option Bool) :
    (match y, x with
      | some p, some q => some (compare p q)
      | _, _ => none) =
    (match x, y with
      | some p, some q => some (compare p q)
      | _, _ => none).map Ordering.swap := by
  cases x <;> cases y <;> first | rfl | exact congrArg some OrientedOrd.eq_swap

theorem compare_dateTime_swap (x y : Option DateTime) :
    (match y, x with
      | some p, some q => p.partialCompare q
      | _, _ => none) =
    (match x, y with
      | some p, some q => p.partialCompare q
      | _, _ => none).map Ordering.swap := by
  cases x <;> cases y <;> first | rfl | exact DateTime.partialCompare_swap _ _

/-- **The value comparison of literals is antisymmetric.** -/
theorem partialCompareLiteralValues_swap (a b : Literal) :
    partialCompareLiteralValues b a = (partialCompareLiteralValues a b).map Ordering.swap := by
  unfold partialCompareLiteralValues
  cases hna : Numeric.ofLiteral a <;> cases hnb : Numeric.ofLiteral b
  rotate_left 3
  · exact Numeric.partialCompare_swap _ _
  -- Not two numbers: the other kinds of value ask the same of both literals.
  all_goals
    have hl : (b.language == a.language) = (a.language == b.language) := Bool.beq_comm
    simp only [Bool.and_comm (b.datatype == _), hl]
    split_ifs
    all_goals first
      | rfl
      | exact congrArg some OrientedOrd.eq_swap
      | exact compare_boolean_swap _ _
      | exact compare_dateTime_swap _ _

/-! ## The lexical order -/

theorem compareOption_eq {α : Type} [Ord α] (a b : Option α) :
    compareOption compare a b = compare a b := by
  cases a <;> cases b <;> rfl

/-- The rank of the kind of a literal; zero for the other terms. -/
def literalRank : Option Term → Nat
  | some (.literal l) => l.kindRank
  | _ => 0

/-- The text a term is ordered by: a blank node's label, an IRI, a literal's
lexical form. -/
def orderText : Option Term → String
  | some (.blank x) => x
  | some (.iri x) => x
  | some (.literal l) => l.value
  | none => ""

/-- The language a term is ordered by: a literal's language tag, if any. -/
def orderLanguage : Option Term → Option String
  | some (.literal l) => l.language
  | _ => none

/-- The datatype a term is ordered by: a literal's datatype. -/
def orderDatatype : Option Term → String
  | some (.literal l) => l.datatype
  | _ => ""

/-- The lexical order of terms: five keys compared one after the other. -/
def compareKeys : Option Term → Option Term → Ordering :=
  compareLex (compareOn termKindRank) <| compareLex (compareOn literalRank) <|
    compareLex (compareOn orderText) <| compareLex (compareOn orderLanguage) (compareOn orderDatatype)

instance : TransCmp compareKeys :=
  inferInstanceAs (TransCmp (compareLex (compareOn termKindRank) <|
    compareLex (compareOn literalRank) <| compareLex (compareOn orderText) <|
      compareLex (compareOn orderLanguage) (compareOn orderDatatype)))

/-- The five keys determine the term. -/
theorem eq_of_keys {a b : Option Term} (h₁ : termKindRank a = termKindRank b)
    (h₂ : literalRank a = literalRank b) (h₃ : orderText a = orderText b)
    (h₄ : orderLanguage a = orderLanguage b) (h₅ : orderDatatype a = orderDatatype b) : a = b := by
  rcases a with _ | (x | x | (x | ⟨x, l⟩ | ⟨x, d⟩)) <;>
    rcases b with _ | (y | y | (y | ⟨y, l'⟩ | ⟨y, d'⟩)) <;>
    simp_all [termKindRank, literalRank, orderText, orderLanguage, orderDatatype, Literal.kindRank,
      Literal.value, Literal.language, Literal.datatype]

instance : LawfulEqCmp compareKeys where
  eq_of_compare {a b} h := by
    simp only [compareKeys, compareLex_eq_eq, compareOn] at h
    obtain ⟨h₁, h₂, h₃, h₄, h₅⟩ := h
    exact eq_of_keys (LawfulEqOrd.eq_of_compare h₁) (LawfulEqOrd.eq_of_compare h₂)
      (LawfulEqOrd.eq_of_compare h₃) (LawfulEqOrd.eq_of_compare h₄) (LawfulEqOrd.eq_of_compare h₅)

/-- **Comparing literals lexically compares their keys**, and so does comparing
any other two terms. -/
theorem fastCompareTerms_eq_compareKeys (a b : Option Term) :
    fastCompareTerms a b = compareKeys a b := by
  rcases a with _ | (x | x | l) <;> rcases b with _ | (y | y | l') <;>
    simp [Nat.compare_eq_ite_lt, fastCompareTerms, compareTerms, compareNonLiterals,
      compareLiteralsLexically, compareKeys, compareLex, compareOn, termKindRank, literalRank,
      orderText, orderLanguage, orderDatatype, compareOption_eq]

/-! ## Values and the lexical order together -/

/-- How the values of two terms order them: only for two literals, and only
when their values compare and differ. -/
def valueOrder : Option Term → Option Term → Option Ordering
  | some (.literal x), some (.literal y) =>
    match partialCompareLiteralValues x y with
    | some .lt => some .lt
    | some .gt => some .gt
    | _ => none
  | _, _ => none

/-- Two terms are in the order of their values when these decide it, and in
the lexical order otherwise. -/
theorem compareTerms_eq_valueOrder (a b : Option Term) :
    compareTerms a b = (valueOrder a b).getD (compareKeys a b) := by
  rw [← fastCompareTerms_eq_compareKeys]
  rcases a with _ | (x | x | x) <;> rcases b with _ | (y | y | y) <;> try rfl
  simp only [compareTerms, valueOrder, fastCompareTerms]
  rcases partialCompareLiteralValues x y with _ | (_ | _ | _) <;> rfl

theorem valueOrder_swap (a b : Option Term) :
    valueOrder b a = (valueOrder a b).map Ordering.swap := by
  rcases a with _ | (x | x | x) <;> rcases b with _ | (y | y | y) <;> try rfl
  simp only [valueOrder, partialCompareLiteralValues_swap x y]
  rcases partialCompareLiteralValues x y with _ | (_ | _ | _) <;> rfl

theorem valueOrder_ne_eq (a b : Option Term) : valueOrder a b ≠ some .eq := by
  rcases a with _ | (x | x | x) <;> rcases b with _ | (y | y | y) <;> simp only [valueOrder] <;>
    try simp
  rcases partialCompareLiteralValues x y with _ | (_ | _ | _) <;> simp

/-- A term is never ordered against itself by value. -/
theorem valueOrder_self (a : Option Term) : valueOrder a a = none := by
  cases h : valueOrder a a with
  | none => rfl
  | some o =>
    have hs := valueOrder_swap a a
    rw [h, Option.map_some, Option.some.injEq] at hs
    exact absurd (h.trans (congrArg some (Ordering.eq_swap_iff_eq_eq.1 hs))) (valueOrder_ne_eq a a)

/-! ## The laws -/

/-- **The order of terms is antisymmetric**: the values and the keys both are. -/
theorem compareTerms_swap (a b : Option Term) : compareTerms a b = (compareTerms b a).swap := by
  have hk : compareKeys a b = (compareKeys b a).swap := OrientedCmp.eq_swap
  rw [compareTerms_eq_valueOrder, compareTerms_eq_valueOrder, valueOrder_swap b a, hk]
  cases valueOrder b a <;> rfl

/-- **The order of terms gives `.eq` exactly for identical terms.** -/
theorem compareTerms_eq_iff (a b : Option Term) : compareTerms a b = .eq ↔ a = b := by
  constructor
  · -- A value never decides `.eq`, so the keys are equal.
    intro h
    rw [compareTerms_eq_valueOrder] at h
    cases hv : valueOrder a b with
    | none =>
      rw [hv, Option.getD_none] at h
      exact LawfulEqCmp.eq_of_compare h
    | some o =>
      rw [hv, Option.getD_some] at h
      exact absurd (hv.trans (congrArg some h)) (valueOrder_ne_eq a b)
  · rintro rfl
    rw [compareTerms_eq_valueOrder, valueOrder_self, Option.getD_none]
    exact ReflCmp.compare_self

/-- **The order of terms is transitive on three terms no two of which are
ordered by their values**: there it is the lexical order. -/
theorem compareTerms_lt_trans {a b c : Option Term} (hab : valueOrder a b = none)
    (hbc : valueOrder b c = none) (hac : valueOrder a c = none) (h₁ : compareTerms a b = .lt)
    (h₂ : compareTerms b c = .lt) : compareTerms a c = .lt := by
  rw [compareTerms_eq_valueOrder, hab, Option.getD_none] at h₁
  rw [compareTerms_eq_valueOrder, hbc, Option.getD_none] at h₂
  rw [compareTerms_eq_valueOrder, hac, Option.getD_none]
  exact TransCmp.lt_trans h₁ h₂

/-- **The order of terms is not transitive**: `9` is below `10` by value, `10`
is below the date written `5` lexically, and `9` is above it lexically. -/
theorem compareTerms_not_transitive :
    ¬∀ a b c, compareTerms a b = .lt → compareTerms b c = .lt → compareTerms a c = .lt := by
  intro htrans
  have hcycle := htrans (some (.literal (.typed "9" Xsd.integer)))
    (some (.literal (.typed "10" Xsd.integer))) (some (.literal (.typed "5" (xsdNs ++ "date"))))
    (by decide) (by decide)
  revert hcycle
  decide

end SparqlBag
