import Mathlib
import SparqlBag.Proofs.Sort.Success
import SparqlBag.Proofs.Sort.Naturality
import SparqlBag.Proofs.Expr.Aggregation

/-!
# The median of exact numbers

`agg:median` sorts the numbers of a group with the stable sort and takes the
middle one, or the mean of the two middle ones.  For integers and decimals
everything is determined by their values in units of `10⁻¹⁸`: they compare by
these, so the sort answers in ascending order (`sort_exact`), and the mean is their
checked sum, a 64-bit word for two integers and a 128-bit scaled decimal otherwise,
halved with truncation toward zero (`Decimal.div_ofInt_two`, `mean_of_isExact`),
or an error when the sum overflows (`median_over_exact_group`).
-/

namespace SparqlBag

namespace Numeric

/-- Whether a number is exact: an integer or a decimal. -/
def isExact : Numeric → Bool
  | .integer _ | .decimal _ => true
  | .float _ | .double _ => false

/-- The value of an exact number in units of `10⁻¹⁸`: the decimal an integer is
promoted to, or the decimal itself. -/
def exactScaled : Numeric → Int
  | .integer i => (Decimal.ofInt i).scaled
  | .decimal d => d.scaled
  | .float _ | .double _ => 0

theorem compare_mul_pos (x y : Int) {k : Int} (hk : 0 < k) : compare (x * k) (y * k) = compare x y := by
  rcases lt_trichotomy x y with h | rfl | h
  · rw [compare_lt_iff_lt.2 h, compare_lt_iff_lt.2 (Int.mul_lt_mul_of_pos_right h hk)]
  · rw [compare_eq_iff_eq.2 rfl, compare_eq_iff_eq.2 rfl]
  · rw [compare_gt_iff_gt.2 h, compare_gt_iff_gt.2 (Int.mul_lt_mul_of_pos_right h hk)]

/-- **Exact numbers compare by their values**: an integer and a decimal after
promotion, two integers by themselves, which scaling keeps. -/
theorem partialCompare_of_isExact {a b : Numeric} (ha : a.isExact = true) (hb : b.isExact = true) :
    a.partialCompare b = some (compare a.exactScaled b.exactScaled) := by
  cases a with
  | integer i =>
    cases b with
    | integer j =>
      simp only [partialCompare, promote, exactScaled, Decimal.ofInt]
      rw [compare_mul_pos i j (by decide)]
    | decimal d => rfl
    | float _ | double _ => simp [isExact] at hb
  | decimal d =>
    cases b with
    | integer j | decimal e => rfl
    | float _ | double _ => simp [isExact] at hb
  | float _ | double _ => simp [isExact] at ha

/-- The order the median sorts by. -/
theorem medianLess_of_isExact {a b : Numeric} (ha : a.isExact = true) (hb : b.isExact = true) :
    (a.partialCompare b == some .lt) = decide (a.exactScaled < b.exactScaled) := by
  rw [partialCompare_of_isExact ha hb]
  by_cases h : a.exactScaled < b.exactScaled
  · simp [h, compare_lt_iff_lt]
  · simp [h, compare_lt_iff_lt.not]

end Numeric

/-- A number the median reads exactly. -/
abbrev ExactNumber := {x : Numeric // x.isExact = true}

instance : Inhabited ExactNumber := ⟨⟨.integer 0, rfl⟩⟩

namespace StableSort

/-- Comparing by an integer key is a strict weak order. -/
theorem strictWeakOrder_of_key {β : Type} (key : β → Int) :
    StrictWeakOrder (fun a b => decide (key a < key b)) where
  irrefl a := by simp
  trans hab hbc := by simp only [decide_eq_true_eq] at *; omega
  not_less_trans hba hcb := by simp only [decide_eq_false_iff_not] at *; omega

end StableSort

/-- **The sort of exact numbers answers**, with a permutation of them in
ascending order: on exact numbers the order is a strict weak order, so the
sort run on them as a subtype answers, and the sort commutes with forgetting
the subtype. -/
theorem sort_exact (bytes : Nat) (xs : List Numeric) (hxs : ∀ x ∈ xs, x.isExact = true) :
    ∃ ys, StableSort.sort bytes (fun a b => a.partialCompare b == some .lt) xs = some ys ∧
      ys.Perm xs ∧ (ys.map Numeric.exactScaled).Pairwise (· ≤ ·) := by
  let xs' : List ExactNumber := xs.pmap Subtype.mk hxs
  have hmap : xs'.map Subtype.val = xs := by simp [xs', List.map_pmap]
  have hless : (fun a b : ExactNumber => a.1.partialCompare b.1 == some .lt) =
      fun a b => decide (a.1.exactScaled < b.1.exactScaled) := by
    funext a b
    exact Numeric.medianLess_of_isExact a.2 b.2
  have hw := StableSort.strictWeakOrder_of_key fun a : ExactNumber => a.1.exactScaled
  rw [← hless] at hw
  obtain ⟨ys', hys'⟩ := StableSort.sort_isSome hw bytes xs'
  refine ⟨ys'.map Subtype.val, ?_, ?_, ?_⟩
  · rw [← hmap, StableSort.sort_map Subtype.val rfl, hys', Option.map_some]
  · rw [← hmap]
    exact (StableSort.sort_perm bytes _ hys').map Subtype.val
  · -- Sorted by the order means no later key is below an earlier one.
    have hsorted := StableSort.sort_sorted hw bytes hys'
    rw [hless] at hsorted
    simp only [List.pairwise_map]
    exact hsorted.imp fun hab => by
      simp only [StableSort.Before, decide_eq_false_iff_not, not_lt] at hab
      exact hab

/-! ## Halving a decimal -/

theorem int128Min_eq : int128Min = -170141183460469231731687303715884105728 := rfl
theorem int128Max_eq : int128Max = 170141183460469231731687303715884105727 := rfl
theorem int64Min_eq : int64Min = -9223372036854775808 := rfl
theorem int64Max_eq : int64Max = 9223372036854775807 := rfl

theorem fit128_of_mem {x : Int} (hlo : int128Min ≤ x) (hhi : x ≤ int128Max) : fit128 x = some x :=
  if_pos ⟨hlo, hhi⟩

theorem fit64_of_mem {x : Int} (hlo : int64Min ≤ x) (hhi : x ≤ int64Max) : fit64 x = some x :=
  if_pos ⟨hlo, hhi⟩

/-- Halving truncates toward zero, so it stays between the number and zero. -/
theorem tdiv_two_between (y : Int) : min y 0 ≤ y.tdiv 2 ∧ y.tdiv 2 ≤ max y 0 := by
  by_cases hy : 0 ≤ y
  · rw [Int.tdiv_eq_ediv_of_nonneg hy]
    omega
  · have hneg : y.tdiv 2 = -((-y).tdiv 2) := by rw [Int.neg_tdiv, neg_neg]
    rw [hneg, Int.tdiv_eq_ediv_of_nonneg (by omega)]
    omega

/-- Truncating twice, first after scaling up by `m` and then dividing by `m`,
is truncating once. -/
theorem tdiv_tdiv_of_mul (x : Int) {m d : Int} (hm : 0 < m) (hd : 0 ≤ d) :
    ((x * m).tdiv d).tdiv m = x.tdiv d := by
  -- Both sides are odd in `x`, so the nonnegative case is enough.
  have hnonneg : ∀ y : Int, 0 ≤ y → ((y * m).tdiv d).tdiv m = y.tdiv d := by
    intro y hy
    have hym : 0 ≤ y * m := Int.mul_nonneg hy hm.le
    rw [Int.tdiv_eq_ediv_of_nonneg hym, Int.tdiv_eq_ediv_of_nonneg (Int.ediv_nonneg hym hd),
      Int.tdiv_eq_ediv_of_nonneg hy, Int.ediv_ediv_of_nonneg hd, Int.mul_comm y m, Int.mul_comm d m,
      Int.mul_ediv_mul_of_pos _ _ hm]
  by_cases hx : 0 ≤ x
  · exact hnonneg x hx
  · have h := hnonneg (-x) (by omega)
    rw [Int.neg_mul, Int.neg_tdiv, Int.neg_tdiv, Int.neg_tdiv] at h
    exact neg_inj.1 h

namespace Decimal

/-- Shifting in decimal places multiplies by a power of ten, and a shift by at
least one place stays inside the 128-bit word. -/
theorem shiftTensIn_spec (x : Int) (fuel : Nat) :
    ∃ k, shiftTensIn x fuel = (x * Int.pow 10 k, k) ∧
      (k = 0 ∨ x ≠ 0 ∧ int128Min ≤ x * Int.pow 10 k ∧ x * Int.pow 10 k ≤ int128Max) := by
  induction fuel generalizing x with
  | zero => exact ⟨0, by simp [shiftTensIn, Int.pow], Or.inl rfl⟩
  | succ fuel ih =>
    by_cases hshift : (x != 0) = true ∧ int128Min ≤ x * 10 ∧ x * 10 ≤ int128Max
    · obtain ⟨k, hk, hfits⟩ := ih (x * 10)
      have hpow : x * 10 * Int.pow 10 k = x * Int.pow 10 (k + 1) := by
        show x * 10 * 10 ^ k = x * 10 ^ (k + 1)
        ring
      refine ⟨k + 1, ?_, Or.inr ⟨bne_iff_ne.1 hshift.1, ?_⟩⟩
      · rw [shiftTensIn, if_pos hshift, hk, hpow]
      · rcases hfits with rfl | ⟨-, hlo, hhi⟩
        · simpa [Int.pow] using hshift.2
        · rw [← hpow]
          exact ⟨hlo, hhi⟩
    · exact ⟨0, by rw [shiftTensIn, if_neg hshift]; simp [Int.pow], Or.inl rfl⟩

theorem pow_ten_le_int128Max {x : Int} {k : Nat} (hfits : k = 0 ∨ x ≠ 0 ∧ int128Min ≤ x * Int.pow 10 k ∧
    x * Int.pow 10 k ≤ int128Max) : Int.pow 10 k ≤ int128Max := by
  rcases hfits with rfl | ⟨hx, hlo, hhi⟩
  · decide
  · -- `10 ^ k ≤ |x| 10 ^ k ≤ 2 ^ 127` leaves at most 38 places.
    have hpos : (0 : Int) < 10 ^ k := by positivity
    have habs : (10 : Int) ^ k ≤ |x * 10 ^ k| := by
      rw [abs_mul, abs_of_pos hpos]
      exact le_mul_of_one_le_left hpos.le (Int.one_le_abs hx)
    have hk : k ≤ 38 := by
      by_contra hk
      have h39 : (10 : Int) ^ 39 ≤ 10 ^ k := pow_le_pow_right₀ (by norm_num) (by omega)
      have hbound : |x * 10 ^ k| ≤ 170141183460469231731687303715884105728 := by
        rw [int128Min_eq, int128Max_eq] at *
        exact abs_le.2 ⟨by simpa using hlo, by simpa using hhi.trans (by norm_num)⟩
      norm_num at h39
      omega
    calc Int.pow 10 k = 10 ^ k := rfl
      _ ≤ 10 ^ 38 := pow_le_pow_right₀ (by norm_num) hk
      _ ≤ int128Max := by rw [int128Max_eq]; norm_num

/-- **Halving a decimal truncates its scaled value toward zero**: the dividend
is shifted left by `k` places, the divisor `2` loses its eighteen zeros, and
shifting the quotient back by `k` places truncates once more to the same
value. -/
theorem div_ofInt_two (d : Decimal) (hlo : int128Min ≤ d.scaled) (hhi : d.scaled ≤ int128Max) :
    d.div (ofInt 2) = some ⟨d.scaled.tdiv 2⟩ := by
  obtain ⟨k, hk, hfits⟩ := shiftTensIn_spec d.scaled 40
  have hstrip : stripTens (ofInt 2).scaled 40 = (2, 18) := by decide
  have hpos : 0 < Int.pow 10 k := by
    show (0 : Int) < 10 ^ k
    positivity
  have hshifted : int128Min ≤ d.scaled * Int.pow 10 k ∧ d.scaled * Int.pow 10 k ≤ int128Max := by
    rcases hfits with rfl | ⟨-, h⟩
    · simpa [Int.pow] using And.intro hlo hhi
    · exact h
  have hquotient := tdiv_two_between (d.scaled * Int.pow 10 k)
  have hmin : int128Min ≤ 0 := by decide
  have hmax : 0 ≤ int128Max := by decide
  have hquotient' : int128Min ≤ (d.scaled * Int.pow 10 k).tdiv 2 ∧
      (d.scaled * Int.pow 10 k).tdiv 2 ≤ int128Max := by
    omega
  have hne : ¬(ofInt 2).scaled = 0 := by decide
  have hshift : ¬k + 18 < decimalPlaces := by simp [decimalPlaces]
  simp only [div, hk, hstrip, if_neg hne, if_neg hshift, show k + 18 - decimalPlaces = k by simp [decimalPlaces],
    fit128_of_mem (hmin.trans hpos.le) (pow_ten_le_int128Max hfits),
    fit128_of_mem hquotient'.1 hquotient'.2]
  show some (Decimal.mk (((d.scaled * Int.pow 10 k).tdiv 2).tdiv (Int.pow 10 k))) = _
  rw [tdiv_tdiv_of_mul d.scaled hpos (by decide)]

end Decimal

/-! ## The mean of two exact numbers -/

namespace Numeric

/-- Whether the checked sum of two exact numbers overflows: two integers add
as 64-bit words, any other pair as 128-bit scaled decimals. -/
def sumOverflows (a b : Numeric) : Bool :=
  match a, b with
  | .integer i, .integer j => !(decide (int64Min ≤ i + j) && decide (i + j ≤ int64Max))
  | _, _ => !(decide (int128Min ≤ a.exactScaled + b.exactScaled) &&
      decide (a.exactScaled + b.exactScaled ≤ int128Max))

/-- The mean of two decimals: the halved sum, when the sum fits. -/
theorem mean_of_decimals (x y : Decimal) :
    ((x.add y).map decimal).bind (·.div (.integer 2)) =
      if int128Min ≤ x.scaled + y.scaled ∧ x.scaled + y.scaled ≤ int128Max then
        some (.decimal ⟨(x.scaled + y.scaled).tdiv 2⟩)
      else none := by
  by_cases hfit : int128Min ≤ x.scaled + y.scaled ∧ x.scaled + y.scaled ≤ int128Max
  · rw [if_pos hfit, Decimal.add, fit128_of_mem hfit.1 hfit.2]
    show (Decimal.div ⟨x.scaled + y.scaled⟩ (Decimal.ofInt 2)).map decimal = _
    rw [Decimal.div_ofInt_two _ hfit.1 hfit.2]
    rfl
  · rw [if_neg hfit, Decimal.add, fit128, if_neg hfit]
    rfl

theorem ite_fit128 {γ : Type} (s : Int) (x : γ) :
    (if int128Min ≤ s ∧ s ≤ int128Max then some x else none) =
      if !(decide (int128Min ≤ s) && decide (s ≤ int128Max)) then none else some x := by
  by_cases hlo : int128Min ≤ s <;> by_cases hhi : s ≤ int128Max <;> simp [hlo, hhi]

theorem ofInt_scaled (i : Int) : (Decimal.ofInt i).scaled = i * 1000000000000000000 := rfl

/-- **The mean of two exact numbers**: their checked sum halved is the decimal
whose scaled value is the sum of theirs halved toward zero, unless the sum
overflows. -/
theorem mean_of_isExact {a b : Numeric} (ha : a.isExact = true) (hb : b.isExact = true) :
    (a.add b).bind (·.div (.integer 2)) =
      if a.sumOverflows b then none else some (.decimal ⟨(a.exactScaled + b.exactScaled).tdiv 2⟩) := by
  cases a with
  | integer i =>
    cases b with
    | integer j =>
      -- Two integers: a 64-bit sum, then divided as decimals.
      by_cases hfit : int64Min ≤ i + j ∧ i + j ≤ int64Max
      · have hscaled : (Decimal.ofInt (i + j)).scaled = i * 1000000000000000000 + j * 1000000000000000000 := by
          rw [ofInt_scaled]
          ring
        have hlo : int128Min ≤ (Decimal.ofInt (i + j)).scaled := by
          rw [hscaled, int128Min_eq]
          rw [int64Min_eq] at hfit
          omega
        have hhi : (Decimal.ofInt (i + j)).scaled ≤ int128Max := by
          rw [hscaled, int128Max_eq]
          rw [int64Max_eq] at hfit
          omega
        simp only [add, promote, fit64_of_mem hfit.1 hfit.2, Option.map_some, Option.bind_some, div,
          Decimal.div_ofInt_two _ hlo hhi, sumOverflows, hfit.1, hfit.2, decide_true, Bool.and_true,
          Bool.not_true, Bool.false_eq_true, if_false, exactScaled, hscaled, ofInt_scaled]
      · have hover : sumOverflows (integer i) (integer j) = true := by
          simp only [sumOverflows, Bool.not_eq_true', Bool.and_eq_false_iff, decide_eq_false_iff_not]
          omega
        simp only [add, promote, fit64, if_neg hfit, Option.map_none, Option.bind_none, hover, if_true]
    | decimal e =>
      rw [show (integer i).add (decimal e) = ((Decimal.ofInt i).add e).map decimal from rfl, mean_of_decimals,
        ite_fit128]
      rfl
    | float _ | double _ => simp [isExact] at hb
  | decimal d =>
    cases b with
    | integer j =>
      rw [show (decimal d).add (integer j) = (d.add (Decimal.ofInt j)).map decimal from rfl, mean_of_decimals,
        ite_fit128]
      rfl
    | decimal e =>
      rw [show (decimal d).add (decimal e) = (d.add e).map decimal from rfl, mean_of_decimals,
        ite_fit128]
      rfl
    | float _ | double _ => simp [isExact] at hb
  | float _ | double _ => simp [isExact] at ha

end Numeric

/-! ## The median -/

/-- The median of exact numbers given in ascending order: `Unbound` for none;
the middle one for an odd count; for an even count the mean of the two middle
ones, the decimal whose scaled value is theirs summed and halved toward zero,
or an error when their checked sum overflows. -/
def exactMedian (ys : List Numeric) : ExprValue :=
  if ys.isEmpty then .unbound
  else if ys.length % 2 = 1 then .bound (ys.getD (ys.length / 2) default).toTerm
  else
    let a := ys.getD (ys.length / 2 - 1) default
    let b := ys.getD (ys.length / 2) default
    if a.sumOverflows b then .error
    else .bound (Numeric.decimal ⟨(a.exactScaled + b.exactScaled).tdiv 2⟩).toTerm

-- The mean of `0` and `10⁻¹⁸` truncates to `0`.
example : exactMedian [.decimal ⟨0⟩, .decimal ⟨1⟩] = .bound (Numeric.decimal ⟨0⟩).toTerm := rfl

theorem getElem?_eq_getD {ys : List Numeric} {i : Nat} (hi : i < ys.length) :
    ys[i]? = some (ys.getD i default) := by
  rw [List.getD_eq_getElem?_getD, List.getElem?_eq_getElem hi, Option.getD_some]

/-- **The median of exact numbers** is `exactMedian` of a permutation of them
in ascending order: the sort answers, and the middle numbers are read off. -/
theorem medianOf_exact (xs : List Numeric) (hne : xs ≠ []) (hxs : ∀ x ∈ xs, x.isExact = true) :
    ∃ ys, ys.Perm xs ∧ (ys.map Numeric.exactScaled).Pairwise (· ≤ ·) ∧
      Accumulator.medianOf xs = some (exactMedian ys) := by
  obtain ⟨ys, hsort, hperm, hsorted⟩ := sort_exact 32 xs hxs
  refine ⟨ys, hperm, hsorted, ?_⟩
  have hlen : ys.length ≠ 0 := by
    rw [hperm.length_eq]
    exact fun h => hne (List.eq_nil_of_length_eq_zero h)
  have hys : ys.isEmpty = false := by
    cases ys with
    | nil => exact absurd rfl hlen
    | cons _ _ => rfl
  have hmiddle := getElem?_eq_getD (show ys.length / 2 < ys.length by omega)
  unfold Accumulator.medianOf exactMedian
  simp only [hsort, hys, Option.bind_eq_bind, Option.bind_some, Bool.false_eq_true, if_false]
  by_cases hodd : ys.length % 2 = 1
  · simp only [hodd, beq_self_eq_true, if_true, hmiddle, Option.map_some]
    rfl
  · -- An even count has two middle numbers, both exact.
    have hbelow := getElem?_eq_getD (show ys.length / 2 - 1 < ys.length by omega)
    have hexact : ∀ {i}, ys[i]? = some (ys.getD i default) → (ys.getD i default).isExact = true :=
      fun h => hxs _ (hperm.subset (List.mem_of_getElem? h))
    simp only [hodd, beq_iff_eq, if_false, hbelow, hmiddle, Option.bind_some]
    rw [Numeric.mean_of_isExact (hexact hbelow) (hexact hmiddle)]
    split <;> rfl

-- The two middle numbers of 4, 1, 3, 2 are 2 and 3; their mean is the decimal 2.5.
example : Accumulator.medianOf [.integer 4, .integer 1, .integer 3, .integer 2] =
    some (.bound (Numeric.decimal ⟨2500000000000000000⟩).toTerm) := rfl

/-- A value the median reads as an exact number, or no value. -/
def ExprValue.IsExactOrUnbound (w : ExprValue) : Prop :=
  w = .unbound ∨ ∃ t x, w = .bound t ∧ numericArg t = some x ∧ x.isExact = true

namespace Accumulator

theorem foldl_median (vs : List ExprValue) (hvs : ∀ w ∈ vs, w.IsExactOrUnbound) :
    vs.foldl update (.median (some [])) = .median (some ((boundTerms vs).filterMap numericArg)) := by
  refine foldl_update_induction (R := fun ws acc => (∀ w ∈ ws, w.IsExactOrUnbound) →
    acc = .median (some ((boundTerms ws).filterMap numericArg))) ?_ (fun _ => rfl) vs hvs
  intro ws acc v hR hall
  rw [hR fun w hw => hall w (List.mem_append_left _ hw)]
  rcases hall v (List.mem_append_right _ (List.mem_singleton_self v)) with rfl | ⟨t, x, rfl, hx, -⟩
  · simp [update]
  · simp [update, hx]

end Accumulator

theorem isExact_of_mem_numbers {ws : List ExprValue} (hws : ∀ w ∈ ws, w.IsExactOrUnbound) {x : Numeric}
    (hx : x ∈ (boundTerms ws).filterMap numericArg) : x.isExact = true := by
  simp only [boundTerms, List.mem_filterMap] at hx
  obtain ⟨t, ⟨w, hw, hwt⟩, htx⟩ := hx
  rcases hws w hw with rfl | ⟨t', x', rfl, ht', hexact⟩
  · cases hwt
  · cases hwt
    rw [ht'] at htx
    cases htx
    exact hexact

/-- **The median over a group of exact numbers.**  When the expression
evaluates without failure for every solution of a group, and each of its
values (after `DISTINCT`) is unbound or an integer or decimal, then
`agg:median` does not abort: it gives `exactMedian` of the group's numbers in
ascending order — `Unbound` when there are none, the middle number for an odd
count, and for an even count the mean of the two middle numbers truncated
toward zero at eighteen decimal places, or an error when their checked sum
overflows. -/
theorem median_over_exact_group (ctx : CallContext) (vars : List Variable) (scopes : List Scope)
    (e : Expression) (distinct : Bool) (n n' : Nat) (vs : List ExprValue)
    (h : (scopes.mapM (e.eval ctx)).run n = .ok (vs, n'))
    (hexact : ∀ w ∈ (if distinct then dedupe vs else vs), w.IsExactOrUnbound) :
    ∃ ys, ys.Perm ((boundTerms (if distinct then dedupe vs else vs)).filterMap numericArg) ∧
      (ys.map Numeric.exactScaled).Pairwise (· ≤ ·) ∧
      (Aggregate.apply ctx vars scopes (.call (.custom (aggregateNs ++ "median")) e distinct)).run' n =
        .ok (exactMedian ys) := by
  rw [Aggregate.apply_call_run' h _ distinct
    (show Accumulator.ofFunction (.custom (aggregateNs ++ "median")) = .ok (.median (some [])) from rfl) rfl,
    Accumulator.foldl_median _ hexact]
  have hnumbers := fun x => isExact_of_mem_numbers hexact (x := x)
  generalize (boundTerms (if distinct then dedupe vs else vs)).filterMap numericArg = xs at hnumbers ⊢
  cases xs with
  | nil => exact ⟨[], List.Perm.refl _, List.Pairwise.nil, rfl⟩
  | cons x xs =>
    obtain ⟨ys, hperm, hsorted, hmedian⟩ := medianOf_exact (x :: xs) (List.cons_ne_nil x xs) hnumbers
    refine ⟨ys, hperm, hsorted, ?_⟩
    simp only [Accumulator.finish, hmedian]
    rfl

/-- Solutions of `?x`: the integers 1 and 4, none, and 2; the median is taken
over the numbers in ascending order. -/
theorem median_of_one_four_none_two :
    let scope (v : Option Term) := Scope.withoutDataset ⟨[⟨"x"⟩], [v]⟩
    let number (i : Int) : ExprValue := .bound (.literal (integerLiteral i))
    let vs := [number 1, number 4, .unbound, number 2]
    let scopes := [scope (some (.literal (integerLiteral 1))), scope (some (.literal (integerLiteral 4))),
      scope none, scope (some (.literal (integerLiteral 2)))]
    (scopes.mapM ((Expression.var ⟨"x"⟩).eval {})).run 0 = .ok (vs, 0) ∧
      (∀ w ∈ vs, w.IsExactOrUnbound) ∧
      ∃ ys, ys.Perm ((boundTerms vs).filterMap numericArg) ∧ (ys.map Numeric.exactScaled).Pairwise (· ≤ ·) ∧
        (Aggregate.apply {} [] scopes (.call (.custom (aggregateNs ++ "median")) (.var ⟨"x"⟩) false)).run' 0 =
          .ok (exactMedian ys) := by
  intro scope number vs scopes
  have hexact : ∀ w ∈ vs, w.IsExactOrUnbound := by
    intro w hw
    simp only [vs, number, List.mem_cons, List.not_mem_nil, or_false] at hw
    rcases hw with rfl | rfl | rfl | rfl
    · exact Or.inr ⟨_, .integer 1, rfl, rfl, rfl⟩
    · exact Or.inr ⟨_, .integer 4, rfl, rfl, rfl⟩
    · exact Or.inl rfl
    · exact Or.inr ⟨_, .integer 2, rfl, rfl, rfl⟩
  exact ⟨rfl, hexact, median_over_exact_group {} [] scopes (.var ⟨"x"⟩) false 0 0 vs rfl hexact⟩

/-- Two solutions of `?x`, both the integer `2⁶²`: their sum leaves the 64-bit
word, so the median is an error, not their mean `2⁶²`. -/
theorem median_of_two_large_integers :
    let scope := Scope.withoutDataset ⟨[⟨"x"⟩], [some (.literal (integerLiteral 4611686018427387904))]⟩
    (Aggregate.apply {} [] [scope, scope] (.call (.custom (aggregateNs ++ "median")) (.var ⟨"x"⟩) false)).run' 0 =
      .ok .error := by
  rfl

end SparqlBag
