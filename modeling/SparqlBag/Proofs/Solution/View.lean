import Mathlib.Data.List.Nodup
import Mathlib.Data.List.Perm.Basic
import SparqlBag.Solution.Multiset

/-!
# Solutions as mappings

A solution is a row of values aligned with the bag's variables; read through
`Solution.get` it is a mapping, a partial map from variables to terms.  Mappings
join as in the SPARQL algebra: two compatible mappings to their union, two lists
as a nested loop.  Up to order this join is associative and commutative
(`Mapping.joinAll_assoc`, `Mapping.joinAll_comm`), with the empty mapping as unit.
Over variables without repetition a full row is determined by its mapping
(`Solution.eq_of_get_eq`), and `Multiset.Equiv` relates multisets that list the
same mappings in any order.
-/

namespace SparqlBag

/-- A solution seen as a partial map from variables to terms. -/
abbrev Mapping := Variable → Option Term

namespace Mapping

/-- Binds nothing. -/
def empty : Mapping := fun _ => none

/-- Two mappings agree on every variable both bind. -/
def Compatible (μ ν : Mapping) : Prop := ∀ v a b, μ v = some a → ν v = some b → a = b

/-- `μ`, completed by `ν` where `μ` leaves a variable unbound. -/
def union (μ ν : Mapping) : Mapping := fun v => (μ v).or (ν v)

open Classical in
/-- The join of two mappings: their union when they are compatible. -/
noncomputable def join? (μ ν : Mapping) : Option Mapping :=
  if Compatible μ ν then some (union μ ν) else none

/-- The join of two lists of mappings as a nested loop: each left mapping with
every right one it is compatible with, in order. -/
noncomputable def joinAll (M N : List Mapping) : List Mapping :=
  M.flatMap fun μ => N.filterMap (join? μ)

variable {μ ν ρ : Mapping}

@[simp] theorem union_apply (μ ν : Mapping) (v : Variable) : union μ ν v = (μ v).or (ν v) := rfl

theorem Compatible.symm (h : Compatible μ ν) : Compatible ν μ :=
  fun v a b ha hb => (h v b a hb ha).symm

theorem compatible_comm : Compatible μ ν ↔ Compatible ν μ := ⟨Compatible.symm, Compatible.symm⟩

theorem compatible_refl (μ : Mapping) : Compatible μ μ := fun v a b ha hb => by
  rw [ha] at hb
  exact Option.some.inj hb

@[simp] theorem compatible_empty (μ : Mapping) : Compatible empty μ := fun _ _ _ h => by cases h

theorem union_comm (h : Compatible μ ν) : union μ ν = union ν μ := by
  funext v
  cases hμ : μ v with
  | none => cases ν v <;> simp [hμ]
  | some a =>
    cases hν : ν v with
    | none => simp [hμ, hν]
    | some b => simp [hμ, hν, h v a b hμ hν]

theorem union_assoc (μ ν ρ : Mapping) : union (union μ ν) ρ = union μ (union ν ρ) := by
  funext v
  simp [Option.or_assoc]

@[simp] theorem union_empty_left (μ : Mapping) : union empty μ = μ := rfl

theorem union_self (μ : Mapping) : union μ μ = μ := by
  funext v
  rw [union_apply]
  cases μ v <;> rfl

/-- Joined with the union of two compatible mappings, a third one must agree
with each of them. -/
theorem compatible_union_left (h : Compatible μ ν) :
    Compatible (union μ ν) ρ ↔ Compatible μ ρ ∧ Compatible ν ρ := by
  constructor
  · intro hu
    refine ⟨fun v a b ha hb => hu v a b (by simp [ha]) hb, fun v a b ha hb => ?_⟩
    cases hμ : μ v with
    | none => exact hu v a b (by simp [hμ, ha]) hb
    | some c =>
      rw [← h v c a hμ ha]
      exact hu v c b (by simp [hμ]) hb
  · rintro ⟨hμ, hν⟩ v a b ha hb
    cases hμv : μ v with
    | none => exact hν v a b (by simpa [hμv] using ha) hb
    | some c =>
      simp only [union_apply, hμv, Option.some_or] at ha
      obtain rfl := Option.some.inj ha
      exact hμ v c b hμv hb

theorem join?_eq_some_iff : join? μ ν = some ρ ↔ Compatible μ ν ∧ union μ ν = ρ := by
  unfold join?
  split <;> simp_all

theorem join?_comm (μ ν : Mapping) : join? μ ν = join? ν μ := by
  unfold join?
  by_cases h : Compatible μ ν
  · rw [if_pos h, if_pos h.symm, union_comm h]
  · rw [if_neg h, if_neg (fun h' => h h'.symm)]

@[simp] theorem join?_empty (μ : Mapping) : join? empty μ = some μ := by
  simp [join?]

theorem join?_self (μ : Mapping) : join? μ μ = some μ := by
  simp [join?, compatible_refl, union_self]

open Classical in
/-- Joining three mappings either way succeeds exactly when they are pairwise
compatible, and gives their union. -/
theorem join?_bind_join? (μ ν ρ : Mapping) :
    (join? μ ν).bind (join? · ρ) =
      if Compatible μ ν ∧ Compatible μ ρ ∧ Compatible ν ρ then some (union (union μ ν) ρ)
      else none := by
  by_cases hμν : Compatible μ ν
  · have hu := compatible_union_left (ρ := ρ) hμν
    simp only [join?, if_pos hμν, Option.bind_some, hu]
    by_cases h : Compatible μ ρ ∧ Compatible ν ρ <;> simp [h, hμν]
  · simp [join?, hμν]

theorem join?_assoc (μ ν ρ : Mapping) :
    (join? μ ν).bind (join? · ρ) = (join? ν ρ).bind (join? μ ·) := by
  have hr : (join? ν ρ).bind (join? μ ·) = (join? ν ρ).bind (join? · μ) := by
    simp only [join?_comm μ]
  rw [hr, join?_bind_join?, join?_bind_join?]
  by_cases h : Compatible μ ν ∧ Compatible μ ρ ∧ Compatible ν ρ
  · obtain ⟨hμν, hμρ, hνρ⟩ := h
    rw [if_pos ⟨hμν, hμρ, hνρ⟩, if_pos ⟨hνρ, hμν.symm, hμρ.symm⟩, union_assoc,
      union_comm (μ := union ν ρ) ((compatible_union_left hνρ).2 ⟨hμν.symm, hμρ.symm⟩)]
  · rw [if_neg h, if_neg fun ⟨h₁, h₂, h₃⟩ => h ⟨h₂.symm, h₃.symm, h₁⟩]

/-- Some variable is bound in both mappings. -/
def SharesBound (μ ν : Mapping) : Prop := ∃ v, (μ v).isSome ∧ (ν v).isSome

open Classical in
/-- `μ` on the variables of `vars`, unbound elsewhere. -/
noncomputable def restrict (vars : List Variable) (μ : Mapping) : Mapping :=
  fun v => if v ∈ vars then μ v else none

/-! ## The join of lists of mappings -/

variable {M N R : List Mapping}

@[simp] theorem joinAll_nil_left (N : List Mapping) : joinAll [] N = [] := rfl

theorem joinAll_cons_left (μ : Mapping) (M N : List Mapping) :
    joinAll (μ :: M) N = N.filterMap (join? μ) ++ joinAll M N := rfl

theorem joinAll_append_left (M M' N : List Mapping) :
    joinAll (M ++ M') N = joinAll M N ++ joinAll M' N := List.flatMap_append ..

@[simp] theorem joinAll_empty_left (N : List Mapping) : joinAll [empty] N = N := by
  simp [joinAll]

theorem joinAll_singleton_right (M : List Mapping) (ν : Mapping) :
    joinAll M [ν] = M.filterMap (join? · ν) := by
  induction M with
  | nil => rfl
  | cons μ M ih =>
    rw [joinAll_cons_left, ih, List.filterMap_cons, List.filterMap_cons, List.filterMap_nil]
    cases join? μ ν <;> rfl

@[simp] theorem joinAll_empty_right (M : List Mapping) : joinAll M [empty] = M := by
  rw [joinAll_singleton_right]
  simp [join?_comm _ empty]

/-- A single mapping joined with itself is itself: joining twice with the same
one-solution seed is joining once. -/
theorem joinAll_self_singleton (σ : Mapping) : joinAll [σ] [σ] = [σ] := by
  simp [joinAll, join?_self]

/-- An optional mapping joined with every mapping of a list, as a list. -/
theorem flatMap_toList_filterMap (o : Option Mapping) (R : List Mapping) :
    o.toList.flatMap (fun κ => R.filterMap (join? κ)) =
      R.filterMap fun ρ => o.bind (join? · ρ) := by
  cases o with
  | none => simp
  | some κ => simp

theorem joinAll_assoc (M N R : List Mapping) :
    joinAll (joinAll M N) R = joinAll M (joinAll N R) := by
  unfold joinAll
  rw [List.flatMap_assoc]
  congr 1
  funext μ
  rw [List.filterMap_eq_flatMap_toList, List.flatMap_assoc, List.filterMap_flatMap]
  congr 1
  funext ν
  rw [flatMap_toList_filterMap, List.filterMap_filterMap]
  congr 1
  funext ρ
  exact join?_assoc μ ν ρ

/-- A nested loop may run its loops the other way round, up to the order of its
results. -/
theorem flatMap_filterMap_perm {α β γ : Type} (xs : List α) (ys : List β) (f : α → β → Option γ) :
    (xs.flatMap fun a => ys.filterMap (f a)).Perm (ys.flatMap fun b => xs.filterMap (f · b)) := by
  induction xs with
  | nil => simp
  | cons a xs ih =>
    rw [List.flatMap_cons]
    refine (ih.append_left _).trans ?_
    rw [List.filterMap_eq_flatMap_toList]
    refine (List.flatMap_append_perm ys _ _).trans (List.Perm.flatMap_left ys fun b _ => ?_)
    simp [List.filterMap_cons]
    cases f a b <;> simp

theorem joinAll_comm (M N : List Mapping) : (joinAll M N).Perm (joinAll N M) := by
  unfold joinAll
  refine (flatMap_filterMap_perm M N join?).trans ?_
  simp only [join?_comm _ (_ : Mapping)]
  exact List.Perm.refl _

theorem joinAll_perm_left (h : M.Perm M') : (joinAll M N).Perm (joinAll M' N) :=
  h.flatMap_right _

theorem joinAll_perm_right (h : N.Perm N') : (joinAll M N).Perm (joinAll M N') :=
  List.Perm.flatMap_left M fun _ _ => h.filterMap _

theorem joinAll_perm (hM : M.Perm M') (hN : N.Perm N') : (joinAll M N).Perm (joinAll M' N') :=
  (joinAll_perm_left hM).trans (joinAll_perm_right hN)

end Mapping

/-- A variable of a list is found at its first position. -/
theorem idxOf?_eq_some_idxOf {vars : List Variable} {v : Variable} (h : v ∈ vars) :
    vars.idxOf? v = some (vars.idxOf v) :=
  List.findIdx?_eq_some_iff_findIdx_eq.2 ⟨List.idxOf_lt_length_of_mem h, rfl⟩

theorem idxOf_append_of_mem {vars extra : List Variable} {v : Variable} (h : v ∈ vars) :
    (vars ++ extra).idxOf v = vars.idxOf v := by
  rw [List.idxOf_append, if_pos h]

@[simp] theorem Row.length_fit (r : Row) (n : Nat) : (r.fit n).length = n := by
  simp only [Row.fit, List.length_append, List.length_take, List.length_replicate]
  omega

/-- In a list without repetition, an element is found at its position. -/
theorem idxOf?_of_getElem? {vars : List Variable} (hnd : vars.Nodup) {v : Variable} {j : Nat}
    (h : vars[j]? = some v) : vars.idxOf? v = some j := by
  obtain ⟨hj, hv⟩ := List.getElem?_eq_some_iff.1 h
  refine List.idxOf?_eq_some_iff.2 ⟨hj, hv, fun k hk heq => ?_⟩
  have := (hnd.getElem_inj_iff (i := k) (j := j)).1 (heq.trans hv.symm)
  omega

theorem idxOf_eq_of_idxOf?_eq_some {vars : List Variable} {v : Variable} {i : Nat}
    (h : vars.idxOf? v = some i) : vars.idxOf v = i :=
  (List.findIdx?_eq_some_iff_findIdx_eq.1 h).2

namespace Solution

@[simp] theorem get_nil (r : Row) (v : Variable) : Solution.get ⟨[], r⟩ v = none := rfl

@[simp] theorem get_nil_row (vars : List Variable) (v : Variable) :
    Solution.get ⟨vars, []⟩ v = none := by
  unfold Solution.get
  split <;> simp

theorem get_cons (w : Variable) (ws : List Variable) (x : Option Term) (r : Row) (v : Variable) :
    Solution.get ⟨w :: ws, x :: r⟩ v = if w = v then x else Solution.get ⟨ws, r⟩ v := by
  unfold Solution.get
  rw [List.idxOf?_cons]
  by_cases h : w = v
  · simp [h]
  · simp only [h, beq_iff_eq, if_false]
    cases ws.idxOf? v <;> simp

theorem get_of_not_mem {vars : List Variable} {v : Variable} (h : v ∉ vars) (r : Row) :
    Solution.get ⟨vars, r⟩ v = none := by
  unfold Solution.get
  rw [List.idxOf?_eq_none_iff.2 h]

/-- The value at the first position of a variable is its value. -/
theorem at?_idxOf {vars : List Variable} {w : Variable} (hw : w ∈ vars) (r : Row) :
    Layout.at? r (vars.idxOf w) = Solution.get ⟨vars, r⟩ w := by
  induction vars generalizing r with
  | nil => simp at hw
  | cons u us ih =>
    cases r with
    | nil => simp [Layout.at?]
    | cons x r =>
      rw [get_cons, List.idxOf_cons]
      by_cases huw : u = w
      · simp [huw, Layout.at?]
      · rw [show (u == w) = false by simpa using huw, cond_false, if_neg huw,
          ← ih (List.mem_of_ne_of_mem (Ne.symm huw) hw) r]
        simp [Layout.at?]

/-- Writing at the first position of a variable rebinds that variable only. -/
theorem get_set_idxOf {vars : List Variable} {w : Variable} (hw : w ∈ vars) {r : Row}
    (hr : r.length = vars.length) (x : Option Term) (v : Variable) :
    Solution.get ⟨vars, r.set (vars.idxOf w) x⟩ v = if w = v then x else Solution.get ⟨vars, r⟩ v := by
  induction vars generalizing r with
  | nil => simp at hw
  | cons u us ih =>
    cases r with
    | nil => simp at hr
    | cons y r =>
      rw [List.idxOf_cons]
      by_cases huw : u = w
      · subst huw
        simp only [beq_self_eq_true, cond_true, List.set_cons_zero, get_cons]
        split <;> rfl
      · simp only [show (u == w) = false by simpa using huw, cond_false, List.set_cons_succ, get_cons]
        rw [ih (List.mem_of_ne_of_mem (Ne.symm huw) hw) (by simpa using hr)]
        by_cases huv : u = v
        · subst huv
          simp [Ne.symm huw]
        · simp [huv]

/-- Unbound values for new variables at the end change no value. -/
theorem get_append_none {vars : List Variable} {r : Row} (hr : r.length = vars.length)
    (extra : List Variable) (k : Nat) (v : Variable) :
    Solution.get ⟨vars ++ extra, r ++ List.replicate k none⟩ v = Solution.get ⟨vars, r⟩ v := by
  induction vars generalizing r with
  | nil =>
    rw [List.length_eq_zero_iff.1 hr]
    induction extra generalizing k with
    | nil => rfl
    | cons u us ih =>
      cases k with
      | zero => simp
      | succ k =>
        rw [List.nil_append, List.nil_append, List.replicate_succ, get_cons]
        split
        · rfl
        · simpa using ih k
  | cons u us ih =>
    cases r with
    | nil => simp at hr
    | cons y r =>
      rw [List.cons_append, List.cons_append, get_cons, get_cons, ih (by simpa using hr)]

theorem get_of_idxOf? {vars : List Variable} {v : Variable} {i : Nat} (h : vars.idxOf? v = some i)
    (r : Row) : Solution.get ⟨vars, r⟩ v = Layout.at? r i := by
  unfold Solution.get
  rw [h]
  rfl

theorem exists_idxOf?_of_get {vars : List Variable} {r : Row} {v : Variable} {a : Term}
    (h : Solution.get ⟨vars, r⟩ v = some a) : ∃ i, vars.idxOf? v = some i ∧ Layout.at? r i = some a := by
  unfold Solution.get at h
  split at h
  · rename_i i hi
    exact ⟨i, hi, h⟩
  · cases h

theorem get_eq_bind (vars : List Variable) (r : Row) (v : Variable) :
    Solution.get ⟨vars, r⟩ v = (vars.idxOf? v).bind (Layout.at? r) := by
  unfold Solution.get
  cases vars.idxOf? v <;> rfl

/-- A row that lists a value for each variable reads as those values. -/
theorem get_map_self (vars : List Variable) (f : Variable → Option Term) (v : Variable) :
    Solution.get ⟨vars, vars.map f⟩ v = if v ∈ vars then f v else none := by
  unfold Solution.get
  split
  · rename_i k hk
    obtain ⟨hkl, hkv, -⟩ := List.idxOf?_eq_some_iff.1 hk
    rw [if_pos (hkv ▸ List.getElem_mem hkl), List.getElem?_map, List.getElem?_eq_getElem hkl, hkv]
    rfl
  · rename_i hk
    rw [if_neg (List.idxOf?_eq_none_iff.1 hk)]

/-- A variable that a mapping binds is among the variables of its row. -/
theorem mem_of_get_isSome {vars : List Variable} {r : Row} {v : Variable}
    (h : (Solution.get ⟨vars, r⟩ v).isSome) : v ∈ vars := by
  by_contra hv
  rw [get_of_not_mem hv] at h
  cases h

/-- The value of a variable is the value at its first position, if it has one. -/
theorem get_eq (vars : List Variable) (r : Row) (v : Variable) :
    Solution.get ⟨vars, r⟩ v = if v ∈ vars then Layout.at? r (vars.idxOf v) else none := by
  split
  · rename_i hv
    exact (at?_idxOf hv r).symm
  · rename_i hv
    exact get_of_not_mem hv r

/-- Variables added after those a row has values for are unbound in it. -/
theorem get_append_of_length {vars : List Variable} {r : Row} (hr : r.length = vars.length)
    (extra : List Variable) : Solution.get ⟨vars ++ extra, r⟩ = Solution.get ⟨vars, r⟩ := by
  funext v
  rw [get_eq, get_eq]
  by_cases hv : v ∈ vars
  · rw [if_pos (List.mem_append_left _ hv), if_pos hv, idxOf_append_of_mem hv]
  · rw [if_neg hv]
    split
    · rw [List.idxOf_append, if_neg hv]
      simp [Layout.at?, List.getElem?_eq_none (by omega : r.length ≤ List.idxOf v extra + vars.length)]
    · rfl

/-- Over variables without repetition, the variable at a position reads that position. -/
theorem get_getElem {vars : List Variable} (hnd : vars.Nodup) (r : Row) {i : Nat}
    (hi : i < vars.length) : Solution.get ⟨vars, r⟩ vars[i] = Layout.at? r i := by
  rw [← at?_idxOf (List.getElem_mem hi), hnd.idxOf_getElem]

theorem at?_fit (r : Row) {n i : Nat} (hi : i < n) : Layout.at? (r.fit n) i = Layout.at? r i := by
  unfold Layout.at? Row.fit
  by_cases hr : i < r.length
  · rw [List.getElem?_append_left (by simp; omega), List.getElem?_take_of_lt hi]
  · rw [List.getElem?_eq_none (by omega : r.length ≤ i), List.getElem?_append_right (by simp; omega)]
    simp only [List.getElem?_replicate]
    split <;> rfl

/-- Cutting or filling a row to the number of variables keeps its mapping. -/
@[simp] theorem get_fit (vars : List Variable) (r : Row) :
    Solution.get ⟨vars, r.fit vars.length⟩ = Solution.get ⟨vars, r⟩ := by
  funext v
  rw [get_eq, get_eq]
  split
  · exact at?_fit r (List.idxOf_lt_length_of_mem ‹_›)
  · rfl

/-- Over variables without repetition, a row with one value per variable is
determined by its mapping. -/
theorem eq_of_get_eq {vars : List Variable} (hnd : vars.Nodup) {r r' : Row}
    (hr : r.length = vars.length) (hr' : r'.length = vars.length)
    (h : Solution.get ⟨vars, r⟩ = Solution.get ⟨vars, r'⟩) : r = r' := by
  apply List.ext_getElem (hr.trans hr'.symm)
  intro i hi hi'
  have hiv : i < vars.length := hr ▸ hi
  have hv := congrFun h vars[i]
  rw [get_getElem hnd, get_getElem hnd] at hv
  simpa [Layout.at?, List.getElem?_eq_getElem hi, List.getElem?_eq_getElem hi'] using hv

end Solution

namespace Multiset

/-- The solutions as mappings, in order; the identity is the one empty mapping. -/
def mappings : Multiset → List Mapping
  | .identity => [Mapping.empty]
  | .null => []
  | .bag b => b.rows.map fun e => Solution.get ⟨b.vars, e.2⟩

/-- A bag names each variable once, and each of its rows holds one value per
variable. -/
def WF : Multiset → Prop
  | .bag b => b.vars.Nodup ∧ ∀ e ∈ b.rows, e.2.length = b.vars.length
  | _ => True

/-- Two multisets hold the same solutions: they are of the same kind, and two
bags are over the same variables, in any order, with the same mappings, in any
order. -/
def Equiv : Multiset → Multiset → Prop
  | .identity, .identity => True
  | .null, .null => True
  | .bag a, .bag b => (∀ v, v ∈ a.vars ↔ v ∈ b.vars) ∧ (mappings (.bag a)).Perm (mappings (.bag b))
  | _, _ => False

variable {m n k : Multiset}

@[simp] theorem mappings_bag (b : Bag) :
    (Multiset.bag b).mappings = b.rows.map fun e => Solution.get ⟨b.vars, e.2⟩ := rfl

theorem Equiv.refl (m : Multiset) : Equiv m m := by
  cases m <;> simp [Equiv]

theorem Equiv.symm (h : Equiv m n) : Equiv n m :=
  match m, n, h with
  | .identity, .identity, _ => trivial
  | .null, .null, _ => trivial
  | .bag _, .bag _, ⟨hv, hp⟩ => ⟨fun v => (hv v).symm, hp.symm⟩

theorem Equiv.trans (h : Equiv m n) (h' : Equiv n k) : Equiv m k :=
  match m, n, k, h, h' with
  | .identity, .identity, .identity, _, _ => trivial
  | .null, .null, .null, _, _ => trivial
  | .bag _, .bag _, .bag _, ⟨hv, hp⟩, ⟨hv', hp'⟩ => ⟨fun v => (hv v).trans (hv' v), hp.trans hp'⟩

theorem Equiv.mappings_perm (h : Equiv m n) : m.mappings.Perm n.mappings := by
  cases m <;> cases n <;> simp_all [Equiv]

theorem Equiv.mem_vars (h : Equiv m n) (v : Variable) : v ∈ m.vars ↔ v ∈ n.vars := by
  cases m <;> cases n <;> simp_all [Equiv, vars]

end Multiset

end SparqlBag
