import SparqlBag.Proofs.Solution.Buckets

/-!
# Splitting groups key by key

Chained keys of `GROUP BY` split the solutions level by level: each key splits
every group into the groups of the classes occurring in it, and a new group keeps
the assignments it inherits, the key's own replacing an earlier one.  This file
states the process as a function of the classes (`splitAll`) and what it produces
(`GroupsSpec`): a partition into groups that keep the input order, none empty
unless there are no keys, two solutions together exactly when every key gives them
one class, ordered key by key (`Precedes`), each carrying the class of the last key
assigning a variable (`groupsSpec_splitAll`).
-/

namespace SparqlBag

namespace BindingGroup

/-- **An assignment replaces the earlier one** of the same variable and keeps
the others. -/
theorem assignment_assign (g : BindingGroup) (a v : Variable) (x : Option Term) :
    (g.assign a x).assignment v = if a = v then some x else g.assignment v := by
  unfold assign assignment
  rw [List.find?_append]
  by_cases h : a = v
  · subst h
    -- The filter removed every earlier entry of the variable.
    have hnone : (g.assignments.filter (·.1 != a)).find? (·.1 == a) = none := by
      refine List.find?_eq_none.2 fun p hp => ?_
      simpa using (List.mem_filter.1 hp).2
    simp [hnone]
  · -- An entry of `v` is not one of `a`, so the filter keeps it.
    have hkeep : (g.assignments.filter (·.1 != a)).find? (·.1 == v) =
        g.assignments.find? (·.1 == v) := by
      rw [List.find?_filter]
      congr 1
      funext p
      by_cases hp : p.1 = v
      · simp [hp, Ne.symm h]
      · simp [hp]
    rw [hkeep, if_neg h]
    simp [h]

end BindingGroup

namespace GroupKey

/-- A group made by the key inside the group `g`: it holds the solutions `ids`
and keeps the assignments of `g`, the key assigning `value` to its variable. -/
def inherit (k : GroupKey) (g : BindingGroup) (ids : List Nat) (value : Option Term) :
    BindingGroup :=
  match k.assignVariable with
  | some a => { g with ids }.assign a value
  | none => { g with ids }

@[simp] theorem ids_inherit (k : GroupKey) (g : BindingGroup) (ids : List Nat)
    (value : Option Term) : (k.inherit g ids value).ids = ids := by
  unfold inherit
  split <;> rfl

theorem assignment_inherit (k : GroupKey) (g : BindingGroup) (ids : List Nat)
    (value : Option Term) (v : Variable) :
    (k.inherit g ids value).assignment v =
      if k.assignVariable = some v then some value else g.assignment v := by
  unfold inherit
  split
  · next a ha =>
    by_cases hav : a = v
    · simp [ha, hav, BindingGroup.assignment_assign]
    · simp only [BindingGroup.assignment_assign, ha, hav, if_false, Option.some.injEq]
      rfl
  · next ha => simp [ha, BindingGroup.assignment]

/-- The groups the key makes inside `g`, one per class that occurs in `g`, the
class of each solution given by `c`. -/
def children (k : GroupKey) (c : Nat → ExprValue) (g : BindingGroup) : List BindingGroup :=
  (classesIn c g.ids).map fun cl => k.inherit g (g.ids.filter (c · == cl)) cl.term?

end GroupKey

/-- Splits the groups `gs` by each key in turn, every key with the class it
gives each solution. -/
def splitAll : List (GroupKey × (Nat → ExprValue)) → List BindingGroup → List BindingGroup
  | [], gs => gs
  | (k, c) :: levels, gs => splitAll levels (gs.flatMap (k.children c))

/-- One solution's group comes before another's: at the first key that gives
them different classes, the first has the lower rank among the solutions of
the group both came from. -/
def Precedes : List (GroupKey × (Nat → ExprValue)) → List Nat → Nat → Nat → Prop
  | [], _, _, _ => False
  | (_, c) :: levels, L, x, y =>
    classRank c L (c x) < classRank c L (c y) ∨
      c x = c y ∧ Precedes levels (L.filter (c · == c x)) x y

/-- The value a group holding the solution `x` carries for `v` after the keys
`levels`, starting from `init`: the class of the last key that assigns `v`. -/
def assignedValue (levels : List (GroupKey × (Nat → ExprValue))) (x : Nat) (v : Variable)
    (init : Option (Option Term)) : Option (Option Term) :=
  levels.foldl (fun acc p => if p.1.assignVariable = some v then some (p.2 x).term? else acc) init

/-- What grouping the solutions `ids` by keys with given classes produces. -/
structure GroupsSpec (levels : List (GroupKey × (Nat → ExprValue))) (ids : List Nat)
    (groups : List BindingGroup) : Prop where
  /-- Every solution lies in exactly one group. -/
  partition : (groups.flatMap (·.ids)).Perm ids
  /-- A group lists its solutions in their order. -/
  sublist : ∀ g ∈ groups, g.ids.Sublist ids
  /-- With keys, no group is empty. -/
  ne_nil : levels ≠ [] → ∀ g ∈ groups, g.ids ≠ []
  /-- Without keys, all solutions form one group, also when there are none. -/
  single : levels = [] → groups = [⟨ids, []⟩]
  /-- Two solutions share a group exactly when every key gives them one class. -/
  together : ∀ g ∈ groups, ∀ x ∈ g.ids, ∀ y ∈ ids, y ∈ g.ids ↔ ∀ p ∈ levels, p.2 x = p.2 y
  /-- The groups come in the order of their classes, key by key. -/
  sorted : groups.Pairwise fun g₁ g₂ => ∀ x ∈ g₁.ids, ∀ y ∈ g₂.ids, Precedes levels ids x y
  /-- A group carries, for each variable, the class of the last key assigning it. -/
  assigned : ∀ g ∈ groups, ∀ x ∈ g.ids, ∀ v, g.assignment v = assignedValue levels x v none

/-! ## One parent group -/

section Split

variable {levels : List (GroupKey × (Nat → ExprValue))} {g g' : BindingGroup}

/-- Splitting a list of groups splits each on its own. -/
theorem splitAll_eq_flatMap (levels : List (GroupKey × (Nat → ExprValue))) (gs : List BindingGroup) :
    splitAll levels gs = gs.flatMap fun g => splitAll levels [g] := by
  induction levels generalizing gs with
  | nil => simp [splitAll]
  | cons p levels ih =>
    obtain ⟨k, c⟩ := p
    simp only [splitAll, List.flatMap_singleton]
    rw [ih, List.flatMap_assoc]
    exact List.flatMap_congr fun g _ => (ih _).symm

theorem mem_splitAll_cons {k : GroupKey} {c : Nat → ExprValue} :
    g' ∈ splitAll ((k, c) :: levels) [g] ↔
      ∃ cl ∈ classesIn c g.ids, g' ∈ splitAll levels [k.inherit g (g.ids.filter (c · == cl)) cl.term?] := by
  rw [splitAll, splitAll_eq_flatMap]
  simp [GroupKey.children]

/-- A group keeps the order of the solutions of the group it came from. -/
theorem sublist_of_mem_splitAll (h : g' ∈ splitAll levels [g]) : g'.ids.Sublist g.ids := by
  induction levels generalizing g with
  | nil =>
    obtain rfl : g' = g := by simpa [splitAll] using h
    exact List.Sublist.refl _
  | cons p levels ih =>
    obtain ⟨k, c⟩ := p
    obtain ⟨cl, -, hmem⟩ := mem_splitAll_cons.1 h
    exact (ih hmem).trans (by simp)

/-- A solution of a group made inside `g` by a key with classes `c` is a
solution of `g` of the group's class. -/
theorem class_of_mem_splitAll {k : GroupKey} {c : Nat → ExprValue} {cl : ExprValue} {x : Nat}
    (h : g' ∈ splitAll levels [k.inherit g (g.ids.filter (c · == cl)) cl.term?]) (hx : x ∈ g'.ids) :
    x ∈ g.ids ∧ c x = cl := by
  have hx' := (sublist_of_mem_splitAll h).subset hx
  simpa using hx'

/-- **The groups made inside `g` partition its solutions.** -/
theorem perm_flatMap_splitAll (hnd : g.ids.Nodup) :
    ((splitAll levels [g]).flatMap (·.ids)).Perm g.ids := by
  induction levels generalizing g with
  | nil => simp [splitAll]
  | cons p levels ih =>
    obtain ⟨k, c⟩ := p
    rw [splitAll, splitAll_eq_flatMap, List.flatMap_assoc]
    simp only [List.flatMap_singleton, GroupKey.children, List.flatMap_map]
    -- Each class's groups partition its bucket, and the buckets partition `g`.
    have hbuckets := perm_flatMap_filter (nodup_classesIn c g.ids) hnd
      fun x hx => (mem_classesIn c).2 ⟨x, hx, rfl⟩
    refine List.Perm.trans (List.Perm.flatMap_left _ fun cl _ => ?_) hbuckets
    simpa using ih (g := k.inherit g _ cl.term?) (by simpa using hnd.filter _)

/-- A group made inside a group with solutions, or by at least one key, is not empty. -/
theorem ids_ne_nil_of_mem_splitAll (h : g' ∈ splitAll levels [g])
    (hne : levels ≠ [] ∨ g.ids ≠ []) : g'.ids ≠ [] := by
  induction levels generalizing g with
  | nil =>
    obtain rfl : g' = g := by simpa [splitAll] using h
    simpa using hne
  | cons p levels ih =>
    obtain ⟨k, c⟩ := p
    obtain ⟨cl, hcl, hmem⟩ := mem_splitAll_cons.1 h
    -- A class that occurs has a solution in its bucket.
    obtain ⟨x, hx, hcx⟩ := (mem_classesIn c).1 hcl
    have hxcl : x ∈ g.ids.filter (c · == cl) := List.mem_filter.2 ⟨hx, by simp [hcx]⟩
    exact ih hmem (.inr (by simpa using List.ne_nil_of_mem hxcl))

/-- **Two solutions share a group exactly when every key gives them the same
class.** -/
theorem mem_ids_iff_of_mem_splitAll (h : g' ∈ splitAll levels [g]) {x y : Nat}
    (hx : x ∈ g'.ids) (hy : y ∈ g.ids) : y ∈ g'.ids ↔ ∀ p ∈ levels, p.2 x = p.2 y := by
  induction levels generalizing g with
  | nil =>
    obtain rfl : g' = g := by simpa [splitAll] using h
    simpa using hy
  | cons p levels ih =>
    obtain ⟨k, c⟩ := p
    obtain ⟨cl, -, hmem⟩ := mem_splitAll_cons.1 h
    have hcx := (class_of_mem_splitAll hmem hx).2
    simp only [List.mem_cons, forall_eq_or_imp]
    by_cases hcy : c y = cl
    · have hy' : y ∈ (k.inherit g (g.ids.filter (c · == cl)) cl.term?).ids := by
        simpa [hcy] using hy
      rw [ih hmem hy', hcx, hcy]
      simp
    · -- A solution of another class is in another bucket.
      have hnot : y ∉ g'.ids := fun hy' => hcy (class_of_mem_splitAll hmem hy').2
      simp only [hnot, false_iff, not_and]
      exact fun hxy => absurd (hxy ▸ hcx) hcy

/-- **The groups come in the order of their classes**, key by key. -/
theorem splitAll_sorted (levels : List (GroupKey × (Nat → ExprValue))) (g : BindingGroup) :
    (splitAll levels [g]).Pairwise fun g₁ g₂ =>
      ∀ x ∈ g₁.ids, ∀ y ∈ g₂.ids, Precedes levels g.ids x y := by
  induction levels generalizing g with
  | nil => simp [splitAll]
  | cons p levels ih =>
    obtain ⟨k, c⟩ := p
    rw [splitAll, splitAll_eq_flatMap]
    simp only [List.flatMap_singleton, GroupKey.children, List.flatMap_map]
    refine List.pairwise_flatMap.2 ⟨fun cl _ => ?_, ?_⟩
    · -- Within one class, the next keys decide.
      refine (ih _).imp_of_mem fun hg₁ _ hlt x hx y hy => .inr ?_
      have hcx := (class_of_mem_splitAll hg₁ hx).2
      have hcy := (class_of_mem_splitAll ‹_› hy).2
      refine ⟨hcx.trans hcy.symm, ?_⟩
      simpa [hcx] using hlt x hx y hy
    · -- Between classes, the rank of the class decides.
      refine (classesIn_sorted c g.ids).imp_of_mem fun _ _ hrank g₁ hg₁ g₂ hg₂ x hx y hy => .inl ?_
      rw [(class_of_mem_splitAll hg₁ hx).2, (class_of_mem_splitAll hg₂ hy).2]
      exact hrank

/-- **A group carries the class of the last key that assigns a variable**, or
else the assignment of the group it came from. -/
theorem assignment_of_mem_splitAll (h : g' ∈ splitAll levels [g]) {x : Nat} (hx : x ∈ g'.ids)
    (v : Variable) : g'.assignment v = assignedValue levels x v (g.assignment v) := by
  induction levels generalizing g with
  | nil =>
    obtain rfl : g' = g := by simpa [splitAll] using h
    rfl
  | cons p levels ih =>
    obtain ⟨k, c⟩ := p
    obtain ⟨cl, -, hmem⟩ := mem_splitAll_cons.1 h
    rw [ih hmem, GroupKey.assignment_inherit, ← (class_of_mem_splitAll hmem hx).2]
    rfl

end Split

/-- **Grouping by keys with given classes** partitions the solutions as
`GroupsSpec` says. -/
theorem groupsSpec_splitAll (levels : List (GroupKey × (Nat → ExprValue))) {ids : List Nat}
    (hids : ids.Nodup) : GroupsSpec levels ids (splitAll levels [⟨ids, []⟩]) where
  partition := perm_flatMap_splitAll hids
  sublist _ hg := sublist_of_mem_splitAll hg
  ne_nil hne _ hg := ids_ne_nil_of_mem_splitAll hg (.inl hne)
  single h := by simp [h, splitAll]
  together _ hg _ hx _ hy := mem_ids_iff_of_mem_splitAll hg hx hy
  sorted := splitAll_sorted levels ⟨ids, []⟩
  assigned _ hg _ hx v := assignment_of_mem_splitAll hg hx v

end SparqlBag
