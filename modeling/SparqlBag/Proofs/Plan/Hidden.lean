import SparqlBag.Proofs.Engine.Matching

/-!
# Solutions up to hidden variables

Lowering a path introduces variables that a projection drops again.  A set `S` of
mappings represents a relation `R` between two positions `x` and `y`, with hidden
variables `F`, when its mappings bind only variables of `x`, `y` and `F`, restrict
on `x` and `y` to solutions of `R`, and every solution of `R` is such a
restriction (`Mapping.Represents`).  Representations compose as relations do:
a join through a hidden variable composes (`Mapping.Represents.seq`), a union takes
either, swapping the positions takes the converse, and projecting the hidden
variables away gives the relation's solutions (`Mapping.Represents.restrict_joinSet`).
-/

namespace SparqlBag

namespace Mapping

variable {μ ν α β γ : Mapping} {vars : List Variable} {x y : PatternTerm}

theorem restrict_apply (vars : List Variable) (μ : Mapping) (v : Variable) :
    restrict vars μ v = if v ∈ vars then μ v else none := rfl

theorem valueIn_restrict (hx : ∀ v ∈ x.vars, v ∈ vars) (μ : Mapping) :
    x.valueIn (restrict vars μ) = x.valueIn μ := by
  rcases x with c | v
  · rfl
  · simp [restrict_apply, hx v (by simp)]

theorem valueIn_union_left {t : Term} (h : x.valueIn μ = some t) :
    x.valueIn (union μ ν) = some t := by
  rcases x with c | v
  · exact h
  · simp only [PatternTerm.valueIn_variable, union_apply] at h ⊢
    simp [h]

theorem valueIn_union_right (hc : Compatible μ ν) {t : Term} (h : x.valueIn ν = some t) :
    x.valueIn (union μ ν) = some t := by
  rcases x with c | v
  · exact h
  · simp only [PatternTerm.valueIn_variable, union_apply] at h ⊢
    cases hμ : μ v with
    | none => simpa using h
    | some a => simpa using hc v a t hμ h

theorem valueIn_update_of_not_mem {j : Variable} (hj : j ∉ x.vars) (t : Option Term) :
    x.valueIn (Function.update μ j t) = x.valueIn μ := by
  rcases x with c | v
  · rfl
  · have hvj : v ≠ j := fun h => hj (by simp [h])
    simp [Function.update_of_ne hvj]

theorem isSome_of_valueIn {v : Variable} (hv : v ∈ x.vars) {t : Term} (h : x.valueIn μ = some t) :
    (μ v).isSome := by
  rcases x with c | u
  · simp at hv
  · obtain rfl : v = u := by simpa using hv
    simp only [PatternTerm.valueIn_variable] at h
    simp [h]

/-- Restricting a union to variables that hold all those of its left side. -/
theorem restrict_union_of_dom {σ : Mapping} (hσ : ∀ v, (σ v).isSome → v ∈ vars) (μ : Mapping) :
    restrict vars (union σ μ) = union σ (restrict vars μ) := by
  funext v
  simp only [restrict_apply, union_apply]
  split_ifs with hv
  · rfl
  · cases hσv : σ v with
    | none => rfl
    | some a => exact absurd (hσ v (by simp [hσv])) hv

theorem Compatible.restrict {σ : Mapping} (h : Compatible σ μ) (vars : List Variable) :
    Compatible σ (restrict vars μ) := fun v a b ha hb => by
  rw [restrict_apply] at hb
  split_ifs at hb
  exact h v a b ha hb

/-- A solution of two related positions is its own restriction to their variables. -/
theorem restrict_eq_self_of_mem {R : Term → Term → Prop} (hγ : γ ∈ relSolutions R x y) :
    restrict (x.vars ++ y.vars) γ = γ := by
  have hd := (mem_relSolutions.1 hγ).1
  funext v
  rw [restrict_apply]
  split_ifs with hv
  · rfl
  · cases hγv : γ v with
    | none => rfl
    | some a => exact absurd (List.mem_append.2 ((hd v).1 (by simp [hγv]))) hv

theorem union_apply_of_left {v : Variable} {c : Term} (h : μ v = some c) (ν : Mapping) :
    union μ ν v = some c := by
  simp [h]

theorem union_apply_of_right (hc : Compatible μ ν) {v : Variable} {c : Term} (h : ν v = some c) :
    union μ ν v = some c := by
  cases hμ : μ v with
  | none => simpa [hμ] using h
  | some a => simpa [hμ] using hc v a c hμ h

/-- Two restrictions of one mapping, each extended by the same value at one variable,
agree wherever both are bound. -/
theorem compatible_update_restrict (γ : Mapping) (X Y : List Variable) (j : Variable)
    (t : Option Term) :
    Compatible (Function.update (restrict X γ) j t) (Function.update (restrict Y γ) j t) := by
  intro v a b ha hb
  by_cases hvj : v = j
  · subst hvj
    simp only [Function.update_self] at ha hb
    exact Option.some.inj (ha.symm.trans hb)
  · simp only [Function.update_of_ne hvj, restrict_apply] at ha hb
    split_ifs at ha hb
    exact Option.some.inj (ha.symm.trans hb)

theorem relSolutions_congr {R R' : Term → Term → Prop} (hR : ∀ a b, R a b ↔ R' a b) :
    relSolutions R x y = relSolutions R' x y := by
  ext γ
  simp only [mem_relSolutions, hR]

/-- Swapping the two positions turns the relation around. -/
theorem relSolutions_swap {R : Term → Term → Prop} :
    relSolutions (fun a b => R b a) x y = relSolutions R y x := by
  ext γ
  simp only [mem_relSolutions]
  constructor <;>
  · rintro ⟨hd, a, b, hR, ha, hb⟩
    exact ⟨fun v => (hd v).trans or_comm, b, a, hR, hb, ha⟩

theorem relSolutions_or {R₁ R₂ : Term → Term → Prop} :
    relSolutions (fun a b => R₁ a b ∨ R₂ a b) x y = relSolutions R₁ x y ∪ relSolutions R₂ x y := by
  ext γ
  simp only [Set.mem_union, mem_relSolutions]
  constructor
  · rintro ⟨hd, a, b, hR | hR, ha, hb⟩
    · exact .inl ⟨hd, a, b, hR, ha, hb⟩
    · exact .inr ⟨hd, a, b, hR, ha, hb⟩
  · rintro (⟨hd, a, b, hR, ha, hb⟩ | ⟨hd, a, b, hR, ha, hb⟩)
    · exact ⟨hd, a, b, .inl hR, ha, hb⟩
    · exact ⟨hd, a, b, .inr hR, ha, hb⟩

/-- A mapping restricted to the variables of `x`, where it holds `a`, and extended
by `m` at a variable `j` outside them is a solution of `R` between `x` and `j`. -/
theorem update_restrict_mem_relSolutions {R : Term → Term → Prop}
    (hd : ∀ v ∈ x.vars, (γ v).isSome) {j : Variable} (hjx : j ∉ x.vars) {a m : Term}
    (ha : x.valueIn γ = some a) (hR : R a m) :
    Function.update (restrict x.vars γ) j (some m) ∈ relSolutions R x (.variable j) := by
  refine mem_relSolutions.2 ⟨fun v => ?_, a, m, hR, ?_, by simp⟩
  · by_cases hvj : v = j
    · simp [hvj]
    · simp only [Function.update_of_ne hvj, restrict_apply, PatternTerm.vars_variable,
        List.mem_singleton, hvj, or_false]
      split_ifs with hv
      · exact ⟨fun _ => hv, fun _ => hd v hv⟩
      · simp [hv]
  · rw [valueIn_update_of_not_mem hjx, valueIn_restrict (fun v hv => hv), ha]

/-- `S` holds the solutions of `R` between `x` and `y`, with the hidden
variables `F` besides. -/
structure Represents (S : Set Mapping) (R : Term → Term → Prop) (x y : PatternTerm)
    (F : Variable → Prop) : Prop where
  /-- A mapping binds the variables of `x` and `y` and hidden ones only. -/
  dom : ∀ β ∈ S, ∀ v, (β v).isSome → v ∈ x.vars ∨ v ∈ y.vars ∨ F v
  /-- Without the hidden variables, a mapping is a solution of `R`. -/
  sound : ∀ β ∈ S, restrict (x.vars ++ y.vars) β ∈ relSolutions R x y
  /-- Every solution of `R` is a mapping without its hidden variables. -/
  complete : ∀ γ ∈ relSolutions R x y, ∃ β ∈ S, restrict (x.vars ++ y.vars) β = γ

namespace Represents

variable {S A B : Set Mapping} {R R₁ R₂ : Term → Term → Prop} {F F₁ F₂ : Variable → Prop}

/-- The solutions of a relation represent it, with no hidden variable needed. -/
theorem of_relSolutions (R : Term → Term → Prop) (x y : PatternTerm) (F : Variable → Prop) :
    Represents (relSolutions R x y) R x y F where
  dom β hβ v hv := by
    rcases ((mem_relSolutions.1 hβ).1 v).1 hv with h | h
    · exact .inl h
    · exact .inr (.inl h)
  sound β hβ := by rwa [restrict_eq_self_of_mem hβ]
  complete γ hγ := ⟨γ, hγ, restrict_eq_self_of_mem hγ⟩

theorem mono (h : Represents S R x y F) {F' : Variable → Prop} (hF : ∀ v, F v → F' v) :
    Represents S R x y F' where
  dom β hβ v hv := (h.dom β hβ v hv).imp_right (Or.imp_right (hF v))
  sound := h.sound
  complete := h.complete

theorem congr (h : Represents S R x y F) {R' : Term → Term → Prop} (hR : ∀ a b, R a b ↔ R' a b) :
    Represents S R' x y F := by
  have hsol : relSolutions R x y = relSolutions R' x y := relSolutions_congr hR
  exact ⟨h.dom, hsol ▸ h.sound, hsol ▸ h.complete⟩

/-- Swapping the two positions turns the relation around. -/
theorem swap (h : Represents S R y x F) : Represents S (fun a b => R b a) x y F := by
  have hvars : restrict (x.vars ++ y.vars) = restrict (y.vars ++ x.vars) := by
    funext μ v
    simp only [restrict_apply, List.mem_append, or_comm]
  refine ⟨fun β hβ v hv => ?_, fun β hβ => ?_, fun γ hγ => ?_⟩
  · rcases h.dom β hβ v hv with h | h | h
    · exact .inr (.inl h)
    · exact .inl h
    · exact .inr (.inr h)
  · rw [relSolutions_swap, hvars]
    exact h.sound β hβ
  · rw [relSolutions_swap] at hγ
    rw [hvars]
    exact h.complete γ hγ

/-- A union takes either relation. -/
theorem union (hA : Represents A R₁ x y F) (hB : Represents B R₂ x y F) :
    Represents (A ∪ B) (fun a b => R₁ a b ∨ R₂ a b) x y F := by
  refine ⟨fun β hβ => ?_, fun β hβ => ?_, fun γ hγ => ?_⟩
  · rcases hβ with hβ | hβ
    · exact hA.dom β hβ
    · exact hB.dom β hβ
  · rw [relSolutions_or]
    rcases hβ with hβ | hβ
    · exact .inl (hA.sound β hβ)
    · exact .inr (hB.sound β hβ)
  · rw [relSolutions_or] at hγ
    rcases hγ with hγ | hγ
    · obtain ⟨β, hβ, h⟩ := hA.complete γ hγ
      exact ⟨β, .inl hβ, h⟩
    · obtain ⟨β, hβ, h⟩ := hB.complete γ hγ
      exact ⟨β, .inr hβ, h⟩

/-- **A join through a hidden variable `j` composes the relations**: the two
sides meet on `j` and share no other hidden variable. -/
theorem seq {j : Variable} (hA : Represents A R₁ x (.variable j) F₁)
    (hB : Represents B R₂ (.variable j) y F₂) (hjx : j ∉ x.vars) (hjy : j ∉ y.vars)
    (hF : ∀ v, F₁ v → ¬F₂ v) (hxF : ∀ v ∈ x.vars, ¬F₂ v) (hyF : ∀ v ∈ y.vars, ¬F₁ v) :
    Represents (joinSet A B) (fun a b => ∃ m, R₁ a m ∧ R₂ m b) x y
      (fun v => v = j ∨ F₁ v ∨ F₂ v) := by
  refine ⟨?_, ?_, ?_⟩
  · rintro β ⟨α, hα, α', hα', hj⟩ v hv
    obtain ⟨-, rfl⟩ := join?_eq_some_iff.1 hj
    simp only [union_apply, Option.isSome_or, Bool.or_eq_true] at hv
    rcases hv with hv | hv
    · rcases hA.dom α hα v hv with h | h | h
      · exact .inl h
      · exact .inr (.inr (.inl (by simpa using h)))
      · exact .inr (.inr (.inr (.inl h)))
    · rcases hB.dom α' hα' v hv with h | h | h
      · exact .inr (.inr (.inl (by simpa using h)))
      · exact .inr (.inl h)
      · exact .inr (.inr (.inr (.inr h)))
  · rintro β ⟨α, hα, α', hα', hj⟩
    obtain ⟨hc, rfl⟩ := join?_eq_some_iff.1 hj
    obtain ⟨-, a, m, hR₁, ha, hm⟩ := mem_relSolutions.1 (hA.sound α hα)
    obtain ⟨-, m', b, hR₂, hm', hb⟩ := mem_relSolutions.1 (hB.sound α' hα')
    rw [valueIn_restrict (fun v hv => List.mem_append_left _ hv)] at ha hm'
    rw [valueIn_restrict (fun v hv => List.mem_append_right _ hv)] at hm hb
    -- the two sides agree on the hidden variable between them
    obtain rfl : m = m' := hc j m m' hm hm'
    have hxa := valueIn_union_left (ν := α') ha
    have hyb := valueIn_union_right hc hb
    refine mem_relSolutions.2 ⟨fun v => ?_, a, b, ⟨m, hR₁, hR₂⟩, ?_, ?_⟩
    · rw [restrict_apply]
      split_ifs with hv
      · refine ⟨fun _ => List.mem_append.1 hv, fun hv' => ?_⟩
        rcases hv' with hv' | hv'
        · exact isSome_of_valueIn hv' hxa
        · exact isSome_of_valueIn hv' hyb
      · simpa using hv
    · rwa [valueIn_restrict (fun v hv => List.mem_append_left _ hv)]
    · rwa [valueIn_restrict (fun v hv => List.mem_append_right _ hv)]
  · intro γ hγ
    obtain ⟨hd, a, b, ⟨m, hR₁, hR₂⟩, ha, hb⟩ := mem_relSolutions.1 hγ
    -- the two halves of `γ`, each with `m` at the hidden variable
    set γ₁ := Function.update (restrict x.vars γ) j (some m) with hγ₁
    set γ₂ := Function.update (restrict y.vars γ) j (some m) with hγ₂
    have hγ₁x : ∀ v ∈ x.vars, γ₁ v = γ v := fun v hv => by
      rw [hγ₁, Function.update_of_ne (fun h => hjx (by rwa [← h])), restrict_apply, if_pos hv]
    have hγ₂y : ∀ v ∈ y.vars, γ₂ v = γ v := fun v hv => by
      rw [hγ₂, Function.update_of_ne (fun h => hjy (by rwa [← h])), restrict_apply, if_pos hv]
    have hmem₁ : γ₁ ∈ relSolutions R₁ x (.variable j) :=
      update_restrict_mem_relSolutions (fun v hv => (hd v).2 (.inl hv)) hjx ha hR₁
    have hmem₂ : γ₂ ∈ relSolutions R₂ (.variable j) y := by
      rw [← relSolutions_swap]
      exact update_restrict_mem_relSolutions (fun v hv => (hd v).2 (.inr hv)) hjy hb hR₂
    obtain ⟨α, hα, hα₁⟩ := hA.complete γ₁ hmem₁
    obtain ⟨α', hα', hα₂⟩ := hB.complete γ₂ hmem₂
    have hαv : ∀ v ∈ x.vars ++ [j], α v = γ₁ v := fun v hv => by
      rw [← hα₁, restrict_apply, if_pos (by simpa using hv)]
    have hα'v : ∀ v ∈ [j] ++ y.vars, α' v = γ₂ v := fun v hv => by
      rw [← hα₂, restrict_apply, if_pos (by simpa using hv)]
    -- a variable bound on both sides is `j` or one of both `x` and `y`, where the halves agree
    have hc : Compatible α α' := by
      intro v c d hc' hd'
      have hboth : v ∈ x.vars ++ [j] ∧ v ∈ [j] ++ y.vars := by
        by_cases hvj : v = j
        · subst hvj
          simp
        have h₁ : v ∈ x.vars ∨ F₁ v := by
          rcases hA.dom α hα v (by simp [hc']) with h | h | h
          · exact .inl h
          · exact absurd (by simpa using h) hvj
          · exact .inr h
        have h₂ : v ∈ y.vars ∨ F₂ v := by
          rcases hB.dom α' hα' v (by simp [hd']) with h | h | h
          · exact absurd (by simpa using h) hvj
          · exact .inl h
          · exact .inr h
        rcases h₁ with hvx | hv₁ <;> rcases h₂ with hvy | hv₂
        · exact ⟨by simp [hvx], by simp [hvy]⟩
        · exact absurd hv₂ (hxF v hvx)
        · exact absurd hv₁ (hyF v hvy)
        · exact absurd hv₂ (hF v hv₁)
      rw [hαv v hboth.1] at hc'
      rw [hα'v v hboth.2] at hd'
      exact compatible_update_restrict γ x.vars y.vars j (some m) v c d hc' hd'
    refine ⟨Mapping.union α α', ⟨α, hα, α', hα', join?_eq_some_iff.2 ⟨hc, rfl⟩⟩, funext fun v => ?_⟩
    rw [restrict_apply]
    split_ifs with hv
    · rcases List.mem_append.1 hv with hvx | hvy
      · obtain ⟨c, hγc⟩ := Option.isSome_iff_exists.1 ((hd v).2 (.inl hvx))
        rw [hγc]
        exact union_apply_of_left (by rw [hαv v (by simp [hvx]), hγ₁x v hvx, hγc]) α'
      · obtain ⟨c, hγc⟩ := Option.isSome_iff_exists.1 ((hd v).2 (.inr hvy))
        rw [hγc]
        exact union_apply_of_right hc (by rw [hα'v v (by simp [hvy]), hγ₂y v hvy, hγc])
    · cases hγv : γ v with
      | none => rfl
      | some c => exact absurd (List.mem_append.2 ((hd v).1 (by simp [hγv]))) hv

/-- On a list of variables that holds those of `x` and `y` and no hidden one,
a represented mapping restricts as on the variables of `x` and `y`. -/
theorem restrict_eq (h : Represents S R x y F) {W : List Variable}
    (hW : ∀ v ∈ x.vars ++ y.vars, v ∈ W) (hWF : ∀ v ∈ W, ¬F v) (hβ : β ∈ S) :
    restrict W β = restrict (x.vars ++ y.vars) β := by
  funext v
  simp only [restrict_apply]
  by_cases hv : v ∈ x.vars ++ y.vars
  · rw [if_pos (hW v hv), if_pos hv]
  · rw [if_neg hv]
    split_ifs with hvW
    · cases hβv : β v with
      | none => rfl
      | some a =>
        rcases h.dom β hβ v (by simp [hβv]) with h' | h' | h'
        · exact absurd (List.mem_append_left _ h') hv
        · exact absurd (List.mem_append_right _ h') hv
        · exact absurd h' (hWF v hvW)
    · rfl

/-- **Joined with a single mapping and restricted to a list of variables that
holds those of `x`, `y` and the mapping and no hidden one, a representation
gives the solutions of the relation joined with that mapping**: the hidden
variables are projected away. -/
theorem restrict_joinSet (h : Represents S R x y F) {W : List Variable}
    (hW : ∀ v ∈ x.vars ++ y.vars, v ∈ W) (hWF : ∀ v ∈ W, ¬F v) {σ : Mapping}
    (hσ : ∀ v, (σ v).isSome → v ∈ W) :
    restrict W '' joinSet {σ} S = joinSet {σ} (relSolutions R x y) := by
  ext μ
  simp only [Set.mem_image, mem_joinSet, Set.mem_singleton_iff, exists_eq_left]
  constructor
  · rintro ⟨ν, ⟨β, hβ, hj⟩, rfl⟩
    obtain ⟨hc, rfl⟩ := join?_eq_some_iff.1 hj
    refine ⟨restrict (x.vars ++ y.vars) β, h.sound β hβ, join?_eq_some_iff.2 ⟨hc.restrict _, ?_⟩⟩
    rw [restrict_union_of_dom hσ β, h.restrict_eq hW hWF hβ]
  · rintro ⟨γ, hγ, hj⟩
    obtain ⟨hc, rfl⟩ := join?_eq_some_iff.1 hj
    obtain ⟨β, hβ, rfl⟩ := h.complete γ hγ
    -- a variable of both `σ` and `β` is one of `x` or `y`, where `γ` is `β`
    have hcβ : Compatible σ β := by
      intro v a b ha hb
      have hvW := hσ v (by simp [ha])
      have hv : v ∈ x.vars ++ y.vars := by
        rcases h.dom β hβ v (by simp [hb]) with h' | h' | h'
        · exact List.mem_append_left _ h'
        · exact List.mem_append_right _ h'
        · exact absurd h' (hWF v hvW)
      exact hc v a b ha (by rw [restrict_apply, if_pos hv]; exact hb)
    refine ⟨Mapping.union σ β, ⟨β, hβ, join?_eq_some_iff.2 ⟨hcβ, rfl⟩⟩, ?_⟩
    rw [restrict_union_of_dom hσ β, h.restrict_eq hW hWF hβ]

end Represents

end Mapping

end SparqlBag
