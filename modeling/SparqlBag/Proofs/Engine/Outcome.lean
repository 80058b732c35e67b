import Mathlib.Data.List.Forall2
import Mathlib.Data.List.Perm.Basic
import SparqlBag.Expr.Builtin

/-!
# Outcomes of evaluations

The evaluation monad threads the counter of fresh values.  Two computations
`Agree` up to a relation when both succeed with related values or both fail; an
excused failure on either side, in practice an abnormal stop of a sort, excuses
any outcome on the other.  `Related E R x y` asks them to agree from any counters,
so a computation that draws fresh values is related to nothing.  Relatedness
composes along `bind` (`Related.bind`) and along `mapM` over lists that correspond
one to one, in order (`Related.mapM`) or in any order (`Related.mapM_perm`).
-/

namespace SparqlBag

variable {α β γ δ : Type}

/-- Two outcomes agree up to `R`, the failures that `E` allows excusing the other side. -/
inductive Agree (E : QueryError → Prop) (R : α → β → Prop) :
    Except QueryError α → Except QueryError β → Prop
  | ok {a : α} {b : β} : R a b → Agree E R (.ok a) (.ok b)
  | error (e e' : QueryError) : Agree E R (.error e) (.error e')
  /-- An excused failure on the left excuses any outcome on the right. -/
  | excusedLeft {e : QueryError} (y : Except QueryError β) : E e → Agree E R (.error e) y
  /-- An excused failure on the right excuses any outcome on the left. -/
  | excusedRight {e : QueryError} (x : Except QueryError α) : E e → Agree E R x (.error e)

/-- Two computations whose outcomes agree up to `R` from any two counters, the
failures that `E` allows excused. -/
def Related (E : QueryError → Prop) (R : α → β → Prop) (x : EvalM α) (y : EvalM β) : Prop :=
  ∀ s s', Agree E R (x.run' s) (y.run' s')

/-! ## Agreement -/

section Agree

variable {E : QueryError → Prop} {R : α → β → Prop} {S : γ → δ → Prop}

theorem Agree.mono {R' : α → β → Prop} (h : ∀ a b, R a b → R' a b) {x y} (hxy : Agree E R x y) :
    Agree E R' x y := by
  cases hxy with
  | ok hab => exact .ok (h _ _ hab)
  | error e e' => exact .error e e'
  | excusedLeft y he => exact .excusedLeft y he
  | excusedRight x he => exact .excusedRight x he

theorem Agree.bind {x : Except QueryError α} {y : Except QueryError β} {f : α → Except QueryError γ}
    {g : β → Except QueryError δ} (hxy : Agree E R x y) (h : ∀ a b, R a b → Agree E S (f a) (g b)) :
    Agree E S (x >>= f) (y >>= g) := by
  cases hxy with
  | ok hab => exact h _ _ hab
  | error e e' => exact .error e e'
  | excusedLeft y he => exact .excusedLeft _ he
  | excusedRight x he => exact .excusedRight _ he

theorem Agree.of_ok {a : α} {b : β} (h : Agree E R (.ok a) (.ok b)) : R a b := by
  cases h with
  | ok hab => exact hab

/-- A failure agrees with a success only as an excused one. -/
theorem Agree.excused_of_error_ok {e : QueryError} {b : β} (h : Agree E R (.error e) (.ok b)) :
    E e := by
  cases h with
  | excusedLeft _ he => exact he

theorem Agree.excused_of_ok_error {a : α} {e : QueryError} (h : Agree E R (.ok a) (.error e)) :
    E e := by
  cases h with
  | excusedRight _ he => exact he

end Agree

/-! ## Running computations -/

section Run

variable {x : EvalM α}

theorem run_bind (x : EvalM α) (f : α → EvalM β) (s : Nat) :
    (x >>= f).run s = match x.run s with
      | .ok (a, s') => (f a).run s'
      | .error e => .error e := by
  rw [StateT.run_bind]
  cases x.run s <;> rfl

theorem run'_of_run_ok {s s' : Nat} {a : α} (h : x.run s = .ok (a, s')) : x.run' s = .ok a := by
  rw [StateT.run'_eq, h]
  rfl

theorem run'_of_run_error {s : Nat} {e : QueryError} (h : x.run s = .error e) :
    x.run' s = .error e := by
  rw [StateT.run'_eq, h]
  rfl

theorem run_of_run'_ok {s : Nat} {a : α} (h : x.run' s = .ok a) : ∃ s', x.run s = .ok (a, s') := by
  rw [StateT.run'_eq] at h
  cases hx : x.run s with
  | error e => rw [hx] at h; cases h
  | ok p =>
    rw [hx] at h
    cases h
    exact ⟨p.2, rfl⟩

theorem run_of_run'_error {s : Nat} {e : QueryError} (h : x.run' s = .error e) :
    x.run s = .error e := by
  rw [StateT.run'_eq] at h
  cases hx : x.run s with
  | error e' =>
    rw [hx] at h
    cases h
    rfl
  | ok p => rw [hx] at h; cases h

/-- Some counter makes `x` give the outcome `r`. -/
def Gives (x : EvalM α) (r : Except QueryError α) : Prop := ∃ s, x.run' s = r

end Run

/-! ## Related computations -/

section Related

variable {E : QueryError → Prop} {R : α → β → Prop} {S : γ → δ → Prop} {x : EvalM α} {y : EvalM β}

theorem Related.mono {R' : α → β → Prop} (h : ∀ a b, R a b → R' a b) (hxy : Related E R x y) :
    Related E R' x y :=
  fun s s' => (hxy s s').mono h

theorem Related.gives (hxy : Related E R x y) {r : Except QueryError α} {r' : Except QueryError β}
    (hr : Gives x r) (hr' : Gives y r') : Agree E R r r' := by
  obtain ⟨s, rfl⟩ := hr
  obtain ⟨s', rfl⟩ := hr'
  exact hxy s s'

theorem related_pure {a : α} {b : β} (h : R a b) : Related E R (pure a) (pure b) :=
  fun _ _ => .ok h

theorem related_throw (e e' : QueryError) : Related E R (throw e : EvalM α) (throw e' : EvalM β) :=
  fun _ _ => .error e e'

/-- **Related computations compose**: related first steps, and continuations
related on related values. -/
theorem Related.bind {f : α → EvalM γ} {g : β → EvalM δ} (hxy : Related E R x y)
    (h : ∀ a b, R a b → Related E S (f a) (g b)) : Related E S (x >>= f) (y >>= g) := by
  intro s s'
  have hA := hxy s s'
  rw [StateT.run'_eq, StateT.run'_eq, run_bind, run_bind]
  rw [StateT.run'_eq, StateT.run'_eq] at hA
  cases hx : x.run s with
  | error e =>
    rw [hx] at hA
    cases hy : y.run s' with
    | error e' => exact .error e e'
    | ok q =>
      rw [hy] at hA
      exact .excusedLeft _ (Agree.excused_of_error_ok hA)
  | ok p =>
    rw [hx] at hA
    cases hy : y.run s' with
    | error e' =>
      rw [hy] at hA
      exact .excusedRight _ (Agree.excused_of_ok_error hA)
    | ok q =>
      rw [hy] at hA
      simpa only [StateT.run'_eq] using h p.1 q.1 hA.of_ok p.2 q.2

/-- An error handler that keeps excused failures excused keeps relatedness. -/
theorem Related.tryCatch_rethrow {w : QueryError → QueryError} (hw : ∀ e, E e → E (w e))
    (hxy : Related E R x y) :
    Related E R (tryCatch x fun e => throw (w e)) (tryCatch y fun e => throw (w e)) := by
  intro s s'
  have hA := hxy s s'
  show Agree E R (Prod.fst <$> tryCatch (x.run s) fun e => Except.error (w e))
    (Prod.fst <$> tryCatch (y.run s') fun e => Except.error (w e))
  rw [StateT.run'_eq, StateT.run'_eq] at hA
  cases hx : x.run s <;> cases hy : y.run s' <;> rw [hx, hy] at hA
  · exact .error _ _
  · exact .excusedLeft _ (hw _ (Agree.excused_of_error_ok hA))
  · exact .excusedRight _ (hw _ (Agree.excused_of_ok_error hA))
  · exact hA

/-- `mapM` over two lists whose elements correspond in order. -/
theorem Related.mapM {S' : α → β → Prop} {f : α → EvalM γ} {g : β → EvalM δ} :
    ∀ {xs : List α} {ys : List β}, List.Forall₂ S' xs ys → (∀ a b, S' a b → Related E S (f a) (g b)) →
      Related E (List.Forall₂ S) (xs.mapM f) (ys.mapM g)
  | [], [], .nil, _ => related_pure .nil
  | a :: xs, b :: ys, .cons hab hxy, h => by
    have ih := Related.mapM hxy h
    rw [List.mapM_cons, List.mapM_cons]
    exact (h a b hab).bind fun c d hcd =>
      ih.bind fun cs ds hcs => related_pure (.cons hcd hcs)

end Related

/-! ## `mapM` runs element by element -/

section MapM

variable {f : α → EvalM γ}

theorem mapM_cons_run (a : α) (xs : List α) (s : Nat) :
    ((a :: xs).mapM f).run s = match (f a).run s with
      | .ok (c, s₁) => match (xs.mapM f).run s₁ with
        | .ok (cs, s₂) => .ok (c :: cs, s₂)
        | .error e => .error e
      | .error e => .error e := by
  rw [List.mapM_cons, run_bind]
  cases (f a).run s with
  | error e => rfl
  | ok p =>
    obtain ⟨c, s₁⟩ := p
    dsimp only
    rw [run_bind]
    cases (xs.mapM f).run s₁ <;> rfl

/-- A successful `mapM` succeeded on every element, from some counter. -/
theorem forall₂_of_mapM_ok :
    ∀ {xs : List α} {s : Nat} {cs : List γ}, (xs.mapM f).run' s = .ok cs →
      List.Forall₂ (fun a c => Gives (f a) (.ok c)) xs cs
  | [], s, cs, h => by
    cases h
    exact .nil
  | a :: xs, s, cs, h => by
    obtain ⟨s₂, h⟩ := run_of_run'_ok h
    rw [mapM_cons_run] at h
    cases ha : (f a).run s with
    | error e => rw [ha] at h; cases h
    | ok p =>
      rw [ha] at h
      cases hxs : (xs.mapM f).run p.2 with
      | error e => simp only [hxs] at h; cases h
      | ok q =>
        simp only [hxs, Except.ok.injEq, Prod.mk.injEq] at h
        rw [← h.1]
        exact .cons ⟨s, run'_of_run_ok ha⟩ (forall₂_of_mapM_ok (run'_of_run_ok hxs))

/-- A failed `mapM` failed on one of the elements, from some counter. -/
theorem exists_error_of_mapM :
    ∀ {xs : List α} {s : Nat} {e : QueryError}, (xs.mapM f).run' s = .error e →
      ∃ a ∈ xs, Gives (f a) (.error e)
  | [], s, e, h => by cases h
  | a :: xs, s, e, h => by
    rw [StateT.run'_eq, mapM_cons_run] at h
    cases ha : (f a).run s with
    | error e' =>
      rw [ha] at h
      cases h
      exact ⟨a, List.mem_cons_self .., s, run'_of_run_error ha⟩
    | ok p =>
      rw [ha] at h
      cases hxs : (xs.mapM f).run p.2 with
      | error e' =>
        simp only [hxs] at h
        cases h
        obtain ⟨a', ha', hgives⟩ := exists_error_of_mapM (run'_of_run_error hxs)
        exact ⟨a', List.mem_cons_of_mem _ ha', hgives⟩
      | ok q => simp only [hxs] at h; cases h

end MapM

/-! ## Lists related in any order -/

section PermRel

variable {S : α → β → Prop}

/-- The elements of `xs` correspond one to one to those of `ys` through `S`, in
any order. -/
def PermRel (S : α → β → Prop) (xs : List α) (ys : List β) : Prop :=
  ∃ zs, List.Forall₂ S xs zs ∧ zs.Perm ys

theorem PermRel.of_forall₂ {xs : List α} {ys : List β} (h : List.Forall₂ S xs ys) :
    PermRel S xs ys :=
  ⟨ys, h, .refl _⟩

/-- Two lists whose images are permutations of each other correspond through
equal images. -/
theorem PermRel.of_map_perm {xs : List α} {ys : List β} {f : α → γ} {g : β → γ}
    (h : (xs.map f).Perm (ys.map g)) : PermRel (fun a b => f a = g b) xs ys := by
  have hys : List.Forall₂ (fun c b => c = g b) (ys.map g) ys :=
    List.forall₂_map_left_iff.2 (List.forall₂_same.2 fun _ _ => rfl)
  obtain ⟨zs, hz, hp⟩ := List.perm_comp_forall₂ h hys
  exact ⟨zs, List.forall₂_map_left_iff.1 hz, hp⟩

theorem PermRel.imp {S' : α → β → Prop} (h : ∀ a b, S a b → S' a b) {xs : List α} {ys : List β}
    (hxy : PermRel S xs ys) : PermRel S' xs ys := by
  obtain ⟨zs, hxz, hzy⟩ := hxy
  exact ⟨zs, hxz.imp h, hzy⟩

/-- **Lists related in any order have permuted images** under maps to lists
that are permutations of each other on related elements. -/
theorem PermRel.flatMap_perm {F : α → List γ} {G : β → List γ} {xs : List α} {ys : List β}
    (hxy : PermRel S xs ys) (h : ∀ a b, S a b → (F a).Perm (G b)) :
    (xs.flatMap F).Perm (ys.flatMap G) := by
  obtain ⟨zs, hxz, hzy⟩ := hxy
  refine List.Perm.trans ?_ (hzy.flatMap_right G)
  clear hzy
  induction hxz with
  | nil => exact .nil
  | cons hab _ ih =>
    rw [List.flatMap_cons, List.flatMap_cons]
    exact (h _ _ hab).append ih

theorem PermRel.filterMap_perm {F : α → Option γ} {G : β → Option γ} {xs : List α} {ys : List β}
    (hxy : PermRel S xs ys) (h : ∀ a b, S a b → F a = G b) :
    (xs.filterMap F).Perm (ys.filterMap G) := by
  rw [List.filterMap_eq_flatMap_toList, List.filterMap_eq_flatMap_toList]
  exact hxy.flatMap_perm fun a b hab => by rw [h a b hab]

theorem PermRel.map_perm {F : α → γ} {G : β → γ} {xs : List α} {ys : List β}
    (hxy : PermRel S xs ys) (h : ∀ a b, S a b → F a = G b) : (xs.map F).Perm (ys.map G) := by
  rw [← List.filterMap_eq_map, ← List.filterMap_eq_map]
  exact hxy.filterMap_perm fun a b hab => by simp only [Function.comp_apply, h a b hab]

theorem forall₂_exists_right {xs : List α} {zs : List β} (h : List.Forall₂ S xs zs) {a : α}
    (ha : a ∈ xs) : ∃ z ∈ zs, S a z := by
  induction h with
  | nil => cases ha
  | cons hab _ ih =>
    rcases List.mem_cons.1 ha with rfl | ha
    · exact ⟨_, List.mem_cons_self .., hab⟩
    · obtain ⟨z, hz, h⟩ := ih ha
      exact ⟨z, List.mem_cons_of_mem _ hz, h⟩

theorem forall₂_exists_left {xs : List α} {zs : List β} (h : List.Forall₂ S xs zs) {z : β}
    (hz : z ∈ zs) : ∃ a ∈ xs, S a z := by
  induction h with
  | nil => cases hz
  | cons hab _ ih =>
    rcases List.mem_cons.1 hz with rfl | hz
    · exact ⟨_, List.mem_cons_self .., hab⟩
    · obtain ⟨a, ha, h⟩ := ih hz
      exact ⟨a, List.mem_cons_of_mem _ ha, h⟩

/-- Elements paired with their results, reordered along a permutation of the
elements. -/
theorem exists_forall₂_zip_perm {P : β → δ → Prop} {zs ys : List β} {ds : List δ}
    (hzy : zs.Perm ys) (hds : List.Forall₂ P ys ds) :
    ∃ ws : List (β × δ), List.Forall₂ (fun z w => w.1 = z ∧ P z w.2) zs ws ∧ ws.Perm (ys.zip ds) := by
  have hpairs : List.Forall₂ (fun y w => w.1 = y ∧ P y w.2) ys (ys.zip ds) := by
    clear hzy
    induction hds with
    | nil => exact .nil
    | cons hyd _ ih => exact .cons ⟨rfl, hyd⟩ ih
  exact List.perm_comp_forall₂ hzy hpairs

end PermRel

/-! ## `mapM` over lists related in any order -/

section MapMPerm

variable {E : QueryError → Prop} {S : α → β → Prop} {R : α → β → γ → δ → Prop} {f : α → EvalM γ} {g : β → EvalM δ}

/-- Pairs of elements and results from the two orders correspond. -/
theorem forall₂_zip_of_gives {xs : List α} {zs : List β} (hxz : List.Forall₂ S xs zs)
    (h : ∀ a b, S a b → Related E (R a b) (f a) (g b)) :
    ∀ {cs : List γ} {ws : List (β × δ)}, List.Forall₂ (fun a c => Gives (f a) (.ok c)) xs cs →
      List.Forall₂ (fun z w => w.1 = z ∧ Gives (g z) (.ok w.2)) zs ws →
      List.Forall₂ (fun p q => S p.1 q.1 ∧ R p.1 q.1 p.2 q.2) (xs.zip cs) ws := by
  induction hxz with
  | nil =>
    intro cs ws _ hws
    cases hws
    exact .nil
  | cons haz _ ih =>
    intro cs ws hcs hws
    cases hcs with
    | cons hac hcs =>
      cases hws with
      | cons hzw hws =>
        obtain ⟨rfl, hzd⟩ := hzw
        exact .cons ⟨haz, ((h _ _ haz).gives hac hzd).of_ok⟩ (ih hcs hws)

/-- **`mapM` over two lists related in any order**: where related elements
give related computations, the results, one per element, correspond pairwise
with the elements, or both computations fail, or one of them fails in an excused
way. -/
theorem Related.mapM_perm {xs : List α} {ys : List β} (hxy : PermRel S xs ys)
    (h : ∀ a b, S a b → Related E (R a b) (f a) (g b)) :
    Related E (fun cs ds => cs.length = xs.length ∧ ds.length = ys.length ∧
        PermRel (fun p q => S p.1 q.1 ∧ R p.1 q.1 p.2 q.2) (xs.zip cs) (ys.zip ds))
      (xs.mapM f) (ys.mapM g) := by
  obtain ⟨zs, hxz, hzy⟩ := hxy
  intro s s'
  cases hX : (xs.mapM f).run' s with
  | error e =>
    by_cases hexcused : E e
    · exact .excusedLeft _ hexcused
    cases hY : (ys.mapM g).run' s' with
    | error e' => exact .error e e'
    | ok ds =>
      -- The partner of the failed element succeeds on the right, yet cannot.
      obtain ⟨a, ha, hae⟩ := exists_error_of_mapM hX
      obtain ⟨z, hz, haz⟩ := forall₂_exists_right hxz ha
      obtain ⟨d, -, hzd⟩ := forall₂_exists_right (forall₂_of_mapM_ok hY) (hzy.subset hz)
      exact absurd (((h _ _ haz).gives hae hzd).excused_of_error_ok) hexcused
  | ok cs =>
    have hcs := forall₂_of_mapM_ok hX
    cases hY : (ys.mapM g).run' s' with
    | error e' =>
      by_cases hexcused : E e'
      · exact .excusedRight _ hexcused
      obtain ⟨b, hb, hbe⟩ := exists_error_of_mapM hY
      obtain ⟨a, ha, hab⟩ := forall₂_exists_left hxz (hzy.symm.subset hb)
      obtain ⟨c, -, hac⟩ := forall₂_exists_right hcs ha
      exact absurd (((h _ _ hab).gives hac hbe).excused_of_ok_error) hexcused
    | ok ds =>
      have hds := forall₂_of_mapM_ok hY
      obtain ⟨ws, hzw, hwy⟩ := exists_forall₂_zip_perm hzy hds
      exact .ok ⟨hcs.length_eq.symm, hds.length_eq.symm, ws, forall₂_zip_of_gives hxz h hcs hzw, hwy⟩

end MapMPerm

/-! ## What a computation may give

`Outcomes S P x` bounds what `x` may do from any counter: fail with an error that
`S` allows, or give a value that `P` allows.  Like a Hoare triple it composes
along `bind`, so a bound on a whole evaluation is assembled from bounds on its
steps. -/

section Outcomes

variable {S S' : QueryError → Prop} {P Q : α → Prop} {x : EvalM α}

/-- Every outcome of `x`, from any counter, is a failure that `S` allows or a
value that `P` allows. -/
structure Outcomes (S : QueryError → Prop) (P : α → Prop) (x : EvalM α) : Prop where
  fails : ∀ n e, x.run n = .error e → S e
  returns : ∀ n a n', x.run n = .ok (a, n') → P a

theorem Outcomes.mono (hS : ∀ e, S e → S' e) (hP : ∀ a, P a → Q a) (h : Outcomes S P x) :
    Outcomes S' Q x :=
  ⟨fun n e he => hS e (h.fails n e he), fun n a n' ha => hP a (h.returns n a n' ha)⟩

theorem outcomes_pure {a : α} (h : P a) : Outcomes S P (pure a) where
  fails _ _ he := by cases he
  returns _ _ _ ha := by cases ha; exact h

theorem outcomes_throw {e : QueryError} (h : S e) : Outcomes S P (throw e : EvalM α) where
  fails _ _ he := by cases he; exact h
  returns _ _ _ ha := by cases ha

theorem Outcomes.bind {R : β → Prop} {f : α → EvalM β} (hx : Outcomes S P x)
    (hf : ∀ a, P a → Outcomes S R (f a)) : Outcomes S R (x >>= f) := by
  constructor
  · intro n e he
    rw [run_bind] at he
    cases hrun : x.run n with
    | error e' =>
      rw [hrun] at he
      cases he
      exact hx.fails n _ hrun
    | ok p =>
      rw [hrun] at he
      exact (hf p.1 (hx.returns n p.1 p.2 hrun)).fails _ _ he
  · intro n b n' hb
    rw [run_bind] at hb
    cases hrun : x.run n with
    | error e' => rw [hrun] at hb; cases hb
    | ok p =>
      rw [hrun] at hb
      exact (hf p.1 (hx.returns n p.1 p.2 hrun)).returns _ _ _ hb

/-- `mapM` fails only as one of its calls does. -/
theorem Outcomes.mapM {f : α → EvalM β} :
    ∀ {xs : List α}, (∀ a ∈ xs, Outcomes S (fun _ => True) (f a)) →
      Outcomes S (fun _ => True) (xs.mapM f)
  | [], _ => outcomes_pure trivial
  | a :: xs, h => by
    rw [List.mapM_cons]
    exact (h a List.mem_cons_self).bind fun _ _ =>
      (Outcomes.mapM fun b hb => h b (List.mem_cons_of_mem a hb)).bind fun _ _ => outcomes_pure trivial

theorem Outcomes.map {g : α → β} (hx : Outcomes S P x) : Outcomes S (fun _ => True) (g <$> x) := by
  rw [map_eq_pure_bind]
  exact hx.bind fun _ _ => outcomes_pure trivial

/-- A left fold fails only as one of its steps does. -/
theorem Outcomes.foldlM {f : β → α → EvalM β} :
    ∀ {xs : List α} {b : β}, (∀ b, ∀ a ∈ xs, Outcomes S (fun _ => True) (f b a)) →
      Outcomes S (fun _ => True) (xs.foldlM f b)
  | [], _, _ => outcomes_pure trivial
  | a :: xs, b, h => by
    rw [List.foldlM_cons]
    exact (h b a List.mem_cons_self).bind fun _ _ =>
      Outcomes.foldlM fun b' c hc => h b' c (List.mem_cons_of_mem a hc)

/-- A loop fails only as one of its bodies does. -/
theorem Outcomes.forIn {f : α → β → EvalM (ForInStep β)} :
    ∀ {xs : List α} {b : β}, (∀ a ∈ xs, ∀ b, Outcomes S (fun _ => True) (f a b)) →
      Outcomes S (fun _ => True) (forIn xs b f)
  | [], _, _ => by
    rw [List.forIn_nil]
    exact outcomes_pure trivial
  | a :: xs, b, h => by
    rw [List.forIn_cons]
    refine (h a List.mem_cons_self b).bind fun step _ => ?_
    cases step with
    | done _ => exact outcomes_pure trivial
    | yield _ => exact Outcomes.forIn fun c hc => h c (List.mem_cons_of_mem a hc)

/-- A handler sees only the failures of the computation it guards. -/
theorem Outcomes.tryCatch {h : QueryError → EvalM α} (hx : Outcomes S' P x)
    (hh : ∀ e, S' e → Outcomes S P (h e)) : Outcomes S P (MonadExcept.tryCatch x h) := by
  have hrun : ∀ n, (MonadExcept.tryCatch x h).run n = match x.run n with
      | .error e => (h e).run n
      | .ok p => .ok p := fun n => by
    show MonadExcept.tryCatch (x.run n) (fun e => (h e).run n) = _
    cases x.run n <;> rfl
  constructor
  · intro n e he
    rw [hrun] at he
    cases hxn : x.run n with
    | error e' =>
      rw [hxn] at he
      exact (hh e' (hx.fails n e' hxn)).fails n e he
    | ok p => rw [hxn] at he; cases he
  · intro n a n' ha
    rw [hrun] at ha
    cases hxn : x.run n with
    | error e' =>
      rw [hxn] at ha
      exact (hh e' (hx.fails n e' hxn)).returns n a n' ha
    | ok p =>
      rw [hxn] at ha
      cases ha
      exact hx.returns n a n' hxn

/-- A failure of the error monad, lifted, is a failure of the computation. -/
theorem outcomes_monadLift {y : Except QueryError α} (h : ∀ e, y = .error e → S e) :
    Outcomes S (fun _ => True) (monadLift y : EvalM α) where
  fails n e he := by
    cases hy : y with
    | error e' =>
      rw [hy] at he
      cases he
      exact h _ hy
    | ok a => rw [hy] at he; cases he
  returns _ _ _ _ := trivial

end Outcomes

end SparqlBag
