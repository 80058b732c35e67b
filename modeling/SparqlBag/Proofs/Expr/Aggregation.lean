import SparqlBag.Proofs.Expr.Extremum
import SparqlBag.Proofs.Engine.Outcome

/-!
# Aggregates over a whole group

An aggregate folds the values of its expression over the solutions of a group,
skipping repeated values under `DISTINCT`, and stops once its result is decided.
For every aggregate but `MIN`, `MAX` and `agg:median` that result is a function of
the whole list of values (`Aggregate.apply_over_whole_group`).  The proof takes
the fold apart: evaluating the expression solution by solution (`finish_run`),
stopping early, which never changes a decided result (`foldl_of_isDone`), and
skipping repeated values (`finish_feed`); what is left is a fold of
`Accumulator.update`, with one invariant per aggregate.  `SAMPLE` is the
exception: its result is the first bound value only because the fold stops there.
-/

namespace SparqlBag

namespace Accumulator

/-! ## The fold without evaluation -/

/-- The accumulator after the values `vs`, stopping once decided, when the
values in `seen` were met before. -/
def feed (distinct : Bool) : Accumulator → List ExprValue → List ExprValue → Accumulator
  | acc, _, [] => acc
  | acc, seen, v :: vs =>
    if acc.isDone then acc
    else if distinct && seen.contains v then feed distinct acc seen vs
    else feed distinct (acc.update v) (if distinct then v :: seen else seen) vs

theorem run'_finish (acc : Accumulator) (n : Nat) :
    (liftM acc.finish : EvalM ExprValue).run' n = acc.finish := by
  cases acc.finish <;> rfl

/-- **Evaluating as the fold goes**: when the expression evaluates without
failure for every solution, the fold gives the result of feeding the values. -/
theorem finish_run (ctx : CallContext) (e : Expression) (distinct : Bool) :
    ∀ (scopes : List Scope) (acc : Accumulator) (seen : List ExprValue) (n n' : Nat)
      (vs : List ExprValue), (scopes.mapM (e.eval ctx)).run n = .ok (vs, n') →
      (run ctx e distinct acc seen scopes).run' n = (feed distinct acc seen vs).finish
  | [], acc, seen, n, n', vs, h => by
    have hvs : vs = [] := by
      simp only [List.mapM_nil] at h
      cases h
      rfl
    subst hvs
    exact run'_finish acc n
  | sc :: rest, acc, seen, n, n', vs, h => by
    rw [mapM_cons_run] at h
    cases hv : (e.eval ctx sc).run n with
    | error err => rw [hv] at h; cases h
    | ok p =>
      obtain ⟨v, n₁⟩ := p
      rw [hv] at h
      dsimp only at h
      cases hrest : (rest.mapM (e.eval ctx)).run n₁ with
      | error err => rw [hrest] at h; cases h
      | ok q =>
        obtain ⟨vs', n₂⟩ := q
        rw [hrest] at h
        cases h
        by_cases hdone : acc.isDone = true
        · simp only [run, feed, hdone, if_true]
          exact run'_finish acc n
        · -- The value of this solution, then the rest from the counter it leaves.
          have hbind : (run ctx e distinct acc seen (sc :: rest)).run' n =
              (if distinct && seen.contains v then run ctx e distinct acc seen rest
                else run ctx e distinct (acc.update v) (if distinct then v :: seen else seen) rest).run' n₁ := by
            simp only [run, hdone, Bool.false_eq_true, if_false, StateT.run'_eq]
            rw [run_bind, hv]
          rw [hbind]
          simp only [feed, hdone, Bool.false_eq_true, if_false]
          split
          · exact finish_run ctx e distinct rest acc seen n₁ n' vs' hrest
          · exact finish_run ctx e distinct rest _ _ n₁ n' vs' hrest

/-! ## Stopping early -/

/-- Whether an accumulator is that of `SAMPLE`, the one aggregate whose decided
state a later value still changes. -/
def isSample : Accumulator → Bool
  | .sample _ => true
  | _ => false

@[simp] theorem isSample_update (acc : Accumulator) (v : ExprValue) :
    (acc.update v).isSample = acc.isSample := by
  fun_cases update acc v <;> simp only [isSample]

/-- **A decided accumulator other than `SAMPLE` stays decided**, and its result
does not change. -/
theorem update_of_isDone {acc : Accumulator} (hs : acc.isSample = false) (h : acc.isDone = true)
    (v : ExprValue) : (acc.update v).isDone = true ∧ (acc.update v).finish = acc.finish := by
  cases acc with
  | sum total => cases total <;> cases v <;> simp_all [isDone, update]
  | avg total c => cases total <;> cases v <;> simp_all [isDone, update, finish, value]
  | sample value => simp [isSample] at hs
  | groupConcat sep text k lang =>
    cases text with
    | none =>
      cases v with
      | bound t => cases hs : stringArg t <;> simp [isDone, update, finish, value, hs]
      | unbound => exact ⟨h, rfl⟩
      | error => simp [isDone, update, finish, value]
    | some x => simp [isDone] at h
  | all r => cases r <;> simp_all [isDone, update]
  | any r => cases r <;> simp_all [isDone, update]
  | never f => cases f <;> simp_all [isDone, update]
  | median values => cases values <;> cases v <;> simp_all [isDone, update]
  | count c => simp [isDone] at h
  | extremum r c => simp [isDone] at h
  | mode counts => simp [isDone] at h

/-- **A decided state keeps its result**: for every accumulator but `SAMPLE`'s,
whatever values are fed after a decided state. -/
theorem foldl_of_isDone {acc : Accumulator} (hs : acc.isSample = false) (h : acc.isDone = true) :
    ∀ ws : List ExprValue, (ws.foldl update acc).isDone = true ∧ (ws.foldl update acc).finish = acc.finish
  | [] => ⟨h, rfl⟩
  | w :: ws => by
    obtain ⟨hdone, hfinish⟩ := update_of_isDone hs h w
    obtain ⟨hdone', hfinish'⟩ := foldl_of_isDone ((isSample_update acc w).trans hs) hdone ws
    exact ⟨hdone', hfinish'.trans hfinish⟩

/-! ## Skipping repeated values -/

end Accumulator

/-- The values of `vs` not in `seen`, each the first time it comes. -/
def dedupeFrom {α : Type} [BEq α] (seen : List α) : List α → List α
  | [] => []
  | v :: vs => if seen.contains v then dedupeFrom seen vs else v :: dedupeFrom (v :: seen) vs

theorem foldl_dedupe_eq {α : Type} [BEq α] [LawfulBEq α] :
    ∀ (vs pre seen : List α), (∀ x, x ∈ seen ↔ x ∈ pre) →
      vs.foldl (fun acc x => if acc.contains x then acc else acc ++ [x]) pre =
        pre ++ dedupeFrom seen vs
  | [], pre, seen, _ => by simp [dedupeFrom]
  | v :: vs, pre, seen, hmem => by
    have hv : seen.contains v = pre.contains v := by
      rw [Bool.eq_iff_iff]
      simp [hmem v]
    rw [List.foldl_cons, dedupeFrom, hv]
    by_cases hpre : pre.contains v = true
    · rw [if_pos hpre, if_pos hpre]
      exact foldl_dedupe_eq vs pre seen hmem
    · rw [if_neg hpre, if_neg hpre, foldl_dedupe_eq vs (pre ++ [v]) (v :: seen)]
      · simp
      · intro x
        simp [hmem x, or_comm]

/-- Keeping the first of equal values is skipping them after the first. -/
theorem dedupe_eq_dedupeFrom {α : Type} [BEq α] [LawfulBEq α] (vs : List α) :
    dedupe vs = dedupeFrom [] vs := by
  rw [dedupe, foldl_dedupe_eq vs [] [] (fun _ => Iff.rfl), List.nil_append]

section Dedupe

variable {α : Type} [BEq α] [LawfulBEq α]

theorem mem_dedupeFrom (x : α) :
    ∀ (seen vs : List α), x ∈ dedupeFrom seen vs ↔ x ∈ vs ∧ x ∉ seen
  | _, [] => by simp [dedupeFrom]
  | seen, v :: vs => by
    rw [dedupeFrom]
    split
    · next hv =>
      rw [mem_dedupeFrom x seen vs]
      simp only [List.contains_iff_mem] at hv
      grind
    · next hv =>
      rw [List.mem_cons, mem_dedupeFrom x (v :: seen) vs]
      simp only [List.contains_iff_mem] at hv
      grind

theorem nodup_dedupeFrom : ∀ (seen vs : List α), (dedupeFrom seen vs).Nodup
  | _, [] => List.nodup_nil
  | seen, v :: vs => by
    rw [dedupeFrom]
    split
    · exact nodup_dedupeFrom seen vs
    · refine List.nodup_cons.2 ⟨fun h => ?_, nodup_dedupeFrom (v :: seen) vs⟩
      exact ((mem_dedupeFrom v _ _).1 h).2 List.mem_cons_self

/-- Skipping values that fail a test changes nothing for the first that passes it. -/
theorem find?_dedupeFrom (p : α → Bool) :
    ∀ (seen vs : List α), (∀ x ∈ seen, p x = false) → (dedupeFrom seen vs).find? p = vs.find? p
  | _, [], _ => rfl
  | seen, v :: vs, hseen => by
    rw [dedupeFrom]
    split
    · next hv =>
      have hpv : p v = false := hseen v (List.contains_iff_mem.1 hv)
      rw [find?_dedupeFrom p seen vs hseen, List.find?_cons_of_neg (by simp [hpv])]
    · by_cases hpv : p v = true
      · rw [List.find?_cons_of_pos hpv, List.find?_cons_of_pos hpv]
      · have hseen' : ∀ x ∈ v :: seen, p x = false := by
          intro x hx
          rcases List.mem_cons.1 hx with rfl | hx
          · simpa using hpv
          · exact hseen x hx
        rw [List.find?_cons_of_neg hpv, List.find?_cons_of_neg hpv, find?_dedupeFrom p (v :: seen) vs hseen']

theorem mem_dedupe (x : α) (vs : List α) : x ∈ dedupe vs ↔ x ∈ vs := by
  simp [dedupe_eq_dedupeFrom, mem_dedupeFrom]

theorem nodup_dedupe (vs : List α) : (dedupe vs).Nodup := by
  rw [dedupe_eq_dedupeFrom]
  exact nodup_dedupeFrom [] vs

theorem find?_dedupe (p : α → Bool) (vs : List α) : (dedupe vs).find? p = vs.find? p := by
  rw [dedupe_eq_dedupeFrom]
  exact find?_dedupeFrom p [] vs (by simp)

theorem all_dedupe (p : α → Bool) (vs : List α) : (dedupe vs).all p = vs.all p := by
  rw [Bool.eq_iff_iff]
  simp [List.all_eq_true, mem_dedupe]

theorem dedupe_append_singleton (vs : List α) (x : α) :
    dedupe (vs ++ [x]) = if x ∈ vs then dedupe vs else dedupe vs ++ [x] := by
  have hstep : dedupe (vs ++ [x]) = if (dedupe vs).contains x then dedupe vs else dedupe vs ++ [x] := by
    rw [dedupe, List.foldl_append, List.foldl_cons, List.foldl_nil]
    rfl
  simp only [hstep, List.contains_iff_mem, mem_dedupe]

end Dedupe

namespace Accumulator

/-- **Feeding is folding `update` over the values fed**: all of them, or under
`DISTINCT` the first of each kind; stopping early changes nothing, but for
`SAMPLE`. -/
theorem finish_feed (distinct : Bool) :
    ∀ (acc : Accumulator), acc.isSample = false → ∀ (seen vs : List ExprValue),
      (feed distinct acc seen vs).finish =
        ((if distinct then dedupeFrom seen vs else vs).foldl update acc).finish
  | acc, _, seen, [] => by cases distinct <;> rfl
  | acc, hs, seen, v :: vs => by
    have hs' : (acc.update v).isSample = false := (isSample_update acc v).trans hs
    by_cases hdone : acc.isDone = true
    · rw [feed, if_pos hdone, (foldl_of_isDone hs hdone _).2]
    · rw [feed, if_neg hdone]
      cases distinct with
      | false => simpa using finish_feed false (acc.update v) hs' seen vs
      | true =>
        cases hseen : seen.contains v with
        | true =>
          simp only [Bool.true_and, hseen, if_true, dedupeFrom]
          exact finish_feed true acc hs seen vs
        | false =>
          simp only [Bool.true_and, hseen, Bool.false_eq_true, if_false, if_true, dedupeFrom,
            List.foldl_cons]
          exact finish_feed true (acc.update v) hs' (v :: seen) vs

theorem feed_of_isDone (distinct : Bool) {acc : Accumulator} (h : acc.isDone = true) :
    ∀ seen vs, feed distinct acc seen vs = acc
  | _, [] => rfl
  | _, _ :: _ => by rw [feed, if_pos h]

/-- **`SAMPLE` stops at its first bound value**: from the empty sample, with no
bound value among the values met before, feeding gives the first bound value fed,
under `DISTINCT` too. -/
theorem feed_sample (distinct : Bool) :
    ∀ (seen vs : List ExprValue), (∀ t, ExprValue.bound t ∉ seen) →
      feed distinct (.sample none) seen vs =
        .sample (boundTerms (if distinct then dedupeFrom seen vs else vs)).head?
  | seen, [], _ => by cases distinct <;> rfl
  | seen, v :: vs, hseen => by
    rw [feed, if_neg (by simp [isDone])]
    cases hv : v.term? with
    | some t =>
      -- a bound value is never one met before, and it decides the sample
      obtain rfl : v = .bound t := by cases v <;> simp_all [ExprValue.term?]
      have hnew : seen.contains (.bound t) = false := by simpa using hseen t
      rw [hnew, Bool.and_false, if_neg Bool.false_ne_true, feed_of_isDone distinct rfl]
      cases distinct <;> simp [dedupeFrom, hseen t] <;> rfl
    | none =>
      -- a value that is not bound leaves the sample empty, met before or not
      have hupd : (Accumulator.sample none).update v = .sample none := by
        cases v <;> simp_all [ExprValue.term?] <;> rfl
      have hbt : ∀ ws, boundTerms (v :: ws) = boundTerms ws := fun ws => by simp [boundTerms, hv]
      cases distinct with
      | false => simpa [hupd, hbt] using feed_sample false seen vs hseen
      | true =>
        by_cases hmem : v ∈ seen
        · simpa [hmem, dedupeFrom] using feed_sample true seen vs hseen
        · have hseen' : ∀ t, ExprValue.bound t ∉ v :: seen := by
            intro t ht
            rcases List.mem_cons.1 ht with h | h
            · simp [← h, ExprValue.term?] at hv
            · exact hseen t h
          simpa [hmem, dedupeFrom, hupd, hbt] using feed_sample true (v :: seen) vs hseen'

end Accumulator

namespace Accumulator

/-! ## The fold of `update` -/

/-- An invariant between the values fed so far and the accumulator, kept by
one update, holds after the whole fold. -/
theorem foldl_update_induction {R : List ExprValue → Accumulator → Prop}
    (step : ∀ ws acc v, R ws acc → R (ws ++ [v]) (acc.update v)) {acc : Accumulator} (h : R [] acc) :
    ∀ vs, R vs (vs.foldl update acc) := by
  -- The values already fed are the prefix `ws`.
  suffices hfeed : ∀ vs ws acc, R ws acc → R (ws ++ vs) (vs.foldl update acc) from
    fun vs => hfeed vs [] acc h
  intro vs
  induction vs with
  | nil => intro ws acc hR; simpa using hR
  | cons v vs ih =>
    intro ws acc hR
    have := ih (ws ++ [v]) (acc.update v) (step ws acc v hR)
    rw [List.append_assoc, List.singleton_append] at this
    exact this

end Accumulator

/-! ## Whole-group values -/

section Terms

@[simp] theorem boundTerms_append (vs ws : List ExprValue) :
    boundTerms (vs ++ ws) = boundTerms vs ++ boundTerms ws :=
  List.filterMap_append

@[simp] theorem boundTerms_nil : boundTerms [] = [] := rfl

@[simp] theorem boundTerms_bound (t : Term) : boundTerms [.bound t] = [t] := rfl

@[simp] theorem boundTerms_unbound : boundTerms [.unbound] = [] := rfl

@[simp] theorem boundTerms_error : boundTerms [.error] = [] := rfl

end Terms

/-- `SUM` over a group: nothing for an error value, otherwise the checked sum
of its terms from the integer zero, left to right. -/
def sumOver (vs : List ExprValue) : Option Numeric :=
  if vs.contains .error then none
  else (boundTerms vs).foldlM (fun s t => numericArg t >>= s.add) (.integer 0)

theorem sumOver_append_bound (ws : List ExprValue) (t : Term) :
    sumOver (ws ++ [.bound t]) = (sumOver ws).bind fun s => numericArg t >>= s.add := by
  unfold sumOver
  by_cases h : ExprValue.error ∈ ws <;> simp [h, List.foldlM_append]

theorem sumOver_append_unbound (ws : List ExprValue) : sumOver (ws ++ [.unbound]) = sumOver ws := by
  unfold sumOver
  by_cases h : ExprValue.error ∈ ws <;> simp [h]

theorem sumOver_append_error (ws : List ExprValue) : sumOver (ws ++ [.error]) = none := by
  simp [sumOver]

/-- With no term to add, the sum is the integer zero it starts from. -/
theorem sumOver_of_boundTerms_nil {ws : List ExprValue} (h : boundTerms ws = []) {s : Numeric}
    (hs : sumOver ws = some s) : s = .integer 0 := by
  unfold sumOver at hs
  rw [h] at hs
  split at hs <;> simp_all

/-- `AVG` over a group: the sum divided by the number of terms, the integer
zero for no term. -/
def avgOver (vs : List ExprValue) : ExprValue :=
  ExprValue.ofOption do
    let total ← sumOver vs
    if boundTerms vs = [] then return (Numeric.integer 0).toTerm
    return (← total.div (.integer (boundTerms vs).length)).toTerm

/-- Whether a value counts as true for `agg:all`, `agg:any` and `agg:none`. -/
def ExprValue.holds (v : ExprValue) : Bool := v.ebv == some true

namespace Accumulator

theorem foldl_count (vs : List ExprValue) :
    vs.foldl update (.count 0) = .count (boundTerms vs).length := by
  refine foldl_update_induction (R := fun ws acc => acc = .count (boundTerms ws).length) ?_ rfl vs
  rintro ws _ v rfl
  cases v <;> simp [update]

theorem foldl_sum (vs : List ExprValue) :
    vs.foldl update (.sum (some (.integer 0))) = .sum (sumOver vs) := by
  refine foldl_update_induction (R := fun ws acc => acc = .sum (sumOver ws)) ?_ rfl vs
  rintro ws _ v rfl
  cases v with
  | bound t => rw [sumOver_append_bound]; cases sumOver ws <;> rfl
  | unbound => rw [sumOver_append_unbound]; cases sumOver ws <;> rfl
  | error => rw [sumOver_append_error]; cases sumOver ws <;> rfl

/-- The count of `AVG` is that of the terms while the sum lasts; after an
error it no longer matters. -/
theorem foldl_avg (vs : List ExprValue) :
    ∃ c, vs.foldl update (.avg (some (.integer 0)) 0) = .avg (sumOver vs) c ∧
      ∀ s, sumOver vs = some s → c = (boundTerms vs).length := by
  refine foldl_update_induction
    (R := fun ws acc => ∃ c, acc = .avg (sumOver ws) c ∧ ∀ s, sumOver ws = some s → c = (boundTerms ws).length)
    ?_ ⟨0, rfl, fun _ _ => rfl⟩ vs
  rintro ws _ v ⟨c, rfl, hc⟩
  cases v with
  | bound t =>
    rw [sumOver_append_bound]
    cases hs : sumOver ws with
    | none => exact ⟨c + 1, rfl, by simp⟩
    | some s => exact ⟨c + 1, rfl, by simp [hc s hs]⟩
  | unbound =>
    rw [sumOver_append_unbound]
    cases hs : sumOver ws with
    | none => exact ⟨c + 1, rfl, by simp⟩
    | some s => exact ⟨c, rfl, by simp [hc s hs]⟩
  | error => exact ⟨c + 1, by rw [sumOver_append_error]; cases sumOver ws <;> rfl, by simp [sumOver_append_error]⟩

theorem value_avg {vs : List ExprValue} {c : Nat} (hc : ∀ s, sumOver vs = some s → c = (boundTerms vs).length) :
    (Accumulator.avg (sumOver vs) c).value = avgOver vs := by
  cases hs : sumOver vs with
  | none => simp [value, avgOver, hs]
  | some s =>
    rw [hc s hs]
    by_cases hnil : boundTerms vs = []
    · simp [value, avgOver, hs, hnil, sumOver_of_boundTerms_nil hnil hs]
    · simp [value, avgOver, hs, hnil]

theorem foldl_all (vs : List ExprValue) : vs.foldl update (.all true) = .all (vs.all ExprValue.holds) := by
  refine foldl_update_induction (R := fun ws acc => acc = .all (ws.all ExprValue.holds)) ?_ rfl vs
  rintro ws _ v rfl
  simp [update, ExprValue.holds]

theorem foldl_any (vs : List ExprValue) : vs.foldl update (.any false) = .any (vs.any ExprValue.holds) := by
  refine foldl_update_induction (R := fun ws acc => acc = .any (ws.any ExprValue.holds)) ?_ rfl vs
  rintro ws _ v rfl
  simp [update, ExprValue.holds]

theorem foldl_never (vs : List ExprValue) :
    vs.foldl update (.never false) = .never (vs.any ExprValue.holds) := by
  refine foldl_update_induction (R := fun ws acc => acc = .never (ws.any ExprValue.holds)) ?_ rfl vs
  rintro ws _ v rfl
  simp [update, ExprValue.holds]

end Accumulator

/-! ### `GROUP_CONCAT` -/

/-- The strings of a group with their languages: nothing for an error value or
a term that is no string. -/
def concatArgs (vs : List ExprValue) : Option (List (String × Option String)) :=
  if vs.contains .error then none else (boundTerms vs).mapM stringArg

/-- The language all of a list have, when they have the same one. -/
def commonLanguage : List (Option String) → Option String
  | [] => none
  | l :: ls => if ls.all (· == l) then l else none

/-- `GROUP_CONCAT` over a group with the separator `sep`. -/
def concatOver (sep : String) (vs : List ExprValue) : ExprValue :=
  ExprValue.ofOption ((concatArgs vs).map fun args =>
    stringTerm (sep.intercalate (args.map Prod.fst)) (commonLanguage (args.map Prod.snd)))

theorem concatArgs_append_bound (ws : List ExprValue) (t : Term) :
    concatArgs (ws ++ [.bound t]) = (concatArgs ws).bind fun args => (stringArg t).map fun a => args ++ [a] := by
  unfold concatArgs
  by_cases h : ExprValue.error ∈ ws
  · simp [h]
  · simp [h, List.mapM_append]
    -- The two sides differ only in how the options are taken apart.
    cases List.mapM stringArg (boundTerms ws) <;> cases stringArg t <;> rfl

theorem concatArgs_append_unbound (ws : List ExprValue) : concatArgs (ws ++ [.unbound]) = concatArgs ws := by
  unfold concatArgs
  by_cases h : ExprValue.error ∈ ws <;> simp [h]

theorem concatArgs_append_error (ws : List ExprValue) : concatArgs (ws ++ [.error]) = none := by
  simp [concatArgs]

theorem intercalate_append_singleton (sep : String) (ss : List String) (s : String) :
    sep.intercalate (ss ++ [s]) = if ss = [] then s else sep.intercalate ss ++ sep ++ s := by
  by_cases h : ss = []
  · simp [h, String.intercalate_singleton]
  · rw [if_neg h, String.intercalate_append_of_ne_nil h (List.cons_ne_nil s []), String.intercalate_singleton]

/-- One more language keeps the common one exactly when it is that one. -/
theorem commonLanguage_append_singleton (ls : List (Option String)) (l : Option String) :
    commonLanguage (ls ++ [l]) =
      if ls = [] then l else if commonLanguage ls = l then commonLanguage ls else none := by
  cases ls with
  | nil => simp [commonLanguage]
  | cons l₀ ls =>
    simp only [List.cons_append, commonLanguage, List.all_append, List.all_cons, List.all_nil,
      Bool.and_true, reduceCtorEq, if_false]
    by_cases hall : ls.all (· == l₀) = true
    · by_cases hl : l = l₀
      · simp [hall, hl]
      · simp [hall, hl, Ne.symm hl]
    · simp [hall]

namespace Accumulator

/-- One string more: the separator goes before it unless it is the first, and
the language stays only if it is the same. -/
theorem update_groupConcat_string {sep : String} {args : List (String × Option String)} {t : Term}
    {s : String} {l : Option String} (hs : stringArg t = some (s, l)) :
    (groupConcat sep (some (sep.intercalate (args.map Prod.fst))) args.length
        (commonLanguage (args.map Prod.snd))).update (.bound t) =
      .groupConcat sep (some (sep.intercalate ((args ++ [(s, l)]).map Prod.fst))) (args ++ [(s, l)]).length
        (commonLanguage ((args ++ [(s, l)]).map Prod.snd)) := by
  cases args with
  | nil => simp [update, hs, commonLanguage]
  | cons a as =>
    simp only [List.map_append, List.map_cons, List.map_nil]
    rw [intercalate_append_singleton, commonLanguage_append_singleton]
    simp [update, hs]

/-- The text of `GROUP_CONCAT` is the strings joined while they last; the
count and the language matter only then. -/
theorem foldl_groupConcat (sep : String) (vs : List ExprValue) :
    ∃ k lang, vs.foldl update (.groupConcat sep (some "") 0 none) =
        .groupConcat sep ((concatArgs vs).map fun args => sep.intercalate (args.map Prod.fst)) k lang ∧
      ∀ args, concatArgs vs = some args → k = args.length ∧ lang = commonLanguage (args.map Prod.snd) := by
  refine foldl_update_induction
    (R := fun ws acc => ∃ k lang,
      acc = .groupConcat sep ((concatArgs ws).map fun args => sep.intercalate (args.map Prod.fst)) k lang ∧
      ∀ args, concatArgs ws = some args → k = args.length ∧ lang = commonLanguage (args.map Prod.snd))
    ?_ ⟨0, none, rfl, fun args h => by simp [concatArgs] at h; subst h; exact ⟨rfl, rfl⟩⟩ vs
  rintro ws _ v ⟨k, lang, rfl, hk⟩
  cases v with
  | bound t =>
    rw [concatArgs_append_bound]
    cases hs : stringArg t with
    | none => exact ⟨k, lang, by simp [update, hs], by simp⟩
    | some a =>
      obtain ⟨s, l⟩ := a
      cases hc : concatArgs ws with
      | none =>
        refine ⟨k + 1, if k == 0 then l else if lang == l then lang else none, ?_, by simp⟩
        simp [update, hs]
      | some args =>
        obtain ⟨rfl, rfl⟩ := hk args hc
        simp only [Option.map_some, Option.bind_some]
        exact ⟨_, _, update_groupConcat_string hs, fun args' h' => by cases h'; exact ⟨rfl, rfl⟩⟩
  | unbound => exact ⟨k, lang, by rw [concatArgs_append_unbound]; rfl, by rwa [concatArgs_append_unbound]⟩
  | error => exact ⟨k, lang, by rw [concatArgs_append_error]; rfl, by simp [concatArgs_append_error]⟩

theorem value_groupConcat {sep : String} {vs : List ExprValue} {k : Nat} {lang : Option String}
    (hk : ∀ args, concatArgs vs = some args → k = args.length ∧ lang = commonLanguage (args.map Prod.snd)) :
    (groupConcat sep ((concatArgs vs).map fun args => sep.intercalate (args.map Prod.fst)) k lang).value =
      concatOver sep vs := by
  cases hc : concatArgs vs with
  | none => simp [value, concatOver, hc]
  | some args => simp [value, concatOver, hc, (hk args hc).2]

end Accumulator

/-! ### `agg:mode` -/

/-- `agg:mode` over a group: the first term among those seen most often,
unbound for no term. -/
def modeOver (vs : List ExprValue) : ExprValue :=
  let ts := boundTerms vs
  (ts.find? fun t => ts.all fun u => ts.count u ≤ ts.count t).elim .unbound .bound

/-- The terms of `ts`, each the first time it comes, with how often it comes. -/
def tally (ts : List Term) : List (Term × Nat) := (dedupe ts).map fun t => (t, ts.count t)

/-- Whether no entry of `L` has a greater count than `x`. -/
def hasTopCount (L : List (Term × Nat)) (x : Term × Nat) : Bool := L.all fun q => q.2 ≤ x.2

namespace Accumulator

/-- Bumping a term in a list of distinct terms with their counts adds one to
its count, or appends it with count one. -/
theorem bump_map {t : Term} {g : Term → Nat} :
    ∀ {D : List Term}, D.Nodup → (t ∈ D ∨ g t = 0) →
      bump t (D.map fun u => (u, g u)) =
        (D ++ if t ∈ D then [] else [t]).map fun u => (u, g u + if t = u then 1 else 0)
  | [], _, hg => by simpa [bump] using hg
  | u :: D, hD, hg => by
    obtain ⟨hu, hD'⟩ := List.nodup_cons.1 hD
    by_cases hut : u = t
    · subst hut
      simp only [List.map_cons, bump, beq_self_eq_true, if_true, List.mem_cons_self, List.append_nil]
      refine congrArg _ (List.map_congr_left fun w hw => ?_)
      simp [show u ≠ w from fun h => hu (h ▸ hw)]
    · have hg' : t ∈ D ∨ g t = 0 := by simpa [Ne.symm hut] using hg
      simp [bump, hut, bump_map hD' hg', Ne.symm hut]

theorem tally_append_singleton (ts : List Term) (t : Term) : tally (ts ++ [t]) = bump t (tally ts) := by
  have hg : t ∈ dedupe ts ∨ ts.count t = 0 := by
    by_cases h : t ∈ ts
    · exact Or.inl ((mem_dedupe t ts).2 h)
    · exact Or.inr (List.count_eq_zero.2 h)
  unfold tally
  rw [bump_map (nodup_dedupe ts) hg, dedupe_append_singleton]
  by_cases h : t ∈ ts <;> simp [h, mem_dedupe, List.count_append, List.count_singleton]

/-- The count of a value stays in its entry: `tally` is the state of `agg:mode`. -/
theorem foldl_mode (vs : List ExprValue) : vs.foldl update (.mode []) = .mode (tally (boundTerms vs)) := by
  refine foldl_update_induction (R := fun ws acc => acc = .mode (tally (boundTerms ws))) ?_ rfl vs
  rintro ws _ v rfl
  cases v with
  | bound t => simp [update, tally_append_singleton]
  | unbound => simp [update]
  | error => simp [update]

/-- Against the first of the entries kept so far and the next one, the greater
count wins and a tie keeps the first. -/
theorem find?_top_cons_cons (b p : Term × Nat) (L : List (Term × Nat)) :
    (b :: p :: L).find? (hasTopCount (b :: p :: L)) =
      if b.2 < p.2 then (p :: L).find? (hasTopCount (p :: L)) else (b :: L).find? (hasTopCount (b :: L)) := by
  split
  · next hlt =>
    -- `b` is below `p`, so it bounds no candidate and is none itself.
    have hP : hasTopCount (b :: p :: L) = hasTopCount (p :: L) := by
      funext x
      by_cases hx : p.2 ≤ x.2
      · simp [hasTopCount, hx, show b.2 ≤ x.2 by omega]
      · simp [hasTopCount, hx]
    rw [hP, List.find?_cons_of_neg (by simp [hasTopCount]; omega)]
  · next hge =>
    -- `p` is not above `b`, so it bounds no candidate, and it is one only when `b` is.
    have hP : hasTopCount (b :: p :: L) = hasTopCount (b :: L) := by
      funext x
      by_cases hx : b.2 ≤ x.2
      · simp [hasTopCount, hx, show p.2 ≤ x.2 by omega]
      · simp [hasTopCount, hx]
    rw [hP]
    by_cases hb : hasTopCount (b :: L) b = true
    · rw [List.find?_cons_of_pos hb, List.find?_cons_of_pos hb]
    · have hp : ¬ hasTopCount (b :: L) p = true := by
        intro hp
        apply hb
        simp only [hasTopCount, List.all_eq_true, decide_eq_true_eq] at hp ⊢
        intro q hq
        have := hp q hq
        have := hp b List.mem_cons_self
        omega
      rw [List.find?_cons_of_neg hb, List.find?_cons_of_neg hp, List.find?_cons_of_neg hb]

theorem foldl_best {F : Option (Term × Nat) → Term × Nat → Option (Term × Nat)}
    (hsome : ∀ b p, F (some b) p = if b.2 < p.2 then some p else some b) :
    ∀ (L : List (Term × Nat)) (b : Term × Nat), L.foldl F (some b) = (b :: L).find? (hasTopCount (b :: L))
  | [], b => by simp [hasTopCount]
  | p :: L, b => by
    rw [List.foldl_cons, hsome, find?_top_cons_cons]
    split
    · exact foldl_best hsome L p
    · exact foldl_best hsome L b

/-- **The most frequent term is the first of greatest count.** -/
theorem mostFrequent_eq (L : List (Term × Nat)) :
    mostFrequent L = (L.find? (hasTopCount L)).map Prod.fst := by
  unfold mostFrequent
  cases L with
  | nil => rfl
  | cons p L =>
    rw [List.foldl_cons]
    exact congrArg _ (foldl_best (fun b p => rfl) L p)

theorem value_mode (vs : List ExprValue) : (mode (tally (boundTerms vs))).value = modeOver vs := by
  have hP : (hasTopCount (tally (boundTerms vs)) ∘ fun t => (t, (boundTerms vs).count t)) =
      fun t => (boundTerms vs).all fun u => (boundTerms vs).count u ≤ (boundTerms vs).count t := by
    funext t
    simp only [Function.comp, hasTopCount, tally, List.all_map]
    exact all_dedupe _ _
  simp only [value, modeOver, mostFrequent_eq, tally, List.find?_map, Option.map_map]
  rw [← tally, hP, find?_dedupe]
  cases (boundTerms vs).find? _ <;> rfl

/-- A tie goes to the term seen first. -/
example : modeOver [.bound (.iri "b"), .unbound, .bound (.iri "a"), .bound (.iri "a"), .bound (.iri "b")] =
    .bound (.iri "b") := by
  decide

end Accumulator

/-! ## Aggregates over a group -/

namespace Aggregate

/-- The value of an aggregate over a group whose every evaluation succeeds is
the result of feeding its values, stopping once decided. -/
theorem apply_call_run'_eq_feed {ctx : CallContext} {vars : List Variable} {scopes : List Scope}
    {e : Expression} {n n' : Nat} {vs : List ExprValue} (h : (scopes.mapM (e.eval ctx)).run n = .ok (vs, n'))
    (f : AggregateFunction) (distinct : Bool) {init : Accumulator} (hf : Accumulator.ofFunction f = .ok init) :
    (apply ctx vars scopes (.call f e distinct)).run' n = (Accumulator.feed distinct init [] vs).finish := by
  have hstart : (apply ctx vars scopes (.call f e distinct)).run' n =
      (Accumulator.run ctx e distinct init [] scopes).run' n := by
    simp only [apply, hf]
    rfl
  rw [hstart, Accumulator.finish_run ctx e distinct scopes init [] n n' vs h]

/-- The value of an aggregate other than `SAMPLE` over a group whose every
evaluation succeeds is the result of folding `update` over its values, under
`DISTINCT` the first of each kind. -/
theorem apply_call_run' {ctx : CallContext} {vars : List Variable} {scopes : List Scope}
    {e : Expression} {n n' : Nat} {vs : List ExprValue} (h : (scopes.mapM (e.eval ctx)).run n = .ok (vs, n'))
    (f : AggregateFunction) (distinct : Bool) {init : Accumulator} (hf : Accumulator.ofFunction f = .ok init)
    (hs : init.isSample = false) :
    (apply ctx vars scopes (.call f e distinct)).run' n =
      ((if distinct then dedupe vs else vs).foldl Accumulator.update init).finish := by
  rw [apply_call_run'_eq_feed h f distinct hf, Accumulator.finish_feed distinct init hs]
  cases distinct <;> simp [dedupe_eq_dedupeFrom]

/-- **Aggregates over a whole group.**  When the expression evaluates without
failure for every solution of a group, giving the values `vs`, and `ws` are
these values or under `DISTINCT` the first of each kind, then `COUNT`, `SUM`,
`AVG`, `SAMPLE`, `GROUP_CONCAT` (by a space unless told otherwise), `agg:all`,
`agg:any`, `agg:none` and `agg:mode` give their value over `ws`. -/
theorem apply_over_whole_group (ctx : CallContext) (vars : List Variable) (scopes : List Scope)
    (e : Expression) (distinct : Bool) (n n' : Nat) (vs : List ExprValue)
    (h : (scopes.mapM (e.eval ctx)).run n = .ok (vs, n')) :
    let ws := if distinct then dedupe vs else vs
    let result (f : AggregateFunction) := (apply ctx vars scopes (.call f e distinct)).run' n
    result .count = .ok (.bound (.literal (integerLiteral (boundTerms ws).length))) ∧
      result .sum = .ok (ExprValue.ofOption ((sumOver ws).map Numeric.toTerm)) ∧
      result .avg = .ok (avgOver ws) ∧
      result .sample = .ok ((boundTerms ws).head?.elim .unbound .bound) ∧
      (∀ sep, result (.groupConcat sep) = .ok (concatOver (sep.getD " ") ws)) ∧
      result (.custom (aggregateNs ++ "all")) = .ok (.ofBool (ws.all ExprValue.holds)) ∧
      result (.custom (aggregateNs ++ "any")) = .ok (.ofBool (ws.any ExprValue.holds)) ∧
      result (.custom (aggregateNs ++ "none")) = .ok (.ofBool (!ws.any ExprValue.holds)) ∧
      result (.custom (aggregateNs ++ "mode")) = .ok (modeOver ws) := by
  intro ws result
  have hresult : ∀ f init, Accumulator.ofFunction f = .ok init → init.isSample = false →
      result f = (ws.foldl Accumulator.update init).finish :=
    fun f _ hf hs => apply_call_run' h f distinct hf hs
  refine ⟨?count, ?sum, ?avg, ?sample, ?concat, ?all, ?any, ?none, ?mode⟩
  case count => rw [hresult .count _ rfl rfl, Accumulator.foldl_count]; rfl
  case sum => rw [hresult .sum _ rfl rfl, Accumulator.foldl_sum]; rfl
  case avg =>
    obtain ⟨c, hacc, hc⟩ := Accumulator.foldl_avg ws
    rw [hresult .avg _ rfl rfl, hacc]
    exact congrArg Except.ok (Accumulator.value_avg hc)
  case sample =>
    -- the one aggregate decided by the early stop, not by the fold of every value
    have hfeed : result .sample = (Accumulator.feed distinct (.sample none) [] vs).finish :=
      apply_call_run'_eq_feed h .sample distinct rfl
    rw [hfeed, Accumulator.feed_sample distinct [] vs (by simp)]
    cases distinct <;> simp [ws, dedupe_eq_dedupeFrom, Accumulator.finish, Accumulator.value, pure,
      Except.pure]
  case concat =>
    intro sep
    obtain ⟨k, lang, hacc, hk⟩ := Accumulator.foldl_groupConcat (sep.getD " ") ws
    rw [hresult (.groupConcat sep) _ rfl rfl, hacc]
    exact congrArg Except.ok (Accumulator.value_groupConcat hk)
  case all => rw [hresult _ (.all true) rfl rfl, Accumulator.foldl_all]; rfl
  case any => rw [hresult _ (.any false) rfl rfl, Accumulator.foldl_any]; rfl
  case none => rw [hresult _ (.never false) rfl rfl, Accumulator.foldl_never]; rfl
  case mode =>
    rw [hresult _ (.mode []) rfl rfl, Accumulator.foldl_mode]
    exact congrArg Except.ok (Accumulator.value_mode ws)

end Aggregate

/-- Three solutions of `?x`, the IRI `a`, none and `a` again, under `DISTINCT`. -/
theorem aggregates_over_a_none_a :
    let scopes := [Scope.withoutDataset ⟨[⟨"x"⟩], [some (.iri "a")]⟩,
      Scope.withoutDataset ⟨[⟨"x"⟩], [none]⟩, Scope.withoutDataset ⟨[⟨"x"⟩], [some (.iri "a")]⟩]
    let ws := [ExprValue.bound (.iri "a"), .unbound]
    let result (f : AggregateFunction) :=
      (Aggregate.apply {} [] scopes (.call f (.var ⟨"x"⟩) true)).run' 0
    (scopes.mapM ((Expression.var ⟨"x"⟩).eval {})).run 0 =
        .ok ([.bound (.iri "a"), .unbound, .bound (.iri "a")], 0) ∧
      result .count = .ok (.bound (.literal (integerLiteral (boundTerms ws).length))) ∧
      result .sum = .ok (ExprValue.ofOption ((sumOver ws).map Numeric.toTerm)) ∧
      result .avg = .ok (avgOver ws) ∧
      result .sample = .ok ((boundTerms ws).head?.elim .unbound .bound) ∧
      (∀ sep, result (.groupConcat sep) = .ok (concatOver (sep.getD " ") ws)) ∧
      result (.custom (aggregateNs ++ "all")) = .ok (.ofBool (ws.all ExprValue.holds)) ∧
      result (.custom (aggregateNs ++ "any")) = .ok (.ofBool (ws.any ExprValue.holds)) ∧
      result (.custom (aggregateNs ++ "none")) = .ok (.ofBool (!ws.any ExprValue.holds)) ∧
      result (.custom (aggregateNs ++ "mode")) = .ok (modeOver ws) :=
  ⟨rfl, Aggregate.apply_over_whole_group {} [] _ (.var ⟨"x"⟩) true 0 0
    [.bound (.iri "a"), .unbound, .bound (.iri "a")] rfl⟩

end SparqlBag
