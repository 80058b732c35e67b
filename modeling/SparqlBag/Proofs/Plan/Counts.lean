import SparqlBag.Proofs.Store.Statistics

/-!
# The counts of a weighting model

A weighting model keeps, for every position and term, the largest count it was
given, by statistics graphs read triple by triple or by single recordings, both
updates here (`CountUpdate`).  What a triple records is said on its own terms
(`Triple.recorded`): `opt:subjectCount`, `opt:predicateCount` and `opt:objectCount`
record one position, `opt:count` all three, anything else nothing; a count is an
unsigned 64-bit number in an integer or plain literal.  After any updates the
model holds the largest count recorded for each pair (`Weightings.counts_foldl_apply`),
so the order of updates and of a graph's triples does not matter
(`Weightings.weights_of_updates`).
-/

namespace SparqlBag

/-- One count given to a term in a position. -/
structure Recording where
  position : Position
  term : Term
  count : Nat

/-- The counts recorded for a term in a position, in the order they came. -/
def countsFor (rs : List Recording) (r : Position) (t : Term) : List Nat :=
  rs.filterMap fun x => if x.position = r ∧ x.term = t then some x.count else none

/-- The count the object of a statistics triple denotes: an unsigned 64-bit
number, between blanks, in an integer or a plain string literal. -/
def countOfObject : Term → Option Nat
  | .literal l =>
    if Xsd.isIntegerType l.datatype || l.datatype == Xsd.string then
      parseUInt64 (trimWhiteSpace l.value)
    else none
  | _ => none

/-- The three positions. -/
def Position.all : List Position := [.subject, .predicate, .object]

/-- What a statistics triple records: its count, for its subject, in the
position its predicate names, or in all three for `opt:count`. -/
def Triple.recorded (tr : Triple) : List Recording :=
  match countOfObject tr.object with
  | none => []
  | some n =>
    (Position.all.filter fun r => tr.predicate = r.countPredicate ∨ tr.predicate = Opt.count).map
      fun r => ⟨r, tr.subject, n⟩

/-- A change to the counts of a weighting model: a statistics graph read in,
or one count recorded. -/
inductive CountUpdate where
  | load (graph : List Triple)
  | record (r : Position) (t : Term) (n : Nat)

namespace CountUpdate

/-- The model after the update. -/
def apply (w : Weightings) : CountUpdate → Weightings
  | .load graph => w.addStatistics graph
  | .record r t n => w.record r t n

/-- What the update records. -/
def recorded : CountUpdate → List Recording
  | .load graph => graph.flatMap Triple.recorded
  | .record r t n => [⟨r, t, n⟩]

end CountUpdate

/-- Records a list of counts, one after another. -/
def Weightings.recordAll (w : Weightings) (rs : List Recording) : Weightings :=
  rs.foldl (fun w x => w.record x.position x.term x.count) w

/-! ## Largest counts -/

section Largest

theorem max?_append (l₁ l₂ : List Nat) : (l₁ ++ l₂).max? = Option.merge max l₁.max? l₂.max? := by
  cases h₁ : l₁.max? with
  | none => simp_all
  | some a =>
    cases h₂ : l₂.max? with
    | none => simp_all
    | some b =>
      rw [List.max?_eq_some_iff] at h₁ h₂
      rw [Option.merge_some_some, List.max?_eq_some_iff]
      refine ⟨?_, fun c hc => ?_⟩
      · rcases Nat.le_total a b with hab | hab
        · simp [Nat.max_eq_right hab, h₂.1]
        · simp [Nat.max_eq_left hab, h₁.1]
      · rcases List.mem_append.1 hc with hc | hc
        · exact Nat.le_trans (h₁.2 c hc) (Nat.le_max_left a b)
        · exact Nat.le_trans (h₂.2 c hc) (Nat.le_max_right a b)

theorem max?_eq_of_perm {l₁ l₂ : List Nat} (h : l₁.Perm l₂) : l₁.max? = l₂.max? := by
  cases h₂ : l₂.max? with
  | none =>
    rw [List.max?_eq_none_iff] at h₂ ⊢
    subst h₂
    exact h.eq_nil
  | some a =>
    rw [List.max?_eq_some_iff] at h₂ ⊢
    exact ⟨h.mem_iff.2 h₂.1, fun b hb => h₂.2 b (h.mem_iff.1 hb)⟩

@[simp] theorem countsFor_nil (r : Position) (t : Term) : countsFor [] r t = [] := rfl

@[simp] theorem countsFor_append (rs rs' : List Recording) (r : Position) (t : Term) :
    countsFor (rs ++ rs') r t = countsFor rs r t ++ countsFor rs' r t :=
  List.filterMap_append

theorem countsFor_singleton (x : Recording) (r : Position) (t : Term) :
    countsFor [x] r t = if x.position = r ∧ x.term = t then [x.count] else [] := by
  by_cases h : x.position = r ∧ x.term = t <;> simp [countsFor, h]

theorem countsFor_perm {rs rs' : List Recording} (h : rs.Perm rs') (r : Position) (t : Term) :
    (countsFor rs r t).Perm (countsFor rs' r t) :=
  h.filterMap _

end Largest

/-! ## One recording -/

namespace TermCounts

/-- **One recording** merges its count into the term's, and leaves every other
term's count alone. -/
theorem get?_recordMax (c : TermCounts) (t : Term) (n : Nat) (u : Term) :
    (c.recordMax t n).get? u = if t = u then Option.merge max (c.get? t) (some n) else c.get? u := by
  cases h : c.get? t with
  | none =>
    rw [get?_recordMax_of_get?_eq_none h]
    by_cases htu : t = u <;> simp [htu]
  | some old =>
    unfold recordMax
    rw [h]
    by_cases htu : t = u
    · subst htu
      simp [get?]
    · -- The entries of `t` that go are none of `u`'s.
      have hfind : (c.entries.filter (·.1 != t)).find? (·.1 == u) = c.entries.find? (·.1 == u) := by
        rw [List.find?_filter]
        congr 1
        funext x
        by_cases hx : x.1 = u
        · simp [hx, Ne.symm htu]
        · simp [hx]
      simp [get?, htu, hfind]

end TermCounts

namespace Weightings

/-- Recording in a position merges the count into that position's counts of
the term. -/
theorem get?_counts_record (w : Weightings) (x : Recording) (r : Position) (u : Term) :
    (r.counts (w.record x.position x.term x.count)).get? u =
      Option.merge max ((r.counts w).get? u) (countsFor [x] r u).max? := by
  rw [Position.counts_record, countsFor_singleton]
  by_cases hr : x.position = r
  · subst hr
    rw [if_pos rfl, TermCounts.get?_recordMax]
    by_cases ht : x.term = u
    · subst ht
      simp
    · simp [ht]
  · simp [hr]

/-- **Recording a list of counts** merges the largest of those given to each
term in each position. -/
theorem get?_counts_recordAll (w : Weightings) (rs : List Recording) (r : Position) (u : Term) :
    (r.counts (w.recordAll rs)).get? u =
      Option.merge max ((r.counts w).get? u) (countsFor rs r u).max? := by
  induction rs using List.reverseRecOn generalizing w with
  | nil => simp [recordAll]
  | append_singleton rs x ih =>
    have hstep : w.recordAll (rs ++ [x]) = (w.recordAll rs).record x.position x.term x.count := by
      simp [recordAll]
    rw [hstep, get?_counts_record, ih, countsFor_append, max?_append]
    cases (r.counts w).get? u <;> cases (countsFor rs r u).max? <;>
      cases (countsFor [x] r u).max? <;> simp [Nat.max_assoc]

theorem recordAll_append (w : Weightings) (rs rs' : List Recording) :
    w.recordAll (rs ++ rs') = (w.recordAll rs).recordAll rs' := by
  simp [recordAll]

/-! ## Statistics triples -/

/-- The four predicates of statistics triples. -/
def countPredicates : List String := [Opt.subjectCount, Opt.predicateCount, Opt.objectCount, Opt.count]

theorem statisticsCount_eq (tr : Triple) :
    statisticsCount tr = if countPredicates.contains tr.predicate then countOfObject tr.object else none := by
  unfold statisticsCount countOfObject
  rfl

/-- **A statistics triple is the recordings it makes**, in the order of the
positions. -/
theorem addStatistic_eq_recordAll (w : Weightings) (tr : Triple) :
    w.addStatistic tr = w.recordAll tr.recorded := by
  have hsp : Opt.subjectCount ≠ Opt.predicateCount := by decide
  have hso : Opt.subjectCount ≠ Opt.objectCount := by decide
  have hsc : Opt.subjectCount ≠ Opt.count := by decide
  have hpo : Opt.predicateCount ≠ Opt.objectCount := by decide
  have hpc : Opt.predicateCount ≠ Opt.count := by decide
  have hoc : Opt.objectCount ≠ Opt.count := by decide
  unfold addStatistic Triple.recorded
  rw [statisticsCount_eq]
  by_cases hp : countPredicates.contains tr.predicate
  · rw [if_pos hp]
    cases countOfObject tr.object with
    | none => rfl
    | some n =>
      -- The predicate is one of the four.
      have hmem : tr.predicate = Opt.subjectCount ∨ tr.predicate = Opt.predicateCount ∨
          tr.predicate = Opt.objectCount ∨ tr.predicate = Opt.count := by
        simpa [countPredicates] using hp
      rcases hmem with h | h | h | h <;>
        simp [h, recordAll, Position.all, Position.countPredicate, record, hsp, hso, hsc, hpo,
          hpc, hoc, hsp.symm, hso.symm, hsc.symm, hpo.symm, hpc.symm, hoc.symm]
  · rw [if_neg hp]
    cases countOfObject tr.object with
    | none => rfl
    | some n =>
      -- No position is named, so nothing is recorded.
      have hnot : ∀ r : Position, tr.predicate ≠ r.countPredicate ∧ tr.predicate ≠ Opt.count := by
        intro r
        cases r <;> simp_all [countPredicates, Position.countPredicate]
      have hnone : Position.all.filter (fun r => tr.predicate = r.countPredicate ∨
          tr.predicate = Opt.count) = [] :=
        List.filter_eq_nil_iff.2 fun r _ => by simpa using hnot r
      rw [hnone]
      rfl

/-- A statistics graph is the recordings of its triples, in order. -/
theorem addStatistics_eq_recordAll (w : Weightings) (graph : List Triple) :
    w.addStatistics graph = w.recordAll (graph.flatMap Triple.recorded) := by
  induction graph generalizing w with
  | nil => rfl
  | cons tr graph ih =>
    rw [List.flatMap_cons, recordAll_append, ← addStatistic_eq_recordAll, ← ih]
    rfl

theorem apply_eq_recordAll (w : Weightings) (u : CountUpdate) : u.apply w = w.recordAll u.recorded := by
  cases u with
  | load graph => exact addStatistics_eq_recordAll w graph
  | record r t n => rfl

/-- **The counts after a sequence of updates** merge the largest count recorded
for each term in each position into the counts the model started with. -/
theorem counts_foldl_apply (w : Weightings) (us : List CountUpdate) (r : Position) (t : Term) :
    (r.counts (us.foldl CountUpdate.apply w)).get? t =
      Option.merge max ((r.counts w).get? t) (countsFor (us.flatMap CountUpdate.recorded) r t).max? := by
  have hrun : us.foldl CountUpdate.apply w = w.recordAll (us.flatMap CountUpdate.recorded) := by
    induction us generalizing w with
    | nil => rfl
    | cons u us ih => rw [List.foldl_cons, ih, apply_eq_recordAll, List.flatMap_cons, recordAll_append]
  rw [hrun, get?_counts_recordAll]

theorem defaults_foldl_apply (w : Weightings) (us : List CountUpdate) :
    (us.foldl CountUpdate.apply w).defaults = w.defaults := by
  induction us generalizing w with
  | nil => rfl
  | cons u us ih =>
    rw [List.foldl_cons, ih]
    cases u with
    | load graph =>
      rw [CountUpdate.apply, addStatistics_eq_recordAll]
      induction graph.flatMap Triple.recorded generalizing w with
      | nil => rfl
      | cons x rs ihx =>
        show (Weightings.recordAll (w.record x.position x.term x.count) rs).defaults = w.defaults
        rw [ihx]
        cases x.position <;> rfl
    | record r t n => cases r <;> rfl

/-- **Loading statistics is a max-merge.**  Starting from a model without
counts and with any defaults, after any sequence of statistics graphs and
single recordings, the count of a term in a position is the largest count
recorded for the pair, and the weights of the three positions are `weight` of
that count, or the position's default when nothing was recorded.  Updates
whose recordings are the same up to order, such as the same graphs read in
another order, give the same counts. -/
theorem weights_of_updates (d : DefaultWeights) (us : List CountUpdate) :
    (∀ (r : Position) (t : Term),
      (r.counts (us.foldl CountUpdate.apply { defaults := d })).get? t =
        (countsFor (us.flatMap CountUpdate.recorded) r t).max?) ∧
    (∀ t, (us.foldl CountUpdate.apply { defaults := d }).subjectWeight t =
      ((countsFor (us.flatMap CountUpdate.recorded) .subject t).max?.map weight).getD d.subject) ∧
    (∀ p, (us.foldl CountUpdate.apply { defaults := d }).predicateWeight p =
      ((countsFor (us.flatMap CountUpdate.recorded) .predicate (.iri p)).max?.map weight).getD
        d.predicate) ∧
    (∀ t, (us.foldl CountUpdate.apply { defaults := d }).objectWeight t =
      ((countsFor (us.flatMap CountUpdate.recorded) .object t).max?.map weight).getD d.object) ∧
    (∀ us' : List CountUpdate,
      (us'.flatMap CountUpdate.recorded).Perm (us.flatMap CountUpdate.recorded) →
      ∀ (r : Position) (t : Term), (r.counts (us'.foldl CountUpdate.apply { defaults := d })).get? t =
        (r.counts (us.foldl CountUpdate.apply { defaults := d })).get? t) := by
  -- A model without counts contributes nothing to the merge.
  have hcounts : ∀ (us : List CountUpdate) (r : Position) (t : Term),
      (r.counts (us.foldl CountUpdate.apply { defaults := d })).get? t =
        (countsFor (us.flatMap CountUpdate.recorded) r t).max? := fun us r t => by
    rw [counts_foldl_apply]
    cases r <;> simp [Position.counts, TermCounts.get?_empty]
  have hdef := defaults_foldl_apply { defaults := d } us
  refine ⟨hcounts us, fun t => ?_, fun p => ?_, fun t => ?_, fun us' hperm r t => ?_⟩
  · rw [subjectWeight, hdef, ← hcounts us .subject t]
    rfl
  · rw [predicateWeight, hdef, ← hcounts us .predicate (.iri p)]
    rfl
  · rw [objectWeight, hdef, ← hcounts us .object t]
    rfl
  · rw [hcounts us', hcounts us, max?_eq_of_perm (countsFor_perm hperm r t)]

/-- An integer literal, a plain literal and an IRI spelled alike keep their
own counts, and a blank node spelled alike has none. -/
example :
    let w := (((({} : Weightings).record .object (.literal (.typed "7" Xsd.integer)) 2).record
      .object (.literal (.simple "7")) 10).record .object (.iri "7") 4)
    (Position.object.counts w).get? (.literal (.typed "7" Xsd.integer)) = some 2 ∧
      (Position.object.counts w).get? (.literal (.simple "7")) = some 10 ∧
      (Position.object.counts w).get? (.iri "7") = some 4 ∧
      (Position.object.counts w).get? (.blank "7") = none := by
  decide

end Weightings

end SparqlBag
