import SparqlBag.Store.Store
import SparqlBag.Proofs.Solution.Buckets

/-!
# Statistics read back

`Dataset.statistics` writes, for each term and position, how many quads hold the
term there, as an `xsd:integer` saturated at the largest signed 64-bit integer;
literals are left out.  `Weightings.ofStatistics` reads such triples back, keeping
the largest count.  Reading what was written gives the counts back
(`Store.refreshStatistics_counts`), through three stages: the counts in first-seen
order (`countTerms_eq`), the decimal text of a count read back
(`parseUInt64_toString`), and one `recordMax` per distinct term
(`get?_foldl_recordMax`).
-/

namespace SparqlBag

/-! ## Counting terms -/

section Count

theorem mem_foldl_pushNew {α : Type} [DecidableEq α] {x : α} :
    ∀ {l acc : List α}, x ∈ l.foldl pushNew acc ↔ x ∈ acc ∨ x ∈ l
  | [], acc => by simp
  | y :: l, acc => by
    rw [List.foldl_cons, mem_foldl_pushNew, mem_pushNew]
    simp [or_assoc]

theorem nodup_foldl_pushNew {α : Type} [DecidableEq α] :
    ∀ {l acc : List α}, acc.Nodup → (l.foldl pushNew acc).Nodup
  | [], _, h => h
  | y :: _, _, h => by
    rw [List.foldl_cons]
    exact nodup_foldl_pushNew (nodup_pushNew h y)

/-- **The counts of terms**: one entry per distinct term, in the order the terms
are first seen, with the number of its occurrences. -/
theorem countTerms_eq (ts : List Term) :
    Dataset.countTerms ts = (ts.foldl pushNew []).map fun t => (t, ts.count t) := by
  induction ts using List.reverseRecOn with
  | nil => rfl
  | append_singleton ts x ih =>
    have hstep : Dataset.countTerms (ts ++ [x]) =
        if (Dataset.countTerms ts).any (·.1 == x) then
          (Dataset.countTerms ts).map fun p => if p.1 == x then (p.1, p.2 + 1) else p
        else Dataset.countTerms ts ++ [(x, 1)] := by
      simp only [Dataset.countTerms, List.foldl_append, List.foldl_cons, List.foldl_nil]
    have hmem : x ∈ ts.foldl pushNew [] ↔ x ∈ ts := by simp [mem_foldl_pushNew]
    rw [hstep, ih, List.foldl_append, List.foldl_cons, List.foldl_nil]
    by_cases hx : x ∈ ts
    · -- A term seen before counts once more.
      have hany : ((ts.foldl pushNew []).map fun t => (t, ts.count t)).any (·.1 == x) := by
        simpa [List.any_eq_true] using hmem.2 hx
      rw [if_pos hany, pushNew_of_mem (hmem.2 hx), List.map_map]
      refine List.map_congr_left fun u _ => ?_
      by_cases hu : u = x
      · simp [hu, List.count_append]
      · simp [hu, List.count_append, Ne.symm hu]
    · -- A new term is counted once, at the end.
      have hany : ¬ ((ts.foldl pushNew []).map fun t => (t, ts.count t)).any (·.1 == x) := by
        simpa [List.any_eq_true] using fun h => hx (hmem.1 h)
      rw [if_neg hany, pushNew_of_not_mem (fun h => hx (hmem.1 h)), List.map_append]
      congr 1
      · refine List.map_congr_left fun u hu => ?_
        have hne : u ≠ x := fun h => hx (hmem.1 (h ▸ hu))
        simp [List.count_append, Ne.symm hne]
      · simp [List.count_append, List.count_eq_zero.2 hx]

end Count

/-! ## A count as text, read back -/

section Decimal

theorem isWhiteSpace_of_isDigit {c : Char} (h : c.isDigit) : isWhiteSpace c = false := by
  simp only [Char.isDigit, Bool.and_eq_true, decide_eq_true_eq] at h
  obtain ⟨h₁, h₂⟩ := h
  have h₁ : 48 ≤ c.toNat := h₁
  have h₂ : c.toNat ≤ 57 := h₂
  simp only [isWhiteSpace, Bool.or_eq_false_iff, Bool.and_eq_false_iff, beq_eq_false_iff_ne,
    decide_eq_false_iff_not, Nat.not_le]
  omega

private theorem dropWhile_eq_self_of_forall {l : List Char} {p : Char → Bool}
    (h : ∀ c ∈ l, p c = false) : l.dropWhile p = l := by
  cases l with
  | nil => rfl
  | cons c cs => simp [h c List.mem_cons_self]

/-- Digits have no white space to trim. -/
theorem trimWhiteSpace_of_digits {s : String} (h : ∀ c ∈ s.toList, c.isDigit) :
    trimWhiteSpace s = s := by
  have hws : ∀ c ∈ s.toList, isWhiteSpace c = false := fun c hc => isWhiteSpace_of_isDigit (h c hc)
  unfold trimWhiteSpace
  rw [dropWhile_eq_self_of_forall hws,
    dropWhile_eq_self_of_forall (fun c hc => hws c (List.mem_reverse.1 hc)), List.reverse_reverse,
    String.ofList_toList]

/-- The value of decimal digits is that of `Nat.ofDigitChars`. -/
theorem digitsValue_eq_ofDigitChars (ds : List Char) : digitsValue ds = Nat.ofDigitChars 10 ds 0 := by
  unfold digitsValue
  rw [Nat.ofDigitChars_eq_foldl]
  congr 1
  funext acc c
  rw [Nat.mul_comm]

/-- **A count is read back from its decimal text.** -/
theorem parseUInt64_toString {n : Nat} (h : n < Nat.pow 2 64) :
    parseUInt64 (trimWhiteSpace (toString n)) = some n := by
  have hdigits : ∀ c ∈ (toString n).toList, c.isDigit := by
    intro c hc
    rw [Nat.toString_eq_repr, Nat.toList_repr] at hc
    exact Nat.isDigit_of_mem_toDigits (by decide) (by decide) hc
  rw [trimWhiteSpace_of_digits hdigits]
  have hlist : (toString n).toList = Nat.toDigits 10 n := by
    rw [Nat.toString_eq_repr, Nat.toList_repr]
  -- The text starts with a digit, not with a sign.
  have hplus : ∀ rest, Nat.toDigits 10 n ≠ '+' :: rest := fun rest h => by
    have hmem : '+' ∈ Nat.toDigits 10 n := h ▸ List.mem_cons_self
    exact absurd (Nat.isDigit_of_mem_toDigits (by decide) (by decide) hmem) (by decide)
  unfold parseUInt64
  rw [hlist]
  split
  · next rest h => exact absurd h (hplus rest)
  · have hne : (Nat.toDigits 10 n).isEmpty = false := by simp [Nat.toDigits_ne_nil]
    have hall : (Nat.toDigits 10 n).all Char.isDigit = true :=
      List.all_eq_true.2 fun c hc => Nat.isDigit_of_mem_toDigits (by decide) (by decide) hc
    have hval : digitsValue (Nat.toDigits 10 n) = n := by
      rw [digitsValue_eq_ofDigitChars, Nat.ofDigitChars_ten_toDigits]
    simpa [hne, hall, hval] using h

end Decimal

/-! ## Positions and the counts recorded for them -/

/-- A position of a term in a triple. -/
inductive Position where
  | subject
  | predicate
  | object
  deriving DecidableEq

namespace Position

/-- The term a quad holds in the position. -/
def termOf : Position → Quad → Term
  | .subject, q => q.subject
  | .predicate, q => .iri q.predicate
  | .object, q => q.object

/-- The predicate of the statistics triples of the position. -/
def countPredicate : Position → String
  | .subject => Opt.subjectCount
  | .predicate => Opt.predicateCount
  | .object => Opt.objectCount

/-- The counts a model keeps for the position. -/
def counts : Position → Weightings → TermCounts
  | .subject, w => w.subjects
  | .predicate, w => w.predicates
  | .object, w => w.objects

end Position

/-- Records a count for a term in a position. -/
def Weightings.record (w : Weightings) : Position → Term → Nat → Weightings
  | .subject => w.recordSubject
  | .predicate => w.recordPredicate
  | .object => w.recordObject

/-- Recording in a position changes the counts of that position only. -/
theorem Position.counts_record (w : Weightings) (r r' : Position) (t : Term) (n : Nat) :
    r'.counts (w.record r t n) = if r = r' then (r.counts w).recordMax t n else r'.counts w := by
  cases r <;> cases r' <;> rfl

theorem Position.counts_foldl_record (r r' : Position) (g : Term → Nat) :
    ∀ (L : List Term) (w : Weightings), r'.counts (L.foldl (fun w t => w.record r t (g t)) w) =
      if r = r' then L.foldl (fun c t => c.recordMax t (g t)) (r.counts w) else r'.counts w
  | [], w => by by_cases h : r = r' <;> simp [h]
  | t :: L, w => by
    rw [List.foldl_cons, counts_foldl_record r r' g L, counts_record]
    by_cases h : r = r'
    · subst h
      simp
    · simp [h, counts_record]

namespace TermCounts

theorem get?_empty (u : Term) : ({} : TermCounts).get? u = none := rfl

/-- A count recorded for a term without one is its count. -/
theorem get?_recordMax_of_get?_eq_none {c : TermCounts} {t : Term} (h : c.get? t = none) (n : Nat)
    (u : Term) : (c.recordMax t n).get? u = if t = u then some n else c.get? u := by
  unfold recordMax
  rw [h]
  by_cases htu : t = u
  · subst htu
    simp [get?]
  · simp [get?, htu]

/-- **Counts recorded for distinct terms** without counts are their counts. -/
theorem get?_foldl_recordMax (f : Term → Nat) :
    ∀ {K : List Term} {c : TermCounts}, K.Nodup → (∀ t ∈ K, c.get? t = none) → ∀ u,
      (K.foldl (fun c t => c.recordMax t (f t)) c).get? u = if u ∈ K then some (f u) else c.get? u
  | [], _, _, _, u => by simp
  | t :: K, c, hnd, hnone, u => by
    obtain ⟨ht, hK⟩ := List.nodup_cons.1 hnd
    have hc := hnone t List.mem_cons_self
    -- The terms after `t` still have no count once `t` has one.
    have hrest : ∀ t' ∈ K, (c.recordMax t (f t)).get? t' = none := fun t' ht' => by
      rw [get?_recordMax_of_get?_eq_none hc, if_neg (by rintro rfl; exact ht ht'),
        hnone t' (List.mem_cons_of_mem _ ht')]
    rw [List.foldl_cons, get?_foldl_recordMax f hK hrest, get?_recordMax_of_get?_eq_none hc]
    by_cases huK : u ∈ K
    · simp [huK]
    · by_cases htu : t = u
      · subst htu
        simp
      · simp [huK, htu, Ne.symm htu]

end TermCounts

/-! ## Writing and reading the statistics -/

/-- The statistics triple of a term seen `n` times in a position: the count is
written as an `xsd:integer`, saturated at the largest signed 64-bit integer. -/
def countTriple (r : Position) (t : Term) (n : Nat) : Triple :=
  ⟨t, r.countPredicate, .literal (.typed (toString (min n (Nat.pow 2 63 - 1))) Xsd.integer)⟩

/-- The statistics triples of one position: one for each IRI or blank node among
the terms `ts`, first seen first. -/
def statisticsOf (r : Position) (ts : List Term) : List Triple :=
  ((ts.foldl pushNew []).filter (!·.isLiteral)).map fun t => countTriple r t (ts.count t)

/-- What the statistics record for a term that `n` quads hold in a position:
nothing for a literal or for a term no quad holds there, else the count,
saturated at the largest signed 64-bit integer. -/
def recordedCount (t : Term) (n : Nat) : Option Nat :=
  if t.isLiteral || n == 0 then none else some (min n (Nat.pow 2 63 - 1))

private theorem filterMap_ite_eq_map_filter {α β : Type} (p : α → Bool) (F : α → β) :
    ∀ K : List α, K.filterMap (fun t => if p t then none else some (F t)) = (K.filter (!p ·)).map F
  | [] => rfl
  | t :: K => by
    by_cases h : p t <;> simp [h, filterMap_ite_eq_map_filter p F K]

/-- The statistics of a dataset are those of the three positions in turn. -/
theorem Dataset.statistics_eq (d : Dataset) :
    d.statistics Opt.subjectCount Opt.predicateCount Opt.objectCount =
      statisticsOf .subject (d.quads.map Position.subject.termOf) ++
        statisticsOf .predicate (d.quads.map Position.predicate.termOf) ++
        statisticsOf .object (d.quads.map Position.object.termOf) := by
  simp only [Dataset.statistics, countTerms_eq, statisticsOf, Function.comp_def,
    filterMap_ite_eq_map_filter, List.filter_map, List.map_map]
  rfl

/-- **A statistics triple is read back** as the count it writes. -/
theorem statisticsCount_countTriple (r : Position) (t : Term) (n : Nat) :
    statisticsCount (countTriple r t n) = some (min n (Nat.pow 2 63 - 1)) := by
  have hpred : [Opt.subjectCount, Opt.predicateCount, Opt.objectCount, Opt.count].contains
      r.countPredicate := by
    cases r <;> decide
  have hint : Xsd.isIntegerType Xsd.integer = true := by decide
  have hlt : min n (Nat.pow 2 63 - 1) < Nat.pow 2 64 :=
    Nat.lt_of_le_of_lt (Nat.min_le_right _ _) (by decide)
  simp only [statisticsCount, countTriple, hpred, if_true, hint, Literal.datatype, Literal.value,
    Bool.true_or, parseUInt64_toString hlt]

theorem addStatistic_countTriple (w : Weightings) (r : Position) (t : Term) (n : Nat) :
    w.addStatistic (countTriple r t n) = w.record r t (min n (Nat.pow 2 63 - 1)) := by
  have hsp : (Opt.predicateCount == Opt.subjectCount) = false := by decide
  have hso : (Opt.objectCount == Opt.subjectCount) = false := by decide
  have hpo : (Opt.objectCount == Opt.predicateCount) = false := by decide
  unfold Weightings.addStatistic
  rw [statisticsCount_countTriple]
  cases r <;> simp [countTriple, Position.countPredicate, Weightings.record, hsp, hso, hpo]

/-- Reading the triples of one position records each of its terms' counts. -/
theorem foldl_addStatistic_statisticsOf (r : Position) (ts : List Term) (w : Weightings) :
    (statisticsOf r ts).foldl Weightings.addStatistic w =
      ((ts.foldl pushNew []).filter (!·.isLiteral)).foldl
        (fun w t => w.record r t (min (ts.count t) (Nat.pow 2 63 - 1))) w := by
  simp only [statisticsOf, List.foldl_map, addStatistic_countTriple]

/-- **Reading one position's triples into counts that have none for it** gives
every term the count the statistics record for it. -/
theorem get?_counts_statisticsOf (r : Position) (ts : List Term) {w : Weightings}
    (hw : ∀ u, (r.counts w).get? u = none) (t : Term) :
    (r.counts ((statisticsOf r ts).foldl Weightings.addStatistic w)).get? t =
      recordedCount t (ts.count t) := by
  have hnd : ((ts.foldl pushNew []).filter (!·.isLiteral)).Nodup :=
    (nodup_foldl_pushNew List.nodup_nil).filter _
  rw [foldl_addStatistic_statisticsOf, Position.counts_foldl_record, if_pos rfl,
    TermCounts.get?_foldl_recordMax _ hnd (fun u _ => hw u), hw t]
  -- A term has a triple exactly when it is no literal and some quad holds it.
  have hmem : t ∈ (ts.foldl pushNew []).filter (!·.isLiteral) ↔ ¬ t.isLiteral ∧ ts.count t ≠ 0 := by
    simp [mem_foldl_pushNew, and_comm, List.count_eq_zero]
  by_cases h : ¬ t.isLiteral ∧ ts.count t ≠ 0
  · rw [if_pos (hmem.2 h), recordedCount]
    simp [h.1, h.2]
  · rw [if_neg (fun h' => h (hmem.1 h')), recordedCount]
    simp only [not_and_or, not_not, Bool.not_eq_true] at h
    rcases h with h | h <;> simp [h]

/-- The counts of a position are kept by reading another position's triples. -/
theorem counts_statisticsOf_of_ne {r r' : Position} (h : r ≠ r') (ts : List Term) (w : Weightings) :
    r'.counts ((statisticsOf r ts).foldl Weightings.addStatistic w) = r'.counts w := by
  rw [foldl_addStatistic_statisticsOf, Position.counts_foldl_record, if_neg h]

/-- **The statistics round trip**: after the statistics of a store are loaded,
its model holds, for every term and every position, the number of quads
holding the term there (saturated at the largest signed 64-bit integer), and
nothing for a literal or a term that no quad holds there. -/
theorem Store.refreshStatistics_counts (s : Store) :
    ∃ w, s.refreshStatistics.model = some w ∧ ∀ (r : Position) (t : Term),
      (r.counts w).get? t = recordedCount t ((s.dataset.quads.map r.termOf).count t) := by
  refine ⟨_, rfl, fun r t => ?_⟩
  simp only [Weightings.ofStatistics, Weightings.addStatistics, Store.statistics,
    Dataset.statistics_eq, List.foldl_append]
  -- The other positions' triples leave the counts of `r` as they are.
  cases r with
  | subject =>
    rw [counts_statisticsOf_of_ne (by decide), counts_statisticsOf_of_ne (by decide)]
    refine get?_counts_statisticsOf _ _ (fun u => ?_) t
    exact TermCounts.get?_empty u
  | predicate =>
    rw [counts_statisticsOf_of_ne (by decide)]
    refine get?_counts_statisticsOf _ _ (fun u => ?_) t
    rw [counts_statisticsOf_of_ne (by decide)]
    exact TermCounts.get?_empty u
  | object =>
    refine get?_counts_statisticsOf _ _ (fun u => ?_) t
    rw [counts_statisticsOf_of_ne (by decide), counts_statisticsOf_of_ne (by decide)]
    exact TermCounts.get?_empty u

end SparqlBag
