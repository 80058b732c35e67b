import SparqlBag.Engine.Query
import SparqlBag.Proofs.Engine.Matching
import SparqlBag.Proofs.Store.Statistics
import Mathlib.Data.List.ReduceOption

/-!
# The graphs of `CONSTRUCT` and `DESCRIBE`

`CONSTRUCT` instantiates its template for every solution and `DESCRIBE` gathers
the triples about the nodes bound in the solutions.  Both list what they find
once, in the order first found, which is `List.eraseDups` of what they are fed
(`dedupeList_eq_eraseDups`).  The `k` blank-node labels of a template take, in
the solution at position `i` of a run from counter `first`, the fresh labels
numbered `first + i * k` on, and fresh labels with different numbers differ
(`freshLabel_injective`).  The loops of instantiation are taken apart with one
loop rule (`run_forIn_of_invariant`).
-/

namespace SparqlBag

section FirstOccurrences

variable {α : Type} [DecidableEq α]

theorem removeAll_congr_right {xs ys zs : List α} (h : ∀ x, x ∈ ys ↔ x ∈ zs) :
    xs.removeAll ys = xs.removeAll zs := by
  simp only [List.removeAll, List.elem_eq_mem, h]

theorem removeAll_eq_nil_of_subset {xs ys : List α} (h : ∀ x ∈ xs, x ∈ ys) :
    xs.removeAll ys = [] := by
  simpa [List.removeAll, List.filter_eq_nil_iff] using h

/-- Past a prefix, only the members of the prefix matter. -/
theorem eraseDups_append_congr {xs ys zs : List α} (hmem : ∀ x, x ∈ xs ↔ x ∈ ys)
    (h : xs.eraseDups = ys.eraseDups) : (xs ++ zs).eraseDups = (ys ++ zs).eraseDups := by
  rw [List.eraseDups_append, List.eraseDups_append, h, removeAll_congr_right hmem]

/-- **Adding what is new keeps first occurrences**: the accumulator, then each
element not in it the first time it comes. -/
theorem foldl_pushNew_eq (acc xs : List α) :
    xs.foldl pushNew acc = acc ++ (xs.removeAll acc).eraseDups := by
  induction xs generalizing acc with
  | nil => simp
  | cons x xs ih =>
    rw [List.foldl_cons]
    by_cases hx : x ∈ acc
    · rw [pushNew_of_mem hx, ih]
      simp [List.removeAll, hx]
    · rw [pushNew_of_not_mem hx, ih, List.append_assoc]
      -- the elements still new after `x` are those new before it, less `x`
      have hnew : xs.removeAll (acc ++ [x]) = (xs.removeAll acc).filter fun b => !b == x := by
        simp only [List.removeAll, List.filter_filter]
        refine List.filter_congr fun b _ => ?_
        by_cases hb : b = x <;> simp [hb]
      have hcons : (x :: xs).removeAll acc = x :: xs.removeAll acc := by
        simp [List.removeAll, hx]
      rw [hcons, List.eraseDups_cons, hnew]
      simp

/-- The elements kept by `dedupeList` grow as by `pushNew` while the elements seen
are the elements kept. -/
theorem foldl_dedupeStep (xs : List α) (acc : List α × List α)
    (hacc : ∀ y, y ∈ acc.1 ↔ y ∈ acc.2) :
    (xs.foldl (fun (acc : List α × List α) x =>
      if acc.2.contains x then acc else (acc.1 ++ [x], x :: acc.2)) acc).1 =
      xs.foldl pushNew acc.1 := by
  induction xs generalizing acc with
  | nil => rfl
  | cons x xs ih =>
    rw [List.foldl_cons, List.foldl_cons]
    by_cases hx : x ∈ acc.1
    · rw [if_pos (by simpa [← hacc x] using hx), pushNew_of_mem hx]
      exact ih acc hacc
    · rw [if_neg (by simpa [← hacc x] using hx), pushNew_of_not_mem hx]
      exact ih _ fun y => by simp [hacc y, or_comm]

theorem dedupeList_eq_eraseDups (xs : List α) : dedupeList xs = xs.eraseDups := by
  rw [dedupeList, foldl_dedupeStep xs ([], []) (by simp), foldl_pushNew_eq]
  simp

theorem appendNew_eraseDups (xs more : List α) :
    appendNew xs.eraseDups more = (xs ++ more).eraseDups := by
  rw [appendNew, foldl_pushNew_eq, List.eraseDups_append,
    removeAll_congr_right fun x => List.mem_eraseDups]

/-- A list without repetitions is its own first occurrences. -/
theorem eraseDups_of_nodup {xs : List α} (h : xs.Nodup) : xs.eraseDups = xs := by
  induction xs with
  | nil => rfl
  | cons x xs ih =>
    rw [List.nodup_cons] at h
    have hkeep : xs.filter (fun b => !b == x) = xs :=
      List.filter_eq_self.2 fun y hy => by
        have : y ≠ x := fun hyx => h.1 (hyx ▸ hy)
        simpa using this
    rw [List.eraseDups_cons, hkeep, ih h.2]

theorem nodup_eraseDups (xs : List α) : xs.eraseDups.Nodup := by
  have h := foldl_pushNew_eq [] xs
  rw [List.removeAll_nil, List.nil_append] at h
  exact h ▸ nodup_foldl_pushNew List.nodup_nil

/-- Appending the new elements of one list after another keeps first occurrences
of them all. -/
theorem foldl_appendNew {β : Type} (f : β → List α) (xs : List α) (ys : List β) :
    ys.foldl (fun acc y => appendNew acc (f y)) xs.eraseDups = (xs ++ ys.flatMap f).eraseDups := by
  induction ys generalizing xs with
  | nil => simp
  | cons y ys ih => rw [List.foldl_cons, appendNew_eraseDups, ih, List.flatMap_cons, List.append_assoc]

/-- Expanding each element once or as often as it comes gives the same first
occurrences. -/
theorem eraseDups_flatMap_eraseDups {β : Type} (f : β → List α) [DecidableEq β] (ys : List β) :
    (ys.eraseDups.flatMap f).eraseDups = (ys.flatMap f).eraseDups := by
  induction ys using List.reverseRecOn with
  | nil => rfl
  | append_singleton ys y ih =>
    have hmem : ∀ x, x ∈ ys.eraseDups.flatMap f ↔ x ∈ ys.flatMap f := by simp
    rw [List.eraseDups_append, List.flatMap_append, List.flatMap_append]
    by_cases hy : y ∈ ys
    · -- a repeated element brings nothing new
      have hsub : ∀ x ∈ [y].flatMap f, x ∈ ys.flatMap f := fun x hx =>
        List.mem_flatMap.2 ⟨y, hy, by simpa using hx⟩
      rw [removeAll_eq_nil_of_subset (by simpa using hy), List.eraseDups_nil, List.flatMap_nil,
        List.append_nil, ih, List.eraseDups_append, removeAll_eq_nil_of_subset hsub]
      simp
    · have : [y].removeAll ys = [y] := by simp [List.removeAll, hy]
      rw [this, List.eraseDups_cons, List.filter_nil, List.eraseDups_nil,
        eraseDups_append_congr hmem ih]

end FirstOccurrences

section Loops

variable {σ ε α β : Type}

theorem run_forIn_of_invariant (l : List α) (body : α → β → StateT σ (Except ε) (ForInStep β))
    (inv : List α → β → σ → Prop) (init : β) (s : σ) (hinit : inv [] init s)
    (step : ∀ done a rest b s, done ++ a :: rest = l → inv done b s →
      ∃ b' s', (body a b).run s = .ok (.yield b', s') ∧ inv (done ++ [a]) b' s') :
    ∃ b s', (forIn l init body).run s = .ok (b, s') ∧ inv l b s' := by
  -- the loop over the elements left after `done`
  suffices h : ∀ rest done b s, done ++ rest = l → inv done b s →
      ∃ b' s', (forIn rest b body).run s = .ok (b', s') ∧ inv l b' s' from
    h l [] init s rfl hinit
  intro rest
  induction rest with
  | nil =>
    intro done b s hl hinv
    rw [List.append_nil] at hl
    exact ⟨b, s, rfl, hl ▸ hinv⟩
  | cons a rest ih =>
    intro done b s hl hinv
    obtain ⟨b', s', hrun, hinv'⟩ := step done a rest b s hl hinv
    obtain ⟨b'', s'', hrun', hinv''⟩ := ih (done ++ [a]) b' s' (by simp [← hl]) hinv'
    refine ⟨b'', s'', ?_, hinv''⟩
    rw [List.forIn_cons, StateT.run_bind, hrun]
    exact hrun'

/-- The loop rule where a loop is followed by more: what follows sees the
invariant over all the elements. -/
theorem run_forIn_bind {γ : Type} (l : List α) (body : α → β → StateT σ (Except ε) (ForInStep β))
    (k : β → StateT σ (Except ε) γ) (inv : List α → β → σ → Prop) (init : β) (s : σ)
    {r : Except ε (γ × σ)} (hinit : inv [] init s)
    (step : ∀ done a rest b s, done ++ a :: rest = l → inv done b s →
      ∃ b' s', (body a b).run s = .ok (.yield b', s') ∧ inv (done ++ [a]) b' s')
    (finish : ∀ b s', inv l b s' → (k b).run s' = r) :
    (forIn l init body >>= k).run s = r := by
  obtain ⟨b, s', hrun, hinv⟩ := run_forIn_of_invariant l body inv init s hinit step
  rw [StateT.run_bind, hrun]
  exact finish b s' hinv

end Loops

section FreshLabels

/-- The value of a lower-case hexadecimal digit. -/
def hexDigitValue (c : Char) : Nat := if c.toNat < 97 then c.toNat - 48 else c.toNat - 87

/-- The number that lower-case hexadecimal digits spell, read after `init`. -/
def readHex (init : Nat) (cs : List Char) : Nat := cs.foldl (fun acc c => 16 * acc + hexDigitValue c) init

theorem hexDigitValue_digitChar : ∀ d < 16, hexDigitValue d.digitChar = d := by decide

theorem readHex_append (init : Nat) (xs ys : List Char) :
    readHex init (xs ++ ys) = readHex (readHex init xs) ys :=
  List.foldl_append

theorem readHex_replicate_zero (k : Nat) : readHex 0 (List.replicate k '0') = 0 := by
  induction k with
  | zero => rfl
  | succ k ih =>
    rw [List.replicate_succ', readHex_append, ih]
    rfl

theorem readHex_toDigits (n : Nat) : readHex 0 (Nat.toDigits 16 n) = n := by
  induction n using Nat.base_induction 16 (by decide) with
  | single m hm => simp [readHex, Nat.toDigits_of_lt_base hm, hexDigitValue_digitChar m hm]
  | digit m k hk hm ih =>
    rw [← Nat.toDigits_append_toDigits (by decide) hm hk, readHex_append, ih,
      Nat.toDigits_of_lt_base hk]
    simp [readHex, hexDigitValue_digitChar k hk]

/-- **Fresh labels with different numbers differ**: the number stands in
hexadecimal after the tag, behind leading zeros. -/
theorem freshLabel_injective (tag : Char) : Function.Injective (freshLabel tag) := by
  intro m n h
  have hl := congrArg String.toList h
  simp only [freshLabel, String.toList_ofList, List.cons.injEq, true_and] at hl
  have := congrArg (readHex 0) hl
  rwa [readHex_append, readHex_replicate_zero, readHex_toDigits, readHex_append,
    readHex_replicate_zero, readHex_toDigits] at this

end FreshLabels

namespace TermPattern

/-- The label of a blank node of a template. -/
def blank? : TermPattern → Option String
  | .term (.blank b) => some b
  | _ => none

/-- What a position of a template stands for in a solution: the value of a
variable, the blank node `label` gives a blank node of the template, any other
term itself. -/
def instantiateWith (sol : Solution) (label : String → String) : TermPattern → Option Term
  | .var v => sol.get v
  | .term (.blank b) => some (.blank (label b))
  | .term c => some c

end TermPattern

/-- The IRI the predicate of a template stands for in a solution: the IRI itself,
or the value of its variable when that is an IRI. -/
def IriPattern.instantiateWith (sol : Solution) : IriPattern → Option String
  | .iri i => some i
  | .var v => match sol.get v with
    | some (.iri i) => some i
    | _ => none

/-- The triple a template triple stands for in a solution.  There is none when a
position is unbound, the subject is a literal or the predicate is no IRI. -/
def TriplePattern.instantiateWith (sol : Solution) (label : String → String) (t : TriplePattern) :
    Option Triple := do
  let s ← t.subject.instantiateWith sol label
  let p ← t.predicate.instantiateWith sol
  let o ← t.object.instantiateWith sol label
  if s.isLiteral then none else some ⟨s, p, o⟩

/-- The distinct labels of the template blank nodes among `ps`, in the order they
first stand there. -/
def blanksOf (ps : List TermPattern) : List String := (ps.filterMap TermPattern.blank?).eraseDups

/-- The labels a run from counter `n` has given the blank nodes among `ps`: the
`j`-th distinct one the fresh label numbered `n + j`. -/
def labelsOf (n : Nat) (ps : List TermPattern) : List (String × String) :=
  (blanksOf ps).map fun b => (b, Fresh.blankLabel (n + (blanksOf ps).idxOf b))

/-- The subjects and objects of a template, in the order instantiation meets them. -/
def nodePositions (template : List TriplePattern) : List TermPattern :=
  template.flatMap fun t => [t.subject, t.object]

/-- The distinct blank-node labels of a template. -/
def templateBlanks (template : List TriplePattern) : List String := blanksOf (nodePositions template)

/-- The blank node that the label `b` of a template stands for when a solution is
instantiated from counter `n`. -/
def freshBlank (template : List TriplePattern) (n : Nat) (b : String) : String :=
  Fresh.blankLabel (n + (templateBlanks template).idxOf b)

section Labels

variable {n : Nat} {ps qs : List TermPattern} {b : String}

theorem lookup_map_pair (bs : List String) (f : String → String) (b : String) :
    (bs.map fun c => (c, f c)).lookup b = if b ∈ bs then some (f b) else none := by
  induction bs with
  | nil => rfl
  | cons c bs ih =>
    by_cases hb : b = c
    · subst hb
      simp
    · simp [List.lookup_cons, beq_false_of_ne hb, ih, hb]

theorem lookup_labelsOf : (labelsOf n ps).lookup b =
    if b ∈ blanksOf ps then some (Fresh.blankLabel (n + (blanksOf ps).idxOf b)) else none :=
  lookup_map_pair _ _ b

theorem blanksOf_append_of_blank?_eq_none {tp : TermPattern} (h : tp.blank? = none) :
    blanksOf (ps ++ [tp]) = blanksOf ps := by
  simp [blanksOf, List.filterMap_append, h]

theorem blanksOf_append_blank_of_mem (h : b ∈ blanksOf ps) :
    blanksOf (ps ++ [.term (.blank b)]) = blanksOf ps := by
  rw [blanksOf, List.filterMap_append, List.eraseDups_append,
    removeAll_eq_nil_of_subset (by simpa [blanksOf, TermPattern.blank?] using h)]
  simp [blanksOf]

theorem blanksOf_append_blank_of_not_mem (h : b ∉ blanksOf ps) :
    blanksOf (ps ++ [.term (.blank b)]) = blanksOf ps ++ [b] := by
  have hnew : [b].removeAll (ps.filterMap TermPattern.blank?) = [b] := by
    simpa [List.removeAll, blanksOf] using h
  rw [blanksOf, List.filterMap_append, List.eraseDups_append]
  exact congrArg _ (congrArg List.eraseDups hnew)

theorem idxOf_blanksOf_append (h : b ∈ blanksOf ps) :
    (blanksOf (ps ++ qs)).idxOf b = (blanksOf ps).idxOf b := by
  rw [blanksOf, List.filterMap_append, List.eraseDups_append]
  exact List.idxOf_append_of_mem h

theorem labelsOf_append_blank_of_not_mem (h : b ∉ blanksOf ps) :
    labelsOf n (ps ++ [.term (.blank b)]) =
      labelsOf n ps ++ [(b, Fresh.blankLabel (n + (blanksOf ps).length))] := by
  simp only [labelsOf, blanksOf_append_blank_of_not_mem h, List.map_append, List.map_singleton,
    List.idxOf_append_of_notMem h, List.idxOf_cons_self, Nat.add_zero]
  exact congrArg (· ++ _) (List.map_congr_left fun c hc => by rw [List.idxOf_append_of_mem hc])

theorem labelsOf_append_blank_of_mem (h : b ∈ blanksOf ps) :
    labelsOf n (ps ++ [.term (.blank b)]) = labelsOf n ps := by
  simp only [labelsOf, blanksOf_append_blank_of_mem h]

theorem labelsOf_append_of_blank?_eq_none {tp : TermPattern} (h : tp.blank? = none) :
    labelsOf n (ps ++ [tp]) = labelsOf n ps := by
  simp only [labelsOf, blanksOf_append_of_blank?_eq_none h]

/-- A label met among the first positions of a template keeps the number it got there. -/
theorem freshBlank_of_mem {template : List TriplePattern} (hP : ps ++ qs = nodePositions template)
    (h : b ∈ blanksOf ps) : freshBlank template n b = Fresh.blankLabel (n + (blanksOf ps).idxOf b) := by
  rw [freshBlank, templateBlanks, ← hP, idxOf_blanksOf_append h]

end Labels

namespace TriplePattern

variable {sol : Solution} {label : String → String} {t : TriplePattern}

theorem instantiateWith_of_some {s o : Term} {p : String}
    (hs : t.subject.instantiateWith sol label = some s) (hp : t.predicate.instantiateWith sol = some p)
    (ho : t.object.instantiateWith sol label = some o) :
    t.instantiateWith sol label = if s.isLiteral then none else some ⟨s, p, o⟩ := by
  simp [instantiateWith, hs, hp, ho]

theorem instantiateWith_eq_none
    (h : ∀ s o p, t.subject.instantiateWith sol label = some s →
      t.object.instantiateWith sol label = some o → t.predicate.instantiateWith sol = some p → False) :
    t.instantiateWith sol label = none := by
  simp only [instantiateWith]
  cases hs : t.subject.instantiateWith sol label with
  | none => rfl
  | some s =>
    cases hp : t.predicate.instantiateWith sol with
    | none => rfl
    | some p =>
      cases ho : t.object.instantiateWith sol label with
      | none => rfl
      | some o => exact (h s o p hs ho hp).elim

end TriplePattern

/-- **One solution.**  Instantiating a template from counter `n` gives the triples
its template triples stand for, in order, the blank nodes numbered from `n` on,
and moves the counter past the template's distinct blank nodes. -/
theorem instantiate_run (template : List TriplePattern) (sol : Solution) (n : Nat) :
    (instantiate template sol).run n =
      .ok (template.filterMap (·.instantiateWith sol (freshBlank template n)),
        n + (templateBlanks template).length) := by
  simp only [instantiate]
  -- over the template triples done: their labels and triples, and the counter past their labels
  refine run_forIn_bind template _ _ (fun done st c => st = (labelsOf n (nodePositions done),
      done.filterMap (·.instantiateWith sol (freshBlank template n))) ∧
    c = n + (blanksOf (nodePositions done)).length) ([], []) n ⟨rfl, rfl⟩ ?_ ?_
  rotate_left
  · rintro st c ⟨rfl, rfl⟩
    rfl
  intro done t rest st c hdone ⟨hst, hc⟩
  subst hst hc
  refine ⟨_, _, ?_, rfl, rfl⟩
  -- over the two positions of `t` done: their labels and terms
  refine run_forIn_bind [t.subject, t.object] _ _ (fun Q st c => st = (labelsOf n (nodePositions done ++ Q),
      Q.map (·.instantiateWith sol (freshBlank template n))) ∧
    c = n + (blanksOf (nodePositions done ++ Q)).length) _ _ (by simp) ?_ ?_
  rotate_left
  · rintro st c ⟨rfl, rfl⟩
    simp only [List.map_cons, List.map_nil]
    have hpos : nodePositions (done ++ [t]) = nodePositions done ++ [t.subject, t.object] := by
      simp [nodePositions]
    rw [hpos, List.filterMap_append]
    split
    · -- every position has a value and the predicate is an IRI
      rename_i s o p hparts hp
      simp only [List.cons.injEq, and_true] at hparts
      have ht := TriplePattern.instantiateWith_of_some hparts.1 hp hparts.2
      cases hl : s.isLiteral <;> simp [ht, hl] <;> rfl
    · rename_i hno
      have ht : t.instantiateWith sol (freshBlank template n) = none :=
        TriplePattern.instantiateWith_eq_none fun s o p hs ho hp => hno s o p (by rw [hs, ho]) hp
      simp [ht]
      rfl
  intro Q tp rest' st c hQ ⟨hst, hc⟩
  subst hst hc
  have hP : (nodePositions done ++ Q) ++ tp :: (rest' ++ nodePositions rest) = nodePositions template := by
    rw [← hdone]
    simp only [nodePositions, List.flatMap_append, List.flatMap_cons, ← hQ, List.append_assoc,
      List.cons_append]
  rw [← List.append_assoc]
  cases tp with
  | var v =>
    refine ⟨_, _, rfl, ?_, ?_⟩
    · rw [labelsOf_append_of_blank?_eq_none rfl, List.map_append]
      rfl
    · rw [blanksOf_append_of_blank?_eq_none rfl]
  | term c =>
    cases c with
    | blank b =>
      by_cases hb : b ∈ blanksOf (nodePositions done ++ Q)
      · -- a label met before keeps its blank node
        simp only [lookup_labelsOf, if_pos hb]
        refine ⟨_, _, rfl, ?_, ?_⟩
        · rw [labelsOf_append_blank_of_mem hb, List.map_append, List.map_singleton,
            TermPattern.instantiateWith, freshBlank_of_mem hP hb]
        · rw [blanksOf_append_blank_of_mem hb]
      · -- a new label takes the next fresh blank node
        simp only [lookup_labelsOf, if_neg hb]
        have hnew : b ∈ blanksOf (nodePositions done ++ Q ++ [.term (.blank b)]) := by
          rw [blanksOf_append_blank_of_not_mem hb]
          exact List.mem_append_right _ (List.mem_singleton_self b)
        have hP' : (nodePositions done ++ Q ++ [.term (.blank b)]) ++ (rest' ++ nodePositions rest) =
            nodePositions template := by
          simpa using hP
        refine ⟨_, _, rfl, ?_, ?_⟩
        · rw [labelsOf_append_blank_of_not_mem hb, List.map_append, List.map_singleton,
            TermPattern.instantiateWith, freshBlank_of_mem hP' hnew, blanksOf_append_blank_of_not_mem hb,
            List.idxOf_append_of_notMem hb, List.idxOf_cons_self, Nat.add_zero]
        · rw [blanksOf_append_blank_of_not_mem hb, List.length_append, List.length_singleton,
            Nat.add_assoc]
    | iri _ | literal _ =>
      refine ⟨_, _, rfl, ?_, ?_⟩
      · rw [labelsOf_append_of_blank?_eq_none rfl, List.map_append]
        rfl
      · rw [blanksOf_append_of_blank?_eq_none rfl]

/-- **All solutions.**  `CONSTRUCT` from counter `first` lists, each once and in
the order first found, the triples the template stands for in every solution, in
id order: the solution at position `i` is instantiated from counter `first + i * k`
for the `k` distinct blank nodes of the template.  It moves the counter past all
of them. -/
theorem construct_run (template : List TriplePattern) (m : Multiset) (first : Nat) :
    (construct template m).run first =
      .ok ((m.entries.zipIdx.flatMap fun e => template.filterMap (·.instantiateWith ⟨m.vars, e.1.2⟩
          (freshBlank template (first + e.2 * (templateBlanks template).length)))).eraseDups,
        first + m.entries.length * (templateBlanks template).length) := by
  simp only [construct]
  -- over the solutions done: their triples, once each, and the counter past their blank nodes
  refine run_forIn_bind m.entries _ _ (fun done result c =>
      result = (done.zipIdx.flatMap fun e => template.filterMap (·.instantiateWith ⟨m.vars, e.1.2⟩
        (freshBlank template (first + e.2 * (templateBlanks template).length)))).eraseDups ∧
      c = first + done.length * (templateBlanks template).length) [] first ⟨rfl, by simp⟩ ?_ ?_
  · rintro done ⟨id, row⟩ rest result c - ⟨rfl, rfl⟩
    refine ⟨_, _, ?_, rfl, rfl⟩
    rw [StateT.run_bind, instantiate_run]
    simp only [List.zipIdx_append, List.flatMap_append, List.zipIdx_singleton, List.flatMap_singleton,
      ← appendNew_eraseDups, List.length_append, List.length_singleton, Nat.zero_add, Nat.succ_mul,
      Nat.add_assoc]
    rfl
  · rintro result c ⟨rfl, rfl⟩
    rfl

theorem Graphs.triples_of_isLiteral (g : Graphs) {s : Term} (hs : s.isLiteral = true)
    (p : Option String) (o : Option Term) : g.triples (some s) p o = [] := by
  simp [Graphs.triples, hs]

/-- Leaving out the literal values changes nothing: a literal describes no triple. -/
theorem flatMap_filterMap_nonLiteral (g : Graphs) (row : Row) :
    (row.filterMap fun v => v.filter (!·.isLiteral)).flatMap (fun s => g.triples (some s) none none) =
      row.reduceOption.flatMap fun s => g.triples (some s) none none := by
  induction row with
  | nil => rfl
  | cons v row ih =>
    cases v with
    | none => simpa [List.reduceOption_cons_of_none] using ih
    | some s =>
      rw [List.filterMap_cons, List.reduceOption_cons_of_some, List.flatMap_cons, ← ih]
      cases hs : s.isLiteral
      · rw [Option.filter_some_pos (by simp [hs])]
        rfl
      · rw [Option.filter_some_neg (by simp [hs]), g.triples_of_isLiteral hs, List.nil_append]

/-- **`DESCRIBE`** lists, each once and in the order first found, the triples of
the active graph whose subject is a value of a solution, solutions in id order
and values in order. -/
theorem describe_eq (g : Graphs) (m : Multiset) :
    describe g m = ((m.entries.flatMap fun e => e.2.reduceOption).flatMap
      fun s => g.triples (some s) none none).eraseDups := by
  have h := foldl_appendNew (fun s => g.triples (some s) none none) []
    (m.entries.flatMap fun e => e.2.filterMap fun v => v.filter (!·.isLiteral)).eraseDups
  simp only [List.eraseDups_nil, List.nil_append] at h
  simp only [describe, dedupeList_eq_eraseDups]
  rw [h, eraseDups_flatMap_eraseDups, List.flatMap_assoc, List.flatMap_assoc]
  simp only [flatMap_filterMap_nonLiteral]

/-- The triples `DESCRIBE` lists are those of the active graph whose subject is
an IRI or a blank node bound in a solution. -/
theorem mem_describe (g : Graphs) (m : Multiset) (t : Triple) :
    t ∈ describe g m ↔ t ∈ g.triples none none none ∧ t.subject.isLiteral = false ∧
      ∃ e ∈ m.entries, some t.subject ∈ e.2 := by
  simp only [describe_eq, List.mem_eraseDups, List.mem_flatMap, List.reduceOption_mem_iff]
  constructor
  · rintro ⟨s, ⟨e, he, hs⟩, ht⟩
    obtain ⟨hlit, hall, hsub, -⟩ := Graphs.mem_triples.1 ht
    obtain rfl : s = t.subject := hsub s rfl
    exact ⟨hall, hlit _ rfl, e, he, hs⟩
  · rintro ⟨ht, hlit, e, he, hs⟩
    refine ⟨t.subject, ⟨e, he, hs⟩, Graphs.mem_triples.2 ⟨?_, ht, ?_, by simp, by simp⟩⟩
    · intro a ha
      rw [Option.mem_some_iff] at ha
      exact ha ▸ hlit
    · intro a ha
      exact (Option.mem_some_iff.1 ha).symm

/-- **Blank nodes are fresh**: two distinct labels of a template, or the labels of
two different solutions, never share a blank node, and none is a blank node
numbered before the run. -/
theorem freshBlank_injective {template : List TriplePattern} {first i j : Nat} {b b' : String}
    (hb : b ∈ templateBlanks template) (hb' : b' ∈ templateBlanks template)
    (h : freshBlank template (first + i * (templateBlanks template).length) b =
      freshBlank template (first + j * (templateBlanks template).length) b') : i = j ∧ b = b' := by
  -- the numbers are `first + i * k + x` and `first + j * k + y` with `x, y < k`
  have hx := List.idxOf_lt_length_of_mem hb
  have hy := List.idxOf_lt_length_of_mem hb'
  have hsum : (templateBlanks template).idxOf b + i * (templateBlanks template).length =
      (templateBlanks template).idxOf b' + j * (templateBlanks template).length := by
    have := freshLabel_injective 'e' h
    omega
  have hij : i = j := by
    have hk : 0 < (templateBlanks template).length := List.length_pos_of_mem hb
    have hi := Nat.add_mul_div_right ((templateBlanks template).idxOf b) i hk
    have hj := Nat.add_mul_div_right ((templateBlanks template).idxOf b') j hk
    rw [Nat.div_eq_of_lt hx, Nat.zero_add, hsum] at hi
    rw [Nat.div_eq_of_lt hy, Nat.zero_add] at hj
    exact hi.symm.trans hj
  subst hij
  exact ⟨rfl, (List.idxOf_inj hb).1 (by omega)⟩

theorem freshBlank_ne_of_lt (template : List TriplePattern) {first k : Nat} (hk : k < first)
    (i : Nat) (b : String) :
    freshBlank template (first + i * (templateBlanks template).length) b ≠ Fresh.blankLabel k := by
  intro h
  have := freshLabel_injective 'e' h
  omega

/-- **`CONSTRUCT` and `DESCRIBE` build the graphs they describe, without
repetitions.**  `CONSTRUCT` lists, each once and in the order first found, the
triples the template stands for in every solution in id order, a template triple
skipped when a position is unbound, its subject is a literal or its predicate is
no IRI.  A blank-node label of the template stands for one blank node within a
solution; the blank nodes of different labels or of different solutions differ,
and differ from every blank node numbered before the run.  `DESCRIBE` lists, each
once and in the order first found, exactly the triples of the active graph whose
subject is an IRI or a blank node bound in a solution. -/
theorem construct_describe_build_their_graphs (template : List TriplePattern) (m : Multiset)
    (first : Nat) (g : Graphs) :
    ((construct template m).run first =
        .ok ((m.entries.zipIdx.flatMap fun e => template.filterMap (·.instantiateWith ⟨m.vars, e.1.2⟩
            (freshBlank template (first + e.2 * (templateBlanks template).length)))).eraseDups,
          first + m.entries.length * (templateBlanks template).length) ∧
      (∀ i j b b', b ∈ templateBlanks template → b' ∈ templateBlanks template →
        freshBlank template (first + i * (templateBlanks template).length) b =
          freshBlank template (first + j * (templateBlanks template).length) b' → i = j ∧ b = b') ∧
      ∀ i b k, k < first →
        freshBlank template (first + i * (templateBlanks template).length) b ≠ Fresh.blankLabel k) ∧
    describe g m = ((m.entries.flatMap fun e => e.2.reduceOption).flatMap
        fun s => g.triples (some s) none none).eraseDups ∧
    ∀ t, t ∈ describe g m ↔ t ∈ g.triples none none none ∧ t.subject.isLiteral = false ∧
      ∃ e ∈ m.entries, some t.subject ∈ e.2 :=
  ⟨⟨construct_run template m first, fun _ _ _ _ hb hb' h => freshBlank_injective hb hb' h,
      fun i b _ hk => freshBlank_ne_of_lt template hk i b⟩,
    describe_eq g m, mem_describe g m⟩

end SparqlBag
