import Mathlib.Data.List.Chain
import SparqlBag.Proofs.Plan.LoweredForm

/-!
# The lowered form of a path is a join spine over its parts

Lowering gathers parts in order: triple patterns, path patterns and nested
patterns.  `PathScope.toPattern` flushes the buffered triple patterns as one
basic graph pattern before each other part and at the end, and joins from left to
right.  `PathScope.Encodes` says this without the buffer: the leaves give back the
parts in order, a basic graph pattern standing for a maximal run of triple
patterns (`PathScope.toPattern_join_spine`).  A nested part is a leaf as it is,
so a nested basic graph pattern is not merged with a run beside it
(`nested_bgp_stays_beside_run`).
-/

namespace SparqlBag

/-- Whether a part is a triple pattern. -/
def PathPart.isTriple : PathPart → Bool
  | .triple _ => true
  | _ => false

/-- Whether a pattern is a basic graph pattern. -/
def GraphPattern.isBgp : GraphPattern → Bool
  | .bgp _ => true
  | _ => false

namespace PathScope

/-- The leaves of the lowered form of a list of parts, from left to right. -/
inductive Encodes : List PathPart → List GraphPattern → Prop
  | nil : Encodes [] []
  /-- A non-empty run of triple patterns that the next part does not continue. -/
  | run {t : TriplePattern} {ts : List TriplePattern} {rest : List PathPart}
      {leaves : List GraphPattern} :
      (∀ p ∈ rest.head?, p.isTriple = false) → Encodes rest leaves →
      Encodes ((t :: ts).map .triple ++ rest) (.bgp (t :: ts) :: leaves)
  | path {s : TermPattern} {q : PropertyPath} {o : TermPattern} {rest : List PathPart}
      {leaves : List GraphPattern} :
      Encodes rest leaves → Encodes (.path s q o :: rest) (.path s q o :: leaves)
  | nested {g : GraphPattern} {rest : List PathPart} {leaves : List GraphPattern} :
      Encodes rest leaves → Encodes (.nested g :: rest) (g :: leaves)

/-! ## Grouping follows the grammar -/

theorem flush_eq_append (pending : List TriplePattern) (done : List GraphPattern) :
    flush pending done = done ++ flush pending [] := by
  unfold flush
  split_ifs <;> simp

/-- A part other than a triple pattern flushes the buffer and stands for itself. -/
theorem groupStep_of_not_isTriple {p : PathPart} (hp : p.isTriple = false)
    (acc : List TriplePattern × List GraphPattern) :
    groupStep acc p = ([], flush acc.1 acc.2 ++ [p.pattern]) := by
  cases p with
  | triple t => exact absurd hp (by simp [PathPart.isTriple])
  | path s q o => rfl
  | nested g => rfl

/-- A part other than a triple pattern is its own leaf. -/
theorem Encodes.cons_of_not_isTriple {p : PathPart} {rest : List PathPart}
    {leaves : List GraphPattern} (hp : p.isTriple = false) (h : Encodes rest leaves) :
    Encodes (p :: rest) (p.pattern :: leaves) := by
  cases p with
  | triple t => exact absurd hp (by simp [PathPart.isTriple])
  | path s q o => exact .path h
  | nested g => exact .nested h

/-- Flushing a buffer of triple patterns before parts that do not continue it
puts its run in front of their leaves. -/
theorem Encodes.flush_run (pending : List TriplePattern) {rest : List PathPart}
    {leaves : List GraphPattern} (hhead : ∀ p ∈ rest.head?, p.isTriple = false)
    (h : Encodes rest leaves) :
    Encodes (pending.map .triple ++ rest) (flush pending [] ++ leaves) := by
  cases pending with
  | nil => simpa using h
  | cons t ts => simpa [flush] using Encodes.run hhead h

/-- **Grouping from a buffer**: folding the parts after `done` and the buffered
triple patterns `pending` adds the leaves of the buffer followed by the parts. -/
theorem encodes_foldl_groupStep :
    ∀ (parts : List PathPart) (pending : List TriplePattern) (done : List GraphPattern),
      ∃ leaves, flush (parts.foldl groupStep (pending, done)).1
          (parts.foldl groupStep (pending, done)).2 = done ++ leaves ∧
        Encodes (pending.map .triple ++ parts) leaves
  | [], pending, done =>
    ⟨flush pending [], flush_eq_append pending done, by
      simpa using Encodes.flush_run pending (by simp) Encodes.nil⟩
  | p :: ps, pending, done => by
    rw [List.foldl_cons]
    cases hp : p.isTriple with
    | true =>
      -- a triple pattern joins the buffer
      obtain ⟨t, rfl⟩ : ∃ t, p = .triple t := by
        cases p with
        | triple t => exact ⟨t, rfl⟩
        | path => simp [PathPart.isTriple] at hp
        | nested => simp [PathPart.isTriple] at hp
      obtain ⟨leaves, heq, henc⟩ := encodes_foldl_groupStep ps (pending ++ [t]) done
      exact ⟨leaves, heq, by simpa using henc⟩
    | false =>
      -- any other part closes the run and starts afresh after its own leaf
      rw [groupStep_of_not_isTriple hp]
      obtain ⟨leaves, heq, henc⟩ := encodes_foldl_groupStep ps [] (flush pending done ++ [p.pattern])
      refine ⟨flush pending [] ++ p.pattern :: leaves, ?_, ?_⟩
      · rw [heq, flush_eq_append pending done]
        simp
      · exact Encodes.flush_run pending (by simpa using hp)
          (Encodes.cons_of_not_isTriple hp (by simpa using henc))

/-- **The patterns of the parts follow the grammar.** -/
theorem encodes_groupParts (parts : List PathPart) : Encodes parts (groupParts parts) := by
  obtain ⟨leaves, heq, henc⟩ := encodes_foldl_groupStep parts [] []
  rw [groupParts_eq, heq]
  simpa using henc

/-! ## What the grammar says of the leaves -/

theorem Encodes.eq_nil_iff {parts : List PathPart} {leaves : List GraphPattern}
    (h : Encodes parts leaves) : leaves = [] ↔ parts = [] := by
  cases h <;> simp

/-- The parts have a single leaf exactly when they are one run of triple
patterns or one other part. -/
theorem Encodes.single_iff {parts : List PathPart} {g : GraphPattern} {gs : List GraphPattern}
    (h : Encodes parts (g :: gs)) :
    gs = [] ↔ (∀ p ∈ parts, p.isTriple) ∨ parts.length = 1 := by
  cases h with
  | @run t ts rest _ hhead hrest =>
    rw [hrest.eq_nil_iff]
    constructor
    · rintro rfl
      exact .inl (by simp [PathPart.isTriple])
    · rintro (hall | hlen)
      · -- a part after the run would have to be a triple pattern, and cannot be
        cases rest with
        | nil => rfl
        | cons p ps =>
          have hp : p.isTriple = true := hall p (by simp)
          simp [hhead p rfl] at hp
      · simp only [List.length_append, List.length_map, List.length_cons] at hlen
        exact List.eq_nil_of_length_eq_zero (by omega)
  | path hrest => simp [hrest.eq_nil_iff, PathPart.isTriple]
  | nested hrest => simp [hrest.eq_nil_iff, PathPart.isTriple]

section Leaves

variable {parts : List PathPart} {leaves : List GraphPattern}

/-- No leaf is an empty basic graph pattern, unless a nested part is one. -/
theorem Encodes.bgp_nil_not_mem (h : Encodes parts leaves)
    (hnested : ∀ g, .nested g ∈ parts → g.isBgp = false) : GraphPattern.bgp [] ∉ leaves := by
  induction h with
  | nil => simp
  | run _ _ ih =>
    simpa using ih fun g hg => hnested g (List.mem_append_right _ hg)
  | path _ ih => simpa using ih fun g hg => hnested g (List.mem_cons_of_mem _ hg)
  | @nested g _ _ _ ih =>
    have hg : g.isBgp = false := hnested g (List.mem_cons_self ..)
    rw [List.mem_cons, not_or]
    refine ⟨?_, ih fun g' hg' => hnested g' (List.mem_cons_of_mem _ hg')⟩
    rintro rfl
    simp [GraphPattern.isBgp] at hg

/-- The first leaf of parts that do not start with a triple pattern is no basic
graph pattern, unless a nested part is one. -/
theorem Encodes.head_not_isBgp (h : Encodes parts leaves)
    (hhead : ∀ p ∈ parts.head?, p.isTriple = false)
    (hnested : ∀ g, .nested g ∈ parts → g.isBgp = false) :
    ∀ l ∈ leaves.head?, l.isBgp = false := by
  cases h with
  | nil => simp
  | @run t _ _ _ _ _ =>
    have := hhead (.triple t) (by simp)
    simp [PathPart.isTriple] at this
  | path => simp [GraphPattern.isBgp]
  | nested => simpa using hnested _ (List.mem_cons_self ..)

/-- No two leaves next to each other are basic graph patterns, unless a nested
part is one: a run is followed by a path or a nested part. -/
theorem Encodes.isChain (h : Encodes parts leaves)
    (hnested : ∀ g, .nested g ∈ parts → g.isBgp = false) :
    leaves.IsChain fun a b => ¬(a.isBgp ∧ b.isBgp) := by
  induction h with
  | nil => exact .nil
  | @run _ _ rest _ hhead hrest ih =>
    have hrest' : ∀ g, PathPart.nested g ∈ rest → g.isBgp = false :=
      fun g hg => hnested g (List.mem_append_right _ hg)
    refine (ih hrest').cons fun l hl => ?_
    simp [hrest.head_not_isBgp hhead hrest' l hl]
  | path _ ih =>
    exact (ih fun g hg => hnested g (List.mem_cons_of_mem _ hg)).cons fun l _ => by
      simp [GraphPattern.isBgp]
  | @nested g _ _ _ ih =>
    have hg : g.isBgp = false := hnested g (List.mem_cons_self ..)
    exact (ih fun g' hg' => hnested g' (List.mem_cons_of_mem _ hg')).cons fun l _ => by
      simp [hg]

end Leaves

/-! ## The lowered pattern -/

/-- **The lowered pattern of a scope with parts is a left-deep join spine over
its leaves**: `toPattern` succeeds, the leaves read from left to right give
back the parts (each basic graph pattern a maximal run of triple patterns,
each path and nested part in its place), the spine is a single leaf exactly
when the parts are one run of triple patterns or one other part, and when no
nested part is a basic graph pattern, no leaf is an empty one and no two are
next to each other. -/
theorem toPattern_join_spine (s : PathScope) (hne : s.parts ≠ []) :
    ∃ g gs, s.toPattern = .ok (gs.foldl .join g) ∧ Encodes s.parts (g :: gs) ∧
      (gs = [] ↔ (∀ p ∈ s.parts, p.isTriple) ∨ s.parts.length = 1) ∧
      ((∀ n, PathPart.nested n ∈ s.parts → n.isBgp = false) →
        GraphPattern.bgp [] ∉ g :: gs ∧ (g :: gs).IsChain fun a b => ¬(a.isBgp ∧ b.isBgp)) := by
  have henc := encodes_groupParts s.parts
  obtain ⟨g, gs, hgs⟩ : ∃ g gs, groupParts s.parts = g :: gs :=
    List.exists_cons_of_ne_nil (mt henc.eq_nil_iff.1 hne)
  rw [hgs] at henc
  refine ⟨g, gs, by simp [toPattern, hgs], henc, henc.single_iff, fun hnested => ?_⟩
  exact ⟨henc.bgp_nil_not_mem hnested, henc.isChain hnested⟩

/-- The parts `?s <p> ?a`, `?a <q>* ?b`, `?b <r> ?o` of the path
`<p>/<q>*/<r>`: two runs around a path pattern. -/
theorem toPattern_join_spine_split_by_path :
    let s : PathScope := { PathScope.new (.var ⟨"s"⟩) (.var ⟨"o"⟩) with
      parts := [.triple ⟨.var ⟨"s"⟩, .iri "http://ex/p", .var ⟨"a"⟩⟩,
        .path (.var ⟨"a"⟩) (.zeroOrMore (.iri "http://ex/q")) (.var ⟨"b"⟩),
        .triple ⟨.var ⟨"b"⟩, .iri "http://ex/r", .var ⟨"o"⟩⟩] }
    s.parts ≠ [] ∧
      ∃ g gs, s.toPattern = .ok (gs.foldl .join g) ∧ Encodes s.parts (g :: gs) ∧
        (gs = [] ↔ (∀ p ∈ s.parts, p.isTriple) ∨ s.parts.length = 1) ∧
        ((∀ n, PathPart.nested n ∈ s.parts → n.isBgp = false) →
          GraphPattern.bgp [] ∉ g :: gs ∧ (g :: gs).IsChain fun a b => ¬(a.isBgp ∧ b.isBgp)) :=
  ⟨List.cons_ne_nil _ _, toPattern_join_spine _ (List.cons_ne_nil _ _)⟩

/-- A nested part that is a basic graph pattern stays a leaf of its own: before
a triple pattern it gives a join of two basic graph patterns, where one basic
graph pattern of both triple patterns would have no two basic graph patterns
next to each other. -/
theorem nested_bgp_stays_beside_run :
    ({ PathScope.new (.var ⟨"s"⟩) (.var ⟨"o"⟩) with
      parts := [.nested (.bgp [⟨.var ⟨"s"⟩, .iri "http://ex/p", .var ⟨"m"⟩⟩]),
        .triple ⟨.var ⟨"m"⟩, .iri "http://ex/q", .var ⟨"o"⟩⟩] } : PathScope).toPattern =
      .ok (.join (.bgp [⟨.var ⟨"s"⟩, .iri "http://ex/p", .var ⟨"m"⟩⟩])
        (.bgp [⟨.var ⟨"m"⟩, .iri "http://ex/q", .var ⟨"o"⟩⟩])) :=
  rfl

end PathScope

end SparqlBag
