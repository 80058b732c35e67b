import SparqlBag.Proofs.Store.Invariant

/-!
# The indexed content refines the plain dataset

`Content.dataset` forgets the slots and indexes of a content and keeps its stored
quads, in slot order, and its declared graphs.  On content that keeps its
invariant, every operation answers what it answers on the plain `Dataset` and
leaves the dataset it leaves (`Invariant.apply_dataset`); lookups, the count and
membership read the indexes and agree too.  The simulation is proved once per
operation and carried through sequences by `foldl_simulate`
(`Invariant.replayFrom_dataset`, `replay_refines`).
-/

namespace SparqlBag

/-- Two folds that thread a state and combine the answers of their steps agree,
when their steps agree through `abs` on the states satisfying `P` and keep
`P`. -/
theorem foldl_simulate {σ τ α ρ ω : Type} (stepC : σ → α → ρ × σ) (stepA : τ → α → ρ × τ)
    (abs : σ → τ) (P : σ → Prop) (comb : ω → ρ → ω)
    (hstep : ∀ s x, P s → (stepC s x).map id abs = stepA (abs s) x)
    (hkeep : ∀ s x, P s → P (stepC s x).2) :
    ∀ (xs : List α) (w : ω) (s : σ), P s →
      (xs.foldl (fun acc x => (comb acc.1 (stepC acc.2 x).1, (stepC acc.2 x).2)) (w, s)).map id abs =
        xs.foldl (fun acc x => (comb acc.1 (stepA acc.2 x).1, (stepA acc.2 x).2)) (w, abs s) := by
  intro xs
  induction xs with
  | nil => intro w s _; rfl
  | cons x xs ih =>
    intro w s hs
    have hx := hstep s x hs
    simp only [List.foldl_cons]
    rw [← hx]
    exact ih _ _ (hkeep s x hs)

namespace Dataset

/-- Applies one operation. -/
def apply (d : Dataset) : StoreOp → StoreAnswer × Dataset
  | .insert q => let (b, d) := d.insert q; (.flag b, d)
  | .insertQuads qs => let (n, d) := d.insertAll qs; (.count n, d)
  | .extend ts =>
    let (n, d) := d.insertAll (ts.map fun t => ⟨t.subject, t.predicate, t.object, .default⟩)
    (.count n, d)
  | .remove q => let (b, d) := d.remove q; (.flag b, d)
  | .insertNamedGraph g => let (b, d) := d.addNamedGraph g; (.flag b, d)
  | .removeNamedGraph g => let (b, d) := d.removeNamedGraph g; (.flag b, d)
  | .clear => (.done, {})
  | .snapshot => (.done, d)

/-- Applies operations one after another, collecting the answers. -/
def replayFrom (d : Dataset) (ops : List StoreOp) : List StoreAnswer × Dataset :=
  ops.foldl (fun (acc : List StoreAnswer × Dataset) op =>
    let (a, d) := acc.2.apply op
    (acc.1 ++ [a], d)) ([], d)

/-- Applies operations to the empty dataset. -/
def replay (ops : List StoreOp) : List StoreAnswer × Dataset := replayFrom {} ops

/-- Declaring a graph on a plain dataset, as one pair. -/
theorem addNamedGraph_eq (d : Dataset) (g : Term) :
    d.addNamedGraph g = (decide (g ∉ d.namedGraphs),
      { d with namedGraphs := if g ∈ d.namedGraphs then d.namedGraphs else d.namedGraphs ++ [g] }) := by
  unfold Dataset.addNamedGraph
  by_cases hg : g ∈ d.namedGraphs <;> simp [hg]

end Dataset

namespace Content

variable {c : Content}

/-! ## Reading the content -/

@[simp] theorem dataset_quads (c : Content) : c.dataset.quads = c.quads := rfl

@[simp] theorem dataset_namedGraphs (c : Content) : c.dataset.namedGraphs = c.namedGraphs := rfl

theorem dataset_eq_iff {d : Dataset} :
    c.dataset = d ↔ c.quads = d.quads ∧ c.namedGraphs = d.namedGraphs := by
  cases d
  simp [dataset]

theorem Indexed.contains_eq (h : c.Indexed) (q : Quad) : c.contains q = c.dataset.contains q := by
  rw [Bool.eq_iff_iff, contains, h.contains_iff]
  simp [Dataset.contains]

theorem Invariant.containsNamedGraph_eq (h : c.Invariant) (g : Term) :
    c.containsNamedGraph g = c.dataset.containsNamedGraph g := by
  rw [Bool.eq_iff_iff, containsNamedGraph, Std.HashSet.contains_iff_mem, ← h.mem_namedGraphs]
  simp [Dataset.containsNamedGraph]

theorem Indexed.len_eq (h : c.Indexed) : c.len = c.dataset.size := h.size_slotOf

theorem Indexed.matching_dataset (h : c.Indexed) (s : Option Term) (p : Option String)
    (o : Option Term) (g : Option GraphName) :
    c.matching s p o g = c.dataset.matching s p o g := h.matching_eq s p o g

/-! ## One operation -/

theorem Invariant.addNamedGraph_dataset (h : c.Invariant) (g : Term) :
    (c.addNamedGraph g).map id dataset = c.dataset.addNamedGraph g := by
  simp only [addNamedGraph_eq, Dataset.addNamedGraph_eq, ← h.mem_namedGraphs]
  by_cases hg : g ∈ c.namedGraphs <;> simp [hg, dataset, quads]

/-- A new quad is appended to the stored quads, declaring its graph. -/
theorem Invariant.insert_dataset (h : c.Invariant) (q : Quad) :
    (c.insert q).map id dataset = c.dataset.insert q := by
  cases hq : c.slotOf.contains q
  · have hnot : c.dataset.contains q = false := by
      rw [← h.contains_eq]
      exact hq
    rw [insert_of_not_contains hq, Dataset.insert, hnot, if_neg Bool.false_ne_true]
    -- The graph is declared on both sides, or on neither.
    rcases q with ⟨s, p, o, _ | g⟩
    · simp [declareGraphOf, dataset, quads]
    · simp only [declareGraphOf, addNamedGraph_eq, Dataset.addNamedGraph_eq, ← h.mem_namedGraphs]
      by_cases hg : g ∈ c.namedGraphs <;> simp [hg, dataset, quads]
  · have hin : c.dataset.contains q = true := by
      rw [← h.contains_eq]
      exact hq
    rw [insert_of_contains hq]
    simp [Dataset.insert, hin]

theorem remove_fst (c : Content) (q : Quad) : (c.remove q).1 = c.contains q := by
  unfold Content.remove contains
  rw [Std.HashMap.contains_eq_isSome_getElem?]
  split <;> simp_all

/-- A stored quad is erased from the stored quads, the others keep their order. -/
theorem Invariant.remove_dataset (h : c.Invariant) (q : Quad) :
    (c.remove q).map id dataset = c.dataset.remove q := by
  have hsnd : (c.remove q).2.dataset = { c.dataset with quads := c.quads.erase q } := by
    simp only [dataset, h.remove_quads q, remove_namedGraphs]
  rw [Prod.map, remove_fst, hsnd, h.contains_eq, Dataset.remove]
  by_cases hq : c.dataset.contains q
  · simp [hq]
  · -- Erasing an absent quad changes nothing.
    have hnot : q ∉ c.quads := by simpa [Dataset.contains] using hq
    simp [hq, List.erase_of_not_mem hnot]
    rfl

theorem removeNamedGraph_fst (c : Content) (g : Term) :
    (c.removeNamedGraph g).1 = c.containsNamedGraph g := by
  unfold Content.removeNamedGraph containsNamedGraph
  split <;> simp_all

/-- A declared graph goes, and with it exactly the stored quads in it. -/
theorem Invariant.removeNamedGraph_dataset (h : c.Invariant) (g : Term) :
    (c.removeNamedGraph g).map id dataset = c.dataset.removeNamedGraph g := by
  obtain ⟨-, hquads, hng⟩ := h.removeNamedGraph g
  have hsnd : (c.removeNamedGraph g).2.dataset =
      ⟨c.quads.filter (·.graph != .named g), c.namedGraphs.filter (· != g)⟩ := by
    simp only [dataset, hquads, hng]
  rw [Prod.map, removeNamedGraph_fst, hsnd, h.containsNamedGraph_eq, Dataset.removeNamedGraph]
  by_cases hg : c.dataset.containsNamedGraph g
  · simp [hg]
  · -- An undeclared graph holds no stored quad: both filters keep everything.
    have hgl : g ∉ c.namedGraphs := by simpa [Dataset.containsNamedGraph] using hg
    have hq : ∀ q ∈ c.quads, q.graph ≠ .named g := fun q hq hq' =>
      hgl (h.graph_declared q hq g hq')
    simp only [hg, id, Bool.false_eq_true, if_false, Prod.mk.injEq, true_and]
    refine (dataset_eq_iff.2 ⟨(List.filter_eq_self.2 fun q hq' => ?_).symm,
      (List.filter_eq_self.2 fun g' hg' => ?_).symm⟩).symm
    · simpa using hq q hq'
    · simp only [bne_iff_ne, ne_eq]
      exact fun he => hgl (he ▸ hg')

/-- Inserting quads one after another is the same on the content and on its
dataset, and so is the count of new ones. -/
theorem Invariant.insertQuads_dataset (h : c.Invariant) (qs : List Quad) :
    (c.insertQuads qs).map id dataset = c.dataset.insertAll qs :=
  foldl_simulate Content.insert Dataset.insert dataset Invariant (fun n b => if b then n + 1 else n)
    (fun _ q hs => hs.insert_dataset q) (fun _ q hs => hs.insert q) qs 0 c h

/-- **One operation on the content is the same operation on its dataset.** -/
theorem Invariant.apply_dataset (h : c.Invariant) :
    ∀ op, (c.apply op).map id dataset = c.dataset.apply op
  | .insert q => by
    simp only [Content.apply, Dataset.apply]
    rw [← h.insert_dataset q]
    rfl
  | .insertQuads qs => by
    simp only [Content.apply, Dataset.apply]
    rw [← h.insertQuads_dataset qs]
    rfl
  | .extend ts => by
    simp only [Content.apply, Dataset.apply, extendGraph]
    rw [← h.insertQuads_dataset]
    rfl
  | .remove q => by
    simp only [Content.apply, Dataset.apply]
    rw [← h.remove_dataset q]
    rfl
  | .insertNamedGraph g => by
    simp only [Content.apply, Dataset.apply]
    rw [← h.addNamedGraph_dataset g]
    rfl
  | .removeNamedGraph g => by
    simp only [Content.apply, Dataset.apply]
    rw [← h.removeNamedGraph_dataset g]
    rfl
  | .clear => rfl
  | .snapshot => rfl

/-! ## Sequences of operations -/

/-- Every sequence of operations on the content is the same sequence on its
dataset. -/
theorem Invariant.replayFrom_dataset (h : c.Invariant) (ops : List StoreOp) :
    (c.replayFrom ops).map id dataset = c.dataset.replayFrom ops :=
  foldl_simulate Content.apply Dataset.apply dataset Invariant (fun as a => as ++ [a])
    (fun _ op hs => hs.apply_dataset op) (fun _ op hs => hs.apply op) ops [] c h

/-- **The indexed content refines the plain dataset**: after any sequence of
operations from the empty content, every answer is the one the plain dataset
gives, and the content holds the quads and graphs of the plain dataset, each
listed once, in insertion order; a lookup of any pattern finds exactly the
matching quads in that order, the count is the number of quads, and a quad is
found stored exactly when it is in the list. -/
theorem replay_refines (ops : List StoreOp) :
    let c := (Content.replay ops).2
    let d := (Dataset.replay ops).2
    (Content.replay ops).1 = (Dataset.replay ops).1 ∧ c.dataset = d ∧
      d.quads.Nodup ∧ d.namedGraphs.Nodup ∧
      (∀ s p o g, c.matching s p o g = d.matching s p o g) ∧
      c.len = d.size ∧ ∀ q, c.contains q = d.contains q := by
  have h := Invariant.empty.replayFrom ops
  have hr := Invariant.empty.replayFrom_dataset ops
  have hsnd : (Content.replay ops).2.dataset = (Dataset.replay ops).2 := congrArg Prod.snd hr
  refine ⟨congrArg Prod.fst hr, hsnd, ?_, ?_, ?_, ?_, ?_⟩
  · rw [← hsnd]
    exact h.quads_nodup
  · rw [← hsnd]
    exact h.namedGraphs_nodup
  · rw [← hsnd]
    exact h.matching_dataset
  · rw [← hsnd]
    exact h.len_eq
  · rw [← hsnd]
    exact h.contains_eq

end Content

end SparqlBag
