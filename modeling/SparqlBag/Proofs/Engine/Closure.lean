import Mathlib.Logic.Relation
import Mathlib.Data.Finset.Card
import SparqlBag.Proofs.Engine.Reachability

/-!
# The breadth-first search of `+` and `*`

`Graphs.closure next` takes the next node from a queue, skips it if it was
expanded before, and otherwise records and queues what `next` reaches from it.
From one node it finds exactly the nodes one or more steps reach, each once
(`Graphs.closure_spec`).  `Round` is one round as a relation; its invariant
(`Search`) says what was found, that expanded nodes have their successors
expanded or queued, and that all of them are reachable.  Within a finite set `U`
of nodes the potential `|U \ expanded| * (|U| + 1) + |queue|` falls at every
round (`Round.potential_lt`), so the fuel lasts (`closure_reaches_done`).
-/

namespace SparqlBag

/-- Adding nodes keeps a list of nodes free of repetitions. -/
theorem nodup_addNodes {ns : List Term} (h : ns.Nodup) (more : List Term) :
    (addNodes ns more).Nodup := by
  induction more generalizing ns with
  | nil => exact h
  | cons t more ih =>
    rw [addNodes, List.foldl_cons, ← addNodes]
    apply ih
    unfold addNode
    split_ifs with ht
    · exact h
    · refine List.nodup_append.2 ⟨h, List.nodup_singleton t, fun x hx y hy hxy => ?_⟩
      rw [List.mem_singleton] at hy
      subst hy hxy
      exact ht (List.elem_iff.2 hx)

namespace Graphs

/-! ## Rounds of the search -/

/-- A state of the breadth-first search of `+` and `*`: the nodes found so far,
the nodes expanded and the queue. -/
structure SearchState where
  found : List Term
  visited : List Term
  queue : List Term

/-- One round of the search: the first queued node is dropped if it was
expanded before, and expanded otherwise. -/
inductive Round (next : Term → List Term) : SearchState → SearchState → Prop
  | skip {found visited queue : List Term} {node : Term} :
      node ∈ visited → Round next ⟨found, visited, node :: queue⟩ ⟨found, visited, queue⟩
  | visit {found visited queue : List Term} {node : Term} :
      node ∉ visited →
      Round next ⟨found, visited, node :: queue⟩
        ⟨addNodes found (next node), node :: visited,
          queue ++ (next node).filter fun w => !(node :: visited).contains w⟩

section Rounds

variable {next : Term → List Term} {st st' : SearchState}

/-- A search with a queued node has a round to take. -/
theorem Round.exists (found visited queue : List Term) (node : Term) :
    ∃ st', Round next ⟨found, visited, node :: queue⟩ st' := by
  by_cases hnode : node ∈ visited
  · exact ⟨_, .skip hnode⟩
  · exact ⟨_, .visit hnode⟩

/-- The fuelled search takes the rounds of the relation, one per unit of fuel. -/
theorem closure_succ_of_round (fuel : Nat) (h : Round next st st') :
    closure next (fuel + 1) st.found st.visited st.queue =
      closure next fuel st'.found st'.visited st'.queue := by
  cases h with
  | skip hnode => simp [closure, hnode]
  | visit hnode => simp [closure, hnode]

/-- A round keeps the queue inside a set that the steps do not leave. -/
theorem Round.queue_mem {P : Term → Prop} (hP : ∀ v, P v → ∀ w ∈ next v, P w)
    (h : Round next st st') (hq : ∀ x ∈ st.queue, P x) : ∀ x ∈ st'.queue, P x := by
  cases h with
  | skip => exact fun x hx => hq x (List.mem_cons_of_mem _ hx)
  | @visit found visited queue node hnode =>
    intro x hx
    rcases List.mem_append.1 hx with hx | hx
    · exact hq x (List.mem_cons_of_mem _ hx)
    · exact hP node (hq node (List.mem_cons_self ..)) x (List.mem_filter.1 hx).1

end Rounds

section Search

variable (next : Term → List Term) (start : Term) (found₀ : List Term)

/-- One step of `next`. -/
def Steps (a b : Term) : Prop := b ∈ next a

/-- The invariant of the search from `start` begun with `found₀` found: the nodes
found are those begun with and the successors of the nodes expanded, each
once; the successors of a node expanded are expanded or queued; and every node
expanded or queued is reachable from the start, which is one of them. -/
structure Search (found visited queue : List Term) : Prop where
  found_iff : ∀ x, x ∈ found ↔ x ∈ found₀ ∨ ∃ v ∈ visited, x ∈ next v
  nodup : found.Nodup
  closed : ∀ v ∈ visited, ∀ w ∈ next v, w ∈ visited ∨ w ∈ queue
  reached : ∀ v, v ∈ visited ∨ v ∈ queue → Relation.ReflTransGen (Steps next) start v
  start_mem : start ∈ visited ∨ start ∈ queue

variable {next start found₀} {found visited queue : List Term} {node : Term}

theorem Search.init (h : found₀.Nodup) : Search next start found₀ found₀ [] [start] where
  found_iff x := by simp
  nodup := h
  closed v hv := by cases hv
  reached v hv := by
    obtain rfl : v = start := by simpa using hv
    exact Relation.ReflTransGen.refl
  start_mem := by simp

/-- A round that meets an expanded node drops it from the queue. -/
theorem Search.skip (h : Search next start found₀ found visited (node :: queue))
    (hnode : node ∈ visited) : Search next start found₀ found visited queue where
  found_iff := h.found_iff
  nodup := h.nodup
  closed v hv w hw := by
    rcases h.closed v hv w hw with hw | hw
    · exact .inl hw
    · rcases List.mem_cons.1 hw with rfl | hw
      · exact .inl hnode
      · exact .inr hw
  reached v hv := h.reached v (hv.imp_right (List.mem_cons_of_mem node))
  start_mem := by
    rcases h.start_mem with hs | hs
    · exact .inl hs
    · rcases List.mem_cons.1 hs with rfl | hs
      · exact .inl hnode
      · exact .inr hs

/-- A round that meets a new node expands it: what it reaches is found, and what
of that is not expanded is queued. -/
theorem Search.visit (h : Search next start found₀ found visited (node :: queue)) :
    Search next start found₀ (addNodes found (next node)) (node :: visited)
      (queue ++ (next node).filter fun w => !(node :: visited).contains w) where
  found_iff x := by
    rw [mem_addNodes, h.found_iff]
    simp only [List.mem_cons, exists_eq_or_imp]
    constructor
    · rintro ((hx | hx) | hx)
      · exact .inl hx
      · exact .inr (.inr hx)
      · exact .inr (.inl hx)
    · rintro (hx | hx | hx)
      · exact .inl (.inl hx)
      · exact .inr hx
      · exact .inl (.inr hx)
  nodup := nodup_addNodes h.nodup _
  closed v hv w hw := by
    by_cases hin : w ∈ node :: visited
    · exact .inl hin
    · right
      rcases List.mem_cons.1 hv with rfl | hv
      · -- a successor of the node just expanded that is new is queued now
        exact List.mem_append_right _ (List.mem_filter.2 ⟨hw, by simpa using hin⟩)
      · rcases h.closed v hv w hw with hw' | hw'
        · exact absurd (List.mem_cons_of_mem node hw') hin
        · rcases List.mem_cons.1 hw' with rfl | hw'
          · exact absurd (List.mem_cons_self ..) hin
          · exact List.mem_append_left _ hw'
  reached v hv := by
    have hnode : Relation.ReflTransGen (Steps next) start node :=
      h.reached node (.inr (List.mem_cons_self ..))
    rcases hv with hv | hv
    · rcases List.mem_cons.1 hv with rfl | hv
      · exact hnode
      · exact h.reached v (.inl hv)
    · rcases List.mem_append.1 hv with hv | hv
      · exact h.reached v (.inr (List.mem_cons_of_mem node hv))
      · exact hnode.tail (List.mem_filter.1 hv).1
  start_mem := by
    rcases h.start_mem with hs | hs
    · exact .inl (List.mem_cons_of_mem node hs)
    · rcases List.mem_cons.1 hs with rfl | hs
      · exact .inl (List.mem_cons_self ..)
      · exact .inr (List.mem_append_left _ hs)

/-- A search whose queue is empty has found the nodes begun with and those
reachable from the start in one or more steps: the nodes expanded are closed
under `next`, so every node reachable from the start was expanded. -/
theorem Search.found_iff_of_done (h : Search next start found₀ found visited []) (x : Term) :
    x ∈ found ↔ x ∈ found₀ ∨ Relation.TransGen (Steps next) start x := by
  have hvisited : ∀ y, Relation.ReflTransGen (Steps next) start y → y ∈ visited := by
    intro y hy
    induction hy with
    | refl => simpa using h.start_mem
    | tail _ hstep ih => simpa using h.closed _ ih _ hstep
  rw [h.found_iff]
  refine or_congr_right ⟨?_, ?_⟩
  · rintro ⟨v, hv, hx⟩
    exact Relation.TransGen.tail' (h.reached v (.inl hv)) hx
  · intro hx
    obtain ⟨v, hv, hstep⟩ := Relation.TransGen.tail'_iff.1 hx
    exact ⟨v, hvisited v hv, hstep⟩

/-- A round keeps the invariant: it drops a node expanded before or expands a new one. -/
theorem Search.round {st st' : SearchState} (h : Search next start found₀ st.found st.visited st.queue)
    (hround : Round next st st') : Search next start found₀ st'.found st'.visited st'.queue := by
  cases hround with
  | skip hnode => exact h.skip hnode
  | visit => exact h.visit

/-- Every state a run of rounds reaches keeps the invariant. -/
theorem Search.of_reachable {st st' : SearchState}
    (h : Search next start found₀ st.found st.visited st.queue)
    (hrun : Relation.ReflTransGen (Round next) st st') :
    Search next start found₀ st'.found st'.visited st'.queue := by
  induction hrun with
  | refl => exact h
  | tail _ hround ih => exact ih.round hround

end Search

/-! ## The fuel of the search -/

/-- What is left of a search that stays inside `U`: each node of `U` not yet
expanded may still queue up to `|U|` nodes, and each queued node takes a round. -/
def potential (U : Finset Term) (visited queue : List Term) : Nat :=
  (U \ visited.toFinset).card * (U.card + 1) + queue.length

theorem potential_skip (U : Finset Term) (visited queue : List Term) (node : Term) :
    potential U visited queue < potential U visited (node :: queue) := by
  simp [potential]

/-- Expanding a new node of `U` that reaches at most `|U|` nodes lowers the potential. -/
theorem potential_visit {U : Finset Term} {visited reached : List Term} {node : Term}
    (queue : List Term) (hnode : node ∈ U) (hnew : node ∉ visited) (hreached : reached.length ≤ U.card) :
    potential U (node :: visited) (queue ++ reached.filter fun w => !(node :: visited).contains w) <
      potential U visited (node :: queue) := by
  have hcard : (U \ (node :: visited).toFinset).card + 1 = (U \ visited.toFinset).card := by
    rw [List.toFinset_cons, Finset.sdiff_insert,
      Finset.card_erase_of_mem (by simpa using And.intro hnode hnew)]
    have : 0 < (U \ visited.toFinset).card :=
      Finset.card_pos.2 ⟨node, by simpa using And.intro hnode hnew⟩
    omega
  have hfilter := List.length_filter_le (fun w => !(node :: visited).contains w) reached
  unfold potential
  rw [← hcard, List.length_append, List.length_cons, Nat.add_mul, Nat.one_mul]
  omega

section Run

variable {next : Term → List Term} {start : Term} {found₀ : List Term} {U : Finset Term}

/-- A node of `U` reaches at most `|U|` nodes when the steps from `U` stay in `U`
and reach each node once. -/
theorem length_next_le_card (hU : ∀ v ∈ U, ∀ w ∈ next v, w ∈ U)
    (hnodup : ∀ v ∈ U, (next v).Nodup) {v : Term} (hv : v ∈ U) : (next v).length ≤ U.card := by
  rw [← List.toFinset_card_of_nodup (hnodup v hv)]
  exact Finset.card_le_card fun w hw => hU v hv w (List.mem_toFinset.1 hw)

/-- A round lowers the potential of a search whose queue lies in `U`, when the
steps from `U` stay in `U` and reach each node once. -/
theorem Round.potential_lt (hU : ∀ v ∈ U, ∀ w ∈ next v, w ∈ U)
    (hnodup : ∀ v ∈ U, (next v).Nodup) {st st' : SearchState} (h : Round next st st')
    (hq : ∀ x ∈ st.queue, x ∈ U) :
    potential U st'.visited st'.queue < potential U st.visited st.queue := by
  cases h with
  | skip => exact potential_skip U _ _ _
  | @visit found visited queue node hnode =>
    have hnodeU : node ∈ U := hq node (List.mem_cons_self ..)
    exact potential_visit queue hnodeU hnode (length_next_le_card hU hnodup hnodeU)

/-- **The fuel lasts**: with more fuel than its potential, the search runs
round by round to a state whose queue is empty, and answers what that state
has found. -/
theorem closure_reaches_done (hU : ∀ v ∈ U, ∀ w ∈ next v, w ∈ U)
    (hnodup : ∀ v ∈ U, (next v).Nodup) :
    ∀ (fuel : Nat) (st : SearchState), (∀ x ∈ st.queue, x ∈ U) →
      potential U st.visited st.queue < fuel →
      ∃ st', Relation.ReflTransGen (Round next) st st' ∧ st'.queue = [] ∧
        closure next fuel st.found st.visited st.queue = st'.found
  | 0, _, _, hfuel => absurd hfuel (Nat.not_lt_zero _)
  | fuel + 1, ⟨found, visited, []⟩, _, _ => ⟨_, .refl, rfl, by simp [closure]⟩
  | fuel + 1, ⟨found, visited, node :: queue⟩, hq, hfuel => by
    obtain ⟨st', hround⟩ : ∃ st', Round next ⟨found, visited, node :: queue⟩ st' :=
      Round.exists found visited queue node
    have hq' : ∀ x ∈ st'.queue, x ∈ U := hround.queue_mem hU hq
    have hlt := hround.potential_lt hU hnodup hq
    obtain ⟨st'', hrun, hdone, hclosure⟩ :=
      closure_reaches_done hU hnodup fuel st' hq' (by omega)
    exact ⟨st'', .head hround hrun, hdone, by rw [closure_succ_of_round fuel hround, hclosure]⟩

/-- **The run of the search**: from a state that keeps the invariant, whose queue
lies in `U`, with more fuel than its potential, the search ends with the nodes
begun with and those reachable from the start in one or more steps, each once.
The steps from `U` stay in `U` and reach each node once. -/
theorem closure_of_search (hU : ∀ v ∈ U, ∀ w ∈ next v, w ∈ U)
    (hnodup : ∀ v ∈ U, (next v).Nodup) :
    ∀ (fuel : Nat) (found visited queue : List Term),
      Search next start found₀ found visited queue → (∀ v ∈ queue, v ∈ U) →
      potential U visited queue < fuel →
      (closure next fuel found visited queue).Nodup ∧
        ∀ x, x ∈ closure next fuel found visited queue ↔
          x ∈ found₀ ∨ Relation.TransGen (Steps next) start x := by
  intro fuel found visited queue hs hq hfuel
  -- the rounds run to an empty queue, keeping the invariant all the way
  obtain ⟨st, hrun, hdone, hclosure⟩ :=
    closure_reaches_done hU hnodup fuel ⟨found, visited, queue⟩ hq hfuel
  have hs' := Search.of_reachable hs hrun
  rw [hdone] at hs'
  rw [hclosure]
  exact ⟨hs'.nodup, hs'.found_iff_of_done⟩

/-- **The search from one node finds the nodes reachable in one or more steps**,
besides those begun with, each once, when its fuel is more than
`|U| * (|U| + 1) + 1` for a set `U` that holds the start and that the steps
never leave. -/
theorem closure_spec (hU : ∀ v ∈ U, ∀ w ∈ next v, w ∈ U) (hnodup : ∀ v ∈ U, (next v).Nodup)
    (hstart : start ∈ U) (hfound : found₀.Nodup) {fuel : Nat}
    (hfuel : U.card * (U.card + 1) + 1 < fuel) :
    (closure next fuel found₀ [] [start]).Nodup ∧
      ∀ x, x ∈ closure next fuel found₀ [] [start] ↔
        x ∈ found₀ ∨ Relation.TransGen (Steps next) start x :=
  closure_of_search hU hnodup fuel found₀ [] [start] (Search.init hfound)
    (by simpa using hstart) (by simpa [potential] using hfuel)

end Run

end Graphs

end SparqlBag
