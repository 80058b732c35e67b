import SparqlBag.Proofs.Engine.PathRelation

/-!
# Following a path terminates

The only loops of path evaluation are the breadth-first searches of `p+` and
`p*`, each round following `p` once.  Following a path from a term stays at the
term or reaches nodes of the active graph (`Graphs.eq_or_mem_nodes_of_mem_step`),
so a search only ever queues nodes of a finite universe `U`.  A round expands a
node of `U` for the first time or drops one from the queue, so no run of rounds is
infinite (`Graphs.acc_round`), and the rounds end with an empty queue within
`closureFuel` (`Graphs.path_searches_terminate`): the search never stops for lack
of fuel.
-/

namespace SparqlBag

namespace Graphs

/-- The measure of a search inside a universe `U`: the nodes of `U` not yet
expanded, then the length of the queue. -/
def SearchState.measure (U : Finset Term) (st : SearchState) : Nat × Nat :=
  ((U \ st.visited.toFinset).card, st.queue.length)

section Rounds

variable {next : Term → List Term} {st st' : SearchState}

/-- A round expands a node it had not expanded, or drops one from the queue. -/
theorem Round.grows_or_shrinks (h : Round next st st') :
    (st'.visited = st.visited ∧ st'.queue.length < st.queue.length) ∨
      ∃ x ∈ st.queue, x ∉ st.visited ∧ st'.visited = x :: st.visited := by
  cases h with
  | skip => exact .inl ⟨rfl, by simp⟩
  | visit hnode => exact .inr ⟨_, List.mem_cons_self .., hnode, rfl⟩

/-- **A round lowers the measure** of a search whose queue lies in `U`. -/
theorem Round.measure_lt {U : Finset Term} (h : Round next st st') (hq : ∀ x ∈ st.queue, x ∈ U) :
    Prod.Lex (· < ·) (· < ·) (st'.measure U) (st.measure U) := by
  rcases h.grows_or_shrinks with ⟨hvisited, hqueue⟩ | ⟨x, hx, hnew, hvisited⟩
  · simpa [SearchState.measure, hvisited] using Prod.Lex.right _ hqueue
  · -- the node expanded leaves the nodes of `U` still to expand
    have hlt : (U \ st'.visited.toFinset).card < (U \ st.visited.toFinset).card := by
      rw [hvisited, List.toFinset_cons, Finset.sdiff_insert]
      exact Finset.card_erase_lt_of_mem (by simpa using And.intro (hq x hx) hnew)
    exact Prod.Lex.left _ _ hlt

section Within

variable {P : Term → Prop} (hP : ∀ v, P v → ∀ w ∈ next v, P w)
include hP

/-- A round keeps the nodes found inside a set that holds the queue and that the
steps do not leave. -/
theorem Round.found_mem (h : Round next st st') (hq : ∀ x ∈ st.queue, P x)
    (hf : ∀ x ∈ st.found, P x) : ∀ x ∈ st'.found, P x := by
  cases h with
  | skip => exact hf
  | @visit found visited queue node hnode =>
    intro x hx
    rcases mem_addNodes.1 hx with hx | hx
    · exact hf x hx
    · exact hP node (hq node (List.mem_cons_self ..)) x hx

/-- **The run**: every state a run of rounds reaches keeps its queue inside a
set that the steps do not leave. -/
theorem queue_mem_of_reachable (hq : ∀ x ∈ st.queue, P x)
    (h : Relation.ReflTransGen (Round next) st st') : ∀ x ∈ st'.queue, P x := by
  induction h with
  | refl => exact hq
  | tail _ hround ih => exact hround.queue_mem hP ih

/-- The nodes the fuelled search finds lie in a set that holds the nodes it
begins with and those it queues, and that the steps do not leave. -/
theorem mem_closure_of_mem :
    ∀ (fuel : Nat) (st : SearchState), (∀ x ∈ st.queue, P x) → (∀ x ∈ st.found, P x) →
      ∀ x ∈ closure next fuel st.found st.visited st.queue, P x
  | 0, _, _, hf => by simpa [closure] using hf
  | _ + 1, ⟨_, _, []⟩, _, hf => by simpa [closure] using hf
  | fuel + 1, ⟨found, visited, node :: queue⟩, hq, hf => by
    obtain ⟨st', hround⟩ : ∃ st', Round next ⟨found, visited, node :: queue⟩ st' :=
      Round.exists found visited queue node
    rw [closure_succ_of_round fuel hround]
    exact mem_closure_of_mem fuel st' (hround.queue_mem hP hq) (hround.found_mem hP hq hf)

end Within

end Rounds

/-! ## The search stops -/

section Stops

variable {next : Term → List Term} {U : Finset Term}

/-- **No run of rounds is infinite** from a queue inside a finite universe that
the steps do not leave: the measure falls lexicographically at every round. -/
theorem acc_round (hU : ∀ v ∈ U, ∀ w ∈ next v, w ∈ U) :
    ∀ st : SearchState, (∀ x ∈ st.queue, x ∈ U) → Acc (fun st' st => Round next st st') st := by
  intro st
  induction st using (InvImage.wf (SearchState.measure U)
    (WellFounded.prod_lex wellFounded_lt wellFounded_lt)).induction with
  | h st ih =>
    intro hq
    exact Acc.intro st fun st' hround => ih st' (hround.measure_lt hq) (hround.queue_mem hU hq)

end Stops

/-! ## The searches of a path -/

variable {g : Graphs}

/-- A term reached from `a` through a term reached from `a` stays at `a` or is a node. -/
theorem eq_or_mem_nodes_of_eq_or_mem_nodes {a m b : Term} (hm : m = a ∨ m ∈ g.nodes)
    (hb : b = m ∨ b ∈ g.nodes) : b = a ∨ b ∈ g.nodes := by
  rcases hb with rfl | hb
  · exact hm
  · exact .inr hb

/-- The search from `a` over steps that stay at a term or reach nodes finds
only `a` and nodes. -/
theorem mem_closure_eq_or_mem_nodes {next : Term → List Term}
    (hnext : ∀ v, ∀ w ∈ next v, w = v ∨ w ∈ g.nodes) {a : Term} {found₀ : List Term}
    (hfound : ∀ x ∈ found₀, x = a) (fuel : Nat) :
    ∀ x ∈ closure next fuel found₀ [] [a], x = a ∨ x ∈ g.nodes :=
  mem_closure_of_mem (fun _ hv w hw => eq_or_mem_nodes_of_eq_or_mem_nodes hv (hnext _ w hw))
    fuel ⟨found₀, [], [a]⟩ (by simp) fun x hx => .inl (hfound x hx)

/-- **Following a path from a term stays at the term or reaches nodes of the
active graph**: each edge it takes has both ends in the graph.  By induction on
the path, in both directions. -/
theorem eq_or_mem_nodes_of_mem_step :
    ∀ (path : PropertyPath) (dir : Direction) (a b : Term), b ∈ g.step path dir a →
      b = a ∨ b ∈ g.nodes
  | .iri _, .forward, _, _, h => .inr (mem_step_iri_forward.1 h).2.mem_nodes_right
  | .iri _, .backward, _, _, h => .inr (mem_step_iri_backward.1 h).mem_nodes_left
  | .negated _, .forward, _, _, h => by
    obtain ⟨-, q, -, he⟩ := mem_step_negated_forward.1 h
    exact .inr he.mem_nodes_right
  | .negated _, .backward, _, _, h => by
    obtain ⟨q, -, he⟩ := mem_step_negated_backward.1 h
    exact .inr he.mem_nodes_left
  | .reverse inner, dir, a, b, h =>
    eq_or_mem_nodes_of_mem_step inner dir.reverse a b (by simpa using h)
  | .sequence first second, .forward, a, b, h => by
    obtain ⟨m, hm, hb⟩ := mem_step_sequence_forward.1 h
    exact eq_or_mem_nodes_of_eq_or_mem_nodes (eq_or_mem_nodes_of_mem_step first _ a m hm)
      (eq_or_mem_nodes_of_mem_step second _ m b hb)
  | .sequence first second, .backward, a, b, h => by
    obtain ⟨m, hm, hb⟩ := mem_step_sequence_backward.1 h
    exact eq_or_mem_nodes_of_eq_or_mem_nodes (eq_or_mem_nodes_of_mem_step second _ a m hm)
      (eq_or_mem_nodes_of_mem_step first _ m b hb)
  | .alternative left right, dir, a, b, h =>
    (mem_step_alternative.1 h).elim (eq_or_mem_nodes_of_mem_step left dir a b)
      (eq_or_mem_nodes_of_mem_step right dir a b)
  | .zeroOrOne inner, dir, a, b, h => by
    rcases mem_addNodes.1 h with hb | hb
    · exact .inl (List.mem_singleton.1 hb)
    · exact eq_or_mem_nodes_of_mem_step inner dir a b hb
  | .zeroOrMore inner, dir, a, b, h =>
    mem_closure_eq_or_mem_nodes (fun v w => eq_or_mem_nodes_of_mem_step inner dir v w)
      (fun _ hx => List.mem_singleton.1 hx) _ b h
  | .oneOrMore inner, dir, a, b, h =>
    mem_closure_eq_or_mem_nodes (fun v w => eq_or_mem_nodes_of_mem_step inner dir v w)
      (fun _ hx => absurd hx List.not_mem_nil) _ b h

/-- The fuelled search keeps the nodes it finds free of repetitions. -/
theorem nodup_closure (next : Term → List Term) :
    ∀ (fuel : Nat) (found visited queue : List Term), found.Nodup →
      (closure next fuel found visited queue).Nodup
  | 0, _, _, _, h => h
  | _ + 1, _, _, [], h => h
  | fuel + 1, found, visited, node :: queue, h => by
    by_cases hnode : node ∈ visited
    · simpa [closure, hnode] using nodup_closure next fuel found visited queue h
    · simpa [closure, hnode] using nodup_closure next fuel _ _ _ (nodup_addNodes h (next node))

/-- Following a path lists each term it reaches once, in any data. -/
theorem nodup_step : ∀ (path : PropertyPath) (dir : Direction) (a : Term), (g.step path dir a).Nodup
  | .iri _, _, _ | .negated _, _, _ => nodup_addNodes List.nodup_nil _
  | .reverse inner, dir, a => by simpa using nodup_step inner dir.reverse a
  | .sequence _ _, .forward, _ | .sequence _ _, .backward, _ =>
    nodup_foldl_addNodes _ _ [] List.nodup_nil
  | .alternative left _, dir, a => nodup_addNodes (nodup_step left dir a) _
  | .zeroOrMore _, _, a => nodup_closure _ _ _ _ _ (List.nodup_singleton a)
  | .oneOrMore _, _, _ => nodup_closure _ _ _ _ _ List.nodup_nil
  | .zeroOrOne _, _, a => nodup_addNodes (List.nodup_singleton a) _

/-- **The searches of path evaluation terminate.**  The search that follows
`inner` over and over from `start` (that of `inner+` when it begins with
nothing found, that of `inner*` when it begins with `start` found), for every
path `inner` however deeply its repetitions nest, every direction and every
dataset: every node it ever queues is the start or a subject or object of a
triple of the active graph; every round lowers the pair (nodes of that
universe not yet expanded, length of the queue) lexicographically; no run of
rounds is infinite; and the fuelled search stops because its queue is empty,
with the nodes found by then. -/
theorem path_searches_terminate (g : Graphs) (inner : PropertyPath) (dir : Direction)
    (start : Term) (found₀ : List Term) :
    (∀ st, Relation.ReflTransGen (Round (g.step inner dir)) ⟨found₀, [], [start]⟩ st →
      ∀ x ∈ st.queue, x = start ∨ x ∈ g.nodes) ∧
    (∀ st st', Relation.ReflTransGen (Round (g.step inner dir)) ⟨found₀, [], [start]⟩ st →
      Round (g.step inner dir) st st' →
      Prod.Lex (· < ·) (· < ·) (st'.measure (insert start g.nodes.toFinset))
        (st.measure (insert start g.nodes.toFinset))) ∧
    Acc (fun st' st => Round (g.step inner dir) st st') ⟨found₀, [], [start]⟩ ∧
    ∃ st, Relation.ReflTransGen (Round (g.step inner dir)) ⟨found₀, [], [start]⟩ st ∧
      st.queue = [] ∧ closure (g.step inner dir) g.closureFuel found₀ [] [start] = st.found := by
  set U := insert start g.nodes.toFinset
  have hmemU : ∀ x, x ∈ U ↔ x = start ∨ x ∈ g.nodes := by simp [U]
  -- the steps of `inner` never leave the start and the nodes of the graph
  have hU : ∀ v ∈ U, ∀ w ∈ g.step inner dir v, w ∈ U := by
    intro v hv w hw
    rcases eq_or_mem_nodes_of_mem_step inner dir v w hw with rfl | hw
    · exact hv
    · exact (hmemU w).2 (.inr hw)
  have hstart : ∀ x ∈ [start], x ∈ U := by simp [U]
  have hqueue : ∀ st, Relation.ReflTransGen (Round (g.step inner dir)) ⟨found₀, [], [start]⟩ st →
      ∀ x ∈ st.queue, x ∈ U :=
    fun _ hrun => queue_mem_of_reachable hU hstart hrun
  refine ⟨fun st hrun x hx => (hmemU x).1 (hqueue st hrun x hx),
    fun st _ hrun hround => hround.measure_lt (hqueue st hrun), acc_round hU _ hstart, ?_⟩
  refine closure_reaches_done hU (fun v _ => nodup_step inner dir v) g.closureFuel _ hstart ?_
  simpa [potential] using card_lt_closureFuel g start

end Graphs

end SparqlBag
