import SparqlBag.Proofs.Engine.GraphResults
import SparqlBag.Proofs.Store.Refinement

/-!
# Dataset clauses

Outside `GRAPH`, triple patterns match the active graph: the merge of the `FROM`
graphs, or without a dataset clause the default graph, or every graph when the
default graph is their union (`Graphs.triples_eq`).  `GRAPH ?g` ranges over the
graphs of `FROM NAMED`, or every named graph without a clause, and `GRAPH <n>` has
no solution unless `n` is available (`EvalEnv.evalWith_graph_var`).  The triples of
an active graph come once each, in the order first found.  A graph listed twice in
`FROM NAMED` is visited twice (`Query.dataset_clauses_honoured`).
-/

namespace SparqlBag

namespace ActiveGraph

/-- The graphs an active graph reads, as the graph of a quad pattern: the default
graph, every graph at once (`none`), or each listed graph in turn. -/
def graphs : ActiveGraph → List (Option GraphName)
  | .default => [some .default]
  | .all => [none]
  | .union gs => gs.map some

/-- Whether an active graph reads the graph `g`. -/
def Reads : ActiveGraph → GraphName → Prop
  | .default, g => g = .default
  | .all, _ => True
  | .union gs, g => g ∈ gs

theorem exists_graphs_iff (a : ActiveGraph) (g : GraphName) :
    (∃ gr ∈ a.graphs, gr.all (· == g) = true) ↔ a.Reads g := by
  cases a with
  | default =>
    simp only [graphs, Reads, List.mem_singleton, exists_eq_left, Option.all_some, beq_iff_eq]
    exact eq_comm
  | all => simp [graphs, Reads]
  | union gs => simp [graphs, Reads]

end ActiveGraph

theorem Quad.matches_graph (q : Quad) (s : Option Term) (p : Option String) (o : Option Term)
    (gr : Option GraphName) :
    q.matches s p o gr = (q.matches s p o none && gr.all (· == q.graph)) := by
  simp [Quad.matches, Bool.and_assoc]

theorem Quad.eq_of_triple_eq {q q' : Quad} (h : q.triple = q'.triple) (hg : q.graph = q'.graph) :
    q = q' := by
  cases q
  cases q'
  simp_all [Quad.triple]

/-- The triples of one graph are those of distinct quads, so they are distinct. -/
theorem Dataset.nodup_triples_of_graph {d : Dataset} (hd : d.quads.Nodup) (s : Option Term)
    (p : Option String) (o : Option Term) (g : GraphName) :
    ((d.matching s p o (some g)).map Quad.triple).Nodup := by
  refine (hd.filter _).map_on fun q hq q' hq' h => Quad.eq_of_triple_eq h ?_
  simp only [Dataset.matching, List.mem_filter, Quad.matches_iff] at hq hq'
  exact (hq.2.2.2.2 g rfl).symm.trans (hq'.2.2.2.2 g rfl)

namespace Graphs

variable {d : Dataset} {active : ActiveGraph} {s : Option Term} {p : Option String} {o : Option Term}

/-- **The triples of an active graph are its matching triples, each once in the
order first found**, graph after graph and in the order of the store within a
graph, when the store holds no quad twice.  Only a merge of several graphs
removes repetitions; one graph has none to remove. -/
theorem triples_eq (hd : d.quads.Nodup) (active : ActiveGraph) (s : Option Term) (p : Option String)
    (o : Option Term) :
    (⟨d, active⟩ : Graphs).triples s p o = if s.any Term.isLiteral then [] else
      (active.graphs.flatMap fun gr => (d.matching s p o gr).map Quad.triple).eraseDups := by
  simp only [triples]
  split_ifs with hs hmerge
  · rfl
  · rw [dedupeList_eq_eraseDups]
    cases active <;> rfl
  · -- at most one graph, which holds each triple once
    cases active with
    | default =>
      simp only [ActiveGraph.graphs, List.flatMap_singleton]
      exact (eraseDups_of_nodup (Dataset.nodup_triples_of_graph hd s p o .default)).symm
    | all => exact absurd rfl hmerge
    | union gs =>
      match gs, hmerge with
      | [], _ => rfl
      | [g], _ =>
        simp only [ActiveGraph.graphs, List.map_singleton, List.flatMap_singleton]
        exact (eraseDups_of_nodup (Dataset.nodup_triples_of_graph hd s p o g)).symm
      | _ :: _ :: _, h => exact absurd (by simp [ActiveGraph.isMerge]) h

/-- The triples of an active graph matching a pattern: those of the quads in a
graph it reads that match, none for a literal subject. -/
theorem mem_triples_iff_quad (hd : d.quads.Nodup) {tr : Triple} :
    tr ∈ (⟨d, active⟩ : Graphs).triples s p o ↔ s.any Term.isLiteral = false ∧
      ∃ q ∈ d.quads, q.triple = tr ∧ active.Reads q.graph ∧ q.matches s p o none := by
  rw [triples_eq hd]
  split_ifs with hs
  · simp [hs]
  · simp only [hs, List.mem_eraseDups, List.mem_flatMap, List.mem_map, Dataset.matching,
      List.mem_filter, true_and]
    constructor
    · rintro ⟨gr, hgr, q, ⟨hq, hm⟩, rfl⟩
      rw [Quad.matches_graph, Bool.and_eq_true] at hm
      exact ⟨q, hq, rfl, (active.exists_graphs_iff q.graph).1 ⟨gr, hgr, hm.2⟩, hm.1⟩
    · rintro ⟨q, hq, rfl, hr, hm⟩
      obtain ⟨gr, hgr, hg⟩ := (active.exists_graphs_iff q.graph).2 hr
      exact ⟨gr, hgr, q, ⟨hq, by rw [Quad.matches_graph, hm, hg]; rfl⟩, rfl⟩

end Graphs

namespace EvalEnv

/-- `GRAPH ?v p` over the graphs `gs`, one after another: the solutions of `p` in
each graph, with `?v` bound to that graph. -/
def overGraphs (env : EvalEnv) (inner : EvalEnv → GraphPattern → EvalM Multiset) (v : Variable)
    (p : GraphPattern) (gs : List Term) : EvalM Multiset :=
  gs.foldlM (fun result g => do
    let m ← evalWith inner { env with active := .named g } p
    return result.union (m.join (Multiset.ofRows [v] [[some g]]))) (.bag (Bag.empty [v]))

/-- `GRAPH ?v p` ranges over the graphs of `FROM NAMED`, or over every named graph
of the dataset when the query has no dataset clause. -/
theorem evalWith_graph_var (inner : EvalEnv → GraphPattern → EvalM Multiset) (env : EvalEnv)
    (v : Variable) (p : GraphPattern) :
    evalWith inner env (.graph (.var v) p) = (do
      env.checkDeadline
      env.overGraphs inner v p (env.namedGraphs.getD env.dataset.namedGraphs)) := by
  simp only [evalWith, overGraphs, bind_pure_comp, List.forIn_yield_eq_foldlM, bind_pure]

theorem evalWith_graph_iri (inner : EvalEnv → GraphPattern → EvalM Multiset) (env : EvalEnv)
    (n : String) (p : GraphPattern) :
    evalWith inner env (.graph (.iri n) p) = (do
      env.checkDeadline
      if env.namedGraphs.any (!·.contains (.iri n)) then pure .null
      else evalWith inner { env with active := .named (.iri n) } p) := by
  simp only [evalWith]

end EvalEnv

namespace Query

variable {q : Query} {d : Dataset} {options : QueryOptions}

theorem evalEnv_graphs (q : Query) (d : Dataset) (options : QueryOptions) :
    (q.evalEnv d options).graphs = ⟨d, .ofDataset q.dataset options.unionDefaultGraph⟩ := rfl

/-- With `FROM g₁ … gₖ`, the triples outside `GRAPH` are those of the quads of the
graphs `gᵢ`, whatever the options say. -/
theorem mem_triples_of_dataset {ds : QueryDataset} (hd : d.quads.Nodup) (h : q.dataset = some ds)
    {s : Option Term} {p : Option String} {o : Option Term} {tr : Triple} :
    tr ∈ (q.evalEnv d options).graphs.triples s p o ↔ s.any Term.isLiteral = false ∧
      ∃ quad ∈ d.quads, quad.triple = tr ∧ (∃ g ∈ ds.defaultGraphs, quad.graph = .named g) ∧
        quad.matches s p o none := by
  rw [evalEnv_graphs, h, Graphs.mem_triples_iff_quad hd]
  simp only [ActiveGraph.ofDataset, ActiveGraph.Reads, List.mem_map, eq_comm (a := GraphName.named _)]

/-- Without a dataset clause, the triples outside `GRAPH` are those of the default
graph, or of every graph when the default graph is their union. -/
theorem mem_triples_of_no_dataset (hd : d.quads.Nodup) (h : q.dataset = none)
    {s : Option Term} {p : Option String} {o : Option Term} {tr : Triple} :
    tr ∈ (q.evalEnv d options).graphs.triples s p o ↔ s.any Term.isLiteral = false ∧
      ∃ quad ∈ d.quads, quad.triple = tr ∧ (options.unionDefaultGraph = false → quad.graph = .default) ∧
        quad.matches s p o none := by
  rw [evalEnv_graphs, h, Graphs.mem_triples_iff_quad hd]
  cases options.unionDefaultGraph <;> simp [ActiveGraph.ofDataset, ActiveGraph.Reads]

/-- **Dataset clauses are honoured.**  Over every reachable store, the triples of an
active graph matching a pattern are those of the quads in its graphs that match,
each once, in the order first found, and none for a literal subject.  With a
dataset clause `FROM g₁ … gₖ FROM NAMED n₁ … nₘ`, the triples outside `GRAPH` are
those of the graphs `gᵢ`, whatever the options say; `GRAPH ?g` ranges over
`n₁ … nₘ` in order, each as often as it is listed; and `GRAPH <n>` has no
solutions unless `n` is among them.  Without one, the triples outside `GRAPH` are
those of the default graph, or of every graph under the union option; `GRAPH ?g`
ranges over the named graphs of the store, each once; and `GRAPH <n>` reads `n`. -/
theorem dataset_clauses_honoured (ops : List StoreOp) (q : Query) (options : QueryOptions) :
    let d := (Content.replay ops).2.dataset
    let env := q.evalEnv d options
    (∀ (active : ActiveGraph) s p o,
      (⟨d, active⟩ : Graphs).triples s p o = (if s.any Term.isLiteral then [] else
        (active.graphs.flatMap fun gr => (d.matching s p o gr).map Quad.triple).eraseDups) ∧
      ((⟨d, active⟩ : Graphs).triples s p o).Nodup ∧
      ∀ tr, tr ∈ (⟨d, active⟩ : Graphs).triples s p o ↔ s.any Term.isLiteral = false ∧
        ∃ quad ∈ d.quads, quad.triple = tr ∧ active.Reads quad.graph ∧ quad.matches s p o none) ∧
    (∀ ds, q.dataset = some ds →
      (∀ s p o tr, tr ∈ env.graphs.triples s p o ↔ s.any Term.isLiteral = false ∧
        ∃ quad ∈ d.quads, quad.triple = tr ∧ (∃ g ∈ ds.defaultGraphs, quad.graph = .named g) ∧
          quad.matches s p o none) ∧
      (∀ inner v p, EvalEnv.evalWith inner env (.graph (.var v) p) =
        (do env.checkDeadline; env.overGraphs inner v p (ds.namedGraphs.getD []))) ∧
      ∀ inner n p, .iri n ∉ ds.namedGraphs.getD [] →
        EvalEnv.evalWith inner env (.graph (.iri n) p) = (do env.checkDeadline; pure .null)) ∧
    (q.dataset = none →
      (∀ s p o tr, tr ∈ env.graphs.triples s p o ↔ s.any Term.isLiteral = false ∧
        ∃ quad ∈ d.quads, quad.triple = tr ∧ (options.unionDefaultGraph = false → quad.graph = .default) ∧
          quad.matches s p o none) ∧
      d.namedGraphs.Nodup ∧
      (∀ inner v p, EvalEnv.evalWith inner env (.graph (.var v) p) =
        (do env.checkDeadline; env.overGraphs inner v p d.namedGraphs)) ∧
      ∀ inner n p, EvalEnv.evalWith inner env (.graph (.iri n) p) =
        (do env.checkDeadline; EvalEnv.evalWith inner { env with active := .named (.iri n) } p)) := by
  intro d env
  -- a reachable store holds each quad and names each graph once
  have hinv := Content.Invariant.empty.replayFrom ops
  have hd : d.quads.Nodup := hinv.toIndexed.quads_nodup
  refine ⟨fun active s p o => ⟨Graphs.triples_eq hd active s p o, ?_,
    fun tr => Graphs.mem_triples_iff_quad hd⟩, fun ds hds => ⟨fun s p o tr => mem_triples_of_dataset hd hds,
    fun inner v p => ?_, fun inner n p hn => ?_⟩, fun hnone => ⟨fun s p o tr => mem_triples_of_no_dataset hd hnone,
    hinv.namedGraphs_nodup, fun inner v p => ?_, fun inner n p => ?_⟩⟩
  · rw [Graphs.triples_eq hd]
    split_ifs
    · exact List.nodup_nil
    · exact nodup_eraseDups _
  · simp [env, EvalEnv.evalWith_graph_var, Query.evalEnv, hds]
  · simp [env, EvalEnv.evalWith_graph_iri, Query.evalEnv, hds, hn]
  · simp [env, EvalEnv.evalWith_graph_var, Query.evalEnv, hnone, d]
  · simp [env, EvalEnv.evalWith_graph_iri, Query.evalEnv, hnone]

/-- **A graph listed twice in `FROM NAMED` is visited twice**: over the store
holding one quad in `<http://ex/g>`, `GRAPH ?g { ?s ?p ?o }` under `FROM NAMED
<http://ex/g> FROM NAMED <http://ex/g>` has its one solution twice. -/
theorem graph_var_visits_repeated_graph_twice :
    let d : Dataset := ⟨[⟨.iri "http://ex/a", "http://ex/p", .iri "http://ex/b", .named (.iri "http://ex/g")⟩],
      [.iri "http://ex/g"]⟩
    let q : Query := ⟨.select, some ⟨[], some [.iri "http://ex/g", .iri "http://ex/g"]⟩,
      .graph (.var ⟨"g"⟩) (.bgp [⟨.var ⟨"s"⟩, .var ⟨"p"⟩, .var ⟨"o"⟩⟩]), none⟩
    (((q.evalEnv d {}).eval q.pattern).run' 0).map Multiset.size = .ok 2 := by
  decide

end Query

end SparqlBag
