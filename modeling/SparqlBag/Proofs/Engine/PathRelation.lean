import SparqlBag.Proofs.Engine.Closure

/-!
# The relation a property path denotes

A path denotes a relation over the triples of the active graph
(`Graphs.PathRel`): edges for an IRI or a negated set, converse, composition,
union, and the closures, where `p*` and `p?` relate every term to itself, in the
graph or not.  `Graphs.step` lists the related terms, each once, forwards or
backwards (`Graphs.step_spec`).  So the evaluator binds the ends of a path
pattern to related terms, each pair once: between two variables only pairs whose
first term is a node of the graph (`Graphs.evalPath_answers`).  All of it holds in
data without literal subjects.
-/

namespace SparqlBag

/-- Removing repetitions leaves none. -/
theorem nodup_dedupeList {α : Type} [BEq α] [LawfulBEq α] (xs : List α) :
    (dedupeList xs).Nodup := by
  -- the kept elements carry no repetition, and the seen ones are exactly the kept ones
  have key : ∀ (xs : List α) (acc : List α × List α), acc.1.Nodup → (∀ y, y ∈ acc.1 ↔ y ∈ acc.2) →
      (xs.foldl (fun (acc : List α × List α) x =>
        if acc.2.contains x then acc else (acc.1 ++ [x], x :: acc.2)) acc).1.Nodup := by
    intro xs
    induction xs with
    | nil => intro acc hnd _; exact hnd
    | cons x xs ih =>
      intro acc hnd hacc
      rw [List.foldl_cons]
      split_ifs with hx
      · exact ih acc hnd hacc
      · refine ih _ ?_ fun y => by simp [hacc y, or_comm]
        refine List.nodup_append.2 ⟨hnd, List.nodup_singleton x, fun a ha b hb hab => ?_⟩
        rw [List.mem_singleton] at hb
        subst hb hab
        exact hx (List.elem_iff.2 ((hacc a).1 ha))
  exact key xs ([], []) List.nodup_nil (by simp)

namespace PropertyPath

/-- Whether every match of a path takes an edge of the graph, so that no match
has length zero: `*` and `?` match the empty path, and a sequence takes an edge
when one of its parts does. -/
def takesEdge : PropertyPath → Bool
  | .iri _ | .negated _ => true
  | .reverse p | .oneOrMore p => p.takesEdge
  | .sequence p q => p.takesEdge || q.takesEdge
  | .alternative p q => p.takesEdge && q.takesEdge
  | .zeroOrMore _ | .zeroOrOne _ => false

end PropertyPath

namespace Graphs

variable {g : Graphs}

/-! ## The relation of a path -/

/-- The relation a path denotes over the triples of the active graph. -/
def PathRel (g : Graphs) : PropertyPath → Term → Term → Prop
  | .iri p => g.Edge p
  | .reverse inner => Function.swap (g.PathRel inner)
  | .sequence first second => Relation.Comp (g.PathRel first) (g.PathRel second)
  | .alternative left right => fun a b => g.PathRel left a b ∨ g.PathRel right a b
  | .zeroOrMore inner => Relation.ReflTransGen (g.PathRel inner)
  | .oneOrMore inner => Relation.TransGen (g.PathRel inner)
  | .zeroOrOne inner => fun a b => a = b ∨ g.PathRel inner a b
  | .negated iris => fun a b => ∃ q, q ∉ iris ∧ g.Edge q a b

/-- The relation of a path followed in a direction: itself forwards, its
converse backwards. -/
def Follows (g : Graphs) (path : PropertyPath) : Direction → Term → Term → Prop
  | .forward => g.PathRel path
  | .backward => Function.swap (g.PathRel path)

@[simp] theorem follows_forward (path : PropertyPath) :
    g.Follows path .forward = g.PathRel path := rfl

@[simp] theorem follows_backward (path : PropertyPath) :
    g.Follows path .backward = Function.swap (g.PathRel path) := rfl

/-- Two steps that each stay at a term or join two nodes stay at a term or join
two nodes. -/
theorem eq_or_mem_nodes_trans {a m b : Term} (h₁ : a = m ∨ (a ∈ g.nodes ∧ m ∈ g.nodes))
    (h₂ : m = b ∨ (m ∈ g.nodes ∧ b ∈ g.nodes)) : a = b ∨ (a ∈ g.nodes ∧ b ∈ g.nodes) := by
  rcases h₁ with rfl | ⟨ha, hm⟩
  · exact h₂
  · rcases h₂ with rfl | ⟨-, hb⟩
    · exact .inr ⟨ha, hm⟩
    · exact .inr ⟨ha, hb⟩

/-- **A path relates a term to itself, or two nodes of the graph**: every step
it takes is an edge. -/
theorem PathRel.eq_or_mem_nodes :
    ∀ {path : PropertyPath} {a b : Term}, g.PathRel path a b → a = b ∨ (a ∈ g.nodes ∧ b ∈ g.nodes)
  | .iri _, _, _, h => .inr ⟨Edge.mem_nodes_left h, Edge.mem_nodes_right h⟩
  | .negated _, _, _, ⟨_, _, h⟩ => .inr ⟨Edge.mem_nodes_left h, Edge.mem_nodes_right h⟩
  | .reverse inner, a, b, h => by
    have h' : g.PathRel inner b a := h
    exact (PathRel.eq_or_mem_nodes h').imp Eq.symm And.symm
  | .sequence _ _, _, _, ⟨_, h₁, h₂⟩ =>
    eq_or_mem_nodes_trans (PathRel.eq_or_mem_nodes h₁) (PathRel.eq_or_mem_nodes h₂)
  | .alternative _ _, _, _, h => h.elim PathRel.eq_or_mem_nodes PathRel.eq_or_mem_nodes
  | .zeroOrOne _, _, _, h => h.elim .inl PathRel.eq_or_mem_nodes
  | .oneOrMore inner, a, b, h => by
    -- one step after another, each an edge of `inner`
    induction h with
    | single h => exact PathRel.eq_or_mem_nodes h
    | tail _ h ih => exact eq_or_mem_nodes_trans ih (PathRel.eq_or_mem_nodes h)
  | .zeroOrMore inner, a, b, h => by
    induction h with
    | refl => exact .inl rfl
    | tail _ h ih => exact eq_or_mem_nodes_trans ih (PathRel.eq_or_mem_nodes h)

/-- The two terms a path relates are both nodes of the graph, or neither. -/
theorem PathRel.mem_nodes_iff {path : PropertyPath} {a b : Term} (h : g.PathRel path a b) :
    a ∈ g.nodes ↔ b ∈ g.nodes := by
  rcases PathRel.eq_or_mem_nodes h with rfl | ⟨ha, hb⟩
  · rfl
  · exact ⟨fun _ => hb, fun _ => ha⟩

/-- **A path that takes an edge relates nodes of the graph only.** -/
theorem PathRel.mem_nodes_of_takesEdge : ∀ {path : PropertyPath}, path.takesEdge = true →
    ∀ {a b : Term}, g.PathRel path a b → a ∈ g.nodes ∧ b ∈ g.nodes
  | .iri _, _, _, _, h => ⟨Edge.mem_nodes_left h, Edge.mem_nodes_right h⟩
  | .negated _, _, _, _, ⟨_, _, h⟩ => ⟨Edge.mem_nodes_left h, Edge.mem_nodes_right h⟩
  | .reverse inner, hp, a, b, h => by
    have hp' : inner.takesEdge = true := hp
    have h' : g.PathRel inner b a := h
    exact (PathRel.mem_nodes_of_takesEdge hp' h').symm
  | .sequence first second, hp, _, _, ⟨m, h₁, h₂⟩ => by
    -- the part that takes an edge puts the joint in the graph, and the other part follows
    rcases Bool.or_eq_true_iff.1 hp with hf | hs
    · obtain ⟨ha, hm⟩ := PathRel.mem_nodes_of_takesEdge hf h₁
      exact ⟨ha, (PathRel.mem_nodes_iff h₂).1 hm⟩
    · obtain ⟨hm, hb⟩ := PathRel.mem_nodes_of_takesEdge hs h₂
      exact ⟨(PathRel.mem_nodes_iff h₁).2 hm, hb⟩
  | .alternative _ _, hp, _, _, h => by
    obtain ⟨hl, hr⟩ := Bool.and_eq_true_iff.1 hp
    exact h.elim (PathRel.mem_nodes_of_takesEdge hl) (PathRel.mem_nodes_of_takesEdge hr)
  | .oneOrMore inner, hp, a, b, h => by
    have hp' : inner.takesEdge = true := hp
    induction h with
    | single h => exact PathRel.mem_nodes_of_takesEdge hp' h
    | tail _ h ih => exact ⟨ih.1, (PathRel.mem_nodes_of_takesEdge hp' h).2⟩
  | .zeroOrMore _, hp, _, _, _ => absurd hp Bool.false_ne_true
  | .zeroOrOne _, hp, _, _, _ => absurd hp Bool.false_ne_true

theorem Follows.eq_or_mem_nodes {path : PropertyPath} {dir : Direction} {a b : Term}
    (h : g.Follows path dir a b) : a = b ∨ (a ∈ g.nodes ∧ b ∈ g.nodes) := by
  cases dir with
  | forward => exact PathRel.eq_or_mem_nodes h
  | backward => exact (PathRel.eq_or_mem_nodes h).imp Eq.symm And.symm

/-! ## How far the searches go -/

/-- The graph has at most two nodes per quad of the dataset. -/
theorem length_nodes_le (g : Graphs) : g.nodes.length ≤ 2 * g.dataset.quads.length := by
  have hsub : g.nodes.toFinset ⊆ (g.dataset.quads.flatMap fun q => [q.subject, q.object]).toFinset := by
    intro a ha
    obtain ⟨tr, htr, hend⟩ := mem_nodes.1 (List.mem_toFinset.1 ha)
    obtain ⟨q, hq, rfl⟩ := exists_quad_of_mem_triples htr
    refine List.mem_toFinset.2 (List.mem_flatMap.2 ⟨q, hq, ?_⟩)
    rcases hend with rfl | rfl <;> simp [Quad.triple]
  calc g.nodes.length
    _ = g.nodes.toFinset.card := (List.toFinset_card_of_nodup (nodup_dedupeList _)).symm
    _ ≤ (g.dataset.quads.flatMap fun q => [q.subject, q.object]).toFinset.card :=
        Finset.card_le_card hsub
    _ ≤ (g.dataset.quads.flatMap fun q => [q.subject, q.object]).length := List.toFinset_card_le _
    _ = 2 * g.dataset.quads.length := by simp [List.length_flatMap, Nat.mul_comm]

/-- The start and the nodes of the graph are few enough for `closureFuel`. -/
theorem card_lt_closureFuel (g : Graphs) (a : Term) :
    (insert a g.nodes.toFinset).card * ((insert a g.nodes.toFinset).card + 1) + 1 < g.closureFuel := by
  have hcard : (insert a g.nodes.toFinset).card ≤ 2 * g.dataset.quads.length + 1 :=
    calc (insert a g.nodes.toFinset).card
      _ ≤ g.nodes.toFinset.card + 1 := Finset.card_insert_le _ _
      _ ≤ g.nodes.length + 1 := Nat.add_le_add_right (List.toFinset_card_le _) 1
      _ ≤ 2 * g.dataset.quads.length + 1 := Nat.add_le_add_right (length_nodes_le g) 1
  have hmul : (insert a g.nodes.toFinset).card * ((insert a g.nodes.toFinset).card + 1) ≤
      (2 * g.dataset.quads.length + 2) * (2 * g.dataset.quads.length + 2) :=
    Nat.mul_le_mul (by omega) (by omega)
  show _ < (2 * g.dataset.quads.length + 2) * (2 * g.dataset.quads.length + 2) + 2
  omega

/-- **A closure over a step that lists the related terms lists the terms related
by one or more steps**, each once: its search stays among the start and the
nodes of the graph. -/
theorem closure_step_spec {R : Term → Term → Prop} {next : Term → List Term}
    (hnext : ∀ a, (next a).Nodup ∧ ∀ b, b ∈ next a ↔ R a b)
    (hlocal : ∀ a b, R a b → a = b ∨ (a ∈ g.nodes ∧ b ∈ g.nodes)) (a : Term) {found₀ : List Term}
    (hfound : found₀.Nodup) :
    (closure next g.closureFuel found₀ [] [a]).Nodup ∧
      ∀ b, b ∈ closure next g.closureFuel found₀ [] [a] ↔ b ∈ found₀ ∨ Relation.TransGen R a b := by
  have hsteps : Steps next = R := by
    funext x y
    exact propext ((hnext x).2 y)
  -- the search never leaves the start and the nodes of the graph
  have hU : ∀ v ∈ insert a g.nodes.toFinset, ∀ w ∈ next v, w ∈ insert a g.nodes.toFinset := by
    intro v hv w hw
    rcases hlocal v w (((hnext v).2 w).1 hw) with rfl | ⟨-, hw'⟩
    · exact hv
    · exact Finset.mem_insert_of_mem (List.mem_toFinset.2 hw')
  rw [← hsteps]
  exact closure_spec hU (fun v _ => (hnext v).1) (Finset.mem_insert_self a _) hfound
    (card_lt_closureFuel g a)

/-! ## `step` computes the relation -/

/-- Adding what each of `ms` reaches keeps a list free of repetitions. -/
theorem nodup_foldl_addNodes (F : Term → List Term) :
    ∀ (ms acc : List Term), acc.Nodup → (ms.foldl (fun acc m => addNodes acc (F m)) acc).Nodup
  | [], _, h => h
  | m :: ms, acc, h => nodup_foldl_addNodes F ms (addNodes acc (F m)) (nodup_addNodes h _)

section Step

variable (hlit : g.NoLiteralSubjects)
include hlit

theorem edge_iff_mem_step_iri_forward {p : String} {a b : Term} :
    b ∈ g.step (.iri p) .forward a ↔ g.Edge p a b :=
  mem_step_iri_forward.trans ⟨And.right, fun he => ⟨hlit _ he, he⟩⟩

theorem mem_step_negated_forward_iff {iris : List String} {a b : Term} :
    b ∈ g.step (.negated iris) .forward a ↔ ∃ q, q ∉ iris ∧ g.Edge q a b :=
  mem_step_negated_forward.trans ⟨And.right, fun ⟨q, hq, he⟩ => ⟨hlit _ he, q, hq, he⟩⟩

/-- **Following a path lists the terms it relates, each once**: forwards from
`a` those `a` is related to, backwards those related to `a`.  By induction on
the path, both directions at once, since `^` turns one into the other. -/
theorem step_spec : ∀ (path : PropertyPath) (dir : Direction) (a : Term),
    (g.step path dir a).Nodup ∧ ∀ b, b ∈ g.step path dir a ↔ g.Follows path dir a b
  | .iri p, dir, a => by
    refine ⟨nodup_addNodes List.nodup_nil _, fun b => ?_⟩
    cases dir with
    | forward => exact edge_iff_mem_step_iri_forward hlit
    | backward => exact mem_step_iri_backward
  | .negated iris, dir, a => by
    refine ⟨nodup_addNodes List.nodup_nil _, fun b => ?_⟩
    cases dir with
    | forward => exact mem_step_negated_forward_iff hlit
    | backward => exact mem_step_negated_backward
  | .reverse inner, dir, a => by
    rw [step_reverse]
    refine ⟨(step_spec inner dir.reverse a).1, fun b => ?_⟩
    rw [(step_spec inner dir.reverse a).2 b]
    cases dir <;> rfl
  | .sequence first second, .forward, a => by
    refine ⟨nodup_foldl_addNodes _ _ [] List.nodup_nil, fun b => ?_⟩
    rw [mem_step_sequence_forward]
    simp only [(step_spec first .forward a).2, (step_spec second .forward _).2]
    exact ⟨fun ⟨m, h₁, h₂⟩ => ⟨m, h₁, h₂⟩, fun ⟨m, h₁, h₂⟩ => ⟨m, h₁, h₂⟩⟩
  | .sequence first second, .backward, a => by
    -- backwards the second part is followed first
    refine ⟨nodup_foldl_addNodes _ _ [] List.nodup_nil, fun b => ?_⟩
    rw [mem_step_sequence_backward]
    simp only [(step_spec second .backward a).2, (step_spec first .backward _).2]
    exact ⟨fun ⟨m, h₂, h₁⟩ => ⟨m, h₁, h₂⟩, fun ⟨m, h₁, h₂⟩ => ⟨m, h₂, h₁⟩⟩
  | .alternative left right, dir, a => by
    refine ⟨nodup_addNodes (step_spec left dir a).1 _, fun b => ?_⟩
    rw [mem_step_alternative, (step_spec left dir a).2, (step_spec right dir a).2]
    cases dir <;> rfl
  | .zeroOrOne inner, dir, a => by
    refine ⟨nodup_addNodes (List.nodup_singleton a) _, fun b => ?_⟩
    simp only [step, mem_addNodes, List.mem_singleton, (step_spec inner dir a).2]
    cases dir with
    | forward => exact or_congr_left eq_comm
    | backward => rfl
  | .oneOrMore inner, dir, a => by
    have hclosure := closure_step_spec (step_spec inner dir) (fun _ _ => Follows.eq_or_mem_nodes) a
      List.nodup_nil
    refine ⟨hclosure.1, fun b => ?_⟩
    rw [show g.step (.oneOrMore inner) dir a = closure (g.step inner dir) g.closureFuel [] [] [a]
      from rfl, hclosure.2 b]
    cases dir with
    | forward => simp [Follows, PathRel]
    | backward => simp [Follows, PathRel, Function.swap, Relation.transGen_swap]
  | .zeroOrMore inner, dir, a => by
    -- the search of `*` begins with its start found
    have hclosure := closure_step_spec (step_spec inner dir) (fun _ _ => Follows.eq_or_mem_nodes) a
      (List.nodup_singleton a)
    refine ⟨hclosure.1, fun b => ?_⟩
    rw [show g.step (.zeroOrMore inner) dir a = closure (g.step inner dir) g.closureFuel [a] [] [a]
      from rfl, hclosure.2 b, List.mem_singleton]
    cases dir with
    | forward => exact (Relation.reflTransGen_iff_eq_or_transGen).symm
    | backward =>
      simp only [Follows, PathRel, Function.swap, Relation.reflTransGen_iff_eq_or_transGen]
      exact or_congr (eq_comm) Relation.transGen_swap

/-- The forward step lists the terms a term is related to. -/
theorem mem_step_forward_iff (path : PropertyPath) (a b : Term) :
    b ∈ g.step path .forward a ↔ g.PathRel path a b :=
  (step_spec hlit path .forward a).2 b

/-- The backward step lists the terms related to a term. -/
theorem mem_step_backward_iff (path : PropertyPath) (a b : Term) :
    b ∈ g.step path .backward a ↔ g.PathRel path b a :=
  (step_spec hlit path .backward a).2 b

end Step

/-! ## The answers of a path pattern -/

/-- What a path pattern answers when its path relates terms as `R` does: between
two constants, the identity if they are related and nothing otherwise; from or
to a constant, one solution per term related to it; between two variables, one
solution per related pair whose first term is one of `nodes` (per such term
related to itself, when both ends are one variable).  Each solution once. -/
def PathAnswers (nodes : List Term) (R : Term → Term → Prop) :
    PatternTerm → PatternTerm → Multiset → Prop
  | .constant a, .constant b, m => (R a b ∧ m = .identity) ∨ (¬ R a b ∧ m = .null)
  | .constant a, .variable w, m => m.vars = [w] ∧ m.ListsOnce fun row => ∃ n, R a n ∧ row = [some n]
  | .variable v, .constant b, m => m.vars = [v] ∧ m.ListsOnce fun row => ∃ n, R n b ∧ row = [some n]
  | .variable v, .variable w, m =>
    if v = w then m.vars = [v] ∧ m.ListsOnce fun row => ∃ n ∈ nodes, R n n ∧ row = [some n]
    else m.vars = [v, w] ∧ m.ListsOnce fun row => ∃ n ∈ nodes, ∃ n', R n n' ∧ row = [some n, some n']

/-- The terms a path pattern between `x` and `y` binds its ends to: those the
path relates, the first a node of the graph when both ends are variables, since
the evaluator starts such a pattern from the nodes. -/
def Connects (g : Graphs) (path : PropertyPath) (x y : PatternTerm) (a b : Term) : Prop :=
  g.PathRel path a b ∧ ∀ v w, x = .variable v → y = .variable w → a ∈ g.nodes

section Connects

variable {path : PropertyPath} {x y : PatternTerm} {a b : Term}

theorem connects_constant_left {c : Term} : g.Connects path (.constant c) y a b ↔ g.PathRel path a b :=
  ⟨And.left, fun h => ⟨h, fun _ _ hx => by cases hx⟩⟩

theorem connects_constant_right {c : Term} : g.Connects path x (.constant c) a b ↔ g.PathRel path a b :=
  ⟨And.left, fun h => ⟨h, fun _ _ _ hy => by cases hy⟩⟩

theorem connects_variable_variable {v w : Variable} :
    g.Connects path (.variable v) (.variable w) a b ↔ g.PathRel path a b ∧ a ∈ g.nodes :=
  and_congr_right fun _ => ⟨fun h => h v w rfl rfl, fun h _ _ _ _ => h⟩

/-- A path that takes an edge relates nodes of the graph only, so it connects
whatever its ends. -/
theorem connects_eq_pathRel (hq : path.takesEdge = true) : g.Connects path x y = g.PathRel path := by
  funext a b
  exact propext ⟨And.left, fun h => ⟨h, fun _ _ _ _ => (PathRel.mem_nodes_of_takesEdge hq h).1⟩⟩

end Connects

/-- One solution per term of a list without repetitions. -/
theorem listsOnce_singletons (w : Variable) {ns : List Term} (hnd : ns.Nodup) (P : Term → Prop)
    (hP : ∀ n, n ∈ ns ↔ P n) :
    (Multiset.ofRows [w] (ns.map fun n => [some n])).ListsOnce fun row => ∃ n, P n ∧ row = [some n] := by
  refine Multiset.listsOnce_ofRows (by simp) (hnd.map fun n n' h => by simpa using h) fun row => ?_
  simp only [List.mem_map, hP]
  exact ⟨fun ⟨n, hn, h⟩ => ⟨n, hn, h.symm⟩, fun ⟨n, hn, h⟩ => ⟨n, hn, h.symm⟩⟩

section Answers

variable (hlit : g.NoLiteralSubjects)
include hlit

/-- Between one variable at both ends, one solution per node related to itself. -/
theorem listsOnce_self (v : Variable) (path : PropertyPath) :
    (Multiset.ofRows [v] (g.nodes.flatMap fun n =>
        ((g.step path .forward n).filter (· == n)).map fun r => [some r])).ListsOnce
      fun row => ∃ n ∈ g.nodes, g.PathRel path n n ∧ row = [some n] := by
  -- each node's block is its own row or nothing, so blocks of different nodes are apart
  have hblock : ∀ n row, row ∈ ((g.step path .forward n).filter (· == n)).map (fun r => [some r]) →
      row = [some n] := by
    intro n row hrow
    obtain ⟨r, hr, rfl⟩ := List.mem_map.1 hrow
    obtain rfl : r = n := by simpa using (List.mem_filter.1 hr).2
    rfl
  refine Multiset.listsOnce_ofRows (fun row hrow => ?_) (List.nodup_flatMap.2 ⟨fun n _ => ?_, ?_⟩)
    fun row => ?_
  · obtain ⟨n, -, hrow⟩ := List.mem_flatMap.1 hrow
    rw [hblock n row hrow]
    rfl
  · exact ((step_spec hlit path .forward n).1.filter _).map fun r r' h => by simpa using h
  · refine (nodup_dedupeList _).imp fun {n n'} hne row hrow hrow' => hne ?_
    simpa using (hblock n row hrow).symm.trans (hblock n' row hrow')
  · simp only [List.mem_flatMap, List.mem_map, List.mem_filter, beq_iff_eq,
      mem_step_forward_iff hlit]
    constructor
    · rintro ⟨n, hn, r, ⟨hr, rfl⟩, rfl⟩
      exact ⟨r, hn, hr, rfl⟩
    · rintro ⟨n, hn, hr, rfl⟩
      exact ⟨n, hn, n, ⟨hr, rfl⟩, rfl⟩

/-- Between two variables, one solution per related pair that starts at a node. -/
theorem listsOnce_pairs (v w : Variable) (path : PropertyPath) :
    (Multiset.ofRows [v, w] (g.nodes.flatMap fun n =>
        (g.step path .forward n).map fun r => [some n, some r])).ListsOnce
      fun row => ∃ n ∈ g.nodes, ∃ n', g.PathRel path n n' ∧ row = [some n, some n'] := by
  refine Multiset.listsOnce_ofRows (fun row hrow => ?_) (List.nodup_flatMap.2 ⟨fun n _ => ?_, ?_⟩)
    fun row => ?_
  · obtain ⟨n, -, r, -, rfl⟩ := by simpa only [List.mem_flatMap, List.mem_map] using hrow
    rfl
  · exact (step_spec hlit path .forward n).1.map fun r r' h => by simpa using h
  · -- rows of different starts differ in their first value
    refine (nodup_dedupeList _).imp fun {n n'} hne row hrow hrow' => hne ?_
    obtain ⟨r, -, rfl⟩ := List.mem_map.1 hrow
    obtain ⟨r', -, h⟩ := List.mem_map.1 hrow'
    exact (by simpa using h.symm : n = n' ∧ r = r').1
  · simp only [List.mem_flatMap, List.mem_map, mem_step_forward_iff hlit]
    constructor
    · rintro ⟨n, hn, r, hr, rfl⟩
      exact ⟨n, hn, r, hr, rfl⟩
    · rintro ⟨n, hn, r, hr, rfl⟩
      exact ⟨n, hn, r, hr, rfl⟩

/-- **The path evaluator answers a path pattern with the related terms**, each once. -/
theorem evalPath_answers (mode : BlankNodeMode) (s : TermPattern) (path : PropertyPath)
    (o : TermPattern) :
    PathAnswers g.nodes (g.PathRel path) (s.resolve mode) (o.resolve mode)
      (g.evalPath mode s path o) := by
  unfold evalPath
  generalize s.resolve mode = x
  generalize o.resolve mode = y
  rcases x with a | v <;> rcases y with b | w
  · -- two constants: whether the path relates them
    by_cases h : g.PathRel path a b
    · have hc : (g.step path .forward a).contains b = true := by
        simpa using (mem_step_forward_iff hlit path a b).2 h
      exact .inl ⟨h, by simp only [hc, if_true]⟩
    · have hc : (g.step path .forward a).contains b = false := by
        simpa using mt (mem_step_forward_iff hlit path a b).1 h
      exact .inr ⟨h, by simp only [hc, Bool.false_eq_true, if_false]⟩
  · exact ⟨rfl, listsOnce_singletons w (step_spec hlit path .forward a).1 _
      (mem_step_forward_iff hlit path a)⟩
  · -- a variable subject: the terms the path reaches backwards from the object
    exact ⟨rfl, listsOnce_singletons v (step_spec hlit path .backward b).1 _
      (mem_step_backward_iff hlit path b)⟩
  · by_cases hvw : v = w
    · subst hvw
      simp only [PathAnswers, if_true, beq_self_eq_true]
      exact ⟨rfl, listsOnce_self hlit v path⟩
    · have hvw' : (v == w) = false := by simpa using hvw
      simp only [PathAnswers, hvw, hvw', if_false, Bool.false_eq_true]
      exact ⟨rfl, listsOnce_pairs hlit v w path⟩

/-- **The solutions of a path pattern bind its ends to the terms it connects**,
whatever the path. -/
theorem solutions_evalPath_connects (mode : BlankNodeMode) (s : TermPattern) (path : PropertyPath)
    (o : TermPattern) :
    (g.evalPath mode s path o).solutions =
      Mapping.relSolutions (g.Connects path (s.resolve mode) (o.resolve mode)) (s.resolve mode)
        (o.resolve mode) := by
  unfold evalPath
  generalize s.resolve mode = x
  generalize o.resolve mode = y
  rcases x with a | v <;> rcases y with b | w <;> dsimp only
  · -- two constants: the identity when the path relates them, else nothing
    by_cases h : g.PathRel path a b
    · have hc : (g.step path .forward a).contains b = true := by
        simpa using (mem_step_forward_iff hlit path a b).2 h
      ext β
      rw [if_pos hc, Mapping.mem_relSolutions_constant_constant, connects_constant_left]
      simp [h]
    · have hc : ¬ (g.step path .forward a).contains b = true := by
        simpa using mt (mem_step_forward_iff hlit path a b).1 h
      ext β
      rw [if_neg hc, Mapping.mem_relSolutions_constant_constant, connects_constant_left]
      simp [h]
  · ext β
    rw [Multiset.mem_solutions_ofRows, Mapping.mem_relSolutions_constant_variable]
    simp only [List.mem_map, connects_constant_left, ← mem_step_forward_iff hlit]
    constructor
    · rintro ⟨_, ⟨n, hn, rfl⟩, rfl⟩
      exact ⟨n, hn, get_singleton w n⟩
    · rintro ⟨n, hn, rfl⟩
      exact ⟨_, ⟨n, hn, rfl⟩, get_singleton w n⟩
  · -- a variable subject: the terms the path reaches backwards from the object
    ext β
    rw [Multiset.mem_solutions_ofRows, Mapping.mem_relSolutions_variable_constant]
    simp only [List.mem_map, connects_constant_right, ← mem_step_backward_iff hlit]
    constructor
    · rintro ⟨_, ⟨n, hn, rfl⟩, rfl⟩
      exact ⟨n, hn, get_singleton v n⟩
    · rintro ⟨n, hn, rfl⟩
      exact ⟨_, ⟨n, hn, rfl⟩, get_singleton v n⟩
  · -- two variables: every node is a start
    split_ifs with hvw
    · obtain rfl : v = w := by simpa using hvw
      ext β
      rw [Multiset.mem_solutions_ofRows, Mapping.mem_relSolutions_variable_self]
      simp only [List.mem_flatMap, List.mem_map, List.mem_filter, beq_iff_eq,
        connects_variable_variable, mem_step_forward_iff hlit]
      constructor
      · rintro ⟨_, ⟨n, hn, r, ⟨hr, rfl⟩, rfl⟩, rfl⟩
        exact ⟨_, ⟨hr, hn⟩, get_singleton v _⟩
      · rintro ⟨n, ⟨hr, hn⟩, rfl⟩
        exact ⟨_, ⟨n, hn, n, ⟨hr, rfl⟩, rfl⟩, get_singleton v n⟩
    · have hvw : v ≠ w := by simpa using hvw
      ext β
      rw [Multiset.mem_solutions_ofRows, Mapping.mem_relSolutions_variable_variable hvw]
      simp only [List.mem_flatMap, List.mem_map, connects_variable_variable,
        mem_step_forward_iff hlit]
      constructor
      · rintro ⟨_, ⟨n, hn, m, hm, rfl⟩, rfl⟩
        exact ⟨n, m, ⟨hm, hn⟩, get_pair hvw n m⟩
      · rintro ⟨n, m, ⟨hm, hn⟩, rfl⟩
        exact ⟨_, ⟨n, hn, m, hm, rfl⟩, get_pair hvw n m⟩

/-- **The path evaluator computes the relational semantics of property paths.**
Following a path lists, each once, the terms it relates: forwards from a term
those the term is related to, backwards those related to it.  So a path pattern
answers, each once, the identity or nothing between two constants, one solution
per related term from or to a constant, and one solution per related pair
starting at a node of the graph between two variables. -/
theorem paths_follow_pathRel (path : PropertyPath) :
    (∀ (dir : Direction) (a : Term), (g.step path dir a).Nodup) ∧
      (∀ a b, b ∈ g.step path .forward a ↔ g.PathRel path a b) ∧
      (∀ a b, b ∈ g.step path .backward a ↔ g.PathRel path b a) ∧
      ∀ (mode : BlankNodeMode) (s o : TermPattern),
        PathAnswers g.nodes (g.PathRel path) (s.resolve mode) (o.resolve mode)
          (g.evalPath mode s path o) :=
  ⟨fun dir a => (step_spec hlit path dir a).1, mem_step_forward_iff hlit path,
    mem_step_backward_iff hlit path, fun mode s o => evalPath_answers hlit mode s path o⟩

end Answers

/-- The path `<p>*` over `<a> <p> <b>` and `<b> <p> <c>`, in data without literal subjects. -/
theorem paths_follow_pathRel_zeroOrMore :
    (⟨⟨[⟨.iri "http://ex/a", "http://ex/p", .iri "http://ex/b", .default⟩,
        ⟨.iri "http://ex/b", "http://ex/p", .iri "http://ex/c", .default⟩], []⟩, .default⟩ :
        Graphs).NoLiteralSubjects ∧
      let g : Graphs := ⟨⟨[⟨.iri "http://ex/a", "http://ex/p", .iri "http://ex/b", .default⟩,
        ⟨.iri "http://ex/b", "http://ex/p", .iri "http://ex/c", .default⟩], []⟩, .default⟩
      (∀ (dir : Direction) (a : Term), (g.step (.zeroOrMore (.iri "http://ex/p")) dir a).Nodup) ∧
      (∀ a b, b ∈ g.step (.zeroOrMore (.iri "http://ex/p")) .forward a ↔
        g.PathRel (.zeroOrMore (.iri "http://ex/p")) a b) ∧
      (∀ a b, b ∈ g.step (.zeroOrMore (.iri "http://ex/p")) .backward a ↔
        g.PathRel (.zeroOrMore (.iri "http://ex/p")) b a) ∧
      ∀ (mode : BlankNodeMode) (s o : TermPattern),
        PathAnswers g.nodes (g.PathRel (.zeroOrMore (.iri "http://ex/p"))) (s.resolve mode)
          (o.resolve mode) (g.evalPath mode s (.zeroOrMore (.iri "http://ex/p")) o) := by
  have hlit : (⟨⟨[⟨.iri "http://ex/a", "http://ex/p", .iri "http://ex/b", .default⟩,
      ⟨.iri "http://ex/b", "http://ex/p", .iri "http://ex/c", .default⟩], []⟩, .default⟩ :
      Graphs).NoLiteralSubjects :=
    noLiteralSubjects_of_quads (by decide) _
  exact ⟨hlit, paths_follow_pathRel hlit _⟩

end Graphs

end SparqlBag
