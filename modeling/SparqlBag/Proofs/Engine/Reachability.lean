import SparqlBag.Proofs.Engine.Matching

/-!
# Following property paths

`Graphs.step` gives the nodes a path reaches from a node, forwards or backwards.
For paths without the repetitions `*`, `+`, `?`, an IRI or negated set follows the
edges of the active graph, a sequence composes, an alternative takes either
branch, an inverse turns around; going backwards from `b` reaches `a` exactly when
going forwards from `a` reaches `b` (`Graphs.mem_step_reverse_iff`), and both ends
of a step are nodes (`Graphs.mem_nodes_of_mem_step`).  Hence a path pattern over
such a path binds its ends to connected terms (`Graphs.solutions_evalPath`).
-/

namespace SparqlBag

theorem mem_addNode {ns : List Term} {t x : Term} : x ∈ addNode ns t ↔ x ∈ ns ∨ x = t := by
  unfold addNode
  split_ifs with h
  · constructor
    · exact .inl
    · rintro (hx | rfl)
      · exact hx
      · simpa using h
  · simp

@[simp] theorem mem_addNodes {ns more : List Term} {x : Term} :
    x ∈ addNodes ns more ↔ x ∈ ns ∨ x ∈ more := by
  induction more generalizing ns with
  | nil => simp [addNodes]
  | cons t more ih =>
    rw [addNodes, List.foldl_cons, ← addNodes, ih, mem_addNode, List.mem_cons]
    tauto

/-- Adding the nodes reached from each of `ms` adds every node reached from one of them. -/
theorem mem_foldl_addNodes {F : Term → List Term} {ms acc : List Term} {x : Term} :
    x ∈ ms.foldl (fun acc m => addNodes acc (F m)) acc ↔ x ∈ acc ∨ ∃ m ∈ ms, x ∈ F m := by
  induction ms generalizing acc with
  | nil => simp
  | cons m ms ih =>
    rw [List.foldl_cons, ih, mem_addNodes]
    simp only [List.mem_cons, exists_eq_or_imp]
    tauto

@[simp] theorem Direction.reverse_reverse (dir : Direction) : dir.reverse.reverse = dir := by
  cases dir <;> rfl

namespace PropertyPath

/-- Whether a path is built from IRIs, negated property sets, inverses,
sequences and alternatives, without a repetition `*`, `+` or `?`. -/
def isRepetitionFree : PropertyPath → Bool
  | .iri _ | .negated _ => true
  | .reverse p => p.isRepetitionFree
  | .sequence p q | .alternative p q => p.isRepetitionFree && q.isRepetitionFree
  | .zeroOrMore _ | .oneOrMore _ | .zeroOrOne _ => false

end PropertyPath

namespace Graphs

variable {g : Graphs}

/-- Following `path` forwards from `a` reaches `b`. -/
def Reaches (g : Graphs) (path : PropertyPath) (a b : Term) : Prop :=
  b ∈ g.step path .forward a

/-! ## One step of each kind -/

theorem mem_neighbours_forward {node x : Term} {p : Option String} {accept : String → Bool} :
    x ∈ g.neighbours node .forward p accept ↔
      node.isLiteral = false ∧ ∃ q, accept q = true ∧ (∀ i ∈ p, i = q) ∧ g.Edge q node x := by
  simp only [neighbours, List.mem_map, List.mem_filter]
  constructor
  · rintro ⟨tr, ⟨htr, hacc⟩, rfl⟩
    obtain ⟨hl, hall, hs, hp, -⟩ := mem_triples.1 htr
    obtain rfl := hs node rfl
    exact ⟨by simpa using hl, tr.predicate, hacc, hp, hall⟩
  · rintro ⟨hl, q, hacc, hp, he⟩
    exact ⟨⟨node, q, x⟩, ⟨mem_triples.2 ⟨by simpa using hl, he, by simp, hp, by simp⟩, hacc⟩, rfl⟩

theorem mem_neighbours_backward {node x : Term} {p : Option String} {accept : String → Bool} :
    x ∈ g.neighbours node .backward p accept ↔
      ∃ q, accept q = true ∧ (∀ i ∈ p, i = q) ∧ g.Edge q x node := by
  simp only [neighbours, List.mem_map, List.mem_filter]
  constructor
  · rintro ⟨tr, ⟨htr, hacc⟩, rfl⟩
    obtain ⟨-, hall, -, hp, ho⟩ := mem_triples.1 htr
    obtain rfl := ho node rfl
    exact ⟨tr.predicate, hacc, hp, hall⟩
  · rintro ⟨q, hacc, hp, he⟩
    exact ⟨⟨x, q, node⟩, ⟨mem_triples.2 ⟨by simp, he, by simp, hp, by simp⟩, hacc⟩, rfl⟩

/-- An IRI followed forwards leaves a node that is no literal by an edge of the IRI. -/
theorem mem_step_iri_forward {p : String} {a b : Term} :
    b ∈ g.step (.iri p) .forward a ↔ a.isLiteral = false ∧ g.Edge p a b := by
  simp only [step, mem_addNodes, List.not_mem_nil, false_or, mem_neighbours_forward]
  constructor
  · rintro ⟨hl, q, -, hq, he⟩
    obtain rfl := hq p rfl
    exact ⟨hl, he⟩
  · rintro ⟨hl, he⟩
    exact ⟨hl, p, trivial, by simp, he⟩

theorem mem_step_iri_backward {p : String} {a b : Term} :
    b ∈ g.step (.iri p) .backward a ↔ g.Edge p b a := by
  simp only [step, mem_addNodes, List.not_mem_nil, false_or, mem_neighbours_backward]
  constructor
  · rintro ⟨q, -, hq, he⟩
    obtain rfl := hq p rfl
    exact he
  · intro he
    exact ⟨p, trivial, by simp, he⟩

/-- A negated property set followed forwards takes an edge of an IRI not in the set. -/
theorem mem_step_negated_forward {iris : List String} {a b : Term} :
    b ∈ g.step (.negated iris) .forward a ↔ a.isLiteral = false ∧ ∃ q, q ∉ iris ∧ g.Edge q a b := by
  simp only [step, mem_addNodes, List.not_mem_nil, false_or, mem_neighbours_forward]
  constructor
  · rintro ⟨hl, q, hq, -, he⟩
    exact ⟨hl, q, by simpa using hq, he⟩
  · rintro ⟨hl, q, hq, he⟩
    exact ⟨hl, q, by simpa using hq, by simp, he⟩

theorem mem_step_negated_backward {iris : List String} {a b : Term} :
    b ∈ g.step (.negated iris) .backward a ↔ ∃ q, q ∉ iris ∧ g.Edge q b a := by
  simp only [step, mem_addNodes, List.not_mem_nil, false_or, mem_neighbours_backward]
  constructor
  · rintro ⟨q, hq, -, he⟩
    exact ⟨q, by simpa using hq, he⟩
  · rintro ⟨q, hq, he⟩
    exact ⟨q, by simpa using hq, by simp, he⟩

@[simp] theorem step_reverse (inner : PropertyPath) (dir : Direction) (a : Term) :
    g.step (.reverse inner) dir a = g.step inner dir.reverse a := by
  simp [step]

/-- A sequence followed forwards goes through a node between its two parts. -/
theorem mem_step_sequence_forward {first second : PropertyPath} {a b : Term} :
    b ∈ g.step (.sequence first second) .forward a ↔
      ∃ m ∈ g.step first .forward a, b ∈ g.step second .forward m := by
  simp [step, mem_foldl_addNodes]

/-- A sequence followed backwards takes its second part first. -/
theorem mem_step_sequence_backward {first second : PropertyPath} {a b : Term} :
    b ∈ g.step (.sequence first second) .backward a ↔
      ∃ m ∈ g.step second .backward a, b ∈ g.step first .backward m := by
  simp [step, mem_foldl_addNodes]

theorem mem_step_alternative {left right : PropertyPath} {dir : Direction} {a b : Term} :
    b ∈ g.step (.alternative left right) dir a ↔ b ∈ g.step left dir a ∨ b ∈ g.step right dir a := by
  simp [step]

/-! ## Both directions -/

/-- **Following a path backwards from `a` reaches `b` exactly when following it
forwards from `b` reaches `a`**, for a path without repetitions in data without
literal subjects (a literal subject is never left forwards). -/
theorem mem_step_reverse_iff (hlit : g.NoLiteralSubjects) {path : PropertyPath}
    (hp : path.isRepetitionFree) :
    ∀ (dir : Direction) (a b : Term), b ∈ g.step path dir.reverse a ↔ a ∈ g.step path dir b := by
  induction path with
  | iri p =>
    rintro (_ | _) a b
    · rw [show Direction.forward.reverse = .backward from rfl, mem_step_iri_backward,
        mem_step_iri_forward]
      exact ⟨fun he => ⟨hlit _ he, he⟩, And.right⟩
    · rw [show Direction.backward.reverse = .forward from rfl, mem_step_iri_forward,
        mem_step_iri_backward]
      exact ⟨And.right, fun he => ⟨hlit _ he, he⟩⟩
  | negated iris =>
    rintro (_ | _) a b
    · rw [show Direction.forward.reverse = .backward from rfl, mem_step_negated_backward,
        mem_step_negated_forward]
      exact ⟨fun ⟨q, hq, he⟩ => ⟨hlit _ he, q, hq, he⟩, And.right⟩
    · rw [show Direction.backward.reverse = .forward from rfl, mem_step_negated_forward,
        mem_step_negated_backward]
      exact ⟨And.right, fun ⟨q, hq, he⟩ => ⟨hlit _ he, q, hq, he⟩⟩
  | reverse inner ih =>
    intro dir a b
    rw [step_reverse, step_reverse, Direction.reverse_reverse]
    exact (ih hp dir b a).symm
  | sequence first second ihf ihs =>
    obtain ⟨hf, hs⟩ := Bool.and_eq_true_iff.1 hp
    rintro (_ | _) a b
    · -- backwards the second part comes first
      rw [show Direction.forward.reverse = .backward from rfl, mem_step_sequence_backward,
        mem_step_sequence_forward]
      constructor
      · rintro ⟨m, hm, hb⟩
        exact ⟨m, (ihf hf .forward m b).1 hb, (ihs hs .forward a m).1 hm⟩
      · rintro ⟨m, hm, ha⟩
        exact ⟨m, (ihs hs .forward a m).2 ha, (ihf hf .forward m b).2 hm⟩
    · rw [show Direction.backward.reverse = .forward from rfl, mem_step_sequence_forward,
        mem_step_sequence_backward]
      constructor
      · rintro ⟨m, hm, hb⟩
        exact ⟨m, (ihs hs .backward m b).1 hb, (ihf hf .backward a m).1 hm⟩
      · rintro ⟨m, hm, ha⟩
        exact ⟨m, (ihf hf .backward a m).2 ha, (ihs hs .backward m b).2 hm⟩
  | alternative left right ihl ihr =>
    obtain ⟨hl, hr⟩ := Bool.and_eq_true_iff.1 hp
    intro dir a b
    rw [mem_step_alternative, mem_step_alternative, ihl hl dir a b, ihr hr dir a b]
  | zeroOrMore _ _ | oneOrMore _ _ | zeroOrOne _ _ => cases hp

/-! ## Nodes -/

theorem mem_nodes {a : Term} :
    a ∈ g.nodes ↔ ∃ tr ∈ g.triples none none none, a = tr.subject ∨ a = tr.object := by
  simp [nodes]

theorem Edge.mem_nodes_left {p : String} {a b : Term} (he : g.Edge p a b) : a ∈ g.nodes :=
  mem_nodes.2 ⟨_, he, .inl rfl⟩

theorem Edge.mem_nodes_right {p : String} {a b : Term} (he : g.Edge p a b) : b ∈ g.nodes :=
  mem_nodes.2 ⟨_, he, .inr rfl⟩

/-- **Both ends of a step along a path without repetitions are nodes**: such a
path takes at least one edge. -/
theorem mem_nodes_of_mem_step {path : PropertyPath} (hp : path.isRepetitionFree) :
    ∀ (dir : Direction) (a b : Term), b ∈ g.step path dir a → a ∈ g.nodes ∧ b ∈ g.nodes := by
  induction path with
  | iri p =>
    rintro (_ | _) a b h
    · obtain ⟨-, he⟩ := mem_step_iri_forward.1 h
      exact ⟨he.mem_nodes_left, he.mem_nodes_right⟩
    · have he := mem_step_iri_backward.1 h
      exact ⟨he.mem_nodes_right, he.mem_nodes_left⟩
  | negated iris =>
    rintro (_ | _) a b h
    · obtain ⟨-, q, -, he⟩ := mem_step_negated_forward.1 h
      exact ⟨he.mem_nodes_left, he.mem_nodes_right⟩
    · obtain ⟨q, -, he⟩ := mem_step_negated_backward.1 h
      exact ⟨he.mem_nodes_right, he.mem_nodes_left⟩
  | reverse inner ih =>
    intro dir a b h
    rw [step_reverse] at h
    exact ih hp dir.reverse a b h
  | sequence first second ihf ihs =>
    obtain ⟨hf, hs⟩ := Bool.and_eq_true_iff.1 hp
    rintro (_ | _) a b h
    · obtain ⟨m, hm, hb⟩ := mem_step_sequence_forward.1 h
      exact ⟨(ihf hf _ a m hm).1, (ihs hs _ m b hb).2⟩
    · obtain ⟨m, hm, hb⟩ := mem_step_sequence_backward.1 h
      exact ⟨(ihs hs _ a m hm).1, (ihf hf _ m b hb).2⟩
  | alternative left right ihl ihr =>
    obtain ⟨hl, hr⟩ := Bool.and_eq_true_iff.1 hp
    intro dir a b h
    rcases mem_step_alternative.1 h with h | h
    · exact ihl hl dir a b h
    · exact ihr hr dir a b h
  | zeroOrMore _ _ | oneOrMore _ _ | zeroOrOne _ _ => cases hp

/-! ## The path evaluator -/

theorem get_singleton (v : Variable) (n : Term) :
    Solution.get ⟨[v], [some n]⟩ = Function.update Mapping.empty v (some n) := by
  funext u
  rw [Solution.get_cons, Function.update_apply]
  by_cases h : u = v
  · simp [h]
  · simp [h, Ne.symm h, Mapping.empty]

theorem get_pair {v w : Variable} (hvw : v ≠ w) (n m : Term) :
    Solution.get ⟨[v, w], [some n, some m]⟩ =
      Function.update (Function.update Mapping.empty v (some n)) w (some m) := by
  funext u
  rw [Solution.get_cons, get_singleton, Function.update_apply]
  by_cases huv : u = v
  · subst huv
    simp [hvw]
  · by_cases huw : u = w
    · subst huw
      simp [Ne.symm huv]
    · simp [huv, huw, Ne.symm huv, Mapping.empty]

/-- **The solutions of a path pattern over a path without repetitions bind its
two ends to terms the path connects**, in data without literal subjects. -/
theorem solutions_evalPath (hlit : g.NoLiteralSubjects) {path : PropertyPath}
    (hp : path.isRepetitionFree) (mode : BlankNodeMode) (x y : TermPattern) :
    (g.evalPath mode x path y).WF ∧
      (g.evalPath mode x path y).solutions =
        Mapping.relSolutions (g.Reaches path) (x.resolve mode) (y.resolve mode) := by
  unfold evalPath
  generalize x.resolve mode = x'
  generalize y.resolve mode = y'
  rcases x' with a | v <;> rcases y' with b | w <;> dsimp only
  · -- two constants: the identity when the path connects them, else nothing
    by_cases h : g.Reaches path a b
    · have hc : (g.step path .forward a).contains b = true := by simpa [Reaches] using h
      refine ⟨by rw [if_pos hc]; trivial, ?_⟩
      ext β
      rw [if_pos hc, Mapping.mem_relSolutions_constant_constant]
      simp [h]
    · have hc : ¬ (g.step path .forward a).contains b = true := by simpa [Reaches] using h
      refine ⟨by rw [if_neg hc]; trivial, ?_⟩
      ext β
      rw [if_neg hc, Mapping.mem_relSolutions_constant_constant]
      simp [h]
  · refine ⟨Multiset.wf_ofRows (List.nodup_singleton w) _, ?_⟩
    ext β
    rw [Multiset.mem_solutions_ofRows, Mapping.mem_relSolutions_constant_variable]
    simp only [List.mem_map]
    constructor
    · rintro ⟨_, ⟨n, hn, rfl⟩, rfl⟩
      exact ⟨n, hn, get_singleton w n⟩
    · rintro ⟨n, hn, rfl⟩
      exact ⟨_, ⟨n, hn, rfl⟩, get_singleton w n⟩
  · -- a variable subject: the nodes the path reaches backwards from the object
    refine ⟨Multiset.wf_ofRows (List.nodup_singleton v) _, ?_⟩
    ext β
    rw [Multiset.mem_solutions_ofRows, Mapping.mem_relSolutions_variable_constant]
    simp only [List.mem_map]
    constructor
    · rintro ⟨_, ⟨n, hn, rfl⟩, rfl⟩
      exact ⟨n, (mem_step_reverse_iff hlit hp .forward b n).1 hn, get_singleton v n⟩
    · rintro ⟨n, hn, rfl⟩
      exact ⟨_, ⟨n, (mem_step_reverse_iff hlit hp .forward b n).2 hn, rfl⟩, get_singleton v n⟩
  · -- two variables: every node that the path leaves is a start
    split_ifs with hvw
    · obtain rfl : v = w := by simpa using hvw
      refine ⟨Multiset.wf_ofRows (List.nodup_singleton v) _, ?_⟩
      ext β
      rw [Multiset.mem_solutions_ofRows, Mapping.mem_relSolutions_variable_self]
      simp only [List.mem_flatMap, List.mem_map, List.mem_filter, beq_iff_eq]
      constructor
      · rintro ⟨_, ⟨n, -, r, ⟨hr, rfl⟩, rfl⟩, rfl⟩
        exact ⟨_, hr, get_singleton v _⟩
      · rintro ⟨n, hn, rfl⟩
        exact ⟨_, ⟨n, (mem_nodes_of_mem_step hp .forward n n hn).1, n, ⟨hn, rfl⟩, rfl⟩,
          get_singleton v n⟩
    · have hvw : v ≠ w := by simpa using hvw
      refine ⟨Multiset.wf_ofRows (by simpa using hvw) _, ?_⟩
      ext β
      rw [Multiset.mem_solutions_ofRows, Mapping.mem_relSolutions_variable_variable hvw]
      simp only [List.mem_flatMap, List.mem_map]
      constructor
      · rintro ⟨_, ⟨n, -, m, hm, rfl⟩, rfl⟩
        exact ⟨n, m, hm, get_pair hvw n m⟩
      · rintro ⟨n, m, hm, rfl⟩
        exact ⟨_, ⟨n, (mem_nodes_of_mem_step hp .forward n m hm).1, m, hm, rfl⟩, get_pair hvw n m⟩

end Graphs

end SparqlBag
