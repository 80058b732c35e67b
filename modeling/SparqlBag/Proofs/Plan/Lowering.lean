import SparqlBag.Plan.Paths
import SparqlBag.Proofs.Plan.Hidden
import SparqlBag.Proofs.Engine.Conjunctive
import SparqlBag.Proofs.Engine.PathRelation

/-!
# Lowering a path keeps its solutions

Lowering turns a path into joins and unions of triple patterns and path patterns
through fresh variables that the projection drops again.  One step of lowering
appends parts that represent what the path connects between the scope's ends,
with the variables it numbered hidden (`Lowered`).  Between two variables a path
pattern starts from the nodes of the graph only, so a fresh joint is bound to
nodes; when one part of each sequence takes an edge, its matches pass through
nodes anyway, and lowering keeps the solutions, with or without the seed of an
`EXISTS` (`PropertyPath.lower_preserves_solutions`).  Otherwise `p* / q*` loses a
zero-length match through a constant that is no node (`lower_drops_zero_length_match`).
-/

namespace SparqlBag

/-- Whether lowering keeps what a path connects: one part of each sequence takes an
edge, so the fresh joint between them is a node.  Repetitions are not lowered and
may stand anywhere else. -/
def PropertyPath.lowersFaithfully : PropertyPath → Bool
  | .reverse p => p.lowersFaithfully
  | .sequence p q => p.lowersFaithfully && q.lowersFaithfully && (p.takesEdge || q.takesEdge)
  | .alternative p q => p.lowersFaithfully && q.lowersFaithfully
  | .iri _ | .negated _ | .zeroOrMore _ | .oneOrMore _ | .zeroOrOne _ => true

namespace PathScope

/-! ## Fresh variables -/

theorem variableName_injective : Function.Injective variableName := by
  intro m n h
  have hs : toString m = toString n := by
    simpa [variableName] using congrArg Variable.name h
  have hl := congrArg String.toList hs
  simp only [Nat.toString_eq_repr, Nat.toList_repr] at hl
  simpa [Nat.ofDigitChars_ten_toDigits] using congrArg (fun l => Nat.ofDigitChars 10 l 0) hl

theorem startsWith_variableName (n : Nat) :
    (variableName n).name.startsWith pathVariablePrefix = true := by
  rw [String.startsWith_string_iff]
  simp [variableName]

/-- `v` is none of the fresh variables numbered `n` or more. -/
def OlderThan (n : Nat) (v : Variable) : Prop := ∀ k, n ≤ k → v ≠ variableName k

/-- `v` is one of the fresh variables numbered from `n` up to `n'`. -/
def FreshIn (n n' : Nat) (v : Variable) : Prop := ∃ k, n ≤ k ∧ k < n' ∧ v = variableName k

variable {n n' m m' : Nat} {v : Variable}

theorem OlderThan.mono (h : OlderThan n v) (hle : n ≤ n') : OlderThan n' v :=
  fun k hk => h k (hle.trans hk)

theorem olderThan_variableName (k : Nat) : OlderThan (k + 1) (variableName k) :=
  fun k' hk h => by
    have := variableName_injective h
    omega

/-- A variable whose name is not that of a fresh variable is older than every counter. -/
theorem olderThan_of_startsWith (h : v.name.startsWith pathVariablePrefix = false) (n : Nat) :
    OlderThan n v := by
  rintro k - rfl
  rw [startsWith_variableName] at h
  exact Bool.noConfusion h

theorem OlderThan.not_freshIn (h : OlderThan n v) (hle : n ≤ m) : ¬FreshIn m m' v := by
  rintro ⟨k, hk, -, rfl⟩
  exact h k (hle.trans hk) rfl

theorem FreshIn.mono (h : FreshIn m m' v) (h₁ : n ≤ m) (h₂ : m' ≤ n') : FreshIn n n' v := by
  obtain ⟨k, hk, hk', rfl⟩ := h
  exact ⟨k, h₁.trans hk, lt_of_lt_of_le hk' h₂, rfl⟩

/-- The variables numbered in two consecutive stretches are different. -/
theorem FreshIn.not_freshIn (h : FreshIn n m v) : ¬FreshIn m m' v := by
  rintro ⟨k', hk', -, rfl⟩
  obtain ⟨k, -, hk, hkk'⟩ := h
  have := variableName_injective hkk'
  omega

/-- The ends of a scope are older than its counter: no fresh variable to come is one of them. -/
def EndsOlder (mode : BlankNodeMode) (sc : PathScope) : Prop :=
  ∀ v ∈ (sc.subject.resolve mode).vars ++ (sc.object.resolve mode).vars, OlderThan sc.nextIndex v

/-! ## Grouping parts into patterns -/

/-- One step of grouping parts: the pending triple patterns and the patterns done. -/
def groupStep (acc : List TriplePattern × List GraphPattern) :
    PathPart → List TriplePattern × List GraphPattern
  | .triple t => (acc.1 ++ [t], acc.2)
  | .path s q o => ([], flush acc.1 acc.2 ++ [.path s q o])
  | .nested g => ([], flush acc.1 acc.2 ++ [g])

theorem groupParts_eq (parts : List PathPart) :
    groupParts parts =
      flush (parts.foldl groupStep ([], [])).1 (parts.foldl groupStep ([], [])).2 := rfl

@[simp] theorem flush_nil (done : List GraphPattern) : flush [] done = done := rfl

theorem flush_groupStep_ne_nil (acc : List TriplePattern × List GraphPattern) (p : PathPart) :
    flush (groupStep acc p).1 (groupStep acc p).2 ≠ [] := by
  cases p <;> simp [groupStep, flush]

theorem foldl_groupStep_ne_nil {parts : List PathPart} (h : parts ≠ [])
    (acc : List TriplePattern × List GraphPattern) :
    flush (parts.foldl groupStep acc).1 (parts.foldl groupStep acc).2 ≠ [] := by
  induction parts generalizing acc with
  | nil => exact absurd rfl h
  | cons p ps ih =>
    rw [List.foldl_cons]
    by_cases hps : ps = []
    · subst hps
      exact flush_groupStep_ne_nil acc p
    · exact ih hps _

end PathScope

/-- A part whose pattern is made of joins and unions. -/
def PathPart.AndUnion : PathPart → Prop
  | .triple _ => True
  | .path _ _ _ => True
  | .nested g => g.AndUnion

namespace GraphPattern.AndUnion

theorem foldl_join {g : GraphPattern} (hg : g.AndUnion) {gs : List GraphPattern}
    (hgs : ∀ g' ∈ gs, g'.AndUnion) : (gs.foldl .join g).AndUnion := by
  induction gs generalizing g with
  | nil => exact hg
  | cons g' gs ih =>
    exact ih (.join hg (hgs g' (by simp))) fun g'' h => hgs g'' (by simp [h])

end GraphPattern.AndUnion

namespace PathScope

theorem andUnion_flush (pending : List TriplePattern) {done : List GraphPattern}
    (hd : ∀ g ∈ done, g.AndUnion) : ∀ g ∈ flush pending done, g.AndUnion := by
  unfold flush
  split_ifs
  · exact hd
  · simp only [List.mem_append, List.mem_singleton]
    rintro g (hg | rfl)
    · exact hd g hg
    · exact .bgp pending

theorem andUnion_foldl_groupStep {parts : List PathPart} (hparts : ∀ p ∈ parts, p.AndUnion)
    {acc : List TriplePattern × List GraphPattern} (hacc : ∀ g ∈ acc.2, g.AndUnion) :
    ∀ g ∈ (parts.foldl groupStep acc).2, g.AndUnion := by
  induction parts generalizing acc with
  | nil => exact hacc
  | cons p ps ih =>
    refine ih (fun p' hp' => hparts p' (by simp [hp'])) ?_
    have hp := hparts p (by simp)
    cases p with
    | triple t => exact hacc
    | path s q o =>
      simp only [groupStep, List.mem_append, List.mem_singleton]
      rintro g (hg | rfl)
      · exact andUnion_flush _ hacc g hg
      · exact .path s q o
    | nested g' =>
      simp only [groupStep, List.mem_append, List.mem_singleton]
      rintro g (hg | rfl)
      · exact andUnion_flush _ hacc g hg
      · exact hp

end PathScope

namespace EvalEnv

variable (env : EvalEnv)

/-- The solutions of one part, as the evaluator gives them. -/
def partSolutions : PathPart → Set Mapping
  | .triple t => env.tripleSolutionsOf t
  | .path s q o => (env.graphs.evalPath env.options.blankNodeMode s q o).solutions
  | .nested g => env.andUnionSolutions g

/-- The solutions of a list of parts: the join of those of each. -/
def partsSolutions (parts : List PathPart) : Set Mapping :=
  parts.foldl (fun A p => Mapping.joinSet A (env.partSolutions p)) {Mapping.empty}

/-- The solutions of a list of patterns: the join of those of each. -/
def patternsSolutions (gs : List GraphPattern) : Set Mapping :=
  gs.foldl (fun A g => Mapping.joinSet A (env.andUnionSolutions g)) {Mapping.empty}

theorem partsSolutions_append (P Q : List PathPart) :
    env.partsSolutions (P ++ Q) = Mapping.joinSet (env.partsSolutions P) (env.partsSolutions Q) := by
  rw [partsSolutions, List.foldl_append, Mapping.foldl_joinSet]
  rfl

@[simp] theorem partsSolutions_singleton (p : PathPart) :
    env.partsSolutions [p] = env.partSolutions p := by
  simp [partsSolutions]

theorem patternsSolutions_append_singleton (gs : List GraphPattern) (g : GraphPattern) :
    env.patternsSolutions (gs ++ [g]) =
      Mapping.joinSet (env.patternsSolutions gs) (env.andUnionSolutions g) := by
  rw [patternsSolutions, List.foldl_append]
  rfl

theorem bgpSolutions_append_singleton (ts : List TriplePattern) (t : TriplePattern) :
    env.bgpSolutions (ts ++ [t]) = Mapping.joinSet (env.bgpSolutions ts) (env.tripleSolutionsOf t) := by
  rw [bgpSolutions, List.foldl_append]
  rfl

/-- The patterns of a pending run of triple patterns after those done join as the run
and the patterns do. -/
theorem patternsSolutions_flush (pending : List TriplePattern) (done : List GraphPattern) :
    env.patternsSolutions (PathScope.flush pending done) =
      Mapping.joinSet (env.patternsSolutions done) (env.bgpSolutions pending) := by
  unfold PathScope.flush
  split_ifs with h
  · rw [List.isEmpty_iff.1 h, bgpSolutions_nil, Mapping.joinSet_singleton_empty]
  · rw [patternsSolutions_append_singleton]
    rfl

theorem patternsSolutions_groupStep (acc : List TriplePattern × List GraphPattern) (p : PathPart) :
    env.patternsSolutions (PathScope.flush (PathScope.groupStep acc p).1 (PathScope.groupStep acc p).2) =
      Mapping.joinSet (env.patternsSolutions (PathScope.flush acc.1 acc.2)) (env.partSolutions p) := by
  cases p with
  | triple t =>
    simp only [PathScope.groupStep, patternsSolutions_flush, bgpSolutions_append_singleton]
    rw [Mapping.joinSet_assoc]
    rfl
  | path s q o =>
    simp only [PathScope.groupStep, PathScope.flush_nil, patternsSolutions_append_singleton]
    rfl
  | nested g =>
    simp only [PathScope.groupStep, PathScope.flush_nil, patternsSolutions_append_singleton]
    rfl

/-- **Grouping keeps the join of the parts' solutions**, whatever was grouped before. -/
theorem patternsSolutions_foldl_groupStep (parts : List PathPart)
    (acc : List TriplePattern × List GraphPattern) :
    env.patternsSolutions (PathScope.flush (parts.foldl PathScope.groupStep acc).1
        (parts.foldl PathScope.groupStep acc).2) =
      parts.foldl (fun A p => Mapping.joinSet A (env.partSolutions p))
        (env.patternsSolutions (PathScope.flush acc.1 acc.2)) := by
  induction parts generalizing acc with
  | nil => rfl
  | cons p ps ih => rw [List.foldl_cons, ih, patternsSolutions_groupStep, List.foldl_cons]

theorem andUnionSolutions_foldl_join (gs : List GraphPattern) (g : GraphPattern) :
    env.andUnionSolutions (gs.foldl .join g) =
      gs.foldl (fun A g => Mapping.joinSet A (env.andUnionSolutions g)) (env.andUnionSolutions g) := by
  induction gs generalizing g with
  | nil => rfl
  | cons g' gs ih => exact ih (.join g g')

/-- **A scope with parts gives a pattern of joins and unions with the solutions of its
parts.** -/
theorem toPattern_spec (sc : PathScope) (hne : sc.parts ≠ []) (hp : ∀ p ∈ sc.parts, p.AndUnion) :
    ∃ g, sc.toPattern = .ok g ∧ g.AndUnion ∧ env.andUnionSolutions g = env.partsSolutions sc.parts := by
  have hnil : ∀ g ∈ (([], []) : List TriplePattern × List GraphPattern).2, g.AndUnion := by simp
  have hall := PathScope.andUnion_flush (sc.parts.foldl PathScope.groupStep ([], [])).1
    (PathScope.andUnion_foldl_groupStep hp hnil)
  have hsol : env.patternsSolutions (PathScope.flush (sc.parts.foldl PathScope.groupStep ([], [])).1
      (sc.parts.foldl PathScope.groupStep ([], [])).2) = env.partsSolutions sc.parts :=
    env.patternsSolutions_foldl_groupStep sc.parts ([], [])
  obtain ⟨g, gs, hgs⟩ := List.exists_cons_of_ne_nil (PathScope.foldl_groupStep_ne_nil hne ([], []))
  rw [hgs] at hall hsol
  refine ⟨gs.foldl .join g, ?_, ?_, ?_⟩
  · rw [PathScope.toPattern, PathScope.groupParts_eq, hgs]
  · exact .foldl_join (hall g (by simp)) fun g' hg' => hall g' (by simp [hg'])
  · rw [andUnionSolutions_foldl_join, ← hsol, patternsSolutions, List.foldl_cons,
      Mapping.singleton_empty_joinSet]

end EvalEnv

namespace Graphs

variable {g : Graphs} {x y : PatternTerm} {a b : Term}

theorem connects_iri {p : String} : g.Connects (.iri p) x y a b ↔ g.Edge p a b :=
  ⟨And.left, fun h => ⟨h, fun _ _ _ _ => h.mem_nodes_left⟩⟩

/-- An inverse connects its ends the other way round: both ends are nodes or neither. -/
theorem connects_reverse {inner : PropertyPath} :
    g.Connects (.reverse inner) x y a b ↔ g.Connects inner y x b a := by
  constructor
  · rintro ⟨h, hn⟩
    have h' : g.PathRel inner b a := h
    exact ⟨h', fun v w hy hx => (PathRel.mem_nodes_iff h').2 (hn w v hx hy)⟩
  · rintro ⟨h, hn⟩
    exact ⟨h, fun v w hx hy => (PathRel.mem_nodes_iff h).1 (hn w v hy hx)⟩

/-- **A sequence one of whose parts takes an edge connects through its joint**: the
joint is then a node, as the path pattern that starts from it needs. -/
theorem connects_sequence {first second : PropertyPath}
    (hte : (first.takesEdge || second.takesEdge) = true) (j : Variable) :
    (∃ m, g.Connects first x (.variable j) a m ∧ g.Connects second (.variable j) y m b) ↔
      g.Connects (.sequence first second) x y a b := by
  constructor
  · rintro ⟨m, ⟨h₁, hn⟩, h₂, -⟩
    exact ⟨⟨m, h₁, h₂⟩, fun v _ hx _ => hn v j hx rfl⟩
  · rintro ⟨⟨m, h₁, h₂⟩, -⟩
    -- the start and the joint are nodes, whichever part takes the edge
    have hnodes : a ∈ g.nodes ∧ m ∈ g.nodes := by
      rcases Bool.or_eq_true_iff.1 hte with hf | hs
      · exact PathRel.mem_nodes_of_takesEdge hf h₁
      · have hm := (PathRel.mem_nodes_of_takesEdge hs h₂).1
        exact ⟨(PathRel.mem_nodes_iff h₁).2 hm, hm⟩
    exact ⟨m, ⟨h₁, fun _ _ _ _ => hnodes.1⟩, h₂, fun _ _ _ _ => hnodes.2⟩

theorem connects_alternative {left right : PropertyPath} :
    g.Connects (.alternative left right) x y a b ↔ g.Connects left x y a b ∨ g.Connects right x y a b :=
  or_and_right

end Graphs

namespace PathScope

variable {env : EvalEnv} {path : PropertyPath} {sc : PathScope}

/-! ## One step of lowering -/

theorem EndsOlder.mono {mode : BlankNodeMode} (h : sc.EndsOlder mode) {n : Nat}
    (hle : sc.nextIndex ≤ n) : EndsOlder mode { sc with nextIndex := n } :=
  fun v hv => (h v hv).mono hle

/-- The joint of a sequence, the fresh variable numbered `k`, is older than every later
counter. -/
theorem olderThan_of_mem_joint {mode : BlankNodeMode} {k n : Nat} {v : Variable} (hk : k + 1 ≤ n)
    (hv : v ∈ ((TermPattern.var (variableName k)).resolve mode).vars) : OlderThan n v := by
  obtain rfl : v = variableName k := by simpa [TermPattern.resolve] using hv
  exact (olderThan_variableName k).mono hk

/-- What lowering `path` into the scope `sc` did when it appended the parts `new` and
moved the counter on to `next`: the new parts are joins and unions, and their solutions
represent the path between the scope's ends, with the variables numbered in between
hidden. -/
structure Lowered (env : EvalEnv) (path : PropertyPath) (sc : PathScope) (new : List PathPart)
    (next : Nat) : Prop where
  counter : sc.nextIndex ≤ next
  nonempty : new ≠ []
  andUnion : ∀ p ∈ new, p.AndUnion
  represents : Mapping.Represents (env.partsSolutions new)
    (env.graphs.Connects path (sc.subject.resolve env.options.blankNodeMode)
      (sc.object.resolve env.options.blankNodeMode))
    (sc.subject.resolve env.options.blankNodeMode) (sc.object.resolve env.options.blankNodeMode)
    (FreshIn sc.nextIndex next)

/-- Lowering `path` into a scope whose ends are older than its counter succeeds, keeps
the ends and the earlier parts, and is `Lowered`. -/
def Lowers (env : EvalEnv) (path : PropertyPath) : Prop :=
  ∀ sc : PathScope, sc.EndsOlder env.options.blankNodeMode →
    ∃ new next, lowerStep path sc = .ok { sc with parts := sc.parts ++ new, nextIndex := next } ∧
      Lowered env path sc new next

/-- What lowering `path` as a branch of an alternative onto the union `acc` of the
branches before it did when it gave the union `u` and moved the counter on to `next`:
`u` is made of joins and unions, and its solutions are those of `acc` and a set that
represents the path between the scope's ends. -/
structure Branched (env : EvalEnv) (path : PropertyPath) (sc : PathScope)
    (acc : Option GraphPattern) (u : GraphPattern) (next : Nat) : Prop where
  counter : sc.nextIndex ≤ next
  andUnion : u.AndUnion
  represents : ∃ B, env.andUnionSolutions u = (acc.map env.andUnionSolutions).getD ∅ ∪ B ∧
    Mapping.Represents B
      (env.graphs.Connects path (sc.subject.resolve env.options.blankNodeMode)
        (sc.object.resolve env.options.blankNodeMode))
      (sc.subject.resolve env.options.blankNodeMode)
      (sc.object.resolve env.options.blankNodeMode) (FreshIn sc.nextIndex next)

/-- Lowering `path` as a branch into a scope whose ends are older than its counter
succeeds, moves only the counter, and is `Branched`. -/
def LowersBranches (env : EvalEnv) (path : PropertyPath) : Prop :=
  ∀ (acc : Option GraphPattern) (sc : PathScope), (∀ a, acc = some a → a.AndUnion) →
    sc.EndsOlder env.options.blankNodeMode →
    ∃ u next, lowerBranches path acc sc = .ok (some u, { sc with nextIndex := next }) ∧
      Branched env path sc acc u next

theorem andUnion_part (sc : PathScope) (s : TermPattern) (path : PropertyPath) (o : TermPattern) :
    (sc.part s path o).AndUnion := by
  unfold part
  split
  · split_ifs <;> trivial
  · trivial

/-- **The part for a single step represents it**: a triple pattern for an IRI at the
top scope has the solutions of the IRI's edges, a path pattern those of the path. -/
theorem represents_part (hlit : env.graphs.NoLiteralSubjects) (sc : PathScope) (s o : TermPattern)
    (F : Variable → Prop) :
    Mapping.Represents (env.partSolutions (sc.part s path o))
      (env.graphs.Connects path (s.resolve env.options.blankNodeMode) (o.resolve env.options.blankNodeMode))
      (s.resolve env.options.blankNodeMode) (o.resolve env.options.blankNodeMode) F := by
  have hpath := Graphs.solutions_evalPath_connects hlit env.options.blankNodeMode s path o
  unfold part
  split
  · rename_i p
    split_ifs
    · show Mapping.Represents (env.graphs.tripleSolutions (s.resolve env.options.blankNodeMode)
        (.constant (.iri p)) (o.resolve env.options.blankNodeMode)) _ _ _ _
      rw [Graphs.tripleSolutions_iri]
      exact (Mapping.Represents.of_relSolutions _ _ _ F).congr fun a b => Graphs.connects_iri.symm
    · rw [EvalEnv.partSolutions, hpath]
      exact Mapping.Represents.of_relSolutions _ _ _ F
  · rw [EvalEnv.partSolutions, hpath]
    exact Mapping.Represents.of_relSolutions _ _ _ F

/-- A single step: lowering adds its part. -/
theorem lowers_leaf (hlit : env.graphs.NoLiteralSubjects)
    (hrun : ∀ sc, lowerStep path sc = .ok (sc.add (sc.part sc.subject path sc.object))) :
    Lowers env path := by
  intro sc _
  refine ⟨[sc.part sc.subject path sc.object], sc.nextIndex, hrun sc, le_rfl, List.cons_ne_nil _ _,
    ?_, ?_⟩
  · simpa using andUnion_part sc sc.subject path sc.object
  · rw [EvalEnv.partsSolutions_singleton]
    exact represents_part hlit sc sc.subject sc.object _

/-- An inverse lowers its path with the ends swapped. -/
theorem Lowers.reverse {inner : PropertyPath} (h : Lowers env inner) : Lowers env (.reverse inner) := by
  intro sc hsc
  obtain ⟨new, next, hrun, hl⟩ := h { sc with subject := sc.object, object := sc.subject }
    fun v hv => hsc v (List.mem_append.2 (List.mem_append.1 hv).symm)
  refine ⟨new, next, ?_, hl.counter, hl.nonempty, hl.andUnion, ?_⟩
  · simp only [lowerStep, hrun]
    rfl
  · exact hl.represents.swap.congr fun a b => Graphs.connects_reverse.symm

/-- A sequence one of whose paths takes an edge lowers its two paths through a fresh
joint variable. -/
theorem Lowers.sequence {first second : PropertyPath}
    (hte : (first.takesEdge || second.takesEdge) = true) (h₁ : Lowers env first)
    (h₂ : Lowers env second) : Lowers env (.sequence first second) := by
  intro sc hsc
  have hx : ∀ v ∈ (sc.subject.resolve env.options.blankNodeMode).vars, OlderThan sc.nextIndex v :=
    fun v hv => hsc v (List.mem_append_left _ hv)
  have hy : ∀ v ∈ (sc.object.resolve env.options.blankNodeMode).vars, OlderThan sc.nextIndex v :=
    fun v hv => hsc v (List.mem_append_right _ hv)
  -- the first path runs from the subject to the joint, the second from the joint on
  obtain ⟨new₁, n₁, hrun₁, hl₁⟩ := h₁
    { sc with object := .var (variableName sc.nextIndex), nextIndex := sc.nextIndex + 1 } (by
      intro v hv
      rcases List.mem_append.1 hv with hv | hv
      · exact (hx v hv).mono (Nat.le_succ _)
      · exact olderThan_of_mem_joint le_rfl hv)
  have hc₁ : sc.nextIndex + 1 ≤ n₁ := hl₁.counter
  obtain ⟨new₂, n₂, hrun₂, hl₂⟩ := h₂
    { sc with
      subject := .var (variableName sc.nextIndex), parts := sc.parts ++ new₁, nextIndex := n₁ } (by
      intro v hv
      rcases List.mem_append.1 hv with hv | hv
      · exact olderThan_of_mem_joint hc₁ hv
      · exact (hy v hv).mono (by omega : sc.nextIndex ≤ n₁))
  have hc₂ : n₁ ≤ n₂ := hl₂.counter
  refine ⟨new₁ ++ new₂, n₂, ?_, by omega, by simp [hl₁.nonempty], ?_, ?_⟩
  · simp only [lowerStep, fresh, hrun₁, hrun₂, bind, Except.bind, pure, Except.pure,
      List.append_assoc]
  · simpa only [List.forall_mem_append] using ⟨hl₁.andUnion, hl₂.andUnion⟩
  · have hjx : variableName sc.nextIndex ∉ (sc.subject.resolve env.options.blankNodeMode).vars :=
      fun hj => hx _ hj sc.nextIndex le_rfl rfl
    have hjy : variableName sc.nextIndex ∉ (sc.object.resolve env.options.blankNodeMode).vars :=
      fun hj => hy _ hj sc.nextIndex le_rfl rfl
    have hrep := hl₁.represents.seq hl₂.represents hjx hjy (fun v hv => hv.not_freshIn)
      (fun v hv => (hx v hv).not_freshIn (by omega : sc.nextIndex ≤ n₁))
      (fun v hv => (hy v hv).not_freshIn (Nat.le_succ _))
    rw [← EvalEnv.partsSolutions_append] at hrep
    refine (hrep.mono ?_).congr fun a b => Graphs.connects_sequence hte _
    rintro v (rfl | hv | hv)
    · exact ⟨sc.nextIndex, le_rfl, by omega, rfl⟩
    · exact hv.mono (Nat.le_succ _) hc₂
    · exact hv.mono (by omega : sc.nextIndex ≤ n₁) le_rfl

/-- The branches of an alternative, lowered from `n` to `m` and from `m` to `n'`,
represent the alternative over the variables numbered from `n` to `n'`. -/
theorem represents_alternative {x y : PatternTerm} {left right : PropertyPath}
    {B₁ B₂ : Set Mapping} {n m n' : Nat}
    (hB₁ : Mapping.Represents B₁ (env.graphs.Connects left x y) x y (FreshIn n m))
    (hB₂ : Mapping.Represents B₂ (env.graphs.Connects right x y) x y (FreshIn m n'))
    (h₁ : n ≤ m) (h₂ : m ≤ n') :
    Mapping.Represents (B₁ ∪ B₂) (env.graphs.Connects (.alternative left right) x y) x y
      (FreshIn n n') :=
  ((hB₁.mono fun _ hv => hv.mono le_rfl h₂).union (hB₂.mono fun _ hv => hv.mono h₁ le_rfl)).congr
    fun _ _ => Graphs.connects_alternative.symm

/-- Lowering into a scope with no parts yet gives a pattern of joins and unions that
represents the path. -/
theorem Lowers.pattern (h : Lowers env path) (sc : PathScope) (hsc : sc.EndsOlder env.options.blankNodeMode)
    (hnil : sc.parts = []) :
    ∃ inner g, lowerStep path sc = .ok inner ∧ inner.toPattern = .ok g ∧
      sc.nextIndex ≤ inner.nextIndex ∧ g.AndUnion ∧
      Mapping.Represents (env.andUnionSolutions g)
        (env.graphs.Connects path (sc.subject.resolve env.options.blankNodeMode)
          (sc.object.resolve env.options.blankNodeMode))
        (sc.subject.resolve env.options.blankNodeMode) (sc.object.resolve env.options.blankNodeMode)
        (FreshIn sc.nextIndex inner.nextIndex) := by
  obtain ⟨new, next, hrun, hl⟩ := h sc hsc
  obtain ⟨g, htp, hg, hsol⟩ := env.toPattern_spec { sc with parts := sc.parts ++ new, nextIndex := next }
    (by simpa [hnil] using hl.nonempty) (by simpa [hnil] using hl.andUnion)
  have hsol' : env.andUnionSolutions g = env.partsSolutions new := by simpa [hnil] using hsol
  refine ⟨_, g, hrun, htp, hl.counter, hg, ?_⟩
  rw [hsol']
  exact hl.represents

/-- A path other than an alternative is a branch of its own: it is lowered in a nested
scope and added to the union. -/
theorem Lowers.branches (h : Lowers env path) (hna : ∀ l r, path ≠ .alternative l r) :
    LowersBranches env path := by
  intro acc sc hacc hsc
  obtain ⟨inner, branch, hrun, htp, hcount, hbu, hrep⟩ :=
    h.pattern (sc.nested sc.subject sc.object) hsc rfl
  have hcount' : sc.nextIndex ≤ inner.nextIndex := hcount
  rw [lowerBranches.eq_def]
  split
  · exact absurd rfl (hna _ _)
  · simp only [hrun, htp, bind, Except.bind, pure, Except.pure, absorb, Nat.max_eq_right hcount']
    -- the branch starts the union, or is added to the branches before it
    cases acc with
    | none => exact ⟨branch, inner.nextIndex, rfl, hcount, hbu, _, by simp, hrep⟩
    | some a =>
      exact ⟨.union a branch, inner.nextIndex, rfl, hcount, .union (hacc a rfl) hbu, _,
        by simp [EvalEnv.andUnionSolutions], hrep⟩

/-- Nested alternatives are branches of one union. -/
theorem LowersBranches.alternative {left right : PropertyPath} (h₁ : LowersBranches env left)
    (h₂ : LowersBranches env right) : LowersBranches env (.alternative left right) := by
  intro acc sc hacc hsc
  obtain ⟨u₁, n₁, hrun₁, hb₁⟩ := h₁ acc sc hacc hsc
  obtain ⟨u₂, n₂, hrun₂, hb₂⟩ := h₂ (some u₁) { sc with nextIndex := n₁ }
    (fun _ h => Option.some.inj h ▸ hb₁.andUnion) (hsc.mono hb₁.counter)
  obtain ⟨B₁, hu₁, hB₁⟩ := hb₁.represents
  obtain ⟨B₂, hu₂, hB₂⟩ := hb₂.represents
  refine ⟨u₂, n₂, ?_, hb₁.counter.trans hb₂.counter, hb₂.andUnion, B₁ ∪ B₂, ?_,
    represents_alternative hB₁ hB₂ hb₁.counter hb₂.counter⟩
  · simp only [lowerBranches, hrun₁, hrun₂, bind, Except.bind]
  · rw [hu₂, Option.map_some, Option.getD_some, hu₁, Set.union_assoc]

/-- An alternative lowers its branches into one union, as nested alternatives do, and
adds it as one part. -/
theorem Lowers.alternative {left right : PropertyPath} (h₁ : LowersBranches env left)
    (h₂ : LowersBranches env right) : Lowers env (.alternative left right) := by
  intro sc hsc
  obtain ⟨u, next, hrun, hb⟩ := LowersBranches.alternative h₁ h₂ none sc (fun _ h => by cases h) hsc
  obtain ⟨B, hu, hB⟩ := hb.represents
  refine ⟨[.nested u], next, ?_, hb.counter, List.cons_ne_nil _ _,
    by simpa [PathPart.AndUnion] using hb.andUnion, by simpa [EvalEnv.partSolutions, hu] using hB⟩
  simp only [lowerBranches, bind, Except.bind] at hrun
  simp only [lowerStep, bind, Except.bind]
  cases h : lowerBranches left none sc with
  | error e => simp [h] at hrun
  | ok p =>
    simp only [h] at hrun ⊢
    rw [hrun]
    rfl

/-- A single step that is no alternative lowers at the top and as a branch. -/
theorem lowers_leaf_both (hlit : env.graphs.NoLiteralSubjects) (hna : ∀ l r, path ≠ .alternative l r)
    (hrun : ∀ sc, lowerStep path sc = .ok (sc.add (sc.part sc.subject path sc.object))) :
    Lowers env path ∧ LowersBranches env path :=
  ⟨lowers_leaf hlit hrun, (lowers_leaf hlit hrun).branches hna⟩

/-- **Every step of lowering a path that lowers faithfully succeeds and represents
what the path connects**, at the top and as a branch, by induction on the path. -/
theorem lowers_of_lowersFaithfully (hlit : env.graphs.NoLiteralSubjects) {path : PropertyPath}
    (hp : path.lowersFaithfully) : Lowers env path ∧ LowersBranches env path := by
  induction path with
  | iri _ | negated _ | zeroOrMore _ _ | oneOrMore _ _ | zeroOrOne _ _ =>
    -- a single step, which lowering adds as one part
    exact lowers_leaf_both hlit (fun _ _ => PropertyPath.noConfusion) fun sc => by
      simp only [lowerStep]; rfl
  | reverse inner ih =>
    have h := (ih hp).1.reverse
    exact ⟨h, h.branches fun _ _ => PropertyPath.noConfusion⟩
  | sequence first second ih₁ ih₂ =>
    obtain ⟨⟨hp₁, hp₂⟩, hte⟩ := Bool.and_eq_true_iff.1 hp |>.imp_left Bool.and_eq_true_iff.1
    have h := (ih₁ hp₁).1.sequence hte (ih₂ hp₂).1
    exact ⟨h, h.branches fun _ _ => PropertyPath.noConfusion⟩
  | alternative left right ih₁ ih₂ =>
    obtain ⟨hp₁, hp₂⟩ := Bool.and_eq_true_iff.1 hp
    exact ⟨.alternative (ih₁ hp₁).2 (ih₂ hp₂).2, .alternative (ih₁ hp₁).2 (ih₂ hp₂).2⟩

end PathScope

namespace PropertyPath

/-- **Lowering keeps the solutions of a path one part of each of whose sequences
takes an edge.**  Lowering succeeds, and at every counter the lowered pattern and
the path pattern are evaluated without error; projected onto a list of variables
that holds those of the two ends and of the seed and no name of a fresh variable,
the lowered pattern has the solutions of the path pattern.  The data has no
literal subjects, the deadline is not zero, and the seed, if any, is one solution. -/
theorem lower_preserves_solutions {env : EvalEnv} {s o : TermPattern} {P : PropertyPath}
    {W : List Variable} (first : Nat) (htime : env.options.timeout ≠ some 0)
    (hlit : ∀ q ∈ env.dataset.quads, q.subject.isLiteral = false) (hP : P.lowersFaithfully = true)
    (hW : ∀ v ∈ (s.resolve env.options.blankNodeMode).vars ++ (o.resolve env.options.blankNodeMode).vars,
      v ∈ W)
    (hfresh : ∀ v ∈ W, v.name.startsWith pathVariablePrefix = false)
    (hseed : ∀ m, env.seed = some m → m.WF ∧ ∃ σ, m.solutions = {σ} ∧ ∀ v, (σ v).isSome → v ∈ W) :
    ∃ g next, P.lower s o first = .ok (g, next) ∧ ∀ st, ∃ M M',
      (env.eval g).run st = .ok (M, st) ∧ (env.eval (.path s P o)).run st = .ok (M', st) ∧
      (M.project W).solutions = M'.solutions := by
  have hlit' : env.graphs.NoLiteralSubjects := Graphs.noLiteralSubjects_of_quads hlit env.active
  have hold : (PathScope.new s o first).EndsOlder env.options.blankNodeMode :=
    fun v hv => PathScope.olderThan_of_startsWith (hfresh v (hW v hv)) _
  obtain ⟨inner, g, hrun, htp, -, hg, hrep⟩ :=
    (PathScope.lowers_of_lowersFaithfully hlit' hP).1.pattern _ hold rfl
  refine ⟨g, inner.nextIndex, ?_, fun st => ?_⟩
  · simp only [lower, hrun, htp, bind, Except.bind, pure, Except.pure]
  -- the seed is one solution `σ` of variables of `W`
  obtain ⟨σ, hσ, hσW⟩ : ∃ σ, (env.seed.getD .identity).solutions = {σ} ∧
      ∀ v, (σ v).isSome → v ∈ W := by
    cases hs : env.seed with
    | none => exact ⟨Mapping.empty, by simp, fun v hv => by simp [Mapping.empty] at hv⟩
    | some m =>
      obtain ⟨-, σ, h₁, h₂⟩ := hseed m hs
      exact ⟨σ, by simpa using h₁, h₂⟩
  have hseed' : env.SeedIsSingle := fun m hm =>
    ⟨(hseed m hm).1, (hseed m hm).2.imp fun _ h => h.1⟩
  obtain ⟨M, hM, -, hMs⟩ :=
    EvalEnv.evalWith_of_andUnion (EvalEnv.evalAt g.existsDepth) htime hlit' hseed' hg st
  obtain ⟨M', hM', -, hM's⟩ := EvalEnv.evalWith_of_andUnion
    (EvalEnv.evalAt (GraphPattern.path s P o).existsDepth) htime hlit' hseed' (.path s P o) st
  refine ⟨M, M', hM, hM', ?_⟩
  have hWF : ∀ v ∈ W, ¬PathScope.FreshIn first inner.nextIndex v :=
    fun v hv => (PathScope.olderThan_of_startsWith (hfresh v hv) first).not_freshIn le_rfl
  rw [Multiset.solutions_project, hMs, hM's, hσ, hrep.restrict_joinSet hW hWF hσW,
    EvalEnv.andUnionSolutions, Graphs.solutions_evalPath_connects hlit' _ s P o]
  rfl

/-- The sequence `<p>/<q>*` from `<a>` to `?o`, over the triples `<a> <p> <b>` and
`<b> <q> <c>`, from the seed that binds `?o` to `<c>`. -/
theorem lower_preserves_solutions_sequence :
    let env : EvalEnv :=
      ⟨⟨[⟨.iri "http://ex/a", "http://ex/p", .iri "http://ex/b", .default⟩,
          ⟨.iri "http://ex/b", "http://ex/q", .iri "http://ex/c", .default⟩], []⟩, {}, {}, none, .default,
        some (.ofRows [⟨"o"⟩] [[some (.iri "http://ex/c")]])⟩
    (∀ m, env.seed = some m → m.WF ∧ ∃ σ, m.solutions = {σ} ∧ ∀ v, (σ v).isSome → v ∈ [⟨"o"⟩]) ∧
      ∃ g next, (PropertyPath.sequence (.iri "http://ex/p") (.zeroOrMore (.iri "http://ex/q"))).lower
          (.term (.iri "http://ex/a")) (.var ⟨"o"⟩) 0 = .ok (g, next) ∧ ∀ st, ∃ M M',
        (env.eval g).run st = .ok (M, st) ∧
        (env.eval (.path (.term (.iri "http://ex/a"))
          (.sequence (.iri "http://ex/p") (.zeroOrMore (.iri "http://ex/q"))) (.var ⟨"o"⟩))).run st =
            .ok (M', st) ∧
        (M.project [⟨"o"⟩]).solutions = M'.solutions := by
  intro env
  -- The seed is the one solution that binds `?o`.
  have hseed : ∀ m, env.seed = some m →
      m.WF ∧ ∃ σ, m.solutions = {σ} ∧ ∀ v, (σ v).isSome → v ∈ [⟨"o"⟩] := fun m h => by
    cases h
    refine ⟨Multiset.wf_ofRows (by decide) _, Solution.get ⟨[⟨"o"⟩], [some (.iri "http://ex/c")]⟩,
      ?_, fun v hv => ?_⟩
    · ext μ
      rw [Multiset.mem_solutions_ofRows, Set.mem_singleton_iff]
      simp [eq_comm]
    · rw [Graphs.get_singleton] at hv
      by_cases hvo : v = ⟨"o"⟩
      · simp [hvo]
      · simp [hvo, Mapping.empty] at hv
  exact ⟨hseed, lower_preserves_solutions 0 (by decide) (by decide) rfl (by decide) (by decide) hseed⟩

/-- **A zero-length match through a fresh variable is lost**: lowering `<p>* / <q>*`
from `<a>` to `?o` joins two path patterns through `?__path0`; over an empty dataset
the join has no solution, where the path pattern has the one that binds `?o` to `<a>`. -/
theorem lower_drops_zero_length_match :
    (PropertyPath.sequence (.zeroOrMore (.iri "http://ex/p")) (.zeroOrMore (.iri "http://ex/q"))).lower
        (.term (.iri "http://ex/a")) (.var ⟨"o"⟩) 0 =
      .ok (.join (.path (.term (.iri "http://ex/a")) (.zeroOrMore (.iri "http://ex/p"))
          (.var (PathScope.variableName 0)))
        (.path (.var (PathScope.variableName 0)) (.zeroOrMore (.iri "http://ex/q")) (.var ⟨"o"⟩)), 1) ∧
    (((⟨{}, {}, {}, none, .default, none⟩ : EvalEnv).eval
        (.join (.path (.term (.iri "http://ex/a")) (.zeroOrMore (.iri "http://ex/p"))
          (.var (PathScope.variableName 0)))
        (.path (.var (PathScope.variableName 0)) (.zeroOrMore (.iri "http://ex/q"))
          (.var ⟨"o"⟩)))).run' 0).map Multiset.size = .ok 0 ∧
    (((⟨{}, {}, {}, none, .default, none⟩ : EvalEnv).eval
        (.path (.term (.iri "http://ex/a"))
          (.sequence (.zeroOrMore (.iri "http://ex/p")) (.zeroOrMore (.iri "http://ex/q")))
          (.var ⟨"o"⟩))).run' 0).map Multiset.size = .ok 1 := by
  refine ⟨?_, rfl, rfl⟩
  simp only [PropertyPath.lower, PathScope.lowerStep]
  rfl

end PropertyPath

end SparqlBag
