import SparqlBag.Proofs.Plan.Lowering
import SparqlBag.Proofs.Algebra.Rewrite

/-!
# What lowering a path produces

Lowering a property path never fails and produces one form
(`GraphPattern.LoweredForm`): basic graph patterns, joins and unions, and path
patterns rooted in a repetition or a negated property set, or, below a union, in a
single IRI.  It numbers one fresh variable per sequence reached from the root
through inverses, sequences and alternatives (`PropertyPath.joints`), and mentions
exactly the variables of the two ends and those.  The proof follows
`PathScope.lowerStep` by induction on the path.  Over a whole tree,
`GraphPattern.lowerPaths` leaves no path rooted in an inverse, a sequence or an
alternative at a node it visits; the aggregates of `GROUP` are not visited
(`GraphPattern.lowerPaths_skips_aggregates`).
-/

namespace SparqlBag

@[simp] theorem termPatternVars_var (v : Variable) : termPatternVars (.var v) = [v] := rfl

namespace PropertyPath

/-- The number of fresh variables lowering numbers for a path: one for each
sequence reached from the root through inverses, sequences and alternatives. -/
def joints : PropertyPath → Nat
  | .reverse inner => inner.joints
  | .sequence first second => first.joints + second.joints + 1
  | .alternative left right => left.joints + right.joints
  | _ => 0

/-- Whether a path is rooted in an inverse, a sequence or an alternative. -/
def isCompound : PropertyPath → Bool
  | .reverse _ | .sequence _ _ | .alternative _ _ => true
  | _ => false

theorem isCompound_eq_false {q : PropertyPath} (h : q.isLowerable = false) :
    q.isCompound = false := by
  cases q <;> simp_all [isLowerable, isCompound]

theorem joints_eq_zero {q : PropertyPath} (h : q.isCompound = false) : q.joints = 0 := by
  cases q <;> simp_all [isCompound, joints]

/-- A path that is neither an IRI nor compound is left to the evaluator. -/
theorem isLowerable_eq_false {q : PropertyPath} (h : q.isCompound = false)
    (hiri : ∀ p, q ≠ .iri p) : q.isLowerable = false := by
  cases q <;> simp_all [isLowerable, isCompound]

end PropertyPath

/-- The patterns lowering produces, below a union when `inUnion` holds: basic graph
patterns, joins and unions of them, and path patterns rooted in a repetition or a
negated property set or, below a union, in a single IRI. -/
inductive GraphPattern.LoweredForm : Bool → GraphPattern → Prop
  | bgp {inUnion : Bool} (ts : List TriplePattern) : LoweredForm inUnion (.bgp ts)
  | join {inUnion : Bool} {l r : GraphPattern} :
      LoweredForm inUnion l → LoweredForm inUnion r → LoweredForm inUnion (.join l r)
  | union {inUnion : Bool} {l r : GraphPattern} :
      LoweredForm true l → LoweredForm true r → LoweredForm inUnion (.union l r)
  | kept {inUnion : Bool} (s : TermPattern) {q : PropertyPath} (o : TermPattern) :
      q.isLowerable = false → LoweredForm inUnion (.path s q o)
  | iri (s : TermPattern) (p : String) (o : TermPattern) : LoweredForm true (.path s (.iri p) o)

/-- A node that is no path pattern rooted in an inverse, a sequence or an alternative. -/
def GraphPattern.NoCompoundPath : GraphPattern → Prop
  | .path _ q _ => q.isCompound = false
  | _ => True

namespace GraphPattern

theorem mem_mentioned_foldl_join {v : Variable} (g : GraphPattern) (gs : List GraphPattern) :
    v ∈ (gs.foldl .join g).mentioned ↔ ∃ g' ∈ g :: gs, v ∈ g'.mentioned := by
  induction gs generalizing g with
  | nil => simp
  | cons g' gs ih =>
    rw [List.foldl_cons, ih]
    simp [mentioned, or_assoc]

namespace LoweredForm

variable {b : Bool} {g : GraphPattern}

/-- A union has the lowered form whether or not a union lies above it. -/
theorem union_of_union {l r : GraphPattern} (h : LoweredForm b (.union l r)) (b' : Bool) :
    LoweredForm b' (.union l r) := by
  cases h with
  | union hl hr => exact .union hl hr

theorem foldl_join (hg : LoweredForm b g) {gs : List GraphPattern}
    (hgs : ∀ g' ∈ gs, LoweredForm b g') : LoweredForm b (gs.foldl .join g) := by
  induction gs generalizing g with
  | nil => exact hg
  | cons g' gs ih => exact ih (.join hg (hgs g' (by simp))) fun g'' h => hgs g'' (by simp [h])

/-- No node of a pattern of the lowered form is a path pattern rooted in an inverse,
a sequence or an alternative. -/
theorem everywhere_noCompoundPath (h : LoweredForm b g) : g.Everywhere NoCompoundPath := by
  induction h with
  | bgp ts => exact ⟨trivial, trivial⟩
  | join _ _ ihl ihr => exact ⟨⟨ihl, ihr⟩, trivial⟩
  | union _ _ ihl ihr => exact ⟨⟨ihl, ihr⟩, trivial⟩
  | kept s o hq => exact ⟨trivial, PropertyPath.isCompound_eq_false hq⟩
  | iri s p o => exact ⟨trivial, rfl⟩

end LoweredForm

end GraphPattern

/-- The pattern of a part on its own. -/
def PathPart.pattern : PathPart → GraphPattern
  | .triple t => .bgp [t]
  | .path s q o => .path s q o
  | .nested g => g

namespace PathScope

/-! ## Grouping parts into patterns -/

section Grouping

variable {P : GraphPattern → Prop}

theorem mem_flush_of_mem {pending : List TriplePattern} {done : List GraphPattern} {g : GraphPattern}
    (h : g ∈ done) : g ∈ flush pending done := by
  unfold flush
  split_ifs
  · exact h
  · exact List.mem_append_left _ h

theorem forall_flush (hbgp : ∀ ts, P (.bgp ts)) (pending : List TriplePattern)
    {done : List GraphPattern} (hdone : ∀ g ∈ done, P g) : ∀ g ∈ flush pending done, P g := by
  unfold flush
  split_ifs
  · exact hdone
  · simp only [List.mem_append, List.mem_singleton]
    rintro g (hg | rfl)
    · exact hdone g hg
    · exact hbgp pending

/-- A property of every basic graph pattern and of the pattern of every part holds
of every pattern the parts are grouped into. -/
theorem forall_foldl_groupStep (hbgp : ∀ ts, P (.bgp ts)) {parts : List PathPart}
    (hparts : ∀ p ∈ parts, P p.pattern) (acc : List TriplePattern × List GraphPattern)
    (hacc : ∀ g ∈ flush acc.1 acc.2, P g) :
    ∀ g ∈ flush (parts.foldl groupStep acc).1 (parts.foldl groupStep acc).2, P g := by
  induction parts generalizing acc with
  | nil => exact hacc
  | cons p ps ih =>
    refine ih (fun p' hp' => hparts p' (by simp [hp'])) _ ?_
    have hp := hparts p (by simp)
    cases p with
    | triple t => exact forall_flush hbgp _ fun g hg => hacc g (mem_flush_of_mem hg)
    | path s q o =>
      simp only [groupStep, flush_nil, List.mem_append, List.mem_singleton]
      rintro g (hg | rfl)
      · exact hacc g hg
      · exact hp
    | nested g' =>
      simp only [groupStep, flush_nil, List.mem_append, List.mem_singleton]
      rintro g (hg | rfl)
      · exact hacc g hg
      · exact hp

theorem mem_flatMap_flush (v : Variable) (pending : List TriplePattern) (done : List GraphPattern) :
    v ∈ (flush pending done).flatMap GraphPattern.mentioned ↔
      v ∈ done.flatMap GraphPattern.mentioned ∨ v ∈ pending.flatMap TriplePattern.vars := by
  unfold flush
  split_ifs with h
  · simp [List.isEmpty_iff.1 h]
  · simp [GraphPattern.mentioned]

theorem mem_flatMap_groupStep (v : Variable) (acc : List TriplePattern × List GraphPattern)
    (p : PathPart) :
    v ∈ (flush (groupStep acc p).1 (groupStep acc p).2).flatMap GraphPattern.mentioned ↔
      v ∈ (flush acc.1 acc.2).flatMap GraphPattern.mentioned ∨ v ∈ p.pattern.mentioned := by
  cases p <;>
    simp only [groupStep, mem_flatMap_flush, PathPart.pattern, List.flatMap_append,
      List.flatMap_cons, List.flatMap_nil, List.append_nil, List.mem_append, or_assoc,
      GraphPattern.mentioned, List.not_mem_nil, or_false]

/-- Grouping keeps the variables of the parts. -/
theorem mem_flatMap_foldl_groupStep (v : Variable) (parts : List PathPart)
    (acc : List TriplePattern × List GraphPattern) :
    v ∈ (flush (parts.foldl groupStep acc).1 (parts.foldl groupStep acc).2).flatMap
        GraphPattern.mentioned ↔
      v ∈ (flush acc.1 acc.2).flatMap GraphPattern.mentioned ∨ ∃ p ∈ parts, v ∈ p.pattern.mentioned := by
  induction parts generalizing acc with
  | nil => simp
  | cons p ps ih =>
    rw [List.foldl_cons, ih, mem_flatMap_groupStep]
    simp only [List.mem_cons, exists_eq_or_imp, or_assoc]

/-- **A scope with parts of the lowered form gives a pattern of that form**, which
mentions the variables of its parts. -/
theorem toPattern_loweredForm (sc : PathScope) (hne : sc.parts ≠ []) {b : Bool}
    (hform : ∀ p ∈ sc.parts, p.pattern.LoweredForm b) :
    ∃ g, sc.toPattern = .ok g ∧ g.LoweredForm b ∧
      ∀ v, v ∈ g.mentioned ↔ ∃ p ∈ sc.parts, v ∈ p.pattern.mentioned := by
  have hall := forall_foldl_groupStep (P := GraphPattern.LoweredForm b) (fun ts => .bgp ts) hform
    ([], []) (by simp)
  obtain ⟨g, gs, hgs⟩ := List.exists_cons_of_ne_nil (foldl_groupStep_ne_nil hne ([], []))
  rw [hgs] at hall
  refine ⟨gs.foldl .join g, ?_, ?_, fun v => ?_⟩
  · rw [toPattern, groupParts_eq, hgs]
  · exact .foldl_join (hall g (by simp)) fun g' hg' => hall g' (by simp [hg'])
  · have hvars := mem_flatMap_foldl_groupStep v sc.parts ([], [])
    rw [hgs] at hvars
    rw [GraphPattern.mem_mentioned_foldl_join, ← List.mem_flatMap, hvars]
    simp

end Grouping

/-! ## The fields of a nested scope -/

section Nested

variable (sc : PathScope) (start finish : TermPattern)

@[simp] theorem nested_subject : (sc.nested start finish).subject = start := rfl
@[simp] theorem nested_object : (sc.nested start finish).object = finish := rfl
@[simp] theorem nested_parts : (sc.nested start finish).parts = [] := rfl
@[simp] theorem nested_nextIndex : (sc.nested start finish).nextIndex = sc.nextIndex := rfl
@[simp] theorem nested_top : (sc.nested start finish).top = false := rfl

end Nested

/-! ## Fresh variables in stretches -/

variable {a b c : Nat} {v : Variable}

theorem not_freshIn_self (n : Nat) (v : Variable) : ¬FreshIn n n v := by
  rintro ⟨k, h₁, h₂, -⟩
  omega

/-- The variables numbered from `a` up to `c` are those from `a` up to `b` and those
from `b` up to `c`. -/
theorem freshIn_split (h₁ : a ≤ b) (h₂ : b ≤ c) : FreshIn a c v ↔ FreshIn a b v ∨ FreshIn b c v := by
  constructor
  · rintro ⟨k, hk, hk', rfl⟩
    by_cases hkb : k < b
    · exact .inl ⟨k, hk, hkb, rfl⟩
    · exact .inr ⟨k, by omega, hk', rfl⟩
  · rintro (hv | hv)
    · exact hv.mono le_rfl h₂
    · exact hv.mono h₁ le_rfl

theorem freshIn_succ (h : a < b) : FreshIn a b v ↔ v = variableName a ∨ FreshIn (a + 1) b v := by
  constructor
  · rintro ⟨k, hk, hk', rfl⟩
    by_cases hka : k = a
    · exact .inl (hka ▸ rfl)
    · exact .inr ⟨k, by omega, hk', rfl⟩
  · rintro (rfl | hv)
    · exact ⟨a, le_rfl, h, rfl⟩
    · exact hv.mono (Nat.le_succ a) le_rfl

/-! ## One step of lowering -/

variable {path : PropertyPath} {sc : PathScope}

/-- What lowering `path` into the scope `sc` appended as the parts `new`, moving the
counter on to `next`: one fresh variable for each sequence of the path, at least one
part, each of the lowered form (below a union exactly when the scope is a branch),
and between them the parts mention the variables of the scope's two ends and the
fresh variables numbered on the way, and no other. -/
structure Appended (path : PropertyPath) (sc : PathScope) (new : List PathPart) (next : Nat) :
    Prop where
  counter : next = sc.nextIndex + path.joints
  nonempty : new ≠ []
  form : ∀ p ∈ new, p.pattern.LoweredForm (!sc.top)
  mentioned : ∀ v, (∃ p ∈ new, v ∈ p.pattern.mentioned) ↔
    v ∈ termPatternVars sc.subject ∨ v ∈ termPatternVars sc.object ∨ FreshIn sc.nextIndex next v

/-- Lowering `path` into any scope succeeds, keeps the ends and the earlier parts,
and is `Appended`. -/
def Appends (path : PropertyPath) : Prop :=
  ∀ sc : PathScope, ∃ new next,
    lowerStep path sc = .ok { sc with parts := sc.parts ++ new, nextIndex := next } ∧
      Appended path sc new next

/-- What lowering `path` as branches of an alternative onto the union `acc` of the
branches before it gave, moving the counter on to `next`: the union `u`, of the
lowered form below a union and a union itself once there was a branch before; it
mentions the variables of `acc`, of the scope's ends and the fresh variables
numbered on the way, and no other. -/
structure Unioned (path : PropertyPath) (sc : PathScope) (acc : Option GraphPattern)
    (u : GraphPattern) (next : Nat) : Prop where
  counter : next = sc.nextIndex + path.joints
  form : u.LoweredForm true
  union : acc.isSome → ∃ l r, u = .union l r
  mentioned : ∀ v, v ∈ u.mentioned ↔ (∃ a, acc = some a ∧ v ∈ a.mentioned) ∨
    v ∈ termPatternVars sc.subject ∨ v ∈ termPatternVars sc.object ∨ FreshIn sc.nextIndex next v

/-- Lowering `path` as branches onto a union of the lowered form succeeds, moves
only the counter, and is `Unioned`. -/
def Unions (path : PropertyPath) : Prop :=
  ∀ (acc : Option GraphPattern) (sc : PathScope), (∀ a, acc = some a → a.LoweredForm true) →
    ∃ u next, lowerBranches path acc sc = .ok (some u, { sc with nextIndex := next }) ∧
      Unioned path sc acc u next

theorem loweredForm_part (hc : path.isCompound = false) (sc : PathScope) (s o : TermPattern) :
    (sc.part s path o).pattern.LoweredForm (!sc.top) := by
  unfold part
  split
  · rename_i p
    split_ifs with ht
    · exact .bgp _
    · simp only [ht, Bool.not_false]
      exact .iri s p o
  · rename_i hiri
    exact .kept s o (PropertyPath.isLowerable_eq_false hc fun p h => hiri p h)

theorem mem_mentioned_part (sc : PathScope) (s : TermPattern) (path : PropertyPath)
    (o : TermPattern) (v : Variable) :
    v ∈ (sc.part s path o).pattern.mentioned ↔ v ∈ termPatternVars s ∨ v ∈ termPatternVars o := by
  unfold part
  split
  · split_ifs <;> simp [PathPart.pattern, GraphPattern.mentioned, TriplePattern.vars]
  · simp [PathPart.pattern, GraphPattern.mentioned]

/-- A single step adds its part and numbers nothing. -/
theorem appends_leaf (hc : path.isCompound = false)
    (hrun : ∀ sc, lowerStep path sc = .ok (sc.add (sc.part sc.subject path sc.object))) :
    Appends path := by
  intro sc
  refine ⟨[sc.part sc.subject path sc.object], sc.nextIndex, hrun sc,
    ⟨by rw [PropertyPath.joints_eq_zero hc]; rfl, List.cons_ne_nil _ _, ?_, fun v => ?_⟩⟩
  · simpa using loweredForm_part hc sc sc.subject sc.object
  · simp only [List.mem_singleton, exists_eq_left, mem_mentioned_part]
    simp [not_freshIn_self]

/-- An inverse lowers its path with the ends swapped. -/
theorem Appends.reverse {inner : PropertyPath} (h : Appends inner) : Appends (.reverse inner) := by
  intro sc
  obtain ⟨new, next, hrun, ha⟩ := h { sc with subject := sc.object, object := sc.subject }
  refine ⟨new, next, ?_, ⟨ha.counter, ha.nonempty, ha.form, fun v => ?_⟩⟩
  · simp only [lowerStep, hrun]
    rfl
  · rw [ha.mentioned]
    tauto

/-- A sequence lowers its two paths through a fresh joint variable. -/
theorem Appends.sequence {first second : PropertyPath} (h₁ : Appends first) (h₂ : Appends second) :
    Appends (.sequence first second) := by
  intro sc
  -- the first path runs from the subject to the joint, the second from the joint on
  obtain ⟨new₁, n₁, hrun₁, ha₁⟩ := h₁
    { sc with object := .var (variableName sc.nextIndex), nextIndex := sc.nextIndex + 1 }
  obtain ⟨new₂, n₂, hrun₂, ha₂⟩ := h₂
    { sc with subject := .var (variableName sc.nextIndex), parts := sc.parts ++ new₁, nextIndex := n₁ }
  have hc₁ : n₁ = sc.nextIndex + 1 + first.joints := ha₁.counter
  have hc₂ : n₂ = n₁ + second.joints := ha₂.counter
  refine ⟨new₁ ++ new₂, n₂, ?_, ⟨?_, by simp [ha₁.nonempty], ?_, fun v => ?_⟩⟩
  · simp only [lowerStep, fresh, hrun₁, hrun₂, bind, Except.bind, pure, Except.pure,
      List.append_assoc]
  · simp only [PropertyPath.joints]
    omega
  · simpa only [List.forall_mem_append] using ⟨ha₁.form, ha₂.form⟩
  · have hsplit : FreshIn sc.nextIndex n₂ v ↔
        v = variableName sc.nextIndex ∨ FreshIn (sc.nextIndex + 1) n₁ v ∨ FreshIn n₁ n₂ v := by
      rw [freshIn_succ (by omega : sc.nextIndex < n₂),
        freshIn_split (by omega : sc.nextIndex + 1 ≤ n₁) (by omega : n₁ ≤ n₂)]
    have h₁ := ha₁.mentioned v
    have h₂ := ha₂.mentioned v
    simp only [termPatternVars_var, List.mem_singleton] at h₁ h₂
    simp only [List.mem_append, or_and_right, exists_or, h₁, h₂, hsplit]
    clear hrun₁ hrun₂ h₁ h₂ hsplit ha₁ ha₂
    tauto

/-- Nested alternatives are branches of one union. -/
theorem Unions.alternative {left right : PropertyPath} (h₁ : Unions left) (h₂ : Unions right) :
    Unions (.alternative left right) := by
  intro acc sc hacc
  obtain ⟨u₁, n₁, hrun₁, hb₁⟩ := h₁ acc sc hacc
  obtain ⟨u₂, n₂, hrun₂, hb₂⟩ := h₂ (some u₁) { sc with nextIndex := n₁ }
    (fun _ h => Option.some.inj h ▸ hb₁.form)
  have hc₁ : n₁ = sc.nextIndex + left.joints := hb₁.counter
  have hc₂ : n₂ = n₁ + right.joints := hb₂.counter
  refine ⟨u₂, n₂, ?_, ⟨?_, hb₂.form, fun _ => hb₂.union rfl, fun v => ?_⟩⟩
  · simp only [lowerBranches, hrun₁, hrun₂, bind, Except.bind]
  · simp only [PropertyPath.joints]
    omega
  · rw [hb₂.mentioned, freshIn_split (by omega : sc.nextIndex ≤ n₁) (by omega : n₁ ≤ n₂)]
    simp only [Option.some.injEq, exists_eq_left', hb₁.mentioned]
    generalize (∃ a, acc = some a ∧ v ∈ a.mentioned) = A
    clear hrun₁ hrun₂ hb₁ hb₂
    tauto

/-- An alternative lowers its branches into one union, and adds it as one part. -/
theorem Appends.alternative {left right : PropertyPath} (h₁ : Unions left) (h₂ : Unions right) :
    Appends (.alternative left right) := by
  intro sc
  obtain ⟨u₁, n₁, hrun₁, hb₁⟩ := h₁ none sc (fun _ h => by cases h)
  obtain ⟨u₂, n₂, hrun₂, hb₂⟩ := h₂ (some u₁) { sc with nextIndex := n₁ }
    (fun _ h => Option.some.inj h ▸ hb₁.form)
  have hc₁ : n₁ = sc.nextIndex + left.joints := hb₁.counter
  have hc₂ : n₂ = n₁ + right.joints := hb₂.counter
  -- the union of two branches at least is one part, of the lowered form at any level
  obtain ⟨l, r, rfl⟩ := hb₂.union rfl
  refine ⟨[.nested (.union l r)], n₂, ?_, ⟨?_, List.cons_ne_nil _ _, ?_, fun v => ?_⟩⟩
  · simp only [lowerStep, hrun₁, hrun₂, bind, Except.bind, pure, Except.pure]
    rfl
  · simp only [PropertyPath.joints]
    omega
  · simpa [PathPart.pattern] using hb₂.form.union_of_union (!sc.top)
  · simp only [List.mem_singleton, exists_eq_left, PathPart.pattern]
    rw [hb₂.mentioned, freshIn_split (by omega : sc.nextIndex ≤ n₁) (by omega : n₁ ≤ n₂)]
    simp only [Option.some.injEq, exists_eq_left', hb₁.mentioned, reduceCtorEq, false_and,
      exists_false, false_or]
    tauto

/-- Lowering into a scope with no parts yet gives a pattern of the lowered form,
which mentions the variables of the scope's ends and the fresh variables numbered. -/
theorem Appends.pattern (h : Appends path) (sc : PathScope) (hnil : sc.parts = []) :
    ∃ inner g, lowerStep path sc = .ok inner ∧ inner.toPattern = .ok g ∧
      inner.nextIndex = sc.nextIndex + path.joints ∧ g.LoweredForm (!sc.top) ∧
      ∀ v, v ∈ g.mentioned ↔ v ∈ termPatternVars sc.subject ∨ v ∈ termPatternVars sc.object ∨
        FreshIn sc.nextIndex (sc.nextIndex + path.joints) v := by
  obtain ⟨new, next, hrun, ha⟩ := h sc
  obtain ⟨g, htp, hform, hvars⟩ :=
    toPattern_loweredForm { sc with parts := sc.parts ++ new, nextIndex := next }
      (by simpa [hnil] using ha.nonempty) (by simpa [hnil] using ha.form)
  refine ⟨_, g, hrun, htp, ha.counter, hform, fun v => ?_⟩
  rw [hvars, ← ha.counter]
  simpa [hnil] using ha.mentioned v

/-- A path other than an alternative is a branch of its own: it is lowered in a
nested scope, below the union, and added to the union. -/
theorem Appends.unions (h : Appends path) (hna : ∀ l r, path ≠ .alternative l r) : Unions path := by
  intro acc sc hacc
  obtain ⟨inner, branch, hrun, htp, hnext, hform, hvars⟩ :=
    h.pattern (sc.nested sc.subject sc.object) rfl
  have hnext' : inner.nextIndex = sc.nextIndex + path.joints := hnext
  rw [lowerBranches.eq_def]
  split
  · exact absurd rfl (hna _ _)
  · simp only [hrun, htp, bind, Except.bind, pure, Except.pure, absorb, hnext',
      Nat.le_add_right, Nat.max_eq_right]
    -- the branch starts the union, or is added to the branches before it
    cases acc with
    | none => exact ⟨branch, _, rfl, rfl, hform, by simp, fun v => by simpa using hvars v⟩
    | some a =>
      refine ⟨.union a branch, _, rfl, rfl, .union (hacc a rfl) hform, fun _ => ⟨a, branch, rfl⟩,
        fun v => ?_⟩
      simp only [GraphPattern.mentioned, List.mem_append, Option.some.injEq, exists_eq_left']
      rw [hvars v]
      rfl

/-- **Every step of lowering succeeds and appends parts of the lowered form**, at the
top and as a branch, by induction on the path. -/
theorem appends_and_unions (path : PropertyPath) : Appends path ∧ Unions path := by
  induction path with
  | iri p =>
    have h : Appends (.iri p) := appends_leaf rfl fun sc => by simp only [lowerStep]; rfl
    exact ⟨h, h.unions fun _ _ => PropertyPath.noConfusion⟩
  | negated ns =>
    have h : Appends (.negated ns) := appends_leaf rfl fun sc => by simp only [lowerStep]; rfl
    exact ⟨h, h.unions fun _ _ => PropertyPath.noConfusion⟩
  | zeroOrMore inner _ =>
    have h : Appends (.zeroOrMore inner) := appends_leaf rfl fun sc => by simp only [lowerStep]; rfl
    exact ⟨h, h.unions fun _ _ => PropertyPath.noConfusion⟩
  | oneOrMore inner _ =>
    have h : Appends (.oneOrMore inner) := appends_leaf rfl fun sc => by simp only [lowerStep]; rfl
    exact ⟨h, h.unions fun _ _ => PropertyPath.noConfusion⟩
  | zeroOrOne inner _ =>
    have h : Appends (.zeroOrOne inner) := appends_leaf rfl fun sc => by simp only [lowerStep]; rfl
    exact ⟨h, h.unions fun _ _ => PropertyPath.noConfusion⟩
  | reverse inner ih =>
    have h := ih.1.reverse
    exact ⟨h, h.unions fun _ _ => PropertyPath.noConfusion⟩
  | sequence first second ih₁ ih₂ =>
    have h := ih₁.1.sequence ih₂.1
    exact ⟨h, h.unions fun _ _ => PropertyPath.noConfusion⟩
  | alternative left right ih₁ ih₂ =>
    exact ⟨.alternative ih₁.2 ih₂.2, .alternative ih₁.2 ih₂.2⟩

/-- What one step of lowering `path` leaves of the scope `before` it starts from: the
current subject and object it was called with, the two ends of the whole path and
the level of the scope, the earlier parts as a prefix of the parts after it, and the
counter moved on by one for each sequence of the path. -/
structure KeepsFrame (path : PropertyPath) (before after : PathScope) : Prop where
  subject : after.subject = before.subject
  object : after.object = before.object
  start : after.start = before.start
  finish : after.finish = before.finish
  top : after.top = before.top
  parts : before.parts <+: after.parts
  counter : after.nextIndex = before.nextIndex + path.joints

/-- **One step of lowering returns and keeps its frame**, from any scope: an inverse
and a sequence put back the ends they moved, and an alternative only adds its union
and moves the counter past its branches. -/
theorem lowerStep_keeps_frame (path : PropertyPath) (sc : PathScope) :
    ∃ sc', lowerStep path sc = .ok sc' ∧ KeepsFrame path sc sc' := by
  obtain ⟨new, next, hrun, happ⟩ := (appends_and_unions path).1 sc
  exact ⟨_, hrun, ⟨rfl, rfl, rfl, rfl, rfl, ⟨new, rfl⟩, happ.counter⟩⟩

end PathScope

namespace PropertyPath

/-- **Lowering a path succeeds**, whatever the path and its ends, with a pattern of
the lowered form; it numbers one fresh variable for each sequence of the path from
`first` on, and the pattern mentions the variables of the two ends and those fresh
variables, and no other. -/
theorem lower_spec (s : TermPattern) (P : PropertyPath) (o : TermPattern) (first : Nat) :
    ∃ g, P.lower s o first = .ok (g, first + P.joints) ∧ g.LoweredForm false ∧
      ∀ v, v ∈ g.mentioned ↔
        v ∈ termPatternVars s ∨ v ∈ termPatternVars o ∨ PathScope.FreshIn first (first + P.joints) v := by
  obtain ⟨inner, g, hrun, htp, hnext, hform, hvars⟩ :=
    (PathScope.appends_and_unions P).1.pattern (PathScope.new s o first) rfl
  refine ⟨g, ?_, hform, hvars⟩
  simp only [lower, hrun, htp, bind, Except.bind, pure, Except.pure, hnext]
  rfl

end PropertyPath

namespace GraphPattern

theorem lowerPath_of_not_path {g : GraphPattern} (h : ∀ s q o, g ≠ .path s q o) :
    g.lowerPath = pure g := by
  rw [lowerPath.eq_def]
  split
  · exact absurd rfl (h _ _ _)
  · rfl

theorem noCompoundPath_of_not_path {g : GraphPattern} (h : ∀ s q o, g ≠ .path s q o) :
    g.NoCompoundPath := by
  cases g <;> first | trivial | exact absurd rfl (h _ _ _)

/-- Lowering one node succeeds from every counter and leaves no compound path there:
a lowerable path becomes a pattern of the lowered form, any other node stays. -/
theorem succeedsWith_lowerPath (g : GraphPattern) (hg : g.Below NoCompoundPath) :
    SucceedsWith g.lowerPath (Everywhere NoCompoundPath) := by
  by_cases hpath : ∃ s q o, g = .path s q o
  · obtain ⟨s, q, o, rfl⟩ := hpath
    by_cases hq : q.isLowerable = true
    · intro first
      obtain ⟨g', hrun, hform, -⟩ := q.lower_spec s o first
      refine ⟨g', first + q.joints, ?_, hform.everywhere_noCompoundPath⟩
      simp only [lowerPath, hq, if_true]
      exact hrun
    · simp only [Bool.not_eq_true] at hq
      simp only [lowerPath, hq, Bool.false_eq_true, if_false]
      exact .pure ⟨trivial, PropertyPath.isCompound_eq_false hq⟩
  · have h : ∀ s q o, g ≠ .path s q o := fun s q o he => hpath ⟨s, q, o, he⟩
    rw [lowerPath_of_not_path h]
    exact .pure ⟨hg, noCompoundPath_of_not_path h⟩

/-- Lowering the paths of a tree succeeds, and no node it visits is a path pattern
rooted in an inverse, a sequence or an alternative. -/
theorem lowerPaths_everywhere (p : GraphPattern) :
    ∃ q, p.lowerPaths = .ok q ∧ q.Everywhere NoCompoundPath := by
  obtain ⟨q, n, hrun, hq⟩ := p.succeedsWith_rewriteUp succeedsWith_lowerPath 0
  refine ⟨q, ?_, hq⟩
  rw [lowerPaths, StateT.run'_eq, hrun]
  rfl

/-- **The aggregates of `GROUP` are not lowered**: the alternative path inside the
`EXISTS` of a `COUNT` stays a path pattern rooted in an alternative. -/
theorem lowerPaths_skips_aggregates :
    (GraphPattern.project (.extend (.group (.bgp []) []
        [(⟨"a"⟩, .call .count (.exists (.path (.var ⟨"s"⟩)
          (.alternative (.iri "http://ex/p") (.iri "http://ex/q")) (.var ⟨"o"⟩))) false)])
        ⟨"c"⟩ (.var ⟨"a"⟩)) [⟨"c"⟩]).lowerPaths =
      .ok (.project (.extend (.group (.bgp []) []
        [(⟨"a"⟩, .call .count (.exists (.path (.var ⟨"s"⟩)
          (.alternative (.iri "http://ex/p") (.iri "http://ex/q")) (.var ⟨"o"⟩))) false)])
        ⟨"c"⟩ (.var ⟨"a"⟩)) [⟨"c"⟩]) := by
  rfl

end GraphPattern

namespace PropertyPath

/-- **Lowering is total and produces the lowered form.**  Lowering a path between
any two ends succeeds with a pattern made of basic graph patterns, joins, unions
and path patterns rooted in a repetition or a negated property set or, below a
union, in a single IRI; and lowering the paths of a whole tree succeeds and leaves
no path pattern rooted in an inverse, a sequence or an alternative at any node it
visits, that is, at every node outside the aggregates of `GROUP`. -/
theorem lowering_total_and_lowered (s : TermPattern) (P : PropertyPath) (o : TermPattern)
    (first : Nat) (p : GraphPattern) :
    (∃ g next, P.lower s o first = .ok (g, next) ∧ g.LoweredForm false) ∧
    ∃ q, p.lowerPaths = .ok q ∧ q.Everywhere GraphPattern.NoCompoundPath := by
  obtain ⟨g, hrun, hform, -⟩ := P.lower_spec s o first
  exact ⟨⟨g, first + P.joints, hrun, hform⟩, p.lowerPaths_everywhere⟩

end PropertyPath

end SparqlBag
