import SparqlBag.Algebra.Rewrite

/-!
# What a pure bottom-up rewrite leaves at every node

`GraphPattern.rewriteUp f` applies `f` to the pattern nodes of a tree children
first, the patterns of `EXISTS` included and the aggregates of `GROUP` left out.
`GraphPattern.Everywhere Q p` says `Q` holds at every node it visits, `Below` at
those under the root.  For a rewrite in `Id`, one induction each gives that a step
keeping the nodes with `Q` keeps a tree with `Q` everywhere
(`GraphPattern.rewriteUp_eq_pure`), and that a step giving `Q` everywhere once the
children have it gives `Q` everywhere (`GraphPattern.everywhere_rewriteUp`).  A
rewrite with a state that may fail succeeds when its step always does
(`GraphPattern.succeedsWith_rewriteUp`).
-/

namespace SparqlBag

variable (Q : GraphPattern → Prop)

mutual

/-- `Q` holds at every node of the children of a pattern that the bottom-up rewrite
visits. -/
def GraphPattern.Below : GraphPattern → Prop
  | .bgp _ => True
  | .path .. => True
  | .values .. => True
  | .join l r => (l.Below ∧ Q l) ∧ (r.Below ∧ Q r)
  | .leftJoin l r e => (l.Below ∧ Q l) ∧ (r.Below ∧ Q r) ∧ Expression.EverywhereOption e
  | .filter e inner => e.Everywhere ∧ (inner.Below ∧ Q inner)
  | .union l r => (l.Below ∧ Q l) ∧ (r.Below ∧ Q r)
  | .graph _ inner => inner.Below ∧ Q inner
  | .extend inner _ e => (inner.Below ∧ Q inner) ∧ e.Everywhere
  | .minus l r => (l.Below ∧ Q l) ∧ (r.Below ∧ Q r)
  | .orderBy inner keys => (inner.Below ∧ Q inner) ∧ OrderKey.EverywhereList keys
  | .project inner _ => inner.Below ∧ Q inner
  | .distinct inner => inner.Below ∧ Q inner
  | .reduced inner => inner.Below ∧ Q inner
  | .slice inner _ _ => inner.Below ∧ Q inner
  | .group inner _ _ => inner.Below ∧ Q inner
  | .service _ inner _ => inner.Below ∧ Q inner

/-- `Q` holds at every node of the patterns inside the `EXISTS` of an expression. -/
def Expression.Everywhere : Expression → Prop
  | .exists p => p.Below ∧ Q p
  | .not a | .unaryPlus a | .unaryMinus a => a.Everywhere
  | .or a b | .and a b | .equal a b | .sameTerm a b | .greater a b | .greaterOrEqual a b
  | .less a b | .lessOrEqual a b | .add a b | .subtract a b | .multiply a b | .divide a b =>
    a.Everywhere ∧ b.Everywhere
  | .if a b c => a.Everywhere ∧ b.Everywhere ∧ c.Everywhere
  | .in a l => a.Everywhere ∧ Expression.EverywhereList l
  | .coalesce l | .call _ l => Expression.EverywhereList l
  | .iri _ | .literal _ | .var _ | .bound _ => True

/-- `Expression.Everywhere` of every expression of a list. -/
def Expression.EverywhereList : List Expression → Prop
  | [] => True
  | e :: rest => e.Everywhere ∧ Expression.EverywhereList rest

/-- `Expression.Everywhere` of an optional expression. -/
def Expression.EverywhereOption : Option Expression → Prop
  | none => True
  | some e => e.Everywhere

/-- `Expression.Everywhere` of the expressions of `ORDER BY` keys. -/
def OrderKey.EverywhereList : List OrderKey → Prop
  | [] => True
  | .asc e :: rest => e.Everywhere ∧ OrderKey.EverywhereList rest
  | .desc e :: rest => e.Everywhere ∧ OrderKey.EverywhereList rest

end

/-- `Q` holds at every node of a pattern that the bottom-up rewrite visits. -/
def GraphPattern.Everywhere (p : GraphPattern) : Prop := p.Below Q ∧ Q p

/-! ## A rewrite that keeps the nodes satisfying `Q` -/

section Fixed

variable {Q} {f : GraphPattern → Id GraphPattern}

mutual

/-- **A rewrite leaves what it does not change.** -/
theorem GraphPattern.rewriteUp_eq_pure (hf : ∀ g, Q g → f g = pure g) :
    ∀ p : GraphPattern, p.Everywhere Q → p.rewriteUp f = pure p
  | .bgp _, ⟨_, hq⟩ | .path .., ⟨_, hq⟩ | .values .., ⟨_, hq⟩ => hf _ hq
  | .join l r, ⟨⟨hl, hr⟩, hq⟩ | .union l r, ⟨⟨hl, hr⟩, hq⟩ | .minus l r, ⟨⟨hl, hr⟩, hq⟩ => by
    rw [GraphPattern.rewriteUp, l.rewriteUp_eq_pure hf hl, r.rewriteUp_eq_pure hf hr]
    exact hf _ hq
  | .leftJoin l r e, ⟨⟨hl, hr, he⟩, hq⟩ => by
    rw [GraphPattern.rewriteUp, l.rewriteUp_eq_pure hf hl, r.rewriteUp_eq_pure hf hr,
      Expression.rewriteOption_eq_pure hf e he]
    exact hf _ hq
  | .filter e inner, ⟨⟨he, hi⟩, hq⟩ => by
    rw [GraphPattern.rewriteUp, e.rewriteUp_eq_pure hf he, inner.rewriteUp_eq_pure hf hi]
    exact hf _ hq
  | .extend inner _ e, ⟨⟨hi, he⟩, hq⟩ => by
    rw [GraphPattern.rewriteUp, inner.rewriteUp_eq_pure hf hi, e.rewriteUp_eq_pure hf he]
    exact hf _ hq
  | .orderBy inner keys, ⟨⟨hi, hk⟩, hq⟩ => by
    rw [GraphPattern.rewriteUp, inner.rewriteUp_eq_pure hf hi, OrderKey.rewriteList_eq_pure hf keys hk]
    exact hf _ hq
  | .graph _ inner, ⟨hi, hq⟩ | .project inner _, ⟨hi, hq⟩ | .distinct inner, ⟨hi, hq⟩
  | .reduced inner, ⟨hi, hq⟩ | .slice inner _ _, ⟨hi, hq⟩ | .group inner _ _, ⟨hi, hq⟩
  | .service _ inner _, ⟨hi, hq⟩ => by
    rw [GraphPattern.rewriteUp, inner.rewriteUp_eq_pure hf hi]
    exact hf _ hq

theorem Expression.rewriteUp_eq_pure (hf : ∀ g, Q g → f g = pure g) :
    ∀ e : Expression, e.Everywhere Q → e.rewriteUp f = pure e
  | .exists p, hp => by
    rw [Expression.rewriteUp, p.rewriteUp_eq_pure hf hp]
    rfl
  | .not a, ha | .unaryPlus a, ha | .unaryMinus a, ha => by
    rw [Expression.rewriteUp, a.rewriteUp_eq_pure hf ha]
    rfl
  | .or a b, ⟨ha, hb⟩ | .and a b, ⟨ha, hb⟩ | .equal a b, ⟨ha, hb⟩ | .sameTerm a b, ⟨ha, hb⟩
  | .greater a b, ⟨ha, hb⟩ | .greaterOrEqual a b, ⟨ha, hb⟩ | .less a b, ⟨ha, hb⟩
  | .lessOrEqual a b, ⟨ha, hb⟩ | .add a b, ⟨ha, hb⟩ | .subtract a b, ⟨ha, hb⟩
  | .multiply a b, ⟨ha, hb⟩ | .divide a b, ⟨ha, hb⟩ => by
    rw [Expression.rewriteUp, a.rewriteUp_eq_pure hf ha, b.rewriteUp_eq_pure hf hb]
    rfl
  | .if a b c, ⟨ha, hb, hc⟩ => by
    rw [Expression.rewriteUp, a.rewriteUp_eq_pure hf ha, b.rewriteUp_eq_pure hf hb, c.rewriteUp_eq_pure hf hc]
    rfl
  | .in a l, ⟨ha, hl⟩ => by
    rw [Expression.rewriteUp, a.rewriteUp_eq_pure hf ha, Expression.rewriteList_eq_pure hf l hl]
    rfl
  | .coalesce l, hl | .call _ l, hl => by
    rw [Expression.rewriteUp, Expression.rewriteList_eq_pure hf l hl]
    rfl
  | .iri _, _ | .literal _, _ | .var _, _ | .bound _, _ => rfl

theorem Expression.rewriteList_eq_pure (hf : ∀ g, Q g → f g = pure g) :
    ∀ l : List Expression, Expression.EverywhereList Q l → Expression.rewriteList f l = pure l
  | [], _ => rfl
  | e :: rest, ⟨he, hrest⟩ => by
    rw [Expression.rewriteList, e.rewriteUp_eq_pure hf he, Expression.rewriteList_eq_pure hf rest hrest]
    rfl

theorem Expression.rewriteOption_eq_pure (hf : ∀ g, Q g → f g = pure g) :
    ∀ o : Option Expression, Expression.EverywhereOption Q o → Expression.rewriteOption f o = pure o
  | none, _ => rfl
  | some e, he => by
    rw [Expression.rewriteOption, e.rewriteUp_eq_pure hf he]
    rfl

theorem OrderKey.rewriteList_eq_pure (hf : ∀ g, Q g → f g = pure g) :
    ∀ keys : List OrderKey, OrderKey.EverywhereList Q keys → OrderKey.rewriteList f keys = pure keys
  | [], _ => rfl
  | .asc e :: rest, ⟨he, hrest⟩ => by
    rw [OrderKey.rewriteList, e.rewriteUp_eq_pure hf he, OrderKey.rewriteList_eq_pure hf rest hrest]
    rfl
  | .desc e :: rest, ⟨he, hrest⟩ => by
    rw [OrderKey.rewriteList, e.rewriteUp_eq_pure hf he, OrderKey.rewriteList_eq_pure hf rest hrest]
    rfl

end

end Fixed

/-! ## A rewrite whose step establishes `Q` -/

section Established

variable {Q} {f : GraphPattern → Id GraphPattern}

mutual

/-- **A rewrite establishes what its step establishes**: if the step gives a tree
with `Q` everywhere whenever the children of its input have `Q` everywhere, the
whole rewrite gives a tree with `Q` everywhere, because it rewrites the children
first. -/
theorem GraphPattern.everywhere_rewriteUp (hf : ∀ g, g.Below Q → GraphPattern.Everywhere Q (f g)) :
    ∀ p : GraphPattern, GraphPattern.Everywhere Q (p.rewriteUp f)
  | .bgp _ | .path .. | .values .. => hf _ trivial
  | .join l r | .union l r | .minus l r =>
    hf _ ⟨l.everywhere_rewriteUp hf, r.everywhere_rewriteUp hf⟩
  | .leftJoin l r e =>
    hf _ ⟨l.everywhere_rewriteUp hf, r.everywhere_rewriteUp hf, Expression.everywhereOption_rewriteOption hf e⟩
  | .filter e inner => hf _ ⟨e.everywhere_rewriteUp hf, inner.everywhere_rewriteUp hf⟩
  | .extend inner _ e => hf _ ⟨inner.everywhere_rewriteUp hf, e.everywhere_rewriteUp hf⟩
  | .orderBy inner keys =>
    hf _ ⟨inner.everywhere_rewriteUp hf, OrderKey.everywhereList_rewriteList hf keys⟩
  | .graph _ inner | .project inner _ | .distinct inner | .reduced inner | .slice inner _ _
  | .group inner _ _ | .service _ inner _ => hf _ (inner.everywhere_rewriteUp hf)

theorem Expression.everywhere_rewriteUp (hf : ∀ g, g.Below Q → GraphPattern.Everywhere Q (f g)) :
    ∀ e : Expression, Expression.Everywhere Q (e.rewriteUp f)
  | .exists p => p.everywhere_rewriteUp hf
  | .not a | .unaryPlus a | .unaryMinus a => a.everywhere_rewriteUp hf
  | .or a b | .and a b | .equal a b | .sameTerm a b | .greater a b | .greaterOrEqual a b
  | .less a b | .lessOrEqual a b | .add a b | .subtract a b | .multiply a b | .divide a b =>
    ⟨a.everywhere_rewriteUp hf, b.everywhere_rewriteUp hf⟩
  | .if a b c => ⟨a.everywhere_rewriteUp hf, b.everywhere_rewriteUp hf, c.everywhere_rewriteUp hf⟩
  | .in a l => ⟨a.everywhere_rewriteUp hf, Expression.everywhereList_rewriteList hf l⟩
  | .coalesce l | .call _ l => Expression.everywhereList_rewriteList hf l
  | .iri _ | .literal _ | .var _ | .bound _ => trivial

theorem Expression.everywhereList_rewriteList (hf : ∀ g, g.Below Q → GraphPattern.Everywhere Q (f g)) :
    ∀ l : List Expression, Expression.EverywhereList Q (Expression.rewriteList f l)
  | [] => trivial
  | e :: rest => ⟨e.everywhere_rewriteUp hf, Expression.everywhereList_rewriteList hf rest⟩

theorem Expression.everywhereOption_rewriteOption
    (hf : ∀ g, g.Below Q → GraphPattern.Everywhere Q (f g)) :
    ∀ o : Option Expression, Expression.EverywhereOption Q (Expression.rewriteOption f o)
  | none => trivial
  | some e => e.everywhere_rewriteUp hf

theorem OrderKey.everywhereList_rewriteList (hf : ∀ g, g.Below Q → GraphPattern.Everywhere Q (f g)) :
    ∀ keys : List OrderKey, OrderKey.EverywhereList Q (OrderKey.rewriteList f keys)
  | [] => trivial
  | .asc e :: rest => ⟨e.everywhere_rewriteUp hf, OrderKey.everywhereList_rewriteList hf rest⟩
  | .desc e :: rest => ⟨e.everywhere_rewriteUp hf, OrderKey.everywhereList_rewriteList hf rest⟩

end

end Established

/-! ## A rewrite with a state whose step always succeeds -/

section Succeeding

variable {σ ε : Type}

/-- A computation with a state and errors that succeeds from every state, with a
result satisfying `P`. -/
def SucceedsWith {α : Type} (x : StateT σ (Except ε) α) (P : α → Prop) : Prop :=
  ∀ s, ∃ a s', x.run s = .ok (a, s') ∧ P a

namespace SucceedsWith

variable {α β : Type} {P : α → Prop}

theorem pure {a : α} (h : P a) : SucceedsWith (Pure.pure a : StateT σ (Except ε) α) P :=
  fun s => ⟨a, s, rfl, h⟩

theorem bind {x : StateT σ (Except ε) α} {Q : β → Prop} {f : α → StateT σ (Except ε) β}
    (hx : SucceedsWith x P) (hf : ∀ a, P a → SucceedsWith (f a) Q) : SucceedsWith (x >>= f) Q := by
  intro s
  obtain ⟨a, s', hrun, ha⟩ := hx s
  obtain ⟨b, s'', hrun', hb⟩ := hf a ha s'
  refine ⟨b, s'', ?_, hb⟩
  rw [StateT.run_bind, hrun]
  exact hrun'

end SucceedsWith

variable {Q : GraphPattern → Prop} {f : GraphPattern → StateT σ (Except ε) GraphPattern}

mutual

/-- **A rewrite whose step always succeeds succeeds**, and establishes what its step
establishes: as `GraphPattern.everywhere_rewriteUp`, with a state threaded through
the steps. -/
theorem GraphPattern.succeedsWith_rewriteUp
    (hf : ∀ g, g.Below Q → SucceedsWith (f g) (GraphPattern.Everywhere Q)) :
    ∀ p : GraphPattern, SucceedsWith (p.rewriteUp f) (GraphPattern.Everywhere Q)
  | .bgp _ | .path .. | .values .. => hf _ trivial
  | .join l r | .union l r | .minus l r =>
    (l.succeedsWith_rewriteUp hf).bind fun _ hl =>
      (r.succeedsWith_rewriteUp hf).bind fun _ hr => hf _ ⟨hl, hr⟩
  | .leftJoin l r e =>
    (l.succeedsWith_rewriteUp hf).bind fun _ hl =>
      (r.succeedsWith_rewriteUp hf).bind fun _ hr =>
        (Expression.succeedsWith_rewriteOption hf e).bind fun _ he => hf _ ⟨hl, hr, he⟩
  | .filter e inner =>
    (e.succeedsWith_rewriteUp hf).bind fun _ he =>
      (inner.succeedsWith_rewriteUp hf).bind fun _ hi => hf _ ⟨he, hi⟩
  | .extend inner _ e =>
    (inner.succeedsWith_rewriteUp hf).bind fun _ hi =>
      (e.succeedsWith_rewriteUp hf).bind fun _ he => hf _ ⟨hi, he⟩
  | .orderBy inner keys =>
    (inner.succeedsWith_rewriteUp hf).bind fun _ hi =>
      (OrderKey.succeedsWith_rewriteList hf keys).bind fun _ hk => hf _ ⟨hi, hk⟩
  | .graph _ inner | .project inner _ | .distinct inner | .reduced inner | .slice inner _ _
  | .group inner _ _ | .service _ inner _ =>
    (inner.succeedsWith_rewriteUp hf).bind fun _ hi => hf _ hi

theorem Expression.succeedsWith_rewriteUp
    (hf : ∀ g, g.Below Q → SucceedsWith (f g) (GraphPattern.Everywhere Q)) :
    ∀ e : Expression, SucceedsWith (e.rewriteUp f) (Expression.Everywhere Q)
  | .exists p => (p.succeedsWith_rewriteUp hf).bind fun _ hp => .pure hp
  | .not a | .unaryPlus a | .unaryMinus a =>
    (a.succeedsWith_rewriteUp hf).bind fun _ ha => .pure ha
  | .or a b | .and a b | .equal a b | .sameTerm a b | .greater a b | .greaterOrEqual a b
  | .less a b | .lessOrEqual a b | .add a b | .subtract a b | .multiply a b | .divide a b =>
    (a.succeedsWith_rewriteUp hf).bind fun _ ha =>
      (b.succeedsWith_rewriteUp hf).bind fun _ hb => .pure ⟨ha, hb⟩
  | .if a b c =>
    (a.succeedsWith_rewriteUp hf).bind fun _ ha =>
      (b.succeedsWith_rewriteUp hf).bind fun _ hb =>
        (c.succeedsWith_rewriteUp hf).bind fun _ hc => .pure ⟨ha, hb, hc⟩
  | .in a l =>
    (a.succeedsWith_rewriteUp hf).bind fun _ ha =>
      (Expression.succeedsWith_rewriteList hf l).bind fun _ hl => .pure ⟨ha, hl⟩
  | .coalesce l | .call _ l => (Expression.succeedsWith_rewriteList hf l).bind fun _ hl => .pure hl
  | .iri _ | .literal _ | .var _ | .bound _ => .pure trivial

theorem Expression.succeedsWith_rewriteList
    (hf : ∀ g, g.Below Q → SucceedsWith (f g) (GraphPattern.Everywhere Q)) :
    ∀ l : List Expression, SucceedsWith (Expression.rewriteList f l) (Expression.EverywhereList Q)
  | [] => .pure trivial
  | e :: rest =>
    (e.succeedsWith_rewriteUp hf).bind fun _ he =>
      (Expression.succeedsWith_rewriteList hf rest).bind fun _ hr => .pure ⟨he, hr⟩

theorem Expression.succeedsWith_rewriteOption
    (hf : ∀ g, g.Below Q → SucceedsWith (f g) (GraphPattern.Everywhere Q)) :
    ∀ o : Option Expression, SucceedsWith (Expression.rewriteOption f o) (Expression.EverywhereOption Q)
  | none => .pure trivial
  | some e => (e.succeedsWith_rewriteUp hf).bind fun _ he => .pure he

theorem OrderKey.succeedsWith_rewriteList
    (hf : ∀ g, g.Below Q → SucceedsWith (f g) (GraphPattern.Everywhere Q)) :
    ∀ keys : List OrderKey, SucceedsWith (OrderKey.rewriteList f keys) (OrderKey.EverywhereList Q)
  | [] => .pure trivial
  | .asc e :: rest =>
    (e.succeedsWith_rewriteUp hf).bind fun _ he =>
      (OrderKey.succeedsWith_rewriteList hf rest).bind fun _ hr => .pure ⟨he, hr⟩
  | .desc e :: rest =>
    (e.succeedsWith_rewriteUp hf).bind fun _ he =>
      (OrderKey.succeedsWith_rewriteList hf rest).bind fun _ hr => .pure ⟨he, hr⟩

end

end Succeeding

end SparqlBag
