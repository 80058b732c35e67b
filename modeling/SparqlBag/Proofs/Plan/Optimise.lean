import SparqlBag.Proofs.Algebra.Rewrite
import SparqlBag.Proofs.Plan.Reordering

/-!
# The optimiser reaches its normal form in one pass

`GraphPattern.optimise r` rewrites a tree bottom-up, reordering every basic graph
pattern by `r` and merging two joined directly, so a merge below is seen above.
Its output is in normal form (`PatternRanking.Optimised`) at every node it visits
(`GraphPattern.everywhere_optimised_optimise`): reordering forgets the input order
and no join has two basic graph patterns as children.  A tree in normal form is
kept, so a second run changes nothing
(`GraphPattern.optimise_idempotent_without_bgp_joins`).  The patterns of `EXISTS`
are visited; the aggregates of `GROUP` are not
(`GraphPattern.optimise_skips_aggregates`).
-/

namespace SparqlBag

namespace PatternRanking

variable (r : PatternRanking)

/-- A node in the optimiser's normal form: a basic graph pattern is in the order
its reordering gives, and a join does not have two basic graph patterns as
children. -/
def Optimised (g : GraphPattern) : Prop :=
  (∀ ps, g = .bgp ps → r.reorder ps = ps) ∧ ∀ l rs, g ≠ .join (.bgp l) (.bgp rs)

/-- **One step of the optimiser** reorders a basic graph pattern, merges and
reorders two basic graph patterns joined directly, and leaves every other node. -/
theorem mergeStep_cases (g : GraphPattern) :
    (∃ ps, g = .bgp ps ∧ r.mergeStep g = pure (.bgp (r.reorder ps))) ∨
      (∃ l rs, g = .join (.bgp l) (.bgp rs) ∧ r.mergeStep g = pure (.bgp (r.reorder (l ++ rs)))) ∨
      (r.mergeStep g = pure g ∧ (∀ ps, g ≠ .bgp ps) ∧ ∀ l rs, g ≠ .join (.bgp l) (.bgp rs)) := by
  unfold mergeStep
  split
  · exact .inl ⟨_, rfl, rfl⟩
  · exact .inr (.inl ⟨_, _, rfl, rfl⟩)
  · rename_i hbgp hjoin
    exact .inr (.inr ⟨rfl, hbgp, hjoin⟩)

/-- The step gives a node with `Q` everywhere once the children of its input have
it, for any `Q` that holds of reordered basic graph patterns and of the nodes that
the step leaves alone. -/
theorem everywhere_mergeStep {Q : GraphPattern → Prop} (hbgp : ∀ ps, Q (.bgp (r.reorder ps)))
    (hother : ∀ g, (∀ ps, g ≠ .bgp ps) → (∀ l rs, g ≠ .join (.bgp l) (.bgp rs)) → Q g)
    {g : GraphPattern} (h : g.Below Q) : GraphPattern.Everywhere Q (r.mergeStep g) := by
  rcases r.mergeStep_cases g with ⟨ps, -, hstep⟩ | ⟨l, rs, -, hstep⟩ | ⟨hstep, hg_bgp, hg_join⟩
  · rw [hstep]
    exact ⟨trivial, hbgp ps⟩
  · rw [hstep]
    exact ⟨trivial, hbgp (l ++ rs)⟩
  · rw [hstep]
    exact ⟨h, hother g hg_bgp hg_join⟩

/-- A reordered basic graph pattern is in normal form. -/
theorem optimised_bgp_reorder (ps : List TriplePattern) : r.Optimised (.bgp (r.reorder ps)) := by
  refine ⟨fun qs h => ?_, fun l rs h => GraphPattern.noConfusion h⟩
  cases h
  exact r.reorder_reorder ps

/-- A node that is neither a basic graph pattern nor a join of two is in normal form. -/
theorem optimised_of_ne (g : GraphPattern) (hbgp : ∀ ps, g ≠ .bgp ps)
    (hjoin : ∀ l rs, g ≠ .join (.bgp l) (.bgp rs)) : r.Optimised g :=
  ⟨fun ps h => absurd h (hbgp ps), hjoin⟩

/-- The step leaves a node in normal form as it is. -/
theorem mergeStep_of_optimised {g : GraphPattern} (h : r.Optimised g) : r.mergeStep g = pure g := by
  rcases r.mergeStep_cases g with ⟨ps, rfl, hstep⟩ | ⟨l, rs, rfl, -⟩ | ⟨hstep, -, -⟩
  · rw [hstep, h.1 ps rfl]
  · exact absurd rfl (h.2 l rs)
  · exact hstep

end PatternRanking

namespace GraphPattern

variable (r : PatternRanking)

/-- **The optimiser's output is in normal form** at every node it visits. -/
theorem everywhere_optimised_optimise (p : GraphPattern) : (p.optimise r).Everywhere r.Optimised :=
  everywhere_rewriteUp (fun _ => r.everywhere_mergeStep r.optimised_bgp_reorder r.optimised_of_ne) p

/-- **The optimiser leaves a tree in normal form as it is.** -/
theorem optimise_of_everywhere_optimised {p : GraphPattern} (h : p.Everywhere r.Optimised) :
    p.optimise r = p :=
  congrArg Id.run (rewriteUp_eq_pure (fun _ => r.mergeStep_of_optimised) p h)

/-- No join of two basic graph patterns is left at a node the optimiser visits. -/
theorem everywhere_not_bgp_join_optimise (p : GraphPattern) :
    (p.optimise r).Everywhere fun g => ∀ l rs, g ≠ .join (.bgp l) (.bgp rs) :=
  everywhere_rewriteUp
    (fun _ => r.everywhere_mergeStep (fun _ _ _ h => GraphPattern.noConfusion h) fun _ _ h => h) p

/-- **The optimiser is idempotent and merges every join of two basic graph
patterns**: optimising twice is optimising once, and the output holds no join of
two basic graph patterns at any node the optimiser visits (the patterns inside
`EXISTS` included, the aggregates of `GROUP`, which it leaves alone, apart). -/
theorem optimise_idempotent_without_bgp_joins (p : GraphPattern) :
    (p.optimise r).optimise r = p.optimise r ∧
      (p.optimise r).Everywhere fun g => ∀ l rs, g ≠ .join (.bgp l) (.bgp rs) :=
  ⟨optimise_of_everywhere_optimised r (everywhere_optimised_optimise r p),
    everywhere_not_bgp_join_optimise r p⟩

/-- **The aggregates of `GROUP` are not optimised**: under the ranking the default
options choose, a join of two basic graph patterns inside the `EXISTS` of a `COUNT`
stays a join. -/
theorem optimise_skips_aggregates :
    (GraphPattern.group (.bgp []) []
        [(⟨"a"⟩, .call .count (.exists (.join (.bgp [⟨.var ⟨"s"⟩, .var ⟨"p"⟩, .var ⟨"o"⟩⟩])
          (.bgp [⟨.term (.iri "http://ex/a"), .iri "http://ex/p", .var ⟨"x"⟩⟩]))) false)]).optimise
        (.structural .hiddenVariable) =
      .group (.bgp []) []
        [(⟨"a"⟩, .call .count (.exists (.join (.bgp [⟨.var ⟨"s"⟩, .var ⟨"p"⟩, .var ⟨"o"⟩⟩])
          (.bgp [⟨.term (.iri "http://ex/a"), .iri "http://ex/p", .var ⟨"x"⟩⟩]))) false)] := by
  rfl

end GraphPattern

end SparqlBag
