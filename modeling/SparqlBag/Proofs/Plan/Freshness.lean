import SparqlBag.Proofs.Plan.LoweredForm

/-!
# Fresh variables across lowered paths

`PropertyPath.transform` lowers a path with a counter that lives across paths, and
`GraphPattern.lowerPaths` threads one counter through every path of a query.  A
call numbers one fresh variable per sequence of its path from the counter on and
moves the counter past them (`PropertyPath.transform_spec`), so a run of calls
never hands out a variable twice (`PropertyPath.run_transform`): the patterns of
two calls share only variables of their own ends
(`PropertyPath.transform_fresh_variables`).
-/

namespace SparqlBag

namespace PathScope

/-- The `count` fresh variables numbered from `first` on. -/
def freshFrom (first count : Nat) : List Variable :=
  (List.range count).map fun k => variableName (first + k)

theorem mem_freshFrom {first count : Nat} {v : Variable} :
    v ∈ freshFrom first count ↔ FreshIn first (first + count) v := by
  simp only [freshFrom, List.mem_map, List.mem_range]
  constructor
  · rintro ⟨k, hk, rfl⟩
    exact ⟨first + k, by omega, by omega, rfl⟩
  · rintro ⟨k, h₁, h₂, rfl⟩
    exact ⟨k - first, by omega, by rw [Nat.add_sub_cancel' h₁]⟩

/-- The fresh variables numbered are different from each other. -/
theorem nodup_freshFrom (first count : Nat) : (freshFrom first count).Nodup :=
  List.nodup_range.map fun a b h => by
    have := variableName_injective h
    omega

end PathScope

namespace PropertyPath

open PathScope

/-- The variables of the two ends of a lowering call: its subject and object. -/
def endVars (call : TermPattern × PropertyPath × TermPattern) : List Variable :=
  termPatternVars call.1 ++ termPatternVars call.2.2

/-- **One call numbers one fresh variable for each sequence of its path.**  From the
counter `first`, lowering `P` between `s` and `o` succeeds and moves the counter past
the `P.joints` fresh variables `freshFrom first P.joints`; the lowered pattern
mentions exactly those and the variables of the two ends. -/
theorem transform_spec (s : TermPattern) (P : PropertyPath) (o : TermPattern) (first : Nat) :
    ∃ g, (P.transform s o).run first = .ok (g, first + P.joints) ∧
      ∀ v, v ∈ g.mentioned ↔
        v ∈ termPatternVars s ∨ v ∈ termPatternVars o ∨ v ∈ freshFrom first P.joints := by
  obtain ⟨g, hrun, -, hvars⟩ := P.lower_spec s o first
  exact ⟨g, hrun, fun v => by rw [hvars v, mem_freshFrom]⟩

/-- The counter after a run of calls, from `first`: past the sequences of every path. -/
theorem le_foldl_joints (calls : List (TermPattern × PropertyPath × TermPattern)) (first : Nat) :
    first ≤ calls.foldl (fun n c => n + c.2.1.joints) first := by
  induction calls generalizing first with
  | nil => exact le_rfl
  | cons c rest ih => exact (Nat.le_add_right _ _).trans (ih _)

/-- **A run of calls on one counter**: every call succeeds, the counter moves past
the sequences of every path, each pattern mentions only the variables of its own
ends and fresh variables numbered in the run, and the patterns of two different
calls share only variables of their own ends. -/
theorem run_transform (calls : List (TermPattern × PropertyPath × TermPattern)) (first : Nat) :
    ∃ gs, (calls.mapM fun (c : TermPattern × PropertyPath × TermPattern) =>
        c.2.1.transform c.1 c.2.2).run first = .ok (gs, calls.foldl (fun n c => n + c.2.1.joints) first) ∧
      gs.length = calls.length ∧
      (∀ b ∈ calls.zip gs, ∀ v ∈ b.2.mentioned,
        v ∈ endVars b.1 ∨ FreshIn first (calls.foldl (fun n c => n + c.2.1.joints) first) v) ∧
      (calls.zip gs).Pairwise fun a b => ∀ v ∈ a.2.mentioned, v ∈ b.2.mentioned →
        v ∈ endVars a.1 ∨ v ∈ endVars b.1 := by
  induction calls generalizing first with
  | nil => exact ⟨[], rfl, rfl, by simp, List.Pairwise.nil⟩
  | cons c rest ih =>
    obtain ⟨g, hrun, hvars⟩ := transform_spec c.1 c.2.1 c.2.2 first
    -- the rest of the run starts where this call left the counter
    obtain ⟨gs, hruns, hlen, hfresh, hpair⟩ := ih (first + c.2.1.joints)
    have hle := le_foldl_joints rest (first + c.2.1.joints)
    -- what this call mentions: its ends, or variables numbered before the rest of the run
    have hmine : ∀ v ∈ g.mentioned, v ∈ endVars c ∨ FreshIn first (first + c.2.1.joints) v := by
      intro v hv
      rcases (hvars v).1 hv with h | h | h
      · exact .inl (List.mem_append_left _ h)
      · exact .inl (List.mem_append_right _ h)
      · exact .inr (mem_freshFrom.1 h)
    refine ⟨g :: gs, ?_, by simp [hlen], ?_, ?_⟩
    · simp only [List.mapM_cons, StateT.run_bind, hrun, StateT.run_pure, List.foldl_cons]
      simp only [bind, Except.bind, hruns, pure, Except.pure]
    · simp only [List.zip_cons_cons, List.mem_cons, List.foldl_cons]
      rintro b (rfl | hb) v hv
      · exact (hmine v hv).imp_right fun h => h.mono le_rfl hle
      · exact (hfresh b hb v hv).imp_right fun h => h.mono (Nat.le_add_right _ _) le_rfl
    · rw [List.zip_cons_cons, List.pairwise_cons]
      refine ⟨fun b hb v hv hv' => ?_, hpair⟩
      -- a variable of both is an end of one of them: the two stretches of fresh
      -- variables follow each other
      rcases hmine v hv with h | h
      · exact .inl h
      · rcases hfresh b hb v hv' with h' | h'
        · exact .inr h'
        · exact absurd h' h.not_freshIn

/-- **Temporary variables are fresh.**  One call numbers exactly one fresh variable for
each sequence reached from the root of its path, all different, and its pattern
mentions those and the variables of its ends; over a run of calls on one counter,
as `GraphPattern.lowerPaths` makes, the patterns of two different calls share no
variable but those of their own ends. -/
theorem transform_fresh_variables :
    (∀ (s : TermPattern) (P : PropertyPath) (o : TermPattern) (first : Nat),
      (freshFrom first P.joints).Nodup ∧
        ∃ g, (P.transform s o).run first = .ok (g, first + P.joints) ∧
        ∀ v, v ∈ g.mentioned ↔
          v ∈ termPatternVars s ∨ v ∈ termPatternVars o ∨ v ∈ freshFrom first P.joints) ∧
    ∀ (calls : List (TermPattern × PropertyPath × TermPattern)) (first : Nat),
      ∃ gs, (calls.mapM fun (c : TermPattern × PropertyPath × TermPattern) =>
          c.2.1.transform c.1 c.2.2).run first = .ok (gs, calls.foldl (fun n c => n + c.2.1.joints) first) ∧
        gs.length = calls.length ∧
        (calls.zip gs).Pairwise fun a b => ∀ v ∈ a.2.mentioned, v ∈ b.2.mentioned →
          v ∈ endVars a.1 ∨ v ∈ endVars b.1 := by
  refine ⟨fun s P o first => ⟨nodup_freshFrom first P.joints, transform_spec s P o first⟩,
    fun calls first => ?_⟩
  obtain ⟨gs, hrun, hlen, -, hpair⟩ := run_transform calls first
  exact ⟨gs, hrun, hlen, hpair⟩

end PropertyPath

end SparqlBag
