/-
Greedy placement and the order of its inputs.

Every pass over engines and edges finds what it looks for by its url, and urls identify edges,
so the order is lost. Engines are not checked for duplicates: of two baselines with one url the
later one counts.
-/

import Dressage.Rebalancing.MigrationStability

namespace Dressage.Rebalancing

open Lib List

def OneBaseline (engines : List EngineBaseline) : Prop :=
  ∀ first ∈ engines, ∀ second ∈ engines, first.url = second.url → first = second

def SameDecision (left right : GreedyStepDecision) : Prop :=
  (∀ url, left.candidateProjectedScores.get? url = right.candidateProjectedScores.get? url) ∧
    right = { left with candidateProjectedScores := right.candidateProjectedScores }

inductive SameOutcome :
    Except GreedyError GreedyStepDecision → Except GreedyError GreedyStepDecision → Prop where
  | raised (error : GreedyError) : SameOutcome (.error error) (.error error)
  | decided {left right : GreedyStepDecision} (same : SameDecision left right) :
    SameOutcome (.ok left) (.ok right)

section Permuted

variable {stableEngineRank : String → String → Nat} {sessionId : String} {kind : GreedyStepKind}
variable {ownerEngineUrl : Option String} {engines otherEngines : List EngineBaseline}
variable {edges otherEdges : List FeasibleEdge} {ratio : ℚ}

theorem mem_of_baselinesByUrl {url : String} {engine : EngineBaseline}
    (found : (baselinesByUrl engines).get? url = some engine) :
    engine ∈ engines ∧ engine.url = url := by
  have general : ∀ (rest : List EngineBaseline) (dict : OrderedDict String EngineBaseline),
      (rest.foldl (fun dict engine => dict.set engine.url engine) dict).get? url = some engine →
        engine ∈ rest ∧ engine.url = url ∨ dict.get? url = some engine := by
    intro rest
    induction rest with
    | nil => exact fun dict found => .inr found
    | cons first rest ih =>
      intro dict found
      rcases ih (dict.set first.url first) found with ⟨later, same⟩ | before
      · exact .inl ⟨mem_cons_of_mem _ later, same⟩
      · rw [OrderedDict.get?_set] at before
        split at before
        next same =>
          cases before
          exact .inl ⟨mem_cons_self, same.symm⟩
        next => exact .inr before
  rcases general engines OrderedDict.empty found with inEngines | impossible
  · exact inEngines
  · cases impossible

theorem baselines_perm (consistent : OneBaseline engines)
    (sameEngines : engines.Perm otherEngines) (url : String) :
    (baselinesByUrl engines).get? url = (baselinesByUrl otherEngines).get? url := by
  cases found : (baselinesByUrl engines).get? url with
  | none =>
    cases elsewhere : (baselinesByUrl otherEngines).get? url with
    | none => rfl
    | some engine =>
      obtain ⟨member, atUrl⟩ := mem_of_baselinesByUrl elsewhere
      have key := (mem_keys_baselinesByUrl engines url).mpr
        ⟨engine, sameEngines.mem_iff.mpr member, atUrl⟩
      obtain ⟨value, isValue⟩ := (OrderedDict.mem_keys_iff _ url).mp key
      rw [found] at isValue
      cases isValue
  | some engine =>
    obtain ⟨member, atUrl⟩ := mem_of_baselinesByUrl found
    obtain ⟨other, elsewhere⟩ := (OrderedDict.mem_keys_iff _ url).mp
      ((mem_keys_baselinesByUrl otherEngines url).mpr
        ⟨engine, sameEngines.mem_iff.mp member, atUrl⟩)
    obtain ⟨otherMember, otherUrl⟩ := mem_of_baselinesByUrl elsewhere
    rw [elsewhere, consistent engine member other (sameEngines.mem_iff.mpr otherMember)
      (atUrl.trans otherUrl.symm)]

variable {baselines otherBaselines : OrderedDict String EngineBaseline}

theorem edgeScore_congr (same : ∀ url, baselines.get? url = otherBaselines.get? url) :
    edgeScore baselines = edgeScore otherBaselines := by
  funext edge
  rw [edgeScore, edgeScore, same]

section Scores

variable (same : ∀ url, baselines.get? url = otherBaselines.get? url)
variable (sameEdges : edges.Perm otherEdges) (distinct : (edges.map FeasibleEdge.engineUrl).Nodup)

include same sameEdges distinct

theorem scoreAt_perm {edge : FeasibleEdge} (member : edge ∈ edges) :
    scoreAt (scoresByUrl otherBaselines otherEdges) edge.engineUrl =
      scoreAt (scoresByUrl baselines edges) edge.engineUrl := by
  rw [scoreAt_edge baselines distinct member, edgeScore_congr same]
  exact scoreAt_edge otherBaselines ((sameEdges.map _).nodup_iff.mp distinct)
    (sameEdges.mem_iff.mp member)

theorem scores_perm (url : String) :
    (scoresByUrl baselines edges).get? url = (scoresByUrl otherBaselines otherEdges).get? url := by
  by_cases known : ∃ edge ∈ edges, edge.engineUrl = url
  · obtain ⟨edge, member, rfl⟩ := known
    have here := OrderedDict.get?_foldl_set FeasibleEdge.engineUrl (edgeScore baselines) edges
      OrderedDict.empty distinct member
    have there := OrderedDict.get?_foldl_set FeasibleEdge.engineUrl (edgeScore otherBaselines)
      otherEdges OrderedDict.empty ((sameEdges.map _).nodup_iff.mp distinct)
      (sameEdges.mem_iff.mp member)
    rw [scoresByUrl, scoresByUrl, here, there, edgeScore_congr same]
  · have unknown : ∀ (dict : OrderedDict String EngineBaseline) (listed : List FeasibleEdge),
        edges.Perm listed → (scoresByUrl dict listed).get? url = none := by
      intro dict listed perm
      rw [Option.eq_none_iff_forall_ne_some]
      intro score found
      have key := (OrderedDict.mem_keys_iff _ url).mpr ⟨score, found⟩
      obtain ⟨edge, member, atUrl⟩ := (mem_keys_scoresByUrl dict listed url).mp key
      exact known ⟨edge, perm.mem_iff.mpr member, atUrl⟩
    rw [unknown _ _ (List.Perm.refl edges), unknown _ _ sameEdges]

theorem minimumScore_perm :
    minimumScore (scoresByUrl otherBaselines otherEdges) =
      minimumScore (scoresByUrl baselines edges) := by
  rcases eq_nil_or_concat edges with rfl | ⟨rest, last, rfl⟩
  · rw [nil_perm.mp sameEdges]
    rfl
  · have nonempty : rest.concat last ≠ [] := by simp
    obtain ⟨edge, member, least⟩ := exists_minimum_edge baselines nonempty
    obtain ⟨other, otherMember, otherLeast⟩ := exists_minimum_edge otherBaselines
      (fun none => nonempty (perm_nil.mp (none ▸ sameEdges)))
    have below := minimumScore_le otherBaselines (sameEdges.mem_iff.mp member)
    have above := minimumScore_le baselines (sameEdges.mem_iff.mpr otherMember)
    rw [scoreAt_perm same sameEdges distinct member, least] at below
    rw [← scoreAt_perm same sameEdges distinct (sameEdges.mem_iff.mpr otherMember),
      otherLeast] at above
    exact le_antisymm below above

theorem tiedEdges_perm :
    (tiedEdges (scoresByUrl baselines edges) edges).Perm
      (tiedEdges (scoresByUrl otherBaselines otherEdges) otherEdges) := by
  have sameTies : tiedEdges (scoresByUrl baselines edges) edges =
      tiedEdges (scoresByUrl otherBaselines otherEdges) edges := by
    apply filter_congr
    intro edge member
    rw [scoreAt_perm same sameEdges distinct member, minimumScore_perm same sameEdges distinct]
  rw [sameTies]
  exact sameEdges.filter _

end Scores

theorem ownerEdge_perm (sameEdges : edges.Perm otherEdges)
    (distinct : (edges.map FeasibleEdge.engineUrl).Nodup) :
    ownerEdge ownerEngineUrl edges = ownerEdge ownerEngineUrl otherEdges := by
  cases owned : ownerEdge ownerEngineUrl edges with
  | none =>
    rw [eq_comm, ownerEdge_eq_none]
    intro edge member
    exact ownerEdge_eq_none.mp owned edge (sameEdges.mem_iff.mpr member)
  | some edge =>
    obtain ⟨member, isOwner⟩ := ownerEdge_mem owned
    cases elsewhere : ownerEdge ownerEngineUrl otherEdges with
    | none =>
      exact absurd isOwner.symm (ownerEdge_eq_none.mp elsewhere edge (sameEdges.mem_iff.mp member))
    | some other =>
      obtain ⟨otherMember, isOther⟩ := ownerEdge_mem elsewhere
      rw [isOwner, Option.some_inj] at isOther
      rw [inj_on_of_nodup_map distinct member (sameEdges.mem_iff.mpr otherMember) isOther]

theorem bestEdge_perm {tied otherTied : List FeasibleEdge} (sameTied : tied.Perm otherTied)
    (distinct : (tied.map FeasibleEdge.engineUrl).Nodup) :
    bestEdge stableEngineRank sessionId ownerEngineUrl tied =
      bestEdge stableEngineRank sessionId ownerEngineUrl otherTied := by
  unfold bestEdge
  rw [ownerEdge_perm sameTied distinct]
  split
  · rfl
  · cases least : tied.argmin (fun edge => stableKey stableEngineRank sessionId edge.engineUrl) with
    | none =>
      rw [argmin_eq_none] at least
      rw [least] at sameTied
      rw [nil_perm.mp sameTied]
      rfl
    | some best =>
      have member := argmin_mem least
      cases otherLeast : otherTied.argmin
        (fun edge => stableKey stableEngineRank sessionId edge.engineUrl) with
      | none =>
        rw [argmin_eq_none.mp otherLeast, perm_nil] at sameTied
        rw [sameTied] at member
        cases member
      | some other =>
        have otherMember := sameTied.mem_iff.mpr (argmin_mem otherLeast)
        -- Each key is at most the other, and the url is part of the key.
        have below := le_of_mem_argmin otherMember least
        have above := le_of_mem_argmin (sameTied.mem_iff.mp member) otherLeast
        have sameKey := congrArg (fun key => (ofLex key).2) (le_antisymm below above)
        rw [inj_on_of_nodup_map distinct member otherMember sameKey]

theorem rejection_perm (sameEngines : engines.Perm otherEngines)
    (sameEdges : edges.Perm otherEdges) :
    rejection sessionId kind ownerEngineUrl engines edges ratio =
      rejection sessionId kind ownerEngineUrl otherEngines otherEdges ratio := by
  have empty : edges = [] ↔ otherEdges = [] :=
    ⟨fun none => nil_perm.mp (none ▸ sameEdges), fun none => perm_nil.mp (none ▸ sameEdges)⟩
  simp only [rejection, ne_eq, ownerEdge_eq_none, mem_keys_baselinesByUrl, sameEngines.mem_iff,
    sameEdges.mem_iff, (sameEdges.map FeasibleEdge.engineUrl).nodup_iff, empty]

theorem decideStep_sameOutcome {scores otherScores : OrderedDict String ℚ}
    (same : ∀ url, scores.get? url = otherScores.get? url) (best : FeasibleEdge)
    (owner : Option FeasibleEdge) :
    SameOutcome (decideStep kind ownerEngineUrl scores ratio best owner)
      (decideStep kind ownerEngineUrl otherScores ratio best owner) := by
  have sameScore : scoreAt otherScores = scoreAt scores := by
    funext url
    rw [scoreAt, scoreAt, OrderedDict.getD, OrderedDict.getD, same]
  unfold decideStep
  simp only [sameScore]
  cases kind with
  | newSession => exact .decided ⟨same, rfl⟩
  | mandatoryFailover => exact .decided ⟨same, rfl⟩
  | fixedOwner | existingSession =>
    cases owner with
    | none => exact .raised _
    | some edge => exact .decided ⟨same, rfl⟩

theorem distinct_of_accepted
    (accepted : rejection sessionId kind ownerEngineUrl engines edges ratio = none) :
    (edges.map FeasibleEdge.engineUrl).Nodup := by
  by_contra duplicate
  unfold rejection at accepted
  rw [if_pos duplicate] at accepted
  split at accepted
  · cases accepted
  split at accepted
  · cases accepted
  · cases accepted

/-- Placement does not depend on the order of engines and edges, and a new session or a
failover goes to an engine within tolerance of the least pressure. -/
theorem placement_order_free (consistent : OneBaseline engines)
    (sameEngines : engines.Perm otherEngines) (sameEdges : edges.Perm otherEdges) :
    SameOutcome
      (chooseGreedyStep stableEngineRank sessionId kind ownerEngineUrl engines edges ratio)
      (chooseGreedyStep stableEngineRank sessionId kind ownerEngineUrl otherEngines otherEdges
        ratio) ∧
    ∀ decision, chooseGreedyStep stableEngineRank sessionId kind ownerEngineUrl engines edges
        ratio = .ok decision → (kind = .newSession ∨ kind = .mandatoryFailover) →
      ∃ selected ∈ edges, selected.engineUrl = decision.selectedTarget ∧
        ∀ edge ∈ edges, edgeScore (baselinesByUrl engines) selected ≤
          edgeScore (baselinesByUrl engines) edge + scoreTolerance := by
  have same := baselines_perm consistent sameEngines
  unfold chooseGreedyStep
  rw [← rejection_perm sameEngines sameEdges]
  cases rejected : rejection sessionId kind ownerEngineUrl engines edges ratio with
  | some error =>
    refine ⟨.raised error, ?_⟩
    intro decision chosen
    cases chosen
  | none =>
    have distinct := distinct_of_accepted rejected
    have ties := tiedEdges_perm same sameEdges distinct
    have tiesDistinct : ((tiedEdges (scoresByUrl (baselinesByUrl engines) edges) edges).map
        FeasibleEdge.engineUrl).Nodup :=
      distinct.sublist (filter_sublist.map _)
    simp only [← bestEdge_perm ties tiesDistinct, ← ownerEdge_perm sameEdges distinct]
    cases isBest : bestEdge stableEngineRank sessionId ownerEngineUrl
      (tiedEdges (scoresByUrl (baselinesByUrl engines) edges) edges) with
    | none =>
      refine ⟨.raised .noEngine, ?_⟩
      intro decision chosen
      cases chosen
    | some best =>
      refine ⟨decideStep_sameOutcome (scores_perm same sameEdges distinct) best _, ?_⟩
      intro decision chosen unowned
      obtain ⟨member, tied⟩ : best ∈ edges ∧
          scoreAt (scoresByUrl (baselinesByUrl engines) edges) best.engineUrl ≤
            minimumScore (scoresByUrl (baselinesByUrl engines) edges) + scoreTolerance := by
        have nonempty : tiedEdges (scoresByUrl (baselinesByUrl engines) edges) edges ≠ [] := by
          intro none
          rw [none] at isBest
          cases isBest
        obtain ⟨found, inTied, isFound⟩ :=
          exists_bestEdge stableEngineRank sessionId ownerEngineUrl nonempty
        rw [isBest, Option.some_inj] at isFound
        rw [isFound]
        simpa [tiedEdges] using inTied
      refine ⟨best, member, ?_, ?_⟩
      · rcases unowned with rfl | rfl <;> cases chosen <;> rfl
      · intro edge inEdges
        have least := minimumScore_le (baselinesByUrl engines) inEdges
        rw [scoreAt_edge _ distinct member] at tied
        rw [scoreAt_edge _ distinct inEdges] at least
        linarith

end Permuted

theorem oneBaseline_of_nodup {engines : List EngineBaseline}
    (distinct : (engines.map EngineBaseline.url).Nodup) : OneBaseline engines :=
  fun _ first _ second => inj_on_of_nodup_map distinct first second

theorem three_engines_in_any_order :
    SameOutcome
      (chooseGreedyStep NearTie.rank "session" .newSession none NearTie.engines NearTie.edges 0)
      (chooseGreedyStep NearTie.rank "session" .newSession none NearTie.engines.reverse
        NearTie.edges.reverse 0) :=
  (placement_order_free (oneBaseline_of_nodup (by decide)) (reverse_perm _).symm
    (reverse_perm _).symm).1

theorem later_baseline_counts :
    ¬ ∀ (stableEngineRank : String → String → Nat) (sessionId : String) (kind : GreedyStepKind)
        (ownerEngineUrl : Option String) (engines otherEngines : List EngineBaseline)
        (edges otherEdges : List FeasibleEdge) (ratio : ℚ),
      engines.Perm otherEngines → edges.Perm otherEdges →
        SameOutcome
          (chooseGreedyStep stableEngineRank sessionId kind ownerEngineUrl engines edges ratio)
          (chooseGreedyStep stableEngineRank sessionId kind ownerEngineUrl otherEngines otherEdges
            ratio) := by
  intro claimed
  have agree : ∀ left right, SameOutcome left right →
      left.toOption.map GreedyStepDecision.selectedProjectedScore =
        right.toOption.map GreedyStepDecision.selectedProjectedScore := by
    intro left right outcome
    cases outcome with
    | raised error => rfl
    | decided same => exact congrArg some (congrArg GreedyStepDecision.selectedProjectedScore
      same.2).symm
  have scored := agree _ _ (claimed NearTie.rank "session" .newSession none
    [NearTie.engine "a" 0 (le_refl _), NearTie.engine "a" 1 (by norm_num)]
    [NearTie.engine "a" 1 (by norm_num), NearTie.engine "a" 0 (le_refl _)]
    [NearTie.edge "a" 0 (le_refl _)] _ 0 (List.Perm.swap _ _ _) (List.Perm.refl _))
  revert scored
  decide +kernel

end Dressage.Rebalancing
