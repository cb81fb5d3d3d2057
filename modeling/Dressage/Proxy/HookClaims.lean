/-
Claimed idempotency keys and the dispatches that claimed them.

A key names its turn, step index and stage, up to the empty turn id, which is written like the
turn id `-`. The claim is kept whatever the hooks of its dispatch do.
-/

import Dressage.Lib.Runs
import Dressage.Proxy.ChatPipeline

namespace Dressage.Proxy

open Lib Lib.Effect OrderedDict

variable {Message Tool Call : Type} {config : ProxyConfig}

private theorem colon_not_mem_stage (stage : Stage) : ':' ∉ stage.text.toList := by
  cases stage with
  | before => decide
  | after => decide

private theorem toList_toString (index : Nat) :
    (toString index).toList = Nat.toDigits 10 index := by
  rw [Nat.toString_eq_repr, Nat.toList_repr]

private theorem colon_not_mem_toString (index : Nat) : ':' ∉ (toString index).toList := by
  rw [toList_toString]
  intro member
  exact absurd (Nat.isDigit_of_mem_toDigits (by decide) (by decide) member) (by decide)

private theorem toString_nat_inj {first second : Nat}
    (same : (toString first).toList = (toString second).toList) : first = second := by
  rw [toList_toString, toList_toString] at same
  rw [← Nat.ofDigitChars_ten_toDigits (n := first), same, Nat.ofDigitChars_ten_toDigits]

private theorem toList_idempotencyKey (sessionId : String) (turnId : Option String)
    (stepIndex : Nat) (stage : Stage) :
    (buildToolCallIdempotencyKey sessionId turnId stepIndex stage).toList =
      ((sessionId.toList ++ ':' :: (turnKey turnId).toList) ++
        ':' :: (toString stepIndex).toList) ++ ':' :: stage.text.toList := by
  have texts : ∀ text : String, toString text = text := fun _ => rfl
  have colon : (":" : String).toList = [':'] := by decide
  unfold buildToolCallIdempotencyKey
  simp [String.toList_append, texts, colon]

theorem buildToolCallIdempotencyKey_inj {sessionId : String} {turnId turnId' : Option String}
    {stepIndex stepIndex' : Nat} {stage stage' : Stage}
    (same : buildToolCallIdempotencyKey sessionId turnId stepIndex stage =
      buildToolCallIdempotencyKey sessionId turnId' stepIndex' stage') :
    turnKey turnId = turnKey turnId' ∧ stepIndex = stepIndex' ∧ stage = stage' := by
  have letters := congrArg String.toList same
  rw [toList_idempotencyKey, toList_idempotencyKey] at letters
  obtain ⟨letters, stages⟩ := Text.append_separator_inj (colon_not_mem_stage stage)
    (colon_not_mem_stage stage') letters
  obtain ⟨letters, indices⟩ := Text.append_separator_inj (colon_not_mem_toString stepIndex)
    (colon_not_mem_toString stepIndex') letters
  have turns := List.append_cancel_left letters
  rw [List.cons.injEq] at turns
  refine ⟨String.toList_inj.mp turns.2, toString_nat_inj indices, ?_⟩
  cases stage with
  | before =>
    cases stage' with
    | before => rfl
    | after => exact absurd stages (by decide)
  | after =>
    cases stage' with
    | before => exact absurd stages (by decide)
    | after => rfl

theorem buildToolCallIdempotencyKey_ne_empty (sessionId : String) (turnId : Option String)
    (stepIndex : Nat) (stage : Stage) :
    buildToolCallIdempotencyKey sessionId turnId stepIndex stage ≠ "" := by
  intro empty
  have letters := congrArg (fun text => text.toList.length) empty
  simp [toList_idempotencyKey] at letters

def ChainState.claimedKeys (state : ChainState) (sessionId : String) : List String :=
  (state.seenKeys.getD sessionId OrderedDict.empty).keys

private theorem pruneSessionKeys_keys (expired : ℚ → Bool) (scanned : Nat)
    (keys : OrderedDict String ℚ) :
    ∀ key ∈ (pruneSessionKeys expired scanned keys).2.keys, key ∈ keys.keys := by
  unfold pruneSessionKeys
  refine List.foldlRecOn (motive := fun progress : Nat × OrderedDict String ℚ =>
    ∀ key ∈ progress.2.keys, key ∈ keys.keys) _ _ (fun key member => member) ?_
  intro progress kept entry _listed key member
  split at member
  · exact kept key member
  · dsimp only at member
    split at member
    · exact kept key ((mem_keys_pop _ _ _).mp member).2
    · exact kept key member

private theorem pruneRound_keys (expired : ℚ → Bool)
    (seenKeys : OrderedDict String (OrderedDict String ℚ)) (sessionId : String) :
    ∀ key ∈ ((pruneRound expired seenKeys).getD sessionId OrderedDict.empty).keys,
      key ∈ (seenKeys.getD sessionId OrderedDict.empty).keys := by
  unfold pruneRound
  refine List.foldlRecOn
    (motive := fun progress : Nat × OrderedDict String (OrderedDict String ℚ) =>
      ∀ key ∈ (progress.2.getD sessionId OrderedDict.empty).keys,
        key ∈ (seenKeys.getD sessionId OrderedDict.empty).keys) _ _ (fun key member => member) ?_
  intro progress kept entry listed key member
  dsimp only at member
  split at member
  · exact kept key member
  · dsimp only at member
    unfold OrderedDict.getD at member kept ⊢
    split at member
    · by_cases same : sessionId = entry.1
      · rw [same, get?_pop_self] at member
        cases member
      · rw [get?_pop_of_ne _ same] at member
        exact kept key member
    · by_cases same : sessionId = entry.1
      · rw [same, get?_set_self, Option.getD_some] at member
        rw [same, get?_of_mem listed, Option.getD_some]
        exact pruneSessionKeys_keys _ _ _ key member
      · rw [get?_set_of_ne _ _ same] at member
        exact kept key member

variable (chain : ToolCallHookChain)

private theorem maybePrune_keys (now : ℚ) (state : ChainState) (sessionId : String) :
    ∀ key ∈ (chain.maybePrune now state).claimedKeys sessionId,
      key ∈ state.claimedKeys sessionId := by
  unfold ToolCallHookChain.maybePrune
  intro key member
  split at member
  · exact member
  · split at member
    · exact member
    · exact pruneRound_keys _ _ _ key member

theorem claimIdempotency_keys {context : ToolCallContext} {key : String}
    (hasKey : context.idempotencyKey = some key) (named : key ≠ "") (now : ℚ) (state : ChainState) :
    ((chain.claimIdempotency context now state).1 = false →
        key ∈ state.claimedKeys context.sessionId) ∧
      ∀ other ∈ (chain.claimIdempotency context now state).2.claimedKeys context.sessionId,
        other ∈ state.claimedKeys context.sessionId ∨
          (chain.claimIdempotency context now state).1 = true ∧ other = key := by
  have pruned := maybePrune_keys chain now state context.sessionId
  have afterDuplicate : ∀ other ∈ ({ chain.maybePrune now state with
      seenKeys := (chain.maybePrune now state).seenKeys.set context.sessionId
        ((chain.maybePrune now state).seenKeys.getD context.sessionId OrderedDict.empty) } :
      ChainState).claimedKeys context.sessionId, other ∈ state.claimedKeys context.sessionId := by
    intro other member
    apply pruned other
    unfold ChainState.claimedKeys OrderedDict.getD at member ⊢
    rw [get?_set_self, Option.getD_some] at member
    exact member
  have afterClaim : ∀ other ∈ ({ chain.maybePrune now state with
      seenKeys := (chain.maybePrune now state).seenKeys.set context.sessionId
        (((chain.maybePrune now state).seenKeys.getD context.sessionId OrderedDict.empty).set key
          now) } : ChainState).claimedKeys context.sessionId,
      other ∈ state.claimedKeys context.sessionId ∨ other = key := by
    intro other member
    unfold ChainState.claimedKeys OrderedDict.getD at member
    rw [get?_set_self, Option.getD_some, mem_keys_set] at member
    rcases member with same | old
    · exact .inr same
    · exact .inl (pruned other old)
  unfold ToolCallHookChain.claimIdempotency
  rw [hasKey]
  dsimp only
  rw [if_neg named]
  cases here : ((chain.maybePrune now state).seenKeys.getD context.sessionId
    OrderedDict.empty).get? key with
  | none =>
    refine ⟨nofun, fun other member => ?_⟩
    exact (afterClaim other member).imp_right (fun same => ⟨rfl, same⟩)
  | some claimedAt =>
    dsimp only
    by_cases standing : (!chain.expired claimedAt now) = true
    · rw [if_pos standing]
      refine ⟨fun _ => ?_, fun other member => .inl (afterDuplicate other member)⟩
      exact pruned key ((mem_keys_iff _ _).mpr ⟨claimedAt, here⟩)
    · rw [if_neg standing]
      refine ⟨nofun, fun other member => ?_⟩
      exact (afterClaim other member).imp_right (fun same => ⟨rfl, same⟩)

def Dispatch.key (sessionId : String) (dispatch : Dispatch) : String :=
  buildToolCallIdempotencyKey sessionId (some dispatch.turnId) dispatch.stepIndex dispatch.stage

def Completed (journal : Journal) (turnId : String) (stepIndex : Nat) : Prop :=
  ∃ dispatch ∈ journal.dispatches, dispatch.stage = .before ∧ dispatch.turnId = turnId ∧
    dispatch.stepIndex = stepIndex ∧ dispatch.requiredCompleted

instance (journal : Journal) (turnId : String) (stepIndex : Nat) :
    Decidable (Completed journal turnId stepIndex) :=
  inferInstanceAs (Decidable (∃ dispatch ∈ journal.dispatches, _))

def Gated (journal : Journal) : Prop :=
  ∀ response ∈ journal.toolCallResponses, Completed journal response.1 response.2

instance (journal : Journal) : Decidable (Gated journal) :=
  inferInstanceAs (Decidable (∀ response ∈ journal.toolCallResponses, _))

def ClaimsJournaled (state : ProxyState Message Tool) : Prop :=
  ∀ key ∈ state.chain.claimedKeys state.session.sessionId,
    ∃ dispatch ∈ state.journal.dispatches, dispatch.claimed = true ∧
      dispatch.key state.session.sessionId = key

structure Dispatched (before after : ProxyState Message Tool) (entry : Dispatch) : Prop where
  session : after.session = before.session
  dispatches : after.journal.dispatches = before.journal.dispatches ++ [entry]
  responses : after.journal.toolCallResponses = before.journal.toolCallResponses
  claims : ClaimsJournaled after

private theorem runStage_store (stage : Stage) (context : ToolCallContext)
    (answers : DispatchAnswers) (metadata : List HookFailure) (state : ChainState) :
    (chain.runStage stage context answers metadata state).2 =
      (chain.claimIdempotency context answers.now state).2 := by
  unfold ToolCallHookChain.runStage
  rcases chain.claimIdempotency context answers.now state with ⟨fresh, claimed⟩
  cases fresh with
  | false => rfl
  | true => rfl

private theorem runStage_completed {chain : ToolCallHookChain} {stage : Stage}
    {context : ToolCallContext} {answers : DispatchAnswers} {metadata extended : List HookFailure}
    {state : ChainState}
    (ran : (chain.runStage stage context answers metadata state).1 = .ok extended)
    (fresh : (chain.claimIdempotency context answers.now state).1 = true) :
    requiredHooksCompleted ((chain.stageHooks stage answers).map (fun entry =>
      (entry.1, answers.outcome entry.2))) = true := by
  unfold ToolCallHookChain.runStage at ran
  rcases claim : chain.claimIdempotency context answers.now state with ⟨first, claimed⟩
  rw [claim] at fresh ran
  cases fresh
  exact ToolCallHookChain.runHooks_ok ran

/-- The dispatch rule: the store and the journal stay in step, and a dispatch that returned
either completed its required hooks or met a key that an earlier dispatch had claimed. -/
theorem dispatchToolCallHooks_claims {chain : ToolCallHookChain}
    (configured : config.toolCallHookChain = some chain) {sandbox : String}
    (present : sandbox ≠ "") (stage : Stage) (instanceId turnId : String) (stepIndex : Nat)
    (answers : DispatchAnswers) (metadata : List HookFailure) {state : ProxyState Message Tool}
    (journaled : ClaimsJournaled state) :
    Ensures (dispatchToolCallHooks config stage (some sandbox) instanceId turnId stepIndex answers
        metadata) state
      (fun _ after => ∃ entry : Dispatch, Dispatched state after entry ∧ entry.stage = stage ∧
        entry.turnId = turnId ∧ entry.stepIndex = stepIndex ∧
        (entry.requiredCompleted ∨ ∃ earlier ∈ state.journal.dispatches, earlier.claimed = true ∧
          earlier.key state.session.sessionId = entry.key state.session.sessionId))
      (fun _ after => ∃ entry : Dispatch, Dispatched state after entry ∧ entry.stage = stage) := by
  let context := toolCallContext state.session sandbox instanceId turnId stepIndex stage
  let entry := dispatchEntry chain stage context turnId answers state.chain
  let after := journalDispatch entry
    { state with chain := (chain.runStage stage context answers metadata state.chain).2 }
  have hasKey : context.idempotencyKey = some (entry.key state.session.sessionId) := rfl
  obtain ⟨duplicate, added⟩ := claimIdempotency_keys chain hasKey
    (buildToolCallIdempotencyKey_ne_empty _ _ _ _) answers.now state.chain
  have dispatched : Dispatched state after entry :=
    { session := rfl
      dispatches := rfl
      responses := rfl
      claims := fun other member => by
        have held : other ∈ (chain.claimIdempotency context answers.now
            state.chain).2.claimedKeys state.session.sessionId := by
          rw [← runStage_store chain stage context answers metadata state.chain]
          exact member
        rcases added other held with old | ⟨fresh, same⟩
        · obtain ⟨earlier, listed, claimed, named⟩ := journaled other old
          exact ⟨earlier, List.mem_append_left _ listed, claimed, named⟩
        · exact ⟨entry, List.mem_append_right _ (List.mem_singleton_self _), fresh, same.symm⟩ }
  unfold Ensures
  cases ran : (chain.runStage stage context answers metadata state.chain).1 with
  | error failure =>
    have outcome : dispatchToolCallHooks config stage (some sandbox) instanceId turnId stepIndex
        answers metadata state =
        (.error (hookRefusal state.session stage instanceId failure), after) := by
      unfold dispatchToolCallHooks
      simp only [configured, if_neg present]
      rw [ran]
    rw [outcome]
    exact ⟨entry, dispatched, rfl⟩
  | ok extended =>
    have outcome : dispatchToolCallHooks config stage (some sandbox) instanceId turnId stepIndex
        answers metadata state = (.ok extended, after) := by
      unfold dispatchToolCallHooks
      simp only [configured, if_neg present]
      rw [ran]
    rw [outcome]
    refine ⟨entry, dispatched, rfl, rfl, rfl, ?_⟩
    cases fresh : (chain.claimIdempotency context answers.now state.chain).1 with
    | false => exact .inr (journaled _ (duplicate fresh))
    | true => exact .inl ⟨fresh, runStage_completed ran fresh⟩

end Dressage.Proxy
