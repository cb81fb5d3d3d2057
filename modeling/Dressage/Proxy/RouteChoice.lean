/-
Which step a request continues, said without an index and without caches.

The choice of the routing code is compared with a search over all recorded steps that renders
every snapshot anew. The two agree on a session whose index lists every step, as long as each
rendering cached under the hash of the request's tools is the one these tools give.
-/

import Dressage.Proxy.Routing

namespace Dressage.Proxy

open Lib Lib.Effect List

variable {Message Tool Call : Type}

section Search

/-- A template renders messages with tools; the flag is `add_generation_prompt`. -/
abbrev Rendering (Message Tool : Type) : Type :=
  List Message → Option (List Tool) → Bool → Except String String

variable (render : Rendering Message Tool) (session : Session Message Tool)
variable (tools : Option (List Tool))

def snapshotRendered (step : StepRecord Message Tool) : Except String String :=
  render step.normalizedMessagesSnapshot tools false

def renderedLength (step : StepRecord Message Tool) : Nat :=
  match snapshotRendered render tools step with
  | .ok rendered => rendered.length
  | .error _ => 0

def Qualifies (request : String) (step : StepRecord Message Tool) : Prop :=
  ∃ rendered, snapshotRendered render tools step = .ok rendered ∧ rendered.toList <+: request.toList

instance (request : String) (step : StepRecord Message Tool) :
    Decidable (Qualifies render tools request step) :=
  match shown : snapshotRendered render tools step with
  | .ok rendered =>
    decidable_of_iff (rendered.toList <+: request.toList) (by
      unfold Qualifies
      rw [shown]
      constructor
      · exact fun isPrefix => ⟨rendered, rfl, isPrefix⟩
      · rintro ⟨_, same, isPrefix⟩
        cases same
        exact isPrefix)
  | .error message => isFalse (by
    rintro ⟨_, same, _⟩
    rw [shown] at same
    cases same)

/-- A message-level prefix of the request, the latest of its lineage, under other tools. -/
def ContinuesUnderOtherTools [BEq Message] (changed : Option (List Tool) → Bool)
    (messages : List Message) (step : StepRecord Message Tool) : Prop :=
  step.normalizedMessagesSnapshot.length ≤ messages.length ∧
    (messages.take step.normalizedMessagesSnapshot.length == step.normalizedMessagesSnapshot) =
      true ∧
    session.isLatest step = true ∧ changed step.tools = true

/-- The longest of the accepted steps; among the longest, the latest step of a lineage goes
first, and then the most recent one. -/
structure Best (accepted : StepRecord Message Tool → Prop) (base : StepRecord Message Tool) :
    Prop where
  recorded : base ∈ session.steps
  accepts : accepted base
  longest : ∀ other ∈ session.steps, accepted other →
    renderedLength render tools other ≤ renderedLength render tools base
  latest : ∀ other ∈ session.steps, accepted other →
    renderedLength render tools other = renderedLength render tools base →
      session.isLatest other = true → session.isLatest base = true
  recent : ∀ other ∈ session.steps, accepted other →
    renderedLength render tools other = renderedLength render tools base →
      session.isLatest other = session.isLatest base → other.stepId ≤ base.stepId

/-- The route an exhaustive search over the recorded steps takes. Of the session it reads the
steps, the latest step of each lineage and the number of lineages opened so far. -/
inductive BruteForce [BEq Message] (changed : Option (List Tool) → Bool)
    (messages : List Message) (request : String) : Route → Prop
  | append (base : StepRecord Message Tool)
    (best : Best render session tools (Qualifies render tools request) base)
    (latest : session.isLatest base = true) :
    BruteForce changed messages request (appendRoute base)
  | branch (base : StepRecord Message Tool)
    (best : Best render session tools (Qualifies render tools request) base)
    (superseded : session.isLatest base = false)
    (unused : session.lineageCounter + 1 ∉ session.lineages.keys) :
    BruteForce changed messages request
      { lineageId := session.lineageCounter + 1
        type := .branch
        baseStepId := some base.stepId }
  | toolsChanged (base : StepRecord Message Tool)
    (unqualified : ∀ step ∈ session.steps, ¬ Qualifies render tools request step)
    (best : Best render session tools (ContinuesUnderOtherTools session changed messages) base) :
    BruteForce changed messages request (appendRoute base)
  | create (unqualified : ∀ step ∈ session.steps, ¬ Qualifies render tools request step)
    (unmatched : ∀ step ∈ session.steps, ¬ ContinuesUnderOtherTools session changed messages step)
    (unused : session.lineageCounter + 1 ∉ session.lineages.keys) :
    BruteForce changed messages request
      { lineageId := session.lineageCounter + 1
        type := .create
        baseStepId := none }

end Search

variable {session : Session Message Tool}

theorem BruteForce.create_unqualified [BEq Message] {render : Rendering Message Tool}
    {tools : Option (List Tool)} {changed : Option (List Tool) → Bool} {messages : List Message}
    {request : String} {route : Route}
    (taken : BruteForce render session tools changed messages request route)
    (created : route.type = .create) :
    ∀ step ∈ session.steps, ¬ Qualifies render tools request step := by
  cases taken with
  | append base best latest => cases created
  | branch base best superseded unused => cases created
  | toolsChanged base unqualified best => exact unqualified
  | create unqualified unmatched unused => exact unqualified

def Increasing (session : Session Message Tool) : Prop :=
  session.steps.Pairwise (fun first second => first.stepId < second.stepId)

section Unique

variable {render : Rendering Message Tool} {session : Session Message Tool}
variable {tools : Option (List Tool)}

section

variable (increasing : Increasing session)
include increasing

theorem Increasing.same {left right : StepRecord Message Tool} (inLeft : left ∈ session.steps)
    (inRight : right ∈ session.steps) (same : left.stepId = right.stepId) : left = right := by
  have distinct : (session.steps.map (·.stepId)).Nodup :=
    pairwise_map.mpr (increasing.imp Nat.ne_of_lt)
  exact inj_on_of_nodup_map distinct inLeft inRight same

theorem Best.unique {accepted : StepRecord Message Tool → Prop}
    {left right : StepRecord Message Tool} (bestLeft : Best render session tools accepted left)
    (bestRight : Best render session tools accepted right) : left = right := by
  have lengths : renderedLength render tools left = renderedLength render tools right :=
    Nat.le_antisymm (bestRight.longest left bestLeft.recorded bestLeft.accepts)
      (bestLeft.longest right bestRight.recorded bestRight.accepts)
  have latest : session.isLatest left = session.isLatest right := by
    rw [Bool.eq_iff_iff]
    constructor
    · exact bestRight.latest left bestLeft.recorded bestLeft.accepts lengths
    · exact bestLeft.latest right bestRight.recorded bestRight.accepts lengths.symm
  apply increasing.same bestLeft.recorded bestRight.recorded
  apply Nat.le_antisymm
  · exact bestRight.recent left bestLeft.recorded bestLeft.accepts lengths latest
  · exact bestLeft.recent right bestRight.recorded bestRight.accepts lengths.symm latest.symm

theorem BruteForce.unique [BEq Message] {changed : Option (List Tool) → Bool}
    {messages : List Message} {request : String} {left right : Route}
    (takesLeft : BruteForce render session tools changed messages request left)
    (takesRight : BruteForce render session tools changed messages request right) :
    left = right := by
  cases takesLeft with
  | append base best latest =>
    cases takesRight with
    | append other best' latest' => rw [best.unique increasing best']
    | branch other best' superseded unused =>
      rw [best.unique increasing best', superseded] at latest
      cases latest
    | toolsChanged other unqualified best' | create unqualified unmatched unused =>
      exact absurd best.accepts (unqualified base best.recorded)
  | branch base best superseded unused =>
    cases takesRight with
    | append other best' latest' =>
      rw [best.unique increasing best', latest'] at superseded
      cases superseded
    | branch other best' superseded' unused' => rw [best.unique increasing best']
    | toolsChanged other unqualified best' | create unqualified unmatched unused' =>
      exact absurd best.accepts (unqualified base best.recorded)
  | toolsChanged base unqualified best =>
    cases takesRight with
    | append other best' latest' | branch other best' superseded unused =>
      exact absurd best'.accepts (unqualified other best'.recorded)
    | toolsChanged other unqualified' best' => rw [best.unique increasing best']
    | create unqualified' unmatched unused =>
      exact absurd best.accepts (unmatched base best.recorded)
  | create unqualified unmatched unused =>
    cases takesRight with
    | append other best' latest' | branch other best' superseded unused' =>
      exact absurd best'.accepts (unqualified other best'.recorded)
    | toolsChanged other unqualified' best' =>
      exact absurd best'.accepts (unmatched other best'.recorded)
    | create unqualified' unmatched' unused' => rfl

end

end Unique

def Indexed (session : Session Message Tool) : Prop :=
  session.prefixTree.allStepIds = session.steps.map (·.stepId)

theorem SessionPrefixTree.mem_addUnseen {stepId : StepId} {seen stepIds : List StepId} :
    stepId ∈ addUnseen seen stepIds ↔ stepId ∈ seen ∨ stepId ∈ stepIds := by
  unfold addUnseen
  induction stepIds generalizing seen with
  | nil => simp
  | cons head rest ih =>
    rw [foldl_cons, ih, mem_cons]
    by_cases known : head ∈ seen
    · rw [if_pos known]
      constructor
      · exact Or.imp id .inr
      · rintro (inSeen | rfl | inRest)
        · exact .inl inSeen
        · exact .inl known
        · exact .inr inRest
    · rw [if_neg known, mem_append, mem_singleton, or_assoc]

theorem Indexed.mem_candidates (indexed : Indexed session) (fingerprint : List Message → String)
    (iterate : List StepId → List StepId) (messages : List Message) {step : StepRecord Message Tool}
    (recorded : step ∈ session.steps) :
    step.stepId ∈ session.prefixTree.candidates fingerprint iterate messages := by
  apply SessionPrefixTree.mem_addUnseen.mpr
  apply Or.inr
  rw [indexed]
  exact mem_map_of_mem recorded

section Caches

variable {format : ChatFormat Message Tool Call} {tools : Option (List Tool)} {hash : String}

def CacheFresh (format : ChatFormat Message Tool Call) (tools : Option (List Tool))
    (session : Session Message Tool) (step : StepRecord Message Tool) : Prop :=
  snapshotRendered format.renderMessages tools step =
      .ok (session.cachedSnapshot step.stepId).rendered ∧
    (session.cachedSnapshot step.stepId).renderedLen =
      (session.cachedSnapshot step.stepId).rendered.length

def CacheSound (format : ChatFormat Message Tool Call) (tools : Option (List Tool))
    (hash : String) (session : Session Message Tool) : Prop :=
  ∀ step ∈ session.steps, (session.cachedSnapshot step.stepId).toolsHash = hash →
    (session.cachedSnapshot step.stepId).rendered ≠ "" → CacheFresh format tools session step

instance (format : ChatFormat Message Tool Call) (tools : Option (List Tool)) (hash : String)
    (session : Session Message Tool) : Decidable (CacheSound format tools hash session) := by
  unfold CacheSound CacheFresh
  infer_instance

structure RenderedUpTo (format : ChatFormat Message Tool Call) (tools : Option (List Tool))
    (hash : String) (start : Session Message Tool) (done : List StepId)
    (session : Session Message Tool) : Prop where
  caches : CachesOnly start session
  sound : CacheSound format tools hash session
  fresh : ∀ step ∈ start.steps, step.stepId ∈ done → CacheFresh format tools session step

theorem cachedSnapshot_cacheSnapshot (session : Session Message Tool) (stepId other : StepId)
    (cache : SnapshotCache) :
    (session.cacheSnapshot stepId cache).cachedSnapshot other =
      if other = stepId then cache else session.cachedSnapshot other := by
  unfold Session.cachedSnapshot Session.cacheSnapshot OrderedDict.getD
  rw [OrderedDict.get?_set]
  split <;> rfl

def Unrendered (format : ChatFormat Message Tool Call) (tools : Option (List Tool))
    (session : Session Message Tool) : Prop :=
  ∃ step ∈ session.steps, ∃ message,
    snapshotRendered format.renderMessages tools step = .error message

variable {start session : Session Message Tool} {done : List StepId}

private theorem RenderedUpTo.cache {candidate : StepRecord Message Tool} {rendered : String}
    (progress : RenderedUpTo format tools hash start done session) (increasing : Increasing start)
    (recorded : candidate ∈ start.steps)
    (value : snapshotRendered format.renderMessages tools candidate = .ok rendered) :
    RenderedUpTo format tools hash start (done ++ [candidate.stepId])
      (session.cacheSnapshot candidate.stepId
        { rendered := rendered
          renderedLen := rendered.length
          toolsHash := hash }) := by
  have freshOf : ∀ step ∈ start.steps,
      (step.stepId ≠ candidate.stepId → CacheFresh format tools session step) →
        CacheFresh format tools (session.cacheSnapshot candidate.stepId
          { rendered := rendered
            renderedLen := rendered.length
            toolsHash := hash }) step := by
    intro step inSteps otherwise
    unfold CacheFresh at otherwise ⊢
    rw [cachedSnapshot_cacheSnapshot]
    by_cases same : step.stepId = candidate.stepId
    · rw [if_pos same, increasing.same inSteps recorded same]
      exact ⟨value, rfl⟩
    · rw [if_neg same]
      exact otherwise same
  refine
    { caches := progress.caches.trans ⟨_, rfl⟩
      sound := ?_
      fresh := ?_ }
  · intro step inSteps carries shown
    have inSession : step ∈ session.steps := inSteps
    have inStart : step ∈ start.steps := by
      rw [← progress.caches.steps]
      exact inSession
    apply freshOf step inStart
    intro different
    rw [cachedSnapshot_cacheSnapshot, if_neg different] at carries shown
    exact progress.sound step inSession carries shown
  · intro step inSteps inDone
    apply freshOf step inSteps
    intro different
    rcases mem_append.mp inDone with earlier | atCandidate
    · exact progress.fresh step inSteps earlier
    · exact absurd (mem_singleton.mp atCandidate) different

private theorem candidateSnapshotRendered_fresh {candidate : StepRecord Message Tool}
    (progress : RenderedUpTo format tools hash start done session) (increasing : Increasing start)
    (recorded : candidate ∈ start.steps) :
    Ensures (candidateSnapshotRendered format candidate tools hash) session
      (fun rendered after =>
        RenderedUpTo format tools hash start (done ++ [candidate.stepId]) after ∧
          snapshotRendered format.renderMessages tools candidate = .ok rendered)
      (fun _ _ => Unrendered format tools start) := by
  refine ensures_bind (ensures_get ?_)
  split
  · next reused =>
      have here : candidate ∈ session.steps := by
        rw [progress.caches.steps]
        exact recorded
      have fresh := progress.sound candidate here reused.1 reused.2
      refine ensures_pure ⟨?_, fresh.1⟩
      refine
        { progress with
          fresh := fun step inSteps inDone => ?_ }
      rcases mem_append.mp inDone with earlier | atCandidate
      · exact progress.fresh step inSteps earlier
      · rw [increasing.same inSteps recorded (mem_singleton.mp atCandidate)]
        exact fresh
  · refine ensures_bind (ensures_ofExcept (fun rendered value => ?_)
      (fun message failed => ⟨candidate, recorded, message, failed⟩))
    exact ensures_bind (ensures_modify (ensures_pure
      ⟨progress.cache increasing recorded value, value⟩))

private theorem validCandidates_qualify {request : String} (increasing : Increasing start)
    (stepIds : List StepId) (progress : RenderedUpTo format tools hash start done session) :
    Ensures (validCandidates format request tools hash stepIds) session
      (fun valid after => RenderedUpTo format tools hash start (done ++ stepIds) after ∧
        ∀ step, step ∈ valid ↔ step ∈ start.steps ∧ step.stepId ∈ stepIds ∧
          Qualifies format.renderMessages tools request step)
      (fun _ _ => Unrendered format tools start) := by
  induction stepIds generalizing done session with
  | nil =>
    refine ensures_pure ⟨?_, fun step => ?_⟩
    · rw [append_nil]
      exact progress
    · constructor
      · intro impossible
        cases impossible
      · rintro ⟨_, impossible, _⟩
        cases impossible
  | cons stepId rest ih =>
    rw [validCandidates]
    refine ensures_bind (ensures_get ?_)
    have again : done ++ stepId :: rest = done ++ [stepId] ++ rest := by
      rw [append_assoc, singleton_append]
    cases found : session.stepById stepId with
    | none =>
      -- The id belongs to no recorded step.
      have absent : ∀ step ∈ start.steps, step.stepId ≠ stepId := by
        intro step inSteps same
        rw [← progress.caches.steps] at inSteps
        have present := stepById_isSome inSteps
        rw [same, found] at present
        cases present
      have progress' : RenderedUpTo format tools hash start (done ++ [stepId]) session :=
        { progress with
          fresh := fun step inSteps inDone => by
            rcases mem_append.mp inDone with earlier | here
            · exact progress.fresh step inSteps earlier
            · exact absurd (mem_singleton.mp here) (absent step inSteps) }
      refine (ih progress').mono (fun valid after walked => ?_) (fun _ _ failed => failed)
      rw [again]
      refine ⟨walked.1, fun step => ?_⟩
      rw [walked.2]
      constructor
      · rintro ⟨inSteps, inRest, qualified⟩
        exact ⟨inSteps, mem_cons_of_mem stepId inRest, qualified⟩
      · rintro ⟨inSteps, inIds, qualified⟩
        exact ⟨inSteps, (mem_cons.mp inIds).resolve_left (absent step inSteps), qualified⟩
    | some candidate =>
      obtain ⟨inSession, isId⟩ := stepById_some found
      have recorded : candidate ∈ start.steps := by
        rw [← progress.caches.steps]
        exact inSession
      subst isId
      apply ensures_bind
      refine (candidateSnapshotRendered_fresh progress increasing recorded).mono
        (fun rendered middle shown => ?_) (fun _ _ failed => failed)
      apply ensures_bind
      refine (ih shown.1).mono (fun others after walked => ?_) (fun _ _ failed => failed)
      rw [again]
      refine ensures_pure ⟨walked.1, fun step => ?_⟩
      have qualifies : isRenderedPrefix rendered request = true ↔
          Qualifies format.renderMessages tools request candidate := by
        unfold isRenderedPrefix Qualifies
        rw [List.isPrefixOf_iff_prefix, shown.2]
        constructor
        · exact fun isPrefix => ⟨rendered, rfl, isPrefix⟩
        · rintro ⟨_, same, isPrefix⟩
          cases same
          exact isPrefix
      have atHead : ∀ other ∈ start.steps, other.stepId = candidate.stepId →
          other = candidate := fun other inSteps same =>
        increasing.same inSteps recorded same
      constructor
      · intro member
        split at member
        · next isPrefix =>
            rcases mem_cons.mp member with rfl | inOthers
            · exact ⟨recorded, mem_cons_self, qualifies.mp isPrefix⟩
            · obtain ⟨inSteps, inRest, qualified⟩ := (walked.2 step).mp inOthers
              exact ⟨inSteps, mem_cons_of_mem _ inRest, qualified⟩
        · obtain ⟨inSteps, inRest, qualified⟩ := (walked.2 step).mp member
          exact ⟨inSteps, mem_cons_of_mem _ inRest, qualified⟩
      · rintro ⟨inSteps, inIds, qualified⟩
        rcases mem_cons.mp inIds with same | inRest
        · obtain rfl := atHead step inSteps same
          rw [if_pos (qualifies.mpr qualified)]
          exact mem_cons_self
        · have inOthers := (walked.2 step).mpr ⟨inSteps, inRest, qualified⟩
          split
          · exact mem_cons_of_mem candidate inOthers
          · exact inOthers

end Caches

theorem SortKey.le_refl (key : SortKey) : key.le key := by
  unfold SortKey.le
  omega

instance : Std.Total SortKey.le := ⟨fun left right => by
  unfold SortKey.le
  omega⟩

instance : IsTrans SortKey SortKey.le := ⟨fun first second third lower upper => by
  unfold SortKey.le at *
  omega⟩

theorem sortCandidates_pairwise (session : Session Message Tool)
    (candidates : List (StepRecord Message Tool)) :
    (session.sortCandidates candidates).Pairwise (fun left right =>
      (session.sortKey left).le (session.sortKey right)) := by
  have total : Std.Total (fun left right : StepRecord Message Tool =>
      (session.sortKey left).le (session.sortKey right)) :=
    ⟨fun left right => Std.Total.total (session.sortKey left) (session.sortKey right)⟩
  have transitive : IsTrans (StepRecord Message Tool) (fun left right =>
      (session.sortKey left).le (session.sortKey right)) :=
    ⟨fun _ _ _ lower upper => IsTrans.trans _ _ _ lower upper⟩
  exact pairwise_insertionSort _ candidates

theorem mem_sortCandidates {candidates : List (StepRecord Message Tool)}
    {step : StepRecord Message Tool} :
    step ∈ session.sortCandidates candidates ↔ step ∈ candidates :=
  mem_insertionSort _

theorem find?_least {α : Type} {before : α → α → Prop} {accepts : α → Bool} {items : List α}
    {item : α} (reflexive : ∀ other, before other other) (sorted : items.Pairwise before)
    (found : items.find? accepts = some item) :
    ∀ other ∈ items, accepts other = true → before item other := by
  obtain ⟨_, earlier, later, rfl, rejected⟩ := find?_eq_some_iff_append.mp found
  intro other member accepted
  rcases mem_append.mp member with inEarlier | inLater
  · have refused := rejected other inEarlier
    rw [accepted] at refused
    cases refused
  · rcases mem_cons.mp inLater with rfl | after
    · exact reflexive other
    · exact (pairwise_cons.mp (pairwise_append.mp sorted).2.1).1 other after

private theorem Increasing.order (increasing : Increasing session)
    {left right : StepRecord Message Tool} (inLeft : left ∈ session.steps)
    (inRight : right ∈ session.steps)
    (behind : (session.sortKey left).negatedOrder ≤ (session.sortKey right).negatedOrder) :
    right.stepId ≤ left.stepId := by
  have position : ∀ step ∈ session.steps, ∃ (index : Nat) (inside : index < session.steps.length),
      session.steps[index].stepId = step.stepId ∧
        (session.sortKey step).negatedOrder = -(index : Int) := by
    intro step inSteps
    cases found : session.steps.findIdx? (fun other => other.stepId = step.stepId) with
    | none =>
      have absent := findIdx?_eq_none_iff.mp found step inSteps
      simp at absent
    | some index =>
      obtain ⟨inside, same, _⟩ := findIdx?_eq_some_iff_getElem.mp found
      refine ⟨index, inside, of_decide_eq_true same, ?_⟩
      simp only [Session.sortKey, found]
  obtain ⟨first, firstInside, firstIs, firstOrder⟩ := position left inLeft
  obtain ⟨second, secondInside, secondIs, secondOrder⟩ := position right inRight
  rw [firstOrder, secondOrder] at behind
  rcases Nat.lt_or_ge second first with earlier | notEarlier
  · have less := pairwise_iff_getElem.mp increasing second first secondInside firstInside
      earlier
    rw [firstIs, secondIs] at less
    exact Nat.le_of_lt less
  · have same : first = second := by omega
    subst same
    rw [← firstIs, ← secondIs]

section Least

variable {format : ChatFormat Message Tool Call} {tools : Option (List Tool)}

private theorem CacheFresh.length {session : Session Message Tool}
    {step : StepRecord Message Tool} (fresh : CacheFresh format tools session step) :
    (session.sortKey step).negatedLength =
      -(renderedLength format.renderMessages tools step : Int) := by
  unfold renderedLength
  rw [fresh.1]
  simp only [Session.sortKey, fresh.2, ite_self]

private theorem sortKey_notLatest (session : Session Message Tool)
    (step : StepRecord Message Tool) :
    (session.sortKey step).notLatest = if session.isLatest step then 0 else 1 := rfl

theorem best_of_least {session : Session Message Tool} (increasing : Increasing session)
    (fresh : ∀ step ∈ session.steps, CacheFresh format tools session step)
    {accepted : StepRecord Message Tool → Prop} {base : StepRecord Message Tool}
    (recorded : base ∈ session.steps) (accepts : accepted base)
    (least : ∀ other ∈ session.steps, accepted other →
      (session.sortKey base).le (session.sortKey other)) :
    Best format.renderMessages session tools accepted base := by
  have baseLength := (fresh base recorded).length
  have compared : ∀ other ∈ session.steps, accepted other →
      (session.sortKey base).le (session.sortKey other) ∧
        (session.sortKey other).negatedLength =
          -(renderedLength format.renderMessages tools other : Int) := fun other inSteps accept =>
    ⟨least other inSteps accept, (fresh other inSteps).length⟩
  refine
    { recorded := recorded
      accepts := accepts
      longest := fun other inSteps accept => ?_
      latest := fun other inSteps accept same latest => ?_
      recent := fun other inSteps accept same latest => ?_ }
  · obtain ⟨order, otherLength⟩ := compared other inSteps accept
    unfold SortKey.le at order
    omega
  · obtain ⟨order, otherLength⟩ := compared other inSteps accept
    unfold SortKey.le at order
    rw [sortKey_notLatest session other, if_pos latest] at order
    by_contra superseded
    rw [sortKey_notLatest session base, if_neg superseded] at order
    omega
  · obtain ⟨order, otherLength⟩ := compared other inSteps accept
    unfold SortKey.le at order
    rw [sortKey_notLatest session other, sortKey_notLatest session base, latest] at order
    apply increasing.order recorded inSteps
    omega

end Least

structure Renders (render : Rendering Message Tool) (session : Session Message Tool)
    (messages : List Message) (tools : Option (List Tool)) (request : String) : Prop where
  request : render messages tools true = .ok request
  snapshots : ∀ step ∈ session.steps, ∃ rendered, snapshotRendered render tools step = .ok rendered

/-- A returned route is the one route of the search; an exception is one of the template. -/
def RoutedByBruteForce [BEq Message] (render : Rendering Message Tool)
    (session : Session Message Tool) (changed : Option (List Tool) → Bool)
    (messages : List Message) (tools : Option (List Tool)) : Except String Route → Prop
  | .ok route => ∃ request, Renders render session messages tools request ∧
    BruteForce render session tools changed messages request route ∧
    ∀ other, BruteForce render session tools changed messages request other → other = route
  | .error _ => ¬ ∃ request, Renders render session messages tools request

def SameOutcome : Except String Route → Except String Route → Prop
  | .ok left, .ok right => left = right
  | .error _, .error _ => True
  | _, _ => False

section CachesUnread

variable {start middle : Session Message Tool}

section

variable (only : CachesOnly start middle)
include only

theorem CachesOnly.symm : CachesOnly middle start := by
  obtain ⟨_, rfl⟩ := only
  exact ⟨start.snapshotCaches, rfl⟩

theorem isLatest_of_caches (step : StepRecord Message Tool) :
    middle.isLatest step = start.isLatest step := by
  obtain ⟨_, rfl⟩ := only
  rfl

theorem Best.of_caches {render : Rendering Message Tool} {tools : Option (List Tool)}
    {accepted : StepRecord Message Tool → Prop} {base : StepRecord Message Tool}
    (best : Best render start tools accepted base) : Best render middle tools accepted base := by
  obtain ⟨_, rfl⟩ := only
  exact
    { recorded := best.recorded
      accepts := best.accepts
      longest := best.longest
      latest := best.latest
      recent := best.recent }

end

end CachesUnread

section Outcomes

variable [BEq Message] {render : Rendering Message Tool} {start : Session Message Tool}
variable {changed : Option (List Tool) → Bool} {messages : List Message}
variable {tools : Option (List Tool)} {outcome : Except String Route}

theorem RoutedByBruteForce.same {other : Except String Route}
    (routed : RoutedByBruteForce render start changed messages tools outcome)
    (routed' : RoutedByBruteForce render start changed messages tools other) :
    SameOutcome outcome other := by
  cases outcome with
  | ok left =>
    obtain ⟨request, renders, _, only⟩ := routed
    cases other with
    | ok right =>
      obtain ⟨request', renders', taken', _⟩ := routed'
      have same : request' = request :=
        Except.ok.inj (renders'.request.symm.trans renders.request)
      subst same
      exact (only right taken').symm
    | error message => exact absurd ⟨request, renders⟩ routed'
  | error message =>
    cases other with
    | ok right =>
      obtain ⟨request, renders, _⟩ := routed'
      exact absurd ⟨request, renders⟩ routed
    | error message' => trivial

theorem BruteForce.of_caches {middle : Session Message Tool} (only : CachesOnly start middle)
    {request : String} {route : Route}
    (taken : BruteForce render start tools changed messages request route) :
    BruteForce render middle tools changed messages request route := by
  have latest : ∀ step, middle.isLatest step = start.isLatest step := isLatest_of_caches only
  have counter : middle.lineageCounter = start.lineageCounter := by
    obtain ⟨_, rfl⟩ := only
    rfl
  have keys : middle.lineages.keys = start.lineages.keys := by
    obtain ⟨_, rfl⟩ := only
    rfl
  have continues : ContinuesUnderOtherTools middle changed messages =
      ContinuesUnderOtherTools start changed messages := by
    obtain ⟨_, rfl⟩ := only
    rfl
  cases taken with
  | append base best isLatest =>
    exact BruteForce.append base (Best.of_caches only best) ((latest base).trans isLatest)
  | branch base best superseded unused =>
    rw [← counter]
    refine BruteForce.branch base (Best.of_caches only best) ((latest base).trans superseded) ?_
    rw [counter, keys]
    exact unused
  | toolsChanged base unqualified best =>
    rw [← only.steps] at unqualified
    refine BruteForce.toolsChanged base unqualified ?_
    rw [continues]
    exact Best.of_caches only best
  | create unqualified unmatched unused =>
    rw [← only.steps] at unqualified unmatched
    rw [← counter]
    refine BruteForce.create unqualified ?_ ?_
    · rw [continues]
      exact unmatched
    · rw [counter, keys]
      exact unused

theorem RoutedByBruteForce.of_caches {middle : Session Message Tool}
    (only : CachesOnly start middle)
    (routed : RoutedByBruteForce render start changed messages tools outcome) :
    RoutedByBruteForce render middle changed messages tools outcome := by
  have renders : ∀ {request}, Renders render start messages tools request ↔
      Renders render middle messages tools request := by
    intro request
    obtain ⟨_, rfl⟩ := only
    constructor
    · exact fun both =>
        { request := both.request
          snapshots := both.snapshots }
    · exact fun both =>
        { request := both.request
          snapshots := both.snapshots }
  cases outcome with
  | ok route =>
    obtain ⟨request, rendered, taken, unique⟩ := routed
    refine ⟨request, renders.mp rendered, taken.of_caches only, fun other found => ?_⟩
    exact unique other (found.of_caches only.symm)
  | error message =>
    rintro ⟨request, rendered⟩
    exact routed ⟨request, renders.mpr rendered⟩

end Outcomes

section Choice

variable {format : ChatFormat Message Tool Call} {tools : Option (List Tool)}

private theorem opened_of_caches {start middle : Session Message Tool}
    (only : CachesOnly start middle) (branchFrom : Option StepId) :
    (middle.createLineage branchFrom).1.id = start.lineageCounter + 1 := by
  obtain ⟨_, rfl⟩ := only
  rfl

variable [BEq Message]

private theorem mem_normalizedCandidates {session : Session Message Tool}
    {messages : List Message} {step : StepRecord Message Tool} :
    step ∈ normalizedCandidates session messages ↔ step ∈ session.steps ∧
      step.normalizedMessagesSnapshot.length ≤ messages.length ∧
        (messages.take step.normalizedMessagesSnapshot.length ==
          step.normalizedMessagesSnapshot) = true := by
  unfold normalizedCandidates
  rw [mem_sortCandidates, mem_filter, Bool.and_eq_true, decide_eq_true_iff]

/-- Without a qualifying step, the best of the steps that continue under other tools is
appended to, or a lineage is created. -/
private theorem routeWithoutCandidates_bruteForce {noneEqualsEmpty : Bool} {request : String}
    {messages : List Message} {start middle : Session Message Tool}
    (only : CachesOnly start middle) (increasing : Increasing start)
    (unused : start.lineageCounter + 1 ∉ start.lineages.keys)
    (fresh : ∀ step ∈ start.steps, CacheFresh format tools middle step)
    (unqualified : ∀ step ∈ start.steps, ¬ Qualifies format.renderMessages tools request step) :
    Ensures (routeWithoutCandidates format noneEqualsEmpty messages tools) middle
      (fun route _ => BruteForce format.renderMessages start tools
        (toolsChanged format noneEqualsEmpty · tools) messages request route)
      (fun _ _ => False) := by
  have continues : ∀ step, step ∈ normalizedCandidates middle messages ∧
      (middle.isLatest step && toolsChanged format noneEqualsEmpty step.tools tools) = true ↔
        step ∈ start.steps ∧ ContinuesUnderOtherTools start
          (toolsChanged format noneEqualsEmpty · tools) messages step := by
    intro step
    rw [mem_normalizedCandidates, only.steps, isLatest_of_caches only, Bool.and_eq_true]
    unfold ContinuesUnderOtherTools
    tauto
  have increasing' : Increasing middle := by
    unfold Increasing
    rw [only.steps]
    exact increasing
  refine ensures_bind (ensures_get ?_)
  cases found : (normalizedCandidates middle messages).find? (fun step =>
    middle.isLatest step && toolsChanged format noneEqualsEmpty step.tools tools) with
  | none =>
    refine ensures_bind (ensures_get (ensures_bind (ensures_modify (ensures_pure ?_))))
    rw [opened_of_caches only]
    refine BruteForce.create unqualified (fun step inSteps matched => ?_) unused
    obtain ⟨listed, accepted⟩ := (continues step).mpr ⟨inSteps, matched⟩
    exact find?_eq_none.mp found step listed accepted
  | some base =>
    have least := find?_least (fun other => (middle.sortKey other).le_refl)
      (sortCandidates_pairwise middle _) found
    obtain ⟨recorded, accepted⟩ := (continues base).mp
      ⟨mem_of_find?_eq_some found, find?_some (p := fun step =>
        middle.isLatest step && toolsChanged format noneEqualsEmpty step.tools tools) found⟩
    rw [← only.steps] at recorded fresh
    refine ensures_pure (BruteForce.toolsChanged base unqualified (Best.of_caches only.symm ?_))
    apply best_of_least increasing' fresh recorded accepted
    intro other inSteps matched
    rw [only.steps] at inSteps
    obtain ⟨listed, accepts⟩ := (continues other).mpr ⟨inSteps, matched⟩
    exact least other listed accepts

private theorem selectRoute_ensures_bruteForce (noneEqualsEmpty : Bool) (messages : List Message)
    {hash : String} {session : Session Message Tool} (indexed : Indexed session)
    (increasing : Increasing session)
    (unused : session.lineageCounter + 1 ∉ session.lineages.keys)
    (sound : CacheSound format tools hash session) :
    Ensures (selectRoute format noneEqualsEmpty messages tools hash) session
      (fun route _ => ∃ request, Renders format.renderMessages session messages tools request ∧
        BruteForce format.renderMessages session tools
          (toolsChanged format noneEqualsEmpty · tools) messages request route)
      (fun _ _ => ¬ ∃ request, Renders format.renderMessages session messages tools request) := by
  refine ensures_bind (ensures_ofExcept (fun request rendered => ?_) (fun message failed => ?_))
  · refine ensures_bind (ensures_get (ensures_bind ?_))
    have start : RenderedUpTo format tools hash session [] session :=
      { caches := CachesOnly.refl session
        sound := sound
        fresh := fun step inSteps impossible => by cases impossible }
    refine (validCandidates_qualify increasing _ start).mono (fun valid middle walked => ?_)
      (fun message after failed => ?_)
    · obtain ⟨progress, qualify⟩ := walked
      have fresh : ∀ step ∈ session.steps, CacheFresh format tools middle step := by
        intro step inSteps
        apply progress.fresh step inSteps
        rw [nil_append]
        exact indexed.mem_candidates (fingerprint format) format.iterate messages inSteps
      have isValid : ∀ step, step ∈ valid ↔
          step ∈ session.steps ∧ Qualifies format.renderMessages tools request step := by
        intro step
        rw [qualify]
        constructor
        · exact fun both => ⟨both.1, both.2.2⟩
        · exact fun both => ⟨both.1,
            indexed.mem_candidates (fingerprint format) format.iterate messages both.1, both.2⟩
      have renders : Renders format.renderMessages session messages tools request :=
        { request := rendered
          snapshots := fun step inSteps => ⟨_, (fresh step inSteps).1⟩ }
      refine ensures_bind (ensures_get ?_)
      cases ranked : middle.sortCandidates valid with
      | nil =>
        have unqualified : ∀ step ∈ session.steps,
            ¬ Qualifies format.renderMessages tools request step := by
          intro step inSteps qualified
          have listed : step ∈ middle.sortCandidates valid :=
            mem_sortCandidates.mpr ((isValid step).mpr ⟨inSteps, qualified⟩)
          rw [ranked] at listed
          cases listed
        exact (routeWithoutCandidates_bruteForce progress.caches increasing unused fresh
          unqualified).mono (fun route after taken => ⟨request, renders, taken⟩)
          (fun _ _ impossible => impossible.elim)
      | cons selected others =>
        have sorted := sortCandidates_pairwise middle valid
        rw [ranked] at sorted
        have listed : selected ∈ middle.sortCandidates valid := by
          rw [ranked]
          exact mem_cons_self
        obtain ⟨recorded, qualified⟩ := (isValid selected).mp (mem_sortCandidates.mp listed)
        have best : Best format.renderMessages session tools
            (Qualifies format.renderMessages tools request) selected := by
          apply Best.of_caches progress.caches.symm
          rw [← progress.caches.steps] at recorded fresh
          have increasing' : Increasing middle := by
            unfold Increasing
            rw [progress.caches.steps]
            exact increasing
          apply best_of_least increasing' fresh recorded qualified
          intro other inSteps accepted
          rw [progress.caches.steps] at inSteps
          have inRanked : other ∈ selected :: others := by
            rw [← ranked]
            exact mem_sortCandidates.mpr ((isValid other).mpr ⟨inSteps, accepted⟩)
          rcases mem_cons.mp inRanked with rfl | later
          · exact (middle.sortKey other).le_refl
          · exact (pairwise_cons.mp sorted).1 other later
        dsimp only
        split
        · next latest =>
            rw [isLatest_of_caches progress.caches] at latest
            exact ensures_pure ⟨request, renders, BruteForce.append selected best latest⟩
        · next superseded =>
            rw [isLatest_of_caches progress.caches] at superseded
            refine ensures_bind (ensures_get (ensures_bind (ensures_modify (ensures_pure
              ⟨request, renders, ?_⟩))))
            rw [opened_of_caches progress.caches]
            exact BruteForce.branch selected best (by simpa using superseded) unused
    · rintro ⟨_, renders⟩
      obtain ⟨step, inSteps, text, unrendered⟩ := failed
      obtain ⟨_, shown⟩ := renders.snapshots step inSteps
      rw [unrendered] at shown
      cases shown
  · rintro ⟨_, renders⟩
    have shown := renders.request
    rw [failed] at shown
    cases shown

theorem selectRoute_bruteForce (noneEqualsEmpty : Bool) (messages : List Message)
    {hash : String} {session : Session Message Tool} (indexed : Indexed session)
    (increasing : Increasing session)
    (unused : session.lineageCounter + 1 ∉ session.lineages.keys)
    (sound : CacheSound format tools hash session) :
    RoutedByBruteForce format.renderMessages session
      (toolsChanged format noneEqualsEmpty · tools) messages tools
      (selectRoute format noneEqualsEmpty messages tools hash session).1 := by
  have outcome := selectRoute_ensures_bruteForce noneEqualsEmpty messages indexed increasing
    unused sound
  unfold Ensures at outcome
  revert outcome
  rcases selectRoute format noneEqualsEmpty messages tools hash session with ⟨result, after⟩
  cases result with
  | ok route =>
    rintro ⟨request, renders, taken⟩
    exact ⟨request, renders, taken, fun other found => found.unique increasing taken⟩
  | error message => exact id

end Choice

end Dressage.Proxy
