/-
Choosing the lineage a request continues.

A request is routed by rendered text: the recorded steps whose snapshot,
rendered with the request's tools, is a prefix of the rendered request are its
candidates, and the longest one wins. A candidate that is the latest of its
lineage is appended to; any other one is branched from. Rendering fills the
snapshot caches and may raise.
-/

import Mathlib.Data.List.Sort
import Dressage.Lib.Effects
import Dressage.Proxy.TitoTokenizer

namespace Dressage.Proxy

open Lib

variable {Message Tool Call : Type} (format : ChatFormat Message Tool Call)

def canonicalizeTools (noneEqualsEmpty : Bool) (tools : Option (List Tool)) : Option String :=
  match tools with
  | none => if noneEqualsEmpty then some (format.canonicalTools []) else none
  | some listed => some (format.canonicalTools listed)

def toolsChanged (noneEqualsEmpty : Bool) (previous current : Option (List Tool)) : Bool :=
  decide (canonicalizeTools format noneEqualsEmpty previous ≠
    canonicalizeTools format noneEqualsEmpty current)

def toolsHash (noneEqualsEmpty : Bool) (tools : Option (List Tool)) : String :=
  format.sha256 ((canonicalizeTools format noneEqualsEmpty tools).getD "null")

def fingerprint (messages : List Message) : String :=
  format.sha256 (format.canonicalMessages messages)

def Session.cacheSnapshot (session : Session Message Tool) (stepId : StepId)
    (cache : SnapshotCache) : Session Message Tool :=
  { session with snapshotCaches := session.snapshotCaches.set stepId cache }

def Session.cachedSnapshot (session : Session Message Tool) (stepId : StepId) : SnapshotCache :=
  session.snapshotCaches.getD stepId
    { rendered := ""
      renderedLen := 0
      toolsHash := "" }

def renderAndCache (step : StepRecord Message Tool) (tools : Option (List Tool)) (hash : String) :
    Effect (Session Message Tool) String String := do
  let rendered ← Effect.ofExcept (format.renderMessages step.normalizedMessagesSnapshot tools false)
  Effect.modify (fun session => session.cacheSnapshot step.stepId
    { rendered := rendered
      renderedLen := rendered.length
      toolsHash := hash })
  pure rendered

def candidateSnapshotRendered (step : StepRecord Message Tool) (tools : Option (List Tool))
    (hash : String) : Effect (Session Message Tool) String String := do
  let session ← Effect.get
  if (session.cachedSnapshot step.stepId).toolsHash = hash ∧
      (session.cachedSnapshot step.stepId).rendered ≠ "" then
    pure (session.cachedSnapshot step.stepId).rendered
  else renderAndCache format step tools hash

def isRenderedPrefix (snapshot request : String) : Bool :=
  snapshot.toList.isPrefixOf request.toList

def validCandidates (request : String) (tools : Option (List Tool)) (hash : String) :
    List StepId → Effect (Session Message Tool) String (List (StepRecord Message Tool))
  | [] => pure []
  | stepId :: rest => do
    let session ← Effect.get
    match session.stepById stepId with
    | none => validCandidates request tools hash rest
    | some candidate => do
      let snapshot ← candidateSnapshotRendered format candidate tools hash
      let others ← validCandidates request tools hash rest
      pure (if isRenderedPrefix snapshot request then candidate :: others else others)

structure SortKey where
  negatedLength : Int
  notLatest : Nat
  negatedOrder : Int
  lineageIndex : Nat
deriving DecidableEq

def SortKey.le (left right : SortKey) : Prop :=
  left.negatedLength < right.negatedLength ∨ left.negatedLength = right.negatedLength ∧
    (left.notLatest < right.notLatest ∨ left.notLatest = right.notLatest ∧
      (left.negatedOrder < right.negatedOrder ∨ left.negatedOrder = right.negatedOrder ∧
        left.lineageIndex ≤ right.lineageIndex))

instance : DecidableRel SortKey.le := fun left right => by
  unfold SortKey.le
  infer_instance

def Session.isLatest (session : Session Message Tool) (step : StepRecord Message Tool) : Bool :=
  match session.lineages.get? step.lineageId with
  | none => false
  | some lineage => decide (lineage.latestStepId = some step.stepId)

def Session.sortKey (session : Session Message Tool) (step : StepRecord Message Tool) : SortKey :=
  let cache := session.cachedSnapshot step.stepId
  { negatedLength :=
      -((if cache.renderedLen = 0 then cache.rendered.length else cache.renderedLen : Nat) : Int)
    notLatest := if session.isLatest step then 0 else 1
    negatedOrder :=
      match session.steps.findIdx? (fun other => other.stepId = step.stepId) with
      | none => 1
      | some order => -(order : Int)
    lineageIndex :=
      match session.lineages.get? step.lineageId with
      | none => step.lineageIndex
      | some lineage => lineage.index }

def Session.sortCandidates (session : Session Message Tool)
    (candidates : List (StepRecord Message Tool)) : List (StepRecord Message Tool) :=
  candidates.insertionSort (fun left right => (session.sortKey left).le (session.sortKey right))

def createRoute : Effect (Session Message Tool) String Route := do
  let session ← Effect.get
  Effect.modify (fun current => (current.createLineage none).2)
  pure
    { lineageId := (session.createLineage none).1.id
      type := .create
      baseStepId := none }

def branchRoute (stepId : StepId) : Effect (Session Message Tool) String Route := do
  let session ← Effect.get
  Effect.modify (fun current => (current.createLineage (some stepId)).2)
  pure
    { lineageId := (session.createLineage (some stepId)).1.id
      type := .branch
      baseStepId := some stepId }

def appendRoute (step : StepRecord Message Tool) : Route :=
  { lineageId := step.lineageId
    type := .append
    baseStepId := some step.stepId }

def normalizedCandidates [BEq Message] (session : Session Message Tool)
    (messages : List Message) : List (StepRecord Message Tool) :=
  session.sortCandidates (session.steps.filter (fun step =>
    decide (step.normalizedMessagesSnapshot.length ≤ messages.length) &&
      (messages.take step.normalizedMessagesSnapshot.length == step.normalizedMessagesSnapshot)))

/-- Without a rendered candidate, a lineage whose tools changed is still appended to. -/
def routeWithoutCandidates [BEq Message] (noneEqualsEmpty : Bool) (messages : List Message)
    (tools : Option (List Tool)) : Effect (Session Message Tool) String Route := do
  let session ← Effect.get
  match (normalizedCandidates session messages).find? (fun step =>
    session.isLatest step && toolsChanged format noneEqualsEmpty step.tools tools) with
  | some candidate => pure (appendRoute candidate)
  | none => createRoute

def selectRoute [BEq Message] (noneEqualsEmpty : Bool) (messages : List Message)
    (tools : Option (List Tool)) (hash : String) : Effect (Session Message Tool) String Route := do
  let request ← Effect.ofExcept (format.renderMessages messages tools true)
  let before ← Effect.get
  let valid ← validCandidates format request tools hash
    (before.prefixTree.candidates (fingerprint format) format.iterate messages)
  let session ← Effect.get
  match session.sortCandidates valid with
  | [] => routeWithoutCandidates format noneEqualsEmpty messages tools
  | selected :: _ =>
    if session.isLatest selected then pure (appendRoute selected)
    else branchRoute selected.stepId

def CachesOnly (before after : Session Message Tool) : Prop :=
  ∃ caches, after = { before with snapshotCaches := caches }

theorem CachesOnly.refl (session : Session Message Tool) : CachesOnly session session :=
  ⟨session.snapshotCaches, rfl⟩

theorem CachesOnly.trans {first second third : Session Message Tool}
    (left : CachesOnly first second) (right : CachesOnly second third) :
    CachesOnly first third := by
  obtain ⟨_, rfl⟩ := left
  obtain ⟨caches, rfl⟩ := right
  exact ⟨caches, rfl⟩

theorem CachesOnly.steps {before after : Session Message Tool} (only : CachesOnly before after) :
    after.steps = before.steps := by
  obtain ⟨_, rfl⟩ := only
  rfl

theorem stepById_some {session : Session Message Tool} {stepId : StepId}
    {step : StepRecord Message Tool} (found : session.stepById stepId = some step) :
    step ∈ session.steps ∧ step.stepId = stepId := by
  refine ⟨List.mem_of_find?_eq_some found, ?_⟩
  simpa using List.find?_some found

theorem stepById_isSome {session : Session Message Tool} {step : StepRecord Message Tool}
    (member : step ∈ session.steps) : (session.stepById step.stepId).isSome := by
  unfold Session.stepById
  rw [List.find?_isSome]
  exact ⟨step, member, by simp⟩

/-- A route together with what taking it did to the session: an append continues the lineage
of a recorded step, the other two open a lineage of their own. -/
inductive RouteTaken (before after : Session Message Tool) : Route → Prop
  | append (step : StepRecord Message Tool) (recorded : step ∈ before.steps)
    (unchanged : CachesOnly before after) : RouteTaken before after (appendRoute step)
  | branch (step : StepRecord Message Tool) (recorded : step ∈ before.steps)
    (middle : Session Message Tool) (unchanged : CachesOnly before middle)
    (opened : after = (middle.createLineage (some step.stepId)).2) :
    RouteTaken before after
      { lineageId := (middle.createLineage (some step.stepId)).1.id
        type := .branch
        baseStepId := some step.stepId }
  | create (middle : Session Message Tool) (unchanged : CachesOnly before middle)
    (opened : after = (middle.createLineage none).2) :
    RouteTaken before after
      { lineageId := (middle.createLineage none).1.id
        type := .create
        baseStepId := none }

variable {format}

open Effect

private theorem candidateSnapshotRendered_ensures (step : StepRecord Message Tool)
    (tools : Option (List Tool)) (hash : String) (session : Session Message Tool) :
    Ensures (candidateSnapshotRendered format step tools hash) session
      (fun _ after => CachesOnly session after) (fun _ after => CachesOnly session after) := by
  refine ensures_bind (ensures_get ?_)
  split
  · exact CachesOnly.refl session
  · refine ensures_bind (ensures_ofExcept (fun rendered _ => ?_)
      (fun _ _ => CachesOnly.refl session))
    exact ensures_bind (ensures_modify (ensures_pure ⟨_, rfl⟩))

private theorem validCandidates_ensures (request : String) (tools : Option (List Tool))
    (hash : String) (stepIds : List StepId) (session : Session Message Tool) :
    Ensures (validCandidates format request tools hash stepIds) session
      (fun valid after => CachesOnly session after ∧ ∀ step ∈ valid, step ∈ session.steps)
      (fun _ after => CachesOnly session after) := by
  induction stepIds generalizing session with
  | nil => exact ⟨CachesOnly.refl session, fun step member => by cases member⟩
  | cons stepId rest ih =>
    rw [validCandidates]
    refine ensures_bind (ensures_get ?_)
    cases found : session.stepById stepId with
    | none => exact ih session
    | some candidate =>
      apply ensures_bind
      refine (candidateSnapshotRendered_ensures candidate tools hash session).mono
        (fun snapshot middle only => ?_) (fun _ _ only => only)
      apply ensures_bind
      refine (ih middle).mono (fun others final kept => ?_) (fun _ _ last => only.trans last)
      refine ensures_pure ⟨only.trans kept.1, fun step member => ?_⟩
      have fromOthers : ∀ other ∈ others, other ∈ session.steps := by
        intro other inOthers
        rw [← only.steps]
        exact kept.2 other inOthers
      split at member
      · rcases List.mem_cons.mp member with rfl | inOthers
        · exact (stepById_some found).1
        · exact fromOthers step inOthers
      · exact fromOthers step member

private theorem createRoute_ensures (before middle : Session Message Tool)
    (unchanged : CachesOnly before middle) :
    Ensures createRoute middle (fun route after => RouteTaken before after route)
      (fun _ after => CachesOnly before after) := by
  refine ensures_bind (ensures_get (ensures_bind (ensures_modify (ensures_pure ?_))))
  exact RouteTaken.create middle unchanged rfl

private theorem routeWithoutCandidates_ensures [BEq Message] (noneEqualsEmpty : Bool)
    (messages : List Message) (tools : Option (List Tool)) (before middle : Session Message Tool)
    (unchanged : CachesOnly before middle) :
    Ensures (routeWithoutCandidates format noneEqualsEmpty messages tools) middle
      (fun route after => RouteTaken before after route)
      (fun _ after => CachesOnly before after) := by
  refine ensures_bind (ensures_get ?_)
  cases found : (normalizedCandidates middle messages).find? (fun step =>
    middle.isLatest step && toolsChanged format noneEqualsEmpty step.tools tools) with
  | none => exact createRoute_ensures before middle unchanged
  | some candidate =>
    have sorted := List.mem_of_find?_eq_some found
    have recorded : candidate ∈ middle.steps :=
      List.mem_of_mem_filter ((List.mem_insertionSort _).mp sorted)
    rw [unchanged.steps] at recorded
    exact RouteTaken.append candidate recorded unchanged

theorem selectRoute_ensures [BEq Message] (noneEqualsEmpty : Bool) (messages : List Message)
    (tools : Option (List Tool)) (hash : String) (session : Session Message Tool) :
    Ensures (selectRoute format noneEqualsEmpty messages tools hash) session
      (fun route after => RouteTaken session after route)
      (fun _ after => CachesOnly session after) := by
  refine ensures_bind (ensures_ofExcept (fun request _ => ?_) (fun _ _ => CachesOnly.refl session))
  refine ensures_bind (ensures_get (ensures_bind ?_))
  refine (validCandidates_ensures request tools hash _ session).mono
    (fun valid middle kept => ?_) (fun _ _ only => only)
  refine ensures_bind (ensures_get ?_)
  cases ranked : middle.sortCandidates valid with
  | nil => exact routeWithoutCandidates_ensures noneEqualsEmpty messages tools session middle kept.1
  | cons selected others =>
    have recorded : selected ∈ session.steps := by
      refine kept.2 selected ((List.mem_insertionSort
        (fun left right => (middle.sortKey left).le (middle.sortKey right))).mp ?_)
      change selected ∈ middle.sortCandidates valid
      rw [ranked]
      exact List.mem_cons_self
    dsimp only
    split
    · exact RouteTaken.append selected recorded kept.1
    · refine ensures_bind (ensures_get (ensures_bind (ensures_modify (ensures_pure ?_))))
      exact RouteTaken.branch selected recorded middle kept.1 rfl

end Dressage.Proxy
