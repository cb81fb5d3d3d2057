/-
Sandboxes initialised ahead of their rollouts.

The store owns a prewarm until a claimer takes it or a cleanup releases it. A
claimer may have to wait for the initialization and can be cancelled meanwhile;
a released prewarm is terminated by a background task of its own. The paddock
knows its sandboxes by session id.

A step is what one coroutine does from one await to the next. The initialization
itself ends as the paddock decides.
-/

import Dressage.Lib.OrderedDict

namespace Dressage.Rollout.Prewarm

open Lib

abbrev SessionId := String

abbrev GroupId := Int

structure SampleIds where
  deterministicSessionId : Option String
  retryCount : Int
  sessionId : Option String
deriving DecidableEq, Repr

def ensureBlackboxSessionId (sample : SampleIds) (uuid4 : String) : SessionId :=
  let sessionId :=
    match sample.deterministicSessionId with
    | some deterministic =>
      if sample.retryCount ≠ 0 then deterministic ++ "-retry-" ++ toString sample.retryCount
      else deterministic
    | none => sample.sessionId.getD uuid4
  if "bbs-".toList.isPrefixOf sessionId.toList then sessionId else "bbs-" ++ sessionId

structure PrewarmRecord (Paddock Args : Type) where
  /-- Not a field of the source: which record this is, and which task is its own. -/
  number : Nat
  sessionId : SessionId
  groupId : GroupId
  paddock : Paddock
  envArgs : Args
deriving DecidableEq, Repr

structure PrewarmHandle (Paddock Args State : Type) where
  number : Nat
  sessionId : SessionId
  groupId : GroupId
  paddock : Paddock
  state : State
  envArgs : Args
deriving DecidableEq, Repr

variable {Paddock Args State : Type}

abbrev Records (Paddock Args : Type) := OrderedDict SessionId (PrewarmRecord Paddock Args)

structure PrewarmStore (Paddock Args : Type) where
  records : Records Paddock Args
  groupSessions : OrderedDict GroupId (List SessionId)

namespace PrewarmStore

def empty : PrewarmStore Paddock Args :=
  { records := OrderedDict.empty
    groupSessions := OrderedDict.empty }

def addSession (sessionId : SessionId) (sessions : List SessionId) : List SessionId :=
  if sessionId ∈ sessions then sessions else sessions ++ [sessionId]

def discardSession (sessionId : SessionId) (sessions : List SessionId) : List SessionId :=
  sessions.filter (fun other => other ≠ sessionId)

def insert (store : PrewarmStore Paddock Args) (record : PrewarmRecord Paddock Args) :
    PrewarmStore Paddock Args :=
  { records := store.records.set record.sessionId record
    groupSessions := store.groupSessions.set record.groupId
      (addSession record.sessionId (store.groupSessions.getD record.groupId [])) }

def remove (store : PrewarmStore Paddock Args) (record : PrewarmRecord Paddock Args)
    (sessionId : SessionId) : PrewarmStore Paddock Args :=
  { records := store.records.pop sessionId
    groupSessions :=
      match store.groupSessions.get? record.groupId with
      | none => store.groupSessions
      | some sessions =>
        if discardSession sessionId sessions = [] then store.groupSessions.pop record.groupId
        else store.groupSessions.set record.groupId (discardSession sessionId sessions) }

def take (store : PrewarmStore Paddock Args) (sessionId : SessionId) :
    Option (PrewarmRecord Paddock Args × PrewarmStore Paddock Args) :=
  (store.records.get? sessionId).map (fun record => (record, store.remove record sessionId))

def popRecords : List SessionId → Records Paddock Args →
    List (PrewarmRecord Paddock Args) × Records Paddock Args
  | [], records => ([], records)
  | sessionId :: rest, records =>
    match records.get? sessionId with
    | none => popRecords rest records
    | some record =>
      (record :: (popRecords rest (records.pop sessionId)).1,
        (popRecords rest (records.pop sessionId)).2)

def takeGroup (store : PrewarmStore Paddock Args) (groupId : GroupId) :
    List (PrewarmRecord Paddock Args) × PrewarmStore Paddock Args :=
  let popped := popRecords (store.groupSessions.getD groupId []) store.records
  (popped.1,
    { records := popped.2
      groupSessions := store.groupSessions.pop groupId })

def takeAll (store : PrewarmStore Paddock Args) :
    List (PrewarmRecord Paddock Args) × PrewarmStore Paddock Args :=
  (store.records.values, empty)

end PrewarmStore

inductive InitStatus (State : Type)
  | pending (cancelRequested : Bool)
  | returned (state : State)
  | failed
  | cancelled
deriving DecidableEq, Repr

def InitStatus.done : InitStatus State → Bool
  | .pending _ => false
  | _ => true

/-- `Task.cancel()`, a request that a finished task ignores. -/
def InitStatus.cancel : InitStatus State → InitStatus State
  | .pending _ => .pending true
  | status => status

structure InitTask (Paddock State : Type) where
  sessionId : SessionId
  paddock : Paddock
  status : InitStatus State
deriving DecidableEq, Repr

inductive InitOutcome (State : Type)
  | returned (state : State)
  /-- `created`: the sandbox was already there, so the paddock forgets the session id. -/
  | raised (cancellation : Bool) (created : Bool)
deriving DecidableEq, Repr

def InitOutcome.status : InitOutcome State → InitStatus State
  | .returned state => .returned state
  | .raised true _ => .cancelled
  | .raised false _ => .failed

structure PendingClaim (Paddock Args : Type) where
  record : PrewarmRecord Paddock Args
  /-- Cancelled after the task had ended, before the claimer ran again. -/
  mustCancel : Bool
deriving DecidableEq, Repr

inductive DisposeStage
  | scheduled
  | gathering
  | releasing
deriving DecidableEq, Repr

structure Disposal (Paddock Args : Type) where
  record : PrewarmRecord Paddock Args
  stage : DisposeStage
deriving DecidableEq, Repr

structure TerminateCall (Paddock Args : Type) where
  record : PrewarmRecord Paddock Args
  sandbox : Option Nat
deriving DecidableEq, Repr

structure World (Paddock Args State : Type) where
  store : PrewarmStore Paddock Args
  tasks : List (InitTask Paddock State)
  claims : List (PendingClaim Paddock Args)
  disposals : List (Disposal Paddock Args)
  handles : List (PrewarmHandle Paddock Args State)
  misses : List (PrewarmRecord Paddock Args)
  calls : List (TerminateCall Paddock Args)
  sandboxes : OrderedDict (Paddock × SessionId) Nat

namespace World

def idle : World Paddock Args State :=
  { store := PrewarmStore.empty
    tasks := []
    claims := []
    disposals := []
    handles := []
    misses := []
    calls := []
    sandboxes := OrderedDict.empty }

def status (world : World Paddock Args State) (number : Nat) : Option (InitStatus State) :=
  world.tasks[number]?.map InitTask.status

def setStatus (world : World Paddock Args State) (number : Nat)
    (change : InitStatus State → InitStatus State) : World Paddock Args State :=
  { world with
    tasks := world.tasks.modify number (fun task => { task with status := change task.status }) }

def start (world : World Paddock Args State) (sessionId : SessionId) (groupId : GroupId)
    (paddock : Paddock) (envArgs : Args) : World Paddock Args State :=
  if sessionId ∈ world.store.records then world
  else
    { world with
      tasks := world.tasks ++
        [{ sessionId := sessionId
           paddock := paddock
           status := .pending false }]
      store := world.store.insert
        { number := world.tasks.length
          sessionId := sessionId
          groupId := groupId
          paddock := paddock
          envArgs := envArgs } }

def scheduleDispose (world : World Paddock Args State)
    (records : List (PrewarmRecord Paddock Args)) : World Paddock Args State :=
  { world with
    disposals := world.disposals ++ records.map (fun record =>
      { record := record
        stage := .scheduled }) }

def hand (world : World Paddock Args State) (record : PrewarmRecord Paddock Args)
    (state : State) : World Paddock Args State :=
  { world with
    handles := world.handles ++
      [{ number := record.number
         sessionId := record.sessionId
         groupId := record.groupId
         paddock := record.paddock
         state := state
         envArgs := record.envArgs }] }

def awaitTask (world : World Paddock Args State) (record : PrewarmRecord Paddock Args)
    (mustCancel : Bool) : World Paddock Args State :=
  match world.status record.number with
  | some (.returned state) =>
    if mustCancel then world.scheduleDispose [record] else world.hand record state
  | some .failed =>
    if mustCancel then world.scheduleDispose [record]
    else { world with misses := world.misses ++ [record] }
  | some .cancelled => world.scheduleDispose [record]
  | _ =>
    { world with
      claims := world.claims ++
        [{ record := record
           mustCancel := mustCancel }] }

def claim (world : World Paddock Args State) (sessionId : Option SessionId) :
    World Paddock Args State :=
  match sessionId.bind world.store.take with
  | none => world
  | some (record, store) => { world with store := store }.awaitTask record false

def cleanupGroup (world : World Paddock Args State) (groupId : GroupId) :
    World Paddock Args State :=
  { world with store := (world.store.takeGroup groupId).2 }.scheduleDispose
    (world.store.takeGroup groupId).1

def cleanupAll (world : World Paddock Args State) : World Paddock Args State :=
  { world with store := world.store.takeAll.2 }.scheduleDispose world.store.takeAll.1

def isClaimOf (number : Nat) (claim : PendingClaim Paddock Args) : Bool :=
  claim.record.number == number

def resumeClaim (world : World Paddock Args State) (number : Nat) : World Paddock Args State :=
  match world.claims.find? (isClaimOf number) with
  | none => world
  | some claim =>
    if (world.status number).any InitStatus.done then
      { world with claims := world.claims.eraseP (isClaimOf number) }.awaitTask claim.record
        claim.mustCancel
    else world

/-- Cancelling a waiting claimer cancels what it waits for, unless that has ended. -/
def cancelClaim (world : World Paddock Args State) (number : Nat) : World Paddock Args State :=
  match world.claims.find? (isClaimOf number) with
  | none => world
  | some _ =>
    if (world.status number).any InitStatus.done then
      { world with
        claims := world.claims.map (fun claim =>
          if isClaimOf number claim then { claim with mustCancel := true } else claim) }
    else world.setStatus number InitStatus.cancel

variable [DecidableEq Paddock]

def finishInit (world : World Paddock Args State) (number : Nat) (outcome : InitOutcome State) :
    World Paddock Args State :=
  match world.tasks[number]? with
  | none => world
  | some task =>
    if task.status.done then world
    else
      { world.setStatus number (fun _ => outcome.status) with
        sandboxes :=
          match outcome with
          | .returned _ => world.sandboxes.set (task.paddock, task.sessionId) number
          | .raised _ true => world.sandboxes.pop (task.paddock, task.sessionId)
          | .raised _ false => world.sandboxes }

def isDisposalOf (number : Nat) (stage : DisposeStage) (disposal : Disposal Paddock Args) : Bool :=
  disposal.record.number == number && disposal.stage == stage

def advance (world : World Paddock Args State) (number : Nat) (before after : DisposeStage) :
    World Paddock Args State :=
  { world with
    disposals := world.disposals.map (fun disposal =>
      if isDisposalOf number before disposal then { disposal with stage := after }
      else disposal) }

def beginDispose (world : World Paddock Args State) (number : Nat) : World Paddock Args State :=
  match world.disposals.find? (isDisposalOf number .scheduled) with
  | none => world
  | some _ => (world.setStatus number InitStatus.cancel).advance number .scheduled .gathering

def gatherDispose (world : World Paddock Args State) (number : Nat) : World Paddock Args State :=
  if (world.status number).any InitStatus.done then world.advance number .gathering .releasing
  else world

def terminate (world : World Paddock Args State) (number : Nat) : World Paddock Args State :=
  match world.disposals.find? (isDisposalOf number .releasing) with
  | none => world
  | some disposal =>
    { world with
      disposals := world.disposals.eraseP (isDisposalOf number .releasing)
      calls := world.calls ++
        [{ record := disposal.record
           sandbox := world.sandboxes.get? (disposal.record.paddock, disposal.record.sessionId) }]
      sandboxes := world.sandboxes.pop (disposal.record.paddock, disposal.record.sessionId) }

end World

inductive Event (Paddock Args State : Type)
  | start (sample : SampleIds) (uuid4 : String) (groupId : GroupId) (paddock : Paddock)
    (envArgs : Args)
  | claim (sessionId : Option SessionId)
  | cancelClaim (number : Nat)
  | cleanupGroup (groupId : GroupId)
  | cleanupAll
  | finishInit (number : Nat) (outcome : InitOutcome State)
  | resumeClaim (number : Nat)
  | beginDispose (number : Nat)
  | gatherDispose (number : Nat)
  | terminate (number : Nat)
deriving DecidableEq, Repr

variable [DecidableEq Paddock]

def step (world : World Paddock Args State) : Event Paddock Args State → World Paddock Args State
  | .start sample uuid4 groupId paddock envArgs =>
    world.start (ensureBlackboxSessionId sample uuid4) groupId paddock envArgs
  | .claim sessionId => world.claim sessionId
  | .cancelClaim number => world.cancelClaim number
  | .cleanupGroup groupId => world.cleanupGroup groupId
  | .cleanupAll => world.cleanupAll
  | .finishInit number outcome => world.finishInit number outcome
  | .resumeClaim number => world.resumeClaim number
  | .beginDispose number => world.beginDispose number
  | .gatherDispose number => world.gatherDispose number
  | .terminate number => world.terminate number

def Event.background : Event Paddock Args State → Bool
  | .finishInit _ _ => true
  | .resumeClaim _ => true
  | .beginDispose _ => true
  | .gatherDispose _ => true
  | .terminate _ => true
  | _ => false

namespace World

def stored (world : World Paddock Args State) : List Nat :=
  world.store.records.values.map PrewarmRecord.number

def awaited (world : World Paddock Args State) : List Nat :=
  world.claims.map (fun claim => claim.record.number)

def disposing (world : World Paddock Args State) : List Nat :=
  world.disposals.map (fun disposal => disposal.record.number)

def handed (world : World Paddock Args State) : List Nat :=
  world.handles.map PrewarmHandle.number

def missed (world : World Paddock Args State) : List Nat :=
  world.misses.map PrewarmRecord.number

def terminated (world : World Paddock Args State) : List Nat :=
  world.calls.map (fun call => call.record.number)

def torn (world : World Paddock Args State) : List Nat :=
  world.calls.filterMap TerminateCall.sandbox

end World

end Dressage.Rollout.Prewarm
