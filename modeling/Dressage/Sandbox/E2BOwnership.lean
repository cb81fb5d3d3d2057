/-
Who answers for a sandbox of the SDK.

In every run each object is in the map, with a running create call, or has had its one kill().
What breaks this is a cancellation at one of the two awaits where kill() is not shielded, and an
object that has no kill() when it has to go.
-/

import Dressage.Lib.Runs
import Dressage.Sandbox.E2BProvider

namespace Dressage.Sandbox.E2B

open Lib List OrderedDict Option

def Kept (state : Provider) (sandbox : SandboxId) (object : SandboxObject) : Prop :=
  ∃ create, state.creates[object.create]? = some create ∧ create.phase = .returned sandbox ∧
    state.sandboxes.get? create.trajectoryId = some sandbox

def OwnedByCreate (state : Provider) (object : SandboxObject) : Prop :=
  ∃ create, state.creates[object.create]? = some create ∧ create.phase.hasEnded = false

def KilledOnce (state : Provider) (sandbox : SandboxId) : Prop :=
  state.kills.count sandbox = 1 ∧ sandbox ∉ state.interrupted

def NothingLeaked (state : Provider) : Prop :=
  ∀ (sandbox : SandboxId) (object : SandboxObject), state.objects[sandbox]? = some object →
    Kept state sandbox object ∨ OwnedByCreate state object ∨ KilledOnce state sandbox

def beginsKill (state : Provider) : Event → Option SandboxId
  | .cancelCreate number =>
    match state.creates[number]? with
    | some { phase := .settingUp sandbox _, .. } => some sandbox
    | _ => none
  | .finishSetupStep number succeeded =>
    match state.creates[number]? with
    | some { phase := .settingUp sandbox (current :: _), .. } =>
      if succeeded = false ∧ current.required = true then some sandbox else none
    | _ => none
  | .startKill number =>
    match state.creates[number]? with
    | some { phase := .killPending sandbox, .. } => some sandbox
    | _ => none
  | .terminate trajectoryId => state.sandboxes.get? trajectoryId
  | _ => none

/-- A cancellation of a caller that waits for an unshielded kill(). -/
def interruptsKill (state : Provider) : Event → Bool
  | .cancelCreate number =>
    match state.creates[number]? with
    | some { phase := .failureKilling _, .. } => true
    | _ => false
  | .cancelTerminate call =>
    match state.terminates[call]? with
    | some (some _) => true
    | _ => false
  | _ => false

structure Spares (state : Provider) (event : Event) : Prop where
  able : ∀ sandbox, beginsKill state event = some sandbox → state.hasKill sandbox = true
  undisturbed : interruptsKill state event = false

/-- What a create call in a phase has done with the sandbox of its request:
whether the map has it and how often it was killed. -/
def Stage (request : Request) (phase : CreatePhase) (stored : Option SandboxId)
    (killed : SandboxId → Nat) : Prop :=
  match phase with
  | .requesting | .awaitingRequest =>
    stored = none ∧ ∀ sandbox, request = .returned sandbox → killed sandbox = 0
  | .killPending sandbox | .settingUp sandbox _ =>
    request = .returned sandbox ∧ stored = none ∧ killed sandbox = 0
  | .cancelKilling sandbox | .failureKilling sandbox =>
    request = .returned sandbox ∧ stored = none ∧ killed sandbox = 1
  | .returned sandbox =>
    request = .returned sandbox ∧
      (stored = some sandbox ∧ killed sandbox = 0 ∨ stored = none ∧ killed sandbox = 1)
  | .raised =>
    stored = none ∧ request ≠ .pending ∧ ∀ sandbox, request = .returned sandbox → killed sandbox = 1

variable {phase : CreatePhase} {request : Request} {state after : Provider} {number : Nat}
variable {create : Create} {sandbox : SandboxId}

theorem Stage.recount {stored : Option SandboxId} {killed recounted : SandboxId → Nat}
    (stage : Stage request phase stored killed)
    (same : ∀ sandbox, request = .returned sandbox → recounted sandbox = killed sandbox) :
    Stage request phase stored recounted := by
  cases phase with
  | requesting | awaitingRequest =>
    exact ⟨stage.1, fun sandbox requested =>
      (same sandbox requested).trans (stage.2 sandbox requested)⟩
  | killPending sandbox | settingUp sandbox _ | cancelKilling sandbox | failureKilling sandbox =>
    exact ⟨stage.1, stage.2.1, (same sandbox stage.1).trans stage.2.2⟩
  | returned sandbox =>
    refine ⟨stage.1, ?_⟩
    rw [same sandbox stage.1]
    exact stage.2
  | raised =>
    exact ⟨stage.1, stage.2.1, fun sandbox requested =>
      (same sandbox requested).trans (stage.2.2 sandbox requested)⟩

def Provider.stageOf (state : Provider) (create : Create) : Prop :=
  Stage create.request create.phase (state.sandboxes.get? create.trajectoryId)
    (fun sandbox => state.kills.count sandbox)

structure Sound (state : Provider) : Prop where
  distinct : (state.creates.map Create.trajectoryId).Nodup
  stages : ∀ (number : Nat) (create : Create), state.creates[number]? = some create →
    state.stageOf create
  origin : ∀ (sandbox : SandboxId) (object : SandboxObject),
    state.objects[sandbox]? = some object → ∃ create,
      state.creates[object.create]? = some create ∧ create.request = .returned sandbox
  own : ∀ (number : Nat) (create : Create) (sandbox : SandboxId),
    state.creates[number]? = some create → create.request = .returned sandbox →
      ∃ object, state.objects[sandbox]? = some object ∧ object.create = number
  foreign : ∀ trajectoryId, trajectoryId ∉ state.creates.map Create.trajectoryId →
    state.sandboxes.get? trajectoryId = none
  bounded : ∀ sandbox ∈ state.kills, sandbox < state.objects.length
  uninterrupted : state.interrupted = []
  terminating : ∀ sandbox, some sandbox ∈ state.terminates →
    ∃ (number : Nat) (create : Create), state.creates[number]? = some create ∧
      create.phase = .returned sandbox ∧ state.sandboxes.get? create.trajectoryId = none

theorem sound_initial : Sound Provider.initial := by
  constructor
  · exact nodup_nil
  · intro number create impossible
    cases impossible
  · intro sandbox object impossible
    cases impossible
  · intro number create sandbox impossible
    cases impossible
  · exact fun _ _ => rfl
  · intro sandbox impossible
    cases impossible
  · rfl
  · intro sandbox impossible
    cases impossible

theorem Sound.nothingLeaked (sound : Sound state) : NothingLeaked state := by
  intro sandbox object present
  obtain ⟨create, found, requested⟩ := sound.origin sandbox object present
  have stage := sound.stages _ create found
  unfold Provider.stageOf at stage
  have unhurt : sandbox ∉ state.interrupted := by
    rw [sound.uninterrupted]
    exact not_mem_nil
  cases phase : create.phase with
  | returned other =>
    rw [phase] at stage
    obtain ⟨same, held⟩ := stage
    rw [requested] at same
    injection same with same
    subst same
    rcases held with ⟨stored, _⟩ | ⟨_, killed⟩
    · exact .inl ⟨create, found, phase, stored⟩
    · exact .inr (.inr ⟨killed, unhurt⟩)
  | raised =>
    rw [phase] at stage
    exact .inr (.inr ⟨stage.2.2 sandbox requested, unhurt⟩)
  | _ => exact .inr (.inl ⟨create, found, by rw [phase]; rfl⟩)

theorem Sound.same_create (sound : Sound state) {other : Nat} {another : Create}
    (found : state.creates[number]? = some create) (present : state.creates[other]? = some another)
    (same : create.trajectoryId = another.trajectoryId) : number = other := by
  have left : (state.creates.map Create.trajectoryId)[number]? = some create.trajectoryId := by
    rw [getElem?_map, found]
    rfl
  have right : (state.creates.map Create.trajectoryId)[other]? = some create.trajectoryId := by
    rw [getElem?_map, present, same]
    rfl
  obtain ⟨lower, atNumber⟩ := List.getElem_of_getElem? left
  obtain ⟨upper, atOther⟩ := List.getElem_of_getElem? right
  exact (sound.distinct.getElem_inj_iff).mp (atNumber.trans atOther.symm)

/-- A create call moves to a phase and may hand its own sandbox on. -/
structure Hands (state after : Provider) (number : Nat) (create : Create) (phase : CreatePhase) :
    Prop where
  creates : after.creates =
    state.creates.modify number (fun create => { create with phase := phase })
  objects : after.objects = state.objects
  stored : ∀ trajectoryId, trajectoryId ≠ create.trajectoryId →
    after.sandboxes.get? trajectoryId = state.sandboxes.get? trajectoryId
  killed : ∀ sandbox, create.request ≠ .returned sandbox →
    after.kills.count sandbox = state.kills.count sandbox
  uninterrupted : after.interrupted = []
  stage : Stage create.request phase (after.sandboxes.get? create.trajectoryId)
    (fun sandbox => after.kills.count sandbox)
  bounded : ∀ sandbox ∈ after.kills, sandbox ∈ state.kills ∨ create.request = .returned sandbox
  held : ∀ sandbox, create.phase = .returned sandbox →
    state.sandboxes.get? create.trajectoryId ≠ none
  terminating : ∀ sandbox, some sandbox ∈ after.terminates →
    some sandbox ∈ state.terminates ∨
      phase = .returned sandbox ∧ after.sandboxes.get? create.trajectoryId = none

theorem Sound.hands (sound : Sound state) (phase : CreatePhase)
    (found : state.creates[number]? = some create) (hands : Hands state after number create phase) :
    Sound after := by
  have names : after.creates.map Create.trajectoryId = state.creates.map Create.trajectoryId := by
    rw [hands.creates]
    apply ext_getElem?
    intro index
    simp only [getElem?_map, getElem?_modify]
    split <;> cases state.creates[index]? <;> rfl
  have here : after.creates[number]? = some { create with phase := phase } := by
    rw [hands.creates, getElem?_modify_eq, found]
    rfl
  have elsewhere : ∀ other, other ≠ number → after.creates[other]? = state.creates[other]? := by
    intro other different
    rw [hands.creates, getElem?_modify_ne _ _ (Ne.symm different)]
  have requests : ∀ (other : Nat) (another : Create), after.creates[other]? = some another →
      ∃ before, state.creates[other]? = some before ∧ before.request = another.request := by
    intro other another present
    by_cases same : other = number
    · subst same
      rw [here, some_inj] at present
      exact ⟨create, found, by rw [← present]⟩
    · rw [elsewhere other same] at present
      exact ⟨another, present, rfl⟩
  constructor
  · rw [names]
    exact sound.distinct
  · intro other another present
    by_cases same : other = number
    · subst same
      rw [here, some_inj] at present
      rw [← present]
      exact hands.stage
    · rw [elsewhere other same] at present
      have apart : another.trajectoryId ≠ create.trajectoryId :=
        fun equal => same (sound.same_create present found equal)
      have counts : ∀ sandbox, another.request = .returned sandbox →
          after.kills.count sandbox = state.kills.count sandbox := by
        intro sandbox requested
        apply hands.killed
        intro both
        obtain ⟨object, atIndex, mine⟩ := sound.own other another sandbox present requested
        obtain ⟨object', atIndex', mine'⟩ := sound.own number create sandbox found both
        rw [atIndex, some_inj] at atIndex'
        rw [← atIndex', mine] at mine'
        exact same mine'
      have before := sound.stages other another present
      unfold Provider.stageOf at before ⊢
      rw [hands.stored _ apart]
      exact before.recount counts
  · intro sandbox object present
    rw [hands.objects] at present
    obtain ⟨before, atCreate, requested⟩ := sound.origin sandbox object present
    by_cases same : object.create = number
    · rw [same] at atCreate ⊢
      rw [found, some_inj] at atCreate
      refine ⟨_, here, ?_⟩
      rw [atCreate]
      exact requested
    · exact ⟨before, by rw [elsewhere _ same, atCreate], requested⟩
  · intro other another sandbox present requested
    obtain ⟨before, atCreate, same⟩ := requests other another present
    rw [hands.objects]
    exact sound.own other before sandbox atCreate (same.trans requested)
  · intro trajectoryId absent
    rw [names] at absent
    rw [hands.stored]
    · exact sound.foreign trajectoryId absent
    · intro same
      rw [same] at absent
      exact absent (List.mem_map_of_mem (mem_of_getElem? found))
  · intro sandbox member
    rw [hands.objects]
    rcases hands.bounded sandbox member with old | requested
    · exact sound.bounded sandbox old
    · obtain ⟨object, present, _⟩ := sound.own number create sandbox found requested
      exact (List.getElem_of_getElem? present).1
  · exact hands.uninterrupted
  · intro sandbox member
    rcases hands.terminating sandbox member with old | ⟨returned, gone⟩
    · obtain ⟨other, another, present, atReturned, gone⟩ := sound.terminating sandbox old
      have apart : other ≠ number := by
        intro same
        subst same
        rw [found, some_inj] at present
        subst present
        exact hands.held sandbox atReturned gone
      refine ⟨other, another, by rw [elsewhere _ apart, present], atReturned, ?_⟩
      rw [hands.stored]
      · exact gone
      · exact fun equal => apart (sound.same_create present found equal)
    · exact ⟨number, _, here, returned, gone⟩

theorem Sound.setPhase (sound : Sound state) (found : state.creates[number]? = some create)
    (running : ∀ sandbox, create.phase ≠ .returned sandbox)
    (stage : Stage create.request phase (state.sandboxes.get? create.trajectoryId)
      (fun sandbox => state.kills.count sandbox)) :
    Sound (state.setPhase number phase) := by
  apply sound.hands _ found
  exact
    { creates := rfl
      objects := rfl
      stored := fun _ _ => rfl
      killed := fun _ _ => rfl
      uninterrupted := sound.uninterrupted
      stage := stage
      bounded := fun _ member => .inl member
      held := fun sandbox returned => absurd returned (running sandbox)
      terminating := fun _ member => .inl member }

theorem count_snoc_self {kills : List SandboxId} (unkilled : kills.count sandbox = 0) :
    (kills ++ [sandbox]).count sandbox = 1 := by
  rw [count_append, unkilled, count_singleton_self]

theorem count_snoc_of_ne {kills : List SandboxId} {sandbox other : SandboxId}
    (different : other ≠ sandbox) : (kills ++ [sandbox]).count other = kills.count other := by
  rw [count_append, count_singleton]
  simp [Ne.symm different]

theorem Sound.bestEffortKill (sound : Sound state) (found : state.creates[number]? = some create)
    {waiting : CreatePhase} (able : state.hasKill sandbox = true)
    (running : ∀ sandbox, create.phase ≠ .returned sandbox)
    (before : Stage create.request (.killPending sandbox)
      (state.sandboxes.get? create.trajectoryId) (fun sandbox => state.kills.count sandbox))
    (waits : waiting = .cancelKilling sandbox ∨ waiting = .failureKilling sandbox) :
    Sound (state.bestEffortKill number sandbox waiting) := by
  obtain ⟨requested, absent, unkilled⟩ := before
  have killed := count_snoc_self unkilled
  unfold Provider.bestEffortKill
  rw [if_pos able]
  apply sound.hands _ found
  exact
    { creates := rfl
      objects := rfl
      stored := fun _ _ => rfl
      killed := by
        intro other notOwn
        apply count_snoc_of_ne
        intro same
        rw [same] at notOwn
        exact notOwn requested
      uninterrupted := sound.uninterrupted
      stage := by
        rcases waits with rfl | rfl <;> exact ⟨requested, absent, killed⟩
      bounded := by
        intro other member
        rcases mem_append.mp member with old | new
        · exact .inl old
        · rw [mem_singleton.mp new]
          exact .inr requested
      held := fun sandbox returned => absurd returned (running sandbox)
      terminating := fun _ member => .inl member }

theorem Sound.continueSetup (sound : Sound state) (found : state.creates[number]? = some create)
    (remaining : List SetupStep) (running : ∀ sandbox, create.phase ≠ .returned sandbox)
    (before : Stage create.request (.killPending sandbox)
      (state.sandboxes.get? create.trajectoryId) (fun sandbox => state.kills.count sandbox)) :
    Sound (state.continueSetup number create.trajectoryId sandbox remaining) := by
  cases remaining with
  | cons current rest => exact sound.setPhase found running before
  | nil =>
    apply sound.hands _ found
    exact
      { creates := rfl
        objects := rfl
        stored := fun _ different => get?_set_of_ne _ _ different
        killed := fun _ _ => rfl
        uninterrupted := sound.uninterrupted
        stage := ⟨before.1, .inl ⟨get?_set_self _ _ _, before.2.2⟩⟩
        bounded := fun _ member => .inl member
        held := fun sandbox returned => absurd returned (running sandbox)
        terminating := fun _ member => .inl member }

theorem Sound.startCreate (sound : Sound state) (trajectoryId : String) (setup : List SetupStep) :
    Sound (state.startCreate trajectoryId setup) := by
  unfold Provider.startCreate
  split
  · exact sound
  · next new =>
      have old : ∀ {number : Nat} {create added : Create},
          (state.creates ++ [added])[number]? = some create →
            state.creates[number]? = some create ∨ create = added := by
        intro number create added present
        rcases Nat.lt_or_ge number state.creates.length with lower | upper
        · rw [getElem?_append_left lower] at present
          exact .inl present
        · rw [getElem?_append_right upper] at present
          exact .inr (mem_singleton.mp (mem_of_getElem? present))
      have later : ∀ {number : Nat} {create added : Create},
          state.creates[number]? = some create →
            (state.creates ++ [added])[number]? = some create := by
        intro number create added present
        rw [getElem?_append_left (List.getElem_of_getElem? present).1]
        exact present
      constructor
      · rw [map_append, nodup_append]
        refine ⟨sound.distinct, nodup_singleton _, ?_⟩
        intro other member added isAdded same
        rw [map_singleton, mem_singleton] at isAdded
        rw [same, isAdded] at member
        exact new member
      · intro number create present
        rcases old present with before | rfl
        · exact sound.stages number create before
        · exact ⟨sound.foreign trajectoryId new, fun _ impossible => by cases impossible⟩
      · intro sandbox object present
        obtain ⟨create, found, requested⟩ := sound.origin sandbox object present
        exact ⟨create, later found, requested⟩
      · intro number create sandbox present requested
        rcases old present with before | rfl
        · exact sound.own number create sandbox before requested
        · cases requested
      · intro other absent
        rw [map_append, mem_append] at absent
        exact sound.foreign other (fun member => absent (.inl member))
      · exact sound.bounded
      · exact sound.uninterrupted
      · intro sandbox member
        obtain ⟨number, create, found, returned, gone⟩ := sound.terminating sandbox member
        exact ⟨number, create, later found, returned, gone⟩

theorem Stage.answered {stored : Option SandboxId} {killed : SandboxId → Nat}
    (stage : Stage .pending phase stored killed)
    (unkilled : ∀ sandbox, request = .returned sandbox → killed sandbox = 0) :
    Stage request phase stored killed := by
  cases phase with
  | requesting | awaitingRequest => exact ⟨stage.1, unkilled⟩
  | killPending sandbox | settingUp sandbox _ | cancelKilling sandbox | failureKilling sandbox
  | returned sandbox => cases stage.1
  | raised => exact absurd rfl stage.2.1

structure Answers (state after : Provider) (number : Nat) (request : Request)
    (added : List SandboxObject) : Prop where
  creates : after.creates =
    state.creates.modify number (fun create => { create with request := request })
  objects : after.objects = state.objects ++ added
  sandboxes : after.sandboxes = state.sandboxes
  terminates : after.terminates = state.terminates
  kills : after.kills = state.kills
  interrupted : after.interrupted = state.interrupted
  brought : request = .failed ∧ added = [] ∨
    ∃ hasKill, request = .returned state.objects.length ∧
      added = [{ create := number, hasKill := hasKill }]

section

variable (sound : Sound state)

include sound

theorem Sound.answers {added : List SandboxObject} (found : state.creates[number]? = some create)
    (pending : create.request = .pending) (answers : Answers state after number request added) :
    Sound after := by
  have here : after.creates[number]? = some { create with request := request } := by
    rw [answers.creates, getElem?_modify_eq, found]
    rfl
  have elsewhere : ∀ other, other ≠ number → after.creates[other]? = state.creates[other]? := by
    intro other different
    rw [answers.creates, getElem?_modify_ne _ _ (Ne.symm different)]
  have names : after.creates.map Create.trajectoryId = state.creates.map Create.trajectoryId := by
    rw [answers.creates]
    apply ext_getElem?
    intro index
    simp only [getElem?_map, getElem?_modify]
    split <;> cases state.creates[index]? <;> rfl
  have unkilled : ∀ sandbox, request = .returned sandbox → state.kills.count sandbox = 0 := by
    intro sandbox requested
    apply count_eq_zero_of_not_mem
    intro member
    have lower := sound.bounded sandbox member
    rcases answers.brought with ⟨failed, _⟩ | ⟨_, returned, _⟩
    · rw [failed] at requested
      cases requested
    · rw [returned] at requested
      injection requested with same
      rw [same] at lower
      exact Nat.lt_irrefl _ lower
  constructor
  · rw [names]
    exact sound.distinct
  · intro other another present
    by_cases same : other = number
    · subst same
      rw [here, some_inj] at present
      subst present
      have before := sound.stages other create found
      unfold Provider.stageOf at before ⊢
      rw [pending] at before
      rw [answers.sandboxes, answers.kills]
      exact before.answered unkilled
    · rw [elsewhere other same] at present
      unfold Provider.stageOf
      rw [answers.sandboxes, answers.kills]
      exact sound.stages other another present
  · intro sandbox object present
    rw [answers.objects] at present
    rcases Nat.lt_or_ge sandbox state.objects.length with lower | upper
    · rw [getElem?_append_left lower] at present
      obtain ⟨before, atCreate, requested⟩ := sound.origin sandbox object present
      have apart : object.create ≠ number := by
        intro same
        rw [same, found, some_inj] at atCreate
        rw [← atCreate, pending] at requested
        cases requested
      exact ⟨before, (elsewhere _ apart).trans atCreate, requested⟩
    · rw [getElem?_append_right upper] at present
      rcases answers.brought with ⟨_, nothing⟩ | ⟨hasKill, returned, one⟩
      · rw [nothing] at present
        cases present
      · rw [one] at present
        obtain ⟨index, isObject⟩ := List.getElem_of_getElem? present
        have sameId : sandbox = state.objects.length :=
          Nat.le_antisymm (Nat.sub_eq_zero_iff_le.mp (Nat.lt_one_iff.mp index)) upper
        simp only [getElem_singleton] at isObject
        rw [← isObject, sameId]
        exact ⟨_, here, returned⟩
  · intro other another sandbox present requested
    rw [answers.objects]
    by_cases same : other = number
    · subst same
      rw [here, some_inj] at present
      rw [← present] at requested
      rcases answers.brought with ⟨failed, _⟩ | ⟨hasKill, returned, one⟩
      · rw [failed] at requested
        cases requested
      · rw [returned] at requested
        injection requested with sameId
        rw [one, ← sameId]
        exact ⟨_, getElem?_concat_length, rfl⟩
    · rw [elsewhere other same] at present
      obtain ⟨object, atIndex, mine⟩ := sound.own other another sandbox present requested
      refine ⟨object, ?_, mine⟩
      rw [getElem?_append_left (List.getElem_of_getElem? atIndex).1]
      exact atIndex
  · intro trajectoryId absent
    rw [names] at absent
    rw [answers.sandboxes]
    exact sound.foreign trajectoryId absent
  · intro sandbox member
    rw [answers.kills] at member
    rw [answers.objects, length_append]
    exact Nat.lt_of_lt_of_le (sound.bounded sandbox member) (Nat.le_add_right _ _)
  · rw [answers.interrupted]
    exact sound.uninterrupted
  · intro sandbox member
    rw [answers.terminates] at member
    obtain ⟨other, another, present, returned, gone⟩ := sound.terminating sandbox member
    have apart : other ≠ number := by
      intro same
      subst same
      rw [found, some_inj] at present
      have stage := sound.stages other another (present ▸ found)
      unfold Provider.stageOf at stage
      rw [← present, pending, present, returned] at stage
      cases stage.1
    rw [answers.sandboxes]
    exact ⟨other, another, (elsewhere other apart).trans present, returned, gone⟩

theorem Sound.requestReturns (number : Nat) (hasKill : Bool) :
    Sound (state.requestReturns number hasKill) := by
  unfold Provider.requestReturns
  split
  · next found =>
      apply sound.answers found rfl
      exact
        { creates := rfl
          objects := rfl
          sandboxes := rfl
          terminates := rfl
          kills := rfl
          interrupted := rfl
          brought := .inr ⟨hasKill, rfl, rfl⟩ }
  · exact sound

theorem Sound.requestFails (number : Nat) : Sound (state.requestFails number) := by
  unfold Provider.requestFails
  split
  · next found =>
      apply sound.answers found rfl
      exact
        { creates := rfl
          objects := (append_nil _).symm
          sandboxes := rfl
          terminates := rfl
          kills := rfl
          interrupted := rfl
          brought := .inl ⟨rfl, rfl⟩ }
  · exact sound

theorem Sound.resumeCreate (number : Nat) : Sound (state.resumeCreate number) := by
  unfold Provider.resumeCreate
  split
  · exact sound
  · next create found =>
      have stage := sound.stages number create found
      unfold Provider.stageOf at stage
      split
      · next sandbox phase requested =>
          rw [phase] at stage
          have running : ∀ sandbox, create.phase ≠ .returned sandbox := by simp [phase]
          exact sound.continueSetup found _ running ⟨requested, stage.1, stage.2 sandbox requested⟩
      · next phase requested =>
          rw [phase] at stage
          apply sound.setPhase found (by simp [phase])
          exact ⟨stage.1, by simp [requested], fun _ impossible => by simp [requested] at impossible⟩
      · next sandbox phase requested =>
          rw [phase] at stage
          apply sound.setPhase found (by simp [phase])
          exact ⟨requested, stage.1, stage.2 sandbox requested⟩
      · next phase requested =>
          rw [phase] at stage
          apply sound.setPhase found (by simp [phase])
          exact ⟨stage.1, by simp [requested], fun _ impossible => by simp [requested] at impossible⟩
      · exact sound

theorem Sound.finishSetupStep {succeeded : Bool}
    (spares : Spares state (.finishSetupStep number succeeded)) :
    Sound (state.finishSetupStep number succeeded) := by
  unfold Provider.finishSetupStep
  split
  · next trajectoryId setup request sandbox current remaining found =>
      have stage := sound.stages number _ found
      unfold Provider.stageOf at stage
      split
      · next broken =>
          have able : state.hasKill sandbox = true := by
            apply spares.able
            simp only [beginsKill, found]
            exact if_pos broken
          exact sound.bestEffortKill found able (by simp) stage (.inr rfl)
      · exact sound.continueSetup found remaining (by simp) stage
  · exact sound

theorem Sound.startKill (spares : Spares state (.startKill number)) :
    Sound (state.startKill number) := by
  unfold Provider.startKill
  split
  · next sandbox found =>
      have stage := sound.stages number _ found
      unfold Provider.stageOf at stage
      have able : state.hasKill sandbox = true := by
        apply spares.able
        simp only [beginsKill, found]
      exact sound.bestEffortKill found able (by simp) stage (.inl rfl)
  · exact sound

theorem Sound.endKill (number : Nat) : Sound (state.endKill number) := by
  have raises : ∀ {create : Create} {sandbox : SandboxId},
      state.creates[number]? = some create →
      create.phase = .cancelKilling sandbox ∨ create.phase = .failureKilling sandbox →
        Sound (state.setPhase number .raised) := by
    intro create sandbox found killing
    have stage := sound.stages number create found
    unfold Provider.stageOf at stage
    have done : create.request = .returned sandbox ∧
        state.sandboxes.get? create.trajectoryId = none ∧ state.kills.count sandbox = 1 := by
      rcases killing with phase | phase
      · rw [phase] at stage
        exact stage
      · rw [phase] at stage
        exact stage
    have running : ∀ other, create.phase ≠ .returned other := by
      intro other returned
      rcases killing with phase | phase
      · rw [phase] at returned
        cases returned
      · rw [phase] at returned
        cases returned
    apply sound.setPhase found running
    refine ⟨done.2.1, by simp [done.1], fun other requested => ?_⟩
    rw [done.1] at requested
    injection requested with same
    rw [← same]
    exact done.2.2
  unfold Provider.endKill
  split
  · next found => exact raises found (.inl rfl)
  · next found => exact raises found (.inr rfl)
  · exact sound

theorem Sound.cancelCreate (spares : Spares state (.cancelCreate number)) :
    Sound (state.cancelCreate number) := by
  unfold Provider.cancelCreate
  split
  · exact sound
  · next create found =>
      have stage := sound.stages number create found
      unfold Provider.stageOf at stage
      split
      · next phase =>
          rw [phase] at stage
          exact sound.setPhase found (by simp [phase]) stage
      · next sandbox remaining phase =>
          rw [phase] at stage
          have able : state.hasKill sandbox = true := by
            apply spares.able
            obtain ⟨trajectoryId, setup, request, current⟩ := create
            cases phase
            simp only [beginsKill, found]
          exact sound.bestEffortKill found able (by simp [phase]) stage (.inr rfl)
      · next sandbox phase =>
          have undisturbed := spares.undisturbed
          obtain ⟨trajectoryId, setup, request, current⟩ := create
          cases phase
          simp [interruptsKill, found] at undisturbed
      all_goals exact sound

theorem Sound.endTerminate (call : Nat) : Sound (state.endTerminate call) := by
  refine ⟨sound.distinct, sound.stages, sound.origin, sound.own, sound.foreign, sound.bounded,
    sound.uninterrupted, ?_⟩
  intro sandbox member
  rcases mem_or_eq_of_mem_set member with old | impossible
  · exact sound.terminating sandbox old
  · cases impossible

theorem Sound.stored_by {trajectoryId : String}
    (stored : state.sandboxes.get? trajectoryId = some sandbox) :
    ∃ (number : Nat) (create : Create), state.creates[number]? = some create ∧
      create.trajectoryId = trajectoryId ∧ create.phase = .returned sandbox ∧
        create.request = .returned sandbox ∧ state.kills.count sandbox = 0 := by
  have known : trajectoryId ∈ state.creates.map Create.trajectoryId := by
    by_contra absent
    rw [sound.foreign trajectoryId absent] at stored
    cases stored
  obtain ⟨create, member, rfl⟩ := List.mem_map.mp known
  obtain ⟨number, found⟩ := getElem?_of_mem member
  have stage := sound.stages number create found
  unfold Provider.stageOf at stage
  rw [stored] at stage
  refine ⟨number, create, found, rfl, ?_⟩
  cases phase : create.phase with
  | returned other =>
    rw [phase] at stage
    rcases stage.2 with ⟨same, unkilled⟩ | ⟨impossible, _⟩
    · injection same with same
      subst same
      exact ⟨rfl, stage.1, unkilled⟩
    · cases impossible
  | requesting | awaitingRequest | raised =>
    rw [phase] at stage
    cases stage.1
  | killPending other | settingUp other _ | cancelKilling other | failureKilling other =>
    rw [phase] at stage
    cases stage.2.1

theorem Sound.terminate {trajectoryId : String} (spares : Spares state (.terminate trajectoryId)) :
    Sound (state.terminate trajectoryId) := by
  unfold Provider.terminate
  split
  · exact sound
  · next sandbox stored =>
      rw [if_pos (spares.able sandbox stored)]
      obtain ⟨number, create, found, rfl, phase, requested, unkilled⟩ := sound.stored_by stored
      refine sound.hands (.returned sandbox) found ?_
      exact
        { creates := by
            apply ext_getElem?
            intro index
            rw [getElem?_modify]
            split
            · next here =>
                rw [← here, found, ← phase]
                rfl
            · exact (map_id_apply).symm
          objects := rfl
          stored := fun _ different => get?_pop_of_ne _ different
          killed := by
            intro other notOwn
            apply count_snoc_of_ne
            intro same
            rw [same] at notOwn
            exact notOwn requested
          uninterrupted := sound.uninterrupted
          stage := ⟨requested, .inr ⟨get?_pop_self _ _, count_snoc_self unkilled⟩⟩
          bounded := by
            intro other member
            rcases mem_append.mp member with old | new
            · exact .inl old
            · rw [mem_singleton.mp new]
              exact .inr requested
          held := by
            intro _ _ gone
            rw [stored] at gone
            cases gone
          terminating := by
            intro other member
            rcases mem_append.mp member with old | new
            · exact .inl old
            · have same := mem_singleton.mp new
              injection same with same
              rw [same]
              exact .inr ⟨rfl, get?_pop_self _ _⟩ }

theorem Sound.cancelTerminate {call : Nat} (spares : Spares state (.cancelTerminate call)) :
    Sound (state.cancelTerminate call) := by
  unfold Provider.cancelTerminate
  split
  · next sandbox waiting =>
      have undisturbed := spares.undisturbed
      simp [interruptsKill, waiting] at undisturbed
  · exact sound

theorem Sound.step {event : Event} (spares : Spares state event) : Sound (step state event) := by
  cases event with
  | startCreate trajectoryId setup => exact sound.startCreate trajectoryId setup
  | requestReturns number hasKill => exact sound.requestReturns number hasKill
  | requestFails number => exact sound.requestFails number
  | resumeCreate number => exact sound.resumeCreate number
  | finishSetupStep number succeeded => exact sound.finishSetupStep spares
  | startKill number => exact sound.startKill spares
  | endKill number => exact sound.endKill number
  | cancelCreate number => exact sound.cancelCreate spares
  | terminate trajectoryId => exact sound.terminate spares
  | endTerminate call => exact sound.endTerminate call
  | cancelTerminate call => exact sound.cancelTerminate spares

end

theorem not_nothingLeaked (sandbox : SandboxId) {object : SandboxObject}
    (present : after.objects[sandbox]? = some object)
    (found : after.creates[object.create]? = some create) (ended : create.phase.hasEnded = true)
    (gone : create.phase = .raised ∨ after.sandboxes.get? create.trajectoryId = none)
    (unkilled : ¬ KilledOnce after sandbox) : ¬ NothingLeaked after := by
  intro nothing
  rcases nothing sandbox object present with kept | owned | killed
  · obtain ⟨other, atCreate, phase, stored⟩ := kept
    rw [found, some_inj] at atCreate
    subst atCreate
    rcases gone with raised | absent
    · rw [phase] at raised
      cases raised
    · rw [stored] at absent
      cases absent
  · obtain ⟨other, atCreate, running⟩ := owned
    rw [found, some_inj] at atCreate
    rw [← atCreate, ended] at running
    cases running
  · exact unkilled killed

theorem Sound.leaked_of_raised (sound : Sound state) (found : state.creates[number]? = some create)
    (requested : create.request = .returned sandbox)
    (creates : after.creates = (state.setPhase number .raised).creates)
    (objects : after.objects = state.objects) (unkilled : ¬ KilledOnce after sandbox) :
    ¬ NothingLeaked after := by
  obtain ⟨object, present, rfl⟩ := sound.own number create sandbox found requested
  have raised : after.creates[object.create]? = some { create with phase := .raised } := by
    rw [creates]
    change (state.creates.modify object.create _)[object.create]? = _
    rw [getElem?_modify_eq, found]
    rfl
  rw [← objects] at present
  exact not_nothingLeaked _ present raised rfl (.inl rfl) unkilled

theorem Sound.leaked_of_unable (sound : Sound state) {waiting : CreatePhase}
    (found : state.creates[number]? = some create)
    (before : Stage create.request (.killPending sandbox)
      (state.sandboxes.get? create.trajectoryId) (fun sandbox => state.kills.count sandbox))
    (unable : state.hasKill sandbox = false) :
    ¬ NothingLeaked (state.bestEffortKill number sandbox waiting) := by
  unfold Provider.bestEffortKill
  rw [unable, if_neg Bool.false_ne_true]
  apply sound.leaked_of_raised found before.1 rfl rfl
  intro killed
  have once : state.kills.count sandbox = 1 := killed.1
  have never : state.kills.count sandbox = 0 := before.2.2
  omega

theorem Sound.spares_of_nothingLeaked (sound : Sound state) {event : Event}
    (nothing : NothingLeaked (E2B.step state event)) : Spares state event := by
  constructor
  · intro sandbox begins
    by_contra unable
    rw [Bool.not_eq_true] at unable
    unfold beginsKill at begins
    split at begins
    · next number =>
        split at begins
        · next remaining found =>
            injection begins with same
            subst same
            have stage := sound.stages number _ found
            simp only [E2B.step, Provider.cancelCreate, found] at nothing
            exact sound.leaked_of_unable found stage unable nothing
        · cases begins
    · next number succeeded =>
        split at begins
        · next current remaining found =>
            split at begins
            · next broken =>
                injection begins with same
                subst same
                have stage := sound.stages number _ found
                simp only [E2B.step, Provider.finishSetupStep, found] at nothing
                rw [if_pos broken] at nothing
                exact sound.leaked_of_unable found stage unable nothing
            · cases begins
        · cases begins
    · next number =>
        split at begins
        · next found =>
            injection begins with same
            subst same
            have stage := sound.stages number _ found
            simp only [E2B.step, Provider.startKill, found] at nothing
            exact sound.leaked_of_unable found stage unable nothing
        · cases begins
    · next trajectoryId =>
        obtain ⟨number, create, found, rfl, phase, requested, unkilled⟩ := sound.stored_by begins
        obtain ⟨object, present, rfl⟩ := sound.own number create sandbox found requested
        simp only [E2B.step, Provider.terminate, begins, unable, Bool.false_eq_true,
          if_false] at nothing
        refine absurd nothing (not_nothingLeaked _ present found (by rw [phase]; rfl)
          (.inr (get?_pop_self _ _)) ?_)
        intro killed
        have once : state.kills.count sandbox = 1 := killed.1
        omega
    · cases begins
  · by_contra disturbed
    rw [Bool.not_eq_false] at disturbed
    unfold interruptsKill at disturbed
    split at disturbed
    · next number =>
        split at disturbed
        · next sandbox found =>
            have stage := sound.stages number _ found
            simp only [E2B.step, Provider.cancelCreate, found] at nothing
            refine absurd nothing (sound.leaked_of_raised found stage.1 rfl rfl ?_)
            exact fun killed => killed.2 (mem_append_right _ (mem_singleton_self _))
        · cases disturbed
    · next call =>
        split at disturbed
        · next sandbox waiting =>
            obtain ⟨number, create, found, phase, gone⟩ :=
              sound.terminating sandbox (mem_of_getElem? waiting)
            have stage := sound.stages number create found
            unfold Provider.stageOf at stage
            rw [phase] at stage
            obtain ⟨object, present, rfl⟩ := sound.own number create sandbox found stage.1
            simp only [E2B.step, Provider.cancelTerminate, waiting] at nothing
            refine absurd nothing (not_nothingLeaked _ present found (by rw [phase]; rfl)
              (.inr gone) ?_)
            exact fun killed => killed.2 (mem_append_right _ (mem_singleton_self _))
        · cases disturbed
    · cases disturbed

/-- No sandbox is leaked throughout a run if and only if no cancellation meets an
unshielded kill() and every sandbox that has to go can be killed. -/
theorem nothing_leaked_iff_spared (events : List Event) :
    (∀ past, past <+: events → NothingLeaked (Runs.run step Provider.initial past)) ↔
      Runs.Admits step Spares Provider.initial events := by
  refine Runs.holds_iff_admits ?_ ?_ ?_ sound_initial events
  · exact fun _ _ sound spares => sound.step spares
  · exact fun _ sound => sound.nothingLeaked
  · exact fun _ _ sound nothing => sound.spares_of_nothingLeaked nothing

def cancelledSetupKill : List Event :=
  [.startCreate "trajectory" [.command], .requestReturns 0 true, .resumeCreate 0,
    .finishSetupStep 0 false, .cancelCreate 0]

def cancelledTerminate : List Event :=
  [.startCreate "trajectory" [], .requestReturns 0 true, .resumeCreate 0,
    .terminate "trajectory", .cancelTerminate 0]

theorem cancelled_kill_leaks :
    ¬ NothingLeaked (Runs.run step Provider.initial cancelledSetupKill) ∧
      ¬ NothingLeaked (Runs.run step Provider.initial cancelledTerminate) := by
  constructor
  · refine not_nothingLeaked 0 rfl rfl rfl (.inl rfl) ?_
    exact fun killed => killed.2 (by decide)
  · refine not_nothingLeaked 0 rfl rfl rfl (.inr rfl) ?_
    exact fun killed => killed.2 (by decide)

end Dressage.Sandbox.E2B
