/-
The accounts of a turn scope.

A scope counts a request in when it enters and out where its handler or its response stream says
so. Some awaits and the preparation of the body stand outside of every `try`: a request that
breaks off there is never counted out.
-/

import Dressage.Lib.Lists
import Dressage.Lib.Runs
import Dressage.Blackbox.ProxyRequests

namespace Dressage.Blackbox.ProxyRequests

open Lib List Option

variable {Number : Type}

def underWay (scope : ScopeId) (request : Request Number) : Bool :=
  request.scope == some scope && request.phase != .ended

def Proxy.active (proxy : Proxy Number) (scope : ScopeId) : Nat :=
  proxy.requests.countP (underWay scope)

def Proxy.stepsOf (proxy : Proxy Number) (scope : ScopeId) : List Nat :=
  (proxy.steps.filter (fun given => given.1 = scope)).map Prod.snd

/-- The accounts of a scope with `lost` requests that were never counted out. -/
structure Accounts (config : ProxyConfig Number) (proxy : Proxy Number) (lost : ScopeId → Nat)
    (scopeId : ScopeId) (scope : TurnScope) : Prop where
  counted : scope.inflightRequests = proxy.active scopeId + lost scopeId
  drained : scope.drained = true ↔ scope.inflightRequests = 0
  steps : proxy.stepsOf scopeId = List.range scope.stepCounter
  bounded : ∀ maxSteps, config.maxSteps = some maxSteps → scope.stepCounter ≤ maxSteps

structure Sound (config : ProxyConfig Number) (lost : ScopeId → Nat) (proxy : Proxy Number) :
    Prop where
  current : ∀ scopeId, proxy.turnScope = some scopeId → scopeId < proxy.scopes.length
  entered : ∀ request ∈ proxy.requests, ∀ scopeId, request.scope = some scopeId →
    scopeId < proxy.scopes.length
  waiting : ∀ request ∈ proxy.requests, request.phase = .waiting → request.scope = none
  accounts : ∀ scopeId scope, proxy.scopes[scopeId]? = some scope →
    Accounts config proxy lost scopeId scope
  unused : ∀ scopeId, proxy.scopes.length ≤ scopeId → lost scopeId = 0 ∧ proxy.stepsOf scopeId = []

theorem sound_init (config : ProxyConfig Number) :
    Sound config (fun _ => 0) (Proxy.init : Proxy Number) := by
  constructor
  · intro scopeId impossible
    cases impossible
  · intro request impossible
    cases impossible
  · intro request impossible
    cases impossible
  · intro scopeId scope impossible
    cases impossible
  · exact fun scopeId _ => ⟨rfl, rfl⟩

variable {proxy : Proxy Number} {number : Nat} {request : Request Number}
variable {config : ProxyConfig Number} {lost : ScopeId → Nat}

theorem mem_setRequest {other : Request Number} {change : Request Number → Request Number}
    (found : proxy.requests[number]? = some request)
    (member : other ∈ proxy.requests.modify number change) :
    other = change request ∨ other ∈ proxy.requests := by
  rcases Lists.mem_modify member with old | ⟨before, atBefore, same⟩
  · exact .inr old
  · rw [found, some_inj] at atBefore
    exact .inl (atBefore ▸ same)

theorem Sound.setRequest {gone : ScopeId → Nat} (sound : Sound config lost proxy)
    (found : proxy.requests[number]? = some request) {change : Request Number → Request Number}
    (sameScope : (change request).scope = request.scope)
    (leaves : (change request).phase ≠ .waiting)
    (counted : ∀ scopeId, (if underWay scopeId request then 1 else 0) + lost scopeId =
      (if underWay scopeId (change request) then 1 else 0) + gone scopeId) :
    Sound config gone (proxy.setRequest number change) := by
  have member : request ∈ proxy.requests := mem_of_getElem? found
  constructor
  · exact sound.current
  · intro other inRequests scopeId inScope
    rcases mem_setRequest found inRequests with rfl | old
    · exact sound.entered request member scopeId (sameScope ▸ inScope)
    · exact sound.entered other old scopeId inScope
  · intro other inRequests isWaiting
    rcases mem_setRequest found inRequests with rfl | old
    · exact absurd isWaiting leaves
    · exact sound.waiting other old isWaiting
  · intro scopeId scope present
    have before := sound.accounts scopeId scope present
    have changed := Lists.countP_modify (underWay scopeId) found change
    have balance := counted scopeId
    refine ⟨?_, before.drained, before.steps, before.bounded⟩
    have inflight := before.counted
    unfold Proxy.active Proxy.setRequest at *
    simp only
    omega
  · intro scopeId beyond
    have beyond : proxy.scopes.length ≤ scopeId := beyond
    have foreign : ∀ other : Request Number, other.scope = request.scope →
        underWay scopeId other = false := by
      intro other same
      unfold underWay
      by_cases inScope : other.scope = some scopeId
      · have lower := sound.entered request member scopeId (same ▸ inScope)
        exact absurd lower (Nat.not_lt.mpr beyond)
      · simp [inScope]
    have balance := counted scopeId
    rw [foreign request rfl, foreign (change request) sameScope] at balance
    have before := sound.unused scopeId beyond
    refine ⟨?_, before.2⟩
    simp only [Bool.false_eq_true, if_false] at balance
    omega

def lose (lost : ScopeId → Nat) (scope : Option ScopeId) (scopeId : ScopeId) : Nat :=
  lost scopeId + if scope = some scopeId then 1 else 0

theorem lose_none (lost : ScopeId → Nat) : lose lost none = lost := by
  funext scopeId
  simp [lose]

theorem Sound.move (sound : Sound config lost proxy)
    (found : proxy.requests[number]? = some request) (started : request.phase ≠ .ended)
    {phase : Phase} (leaves : phase ≠ .waiting) (goesOn : phase ≠ .ended) :
    Sound config lost (proxy.move number phase) := by
  apply sound.setRequest found rfl leaves
  intro scopeId
  simp [underWay, started, goesOn]

theorem Sound.drop (sound : Sound config lost proxy)
    (found : proxy.requests[number]? = some request) (started : request.phase ≠ .ended) :
    Sound config (lose lost request.scope) (proxy.move number .ended) := by
  apply sound.setRequest found rfl
  · intro impossible
    cases impossible
  · intro scopeId
    by_cases inScope : request.scope = some scopeId
    · simp [underWay, started, lose, inScope]
      omega
    · simp [underWay, lose, inScope]

theorem Sound.mark {scope : Option ScopeId} (sound : Sound config (lose lost scope) proxy) :
    Sound config lost (proxy.markRequestFinished scope) := by
  cases scope with
  | none =>
    rw [lose_none] at sound
    exact sound
  | some own =>
    have length : (proxy.scopes.modify own TurnScope.finish).length = proxy.scopes.length :=
      length_modify _ _ _
    constructor
    · intro scopeId isCurrent
      exact Nat.lt_of_lt_of_eq (sound.current scopeId isCurrent) length.symm
    · intro request member scopeId inScope
      exact Nat.lt_of_lt_of_eq (sound.entered request member scopeId inScope) length.symm
    · exact sound.waiting
    · intro scopeId scope present
      change (proxy.scopes.modify own TurnScope.finish)[scopeId]? = some scope at present
      rw [getElem?_modify] at present
      obtain ⟨old, oldPresent, rfl⟩ := map_eq_some_iff.mp present
      have before := sound.accounts scopeId old oldPresent
      have counted := before.counted
      by_cases same : own = scopeId
      · subst same
        rw [if_pos rfl]
        simp only [lose, if_true] at counted
        refine { before with counted := ?_, drained := ?_ }
        · change old.inflightRequests - 1 = proxy.active own + lost own
          omega
        · change (old.drained || decide (old.inflightRequests ≤ 1)) = true ↔
            old.inflightRequests - 1 = 0
          rw [Bool.or_eq_true, before.drained, decide_eq_true_iff]
          omega
      · rw [if_neg same]
        simp only [lose, some_inj, if_neg same] at counted
        exact ⟨counted, before.drained, before.steps, before.bounded⟩
    · intro scopeId beyond
      have before := sound.unused scopeId (length ▸ beyond)
      refine ⟨?_, before.2⟩
      have lostNow := before.1
      unfold lose at lostNow
      omega

section

variable (sound : Sound config lost proxy)
include sound

theorem Sound.finish (found : proxy.requests[number]? = some request)
    (started : request.phase ≠ .ended) :
    Sound config lost (proxy.finish number request) := by
  have marked := (sound.drop found started).mark
  unfold Proxy.finish
  cases inScope : request.scope with
  | none | some scopeId =>
    rw [inScope] at marked
    exact marked

theorem Sound.enter (found : proxy.requests[number]? = some request)
    (isWaiting : request.phase = .waiting) {own : ScopeId} {scope : TurnScope}
    (present : proxy.scopes[own]? = some scope)
    (below : ¬ Proxy.exceedsMaxSteps config scope = true) {phase : Phase}
    (leaves : phase ≠ .waiting) :
    Sound config (lose lost (if phase = .ended then some own else none))
      { proxy with
        scopes := proxy.scopes.modify own TurnScope.enter
        requests := proxy.requests.modify number (fun request =>
          { request with
            phase := phase
            scope := some own })
        steps := proxy.steps ++ [(own, scope.stepCounter)] } := by
  have length : (proxy.scopes.modify own TurnScope.enter).length = proxy.scopes.length :=
    length_modify _ _ _
  have lower : own < proxy.scopes.length := (List.getElem_of_getElem? present).1
  have member : request ∈ proxy.requests := mem_of_getElem? found
  have outside : request.scope = none := sound.waiting request member isWaiting
  constructor
  · intro scopeId isCurrent
    exact Nat.lt_of_lt_of_eq (sound.current scopeId isCurrent) length.symm
  · intro other inRequests scopeId inScope
    rcases mem_setRequest found inRequests with rfl | old
    · cases inScope
      exact Nat.lt_of_lt_of_eq lower length.symm
    · exact Nat.lt_of_lt_of_eq (sound.entered other old scopeId inScope) length.symm
  · intro other inRequests stillWaiting
    rcases mem_setRequest found inRequests with rfl | old
    · exact absurd stillWaiting leaves
    · exact sound.waiting other old stillWaiting
  · intro scopeId after presentNow
    have presentNow : (proxy.scopes.modify own TurnScope.enter)[scopeId]? = some after := presentNow
    rw [getElem?_modify] at presentNow
    obtain ⟨old, oldPresent, rfl⟩ := map_eq_some_iff.mp presentNow
    have before := sound.accounts scopeId old oldPresent
    have counted := before.counted
    have changed := Lists.countP_modify (underWay scopeId) found
      (fun request : Request Number =>
        { request with
          phase := phase
          scope := some own })
    by_cases same : own = scopeId
    · subst same
      rw [present, some_inj] at oldPresent
      subst oldPresent
      rw [if_pos rfl]
      constructor
      · unfold Proxy.active at *
        simp only [underWay, outside, lose, TurnScope.enter] at *
        by_cases done : phase = .ended
        · simp [done] at changed ⊢
          omega
        · simp [done] at changed ⊢
          omega
      · constructor
        · intro impossible
          cases impossible
        · intro impossible
          cases impossible
      · unfold Proxy.stepsOf
        rw [filter_append, map_append]
        change proxy.stepsOf own ++ _ = List.range (scope.stepCounter + 1)
        rw [before.steps, range_succ]
        simp
      · intro maxSteps limited
        unfold Proxy.exceedsMaxSteps at below
        rw [limited] at below
        simp only [any_some, decide_eq_true_eq] at below
        change scope.stepCounter + 1 ≤ maxSteps
        omega
    · rw [if_neg same]
      refine ⟨?_, before.drained, ?_, before.bounded⟩
      · unfold Proxy.active at *
        have notNew : (if phase = .ended then some own else none) ≠ some scopeId := by
          split
          · simpa using same
          · simp
        have neither : underWay scopeId request = false := by
          simp [underWay, outside]
        have afterwards : underWay scopeId
            { request with
              phase := phase
              scope := some own } = false := by
          simp [underWay, same]
        rw [neither, afterwards] at changed
        rw [lose, if_neg notNew]
        change old.inflightRequests = _ + (lost scopeId + 0)
        rw [counted]
        exact congrArg (fun count => count + lost scopeId) changed.symm
      · unfold Proxy.stepsOf
        rw [filter_append, map_append]
        change proxy.stepsOf scopeId ++ _ = _
        rw [before.steps]
        simp [same]
  · intro scopeId beyond
    have beyond : proxy.scopes.length ≤ scopeId := length ▸ beyond
    have before := sound.unused scopeId beyond
    have other : own ≠ scopeId := by
      rintro rfl
      exact absurd lower (Nat.not_lt.mpr beyond)
    have notNew : (if phase = .ended then some own else none) ≠ some scopeId := by
      split
      · simpa using other
      · simp
    constructor
    · unfold lose
      rw [before.1, if_neg notNew]
    · unfold Proxy.stepsOf
      rw [filter_append, map_append]
      change proxy.stepsOf scopeId ++ _ = _
      rw [before.2]
      simp [other]

/-- What the accounts do not read may change. -/
theorem Sound.rescope (own : ScopeId) {change : TurnScope → TurnScope}
    (inflight : ∀ scope, (change scope).inflightRequests = scope.inflightRequests)
    (drained : ∀ scope, (change scope).drained = scope.drained)
    (steps : ∀ scope, (change scope).stepCounter = scope.stepCounter) :
    Sound config lost (proxy.setScope own change) := by
  have length : (proxy.scopes.modify own change).length = proxy.scopes.length :=
    length_modify _ _ _
  constructor
  · intro scopeId isCurrent
    exact Nat.lt_of_lt_of_eq (sound.current scopeId isCurrent) length.symm
  · intro request member scopeId inScope
    exact Nat.lt_of_lt_of_eq (sound.entered request member scopeId inScope) length.symm
  · exact sound.waiting
  · intro scopeId scope present
    change (proxy.scopes.modify own change)[scopeId]? = some scope at present
    rw [getElem?_modify] at present
    obtain ⟨old, oldPresent, rfl⟩ := map_eq_some_iff.mp present
    have before := sound.accounts scopeId old oldPresent
    split
    · constructor
      · rw [inflight]
        exact before.counted
      · rw [inflight, drained]
        exact before.drained
      · rw [steps]
        exact before.steps
      · rw [steps]
        exact before.bounded
    · exact ⟨before.counted, before.drained, before.steps, before.bounded⟩
  · intro scopeId beyond
    exact sound.unused scopeId (length ▸ beyond)

end

def dropped : Phase → Progress → Bool
  | .readingError, .errorRead raises => raises
  | .readingError, .interrupted => true
  | .prelude, .errorFrame raises => raises
  | .closing _, .interrupted => true
  | .ready, .interrupted => true
  | _, _ => false

def Proxy.admittingScope (config : ProxyConfig Number) (proxy : Proxy Number) : Option ScopeId :=
  if proxy.paused then none
  else
    proxy.turnScope.filter (fun scopeId =>
      (proxy.scopes[scopeId]?).any (fun scope => !Proxy.exceedsMaxSteps config scope))

variable [DecidableEq Number] [Zero Number] [One Number]

/-- The scope under which this step ends a request without marking it as finished. -/
def unmarkedScope (config : ProxyConfig Number) (proxy : Proxy Number) :
    Event Number → Option ScopeId
  | .proceed number progress =>
    match proxy.requests[number]? with
    | none => none
    | some request =>
      if request.phase = .waiting then
        if progress = .enter ∧ proxy.preparationRaises config request = true then
          proxy.admittingScope config
        else none
      else if dropped request.phase progress then request.scope
      else none
  | _ => none

def Marks (config : ProxyConfig Number) (proxy : Proxy Number) (event : Event Number) : Prop :=
  unmarkedScope config proxy event = none

instance (config : ProxyConfig Number) (proxy : Proxy Number) (event : Event Number) :
    Decidable (Marks config proxy event) :=
  inferInstanceAs (Decidable (_ = none))

omit [DecidableEq Number] [Zero Number] [One Number] in
section

variable (sound : Sound config lost proxy)
include sound

theorem Sound.openTurn (turnId : String) (backendSessionId : Option String) :
    Sound config lost (proxy.openTurn turnId backendSessionId) := by
  unfold Proxy.openTurn
  split
  · exact sound
  · constructor
    · intro scopeId isCurrent
      cases isCurrent
      simp
    · intro request member scopeId inScope
      have lower := sound.entered request member scopeId inScope
      simp only [length_append, length_singleton]
      exact Nat.lt_succ_of_lt lower
    · exact sound.waiting
    · intro scopeId scope present
      by_cases old : scopeId < proxy.scopes.length
      · have present : (proxy.scopes ++ [TurnScope.opened turnId backendSessionId])[scopeId]? =
            some scope := present
        rw [getElem?_append_left old] at present
        have before := sound.accounts scopeId scope present
        exact ⟨before.counted, before.drained, before.steps, before.bounded⟩
      · obtain ⟨bound, same⟩ := List.getElem_of_getElem? present
        simp only [length_append, length_singleton] at bound
        have last : scopeId = proxy.scopes.length :=
          Nat.le_antisymm (Nat.le_of_lt_succ bound) (Nat.not_lt.mp old)
        subst last
        have fresh := sound.unused proxy.scopes.length (Nat.le_refl _)
        have alone : proxy.active proxy.scopes.length = 0 := by
          apply countP_eq_zero.mpr
          intro request member isUnderWay
          unfold underWay at isUnderWay
          rw [Bool.and_eq_true, beq_iff_eq] at isUnderWay
          exact Nat.lt_irrefl _ (sound.entered request member _ isUnderWay.1)
        have opened : scope = TurnScope.opened turnId backendSessionId := by
          rw [← same]
          simp
        subst opened
        constructor
        · change 0 = proxy.active proxy.scopes.length + lost proxy.scopes.length
          rw [alone, fresh.1]
        · exact ⟨fun _ => rfl, fun _ => rfl⟩
        · exact fresh.2
        · exact fun maxSteps _ => Nat.zero_le maxSteps
    · intro scopeId beyond
      simp only [length_append, length_singleton] at beyond
      exact sound.unused scopeId (Nat.le_of_succ_le beyond)

omit [DecidableEq Number] [Zero Number] [One Number] in
theorem Sound.append (outside : request.scope = none) :
    Sound config lost { proxy with requests := proxy.requests ++ [request] } := by
  refine { sound with entered := ?_, waiting := ?_, accounts := ?_ }
  · intro other member scopeId inScope
    rcases mem_append.mp member with old | new
    · exact sound.entered other old scopeId inScope
    · rw [mem_singleton.mp new, outside] at inScope
      cases inScope
  · intro other member isWaiting
    rcases mem_append.mp member with old | new
    · exact sound.waiting other old isWaiting
    · rw [mem_singleton.mp new]
      exact outside
  · intro scopeId scope present
    have before := sound.accounts scopeId scope present
    refine ⟨?_, before.drained, before.steps, before.bounded⟩
    rw [before.counted]
    unfold Proxy.active
    simp [underWay, outside]

omit [DecidableEq Number] [Zero Number] [One Number] in
theorem Sound.resequence (sequence : Nat) :
    Sound config lost { proxy with samplingRequestSequence := sequence } := by
  refine ⟨sound.current, sound.entered, sound.waiting, ?_, sound.unused⟩
  intro scopeId scope present
  have before := sound.accounts scopeId scope present
  exact ⟨before.counted, before.drained, before.steps, before.bounded⟩

omit [DecidableEq Number] [Zero Number] [One Number] in
theorem Sound.arrive (kind : RequestKind) (body : Option (Body Number)) :
    Sound config lost (proxy.arrive config kind body) := by
  unfold Proxy.arrive
  split
  · exact sound.append rfl
  · split
    · exact sound
    · exact sound.append rfl

end

theorem forward_of_raises (raises : proxy.preparationRaises config request = true) (number : Nat) :
    ∃ sequence, proxy.forward config number request =
      { proxy.move number .ended with samplingRequestSequence := sequence } := by
  unfold Proxy.forward
  rw [if_pos raises]
  exact ⟨_, rfl⟩

theorem forward_of_not_raises (prepared : ¬ proxy.preparationRaises config request = true)
    (number : Nat) : ∃ sequence, proxy.forward config number request =
      { proxy.move number .sending with samplingRequestSequence := sequence } := by
  unfold Proxy.forward
  rw [if_neg prepared]
  exact ⟨_, rfl⟩

section

variable (sound : Sound config lost proxy)
include sound

theorem Sound.enterChatRequest (found : proxy.requests[number]? = some request)
    (isWaiting : request.phase = .waiting) :
    Sound config
      (lose lost
        (if proxy.preparationRaises config request = true then proxy.admittingScope config
          else none))
      (proxy.enterChatRequest config number request) := by
  have started : request.phase ≠ .ended := by
    rw [isWaiting]
    intro impossible
    cases impossible
  have outside : request.scope = none :=
    sound.waiting request (mem_of_getElem? found) isWaiting
  unfold Proxy.enterChatRequest Proxy.admittingScope
  by_cases paused : proxy.paused = true
  · rw [if_pos paused, if_pos paused, ite_self, lose_none]
    exact sound
  · rw [if_neg paused, if_neg paused]
    cases current : proxy.turnScope with
    | none =>
      rw [filter_none, ite_self, lose_none]
      by_cases raises : proxy.preparationRaises config request = true
      · have ended := sound.drop found started
        rw [outside, lose_none] at ended
        obtain ⟨sequence, same⟩ := forward_of_raises raises number
        simp only [same]
        exact ended.resequence sequence
      · have sent : Sound config lost (proxy.move number .sending) :=
          sound.move found started (by decide) (by decide)
        obtain ⟨sequence, same⟩ := forward_of_not_raises raises number
        simp only [same]
        exact sent.resequence sequence
    | some own =>
      have lower := sound.current own current
      have present : proxy.scopes[own]? = some (proxy.scopes[own]) :=
        getElem?_eq_getElem lower
      simp only [present, filter_some, any_some]
      by_cases exceeds : Proxy.exceedsMaxSteps config (proxy.scopes[own]) = true
      · have refused : Sound config (lose lost request.scope)
            ((proxy.move number .ended).setScope own
              (fun scope => { scope with maxStepsExceeded := true })) :=
          (sound.drop found started).rescope own (fun _ => rfl) (fun _ => rfl) (fun _ => rfl)
        rw [outside, lose_none] at refused
        rw [if_pos exceeds, exceeds]
        simp only [Bool.not_true, Bool.false_eq_true, if_false, ite_self, lose_none]
        exact refused
      · rw [if_neg exceeds, Bool.eq_false_iff.mpr exceeds]
        simp only [Bool.not_false, if_true]
        have entered : ∀ phase : Phase, phase ≠ .waiting →
            Sound config (lose lost (if phase = .ended then some own else none))
              ((proxy.countIn own (proxy.scopes[own]) number).move number phase) := by
          intro phase leaves
          have counted := sound.enter found isWaiting present exceeds leaves
          unfold Proxy.countIn Proxy.move Proxy.setRequest Proxy.setScope
          simp only [modify_modify_eq]
          exact counted
        by_cases raises : proxy.preparationRaises config request = true
        · have countedIn : (proxy.countIn own (proxy.scopes[own]) number).preparationRaises
              config request = true := raises
          obtain ⟨sequence, forwarded⟩ := forward_of_raises countedIn number
          have ended := (entered .ended (by decide)).resequence sequence
          rw [if_pos rfl] at ended
          rw [if_pos raises, forwarded]
          exact ended
        · have countedIn : ¬ (proxy.countIn own (proxy.scopes[own])
              number).preparationRaises config request = true := raises
          obtain ⟨sequence, forwarded⟩ := forward_of_not_raises countedIn number
          have sent := (entered .sending (by decide)).resequence sequence
          rw [if_neg (by decide)] at sent
          rw [if_neg raises, forwarded]
          exact sent

theorem Sound.proceed (found : proxy.requests[number]? = some request) (progress : Progress) :
    Sound config
      (lose lost
        (if request.phase = .waiting then
          if progress = .enter ∧ proxy.preparationRaises config request = true then
            proxy.admittingScope config
          else none
        else if dropped request.phase progress then request.scope
        else none))
      (proxy.proceed config number request progress) := by
  have keep : Sound config (lose lost none) proxy := by
    rw [lose_none]
    exact sound
  have goesOn : request.phase ≠ .ended → ∀ phase : Phase, phase ≠ .waiting → phase ≠ .ended →
      Sound config (lose lost none) (proxy.move number phase) := by
    intro started phase leaves notYet
    rw [lose_none]
    exact sound.move found started leaves notYet
  have finishes : request.phase ≠ .ended →
      Sound config (lose lost none) (proxy.finish number request) := by
    intro started
    rw [lose_none]
    exact sound.finish found started
  unfold Proxy.proceed
  cases phase : request.phase with
  | waiting =>
    have outside : request.scope = none :=
      sound.waiting request (mem_of_getElem? found) phase
    rw [phase] at goesOn finishes
    cases progress with
    | enter =>
      simp only [if_true, true_and]
      exact sound.enterChatRequest found phase
    | interrupted =>
      have ended := sound.drop found (by rw [phase]; decide)
      rw [outside] at ended
      simpa [Proxy.interrupt, phase] using ended
    | _ => simpa using keep
  | sending =>
    rw [phase] at goesOn finishes
    cases progress with
    | answered statusCode =>
      simp only [dropped]
      by_cases plain : request.streams = false
      · simpa [plain] using finishes (by decide)
      · by_cases failed : 400 ≤ statusCode
        · simpa [plain, failed] using goesOn (by decide) .readingError (by decide) (by decide)
        · simpa [plain, failed] using goesOn (by decide) .prelude (by decide) (by decide)
    | interrupted => simpa [dropped, Proxy.interrupt, phase] using finishes (by decide)
    | _ => simpa [dropped] using keep
  | readingError =>
    have ended := sound.drop found (by rw [phase]; decide)
    rw [phase] at goesOn finishes
    cases progress with
    | errorRead raises =>
      cases raises with
      | true => simpa [dropped] using ended
      | false =>
        simpa [dropped] using goesOn (by decide) (.closing .error) (by decide) (by decide)
    | interrupted => simpa [dropped, Proxy.interrupt, phase] using ended
    | _ => simpa [dropped] using keep
  | prelude =>
    have ended := sound.drop found (by rw [phase]; decide)
    rw [phase] at goesOn finishes
    cases progress with
    | firstFrame =>
      simpa [dropped] using goesOn (by decide) .ready (by decide) (by decide)
    | errorFrame raises =>
      cases raises with
      | true => simpa [dropped] using ended
      | false =>
        simpa [dropped] using goesOn (by decide) (.closing .error) (by decide) (by decide)
    | interrupted =>
      simpa [dropped, Proxy.interrupt, phase] using
        goesOn (by decide) (.closing .prelude) (by decide) (by decide)
    | _ => simpa [dropped] using keep
  | closing what =>
    have ended := sound.drop found (by rw [phase]; intro impossible; cases impossible)
    have finished := finishes (by rw [phase]; intro impossible; cases impossible)
    cases progress with
    | closed => simpa [dropped] using finished
    | interrupted => simpa [dropped, Proxy.interrupt, phase] using ended
    | _ => simpa [dropped] using keep
  | ready =>
    have ended := sound.drop found (by rw [phase]; decide)
    rw [phase] at goesOn finishes
    cases progress with
    | streamStarted =>
      simpa [dropped] using goesOn (by decide) .streaming (by decide) (by decide)
    | interrupted => simpa [dropped, Proxy.interrupt, phase] using ended
    | _ => simpa [dropped] using keep
  | streaming =>
    rw [phase] at goesOn finishes
    cases progress with
    | streamEnded =>
      simpa [dropped] using goesOn (by decide) (.closing .stream) (by decide) (by decide)
    | interrupted =>
      simpa [dropped, Proxy.interrupt, phase] using
        goesOn (by decide) (.closing .stream) (by decide) (by decide)
    | _ => simpa [dropped] using keep
  | ended =>
    cases progress with
    | interrupted => simpa [dropped, Proxy.interrupt, phase] using keep
    | _ => simpa [dropped] using keep

theorem Sound.step (event : Event Number) :
    Sound config (lose lost (unmarkedScope config proxy event)) (step config proxy event) := by
  have same : Sound config (lose lost none) proxy := by
    rw [lose_none]
    exact sound
  cases event with
  | openTurn turnId backendSessionId => exact same.openTurn turnId backendSessionId
  | clearTurn =>
    refine ⟨?_, same.entered, same.waiting, ?_, same.unused⟩
    · intro scopeId impossible
      cases impossible
    · intro scopeId scope present
      have before := same.accounts scopeId scope present
      exact ⟨before.counted, before.drained, before.steps, before.bounded⟩
  | pause | resume =>
    refine ⟨same.current, same.entered, same.waiting, ?_, same.unused⟩
    intro scopeId scope present
    have before := same.accounts scopeId scope present
    exact ⟨before.counted, before.drained, before.steps, before.bounded⟩
  | arrive kind body => exact same.arrive kind body
  | proceed number progress =>
    unfold ProxyRequests.step unmarkedScope
    cases found : proxy.requests[number]? with
    | none =>
      simp only [found]
      exact same
    | some request =>
      simp only [found]
      exact sound.proceed found progress

end

structure TurnAccounted (config : ProxyConfig Number) (proxy : Proxy Number) : Prop where
  inflight : ∀ (scopeId : ScopeId) (scope : TurnScope), proxy.scopes[scopeId]? = some scope →
    scope.inflightRequests = proxy.active scopeId
  drained : ∀ (scopeId : ScopeId) (scope : TurnScope), proxy.scopes[scopeId]? = some scope →
    (scope.drained = true ↔ scope.inflightRequests = 0)
  steps : ∀ (scopeId : ScopeId) (scope : TurnScope), proxy.scopes[scopeId]? = some scope →
    proxy.stepsOf scopeId = List.range scope.stepCounter
  below : ∀ maxSteps, config.maxSteps = some maxSteps →
    ∀ (scopeId : ScopeId) (scope : TurnScope), proxy.scopes[scopeId]? = some scope →
      ∀ step ∈ proxy.stepsOf scopeId, step < maxSteps

omit [DecidableEq Number] [Zero Number] [One Number] in
theorem Sound.accounted (sound : Sound config (fun _ => 0) proxy) : TurnAccounted config proxy := by
  constructor
  · exact fun scopeId scope present => (sound.accounts scopeId scope present).counted
  · exact fun scopeId scope present => (sound.accounts scopeId scope present).drained
  · exact fun scopeId scope present => (sound.accounts scopeId scope present).steps
  · intro maxSteps limited scopeId scope present step given
    have accounts := sound.accounts scopeId scope present
    rw [accounts.steps, mem_range] at given
    exact Nat.lt_of_lt_of_le given (accounts.bounded maxSteps limited)

omit [DecidableEq Number] [Zero Number] [One Number] in
theorem Sound.lost_eq_zero (sound : Sound config lost proxy)
    (accounted : TurnAccounted config proxy) : lost = fun _ => 0 := by
  funext scopeId
  by_cases lower : scopeId < proxy.scopes.length
  · have present := getElem?_eq_getElem lower
    have counted := (sound.accounts scopeId _ present).counted
    rw [accounted.inflight scopeId _ present] at counted
    omega
  · exact (sound.unused scopeId (Nat.not_lt.mp lower)).1

theorem sound_run (config : ProxyConfig Number) (events : List (Event Number)) :
    ∃ lost, Sound config lost (Runs.run (step config) Proxy.init events) := by
  have preserved : ∀ (proxy : Proxy Number) (event : Event Number),
      (∃ lost, Sound config lost proxy) → ∃ lost, Sound config lost (step config proxy event) :=
    fun proxy event ⟨_, sound⟩ => ⟨_, sound.step event⟩
  exact Runs.run_preserves preserved ⟨_, sound_init config⟩ events

theorem drained_and_steps_run (config : ProxyConfig Number) (events : List (Event Number))
    {scopeId : ScopeId} {scope : TurnScope}
    (present : (Runs.run (step config) Proxy.init events).scopes[scopeId]? = some scope) :
    (scope.drained = true ↔ scope.inflightRequests = 0) ∧
      (Runs.run (step config) Proxy.init events).stepsOf scopeId = List.range scope.stepCounter ∧
      (Runs.run (step config) Proxy.init events).active scopeId ≤ scope.inflightRequests := by
  obtain ⟨lost, sound⟩ := sound_run config events
  have accounts := sound.accounts scopeId scope present
  refine ⟨accounts.drained, accounts.steps, ?_⟩
  rw [accounts.counted]
  exact Nat.le_add_right _ _

/-- The accounts are right throughout a run if and only if every request is counted out. -/
theorem accounted_iff_marked (config : ProxyConfig Number) (events : List (Event Number)) :
    (∀ past, past <+: events →
        TurnAccounted config (Runs.run (step config) Proxy.init past)) ↔
      Runs.Admits (step config) (Marks config) Proxy.init events := by
  constructor
  · intro accounted
    apply Runs.admits_of_prefixes
    intro past event early
    obtain ⟨lost, sound⟩ := sound_run config past
    have before : past <+: events := (prefix_append past [event]).trans early
    have none : lost = fun _ => 0 := sound.lost_eq_zero (accounted past before)
    have after := sound.step event
    have now := accounted (past ++ [event]) early
    rw [Runs.run_snoc] at now
    have zero := after.lost_eq_zero now
    unfold Marks
    cases unmarked : unmarkedScope config (Runs.run (step config) Proxy.init past) event with
    | none => rfl
    | some scopeId =>
      have atScope := congrFun zero scopeId
      rw [unmarked, none] at atScope
      simp [lose] at atScope
  · intro marked past early
    have preserved : ∀ (proxy : Proxy Number) (event : Event Number),
        Sound config (fun _ => 0) proxy → Marks config proxy event →
          Sound config (fun _ => 0) (step config proxy event) := by
      intro proxy event sound isMarked
      have after := sound.step event
      rw [isMarked, lose_none] at after
      exact after
    exact (Runs.prefix_invariant preserved (sound_init config) marked early).accounted

def plainConfig : ProxyConfig Int :=
  { maxSteps := some 3
    defaultTemperature := none
    modelOverride := none
    samplingMode := none
    samplingTemperature := none
    samplingTopP := none
    samplingSeed := none
    toChatCompletion := fun _ _ => none
    summaryRaises := fun _ _ _ => false }

def nullMessages : List (Event Int) :=
  [.openTurn "turn-001" none,
    .arrive .chatCompletion (some (OrderedDict.empty.set (textOf "messages") .null)),
    .proceed 0 .enter]

def streamedChat : Event Int :=
  .arrive .chatCompletion (some (OrderedDict.empty.set (textOf "stream") (.bool true)))

def brokenErrorBody : List (Event Int) :=
  [.openTurn "turn-001" none, streamedChat, .proceed 0 .enter, .proceed 0 (.answered 500),
    .proceed 0 .interrupted]

def abandonedStream : List (Event Int) :=
  [.openTurn "turn-001" none, streamedChat, .proceed 0 .enter, .proceed 0 (.answered 200),
    .proceed 0 .firstFrame, .proceed 0 .interrupted]

theorem abandoned_stream_steps :
    (Runs.run (step plainConfig) Proxy.init abandonedStream).stepsOf 0 = [0] :=
  (@drained_and_steps_run Int _ _ _ plainConfig abandonedStream 0 _ rfl).2.1

def Stuck (proxy : Proxy Int) : Prop :=
  proxy.turnDrained = false ∧ proxy.active 0 = 0 ∧
    proxy.requests.map Request.phase = [.ended] ∧ proxy.scopes.map TurnScope.inflightRequests = [1]

theorem not_accounted_of_stuck {proxy : Proxy Int} (stuck : Stuck proxy) :
    ¬ TurnAccounted plainConfig proxy := by
  intro accounted
  obtain ⟨scope, present, inflight⟩ : ∃ scope, proxy.scopes[0]? = some scope ∧
      scope.inflightRequests = 1 := by
    have counts := congrArg (fun counts => counts[0]?) stuck.2.2.2
    simpa [getElem?_map] using counts
  have counted := accounted.inflight 0 scope present
  rw [inflight, stuck.2.1] at counted
  cases counted

theorem requests_not_counted_out :
    (Stuck (Runs.run (step plainConfig) Proxy.init nullMessages) ∧
      ¬ TurnAccounted plainConfig (Runs.run (step plainConfig) Proxy.init nullMessages)) ∧
    (Stuck (Runs.run (step plainConfig) Proxy.init brokenErrorBody) ∧
      ¬ TurnAccounted plainConfig (Runs.run (step plainConfig) Proxy.init brokenErrorBody)) ∧
    Stuck (Runs.run (step plainConfig) Proxy.init abandonedStream) ∧
      ¬ TurnAccounted plainConfig (Runs.run (step plainConfig) Proxy.init abandonedStream) := by
  have first : Stuck (Runs.run (step plainConfig) Proxy.init nullMessages) := by
    refine ⟨by decide, by decide, by decide, by decide⟩
  have second : Stuck (Runs.run (step plainConfig) Proxy.init brokenErrorBody) := by
    refine ⟨by decide, by decide, by decide, by decide⟩
  have third : Stuck (Runs.run (step plainConfig) Proxy.init abandonedStream) := by
    refine ⟨by decide, by decide, by decide, by decide⟩
  exact ⟨⟨first, not_accounted_of_stuck first⟩, ⟨second, not_accounted_of_stuck second⟩, third,
    not_accounted_of_stuck third⟩

end Dressage.Blackbox.ProxyRequests
