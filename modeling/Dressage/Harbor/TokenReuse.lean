/-
One token, one attempt, or why not.

A token is read by a second START only if the slot was not rotated since the first one, and
a slot is rotated by every attempt that closes its route. `_on_start` compares the token with
that of the last attempt that did rotate, which finds nothing. What is left is the route itself
and its tombstone, and that expires or is trimmed.
-/

import Dressage.Harbor.RouteTombstones

namespace Dressage.Harbor

open Lib List

namespace RouteJob

/-- No token is registered for two attempts, and no request of an attempt's agent is
recorded in the session of a later one. -/
structure TokenIdentifies (job : RouteJob) : Prop where
  once : ∀ (first second : Nat) (one other : AttemptRecord),
    job.attempts[first]? = some one → job.attempts[second]? = some other →
    one.registered = true → other.registered = true →
      one.tokenFingerprint = other.tokenFingerprint → first = second
  isolated : ∀ entry ∈ job.recorded, ¬ entry.1 < entry.2

def Reuses (job : RouteJob) (number : Nat) (record : AttemptRecord) : Prop :=
  ∃ (earlier : Nat) (before : AttemptRecord), earlier < number ∧
    job.attempts[earlier]? = some before ∧
    before.tokenFingerprint = record.tokenFingerprint

/-- A registration is for an attempt whose START found its slot rotated, or comes while the
earlier route is there or was closed a short time ago, or while the gateway takes no more. -/
def Guarded (job : RouteJob) : JobEvent → Prop
  | .register number true => ∀ record ∈ job.attempts[number]?, record.start = .submitted →
    record.clean = true ∨ (job.routes.get? record.tokenFingerprint).isSome = true ∨
      job.RecentlyClosed record.tokenFingerprint ∨
        job.limits.maxActiveRoutes ≤ job.routes.keys.length
  | _ => True

instance (job : RouteJob) : DecidablePred job.Guarded
  | .register number true => inferInstanceAs (Decidable (∀ record ∈ job.attempts[number]?,
    record.start = .submitted →
      record.clean = true ∨ (job.routes.get? record.tokenFingerprint).isSome = true ∨
        job.RecentlyClosed record.tokenFingerprint ∨
          job.limits.maxActiveRoutes ≤ job.routes.keys.length))
  | .register _ false | .tick _ | .createSlot _ | .start _ _ | .dropStart _ | .enter _ _
  | .turn _ _ | .request _ | .endExpiry _ | .endTrial _ | .closeAttempt _ | .endClose _ _
  | .settle _ => inferInstanceAs (Decidable True)

def ReuseRefused (job : RouteJob) (event : JobEvent) : Prop :=
  ∀ (number : Nat) (record : AttemptRecord), event = .register number true →
    job.attempts[number]? = some record → record.start = .submitted → job.Reuses number record →
      job.refuses record.tokenFingerprint = true

def Bound (job : RouteJob) (number : Nat) : Prop :=
  ∃ (binding : Nat) (route : RouteBinding),
    job.bindings[binding]? = some route ∧ route.attempt = number

structure Exclusive (job : RouteJob) : Prop where
  owner : ∀ (binding : Nat) (route : RouteBinding), job.bindings[binding]? = some route →
    ∃ record : AttemptRecord, job.attempts[route.attempt]? = some record ∧
      record.tokenFingerprint = route.token
  alone : ∀ (binding : Nat) (route : RouteBinding), job.bindings[binding]? = some route →
    ∀ (earlier : Nat) (record : AttemptRecord), earlier < route.attempt →
      job.attempts[earlier]? = some record →
      record.tokenFingerprint ≠ route.token
  routed : ∀ token binding, job.routes.get? token = some binding →
    ∃ route : RouteBinding, job.bindings[binding]? = some route ∧ route.token = token
  entering : ∀ (number : Nat) (record : AttemptRecord) (binding : Nat),
    job.attempts[number]? = some record → record.start = .entering binding → job.Bound number
  registered : ∀ (number : Nat) (record : AttemptRecord), job.attempts[number]? = some record →
    record.registered = true → job.Bound number
  isolated : ∀ entry ∈ job.recorded, ¬ entry.1 < entry.2

theorem initial_exclusive (limits : GatewayLimits) : Exclusive (initial limits) := by
  constructor
  · intro binding route found
    cases found
  · intro binding route found
    cases found
  · intro token binding found
    cases found
  · intro number record binding found
    cases found
  · intro number record found
    cases found
  · intro entry member
    cases member

theorem Exclusive.tokenIdentifies {job : RouteJob} (exclusive : Exclusive job) :
    TokenIdentifies job := by
  have later : ∀ (first second : Nat) (one other : AttemptRecord),
      job.attempts[first]? = some one → job.attempts[second]? = some other →
        other.registered = true →
        one.tokenFingerprint = other.tokenFingerprint → ¬ first < second := by
    intro first second one other atFirst atSecond registered same before
    obtain ⟨binding, route, found, isSecond⟩ :=
      exclusive.registered second other atSecond registered
    obtain ⟨record, isOwner, token⟩ := exclusive.owner binding route found
    rw [isSecond, atSecond, Option.some_inj] at isOwner
    subst record
    exact exclusive.alone binding route found first one (isSecond ▸ before) atFirst
      (same.trans token)
  refine
    { once := ?_
      isolated := exclusive.isolated }
  intro first second one other atFirst atSecond firstRegistered secondRegistered same
  rcases Nat.lt_trichotomy first second with before | equal | after
  · exact absurd before (later first second one other atFirst atSecond secondRegistered same)
  · exact equal
  · exact absurd after (later second first other one atSecond atFirst firstRegistered same.symm)

section Updates

variable {job : RouteJob}

theorem Exclusive.congr {other : RouteJob} (exclusive : Exclusive job)
    (attempts : other.attempts = job.attempts) (bindings : other.bindings = job.bindings)
    (routes : ∀ token binding, other.routes.get? token = some binding →
      job.routes.get? token = some binding)
    (recorded : other.recorded = job.recorded) : Exclusive other := by
  constructor
  · rw [bindings, attempts]
    exact exclusive.owner
  · rw [bindings, attempts]
    exact exclusive.alone
  · intro token binding found
    rw [bindings]
    exact exclusive.routed token binding (routes token binding found)
  · unfold Bound
    rw [bindings, attempts]
    exact exclusive.entering
  · unfold Bound
    rw [bindings, attempts]
    exact exclusive.registered
  · rw [recorded]
    exact exclusive.isolated

theorem pop_le (routes : OrderedDict Nat Nat) (key : Nat) :
    ∀ token binding, (routes.pop key).get? token = some binding →
      routes.get? token = some binding := by
  intro token binding found
  rw [OrderedDict.get?_pop] at found
  split at found
  · cases found
  · exact found

theorem getElem?_modify_some {α : Type} {items : List α} {number index : Nat} {change : α → α}
    {item : α} (found : (items.modify number change)[index]? = some item) :
    ∃ old, items[index]? = some old ∧ (item = old ∨ (index = number ∧ item = change old)) := by
  rw [getElem?_modify] at found
  obtain ⟨old, atIndex, same⟩ := Option.map_eq_some_iff.mp found
  refine ⟨old, atIndex, ?_⟩
  split at same
  · rename_i isNumber
    exact .inr ⟨isNumber.symm, same.symm⟩
  · exact .inl same.symm

theorem getElem?_modify_of_some {α : Type} {items : List α} {index : Nat} {old : α}
    (found : items[index]? = some old) (number : Nat) (change : α → α) :
    ∃ item, (items.modify number change)[index]? = some item ∧
      (item = old ∨ item = change old) := by
  rw [getElem?_modify, found]
  by_cases same : number = index
  · exact ⟨change old, by simp [same], .inr rfl⟩
  · exact ⟨old, by simp [same], .inl rfl⟩

section

variable (exclusive : Exclusive job)

include exclusive

theorem Exclusive.modifyBinding (number : Nat) {change : RouteBinding → RouteBinding}
    (sameAttempt : ∀ route, (change route).attempt = route.attempt)
    (sameToken : ∀ route, (change route).token = route.token) :
    Exclusive (job.modifyBinding number change) := by
  have back : ∀ (binding : Nat) (route : RouteBinding),
      (job.modifyBinding number change).bindings[binding]? = some route →
      ∃ old : RouteBinding, job.bindings[binding]? = some old ∧ route.attempt = old.attempt ∧
        route.token = old.token := by
    intro binding route found
    obtain ⟨old, atBinding, same | ⟨_, same⟩⟩ := getElem?_modify_some found
    · exact ⟨old, atBinding, by rw [same], by rw [same]⟩
    · exact ⟨old, atBinding, by rw [same, sameAttempt], by rw [same, sameToken]⟩
  have forth : ∀ (binding : Nat) (route : RouteBinding), job.bindings[binding]? = some route →
      ∃ item : RouteBinding, (job.modifyBinding number change).bindings[binding]? = some item ∧
        item.attempt = route.attempt ∧ item.token = route.token := by
    intro binding route found
    obtain ⟨item, atBinding, same | same⟩ := getElem?_modify_of_some found number change
    · exact ⟨item, atBinding, by rw [same], by rw [same]⟩
    · exact ⟨item, atBinding, by rw [same, sameAttempt], by rw [same, sameToken]⟩
  have bound : ∀ attempt, job.Bound attempt → (job.modifyBinding number change).Bound attempt := by
    rintro attempt ⟨binding, route, found, isAttempt⟩
    obtain ⟨item, atBinding, sameOwner, _⟩ := forth binding route found
    exact ⟨binding, item, atBinding, sameOwner.trans isAttempt⟩
  refine
    { owner := ?_
      alone := ?_
      routed := ?_
      entering := ?_
      registered := ?_
      isolated := exclusive.isolated }
  · intro binding route found
    obtain ⟨old, atBinding, attempt, token⟩ := back binding route found
    rw [attempt, token]
    exact exclusive.owner binding old atBinding
  · intro binding route found
    obtain ⟨old, atBinding, attempt, token⟩ := back binding route found
    rw [attempt, token]
    exact exclusive.alone binding old atBinding
  · intro token binding found
    obtain ⟨old, atBinding, isToken⟩ := exclusive.routed token binding found
    obtain ⟨item, isItem, _, same⟩ := forth binding old atBinding
    exact ⟨item, isItem, same.trans isToken⟩
  · intro attempt record binding found isEntering
    exact bound attempt (exclusive.entering attempt record binding found isEntering)
  · intro attempt record found registered
    exact bound attempt (exclusive.registered attempt record found registered)

theorem Exclusive.modifyAttempt (number : Nat) {change : AttemptRecord → AttemptRecord}
    (sameToken : ∀ record, (change record).tokenFingerprint = record.tokenFingerprint)
    (entering : ∀ record binding, job.attempts[number]? = some record →
      (change record).start = .entering binding → job.Bound number)
    (registered : ∀ record, job.attempts[number]? = some record →
      (change record).registered = true → job.Bound number) :
    Exclusive (job.modifyAttempt number change) := by
  have back : ∀ (index : Nat) (record : AttemptRecord),
      (job.modifyAttempt number change).attempts[index]? = some record →
      ∃ old : AttemptRecord, job.attempts[index]? = some old ∧
        record.tokenFingerprint = old.tokenFingerprint ∧
        (record = old ∨ (index = number ∧ record = change old)) := by
    intro index record found
    obtain ⟨old, atIndex, same | ⟨isNumber, same⟩⟩ := getElem?_modify_some found
    · exact ⟨old, atIndex, by rw [same], .inl same⟩
    · exact ⟨old, atIndex, by rw [same, sameToken], .inr ⟨isNumber, same⟩⟩
  refine
    { exclusive with
      owner := ?_
      alone := ?_
      entering := ?_
      registered := ?_ }
  · intro binding route found
    obtain ⟨record, isOwner, token⟩ := exclusive.owner binding route found
    obtain ⟨item, atOwner, same | same⟩ := getElem?_modify_of_some isOwner number change
    · exact ⟨item, atOwner, by rw [same, token]⟩
    · exact ⟨item, atOwner, by rw [same, sameToken, token]⟩
  · intro binding route found earlier record before atEarlier
    obtain ⟨old, atOld, token, _⟩ := back earlier record atEarlier
    rw [token]
    exact exclusive.alone binding route found earlier old before atOld
  · intro index record binding found isEntering
    obtain ⟨old, atOld, _, same | ⟨isNumber, same⟩⟩ := back index record found
    · rw [same] at isEntering
      exact exclusive.entering index old binding atOld isEntering
    · rw [same] at isEntering
      rw [isNumber] at atOld ⊢
      exact entering old binding atOld isEntering
  · intro index record found isRegistered
    obtain ⟨old, atOld, _, same | ⟨isNumber, same⟩⟩ := back index record found
    · rw [same] at isRegistered
      exact exclusive.registered index old atOld isRegistered
    · rw [same] at isRegistered
      rw [isNumber] at atOld ⊢
      exact registered old atOld isRegistered

theorem Exclusive.keepAttempt (number : Nat) {change : AttemptRecord → AttemptRecord}
    (sameToken : ∀ record, (change record).tokenFingerprint = record.tokenFingerprint)
    (start : ∀ record, (change record).start = record.start ∨ (change record).start = .over)
    (registered : ∀ record, (change record).registered = record.registered) :
    Exclusive (job.modifyAttempt number change) := by
  apply exclusive.modifyAttempt number sameToken
  · intro record binding found isEntering
    rcases start record with same | isOver
    · exact exclusive.entering number record binding found (same.symm.trans isEntering)
    · rw [isOver] at isEntering
      cases isEntering
  · intro record found isRegistered
    exact exclusive.registered number record found ((registered record).symm.trans isRegistered)

theorem cleanup_exclusive : Exclusive job.cleanupTombstones :=
  exclusive.congr rfl rfl (fun _ _ found => found) rfl

theorem entomb_exclusive (token : Nat) : Exclusive (job.entomb token) :=
  exclusive.congr rfl rfl (fun _ _ found => found) rfl

theorem toFinalizer_exclusive (number : Nat) (finalizer : FinalizerPhase) :
    Exclusive (job.toFinalizer number finalizer) :=
  exclusive.keepAttempt number (fun _ => rfl) (fun _ => .inl rfl) (fun _ => rfl)

theorem rotate_exclusive (record : AttemptRecord) : Exclusive (job.rotateSlotAfterEnd record) := by
  unfold rotateSlotAfterEnd
  split
  · exact exclusive
  · exact exclusive.congr rfl rfl (fun _ _ found => found) rfl

theorem createSlot_exclusive (trialName : String) : Exclusive (job.createSlot trialName) := by
  unfold createSlot
  split
  · exact exclusive
  · exact exclusive.congr rfl rfl (fun _ _ found => found) rfl

theorem closeBinding_exclusive (binding : Nat) (route : RouteBinding) :
    Exclusive (job.closeBinding binding route) := by
  have closed : Exclusive
      (job.modifyBinding binding (fun route => { route with state := .closed })) :=
    exclusive.modifyBinding binding (fun _ => rfl) (fun _ => rfl)
  exact closed.congr rfl rfl (pop_le job.routes route.token) rfl

theorem start_exclusive (trialName trialId : String) : Exclusive (job.start trialName trialId) := by
  unfold start
  split
  · exact exclusive
  · rename_i slot _found
    split
    · exact exclusive
    · have old : ∀ {index : Nat} {record last : AttemptRecord},
          index < job.attempts.length → (job.attempts ++ [last])[index]? = some record →
            job.attempts[index]? = some record := by
        intro index record last within found
        rwa [getElem?_append_left within] at found
      have known : ∀ (binding : Nat) (route : RouteBinding), job.bindings[binding]? = some route →
          route.attempt < job.attempts.length := by
        intro binding route found
        obtain ⟨record, isOwner, _⟩ := exclusive.owner binding route found
        exact (List.getElem_of_getElem? isOwner).1
      refine
        { exclusive with
          owner := ?_
          alone := ?_
          entering := ?_
          registered := ?_ }
      · intro binding route found
        obtain ⟨record, isOwner, token⟩ := exclusive.owner binding route found
        refine ⟨record, ?_, token⟩
        rw [getElem?_append_left (known binding route found)]
        exact isOwner
      · intro binding route found earlier record before atEarlier
        exact exclusive.alone binding route found earlier record before
          (old (Nat.lt_trans before (known binding route found)) atEarlier)
      · intro index record binding found isEntering
        rcases Lists.getElem?_snoc found with before | ⟨_, isNew⟩
        · exact exclusive.entering index record binding before isEntering
        · subst record
          simp only at isEntering
          split at isEntering
          · cases isEntering
          · cases isEntering
      · intro index record found isRegistered
        rcases Lists.getElem?_snoc found with before | ⟨_, isNew⟩
        · exact exclusive.registered index record before isRegistered
        · subst record
          cases isRegistered

variable {number : Nat} {record : AttemptRecord}

section

variable (found : job.attempts[number]? = some record)
include found

theorem register_exclusive (built : Bool)
    (fresh : built = true → job.refuses record.tokenFingerprint = false →
      ¬ job.Reuses number record) :
    Exclusive (job.register number record built) := by
  unfold register
  simp only
  split
  · exact (cleanup_exclusive exclusive).keepAttempt number (fun _ => rfl)
      (fun _ => .inr rfl) (fun _ => rfl)
  · rename_i accepted
    rw [Bool.or_eq_true, not_or, Bool.not_eq_true, Bool.not_eq_true', Bool.not_eq_false] at accepted
    obtain ⟨open', isBuilt⟩ := accepted
    have alone := fresh isBuilt open'
    have old : ∀ {binding : Nat} {route : RouteBinding} {last : RouteBinding},
        (job.bindings ++ [last])[binding]? = some route →
          job.bindings[binding]? = some route ∨ route = last := by
      intro binding route last atBinding
      exact (Lists.getElem?_snoc atBinding).imp id And.right
    have kept : ∀ {binding : Nat} {route : RouteBinding} (last : RouteBinding),
        job.bindings[binding]? = some route → (job.bindings ++ [last])[binding]? = some route := by
      intro binding route last atBinding
      rw [getElem?_append_left (List.getElem_of_getElem? atBinding).1]
      exact atBinding
    have known : ∀ {index : Nat} {item : AttemptRecord},
        (job.attempts.modify number (fun record =>
          { record with start := .entering job.bindings.length }))[index]? = some item →
          ∃ before : AttemptRecord, job.attempts[index]? = some before ∧
            item.tokenFingerprint = before.tokenFingerprint ∧
            item.registered = before.registered ∧ (item = before ∨ index = number) := by
      intro index item atIndex
      obtain ⟨before, atBefore, same | ⟨isNumber, same⟩⟩ := getElem?_modify_some atIndex
      · exact ⟨before, atBefore, by rw [same], by rw [same], .inl same⟩
      · exact ⟨before, atBefore, by rw [same], by rw [same], .inr isNumber⟩
    have isOwned : ∀ {index : Nat} {before : AttemptRecord}, job.attempts[index]? = some before →
        ∃ item : AttemptRecord, (job.attempts.modify number (fun record =>
          { record with start := .entering job.bindings.length }))[index]? = some item ∧
            item.tokenFingerprint = before.tokenFingerprint := by
      intro index before atBefore
      obtain ⟨item, atIndex, same | same⟩ := getElem?_modify_of_some atBefore number
        (fun record => { record with start := .entering job.bindings.length })
      · exact ⟨item, atIndex, by rw [same]⟩
      · exact ⟨item, atIndex, by rw [same]⟩
    refine
      { owner := ?_
        alone := ?_
        routed := ?_
        entering := ?_
        registered := ?_
        isolated := exclusive.isolated }
    · intro binding route atBinding
      rcases old atBinding with before | isNew
      · obtain ⟨owner, isOwner, token⟩ := exclusive.owner binding route before
        obtain ⟨item, atOwner, same⟩ := isOwned isOwner
        exact ⟨item, atOwner, same.trans token⟩
      · subst route
        obtain ⟨item, atOwner, same⟩ := isOwned found
        exact ⟨item, atOwner, same⟩
    · intro binding route atBinding earlier item before atEarlier
      obtain ⟨first, atFirst, token, _⟩ := known atEarlier
      rw [token]
      rcases old atBinding with atOld | isNew
      · exact exclusive.alone binding route atOld earlier first before atFirst
      · subst route
        exact fun same => alone ⟨earlier, first, before, atFirst, same⟩
    · intro token binding routed
      simp only at routed
      rw [OrderedDict.get?_set] at routed
      split at routed
      · rename_i isToken
        cases routed
        exact ⟨_, getElem?_concat_length, isToken.symm⟩
      · obtain ⟨route, atBinding, isToken⟩ := exclusive.routed token binding routed
        exact ⟨route, kept _ atBinding, isToken⟩
    · intro index item binding atIndex isEntering
      obtain ⟨before, atBefore, _token, _registered, same | isNumber⟩ := known atIndex
      · rw [same] at isEntering
        obtain ⟨other, route, atOther, isAttempt⟩ :=
          exclusive.entering index before binding atBefore isEntering
        exact ⟨other, route, kept _ atOther, isAttempt⟩
      · rw [isNumber]
        exact ⟨_, _, getElem?_concat_length, rfl⟩
    · intro index item atIndex isRegistered
      obtain ⟨before, atBefore, _token, registered, _⟩ := known atIndex
      obtain ⟨other, route, atOther, isAttempt⟩ :=
        exclusive.registered index before atBefore (registered.symm.trans isRegistered)
      exact ⟨other, route, kept _ atOther, isAttempt⟩

theorem enter_exclusive {binding : Nat} (isEntering : record.start = .entering binding)
    (outcome : EnterOutcome) :
    Exclusive (job.enter number binding record.tokenFingerprint outcome) := by
  have bound := exclusive.entering number record binding found isEntering
  have moved : ∀ state : AttemptState, Exclusive
      (job.modifyBinding binding (fun route => { route with state := state })) := fun state =>
    exclusive.modifyBinding binding (fun _ => rfl) (fun _ => rfl)
  have still : ∀ state : AttemptState,
      (job.modifyBinding binding (fun route => { route with state := state })).Bound number := by
    intro state
    exact (moved state).entering number record binding found isEntering
  cases outcome with
  | entered | lost =>
    exact (moved .ready).modifyAttempt number (fun _ => rfl) (fun _ _ _ isOver => by cases isOver)
      (fun _ _ _ => still .ready)
  | failed =>
    have isOver : Exclusive
        ((job.modifyBinding binding (fun route => { route with state := .broken })).modifyAttempt
          number (fun record => { record with start := .over })) :=
      (moved .broken).keepAttempt number (fun _ => rfl) (fun _ => .inr rfl) (fun _ => rfl)
    exact isOver.congr rfl rfl (pop_le job.routes record.tokenFingerprint) rfl

theorem request_exclusive : Exclusive (job.request number record) := by
  have cleaned := cleanup_exclusive exclusive
  unfold request
  simp only
  split
  · exact cleaned
  · rename_i binding routed
    split
    · exact cleaned
    · rename_i route atBinding
      split
      · split
        · exact cleaned
        · exact (closeBinding_exclusive cleaned binding route).modifyBinding binding
            (fun _ => rfl) (fun _ => rfl)
      · split
        · refine
            { cleaned with
              isolated := ?_ }
          intro entry member
          rcases mem_append.mp member with before | isNew
          · exact cleaned.isolated entry before
          · rw [mem_singleton.mp isNew]
            intro earlier
            obtain ⟨same, atSame, token⟩ := cleaned.routed _ binding routed
            rw [atBinding, Option.some_inj] at atSame
            subst same
            exact cleaned.alone binding route atBinding number record earlier found token.symm
        · exact cleaned

end

theorem endExpiry_exclusive (binding : Nat) (route : RouteBinding) :
    Exclusive (job.endExpiry binding route) := by
  unfold endExpiry
  split
  · exact exclusive
  · apply entomb_exclusive
    exact exclusive.modifyBinding binding (fun _ => rfl) (fun _ => rfl)

theorem closeAttempt_exclusive (number : Nat) (record : AttemptRecord) :
    Exclusive (job.closeAttempt number record) := by
  unfold closeAttempt
  split
  · exact rotate_exclusive (toFinalizer_exclusive exclusive number _) record
  · split
    · exact exclusive
    · split
      · exact toFinalizer_exclusive exclusive number _
      · exact toFinalizer_exclusive (closeBinding_exclusive exclusive _ _) number _

theorem endClose_exclusive (number binding : Nat) (raises : Bool) :
    Exclusive (job.endClose number binding raises) := by
  unfold endClose
  split
  · exact exclusive
  · exact entomb_exclusive (toFinalizer_exclusive exclusive number _) _

theorem settle_exclusive (number : Nat) (record : AttemptRecord) (raised : Bool) :
    Exclusive (job.settle number record raised) := by
  unfold settle
  split
  · exact toFinalizer_exclusive exclusive number _
  · exact rotate_exclusive (toFinalizer_exclusive exclusive number _) record

theorem step_exclusive (event : JobEvent) (refused : job.ReuseRefused event) :
    Exclusive (job.step event) := by
  cases event with
  | tick elapsed => exact exclusive.congr rfl rfl (fun _ _ found => found) rfl
  | createSlot trialName => exact createSlot_exclusive exclusive trialName
  | start trialName trialId => exact start_exclusive exclusive trialName trialId
  | dropStart number =>
    simp only [step]
    split
    · split
      · exact exclusive.keepAttempt number (fun _ => rfl) (fun _ => .inr rfl) (fun _ => rfl)
      · exact exclusive
    · exact exclusive
  | register number built =>
    simp only [step]
    split
    · rename_i record found
      split
      · rename_i submitted
        apply register_exclusive exclusive found built
        intro isBuilt fine reuses
        subst isBuilt
        rw [refused number record rfl found submitted reuses] at fine
        cases fine
      · exact exclusive
    · exact exclusive
  | enter number outcome =>
    simp only [step]
    split
    · rename_i record found
      split
      · exact enter_exclusive exclusive found ‹_› outcome
      · exact exclusive
    · exact exclusive
  | turn number state =>
    simp only [step]
    split
    · split
      · exact exclusive.modifyBinding _ (fun _ => rfl) (fun _ => rfl)
      · exact exclusive
    · exact exclusive
  | request number =>
    simp only [step]
    split
    · exact request_exclusive exclusive ‹_›
    · exact exclusive
  | endExpiry binding =>
    simp only [step]
    split
    · exact endExpiry_exclusive exclusive binding _
    · exact exclusive
  | endTrial number =>
    simp only [step]
    split
    · split
      · exact toFinalizer_exclusive exclusive number _
      · exact exclusive
    · exact exclusive
  | closeAttempt number =>
    simp only [step]
    split
    · split
      · exact closeAttempt_exclusive exclusive number _
      · exact exclusive
    · exact exclusive
  | endClose number raises =>
    simp only [step]
    split
    · split
      · exact endClose_exclusive exclusive number _ raises
      · exact exclusive
    · exact exclusive
  | settle number =>
    simp only [step]
    split
    · split
      · exact settle_exclusive exclusive number _ _
      · exact exclusive
    · exact exclusive

end

end Updates

structure Rotated (job : RouteJob) : Prop where
  slotFresh : ∀ name slot, job.slots.get? name = some slot → slot.token < job.nextToken
  attemptFresh : ∀ record ∈ job.attempts, record.tokenFingerprint < job.nextToken
  apart : ∀ name other slot second, job.slots.get? name = some slot →
    job.slots.get? other = some second → slot.token = second.token → name = other
  unread : ∀ name slot, job.slots.get? name = some slot → slot.rotated = true →
    ∀ record ∈ job.attempts, record.tokenFingerprint ≠ slot.token

theorem initial_rotated (limits : GatewayLimits) : Rotated (initial limits) := by
  constructor
  · intro name slot found
    cases found
  · intro record member
    cases member
  · intro name other slot second found
    cases found
  · intro name slot found
    cases found

section Rotation

variable {job : RouteJob}

section

variable (rotated : Rotated job)

include rotated

theorem Rotated.congr {other : RouteJob} (nextToken : other.nextToken = job.nextToken)
    (slots : other.slots = job.slots) (attempts : other.attempts = job.attempts) :
    Rotated other := by
  constructor
  · rw [slots, nextToken]
    exact rotated.slotFresh
  · rw [attempts, nextToken]
    exact rotated.attemptFresh
  · rw [slots]
    exact rotated.apart
  · rw [attempts, slots]
    exact rotated.unread

theorem Rotated.modifyAttempt (number : Nat) {change : AttemptRecord → AttemptRecord}
    (sameToken : ∀ record, (change record).tokenFingerprint = record.tokenFingerprint) :
    Rotated (job.modifyAttempt number change) := by
  have back : ∀ record ∈ (job.modifyAttempt number change).attempts, ∃ old ∈ job.attempts,
      record.tokenFingerprint = old.tokenFingerprint := by
    intro record member
    obtain ⟨index, found⟩ := mem_iff_getElem?.mp member
    obtain ⟨old, atOld, same | ⟨_, same⟩⟩ := getElem?_modify_some found
    · exact ⟨old, mem_of_getElem? atOld, by rw [same]⟩
    · exact ⟨old, mem_of_getElem? atOld, by rw [same, sameToken]⟩
  refine
    { rotated with
      attemptFresh := ?_
      unread := ?_ }
  · intro record member
    obtain ⟨old, isOld, token⟩ := back record member
    rw [token]
    exact rotated.attemptFresh old isOld
  · intro name slot found isRotated record member
    obtain ⟨old, isOld, token⟩ := back record member
    rw [token]
    exact rotated.unread name slot found isRotated old isOld

theorem toFinalizer_rotated (number : Nat) (finalizer : FinalizerPhase) :
    Rotated (job.toFinalizer number finalizer) :=
  rotated.modifyAttempt number (fun _ => rfl)

theorem Rotated.setSlot (name : String) (previous : Option Nat) :
    Rotated
      { job with
        nextToken := job.nextToken + 1
        slots := job.slots.set name
          { token := job.nextToken
            previousTokenFingerprint := previous
            rotated := true } } := by
  have lookup : ∀ other slot,
      (job.slots.set name
        { token := job.nextToken
          previousTokenFingerprint := previous
          rotated := true }).get? other = some slot →
        (other = name ∧ slot.token = job.nextToken) ∨
          (other ≠ name ∧ job.slots.get? other = some slot) := by
    intro other slot found
    rw [OrderedDict.get?_set] at found
    split at found
    · rename_i same
      cases found
      exact .inl ⟨same, rfl⟩
    · rename_i different
      exact .inr ⟨different, found⟩
  constructor
  · intro other slot found
    change slot.token < job.nextToken + 1
    rcases lookup other slot found with ⟨_, token⟩ | ⟨_, before⟩
    · omega
    · have fresh := rotated.slotFresh other slot before
      omega
  · intro record member
    exact Nat.lt_succ_of_lt (rotated.attemptFresh record member)
  · intro first second slot other atFirst atSecond same
    rcases lookup first slot atFirst with ⟨isName, token⟩ | ⟨_, before⟩
    · rcases lookup second other atSecond with ⟨alsoName, _⟩ | ⟨_, otherBefore⟩
      · exact isName.trans alsoName.symm
      · have fresh := rotated.slotFresh second other otherBefore
        omega
    · rcases lookup second other atSecond with ⟨_, token⟩ | ⟨_, otherBefore⟩
      · have fresh := rotated.slotFresh first slot before
        omega
      · exact rotated.apart first second slot other before otherBefore same
  · intro other slot found isRotated record member
    rcases lookup other slot found with ⟨_, token⟩ | ⟨_, before⟩
    · have fresh := rotated.attemptFresh record member
      omega
    · exact rotated.unread other slot before isRotated record member

theorem rotate_rotated (record : AttemptRecord) : Rotated (job.rotateSlotAfterEnd record) := by
  unfold rotateSlotAfterEnd
  split
  · exact rotated
  · exact rotated.setSlot record.trialName _

theorem start_rotated (trialName trialId : String) : Rotated (job.start trialName trialId) := by
  unfold start
  split
  · exact rotated
  · rename_i slot present
    split
    · exact rotated
    · have lookup : ∀ other second,
          (job.slots.set trialName { slot with rotated := false }).get? other = some second →
            ∃ before, job.slots.get? other = some before ∧ second.token = before.token ∧
              (second.rotated = true → other ≠ trialName ∧ before.rotated = true) := by
        intro other second found
        rw [OrderedDict.get?_set] at found
        split at found
        · next same =>
            cases found
            exact ⟨slot, same ▸ present, rfl, fun isRotated => by cases isRotated⟩
        · next different => exact ⟨second, found, rfl, fun isRotated => ⟨different, isRotated⟩⟩
      constructor
      · intro other second found
        obtain ⟨before, atOther, token, _⟩ := lookup other second found
        exact token ▸ rotated.slotFresh other before atOther
      · intro record member
        rcases mem_append.mp member with before | isNew
        · exact rotated.attemptFresh record before
        · rw [mem_singleton.mp isNew]
          exact rotated.slotFresh trialName slot present
      · intro first second one other atFirst atSecond same
        obtain ⟨before, wasFirst, token, _⟩ := lookup first one atFirst
        obtain ⟨otherBefore, wasSecond, otherToken, _⟩ := lookup second other atSecond
        exact rotated.apart first second before otherBefore wasFirst wasSecond
          (token.symm.trans (same.trans otherToken))
      · intro other second found isRotated record member
        obtain ⟨before, atOther, token, kept⟩ := lookup other second found
        obtain ⟨different, wasRotated⟩ := kept isRotated
        rw [token]
        rcases mem_append.mp member with old | isNew
        · exact rotated.unread other before atOther wasRotated record old
        · rw [mem_singleton.mp isNew]
          exact fun same =>
            different (rotated.apart other trialName before slot atOther present same.symm)

theorem step_rotated (event : JobEvent) : Rotated (job.step event) := by
  cases event with
  | tick elapsed => exact rotated.congr rfl rfl rfl
  | createSlot trialName =>
    simp only [step, createSlot]
    split
    · exact rotated
    · exact rotated.setSlot trialName none
  | start trialName trialId => exact start_rotated rotated trialName trialId
  | dropStart number =>
    simp only [step]
    split
    · split
      · exact rotated.modifyAttempt number (fun _ => rfl)
      · exact rotated
    · exact rotated
  | register number built =>
    simp only [step, register]
    split
    · split
      · have cleaned : Rotated job.cleanupTombstones := rotated.congr rfl rfl rfl
        split
        · exact cleaned.modifyAttempt number (fun _ => rfl)
        · have moved : Rotated (job.cleanupTombstones.modifyAttempt number
              (fun record => { record with start := .entering job.bindings.length })) :=
            cleaned.modifyAttempt number (fun _ => rfl)
          exact moved.congr rfl rfl rfl
      · exact rotated
    · exact rotated
  | enter number outcome =>
    simp only [step]
    split
    · split
      · rename_i record _found binding _isEntering
        have moved : ∀ state : AttemptState, Rotated
            (job.modifyBinding binding (fun route => { route with state := state })) :=
          fun _ => rotated.congr rfl rfl rfl
        cases outcome with
        | entered | lost =>
          exact (moved .ready).modifyAttempt number (fun _ => rfl)
        | failed =>
          have isOver : Rotated ((job.modifyBinding binding
              (fun route => { route with state := .broken })).modifyAttempt number
              (fun record => { record with start := .over })) :=
            (moved .broken).modifyAttempt number (fun _ => rfl)
          exact isOver.congr rfl rfl rfl
      · exact rotated
    · exact rotated
  | turn number state =>
    simp only [step]
    split
    · split
      · exact rotated.congr rfl rfl rfl
      · exact rotated
    · exact rotated
  | request number =>
    simp only [step, request]
    split
    · split
      · exact rotated.congr rfl rfl rfl
      · split
        · exact rotated.congr rfl rfl rfl
        · split
          · split <;> exact rotated.congr rfl rfl rfl
          · split <;> exact rotated.congr rfl rfl rfl
    · exact rotated
  | endExpiry binding =>
    simp only [step, endExpiry]
    split
    · split
      · exact rotated
      · exact rotated.congr rfl rfl rfl
    · exact rotated
  | endTrial number =>
    simp only [step]
    split
    · split
      · exact toFinalizer_rotated rotated number _
      · exact rotated
    · exact rotated
  | closeAttempt number =>
    simp only [step, closeAttempt]
    split
    · rename_i record found
      split
      · split
        · exact rotate_rotated (toFinalizer_rotated rotated number _) _
        · split
          · exact rotated
          · split
            · exact toFinalizer_rotated rotated number _
            · rename_i _ binding _handle _ route _atBinding _open
              have closed : Rotated (job.closeBinding binding route) :=
                rotated.congr rfl rfl rfl
              exact toFinalizer_rotated closed number _
      · exact rotated
    · exact rotated
  | endClose number raises =>
    simp only [step, endClose]
    split
    · split
      · split
        · exact rotated
        · have ended : Rotated (job.toFinalizer number (.closeEnded raises)) :=
            toFinalizer_rotated rotated number _
          exact ended.congr rfl rfl rfl
      · exact rotated
    · exact rotated
  | settle number =>
    simp only [step, settle]
    split
    · rename_i record found
      split
      · split
        · exact toFinalizer_rotated rotated number _
        · exact rotate_rotated (toFinalizer_rotated rotated number _) _
      · exact rotated
    · exact rotated

end

def marks (job : RouteJob) : List (Nat × Bool) :=
  job.attempts.map (fun record => (record.tokenFingerprint, record.clean))

def Fresh (job : RouteJob) : Prop :=
  job.marks.Pairwise (fun earlier later => later.2 = true → earlier.1 ≠ later.1)

variable (number : Nat)

theorem marks_modifyAttempt {change : AttemptRecord → AttemptRecord}
    (sameToken : ∀ record, (change record).tokenFingerprint = record.tokenFingerprint)
    (sameClean : ∀ record, (change record).clean = record.clean) :
    (job.modifyAttempt number change).marks = job.marks := by
  apply ext_getElem?
  intro index
  unfold marks modifyAttempt
  rw [getElem?_map, getElem?_map, getElem?_modify]
  cases job.attempts[index]? with
  | none => rfl
  | some record =>
    simp only [Option.map_eq_map, Option.map_some, Option.some.injEq]
    split
    · rw [sameToken, sameClean]
    · rfl

theorem marks_rotate (record : AttemptRecord) :
    (job.rotateSlotAfterEnd record).marks = job.marks := by
  unfold rotateSlotAfterEnd
  split <;> rfl

theorem marks_toFinalizer (finalizer : FinalizerPhase) :
    (job.toFinalizer number finalizer).marks = job.marks :=
  marks_modifyAttempt number (fun _ => rfl) (fun _ => rfl)

theorem marks_enter (number binding token : Nat) (outcome : EnterOutcome) :
    (job.enter number binding token outcome).marks = job.marks := by
  cases outcome with
  | entered | lost | failed => exact marks_modifyAttempt number (fun _ => rfl) (fun _ => rfl)

theorem marks_register (record : AttemptRecord) (built : Bool) :
    (job.register number record built).marks = job.marks := by
  unfold register
  simp only
  split <;> exact marks_modifyAttempt number (fun _ => rfl) (fun _ => rfl)

theorem marks_closeAttempt (record : AttemptRecord) :
    (job.closeAttempt number record).marks = job.marks := by
  unfold closeAttempt
  split
  · exact (marks_rotate record).trans (marks_toFinalizer number _)
  · split
    · rfl
    · split <;> exact marks_toFinalizer number _

theorem marks_settle (record : AttemptRecord) (raised : Bool) :
    (job.settle number record raised).marks = job.marks := by
  unfold settle
  split
  · exact marks_toFinalizer number _
  · exact (marks_rotate record).trans (marks_toFinalizer number _)

theorem marks_request (record : AttemptRecord) : (job.request number record).marks = job.marks := by
  unfold request
  simp only
  split
  · rfl
  · split
    · rfl
    · split
      · split <;> rfl
      · split <;> rfl

theorem start_fresh (rotated : Rotated job) (fresh : job.Fresh) (trialName trialId : String) :
    (job.start trialName trialId).Fresh := by
  unfold start
  split
  · exact fresh
  · rename_i slot present
    split
    · exact fresh
    · unfold Fresh marks
      rw [map_append, map_singleton, pairwise_append]
      refine ⟨fresh, pairwise_singleton _ _, ?_⟩
      intro mark earlier other isNew
      rw [mem_singleton.mp isNew]
      intro clean same
      obtain ⟨record, member, isMark⟩ := mem_map.mp earlier
      exact rotated.unread trialName slot present clean record member
        ((congrArg Prod.fst isMark).trans same)

theorem step_fresh (rotated : Rotated job) (fresh : job.Fresh) (event : JobEvent) :
    (job.step event).Fresh := by
  have keep : ∀ {other : RouteJob}, other.marks = job.marks → other.Fresh := by
    intro other same
    unfold Fresh
    rw [same]
    exact fresh
  cases event with
  | tick elapsed => exact fresh
  | createSlot trialName =>
    simp only [step, createSlot]
    split <;> exact fresh
  | start trialName trialId => exact start_fresh rotated fresh trialName trialId
  | dropStart number =>
    simp only [step]
    split
    · split
      · exact keep (marks_modifyAttempt number (fun _ => rfl) (fun _ => rfl))
      · exact fresh
    · exact fresh
  | register number built =>
    simp only [step]
    split
    · split
      · exact keep (marks_register number _ built)
      · exact fresh
    · exact fresh
  | enter number outcome =>
    simp only [step]
    split
    · split
      · exact keep (marks_enter number _ _ outcome)
      · exact fresh
    · exact fresh
  | turn number state =>
    simp only [step]
    split
    · split <;> exact fresh
    · exact fresh
  | request number =>
    simp only [step]
    split
    · exact keep (marks_request number _)
    · exact fresh
  | endExpiry binding =>
    simp only [step, endExpiry]
    split
    · split <;> exact fresh
    · exact fresh
  | endTrial number =>
    simp only [step]
    split
    · split
      · exact keep (marks_toFinalizer number _)
      · exact fresh
    · exact fresh
  | closeAttempt number =>
    simp only [step]
    split
    · split
      · exact keep (marks_closeAttempt number _)
      · exact fresh
    · exact fresh
  | endClose number raises =>
    simp only [step, endClose]
    split
    · split
      · split
        · exact fresh
        · exact keep (marks_toFinalizer number _)
      · exact fresh
    · exact fresh
  | settle number =>
    simp only [step]
    split
    · split
      · exact keep (marks_settle number _ _)
      · exact fresh
    · exact fresh

theorem Fresh.not_reuses (fresh : job.Fresh) {number : Nat} {record : AttemptRecord}
    (found : job.attempts[number]? = some record) (clean : record.clean = true) :
    ¬ job.Reuses number record := by
  rintro ⟨earlier, before, isEarlier, atEarlier, same⟩
  have markAt : ∀ {index : Nat} {item : AttemptRecord}, job.attempts[index]? = some item →
      job.marks[index]? = some (item.tokenFingerprint, item.clean) := by
    intro index item atIndex
    unfold marks
    rw [getElem?_map, atIndex]
    rfl
  obtain ⟨lower, isBefore⟩ := List.getElem_of_getElem? (markAt atEarlier)
  obtain ⟨upper, isRecord⟩ := List.getElem_of_getElem? (markAt found)
  have apart := pairwise_iff_getElem.mp fresh earlier number lower upper isEarlier
  rw [isBefore, isRecord] at apart
  exact apart clean same

theorem refused_of_guarded (fresh : job.Fresh) (buried : job.Buried) {event : JobEvent}
    (guarded : job.Guarded event) : job.ReuseRefused event := by
  rintro number record rfl found submitted reuses
  rcases guarded record found submitted with clean | routed | recent | full
  · exact absurd reuses (fresh.not_reuses found clean)
  · unfold refuses
    rw [routed, Bool.or_true, Bool.true_or]
  · exact buried.refuses recent
  · unfold refuses
    rw [decide_eq_true full, Bool.true_or, Bool.true_or]

end Rotation

structure Sound (job : RouteJob) : Prop where
  exclusive : Exclusive job
  rotated : Rotated job
  fresh : job.Fresh
  buried : job.Buried

/-- In every run in which each registration meets the condition, a token identifies one
attempt. -/
theorem token_identifies_of_guarded (limits : GatewayLimits) (events : List JobEvent)
    (guarded : Runs.Admits step Guarded (initial limits) events) (past : List JobEvent)
    (early : past <+: events) : TokenIdentifies (Runs.run step (initial limits) past) := by
  have initially : Sound (initial limits) :=
    { exclusive := initial_exclusive limits
      rotated := initial_rotated limits
      fresh := List.Pairwise.nil
      buried := initial_buried limits }
  have preserved : ∀ job event, Sound job → Guarded job event → Sound (step job event) := by
    intro job event sound isGuarded
    have refused := refused_of_guarded sound.fresh sound.buried isGuarded
    exact
      { exclusive := step_exclusive sound.exclusive event refused
        rotated := step_rotated sound.rotated event
        fresh := step_fresh sound.rotated sound.fresh event
        buried := sound.buried.step event }
  exact (Runs.prefix_invariant preserved initially guarded early).exclusive.tokenIdentifies

/-- The first route is not drained when its trial ends. A retry comes within the lifetime of its
tombstone and is refused; the one after that gets a token of its own, and each agent sends a
request. -/
def guardedRetries : List JobEvent :=
  [.createSlot "trial", .start "trial" "first", .register 0 true, .enter 0 .entered,
    .turn 0 .active, .request 0, .endTrial 0, .closeAttempt 0, .endClose 0 true, .settle 0,
    .tick 299, .start "trial" "second", .register 1 true, .endTrial 1, .closeAttempt 1, .tick 2,
    .start "trial" "third", .register 2 true, .enter 2 .entered, .turn 2 .active, .request 0,
    .request 2]

/-- The first attempt's requests do not end within the drain timeout; its agent is still
there when a retry comes after the tombstone's lifetime. -/
def lateRetry : List JobEvent :=
  [.createSlot "trial", .start "trial" "first", .register 0 true, .enter 0 .entered,
    .turn 0 .active, .endTrial 0, .closeAttempt 0, .endClose 0 true, .settle 0, .tick 301,
    .start "trial" "second", .register 1 true, .enter 1 .entered, .turn 1 .active, .request 0]

def defaultLimits : GatewayLimits :=
  { maxActiveRoutes := 64
    maxTombstones := 4096
    tombstoneTtl := 300
    routeTtl := 7200 }

theorem guarded_retries_identify :
    TokenIdentifies (Runs.run step (initial defaultLimits) guardedRetries) ∧
      (Runs.run step (initial defaultLimits) guardedRetries).attempts.map
        AttemptRecord.registered = [true, false, true] ∧
      (Runs.run step (initial defaultLimits) guardedRetries).recorded = [(0, 0), (2, 2)] :=
  ⟨token_identifies_of_guarded defaultLimits guardedRetries (by decide +kernel) guardedRetries
    (prefix_refl _), by decide +kernel, by decide +kernel⟩

theorem late_retry_reuses :
    ¬ TokenIdentifies (Runs.run step (initial defaultLimits) lateRetry) ∧
      (0, 1) ∈ (Runs.run step (initial defaultLimits) lateRetry).recorded := by
  have recorded : (0, 1) ∈ (Runs.run step (initial defaultLimits) lateRetry).recorded := by
    decide
  exact ⟨fun identifies => identifies.isolated (0, 1) recorded (by decide), recorded⟩

end RouteJob

end Dressage.Harbor
