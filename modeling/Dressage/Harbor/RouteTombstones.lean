/-
How long the token of a closed route is refused.

A tombstone goes with its lifetime, or when the tombstones of later closes push it out. So a
token is refused as long as one of the last `maxTombstones` closes was its own and less than
a lifetime ago.
-/

import Dressage.Harbor.RouteTokens

namespace Dressage.Harbor

open Lib List

namespace RouteJob

def RecentlyClosed (job : RouteJob) (token : Nat) : Prop :=
  ∃ close ∈ job.closes.take job.limits.maxTombstones,
    close.1 = token ∧ job.now < close.2 + job.limits.tombstoneTtl

instance (job : RouteJob) (token : Nat) : Decidable (job.RecentlyClosed token) :=
  inferInstanceAs (Decidable (∃ close ∈ job.closes.take job.limits.maxTombstones,
    close.1 = token ∧ job.now < close.2 + job.limits.tombstoneTtl))

/-- The token has a tombstone that lasts until then, with at most so many younger ones. -/
def Lasts (tombstones : OrderedDict Nat Nat) (token until' younger : Nat) : Prop :=
  ∃ (before : List (Nat × Nat)) (expiresAt : Nat) (after : List (Nat × Nat)),
    tombstones.entries = before ++ (token, expiresAt) :: after ∧ until' ≤ expiresAt ∧
      after.length ≤ younger

structure Buried (job : RouteJob) : Prop where
  past : ∀ close ∈ job.closes, close.2 ≤ job.now
  kept : ∀ (index : Nat) (close : Nat × Nat), job.closes[index]? = some close →
    index < job.limits.maxTombstones → job.now < close.2 + job.limits.tombstoneTtl →
      Lasts job.tombstones close.1 (close.2 + job.limits.tombstoneTtl) index

variable {job next : RouteJob} {tombstones : OrderedDict Nat Nat} {token until' younger : Nat}

theorem entries_popAll (tombstones : OrderedDict Nat Nat) (keys : List Nat) :
    (tombstones.popAll keys).entries = tombstones.entries.filter (fun entry => entry.1 ∉ keys) := by
  unfold OrderedDict.popAll
  induction keys generalizing tombstones with
  | nil => simp
  | cons first rest ih =>
    rw [foldl_cons, ih]
    unfold OrderedDict.pop
    rw [filter_filter]
    apply filter_congr
    intro entry _
    simp [Bool.and_comm]

section

variable (lasts : Lasts tombstones token until' younger)
include lasts

theorem Lasts.mem : ∃ expiresAt, until' ≤ expiresAt ∧ tombstones.get? token = some expiresAt := by
  obtain ⟨before, expiresAt, after, entries, late, _⟩ := lasts
  have member : (token, expiresAt) ∈ tombstones.entries := by
    rw [entries]
    simp
  exact ⟨expiresAt, late, OrderedDict.get?_of_mem member⟩

theorem Lasts.filter {others : OrderedDict Nat Nat} (accepts : Nat × Nat → Bool)
    (entries : others.entries = tombstones.entries.filter accepts)
    (stays : ∀ expiresAt, accepts (token, expiresAt) = true) :
    Lasts others token until' younger := by
  obtain ⟨before, expiresAt, after, same, late, few⟩ := lasts
  refine ⟨before.filter accepts, expiresAt, after.filter accepts, ?_, late,
    Nat.le_trans (length_filter_le _ _) few⟩
  rw [entries, same, filter_append, filter_cons_of_pos (stays expiresAt)]

theorem Lasts.popAll {keys : List Nat} (absent : token ∉ keys) :
    Lasts (tombstones.popAll keys) token until' younger := by
  apply lasts.filter _ (entries_popAll tombstones keys)
  intro expiresAt
  simpa using absent

end

theorem Lasts.cleanup (lasts : Lasts job.tombstones token until' younger)
    (alive : job.now < until') :
    Lasts job.cleanupTombstones.tombstones token until' younger := by
  apply lasts.popAll
  intro expired
  obtain ⟨⟨other, expiresAt⟩, member, same⟩ := mem_map.mp expired
  obtain ⟨present, past⟩ := mem_filter.mp member
  obtain ⟨stands, late, found⟩ := lasts.mem
  have again := OrderedDict.get?_of_mem present
  simp only at same again past
  rw [same, found, Option.some_inj] at again
  have passed : expiresAt ≤ job.now := by simpa using past
  omega

theorem Lasts.trim (lasts : Lasts job.tombstones token until' younger)
    (alive : job.now < until') (few : younger < job.limits.maxTombstones) :
    Lasts job.trimTombstones.tombstones token until' younger := by
  have cleaned := lasts.cleanup alive
  apply cleaned.popAll
  obtain ⟨before, expiresAt, after, entries, _, short⟩ := cleaned
  have distinct := job.cleanupTombstones.tombstones.keys_nodup
  have keys : job.cleanupTombstones.tombstones.keys =
      before.map Prod.fst ++ token :: after.map Prod.fst := by
    unfold OrderedDict.keys
    rw [entries, map_append, map_cons]
  rw [keys] at distinct ⊢
  have fits : (before.map Prod.fst ++ token :: after.map Prod.fst).length -
      job.limits.maxTombstones ≤ (before.map Prod.fst).length := by
    simp only [length_append, length_map, length_cons]
    omega
  rw [take_append_of_le_length fits]
  intro dropped
  have apart := (nodup_append.mp distinct).2.2 token (mem_of_mem_take dropped) token mem_cons_self
  exact apart rfl

theorem initial_buried (limits : GatewayLimits) : Buried (initial limits) := by
  constructor
  · intro close impossible
    cases impossible
  · intro index close impossible
    cases impossible

section

variable (buried : Buried job)

include buried

theorem Buried.congr (limits : next.limits = job.limits) (now : next.now = job.now)
    (closes : next.closes = job.closes)
    (tombstones : next.tombstones = job.tombstones ∨
      next.tombstones = job.cleanupTombstones.tombstones) : Buried next := by
  constructor
  · rw [closes, now]
    exact buried.past
  · rw [closes, now, limits]
    intro index close found recent alive
    have lasts := buried.kept index close found recent alive
    rcases tombstones with same | cleaned
    · rw [same]
      exact lasts
    · rw [cleaned]
      exact lasts.cleanup alive

theorem Buried.tick (elapsed : Nat) : Buried { job with now := job.now + elapsed } := by
  constructor
  · exact fun close member => Nat.le_add_right_of_le (buried.past close member)
  · intro index close found recent alive
    exact buried.kept index close found recent (Nat.lt_of_le_of_lt (Nat.le_add_right _ _) alive)

theorem Buried.entomb (token : Nat) : Buried (job.entomb token) := by
  have absent : token ∉ (job.tombstones.pop token).keys := by
    rw [OrderedDict.mem_keys_pop]
    exact fun present => present.1 rfl
  have laid := OrderedDict.entries_set_new absent (job.now + job.limits.tombstoneTtl)
  have newest : Lasts ((job.tombstones.pop token).set token
      (job.now + job.limits.tombstoneTtl)) token (job.now + job.limits.tombstoneTtl) 0 :=
    ⟨_, _, [], laid, Nat.le_refl _, Nat.le_refl 0⟩
  constructor
  · intro close member
    rcases mem_cons.mp member with rfl | old
    · exact Nat.le_refl job.now
    · exact buried.past close old
  · intro index close found recent alive
    change ((token, job.now) :: job.closes)[index]? = some close at found
    refine Lasts.trim ?_ alive recent
    cases index with
    | zero =>
      rw [getElem?_cons_zero, Option.some_inj] at found
      subst found
      exact newest
    | succ index =>
      rw [getElem?_cons_succ] at found
      have early := buried.past close (mem_of_getElem? found)
      by_cases same : close.1 = token
      · rw [same]
        obtain ⟨before, expiresAt, after, entries, late, short⟩ := newest
        exact ⟨before, expiresAt, after, entries,
          Nat.le_trans (Nat.add_le_add_right early _) late, Nat.le_trans short (Nat.zero_le _)⟩
      · have before := buried.kept index close found (Nat.lt_of_succ_lt recent) alive
        have popped : Lasts (job.tombstones.pop token) close.1
            (close.2 + job.limits.tombstoneTtl) index := by
          apply before.filter (fun entry => entry.1 ≠ token) rfl
          intro expiresAt
          simpa using same
        obtain ⟨first, expiresAt, after, entries, late, short⟩ := popped
        refine ⟨first, expiresAt, after ++ [(token, job.now + job.limits.tombstoneTtl)], ?_,
          late, ?_⟩
        · change ((job.tombstones.pop token).set token _).entries = _
          rw [laid, entries, append_assoc, cons_append]
        · rw [length_append]
          exact Nat.succ_le_succ short

theorem Buried.refuses (recent : job.RecentlyClosed token) : job.refuses token = true := by
  obtain ⟨close, member, rfl, alive⟩ := recent
  obtain ⟨index, found⟩ := mem_iff_getElem?.mp member
  rw [getElem?_take] at found
  split at found
  · next inside =>
      have lasts := (buried.kept index close found inside alive).cleanup alive
      obtain ⟨expiresAt, _, stands⟩ := lasts.mem
      unfold RouteJob.refuses
      rw [stands]
      exact Bool.or_true _
  · cases found

variable (number : Nat)

theorem Buried.register (record : AttemptRecord) (built : Bool) :
    Buried (job.register number record built) := by
  unfold RouteJob.register
  simp only
  split <;> exact buried.congr rfl rfl rfl (.inr rfl)

theorem Buried.request (record : AttemptRecord) : Buried (job.request number record) := by
  unfold RouteJob.request
  simp only
  split
  · exact buried.congr rfl rfl rfl (.inr rfl)
  · split
    · exact buried.congr rfl rfl rfl (.inr rfl)
    · split
      · split <;> exact buried.congr rfl rfl rfl (.inr rfl)
      · split <;> exact buried.congr rfl rfl rfl (.inr rfl)

theorem Buried.rotate (record : AttemptRecord) : Buried (job.rotateSlotAfterEnd record) := by
  unfold rotateSlotAfterEnd
  split
  · exact buried
  · exact buried.congr rfl rfl rfl (.inl rfl)

theorem Buried.toFinalizer (finalizer : FinalizerPhase) :
    Buried (job.toFinalizer number finalizer) :=
  buried.congr rfl rfl rfl (.inl rfl)

theorem Buried.closeAttempt (record : AttemptRecord) : Buried (job.closeAttempt number record) := by
  unfold RouteJob.closeAttempt
  split
  · exact (buried.toFinalizer number _).rotate record
  · split
    · exact buried
    · split
      · exact buried.toFinalizer number _
      · exact buried.congr rfl rfl rfl (.inl rfl)

theorem Buried.step (event : JobEvent) : Buried (job.step event) := by
  cases event with
  | tick elapsed => exact buried.tick elapsed
  | createSlot trialName =>
    simp only [RouteJob.step, createSlot]
    split
    · exact buried
    · exact buried.congr rfl rfl rfl (.inl rfl)
  | start trialName trialId =>
    simp only [RouteJob.step, start]
    split
    · exact buried
    · split
      · exact buried
      · exact buried.congr rfl rfl rfl (.inl rfl)
  | dropStart number | turn number state =>
    simp only [RouteJob.step]
    split
    · split
      · exact buried.congr rfl rfl rfl (.inl rfl)
      · exact buried
    · exact buried
  | register number built =>
    simp only [RouteJob.step]
    split
    · split
      · exact buried.register number _ built
      · exact buried
    · exact buried
  | enter number outcome =>
    simp only [RouteJob.step]
    split
    · split
      · cases outcome with
        | entered | lost | failed => exact buried.congr rfl rfl rfl (.inl rfl)
      · exact buried
    · exact buried
  | request number =>
    simp only [RouteJob.step]
    split
    · exact buried.request number _
    · exact buried
  | endExpiry binding =>
    simp only [RouteJob.step, endExpiry]
    split
    · split
      · exact buried
      · apply Buried.entomb
        exact buried.congr rfl rfl rfl (.inl rfl)
    · exact buried
  | endTrial number =>
    simp only [RouteJob.step]
    split
    · split
      · exact buried.toFinalizer number _
      · exact buried
    · exact buried
  | closeAttempt number =>
    simp only [RouteJob.step]
    split
    · split
      · exact buried.closeAttempt number _
      · exact buried
    · exact buried
  | endClose number raises =>
    simp only [RouteJob.step, endClose]
    split
    · split
      · split
        · exact buried
        · exact (buried.toFinalizer number _).entomb _
      · exact buried
    · exact buried
  | settle number =>
    simp only [RouteJob.step, settle]
    split
    · split
      · split
        · exact buried.toFinalizer number _
        · exact (buried.toFinalizer number _).rotate _
      · exact buried
    · exact buried

end

end RouteJob

end Dressage.Harbor
