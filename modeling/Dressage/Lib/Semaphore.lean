/-
A semaphore that hands its permits over in order.

A release gives its permit to the first waiter that is still pending: the counter stays
as it is, and the waiter, which runs later, has the permit already. `free` counts the
permits that nobody has taken, those that were handed over among them.
-/

import Dressage.Lib.Lists

namespace Dressage.Lib

inductive Waiting where
  | pending
  | woken
  | cancelled
  deriving DecidableEq, Repr

structure Semaphore where
  value : Nat
  waiters : List (Nat × Waiting)
  deriving DecidableEq, Repr

namespace Semaphore

def ofValue (value : Nat) : Semaphore :=
  { value := value
    waiters := [] }

variable (semaphore : Semaphore) (number : Nat)

/-- Also with permits left, nobody overtakes a waiter that was woken and has not run yet. -/
def locked : Bool :=
  semaphore.value = 0 || semaphore.waiters.any (fun waiter => waiter.2 ≠ .cancelled)

def take : Semaphore := { semaphore with value := semaphore.value - 1 }

def enqueue : Semaphore :=
  { semaphore with waiters := semaphore.waiters ++ [(number, .pending)] }

def stateOf : Option Waiting :=
  (semaphore.waiters.find? (fun waiter => waiter.1 = number)).map Prod.snd

def cancel : Semaphore :=
  { semaphore with
    waiters := semaphore.waiters.map (fun waiter =>
      if waiter = (number, .pending) then (number, .cancelled) else waiter) }

def wakeFirst : List (Nat × Waiting) → Option (Nat × List (Nat × Waiting))
  | [] => none
  | (number, .pending) :: rest => some (number, (number, .woken) :: rest)
  | waiter :: rest => (wakeFirst rest).map (fun woken => (woken.1, waiter :: woken.2))

/-- Wakes waiters while there are permits; beside the semaphore, who was woken. -/
def wake : Nat → List (Nat × Waiting) → Semaphore × List Nat
  | 0, waiters =>
    ({ value := 0
       waiters := waiters }, [])
  | value + 1, waiters =>
    match wakeFirst waiters with
    | none =>
      ({ value := value + 1
         waiters := waiters }, [])
    | some (number, later) => ((wake value later).1, number :: (wake value later).2)

def release : Semaphore × List Nat :=
  match wakeFirst semaphore.waiters with
  | none => ({ semaphore with value := semaphore.value + 1 }, [])
  | some (number, later) => ({ semaphore with waiters := later }, [number])

def leave : Semaphore × List Nat :=
  wake semaphore.value (semaphore.waiters.eraseP (fun waiter => waiter.1 = number))

/-- The end of `acquire` for a waiter that is interrupted: a permit that it was given goes back. -/
def interrupt : Semaphore × List Nat :=
  if semaphore.stateOf number = some .woken then
    leave { semaphore with value := semaphore.value + 1 } number
  else semaphore.leave number

def handedOver (waiters : List (Nat × Waiting)) : Nat :=
  waiters.countP (fun waiter => waiter.2 = .woken)

def free : Nat := semaphore.value + handedOver semaphore.waiters

variable {semaphore : Semaphore} {number : Nat}

theorem free_ofValue (value : Nat) : (ofValue value).free = value := rfl

theorem free_take (unlocked : semaphore.locked = false) :
    semaphore.take.free + 1 = semaphore.free := by
  unfold locked at unlocked
  rw [Bool.or_eq_false_iff, decide_eq_false_iff_not] at unlocked
  unfold take free
  simp only
  omega

theorem free_enqueue (semaphore : Semaphore) (number : Nat) :
    (semaphore.enqueue number).free = semaphore.free := by
  unfold enqueue free handedOver
  rw [List.countP_append]
  rfl

theorem free_cancel (semaphore : Semaphore) (number : Nat) :
    (semaphore.cancel number).free = semaphore.free := by
  unfold cancel free handedOver
  simp only [List.countP_map]
  congr 1
  apply List.countP_congr
  intro waiter _
  by_cases own : waiter = (number, .pending)
  · simp [own]
  · simp [own]

theorem handedOver_wakeFirst {waiters later : List (Nat × Waiting)}
    (woken : wakeFirst waiters = some (number, later)) :
    handedOver later = handedOver waiters + 1 := by
  unfold handedOver
  fun_induction wakeFirst waiters generalizing later with
  | case1 => cases woken
  | case2 first rest =>
    cases woken
    simp
  | case3 waiter rest _ ih =>
    obtain ⟨⟨first, after⟩, found, same⟩ := Option.map_eq_some_iff.mp woken
    cases same
    rw [List.countP_cons, List.countP_cons, ih found]
    omega

theorem free_wake (value : Nat) (waiters : List (Nat × Waiting)) :
    (wake value waiters).1.free = value + handedOver waiters := by
  fun_induction wake value waiters with
  | case1 waiters => rfl
  | case2 value waiters none => rfl
  | case3 value waiters first later found ih =>
    rw [ih, handedOver_wakeFirst found]
    omega

theorem free_release (semaphore : Semaphore) : semaphore.release.1.free = semaphore.free + 1 := by
  unfold release free
  split
  · exact Nat.add_right_comm _ 1 _
  · next first later woken =>
      rw [handedOver_wakeFirst woken]
      rfl

theorem handedOver_eraseP (waiters : List (Nat × Waiting)) (number : Nat) :
    handedOver (waiters.eraseP (fun waiter => waiter.1 = number)) +
      (if (waiters.find? (fun waiter => waiter.1 = number)).map Prod.snd = some .woken then 1
        else 0) = handedOver waiters := by
  unfold handedOver
  cases found : waiters.find? (fun waiter => waiter.1 = number) with
  | none =>
    rw [List.eraseP_of_forall_not (fun waiter member => by
      simpa using List.find?_eq_none.mp found waiter member)]
    rfl
  | some waiter =>
    rw [(Lists.perm_eraseP_of_find? found).countP_eq, List.countP_cons]
    simp

theorem free_leave (woken : semaphore.stateOf number = some .woken) :
    (semaphore.leave number).1.free + 1 = semaphore.free := by
  have erased := handedOver_eraseP semaphore.waiters number
  unfold stateOf at woken
  rw [if_pos woken] at erased
  unfold leave
  rw [free_wake]
  unfold free
  omega

theorem free_interrupt (semaphore : Semaphore) (number : Nat) :
    (semaphore.interrupt number).1.free = semaphore.free := by
  have erased := handedOver_eraseP semaphore.waiters number
  unfold interrupt stateOf leave
  split
  · next woken =>
      rw [if_pos woken] at erased
      rw [free_wake]
      unfold free
      simp only
      omega
  · next other =>
      rw [if_neg other] at erased
      rw [free_wake]
      unfold free
      omega

end Semaphore

end Dressage.Lib
