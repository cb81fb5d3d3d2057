/-
Reading concatenated fields back.

Whether the step columns are resident or stored, the field built from them
reads, position by position, as the columns put one after another.
-/

import Dressage.Transport.Layouts

namespace Dressage.Transport

open Lib List

variable {α : Type}

variable {queue : TransferQueue} {column : α → List Logprob} {value : α → FieldValue}

variable (items : List α)

private theorem readFragments_linear {ref : α → TQFieldRef}
    (stored : ∀ item ∈ items, queue.get? (ref item) = some (column item)) (offset position : Nat)
    (behind : offset ≤ position) :
    readFragments queue
        (linearFragments offset (items.map (fun item => (ref item, (column item).length))))
          position =
      (items.flatMap column)[position - offset]? := by
  induction items generalizing offset with
  | nil => rfl
  | cons item rest ih =>
    have storedRest : ∀ other ∈ rest, queue.get? (ref other) = some (column other) :=
      fun other member => stored other (mem_cons_of_mem item member)
    rw [map_cons, linearFragments, flatMap_cons]
    by_cases inside : position < offset + (column item).length
    · have found : readFragments queue
          ({ ref := ref item
             sourceStart := 0
             targetStart := offset
             length := (column item).length } ::
            linearFragments (offset + (column item).length)
              (rest.map (fun other => (ref other, (column other).length)))) position =
          (queue.get? (ref item)).bind (fun values => values[0 + (position - offset)]?) := by
        unfold readFragments
        rw [find?_cons_of_pos (by simpa using ⟨behind, inside⟩)]
      rw [found, stored item mem_cons_self, Option.bind_some, Nat.zero_add,
        getElem?_append_left (by omega)]
    · have passed : readFragments queue
          ({ ref := ref item
             sourceStart := 0
             targetStart := offset
             length := (column item).length } ::
            linearFragments (offset + (column item).length)
              (rest.map (fun other => (ref other, (column other).length)))) position =
          readFragments queue (linearFragments (offset + (column item).length)
            (rest.map (fun other => (ref other, (column other).length)))) position := by
        unfold readFragments
        rw [find?_cons_of_neg (by simp only [decide_eq_true_eq]; omega)]
      rw [passed, ih storedRest _ (by omega), getElem?_append_right (by omega)]
      congr 1
      omega

/-- The step columns are all resident or all remote, as one proxy keeps them. -/
def Uniform (values : List FieldValue) : Prop :=
  (∀ value ∈ values, ∃ column, value = .resident column) ∨
    ∀ value ∈ values, ∃ ref, value = .remote ref

private theorem resident_values
    (reads : ∀ item ∈ items, (value item).read queue = some (column item))
    (resident : ∀ item ∈ items, ∃ values, value item = .resident values) :
    (items.map value).filterMap FieldValue.ref? = [] ∧
      (items.map value).filterMap FieldValue.resident? = items.map column := by
  have shape : ∀ item ∈ items, value item = .resident (column item) := by
    intro item member
    obtain ⟨values, here⟩ := resident item member
    have read := reads item member
    rw [here] at read ⊢
    rw [Option.some_inj.mp read]
  have values : items.map value = items.map (fun item => FieldValue.resident (column item)) :=
    map_congr_left shape
  rw [values, filterMap_map, filterMap_map]
  constructor
  · exact filterMap_eq_nil_iff.mpr (fun _ _ => rfl)
  · exact filterMap_eq_map_iff_forall_eq_some.mpr (fun _ _ => rfl)

private theorem remote_values (reads : ∀ item ∈ items, (value item).read queue = some (column item))
    (remote : ∀ item ∈ items, ∃ ref, value item = .remote ref) :
    ∃ ref : α → TQFieldRef, (items.map value).filterMap FieldValue.ref? = items.map ref ∧
      ∀ item ∈ items, queue.get? (ref item) = some (column item) := by
  let ref : α → TQFieldRef := fun item => (value item).ref?.getD
    { storeId := ""
      trajectoryId := ""
      incarnationId := ""
      stepIndex := 0
      field := .allLogprobs }
  have shape : ∀ item ∈ items, value item = .remote (ref item) := by
    intro item member
    obtain ⟨found, here⟩ := remote item member
    simp only [ref, here]
    rfl
  have values : items.map value = items.map (fun item => FieldValue.remote (ref item)) :=
    map_congr_left shape
  refine ⟨ref, ?_, fun item member => ?_⟩
  · rw [values, filterMap_map]
    exact filterMap_eq_map_iff_forall_eq_some.mpr (fun _ _ => rfl)
  · have read := reads item member
    rw [shape item member] at read
    exact read

theorem buildConcatenatedLogprobs_reads
    (reads : ∀ item ∈ items, (value item).read queue = some (column item))
    (uniform : Uniform (items.map value)) :
    ∃ field, buildConcatenatedLogprobs (items.map value)
        (items.map (fun item => (column item).length)) (items.flatMap column).length = .ok field ∧
      ∀ position, field.at? queue position = (items.flatMap column)[position]? := by
  have total : (items.map (fun item => (column item).length)).sum =
      (items.flatMap column).length := by
    rw [length_flatMap]
  unfold buildConcatenatedLogprobs
  rw [if_neg (not_not_intro total)]
  dsimp only
  rcases uniform with allResident | allRemote
  · have shape := resident_values items reads
      (fun item member => allResident (value item) (mem_map_of_mem member))
    refine ⟨.resident (items.flatMap column), ?_, fun _ => rfl⟩
    rw [shape.1, shape.2, if_pos rfl, ← flatMap_def, if_neg (not_not_intro rfl)]
  · obtain ⟨ref, refs, stored⟩ := remote_values items reads
      (fun item member => allRemote (value item) (mem_map_of_mem member))
    rw [refs]
    by_cases empty : items = []
    · subst empty
      exact ⟨.resident [], rfl, fun _ => rfl⟩
    · have nonempty : items.map ref ≠ [] := fun none => empty (map_eq_nil_iff.mp none)
      rw [if_neg nonempty, if_neg (by simp)]
      let plan : TQFieldLayout :=
        { logicalField := "full_logprobs"
          codec := tqLogprobsCodec
          fragments := linearFragments 0 (items.map (fun item => (ref item, (column item).length)))
          tokenCount := (items.flatMap column).length
          shape := some [(items.flatMap column).length] }
      refine ⟨.layout plan, ?_, fun position => ?_⟩
      · have sizes : (items.map ref).length =
            (items.map (fun item => (column item).length)).length := by
          simp
        unfold buildLinearLayout
        rw [if_pos sizes, zip_map']
        rfl
      · exact readFragments_linear items stored 0 position (Nat.zero_le _)

theorem buildSnapshotLogprobs_ok (value : FieldValue) {promptLength responseLength tokenCount : Nat}
    (aligned : promptLength + responseLength = tokenCount) (remoteInvalid : Bool) :
    ∃ field invalid, buildSnapshotLogprobs value promptLength responseLength tokenCount
      remoteInvalid = .ok (field, invalid) := by
  unfold buildSnapshotLogprobs
  rw [if_neg (not_not_intro aligned)]
  cases value with
  | resident values => exact ⟨_, _, rfl⟩
  | remote ref => exact ⟨_, _, rfl⟩

end Dressage.Transport
