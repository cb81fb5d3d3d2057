/-
Buckets and indexed writes.

A `defaultdict(list)` filled by one loop: each item goes to the bucket of its
key, items without a key go nowhere. A bucket is the sublist of the items with
its key, in the loop's order. Writes through a list of index and value pairs
land where the indices point, as long as no index is written twice.
-/

import Dressage.Lib.OrderedDict
import Mathlib.Data.List.Basic

namespace Dressage.Lib

open List OrderedDict

section Buckets

variable {α β κ : Type} [DecidableEq κ]

def putInBucket (key : α → Option κ) (value : α → β) (buckets : OrderedDict κ (List β))
    (item : α) : OrderedDict κ (List β) :=
  match key item with
  | none => buckets
  | some label => buckets.set label (buckets.getD label [] ++ [value item])

def bucketBy (key : α → Option κ) (value : α → β) (items : List α) : OrderedDict κ (List β) :=
  items.foldl (putInBucket key value) OrderedDict.empty

def ofKey (key : α → Option κ) (label : κ) (items : List α) : List α :=
  items.filter (fun item => key item = some label)

theorem mem_ofKey {key : α → Option κ} {label : κ} {items : List α} {item : α} :
    item ∈ ofKey key label items ↔ item ∈ items ∧ key item = some label := by
  simp [ofKey]

private theorem foldl_putInBucket (key : α → Option κ) (value : α → β) (items : List α)
    (buckets : OrderedDict κ (List β)) (label : κ) :
    (items.foldl (putInBucket key value) buckets).getD label [] =
      buckets.getD label [] ++ (ofKey key label items).map value := by
  induction items generalizing buckets with
  | nil => simp [ofKey]
  | cons item rest ih =>
    rw [foldl_cons, ih]
    cases keyed : key item with
    | none => simp [putInBucket, keyed, ofKey]
    | some other =>
      by_cases same : label = other
      · subst same
        simp [putInBucket, keyed, ofKey, OrderedDict.getD]
      · have different : ¬ other = label := fun h => same h.symm
        simp [putInBucket, keyed, ofKey, OrderedDict.getD, get?_set, same, different]

theorem getD_bucketBy (key : α → Option κ) (value : α → β) (items : List α) (label : κ) :
    (bucketBy key value items).getD label [] = (ofKey key label items).map value := by
  rw [bucketBy, foldl_putInBucket]
  simp [OrderedDict.getD]

private theorem mem_keys_foldl_putInBucket (key : α → Option κ) (value : α → β) (items : List α)
    (buckets : OrderedDict κ (List β)) (label : κ) :
    label ∈ (items.foldl (putInBucket key value) buckets).keys ↔
      label ∈ buckets.keys ∨ ∃ item ∈ items, key item = some label := by
  induction items generalizing buckets with
  | nil => simp
  | cons item rest ih =>
    rw [foldl_cons, ih]
    cases keyed : key item with
    | none => simp [putInBucket, keyed]
    | some other =>
      simp only [putInBucket, keyed, mem_keys_set, mem_cons,
        exists_eq_or_imp, Option.some.injEq, eq_comm (a := other)]
      constructor
      · rintro ((same | inBuckets) | inRest)
        · exact .inr (.inl same)
        · exact .inl inBuckets
        · exact .inr (.inr inRest)
      · rintro (inBuckets | same | inRest)
        · exact .inl (.inr inBuckets)
        · exact .inl (.inl same)
        · exact .inr inRest

theorem mem_keys_bucketBy (key : α → Option κ) (value : α → β) (items : List α) (label : κ) :
    label ∈ (bucketBy key value items).keys ↔ ∃ item ∈ items, key item = some label := by
  rw [bucketBy, mem_keys_foldl_putInBucket]
  simp [OrderedDict.keys, OrderedDict.empty]

theorem bucket_eq {key : α → Option κ} {value : α → β} {items : List α}
    {bucket : κ × List β} (member : bucket ∈ (bucketBy key value items).entries) :
    bucket.2 = (ofKey key bucket.1 items).map value := by
  have found := get?_of_mem member
  rw [← getD_bucketBy, OrderedDict.getD, found, Option.getD_some]

theorem bucket_of_item {key : α → Option κ} {value : α → β} {items : List α} {item : α}
    {label : κ} (member : item ∈ items) (keyed : key item = some label) :
    (label, (ofKey key label items).map value) ∈ (bucketBy key value items).entries := by
  have present := (mem_keys_bucketBy key value items label).mpr ⟨item, member, keyed⟩
  obtain ⟨bucket, found⟩ := (mem_keys_iff _ label).mp present
  have inside := mem_of_get? found
  have same := bucket_eq inside
  simp only at same
  rw [same] at inside
  exact inside

end Buckets

section Writes

variable {α : Type}

def writeAll (values : List α) (updates : List (Nat × α)) : List α :=
  updates.foldl (fun written update => written.set update.1 update.2) values

@[simp] theorem length_writeAll (values : List α) (updates : List (Nat × α)) :
    (writeAll values updates).length = values.length := by
  unfold writeAll
  induction updates generalizing values with
  | nil => rfl
  | cons update rest ih => rw [foldl_cons, ih, length_set]

variable {values : List α} {index : Nat}

theorem writeAll_unwritten {updates : List (Nat × α)} (unwritten : index ∉ updates.map Prod.fst) :
    (writeAll values updates)[index]? = values[index]? := by
  unfold writeAll
  induction updates generalizing values with
  | nil => rfl
  | cons update rest ih =>
    rw [map_cons, mem_cons, not_or] at unwritten
    rw [foldl_cons, ih unwritten.2, getElem?_set_ne (Ne.symm unwritten.1)]

theorem writeAll_written {updates : List (Nat × α)} {update : Nat × α}
    (distinct : (updates.map Prod.fst).Nodup) (member : update ∈ updates)
    (inRange : update.1 < values.length) :
    (writeAll values updates)[update.1]? = some update.2 := by
  induction updates generalizing values with
  | nil => cases member
  | cons first rest ih =>
    rw [map_cons, nodup_cons] at distinct
    rcases mem_cons.mp member with atHead | inRest
    · subst atHead
      have kept : (writeAll (values.set update.1 update.2) rest)[update.1]? =
        (values.set update.1 update.2)[update.1]? := writeAll_unwritten distinct.1
      unfold writeAll at kept ⊢
      rw [foldl_cons, kept, getElem?_set_self inRange]
    · have inRangeAfter : update.1 < (values.set first.1 first.2).length := by
        rw [length_set]
        exact inRange
      have written := ih distinct.2 inRest inRangeAfter
      unfold writeAll at written ⊢
      rw [foldl_cons]
      exact written

def fillAt (values : List α) (indices : List Nat) (value : α) : List α :=
  indices.foldl (fun written index => written.set index value) values

@[simp] theorem length_fillAt (values : List α) (indices : List Nat) (value : α) :
    (fillAt values indices value).length = values.length := by
  unfold fillAt
  induction indices generalizing values with
  | nil => rfl
  | cons index rest ih => rw [foldl_cons, ih, length_set]

theorem fillAt_outside {indices : List Nat} {value : α} (outside : index ∉ indices) :
    (fillAt values indices value)[index]? = values[index]? := by
  unfold fillAt
  induction indices generalizing values with
  | nil => rfl
  | cons first rest ih =>
    rw [mem_cons, not_or] at outside
    rw [foldl_cons, ih outside.2, getElem?_set_ne (Ne.symm outside.1)]

theorem fillAt_inside {indices : List Nat} {value : α} (inside : index ∈ indices)
    (inRange : index < values.length) :
    (fillAt values indices value)[index]? = some value := by
  induction indices generalizing values with
  | nil => cases inside
  | cons first rest ih =>
    by_cases later : index ∈ rest
    · have inRangeAfter : index < (values.set first value).length := by
        rw [length_set]
        exact inRange
      have filled := ih later inRangeAfter
      unfold fillAt at filled ⊢
      rw [foldl_cons]
      exact filled
    · have atHead : index = first := by
        rcases mem_cons.mp inside with same | inRest
        · exact same
        · exact absurd inRest later
      have kept : (fillAt (values.set first value) rest value)[index]? =
        (values.set first value)[index]? := fillAt_outside later
      unfold fillAt at kept ⊢
      rw [foldl_cons, kept, ← atHead, getElem?_set_self inRange]

end Writes

end Dressage.Lib
