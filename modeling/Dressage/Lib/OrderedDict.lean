/-
Insertion-ordered dictionaries.

Keys are distinct by construction. Assigning to a present key replaces the
value where it stands; assigning to a new key appends. Popping a missing key
changes nothing. This is the dictionary of a scripting language, not a search
tree: lookups are linear and iteration order is part of the value.
-/

import Mathlib.Data.List.Nodup

namespace Dressage.Lib

structure OrderedDict (κ ν : Type) where
  entries : List (κ × ν)
  distinct : (entries.map Prod.fst).Nodup

namespace OrderedDict

variable {κ ν : Type}

def empty : OrderedDict κ ν :=
  { entries := []
    distinct := List.nodup_nil }

def keys (dict : OrderedDict κ ν) : List κ := dict.entries.map Prod.fst

def values (dict : OrderedDict κ ν) : List ν := dict.entries.map Prod.snd

theorem keys_nodup (dict : OrderedDict κ ν) : dict.keys.Nodup := dict.distinct

@[ext] theorem ext_entries {left right : OrderedDict κ ν}
    (same : left.entries = right.entries) : left = right := by
  cases left
  cases right
  simp only at same
  subst same
  rfl

variable [DecidableEq κ]

def lookup (key : κ) : List (κ × ν) → Option ν
  | [] => none
  | (other, value) :: rest => if other = key then some value else lookup key rest

def assign (key : κ) (value : ν) : List (κ × ν) → List (κ × ν)
  | [] => [(key, value)]
  | (other, previous) :: rest =>
    if other = key then (other, value) :: rest
    else (other, previous) :: assign key value rest

theorem mem_keys_assign (key other : κ) (value : ν) (entries : List (κ × ν)) :
    other ∈ (assign key value entries).map Prod.fst ↔
      other = key ∨ other ∈ entries.map Prod.fst := by
  induction entries with
  | nil => simp [assign]
  | cons entry rest ih =>
    rcases entry with ⟨head, previous⟩
    by_cases same : head = key
    · subst head
      simp [assign]
    · simp only [assign, if_neg same, List.map_cons, List.mem_cons, ih]
      constructor
      · rintro (atHead | atKey | inRest)
        · exact .inr (.inl atHead)
        · exact .inl atKey
        · exact .inr (.inr inRest)
      · rintro (atKey | atHead | inRest)
        · exact .inr (.inl atKey)
        · exact .inl atHead
        · exact .inr (.inr inRest)

private theorem assign_distinct (key : κ) (value : ν) (entries : List (κ × ν))
    (distinct : (entries.map Prod.fst).Nodup) :
    ((assign key value entries).map Prod.fst).Nodup := by
  induction entries with
  | nil => simp [assign]
  | cons entry rest ih =>
    rcases entry with ⟨head, previous⟩
    have headRest := List.nodup_cons.mp distinct
    by_cases same : head = key
    · simpa only [assign, if_pos same, List.map_cons] using distinct
    · simp only [assign, if_neg same, List.map_cons, List.nodup_cons]
      constructor
      · intro member
        rcases (mem_keys_assign key head value rest).mp member with atKey | inRest
        · exact same atKey
        · exact headRest.1 inRest
      · exact ih headRest.2

def get? (dict : OrderedDict κ ν) (key : κ) : Option ν := lookup key dict.entries

def getD (dict : OrderedDict κ ν) (key : κ) (fallback : ν) : ν :=
  (dict.get? key).getD fallback

def set (dict : OrderedDict κ ν) (key : κ) (value : ν) : OrderedDict κ ν :=
  { entries := assign key value dict.entries
    distinct := assign_distinct key value dict.entries dict.distinct }

/-- Deletion of a missing key is a no-op, as in `pop(key, None)`. -/
def pop (dict : OrderedDict κ ν) (key : κ) : OrderedDict κ ν :=
  { entries := dict.entries.filter (fun entry => entry.1 ≠ key)
    distinct := dict.distinct.sublist (List.Sublist.map Prod.fst List.filter_sublist) }

def popAll (dict : OrderedDict κ ν) (keys : List κ) : OrderedDict κ ν :=
  keys.foldl (fun remaining key => remaining.pop key) dict

def mapValues (change : κ → ν → ν) (dict : OrderedDict κ ν) : OrderedDict κ ν :=
  { entries := dict.entries.map (fun entry => (entry.1, change entry.1 entry.2))
    distinct := by simpa [Function.comp_def] using dict.distinct }

instance : Membership κ (OrderedDict κ ν) where
  mem dict key := key ∈ dict.keys

instance (dict : OrderedDict κ ν) (key : κ) : Decidable (key ∈ dict) :=
  inferInstanceAs (Decidable (key ∈ dict.keys))

@[simp] theorem get?_empty (key : κ) : (empty : OrderedDict κ ν).get? key = none := rfl

theorem lookup_assign (key other : κ) (value : ν) (entries : List (κ × ν)) :
    lookup other (assign key value entries) =
      if other = key then some value else lookup other entries := by
  induction entries with
  | nil =>
    simp only [assign, lookup]
    by_cases same : other = key
    · rw [if_pos same, if_pos same.symm]
    · rw [if_neg same, if_neg (Ne.symm same)]
  | cons entry rest ih =>
    rcases entry with ⟨head, previous⟩
    by_cases atHead : head = key
    · subst head
      by_cases same : other = key
      · simp [assign, lookup, same]
      · simp [assign, lookup, same, Ne.symm same]
    · by_cases found : head = other
      · subst head
        simp [assign, lookup, atHead]
      · simp [assign, lookup, atHead, found, ih]

theorem get?_set (dict : OrderedDict κ ν) (key other : κ) (value : ν) :
    (dict.set key value).get? other = if other = key then some value else dict.get? other :=
  lookup_assign key other value dict.entries

@[simp] theorem get?_set_self (dict : OrderedDict κ ν) (key : κ) (value : ν) :
    (dict.set key value).get? key = some value := by
  rw [get?_set, if_pos rfl]

variable {key : κ} {value : ν} {dict : OrderedDict κ ν} {entry : κ × ν}

theorem get?_set_of_ne (dict : OrderedDict κ ν) {other : κ} (value : ν) (different : other ≠ key) :
    (dict.set key value).get? other = dict.get? other := by
  rw [get?_set, if_neg different]

private theorem assign_assign (key : κ) (first second : ν) (entries : List (κ × ν)) :
    assign key second (assign key first entries) = assign key second entries := by
  induction entries with
  | nil => simp [assign]
  | cons entry rest ih =>
    rcases entry with ⟨head, previous⟩
    by_cases atHead : head = key
    · simp [assign, atHead]
    · simp [assign, atHead, ih]

@[simp] theorem set_set (dict : OrderedDict κ ν) (key : κ) (first second : ν) :
    (dict.set key first).set key second = dict.set key second :=
  ext_entries (assign_assign key first second dict.entries)

private theorem lookup_filter (key other : κ) (entries : List (κ × ν)) :
    lookup other (entries.filter (fun entry => entry.1 ≠ key)) =
      if other = key then none else lookup other entries := by
  induction entries with
  | nil => simp [lookup]
  | cons entry rest ih =>
    rcases entry with ⟨head, value⟩
    by_cases dropped : head = key
    · subst head
      rw [List.filter_cons_of_neg (by simp), ih]
      by_cases same : other = key
      · rw [if_pos same, if_pos same]
      · rw [if_neg same, if_neg same, lookup, if_neg (Ne.symm same)]
    · rw [List.filter_cons_of_pos (by simpa using dropped)]
      by_cases found : head = other
      · subst head
        simp [lookup, dropped]
      · simp only [lookup, if_neg found, ih]

theorem get?_pop (dict : OrderedDict κ ν) (key other : κ) :
    (dict.pop key).get? other = if other = key then none else dict.get? other :=
  lookup_filter key other dict.entries

@[simp] theorem get?_pop_self (dict : OrderedDict κ ν) (key : κ) :
    (dict.pop key).get? key = none := by
  rw [get?_pop, if_pos rfl]

theorem get?_pop_of_ne (dict : OrderedDict κ ν) {other : κ} (different : other ≠ key) :
    (dict.pop key).get? other = dict.get? other := by
  rw [get?_pop, if_neg different]

theorem get?_mapValues (change : κ → ν → ν) (dict : OrderedDict κ ν) (key : κ) :
    (dict.mapValues change).get? key = (dict.get? key).map (change key) := by
  unfold get? mapValues
  simp only
  induction dict.entries with
  | nil => rfl
  | cons entry rest ih =>
    rcases entry with ⟨head, value⟩
    by_cases same : head = key
    · subst head
      simp [lookup]
    · simp only [List.map_cons, lookup, if_neg same, ih]

theorem mem_keys_iff (dict : OrderedDict κ ν) (key : κ) :
    key ∈ dict.keys ↔ ∃ value, dict.get? key = some value := by
  unfold keys get?
  induction dict.entries with
  | nil => simp [lookup]
  | cons entry rest ih =>
    rcases entry with ⟨head, value⟩
    by_cases same : head = key
    · subst head
      simp [lookup]
    · simp only [List.map_cons, List.mem_cons, lookup, if_neg same, ← ih]
      constructor
      · rintro (atHead | inRest)
        · exact absurd atHead.symm same
        · exact inRest
      · exact .inr

theorem mem_iff (dict : OrderedDict κ ν) (key : κ) :
    key ∈ dict ↔ ∃ value, dict.get? key = some value :=
  mem_keys_iff dict key

theorem mem_keys_set (dict : OrderedDict κ ν) (key other : κ) (value : ν) :
    other ∈ (dict.set key value).keys ↔ other = key ∨ other ∈ dict.keys :=
  mem_keys_assign key other value dict.entries

theorem mem_keys_pop (dict : OrderedDict κ ν) (key other : κ) :
    other ∈ (dict.pop key).keys ↔ other ≠ key ∧ other ∈ dict.keys := by
  rw [mem_keys_iff, mem_keys_iff, get?_pop]
  by_cases same : other = key
  · simp [same]
  · simp [same]

theorem get?_popAll (dict : OrderedDict κ ν) (keys : List κ) (key : κ) :
    (dict.popAll keys).get? key = if key ∈ keys then none else dict.get? key := by
  unfold popAll
  induction keys generalizing dict with
  | nil => simp
  | cons first rest ih =>
    rw [List.foldl_cons, ih, get?_pop]
    by_cases inRest : key ∈ rest
    · simp [inRest]
    · by_cases same : key = first
      · simp [same]
      · simp [inRest, same]

theorem mem_keys_foldl_set {α : Type} (key : α → κ) (value : α → ν) (items : List α)
    (dict : OrderedDict κ ν) (other : κ) :
    other ∈ (items.foldl (fun filled item => filled.set (key item) (value item)) dict).keys ↔
      other ∈ dict.keys ∨ ∃ item ∈ items, key item = other := by
  induction items generalizing dict with
  | nil => simp
  | cons item rest ih =>
    simp only [List.foldl_cons, ih, mem_keys_set, List.mem_cons, exists_eq_or_imp]
    constructor
    · rintro ((same | inDict) | inRest)
      · exact .inr (.inl same.symm)
      · exact .inl inDict
      · exact .inr (.inr inRest)
    · rintro (inDict | same | inRest)
      · exact .inl (.inr inDict)
      · exact .inl (.inl same.symm)
      · exact .inr inRest

theorem get?_foldl_set {α : Type} (key : α → κ) (value : α → ν) (items : List α)
    (dict : OrderedDict κ ν) (distinct : (items.map key).Nodup) {item : α}
    (member : item ∈ items) :
    (items.foldl (fun filled item => filled.set (key item) (value item)) dict).get? (key item) =
      some (value item) := by
  have kept : ∀ (rest : List α) (dict : OrderedDict κ ν) (other : κ), other ∉ rest.map key →
      (rest.foldl (fun filled item => filled.set (key item) (value item)) dict).get? other =
        dict.get? other := by
    intro rest
    induction rest with
    | nil =>
      intro dict other _unwritten
      rfl
    | cons first rest ih =>
      intro dict other unwritten
      rw [List.map_cons, List.mem_cons, not_or] at unwritten
      rw [List.foldl_cons, ih _ other unwritten.2, get?_set_of_ne _ _ unwritten.1]
  induction items generalizing dict with
  | nil => cases member
  | cons first rest ih =>
    rw [List.map_cons, List.nodup_cons] at distinct
    rw [List.foldl_cons]
    rcases List.mem_cons.mp member with atHead | inRest
    · subst atHead
      rw [kept rest _ (key item) distinct.1, get?_set_self]
    · exact ih _ distinct.2 inRest

theorem keys_pop (dict : OrderedDict κ ν) (key : κ) :
    (dict.pop key).keys = dict.keys.filter (fun other => other ≠ key) := by
  unfold keys pop
  rw [List.filter_map]
  rfl

theorem mem_of_get? (found : dict.get? key = some value) : (key, value) ∈ dict.entries := by
  unfold get? at found
  revert found
  induction dict.entries with
  | nil =>
    intro found
    cases found
  | cons entry rest ih =>
    rcases entry with ⟨head, first⟩
    intro found
    by_cases same : head = key
    · rw [lookup, if_pos same, Option.some_inj] at found
      rw [same, found]
      exact List.mem_cons_self
    · rw [lookup, if_neg same] at found
      exact List.mem_cons_of_mem _ (ih found)

theorem get?_of_mem (member : entry ∈ dict.entries) : dict.get? entry.1 = some entry.2 := by
  obtain ⟨value, found⟩ := (mem_keys_iff dict entry.1).mp (List.mem_map_of_mem member)
  have same := List.inj_on_of_nodup_map dict.distinct (mem_of_get? found) member rfl
  rw [found, ← same]

theorem perm_keys_pop (found : dict.get? key = some value) :
    dict.keys.Perm (key :: (dict.pop key).keys) := by
  have present : key ∈ dict.keys := (mem_keys_iff dict key).mpr ⟨value, found⟩
  refine (List.perm_cons_erase present).trans (List.Perm.cons key ?_)
  rw [keys_pop, dict.keys_nodup.erase_eq_filter]
  refine List.Perm.of_eq (List.filter_congr ?_)
  intro other _member
  by_cases same : other = key
  · simp [same]
  · simp [same]

theorem perm_values_pop (found : dict.get? key = some value) :
    dict.values.Perm (value :: (dict.pop key).values) := by
  unfold get? at found
  unfold values pop
  have distinct := dict.distinct
  revert found distinct
  simp only
  induction dict.entries with
  | nil =>
    intro found _distinct
    cases found
  | cons entry rest ih =>
    rcases entry with ⟨head, first⟩
    intro found distinct
    rw [List.map_cons, List.nodup_cons] at distinct
    by_cases same : head = key
    · rw [lookup, if_pos same, Option.some_inj] at found
      have kept : rest.filter (fun entry => entry.1 ≠ key) = rest := by
        apply List.filter_eq_self.mpr
        intro entry member
        have different : entry.1 ≠ key := by
          intro atKey
          exact distinct.1 (List.mem_map.mpr ⟨entry, member, atKey.trans same.symm⟩)
        simpa using different
      rw [List.filter_cons_of_neg (by simpa using same), kept, List.map_cons, found]
    · rw [lookup, if_neg same] at found
      rw [List.filter_cons_of_pos (by simpa using same), List.map_cons, List.map_cons]
      exact ((ih found distinct.2).cons first).trans (List.Perm.swap value first _)

theorem pop_of_get?_eq_none (absent : dict.get? key = none) : dict.pop key = dict := by
  apply ext_entries
  apply List.filter_eq_self.mpr
  intro entry member
  have different : entry.1 ≠ key := by
    intro same
    rw [← same, get?_of_mem member] at absent
    cases absent
  simpa using different

@[simp] theorem pop_set (dict : OrderedDict κ ν) (key : κ) (value : ν) :
    (dict.set key value).pop key = dict.pop key := by
  apply ext_entries
  change (assign key value dict.entries).filter (fun entry => entry.1 ≠ key) =
    dict.entries.filter (fun entry => entry.1 ≠ key)
  induction dict.entries with
  | nil => simp [assign]
  | cons entry rest ih =>
    rcases entry with ⟨head, previous⟩
    by_cases atHead : head = key
    · rw [assign, if_pos atHead, List.filter_cons_of_neg (by simpa using atHead),
        List.filter_cons_of_neg (by simpa using atHead)]
    · rw [assign, if_neg atHead, List.filter_cons_of_pos (by simpa using atHead),
        List.filter_cons_of_pos (by simpa using atHead), ih]

theorem perm_values_set (dict : OrderedDict κ ν) (key : κ) (value : ν) :
    (dict.set key value).values.Perm (value :: (dict.pop key).values) := by
  have listed := perm_values_pop (get?_set_self dict key value)
  rw [pop_set] at listed
  exact listed

theorem countP_values_set {dict : OrderedDict κ ν} {key : κ} {old : ν} (kind : ν → Bool)
    (found : dict.get? key = some old) (value : ν) :
    (dict.set key value).values.countP kind + (if kind old then 1 else 0) =
      dict.values.countP kind + (if kind value then 1 else 0) := by
  rw [(perm_values_set dict key value).countP_eq, (perm_values_pop found).countP_eq,
    List.countP_cons, List.countP_cons]
  omega

theorem countP_values_set_new (kind : ν → Bool) (absent : dict.get? key = none) (value : ν) :
    (dict.set key value).values.countP kind =
      dict.values.countP kind + (if kind value then 1 else 0) := by
  rw [(perm_values_set dict key value).countP_eq, pop_of_get?_eq_none absent, List.countP_cons]

theorem mem_entries_pop (member : entry ∈ (dict.pop key).entries) : entry ∈ dict.entries :=
  List.mem_of_mem_filter member

theorem mem_entries_set (member : entry ∈ (dict.set key value).entries) :
    entry = (key, value) ∨ entry ∈ dict.entries := by
  have found := get?_of_mem member
  rw [get?_set] at found
  split at found
  · next same =>
      cases found
      exact .inl (Prod.ext same rfl)
  · exact .inr (mem_of_get? found)

private theorem assign_new (key : κ) (value : ν) (entries : List (κ × ν))
    (new : key ∉ entries.map Prod.fst) : assign key value entries = entries ++ [(key, value)] := by
  induction entries with
  | nil => rfl
  | cons entry rest ih =>
    rcases entry with ⟨head, previous⟩
    rw [List.map_cons, List.mem_cons, not_or] at new
    rw [assign, if_neg (Ne.symm new.1), ih new.2, List.cons_append]

theorem entries_set_new (new : key ∉ dict.keys) (value : ν) :
    (dict.set key value).entries = dict.entries ++ [(key, value)] :=
  assign_new key value dict.entries new

private theorem map_assign {γ : Type} (read : κ × ν → γ) (key : κ) (value old : ν)
    (entries : List (κ × ν)) (found : lookup key entries = some old)
    (same : read (key, value) = read (key, old)) :
    (assign key value entries).map read = entries.map read := by
  induction entries with
  | nil => cases found
  | cons entry rest ih =>
    rcases entry with ⟨head, previous⟩
    by_cases atHead : head = key
    · subst head
      rw [lookup, if_pos rfl, Option.some_inj] at found
      rw [assign, if_pos rfl, List.map_cons, List.map_cons, same, found]
    · rw [lookup, if_neg atHead] at found
      rw [assign, if_neg atHead, List.map_cons, List.map_cons, ih found]

theorem map_entries_set {γ : Type} (read : κ × ν → γ) {old : ν} (found : dict.get? key = some old)
    (same : read (key, value) = read (key, old)) :
    (dict.set key value).entries.map read = dict.entries.map read :=
  map_assign read key value old dict.entries found same

end OrderedDict

end Dressage.Lib
