/-
Counting and taking out of lists.

Changing one item changes a count by what the item was and what it becomes, and
adds no member but the changed one; so does an item put at the end. Taking out the first accepted item leaves the others.
-/

import Mathlib.Data.List.Basic

namespace Dressage.Lib.Lists

open List

variable {α : Type}

variable {index : Nat} {items : List α} {item : α}

theorem countP_modify (accepts : α → Bool) (found : items[index]? = some item) (change : α → α) :
    (items.modify index change).countP accepts + (if accepts item then 1 else 0) =
      items.countP accepts + (if accepts (change item) then 1 else 0) := by
  induction items generalizing index with
  | nil => cases found
  | cons first rest ih =>
    cases index with
    | zero =>
      rw [getElem?_cons_zero, Option.some_inj] at found
      subst found
      rw [modify_zero_cons, countP_cons, countP_cons]
      omega
    | succ index =>
      rw [getElem?_cons_succ] at found
      have tail := ih found
      rw [modify_succ_cons, countP_cons, countP_cons]
      omega

theorem mem_modify {change : α → α} (member : item ∈ items.modify index change) :
    item ∈ items ∨ ∃ before, items[index]? = some before ∧ item = change before := by
  obtain ⟨position, found⟩ := mem_iff_getElem?.mp member
  rw [getElem?_modify] at found
  obtain ⟨before, atBefore, changed⟩ := Option.map_eq_some_iff.mp found
  by_cases here : index = position
  · subst here
    rw [if_pos rfl] at changed
    exact .inr ⟨before, atBefore, changed.symm⟩
  · rw [if_neg here] at changed
    exact .inl (changed ▸ mem_of_getElem? atBefore)

theorem change_mem_modify (found : items[index]? = some item) (change : α → α) :
    change item ∈ items.modify index change := by
  refine mem_iff_getElem?.mpr ⟨index, ?_⟩
  rw [getElem?_modify_eq, found, Option.map_eq_map, Option.map_some]

theorem getElem?_snoc {last : α} (found : (items ++ [last])[index]? = some item) :
    items[index]? = some item ∨ index = items.length ∧ item = last := by
  rcases Nat.lt_or_ge index items.length with lower | upper
  · rw [getElem?_append_left lower] at found
    exact .inl found
  · rw [getElem?_append_right upper] at found
    obtain ⟨within, same⟩ := List.getElem_of_getElem? found
    rw [length_singleton] at within
    have zero : index - items.length = 0 := by omega
    simp only [zero, getElem_singleton] at same
    exact .inr ⟨by omega, same.symm⟩

theorem perm_eraseP_of_find? {accepts : α → Bool} (found : items.find? accepts = some item) :
    items.Perm (item :: items.eraseP accepts) := by
  induction items with
  | nil => cases found
  | cons first rest ih =>
    by_cases here : accepts first = true
    · rw [find?_cons_of_pos here, Option.some_inj] at found
      rw [eraseP_cons_of_pos here, found]
    · rw [find?_cons_of_neg here] at found
      rw [eraseP_cons_of_neg here]
      exact ((ih found).cons first).trans (List.Perm.swap item first _)

end Dressage.Lib.Lists
