/-
Linear layouts and the buffers they are copied into.

A layout names where the pieces of an array lie: each fragment is a stretch of
a stored column and the place it goes to. A linear layout puts the stretches one
after another. Copying one into a buffer of fillers, cut anywhere, gives the
columns fitted to their lengths, put one after another and cut there.
-/

import Mathlib.Data.List.Basic

namespace Dressage.Lib.Fragments

open List

variable {κ α β : Type}

structure Fragment (κ : Type) where
  ref : κ
  sourceStart : Nat
  targetStart : Nat
  length : Nat
deriving DecidableEq

def linear : Nat → List (κ × Nat) → List (Fragment κ)
  | _, [] => []
  | offset, (ref, length) :: rest =>
    { ref := ref
      sourceStart := 0
      targetStart := offset
      length := length } :: linear (offset + length) rest

def fit (filler : α) (length : Nat) (values : List α) : List α :=
  values.take length ++ List.replicate (length - values.length) filler

def overwrite (buffer : List α) (start : Nat) (values : List α) : List α :=
  buffer.take start ++ values ++ buffer.drop (start + values.length)

def Fragment.copyLength (fragment : Fragment κ) (total : Nat) : Nat :=
  min fragment.length (total - fragment.targetStart)

def copyFragment (column : List α) (fragment : Fragment κ) (buffer : List α) : List α :=
  overwrite buffer fragment.targetStart
    ((column.drop fragment.sourceStart).take (fragment.copyLength buffer.length))

@[simp] theorem fit_length (filler : α) (length : Nat) (values : List α) :
    (fit filler length values).length = length := by
  unfold fit
  rw [length_append, length_take, length_replicate]
  omega

variable {length : Nat} {values buffer : List α} {filler : α}

theorem fit_eq_of_length (exact_ : values.length = length) : fit filler length values = values := by
  unfold fit
  rw [← exact_, take_length, Nat.sub_self, replicate_zero, append_nil]

theorem fit_eq_take (long : length ≤ values.length) :
    fit filler length values = values.take length := by
  unfold fit
  rw [Nat.sub_eq_zero_of_le long, replicate_zero, append_nil]

theorem take_fit (filler : α) (values : List α) {shorter : Nat} (le : shorter ≤ length) :
    (fit filler length values).take shorter = fit filler shorter values := by
  unfold fit
  rw [take_append, take_take, take_replicate, length_take, Nat.min_eq_left le]
  congr 2
  omega

theorem overwrite_nil (buffer : List α) (start : Nat) : overwrite buffer start [] = buffer := by
  unfold overwrite
  rw [append_nil, length_nil, Nat.add_zero, take_append_drop]

theorem overwrite_length {start : Nat} (inside : start + values.length ≤ buffer.length) :
    (overwrite buffer start values).length = buffer.length := by
  unfold overwrite
  rw [length_append, length_append, length_take, length_drop]
  omega

theorem overwrite_append {start : Nat} (tail : List α)
    (inside : start + values.length ≤ buffer.length) :
    overwrite (buffer ++ tail) start values = overwrite buffer start values ++ tail := by
  unfold overwrite
  rw [take_append_of_le_length (by omega), drop_append_of_le_length inside,
    append_assoc, append_assoc, append_assoc]

theorem overwrite_fillers (filler : α) (done values : List α) (room : Nat) :
    overwrite (done ++ List.replicate room filler) done.length (values.take room) =
      done ++ fit filler room values := by
  unfold overwrite fit
  rw [take_left, drop_append, append_assoc]
  congr 2
  have past : done.drop (done.length + (values.take room).length) = [] := by
    rw [drop_eq_nil_iff]
    omega
  rw [past, nil_append, drop_replicate, length_take]
  congr 1
  omega

def copyAll (column : κ → List α) (fragments : List (Fragment κ)) (buffer : List α) : List α :=
  fragments.foldl (fun current fragment => copyFragment (column fragment.ref) fragment current)
    buffer

theorem copyFragment_outside {column : List α} {fragment : Fragment κ}
    (outside : buffer.length ≤ fragment.targetStart) :
    copyFragment column fragment buffer = buffer := by
  have nothing : fragment.copyLength buffer.length = 0 := by
    unfold Fragment.copyLength
    omega
  unfold copyFragment
  rw [nothing, take_zero, overwrite_nil]

@[simp] theorem copyFragment_length (column : List α) (fragment : Fragment κ) (buffer : List α) :
    (copyFragment column fragment buffer).length = buffer.length := by
  by_cases outside : buffer.length ≤ fragment.targetStart
  · rw [copyFragment_outside outside]
  · apply overwrite_length
    rw [length_take]
    unfold Fragment.copyLength
    omega

theorem copyAll_outside (column : κ → List α) (parts : List (κ × Nat)) {offset : Nat}
    (outside : buffer.length ≤ offset) :
    copyAll column (linear offset parts) buffer = buffer := by
  induction parts generalizing offset with
  | nil => rfl
  | cons part rest ih =>
    unfold copyAll at ih ⊢
    rw [linear, foldl_cons, copyFragment_outside outside]
    exact ih (by omega)

theorem fit_append_of_le {first rest : List α} {room : Nat} (le : first.length ≤ room) :
    fit filler room (first ++ rest) = first ++ fit filler (room - first.length) rest := by
  unfold fit
  rw [take_append, take_of_length_le le, append_assoc, length_append]
  congr 3
  omega

theorem fit_append_of_ge {first rest : List α} {room : Nat} (ge : room ≤ first.length) :
    fit filler room (first ++ rest) = first.take room := by
  unfold fit
  have short : room - (first ++ rest).length = 0 := by
    rw [length_append]
    omega
  rw [short, replicate_zero, append_nil, take_append_of_le_length ge]

theorem copyAll_linear (filler : α) (column : κ → List α) (parts : List (κ × Nat))
    (done : List α) (room : Nat) :
    copyAll column (linear done.length parts) (done ++ List.replicate room filler) =
      done ++ fit filler room (parts.flatMap fun part => fit filler part.2 (column part.1)) := by
  induction parts generalizing done room with
  | nil =>
    unfold fit
    simp [copyAll, linear]
  | cons part rest ih =>
    obtain ⟨ref, length⟩ := part
    have unfolded : copyAll column (linear done.length ((ref, length) :: rest))
        (done ++ List.replicate room filler) =
        copyAll column (linear (done.length + length) rest)
          (overwrite (done ++ List.replicate room filler) done.length
            ((column ref).take (min length room))) := by
      unfold copyAll
      rw [linear, foldl_cons]
      congr 2
      unfold copyFragment Fragment.copyLength
      rw [drop_zero, length_append, length_replicate, Nat.add_sub_cancel_left]
    rw [unfolded, flatMap_cons]
    by_cases fits : length ≤ room
    · -- The column goes in whole, and the rest of the layout follows it.
      have split : List.replicate room filler =
          List.replicate length filler ++ List.replicate (room - length) filler := by
        rw [replicate_append_replicate]
        congr 1
        omega
      have inside : done.length + ((column ref).take length).length ≤
          (done ++ List.replicate length filler).length := by
        rw [length_take, length_append, length_replicate]
        omega
      have written : overwrite (done ++ List.replicate room filler) done.length
          ((column ref).take length) =
          (done ++ fit filler length (column ref)) ++ List.replicate (room - length) filler := by
        rw [split, ← append_assoc, overwrite_append _ inside, overwrite_fillers]
      have longer : done.length + length = (done ++ fit filler length (column ref)).length := by
        rw [length_append, fit_length]
      rw [Nat.min_eq_left fits, written, longer, ih, append_assoc,
        fit_append_of_le (by rw [fit_length]; exact fits), fit_length]
    · -- The column is cut by the end of the buffer, and nothing after it fits.
      have full : (done ++ fit filler room (column ref)).length ≤ done.length + length := by
        rw [length_append, fit_length]
        omega
      rw [Nat.min_eq_right (by omega), overwrite_fillers, copyAll_outside column rest full,
        fit_append_of_ge (by rw [fit_length]; omega), take_fit filler _ (by omega)]

theorem copyAll_linear_fillers (filler : α) (column : κ → List α) (parts : List (κ × Nat))
    (start room : Nat) :
    copyAll column (linear start parts) (List.replicate room filler) =
      fit filler room (List.replicate start filler ++
        parts.flatMap fun part => fit filler part.2 (column part.1)) := by
  by_cases fits : start ≤ room
  · have split : List.replicate room filler =
        List.replicate start filler ++ List.replicate (room - start) filler := by
      rw [replicate_append_replicate]
      congr 1
      omega
    have copied := copyAll_linear filler column parts (List.replicate start filler) (room - start)
    rw [length_replicate] at copied
    rw [split, copied, fit_append_of_le (by rw [length_replicate]; exact fits), length_replicate]
  · rw [copyAll_outside column parts (by rw [length_replicate]; omega),
      fit_append_of_ge (by rw [length_replicate]; omega), take_replicate]
    congr 1
    omega

end Dressage.Lib.Fragments
