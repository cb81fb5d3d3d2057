/-
What hydration makes of a linear layout.

Reading a layout fragment by fragment into zeros is the library's copy, as soon
as every fragment's column can be read; cut at the length of the sample it is the
columns one after another, cut there.
-/

import Dressage.Training.TqHydration
import Dressage.Proxy.RecordRows

namespace Dressage.Training

open Lib Transport Proxy Rollout List

variable {values : ColumnRef → Option ColumnValue}

variable {tokenCount : Nat}

theorem copyLogprobs_eq {fragment : Fragments.Fragment ColumnRef} {output : List Logprob}
    {entries : List LogprobEntry} (read : values fragment.ref = some (.logprobs entries))
    (size : output.length = tokenCount) :
    copyLogprobs values tokenCount fragment output =
      .ok (Fragments.copyFragment (entries.map LogprobEntry.toFloat) fragment output) := by
  unfold copyLogprobs Fragments.copyFragment
  dsimp only
  rw [size]
  by_cases nothing : fragment.copyLength tokenCount = 0
  · rw [if_pos nothing, nothing, take_zero, Fragments.overwrite_nil]
  · have column : logprobColumn values fragment.ref = .ok entries := by
      unfold logprobColumn
      rw [read]
    rw [if_neg nothing, column]
    change Except.ok _ = _
    rw [map_take, map_drop]

theorem copyAllLogprobs_eq {column : ColumnRef → List LogprobEntry}
    {fragments : List (Fragments.Fragment ColumnRef)} {output : List Logprob}
    (reads : ∀ fragment ∈ fragments, values fragment.ref = some (.logprobs (column fragment.ref)))
    (size : output.length = tokenCount) :
    copyAllLogprobs values tokenCount fragments output =
      .ok (Fragments.copyAll (fun ref => (column ref).map LogprobEntry.toFloat) fragments
        output) := by
  induction fragments generalizing output with
  | nil => rfl
  | cons fragment rest ih =>
    rw [copyAllLogprobs, copyLogprobs_eq (reads fragment mem_cons_self) size]
    exact ih (fun other member => reads other (mem_cons_of_mem fragment member))
      (by rw [Fragments.copyFragment_length]; exact size)

theorem ref_mem_linear {κ : Type} {start : Nat} {parts : List (κ × Nat)}
    {fragment : Fragments.Fragment κ} (member : fragment ∈ Fragments.linear start parts) :
    ∃ part ∈ parts, fragment.ref = part.1 ∧ fragment.length = part.2 ∧
      fragment.sourceStart = 0 := by
  induction parts generalizing start with
  | nil => cases member
  | cons part rest ih =>
    rw [Fragments.linear] at member
    rcases mem_cons.mp member with rfl | inRest
    · exact ⟨part, mem_cons_self, rfl, rfl, rfl⟩
    · obtain ⟨found, inside, same⟩ := ih inRest
      exact ⟨found, mem_cons_of_mem part inside, same⟩

def laidLogprobs (column : ColumnRef → List LogprobEntry) (start : Nat)
    (parts : List (ColumnRef × Nat)) : List Logprob :=
  List.replicate start 0 ++ parts.flatMap fun part => normalizeEntries (column part.1) part.2

theorem materializeLogprobs_eq {column : ColumnRef → List LogprobEntry} {start count : Nat}
    {refs : List ColumnRef} {lengths : List Nat}
    (reads : ∀ part ∈ refs.zip lengths, values part.1 = some (.logprobs (column part.1)))
    (shorter : tokenCount ≤ count) :
    materializeLogprobs (logprobsLayout refs lengths start count) values tokenCount =
      .ok (Fragments.fit 0 tokenCount (laidLogprobs column start (refs.zip lengths))) := by
  have readsAll : ∀ fragment ∈ Fragments.linear start (refs.zip lengths),
      values fragment.ref = some (.logprobs (column fragment.ref)) := by
    intro fragment member
    obtain ⟨part, inside, same, _⟩ := ref_mem_linear member
    rw [same]
    exact reads part inside
  unfold materializeLogprobs logprobsLayout
  dsimp only
  rw [if_neg (not_not_intro rfl), if_neg (Nat.not_lt.mpr shorter),
    copyAllLogprobs_eq readsAll length_replicate, Fragments.copyAll_linear_fillers]
  rfl

theorem copyExperts_eq {fragment : Fragments.Fragment ColumnRef} {output : List (List Int)}
    {chunks : List ExpertChunk} {rows : List (List Int)} {width targetRows : Nat}
    (read : values fragment.ref = some (.experts chunks))
    (decoded : decodeRoutedExpertsChunks chunks width = .ok rows)
    (long : fragment.sourceStart + fragment.length ≤ rows.length)
    (size : output.length = targetRows) :
    copyExperts values width targetRows fragment output =
      .ok (Fragments.copyFragment rows fragment output) := by
  have column : expertsColumn values fragment.ref = .ok chunks := by
    unfold expertsColumn
    rw [read]
  unfold copyExperts Fragments.copyFragment
  rw [column]
  change (do
    let source ← decodeRoutedExpertsChunks chunks width
    if source.length < fragment.sourceStart + fragment.length then _ else _) = _
  rw [decoded]
  change (if rows.length < fragment.sourceStart + fragment.length then _ else _) = _
  rw [if_neg (Nat.not_lt.mpr long), size]

theorem copyAllExperts_eq {chunks : ColumnRef → List ExpertChunk}
    {rows : ColumnRef → List (List Int)} {width targetRows : Nat}
    {fragments : List (Fragments.Fragment ColumnRef)} {output : List (List Int)}
    (reads : ∀ fragment ∈ fragments, values fragment.ref = some (.experts (chunks fragment.ref)))
    (decoded : ∀ fragment ∈ fragments,
      decodeRoutedExpertsChunks (chunks fragment.ref) width = .ok (rows fragment.ref))
    (long : ∀ fragment ∈ fragments,
      fragment.sourceStart + fragment.length ≤ (rows fragment.ref).length)
    (size : output.length = targetRows) :
    copyAllExperts values width targetRows fragments output =
      .ok (Fragments.copyAll rows fragments output) := by
  induction fragments generalizing output with
  | nil => rfl
  | cons fragment rest ih =>
    rw [copyAllExperts, copyExperts_eq (reads fragment mem_cons_self)
      (decoded fragment mem_cons_self) (long fragment mem_cons_self) size]
    exact ih (fun other member => reads other (mem_cons_of_mem fragment member))
      (fun other member => decoded other (mem_cons_of_mem fragment member))
      (fun other member => long other (mem_cons_of_mem fragment member))
      (by rw [Fragments.copyFragment_length]; exact size)

theorem materializeRoutedExperts_eq {chunks : ColumnRef → List ExpertChunk}
    {rows : ColumnRef → List (List Int)} {numLayers topk count : Nat} {refs : List ColumnRef}
    {lengths : List Nat}
    (reads : ∀ part ∈ refs.zip lengths, values part.1 = some (.experts (chunks part.1)))
    (decoded : ∀ part ∈ refs.zip lengths,
      decodeRoutedExpertsChunks (chunks part.1) (numLayers * topk) = .ok (rows part.1))
    (exactly : ∀ part ∈ refs.zip lengths, (rows part.1).length = part.2)
    {tokenCount : Nat} (shorter : tokenCount ≤ count) :
    materializeRoutedExperts (expertsLayout refs lengths count) values tokenCount numLayers topk =
      .ok (Fragments.fit (zeroRow (numLayers * topk)) (tokenCount - 1)
        ((refs.zip lengths).flatMap fun part => rows part.1)) := by
  have fitted : ((refs.zip lengths).flatMap fun part =>
      Fragments.fit (zeroRow (numLayers * topk)) part.2 (rows part.1)) =
        (refs.zip lengths).flatMap fun part => rows part.1 :=
    flatMap_congr (fun part member => Fragments.fit_eq_of_length (exactly part member))
  have copied : copyAllExperts values (numLayers * topk) (tokenCount - 1)
      (Fragments.linear 0 (refs.zip lengths))
      (List.replicate (tokenCount - 1) (zeroRow (numLayers * topk))) =
        .ok (Fragments.copyAll rows (Fragments.linear 0 (refs.zip lengths))
          (List.replicate (tokenCount - 1) (zeroRow (numLayers * topk)))) := by
    apply copyAllExperts_eq
    · intro fragment member
      obtain ⟨part, inside, same, _⟩ := ref_mem_linear member
      rw [same]
      exact reads part inside
    · intro fragment member
      obtain ⟨part, inside, same, _⟩ := ref_mem_linear member
      rw [same]
      exact decoded part inside
    · intro fragment member
      obtain ⟨part, inside, same, length, start⟩ := ref_mem_linear member
      rw [same, length, start, Nat.zero_add]
      exact Nat.le_of_eq (exactly part inside).symm
    · exact length_replicate
  unfold materializeRoutedExperts expertsLayout
  dsimp only
  rw [if_neg (not_not_intro rfl), if_neg (Nat.not_lt.mpr shorter), copied,
    Fragments.copyAll_linear_fillers, replicate_zero, nil_append, fitted]

end Dressage.Training
