/-
What cutting the routed experts of a step gives.

The payloads of a step's requests overlap: each repeats the rows of the prefix it
was sent with. The chunks answer for consecutive ranges of rows, so every row of
the target comes from the first payload that has it, once and in order.
-/

import Dressage.Proxy.RoutedExperts

namespace Dressage.Proxy

open Lib Generation List

def cellsOfRow (data : List Int) (cells row : Nat) : List Int :=
  (data.drop (row * cells)).take cells

def RawExpertChunk.rowCells (chunk : RawExpertChunk) : Nat :=
  chunk.data.length / chunk.rawRowCount

def RawExpertChunk.row (chunk : RawExpertChunk) (row : Nat) : List Int :=
  cellsOfRow chunk.data chunk.rowCells row

def ExpertChunk.rows (chunk : ExpertChunk) : List (List Int) :=
  (List.range chunk.rowCount).map (cellsOfRow chunk.data (chunk.data.length / chunk.rowCount))

def firstRow (chunks : List RawExpertChunk) (row : Nat) : Option (List Int) :=
  (chunks.find? (fun chunk => row < chunk.rawRowCount)).map (fun chunk => chunk.row row)

variable {start targetStart targetEnd : Nat} {dtype : ExpertDtype} {raw : List RawExpertChunk}

theorem cellsOfRow_slice (data : List Int) {cells count row : Nat} (inside : row < count) :
    cellsOfRow ((data.drop (start * cells)).take (count * cells)) cells row =
      cellsOfRow data cells (start + row) := by
  unfold cellsOfRow
  rw [drop_take, take_take, drop_drop, Nat.add_mul]
  congr 1
  have room : (row + 1) * cells ≤ count * cells := Nat.mul_le_mul_right cells inside
  rw [Nat.add_mul, Nat.one_mul] at room
  omega

def RawExpertChunk.contribution (chunk : RawExpertChunk) (targetStart targetEnd : Nat) :
    List (List Int) :=
  (List.range' (chunk.overlapStart targetStart)
    (chunk.overlapEnd targetEnd - chunk.overlapStart targetStart)).map chunk.row

theorem RawExpertChunk.wholeRows (chunk : RawExpertChunk) (positive : 0 < chunk.rawRowCount)
    (rows : 4 * chunk.data.length % chunk.rawRowCount = 0)
    (aligned : 4 * chunk.data.length / chunk.rawRowCount % 4 = 0) :
    ∃ cells, chunk.data.length = chunk.rawRowCount * cells ∧ chunk.rowCells = cells ∧
      4 * chunk.data.length / chunk.rawRowCount / 4 = cells := by
  obtain ⟨cells, width⟩ : ∃ cells, 4 * chunk.data.length / chunk.rawRowCount = 4 * cells :=
    ⟨_, (Nat.mul_div_cancel' (Nat.dvd_of_mod_eq_zero aligned)).symm⟩
  have size : chunk.data.length = chunk.rawRowCount * cells := by
    have bytes : chunk.rawRowCount * (4 * chunk.data.length / chunk.rawRowCount) =
      4 * chunk.data.length := Nat.mul_div_cancel' (Nat.dvd_of_mod_eq_zero rows)
    rw [width, Nat.mul_left_comm] at bytes
    omega
  refine ⟨cells, size, ?_, ?_⟩
  · unfold RawExpertChunk.rowCells
    rw [size, Nat.mul_div_cancel_left cells positive]
  · rw [width, Nat.mul_div_cancel_left cells (by omega)]

theorem selectRows_rows {chunk : RawExpertChunk} {rowWidth : Option Nat} {stop width : Nat}
    {selected : ExpertChunk}
    (ok : selectRows dtype chunk rowWidth start stop = .ok (selected, width))
    (nonempty : start < stop) (inside : stop ≤ chunk.rawRowCount) :
    selected.rows = (List.range' start (stop - start)).map chunk.row ∧
      selected.rowCount = stop - start := by
  unfold selectRows at ok
  dsimp only at ok
  split at ok
  · cases ok
  rename_i whole
  split at ok
  · cases ok
  rename_i aligned
  split at ok
  · cases ok
  split at ok
  · cases ok
  cases ok
  obtain ⟨cells, size, rowCells, fourth⟩ := chunk.wholeRows (by omega) (by omega) (by omega)
  rw [fourth]
  refine ⟨?_, rfl⟩
  have selectedSize : ((chunk.data.drop (start * cells)).take ((stop - start) * cells)).length =
      (stop - start) * cells := by
    have room : stop * cells ≤ chunk.rawRowCount * cells := Nat.mul_le_mul_right cells inside
    rw [length_take, length_drop, size, Nat.sub_mul]
    omega
  unfold ExpertChunk.rows
  dsimp only
  rw [selectedSize, Nat.mul_div_cancel_left cells (by omega), range'_eq_map_range, map_map]
  apply map_congr_left
  intro row member
  have bound := mem_range.mp member
  unfold RawExpertChunk.row
  rw [Function.comp_apply, rowCells]
  exact cellsOfRow_slice chunk.data bound

theorem RawExpertChunk.contribution_nil {chunk : RawExpertChunk}
    (apart : chunk.overlapEnd targetEnd ≤ chunk.overlapStart targetStart) :
    chunk.contribution targetStart targetEnd = [] := by
  unfold RawExpertChunk.contribution
  rw [Nat.sub_eq_zero_of_le apart]
  rfl

theorem canonicalizeFrom_rows {rowWidth : Option Nat} {result : List ExpertChunk}
    (ok : canonicalizeFrom dtype targetStart targetEnd rowWidth raw = .ok result) :
    result.flatMap ExpertChunk.rows =
        raw.flatMap (fun chunk => chunk.contribution targetStart targetEnd) ∧
      emittedRows result = (result.flatMap ExpertChunk.rows).length := by
  induction raw generalizing rowWidth result with
  | nil =>
    cases ok
    exact ⟨rfl, rfl⟩
  | cons chunk rest ih =>
    rw [canonicalizeFrom] at ok
    split at ok
    · rename_i apart
      rw [flatMap_cons, RawExpertChunk.contribution_nil apart, nil_append]
      exact ih ok
    · rename_i overlap
      split at ok
      · cases ok
      · rename_i selected width select
        split at ok
        · cases ok
        · rename_i later others
          cases ok
          obtain ⟨rows, count⟩ := selectRows_rows select (by omega) (Nat.min_le_left _ _)
          obtain ⟨laterRows, laterCount⟩ := ih others
          constructor
          · rw [flatMap_cons, flatMap_cons, rows, laterRows]
            rfl
          · unfold emittedRows at laterCount ⊢
            rw [map_cons, sum_cons, flatMap_cons, length_append, laterCount,
              rows, count, length_map, length_range']

/-- The chunks answer for consecutive ranges of rows, the first from `start` on. -/
def Contiguous : Nat → List RawExpertChunk → Prop
  | _, [] => True
  | start, chunk :: rest =>
    chunk.validStart = start ∧ start ≤ chunk.rawRowCount ∧ Contiguous chunk.rawRowCount rest

def coveredEnd : Nat → List RawExpertChunk → Nat
  | start, [] => start
  | _, chunk :: rest => coveredEnd chunk.rawRowCount rest

theorem coveredEnd_le (chain : Contiguous start raw) : start ≤ coveredEnd start raw := by
  induction raw generalizing start with
  | nil => exact Nat.le_refl start
  | cons chunk rest ih => exact Nat.le_trans chain.2.1 (ih chain.2.2)

theorem range'_split {first middle last : Nat} (le : first ≤ middle) (le' : middle ≤ last) :
    List.range' first (last - first) =
      List.range' first (middle - first) ++ List.range' middle (last - middle) := by
  have parts : last - first = (middle - first) + (last - middle) := by omega
  have next : middle = first + 1 * (middle - first) := by omega
  rw [parts, ← range'_append, ← next]

theorem firstRow_cons (chunk : RawExpertChunk) (rest : List RawExpertChunk) (row : Nat) :
    firstRow (chunk :: rest) row =
      if row < chunk.rawRowCount then some (chunk.row row) else firstRow rest row := by
  unfold firstRow
  rw [find?_cons]
  split
  · rename_i reaches
    rw [if_pos (by simpa using reaches)]
    rfl
  · rename_i beyond
    rw [if_neg (by simpa using beyond)]

theorem mem_range'_bounds {row count : Nat} (member : row ∈ List.range' start count) :
    start ≤ row ∧ row < start + count := by
  obtain ⟨offset, below, rfl⟩ := mem_range'.mp member
  omega

theorem contributions_rows (chain : Contiguous start raw) :
    (raw.flatMap (fun chunk => chunk.contribution targetStart targetEnd)).map some =
      (List.range' (max start targetStart)
        (min (coveredEnd start raw) targetEnd - max start targetStart)).map (firstRow raw) := by
  induction raw generalizing start with
  | nil =>
    have empty : min start targetEnd - max start targetStart = 0 := by omega
    rw [coveredEnd, empty]
    rfl
  | cons chunk rest ih =>
    obtain ⟨valid, reaches, later⟩ := chain
    have further := coveredEnd_le later
    have own : (chunk.contribution targetStart targetEnd).map some =
        (List.range' (max start targetStart)
          (min chunk.rawRowCount targetEnd - max start targetStart)).map
            (firstRow (chunk :: rest)) := by
      unfold RawExpertChunk.contribution RawExpertChunk.overlapStart RawExpertChunk.overlapEnd
      rw [valid, map_map]
      apply map_congr_left
      intro row member
      have bounds := mem_range'_bounds member
      rw [firstRow_cons, if_pos (by omega)]
      rfl
    have others : (rest.flatMap
        (fun chunk => chunk.contribution targetStart targetEnd)).map some =
        (List.range' (max chunk.rawRowCount targetStart)
          (min (coveredEnd chunk.rawRowCount rest) targetEnd -
            max chunk.rawRowCount targetStart)).map (firstRow (chunk :: rest)) := by
      rw [ih later]
      apply map_congr_left
      intro row member
      have bounds := mem_range'_bounds member
      rw [firstRow_cons, if_neg (by omega)]
    rw [flatMap_cons, map_append, own, others, ← map_append, coveredEnd]
    congr 1
    -- The two ranges meet at the end of the chunk, unless the target lies on one side of it.
    by_cases before : targetEnd ≤ chunk.rawRowCount
    · have nothing : min (coveredEnd chunk.rawRowCount rest) targetEnd -
          max chunk.rawRowCount targetStart = 0 := by omega
      have same : min chunk.rawRowCount targetEnd =
        min (coveredEnd chunk.rawRowCount rest) targetEnd := by omega
      rw [nothing, same, range'_zero, append_nil]
    · by_cases behind : chunk.rawRowCount ≤ targetStart
      · have nothing : min chunk.rawRowCount targetEnd - max start targetStart = 0 := by omega
        have same : max chunk.rawRowCount targetStart = max start targetStart := by omega
        rw [nothing, same, range'_zero, nil_append]
      · have reach : min chunk.rawRowCount targetEnd = chunk.rawRowCount := by omega
        have meet : max chunk.rawRowCount targetStart = chunk.rawRowCount := by omega
        rw [reach, meet]
        exact (range'_split (by omega) (by omega)).symm

theorem canonicalizeRoutedExperts_rows {targetCount : Nat} {chunks : List ExpertChunk}
    (chain : Contiguous 0 raw) (carried : targetCount ≠ 0 → raw ≠ [])
    (ok : canonicalizeRoutedExperts raw targetStart targetCount dtype = .ok chunks) :
    (chunks.flatMap ExpertChunk.rows).map some =
      (List.range' targetStart targetCount).map (firstRow raw) := by
  unfold canonicalizeRoutedExperts at ok
  split at ok
  · rename_i nothing
    cases ok
    have none_ : targetCount = 0 := by
      rcases nothing with empty | zero
      · by_contra needed
        exact carried needed empty
      · exact zero
    rw [none_]
    rfl
  · rename_i needed
    split at ok
    · cases ok
    · rename_i result looped
      split at ok
      · cases ok
      · rename_i emitted
        cases ok
        obtain ⟨rows, count⟩ := canonicalizeFrom_rows looped
        have covered : (raw.flatMap (fun chunk =>
            chunk.contribution targetStart (targetStart + targetCount))).map some =
            (List.range' (max 0 targetStart)
              (min (coveredEnd 0 raw) (targetStart + targetCount) - max 0 targetStart)).map
                (firstRow raw) :=
          contributions_rows chain
        -- The source's own count of the rows says that the payloads reach the end.
        have lengths := congrArg List.length covered
        rw [length_map, ← rows, ← count, length_map, length_range'] at lengths
        have reached : min (coveredEnd 0 raw) (targetStart + targetCount) - max 0 targetStart =
          targetCount := by omega
        rw [rows, covered, reached, Nat.zero_max]

theorem length_flatMap_rows (chunks : List ExpertChunk) :
    (chunks.flatMap ExpertChunk.rows).length = emittedRows chunks := by
  unfold emittedRows
  rw [length_flatMap]
  congr 1
  apply map_congr_left
  intro chunk _member
  unfold ExpertChunk.rows
  rw [length_map, length_range]

theorem emittedRows_canonicalize {targetCount : Nat} {chunks : List ExpertChunk}
    (ok : canonicalizeRoutedExperts raw targetStart targetCount dtype = .ok chunks) :
    emittedRows chunks ≤ targetCount := by
  unfold canonicalizeRoutedExperts at ok
  split at ok
  · cases ok
    exact Nat.zero_le targetCount
  · split at ok
    · cases ok
    · split at ok
      · cases ok
      · next emitted =>
          cases ok
          omega

theorem routedExpertsTarget_le {Message Tool : Type} (mode : TokenBuildMode)
    (session : Session Message Tool) (step : StepRecord Message Tool) :
    (routedExpertsTarget mode session step).2 ≤ stepRoutedExpertsRowCount mode step := by
  cases mode with
  | snapshot => exact Nat.le_refl _
  | tito =>
    unfold routedExpertsTarget stepRoutedExpertsRowCount
    dsimp only
    by_cases starts : startsSegment step = true
    · rw [if_pos starts, if_pos starts, if_pos rfl]
    · rw [if_neg starts, if_neg starts]
      split
      · exact Nat.sub_le _ _
      · exact Nat.le_refl _

end Dressage.Proxy
