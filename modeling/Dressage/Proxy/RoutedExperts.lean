/-
Routed experts, from the engine's payloads to the rows of a step.

An engine answer carries one row of expert ids for every position it processed
but the last. The rows a recorded step needs are cut from the payloads of its
requests; a record puts the rows of its steps one after another.

A decoded payload is its int32 cells: base64 and the order of bytes are left
out. Counts are natural numbers, since the source's negative bounds select no
rows, and a storage type is one of the three the source accepts.
-/

import Dressage.Lib.Fragments
import Dressage.Proxy.Segments

namespace Dressage.Proxy

open Lib Transport Generation

variable {Message Tool : Type}

inductive ExpertDtype
  | uint8
  | uint16
  | int32
deriving DecidableEq, Repr

def ExpertDtype.name : ExpertDtype → String
  | .uint8 => "uint8"
  | .uint16 => "uint16"
  | .int32 => "int32"

def ExpertDtype.holds (dtype : ExpertDtype) (id : Int) : Bool :=
  match dtype with
  | .uint8 => decide (0 ≤ id ∧ id ≤ 255)
  | .uint16 => decide (0 ≤ id ∧ id ≤ 65535)
  | .int32 => true

structure RawExpertChunk where
  data : List Int
  prefixTokenCount : Nat
  outputTokenCount : Nat
  isFirstChunk : Bool
deriving DecidableEq

structure ExpertChunk where
  data : List Int
  rowCount : Nat
  dtype : ExpertDtype
deriving DecidableEq

/-- What the generation loop keeps of the payloads of the responses it stitches in. A preempted
response without output is asked for again, so its payload is dropped. -/
def routedExpertsChunks (inputCount : Nat) :
    Nat → List GenerationChunk → List (Option (List Int)) → List RawExpertChunk
  | _, [], _ => []
  | generated, chunk :: rest, payloads =>
    let kept :=
      match payloads.head?.join with
      | none => []
      | some data =>
        if chunk.outputIds ≠ [] ∨ chunk.preempted = false then
          [{ data := data
             prefixTokenCount := inputCount + generated
             outputTokenCount := chunk.outputIds.length
             isFirstChunk := decide (inputCount + generated = inputCount) }]
        else []
    kept ++ routedExpertsChunks inputCount (generated + chunk.outputIds.length) rest payloads.tail

namespace RawExpertChunk

def rawRowCount (chunk : RawExpertChunk) : Nat :=
  chunk.prefixTokenCount + chunk.outputTokenCount - 1

/-- The first row this chunk answers for; a later chunk repeats the rows before it. -/
def validStart (chunk : RawExpertChunk) : Nat :=
  if chunk.isFirstChunk then 0 else chunk.prefixTokenCount - 1

def overlapStart (chunk : RawExpertChunk) (targetStart : Nat) : Nat :=
  max chunk.validStart targetStart

def overlapEnd (chunk : RawExpertChunk) (targetEnd : Nat) : Nat :=
  min chunk.rawRowCount targetEnd

end RawExpertChunk

def selectRows (dtype : ExpertDtype) (chunk : RawExpertChunk) (rowWidth : Option Nat)
    (overlapStart overlapEnd : Nat) : Except String (ExpertChunk × Nat) :=
  let byteCount := 4 * chunk.data.length
  let currentRowWidth := byteCount / chunk.rawRowCount
  let cells := currentRowWidth / 4
  let selected := (chunk.data.drop (overlapStart * cells)).take ((overlapEnd - overlapStart) * cells)
  if chunk.rawRowCount = 0 ∨ byteCount % chunk.rawRowCount ≠ 0 then
    .error "routed-expert payload size does not match its expected row width"
  else if currentRowWidth = 0 ∨ currentRowWidth % 4 ≠ 0 then
    .error "routed-expert row width is not int32-aligned"
  else if rowWidth.getD currentRowWidth ≠ currentRowWidth then
    .error "routed-expert chunks have inconsistent row widths"
  else if selected.all dtype.holds = false then
    .error s!"routed-expert id does not fit in {dtype.name}"
  else
    .ok
      ({ data := selected
         rowCount := overlapEnd - overlapStart
         dtype := dtype },
        currentRowWidth)

def canonicalizeFrom (dtype : ExpertDtype) (targetStart targetEnd : Nat) :
    Option Nat → List RawExpertChunk → Except String (List ExpertChunk)
  | _, [] => .ok []
  | rowWidth, chunk :: rest =>
    if chunk.overlapEnd targetEnd ≤ chunk.overlapStart targetStart then
      canonicalizeFrom dtype targetStart targetEnd rowWidth rest
    else
      match selectRows dtype chunk rowWidth (chunk.overlapStart targetStart)
        (chunk.overlapEnd targetEnd) with
      | .error message => .error message
      | .ok (selected, width) =>
        match canonicalizeFrom dtype targetStart targetEnd (some width) rest with
        | .error message => .error message
        | .ok later => .ok (selected :: later)

def emittedRows (chunks : List ExpertChunk) : Nat := (chunks.map ExpertChunk.rowCount).sum

def canonicalizeRoutedExperts (rawChunks : List RawExpertChunk) (targetStart targetCount : Nat)
    (dtype : ExpertDtype) : Except String (List ExpertChunk) :=
  if rawChunks = [] ∨ targetCount = 0 then .ok []
  else
    match canonicalizeFrom dtype targetStart (targetStart + targetCount) none rawChunks with
    | .error message => .error message
    | .ok result =>
      if emittedRows result ≠ targetCount then
        .error ("routed-expert chunks do not cover the requested target range: " ++
          s!"expected={targetCount}, actual={emittedRows result}")
      else .ok result

def startsSegment (step : StepRecord Message Tool) : Bool :=
  decide (step.routeType = .create) || decide (step.routeType = .branch) ||
    step.lineageSegmentBoundaryBefore

def routedExpertsTarget (mode : TokenBuildMode) (session : Session Message Tool)
    (step : StepRecord Message Tool) : Nat × Nat :=
  match mode with
  | .tito =>
    let previousPrefixCount :=
      if startsSegment step then 0
      else (lineageTitoPrefixTokenIds session step.lineageId).length
    if previousPrefixCount = 0 then (0, step.concatTokenIds.length - 1)
    else (previousPrefixCount - 1, step.concatTokenIds.length)
  | .snapshot => (0, step.allTokenIds.length - 1)

def stepRoutedExpertsRowCount (mode : TokenBuildMode) (step : StepRecord Message Tool) : Nat :=
  match mode with
  | .snapshot => step.allTokenIds.length - 1
  | .tito =>
    if startsSegment step then step.concatTokenIds.length - 1 else step.concatTokenIds.length

end Dressage.Proxy
