/-
Token-aligned fields and their TransferQueue layouts.

A step field is either resident in the proxy or stored remotely under a
reference. A segment field is the concatenation of step fields: a plain list
when every step is resident, a layout of reference fragments when every step
is remote. The two never mix.

Log-probabilities are only copied, cut and padded with 0.0 here, so exact
rationals stand for the floats.
-/

import Mathlib.Algebra.GroupWithZero.Nat
import Mathlib.Data.Rat.Defs
import Dressage.Lib.OrderedDict

namespace Dressage.Transport

open Lib

abbrev Logprob := ℚ

inductive StepField
  | promptTokenLogprobs
  | responseLogprobs
  | allLogprobs
  | concatResponseLogprobs
deriving DecidableEq, Repr

structure TQFieldRef where
  storeId : String
  trajectoryId : String
  incarnationId : String
  stepIndex : Nat
  field : StepField
deriving DecidableEq, Repr

abbrev TransferQueue := OrderedDict TQFieldRef (List Logprob)

inductive FieldValue
  | resident (values : List Logprob)
  | remote (ref : TQFieldRef)
deriving DecidableEq

def FieldValue.ref? : FieldValue → Option TQFieldRef
  | .resident _ => none
  | .remote ref => some ref

def FieldValue.resident? : FieldValue → Option (List Logprob)
  | .resident values => some values
  | .remote _ => none

structure TQFieldFragment where
  ref : TQFieldRef
  sourceStart : Nat
  targetStart : Nat
  length : Nat
deriving DecidableEq, Repr

structure TQFieldLayout where
  logicalField : String
  codec : String
  fragments : List TQFieldFragment
  tokenCount : Nat
  shape : Option (List Nat)
deriving DecidableEq, Repr

inductive SegmentField
  | resident (values : List Logprob)
  | layout (plan : TQFieldLayout)
deriving DecidableEq

def tqLogprobsCodec : String := "float32"

def linearFragments : Nat → List (TQFieldRef × Nat) → List TQFieldFragment
  | _, [] => []
  | offset, (ref, length) :: rest =>
    { ref := ref
      sourceStart := 0
      targetStart := offset
      length := length } :: linearFragments (offset + length) rest

def buildLinearLayout (refs : List TQFieldRef) (lengths : List Nat) (logicalField codec : String)
    (tokenCount targetStart : Nat) (shape : Option (List Nat)) : Except String TQFieldLayout :=
  if refs.length = lengths.length then
    .ok
      { logicalField := logicalField
        codec := codec
        fragments := linearFragments targetStart (refs.zip lengths)
        tokenCount := tokenCount
        shape := shape }
  else .error "zip() arguments have different lengths"

/-- `normalize_logprobs_to_length`: cut or pad with 0.0, and say whether that was needed. -/
def normalizeLogprobsToLength (values : List Logprob) (tokenCount : Nat) : List Logprob × Bool :=
  (values.take tokenCount ++ List.replicate (tokenCount - values.length) 0,
    values.length != tokenCount)

def buildSnapshotLogprobs (value : FieldValue) (promptLength responseLength tokenCount : Nat)
    (remoteInvalid : Bool) : Except String (SegmentField × Bool) :=
  if promptLength + responseLength ≠ tokenCount then
    .error "snapshot logprobs are not aligned with trajectory tokens"
  else
    match value with
    | .remote ref => do
      let layout ← buildLinearLayout [ref] [responseLength] "full_logprobs" tqLogprobsCodec
        tokenCount promptLength (some [tokenCount])
      .ok (.layout layout, remoteInvalid)
    | .resident values =>
      let normalized := normalizeLogprobsToLength values responseLength
      .ok (.resident (List.replicate promptLength 0 ++ normalized.1), normalized.2)

def buildConcatenatedLogprobs (values : List FieldValue) (lengths : List Nat) (tokenCount : Nat) :
    Except String SegmentField :=
  if lengths.sum ≠ tokenCount then
    .error "TITO logprobs are not aligned with trajectory tokens"
  else
    let refs := values.filterMap FieldValue.ref?
    if refs = [] then
      let result := (values.filterMap FieldValue.resident?).flatten
      if result.length ≠ tokenCount then
        .error "TITO logprobs are not aligned with trajectory tokens"
      else .ok (.resident result)
    else if refs.length ≠ values.length then
      .error "TITO logprobs cannot mix local values and TransferQueue refs"
    else do
      let layout ← buildLinearLayout refs lengths "full_logprobs" tqLogprobsCodec
        tokenCount 0 (some [tokenCount])
      .ok (.layout layout)

def FieldValue.read (queue : TransferQueue) : FieldValue → Option (List Logprob)
  | .resident values => some values
  | .remote ref => queue.get? ref

def readFragments (queue : TransferQueue) (fragments : List TQFieldFragment) (position : Nat) :
    Option Logprob :=
  match fragments.find? (fun fragment =>
    fragment.targetStart ≤ position ∧ position < fragment.targetStart + fragment.length) with
  | none => none
  | some fragment =>
    (queue.get? fragment.ref).bind fun column =>
      column[fragment.sourceStart + (position - fragment.targetStart)]?

def SegmentField.at? (queue : TransferQueue) : SegmentField → Nat → Option Logprob
  | .resident values, position => values[position]?
  | .layout plan, position => readFragments queue plan.fragments position

theorem normalizeLogprobsToLength_length (values : List Logprob) (tokenCount : Nat) :
    (normalizeLogprobsToLength values tokenCount).1.length = tokenCount := by
  simp only [normalizeLogprobsToLength, List.length_append, List.length_take, List.length_replicate]
  omega

end Dressage.Transport
