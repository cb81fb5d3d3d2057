/-
The checks of one Harbor attempt.

`validate_attempt` checks the reward and the raw segments of one physical attempt.
Values are those of decoded JSON as the interpreter holds them: integers and floats are
of different types, and a truth value is neither. Every check adds a failure to a list;
the details of a failure are left out.
-/

import Mathlib.Algebra.Group.Int.Defs
import Mathlib.Algebra.Group.Nat.Defs
import Mathlib.Data.Rat.Defs
import Mathlib.Data.Finset.Card
import Dressage.Lib.OrderedDict
import Dressage.Lib.Text

namespace Dressage.Harbor

open Lib

inductive PyFloat where
  | finite (value : Rat)
  | infinite
  | nan
  deriving DecidableEq

def PyFloat.isFinite : PyFloat → Bool
  | .finite _ => true
  | .infinite | .nan => false

inductive Value where
  | null
  | bool (value : Bool)
  | int (value : Int)
  | float (value : PyFloat)
  | text (value : String)
  | list (items : List Value)
  | dict (entries : List (String × Value))

abbrev Segment := List (String × Value)

namespace Value

def truthy : Value → Bool
  | .null => false
  | .bool value => value
  | .int value => decide (value ≠ 0)
  | .float (.finite value) => decide (value ≠ 0)
  | .float _ => true
  | .text value => decide (value ≠ "")
  | .list items => !items.isEmpty
  | .dict entries => !entries.isEmpty

def equals (number : Int) : Value → Bool
  | .bool value => decide ((if value then 1 else 0) = number)
  | .int value => decide (value = number)
  | .float (.finite value) => decide (value = number)
  | _ => false

def isNumber : Value → Bool
  | .int _ | .float _ => true
  | _ => false

def isInt : Value → Bool
  | .int _ => true
  | _ => false

def overflows (value : Int) : Bool := decide (2 ^ 1024 - 2 ^ 970 ≤ value.natAbs)

/-- A number with `math.isfinite(float(value))`; `none` where that raises. -/
def isFinite : Value → Option Bool
  | .int value => if overflows value then none else some true
  | .float value => some value.isFinite
  | _ => some false

def nonEmptyText : Value → Option String
  | .text value => if value = "" then none else some value
  | _ => none

end Value

def anyNonFinite : List Value → Option Bool
  | [] => some false
  | value :: rest =>
    value.isFinite.bind (fun finite => if finite then anyNonFinite rest else some true)

inductive FailureStage where
  | start
  | agent
  | verification
  | finalize
  | read
  | validate
  | write
  | cleanup
  | lifecycle
  deriving DecidableEq, Repr

structure AttemptFailure where
  code : String
  stage : FailureStage
  message : String
  fatal : Bool
  deriving DecidableEq, Repr

def failure (code message : String) : AttemptFailure :=
  { code := code
    stage := .validate
    message := message
    fatal := true }

def failWhen (condition : Bool) (code message : String) : List AttemptFailure :=
  if condition then [failure code message] else []

@[simp] theorem failWhen_eq_nil (condition : Bool) (code message : String) :
    failWhen condition code message = [] ↔ condition = false := by
  cases condition with
  | false => simp [failWhen]
  | true => simp [failWhen]

namespace Segment

def get (segment : Segment) (key : String) : Value := (OrderedDict.lookup key segment).getD .null

def index (segment : Segment) : Option Int :=
  match segment.get "segment_index" with
  | .int value => if value < 0 then none else some value
  | _ => none

def count (segment : Segment) : Option Int :=
  match segment.get "segment_count" with
  | .int value => if value ≤ 0 then none else some value
  | _ => none

def trajectoryId (segment : Segment) : Option String :=
  let value := segment.get "trajectory_id"
  (if value.truthy then value else segment.get "session_id").nonEmptyText

def instanceId (segment : Segment) : Option String := (segment.get "instance_id").nonEmptyText

def extraInfo (segment : Segment) : Option Segment :=
  match segment.get "extra_info" with
  | .dict entries => some entries
  | _ => none

def view (segment : Segment) : Option String :=
  segment.extraInfo.bind (fun info => (info.get "segment_view").nonEmptyText)

def finalizationId (segment : Segment) : Option String :=
  segment.extraInfo.bind (fun info =>
    match info.get "finalization_complete" with
    | .bool true => (info.get "finalization_id").nonEmptyText
    | _ => none)

/-- `identity_field_missing`; the view of a segment without `extra_info` is not looked at. -/
def identityFieldMissing (segment : Segment) : Bool :=
  segment.trajectoryId.isNone || segment.instanceId.isNone ||
    (segment.extraInfo.isSome && segment.view.isNone)

end Segment

def fieldSet (field : Segment → Option String) (segments : List Segment) : Finset String :=
  (segments.filterMap field).toFinset

def incomplete (segments : List Segment) : Bool :=
  let indices := segments.filterMap Segment.index
  match segments.filterMap Segment.count with
  | [] => false
  | count :: counts =>
    counts.any (· ≠ count) || count ≠ segments.length || indices.length ≠ segments.length ||
      !(indices.all (· < count) &&
        (List.range count.toNat).all (fun index => (index : Int) ∈ indices)) ||
      indices.length ≠ indices.dedup.length

def trajectoryFinalizationFailures (segments : List Segment)
    (expectedTrajectoryId expectedInstanceId : Option String) : List AttemptFailure :=
  let trajectoryIds := fieldSet Segment.trajectoryId segments
  let instanceIds := fieldSet Segment.instanceId segments
  segments.zipIdx.flatMap (fun (segment, ordinal) =>
    failWhen segment.index.isNone "SEGMENT_INDEX_INVALID"
      s!"segment {ordinal} has an invalid segment_index" ++
    failWhen segment.count.isNone "SEGMENT_COUNT_INVALID"
      s!"segment {ordinal} has an invalid segment_count") ++
  failWhen (incomplete segments) "TRAJECTORY_INCOMPLETE"
    "trajectory segments are not the complete 0..N-1 set" ++
  failWhen
    (trajectoryIds.card ≠ 1 || instanceIds.card ≠ 1 ||
      (fieldSet Segment.view segments).card ≠ 1 || segments.any Segment.identityFieldMissing ||
      expectedTrajectoryId.any (trajectoryIds ≠ {·}) ||
      expectedInstanceId.any (instanceIds ≠ {·}))
    "TRAJECTORY_IDENTITY_INVALID"
    "trajectory segments do not share one trajectory, instance, and view" ++
  failWhen
    (segments.any (fun segment => segment.finalizationId.isNone) ||
      (fieldSet Segment.finalizationId segments).card ≠ 1)
    "FINALIZATION_MARKER_MISSING"
    "trajectory does not carry one complete finalization marker"

namespace Segment

def array (segment : Segment) (field : String) : Option (List Value) :=
  match segment.get field with
  | .list items => some items
  | _ => none

def items (segment : Segment) (field : String) : List Value := (segment.array field).getD []

end Segment

def validVersion : Option Value → Option String
  | some (.text version) =>
    if Text.strip version = "" ∨ Text.lower (Text.strip version) = "unknown" then none
    else some version
  | _ => none

def trainablePositions (lossMask : List Value) (tokenCount : Nat) : List Nat :=
  ((lossMask.take tokenCount).zipIdx.filter (fun (mask, _) => mask.equals 1)).map Prod.snd

structure Report where
  failures : List AttemptFailure
  trainableCount : Nat
  versions : List String

def Report.append (first second : Report) : Report :=
  { failures := first.failures ++ second.failures
    trainableCount := first.trainableCount + second.trainableCount
    versions := first.versions ++ second.versions }

def validateSegment (needsVersions : Bool) (segmentIndex : Nat) (segment : Segment) :
    Option Report :=
  let tokens := segment.items "tokens"
  let lossMask := segment.items "full_loss_mask"
  let versionsRaw := segment.items "full_versions"
  let trainable := trainablePositions lossMask tokens.length
  (anyNonFinite (segment.items "full_logprobs")).map (fun nonFinite =>
    { failures :=
        ["tokens", "full_loss_mask", "full_logprobs"].flatMap (fun field =>
          failWhen (segment.array field).isNone "SEGMENT_FIELD_INVALID"
            s!"segment {segmentIndex} field '{field}' must be a list") ++
        ["full_loss_mask", "full_logprobs"].flatMap (fun field =>
          failWhen ((segment.items field).length ≠ tokens.length) "SEGMENT_LENGTH_MISMATCH"
            s!"segment {segmentIndex}: tokens={tokens.length}, {field}={(segment.items field).length}") ++
        failWhen (tokens.any (fun token => !token.isInt)) "TOKENS_INVALID"
          s!"segment {segmentIndex} tokens must contain only integers" ++
        failWhen nonFinite "LOGPROBS_INVALID"
          s!"segment {segmentIndex} logprobs must be finite numbers" ++
        failWhen (lossMask.any (fun value => !(value.equals 0 || value.equals 1)))
          "LOSS_MASK_INVALID" s!"segment {segmentIndex} loss mask must contain only 0/1" ++
        (match segment.get "full_versions" with
          | .list _ => []
          | .null =>
            failWhen needsVersions "TOKEN_VERSIONS_MISSING"
              s!"segment {segmentIndex} has no full_versions"
          | _ =>
            if needsVersions then
              [failure "TOKEN_VERSIONS_MISSING" s!"segment {segmentIndex} has no full_versions"]
            else
              [failure "TOKEN_VERSIONS_INVALID"
                s!"segment {segmentIndex} full_versions must be a list"]) ++
        failWhen (!versionsRaw.isEmpty && versionsRaw.length ≠ tokens.length)
          "SEGMENT_LENGTH_MISMATCH"
          s!"segment {segmentIndex}: tokens={tokens.length}, full_versions={versionsRaw.length}" ++
        trainable.flatMap (fun index =>
          failWhen (needsVersions && (validVersion versionsRaw[index]?).isNone)
            "TRAINABLE_TOKEN_VERSION_UNKNOWN"
            s!"segment {segmentIndex} trainable token {index} has no version")
      trainableCount := trainable.length
      versions := trainable.filterMap (fun index => validVersion versionsRaw[index]?) })

def validateSegments (needsVersions : Bool) : Nat → List Segment → Option Report
  | _, [] =>
    some
      { failures := []
        trainableCount := 0
        versions := [] }
  | segmentIndex, segment :: rest =>
    (validateSegment needsVersions segmentIndex segment).bind (fun report =>
      (validateSegments needsVersions (segmentIndex + 1) rest).map report.append)

structure ValidationSettings where
  rewardKey : String
  rewardKeyRepr : String
  requireTokenVersions : Bool
  requireTrainableTokens : Bool

structure Validation where
  failures : List AttemptFailure
  trainableCount : Nat
  observedVersions : List String

def rewardFailures (settings : ValidationSettings) (rewards : List (String × Value)) :
    Option (List AttemptFailure) :=
  match OrderedDict.lookup settings.rewardKey rewards with
  | none =>
    some [failure "REWARD_MISSING" ("reward key " ++ settings.rewardKeyRepr ++ " is missing")]
  | some reward =>
    if reward.isNumber then
      reward.isFinite.map (fun finite =>
        failWhen (!finite) "REWARD_NON_FINITE" "reward must be finite")
    else some [failure "REWARD_INVALID" "reward must be an int or float"]

def validateAttempt (settings : ValidationSettings) (rewards : List (String × Value))
    (segments : List Segment)
    (expectedWeightVersion expectedTrajectoryId expectedInstanceId : Option String) :
    Option Validation :=
  (rewardFailures settings rewards).bind (fun ofReward =>
    if segments.isEmpty then
      some
        { failures := ofReward ++ [failure "TRAJECTORY_EMPTY" "trajectory has no segments"]
          trainableCount := 0
          observedVersions := [] }
    else
      let needsVersions := settings.requireTokenVersions || expectedWeightVersion.isSome
      (validateSegments needsVersions 0 segments).map (fun report =>
        let observed := report.versions.eraseDups
        { failures :=
            ofReward ++
              trajectoryFinalizationFailures segments expectedTrajectoryId expectedInstanceId ++
              report.failures ++
              failWhen (settings.requireTrainableTokens && report.trainableCount = 0)
                "NO_TRAINABLE_TOKENS" "trajectory has no trainable tokens" ++
              failWhen (settings.requireTokenVersions && 1 < observed.length)
                "MULTIPLE_WEIGHT_VERSIONS" "trainable tokens span multiple weight versions" ++
              failWhen (expectedWeightVersion.any (observed ≠ [·])) "WEIGHT_VERSION_MISMATCH"
                "observed trainable token versions do not match the expected version"
          trainableCount := report.trainableCount
          observedVersions := observed }))

end Dressage.Harbor
