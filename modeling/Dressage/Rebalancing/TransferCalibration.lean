/-
The calibration of transfer links.

A calibrator measures every payload bucket of every task of a plan, and none of its failures
is silent. What a call of the benchmark gives is open; its cancellation, the measured figures,
the clock, fingerprints, skipped links and the texts of reports are left out. The byte estimate
of a model's cache and the character tables of the language are parameters.
-/

import Mathlib.Data.List.Dedup
import Dressage.Rebalancing.Scheduler

namespace Dressage.Rebalancing

open Lib List OrderedDict

structure CalibrationTask where
  sourceNode : String
  targetNode : String
  linkType : String
  payloadBuckets : List Nat

def CalibrationTask.link (task : CalibrationTask) : String × String × String :=
  (task.sourceNode, task.targetNode, task.linkType)

structure CalibrationPlan where
  tasks : List CalibrationTask

/-- `str.lower` and `str.isalnum` -/
structure CharacterTables where
  lower : String → String
  isalnum : Char → Bool

def CharacterTables.protocolName (tables : CharacterTables) (protocol : String) : String :=
  let folded := (tables.lower protocol).toList.map (fun character =>
    if tables.isalnum character then character else '_')
  let stripped := ((folded.dropWhile (· == '_')).reverse.dropWhile (· == '_')).reverse
  if stripped = [] then "remote" else String.ofList stripped

namespace CalibrationPlan

variable (tables : CharacterTables)

def nodes (deployments : List EngineDeploymentInfo) : List String :=
  (deployments.map (fun item => item.nodeId)).dedup.mergeSort (fun left right => left ≤ right)

def protocolByNode (deployments : List EngineDeploymentInfo) : OrderedDict String String :=
  deployments.foldl (fun byNode item => byNode.set item.nodeId
    (if item.mooncakeProtocol = "" then "remote" else item.mooncakeProtocol)) OrderedDict.empty

def linkType (protocols : OrderedDict String String) (gpudirect : Bool) (source target : String) :
    String :=
  if gpudirect then "mooncake_gpudirect"
  else if source = target then "mooncake_local"
  else "mooncake_" ++ tables.protocolName ((protocols.get? target).getD "")

def pairTasks (protocols : OrderedDict String String) (hostStaging gpudirect : Bool)
    (buckets : List Nat) (source target : String) : List CalibrationTask :=
  let task (link : String) : CalibrationTask :=
    { sourceNode := source
      targetNode := target
      linkType := link
      payloadBuckets := buckets }
  if hostStaging then
    [task (linkType tables protocols gpudirect source target), task "d2h", task "h2d"]
  else [task (linkType tables protocols gpudirect source target)]

def payloadBuckets (estimateBytes : Nat → Int) : List Nat :=
  (([8 * 1024, 16 * 1024, 32 * 1024, 64 * 1024].map (fun tokens =>
    (max 1 (estimateBytes tokens)).toNat)).dedup).mergeSort (fun left right => left ≤ right)

def build (deployments : List EngineDeploymentInfo) (sharedL3 hostStaging gpudirect : Bool)
    (estimateBytes : Nat → Int) : CalibrationPlan :=
  if deployments.length < 2 ∨ sharedL3 = false then { tasks := [] }
  else
    let pair := pairTasks tables (protocolByNode deployments) hostStaging gpudirect
      (payloadBuckets estimateBytes)
    { tasks := (nodes deployments).flatMap (fun source =>
      (nodes deployments).flatMap (pair source)) }

variable {tables}

section Pairs

variable {protocols : OrderedDict String String} {hostStaging gpudirect : Bool}
  {buckets : List Nat} {source target : String}

end Pairs

end CalibrationPlan

structure TransferCalibrator where
  results : List (String × String × String × Nat)
  errors : OrderedDict (String × String × String) String

namespace TransferCalibrator

structure Moves (link : String × String × String) (before after : TransferCalibrator) : Prop where
  results : before.results ⊆ after.results
  errors : ∀ other, other ≠ link → after.errors.get? other = before.errors.get? other

variable {task : CalibrationTask} {calibrator : TransferCalibrator} {benchmark : Benchmark}

end TransferCalibrator

end Dressage.Rebalancing
