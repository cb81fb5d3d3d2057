/-
Routed-expert rows line up with tokens.

A position of a published record was processed by every request sent after it.
Its row is the one of the first request that went past it among those of the step
that recorded the position after it, so the rows of a record are one for each of
its tokens but the last.
-/

import Dressage.Proxy.ColumnOrigins
import Dressage.Proxy.ExpertCut
import Dressage.Proxy.FinalizedRecords

namespace Dressage.Proxy

open Lib Transport Generation List

variable {Message Tool Call : Type} {config : TrainingConfig}

/-- What one pass leaves behind: a stitched response ends the loop by finishing or with output,
and the loop goes on only after a preempted one. -/
private def StitchesOne (progress : Progress) : Next → Prop
  | .raises _ => True
  | .breaks final => ∃ last, final.chunks = progress.chunks ++ [last] ∧
    (last.preempted = false ∨ final.outputIds ≠ [])
  | .suspends next => ∃ last, next.chunks = progress.chunks ++ [last] ∧ last.preempted = true

variable {request : Request} {partialRollout : Bool} {generated inputCount : Nat}
variable {chunk : GenerationChunk} {payloads : List (Option (List Int))}
variable {step : StepRecord Message Tool} {state : TrainingState Message Tool}
variable {draft : StepDraft Message Tool Call} {before : List (StepRecord Message Tool)}

private theorem takeResponse_stitches
    (room : ∀ window, request.contextWindow = some window → request.inputIds.length < window)
    (progress : Progress) (response : SGLangResponse) (forced : Bool) :
    StitchesOne progress (takeResponse partialRollout request progress response forced) := by
  unfold takeResponse
  split
  · trivial
  · dsimp only
    generalize (forced || isPreempted response) = preempted
    unfold afterChunk
    split
    · trivial
    · split
      · next window overflowed =>
          refine ⟨chunkOf response preempted, rfl, .inr ?_⟩
          unfold overflowedWindow at overflowed
          split at overflowed
          · cases overflowed
          · next limit set =>
              split at overflowed
              · next past =>
                  have before := room limit set
                  intro empty
                  change (absorb request response preempted progress).outputIds = [] at empty
                  rw [empty, length_nil] at past
                  omega
              · cases overflowed
      · split
        · next isPreempted => exact ⟨chunkOf response preempted, rfl, isPreempted⟩
        · next finished =>
            exact ⟨chunkOf response preempted, rfl, .inl (Bool.eq_false_of_not_eq_true finished)⟩

private theorem passLoop_stitches
    (room : ∀ window, request.contextWindow = some window → request.inputIds.length < window)
    (progress : Progress) (event : ChunkEvent) :
    StitchesOne progress (passLoop partialRollout request progress event) := by
  cases event with
  | shutDown => trivial
  | staleEpoch current => trivial
  | answered epoch response aborted =>
    exact takeResponse_stitches room (stampEpoch progress epoch) response aborted
  | raised epoch message aborted shuttingDown =>
    rw [passLoop]
    split
    · trivial
    · split
      · exact takeResponse_stitches room (stampEpoch progress epoch) interruptedResponse true
      · trivial

/-- All responses of a generation but the last were preempted, and the last one finished unless
there is output. -/
structure Interrupted (result : PreemptibleGenerateResult) (front : List GenerationChunk)
    (last : GenerationChunk) : Prop where
  chunks : result.chunks = front ++ [last]
  preempted : ∀ chunk ∈ front, chunk.preempted = true
  ended : last.preempted = false ∨ result.outputIds ≠ []

private theorem interrupted_generateFrom {progress : Progress} {events : List ChunkEvent}
    {result : PreemptibleGenerateResult}
    (room : ∀ window, request.contextWindow = some window → request.inputIds.length < window)
    (preempted : ∀ chunk ∈ progress.chunks, chunk.preempted = true)
    (returned : generateFrom partialRollout request progress events = some (.ok result)) :
    ∃ front last, Interrupted result front last := by
  induction events generalizing progress with
  | nil => cases returned
  | cons event rest ih =>
    have stitched : StitchesOne progress (passLoop partialRollout request progress event) :=
      passLoop_stitches room progress event
    rw [generateFrom] at returned
    cases passed : passLoop partialRollout request progress event with
    | raises error =>
      rw [passed] at returned
      cases returned
    | breaks final =>
      rw [passed] at returned stitched
      cases returned
      obtain ⟨last, chunks, ended⟩ := stitched
      exact ⟨progress.chunks, last,
        { chunks := chunks
          preempted := preempted
          ended := ended }⟩
    | suspends next =>
      rw [passed] at returned stitched
      obtain ⟨last, chunks, lastPreempted⟩ := stitched
      dsimp only at returned
      split at returned
      · cases returned
      · split at returned
        · refine ih (fun chunk member => ?_) returned
          rw [chunks, mem_append, mem_singleton] at member
          rcases member with old | rfl
          · exact preempted chunk old
          · exact lastPreempted
        · -- The budget is used up, so there is output.
          next full =>
            cases returned
            refine ⟨progress.chunks, last,
              { chunks := chunks
                preempted := preempted
                ended := .inr (fun empty => full ?_) }⟩
            change next.outputIds = [] at empty
            unfold wantsMore
            rw [empty, length_nil]
            simp only [Bool.or_eq_true, decide_eq_true_eq]
            omega

theorem interrupted_generated {proxy : ProxyConfig} {inputIds : List Nat}
    {result : PreemptibleGenerateResult} (generated : GeneratedFrom proxy inputIds result)
    (room : ∀ window, proxy.contextWindow = some window → inputIds.length < window) :
    ∃ front last, Interrupted result front last := by
  obtain ⟨request, events, prompt, window, returned⟩ := generated
  refine interrupted_generateFrom (fun limit set => ?_) (fun chunk member => by cases member)
    returned
  rw [prompt]
  exact room limit (window ▸ set)

def Settled (chunk : GenerationChunk) : Prop :=
  chunk.outputIds ≠ [] ∨ chunk.preempted = false

instance (chunk : GenerationChunk) : Decidable (Settled chunk) :=
  inferInstanceAs (Decidable (_ ∨ _))

def Carried : List GenerationChunk → List (Option (List Int)) → Prop
  | [], _ => True
  | chunk :: rest, payloads =>
    (Settled chunk → payloads.head?.join.isSome = true) ∧ Carried rest payloads.tail

instance decidableCarried : ∀ (chunks : List GenerationChunk)
    (payloads : List (Option (List Int))), Decidable (Carried chunks payloads)
  | [], _ => isTrue trivial
  | _ :: rest, payloads =>
    have := decidableCarried rest payloads.tail
    inferInstanceAs (Decidable (_ ∧ _))

def expertChunkOf (inputCount generated : Nat) (chunk : GenerationChunk) (data : List Int) :
    RawExpertChunk :=
  { data := data
    prefixTokenCount := inputCount + generated
    outputTokenCount := chunk.outputIds.length
    isFirstChunk := decide (inputCount + generated = inputCount) }

theorem routedExpertsChunks_settled {rest : List GenerationChunk} {data : List Int}
    (settled : Settled chunk) (carried : payloads.head?.join = some data) :
    routedExpertsChunks inputCount generated (chunk :: rest) payloads =
      expertChunkOf inputCount generated chunk data ::
        routedExpertsChunks inputCount (generated + chunk.outputIds.length) rest
          payloads.tail := by
  unfold Settled at settled
  rw [routedExpertsChunks, carried]
  dsimp only
  rw [if_pos settled]
  rfl

theorem routedExpertsChunks_unsettled {rest : List GenerationChunk} (unsettled : ¬ Settled chunk) :
    routedExpertsChunks inputCount generated (chunk :: rest) payloads =
      routedExpertsChunks inputCount (generated + chunk.outputIds.length) rest
        payloads.tail := by
  unfold Settled at unsettled
  rw [routedExpertsChunks]
  split
  · rfl
  · rw [if_neg unsettled]
    rfl

def answeredFrom (inputCount generated : Nat) : Nat :=
  if generated = 0 then 0 else inputCount + generated - 1

theorem validStart_expertChunkOf (inputCount generated : Nat) (chunk : GenerationChunk)
    (data : List Int) :
    (expertChunkOf inputCount generated chunk data).validStart =
      answeredFrom inputCount generated := by
  unfold RawExpertChunk.validStart expertChunkOf answeredFrom
  by_cases first : generated = 0
  · rw [if_pos (by simpa using first), if_pos first]
  · rw [if_neg (by simpa using first), if_neg first]

theorem answeredFrom_le (inputCount generated : Nat) (chunk : GenerationChunk) (data : List Int) :
    answeredFrom inputCount generated ≤
      (expertChunkOf inputCount generated chunk data).rawRowCount := by
  unfold answeredFrom RawExpertChunk.rawRowCount expertChunkOf
  dsimp only
  split <;> omega

theorem contiguous_routedExpertsChunks {front : List GenerationChunk} {last : GenerationChunk}
    (preempted : ∀ chunk ∈ front, chunk.preempted = true)
    (carried : Carried (front ++ [last]) payloads) :
    Contiguous (answeredFrom inputCount generated)
      (routedExpertsChunks inputCount generated (front ++ [last]) payloads) := by
  induction front generalizing generated payloads with
  | nil =>
    by_cases settled : Settled last
    · obtain ⟨data, isData⟩ := Option.isSome_iff_exists.mp (carried.1 settled)
      rw [nil_append, routedExpertsChunks_settled settled isData]
      exact ⟨validStart_expertChunkOf _ _ _ _, answeredFrom_le _ _ _ _, trivial⟩
    · rw [nil_append, routedExpertsChunks_unsettled settled]
      trivial
  | cons chunk rest ih =>
    have later : Contiguous (answeredFrom inputCount (generated + chunk.outputIds.length))
        (routedExpertsChunks inputCount (generated + chunk.outputIds.length) (rest ++ [last])
          payloads.tail) :=
      ih (fun other member => preempted other (mem_cons_of_mem chunk member)) carried.2
    by_cases settled : Settled chunk
    · -- A preempted response settles by its output only, so the next one starts behind it.
      have output : chunk.outputIds.length ≠ 0 := by
        rcases settled with output | finished
        · exact fun empty => output (length_eq_zero_iff.mp empty)
        · rw [preempted chunk mem_cons_self] at finished
          cases finished
      obtain ⟨data, isData⟩ := Option.isSome_iff_exists.mp (carried.1 settled)
      have next : answeredFrom inputCount (generated + chunk.outputIds.length) =
          (expertChunkOf inputCount generated chunk data).rawRowCount := by
        unfold answeredFrom RawExpertChunk.rawRowCount expertChunkOf
        rw [if_neg (by omega)]
        dsimp only
        omega
      rw [cons_append, routedExpertsChunks_settled settled isData]
      exact ⟨validStart_expertChunkOf _ _ _ _, answeredFrom_le _ _ _ _, next ▸ later⟩
    · have silent : chunk.outputIds = [] := by
        by_contra output
        exact settled (.inl output)
      rw [silent, length_nil, Nat.add_zero] at later
      rw [cons_append, routedExpertsChunks_unsettled settled, silent, length_nil, Nat.add_zero]
      exact later

theorem routedExpertsChunks_ne_nil {chunks : List GenerationChunk}
    (carried : Carried chunks payloads) (member : chunk ∈ chunks) (settled : Settled chunk) :
    routedExpertsChunks inputCount generated chunks payloads ≠ [] := by
  induction chunks generalizing generated payloads with
  | nil => cases member
  | cons first rest ih =>
    by_cases firstSettled : Settled first
    · obtain ⟨data, isData⟩ := Option.isSome_iff_exists.mp (carried.1 firstSettled)
      rw [routedExpertsChunks_settled firstSettled isData]
      exact cons_ne_nil _ _
    · rw [routedExpertsChunks_unsettled firstSettled]
      rcases mem_cons.mp member with rfl | inRest
      · exact absurd settled firstSettled
      · exact ih carried.2 inRest

theorem Interrupted.settled {inputIds : List Nat} {result : PreemptibleGenerateResult}
    {front : List GenerationChunk} {last : GenerationChunk}
    (interrupted : Interrupted result front last) (stitched : FromChunks inputIds result) :
    ∃ chunk ∈ result.chunks, Settled chunk := by
  rcases interrupted.ended with finished | output
  · refine ⟨last, ?_, .inr finished⟩
    rw [interrupted.chunks]
    exact mem_append_right front (mem_singleton_self last)
  · rw [stitched.outputIds] at output
    by_contra none_
    apply output
    rw [flatMap_eq_nil_iff]
    intro chunk member
    by_contra some_
    exact none_ ⟨chunk, member, .inl some_⟩

def rawChunks (state : TrainingState Message Tool) (step : StepRecord Message Tool) :
    List RawExpertChunk :=
  rawChunksOf (generationOf state.proxy step) step ((state.payloads.get? step.stepId).getD [])

def columnRows (state : TrainingState Message Tool) (step : StepRecord Message Tool) :
    List (List Int) :=
  ((state.recorded.get? step.stepId).map fun columns =>
    columns.routedExperts.flatMap ExpertChunk.rows).getD []

theorem ColumnsKept.length_columnRows (kept : ColumnsKept config Call state)
    (member : step ∈ state.proxy.session.steps) :
    (columnRows state step).length =
        emittedRows (recordedColumns state step).routedExperts ∧
      emittedRows (recordedColumns state step).routedExperts ≤
        stepRoutedExpertsRowCount config.proxy.tokenBuildMode step := by
  obtain ⟨past, later, split⟩ := append_of_mem member
  obtain ⟨_carried, columnsOf⟩ := kept.columnsOf split
  obtain ⟨session, _isPast, cut⟩ := columnsOf.rows
  constructor
  · unfold columnRows
    rw [columnsOf.recorded]
    exact length_flatMap_rows _
  · exact Nat.le_trans (emittedRows_canonicalize cut)
      (routedExpertsTarget_le config.proxy.tokenBuildMode session step)

def PayloadsCarried (state : TrainingState Message Tool) : Prop :=
  ∀ step ∈ state.proxy.session.steps,
    Carried (generationOf state.proxy step) ((state.payloads.get? step.stepId).getD [])

instance (state : TrainingState Message Tool) : Decidable (PayloadsCarried state) :=
  inferInstanceAs (Decidable (∀ step ∈ state.proxy.session.steps, _))

theorem ColumnsOf.targetRows {past later : List (StepRecord Message Tool)} {columns : StepColumns}
    {carried : List (Option (List Int))}
    (columnsOf : ColumnsOf config state past step columns carried)
    (origin : Origin config.proxy state.proxy past step draft) (payloads : PayloadsCarried state)
    (split : state.proxy.session.steps = past ++ step :: later) :
    ∃ session : Session Message Tool, session.steps = past ∧
      (columnRows state step).map some =
        (List.range' (routedExpertsTarget config.proxy.tokenBuildMode session step).1
          (routedExpertsTarget config.proxy.tokenBuildMode session step).2).map
            (firstRow (rawChunks state step)) := by
  obtain ⟨session, isPast, cut⟩ := columnsOf.rows
  refine ⟨session, isPast, ?_⟩
  have generation : generationOf state.proxy step = draft.result.chunks := by
    unfold generationOf
    rw [origin.chunks]
    rfl
  obtain ⟨front, last, interrupted⟩ :=
    interrupted_generated origin.fits.generated origin.fits.window
  obtain ⟨chunk, member, settled⟩ := interrupted.settled origin.fits.result
  have all : Carried draft.result.chunks carried := by
    have here := payloads step (by rw [split]; exact mem_append_right past mem_cons_self)
    rw [generation, columnsOf.payloads] at here
    exact here
  have raw : rawChunks state step =
      routedExpertsChunks step.promptTokenIds.length 0 draft.result.chunks carried := by
    unfold rawChunks rawChunksOf
    rw [columnsOf.payloads, generation]
    rfl
  have contiguous : Contiguous 0 (rawChunks state step) := by
    have chain := all
    rw [interrupted.chunks] at chain
    rw [raw, interrupted.chunks]
    change Contiguous (answeredFrom step.promptTokenIds.length 0) _
    exact contiguous_routedExpertsChunks interrupted.preempted chain
  have some_ : rawChunks state step ≠ [] := by
    rw [raw]
    exact routedExpertsChunks_ne_nil all member settled
  have rows : columnRows state step = columns.routedExperts.flatMap ExpertChunk.rows := by
    unfold columnRows
    rw [columnsOf.recorded]
    rfl
  rw [rows]
  apply canonicalizeRoutedExperts_rows contiguous (fun _ => some_)
  rw [raw, ← generation]
  exact cut

def stepTokens (mode : TokenBuildMode) (step : StepRecord Message Tool) : List Nat :=
  match mode with
  | .tito => step.concatTokenIds
  | .snapshot => step.allTokenIds

def Chained (session : Session Message Tool) (steps : List (StepRecord Message Tool)) : Prop :=
  ∀ before step after, steps = before ++ step :: after →
    ∃ past later, session.steps = past ++ step :: later ∧
      Boundary.openSegment lineageBoundary
        (past.filter (fun other => other.lineageId = step.lineageId) ++ [step]) = before ++ [step]

theorem Origin.before_nil {proxy : ProxyConfig} {state : ProxyState Message Tool}
    {past : List (StepRecord Message Tool)} (origin : Origin proxy state past step draft)
    (opened : Boundary.openSegment lineageBoundary
      (past.filter (fun other => other.lineageId = step.lineageId) ++ [step]) = before ++ [step])
    (starts : startsSegment step = true) : before = [] := by
  obtain ⟨refOf, _index, shape, _reads⟩ := origin.built
  have lineage : draft.routed.route.lineageId = step.lineageId := by rw [shape]; rfl
  have route : draft.routed.route.type = step.routeType := by rw [shape]; rfl
  have alone : before ++ [step] = [] ++ [step] := by
    rw [← opened, Boundary.openSegment_snoc]
    by_cases bounded : lineageBoundary step = true
    · rw [if_pos bounded]
      rfl
    · have fresh : past.filter (fun other => other.lineageId = step.lineageId) = [] := by
        rw [filter_eq_nil_iff]
        intro other member same
        refine origin.fits.opened (fun appended => ?_) other member ?_
        · rw [route] at appended
          unfold startsSegment at starts
          rw [appended] at starts
          exact bounded (by simpa using starts)
        · rw [lineage]
          simpa using same
      rw [fresh, if_neg bounded]
      rfl
  exact (append_inj' alone rfl).1

theorem Origin.target {state : ProxyState Message Tool} {session : Session Message Tool}
    (origin : Origin config.proxy state session.steps step draft)
    (opened : Boundary.openSegment lineageBoundary
      (session.steps.filter (fun other => other.lineageId = step.lineageId) ++ [step]) =
        before ++ [step]) :
    routedExpertsTarget .tito session step =
      ((before.flatMap StepRecord.concatTokenIds).length - 1,
        (before.flatMap StepRecord.concatTokenIds).length + step.concatTokenIds.length - 1 -
          ((before.flatMap StepRecord.concatTokenIds).length - 1)) := by
  have prefixCount : (if startsSegment step = true then 0
      else (lineageTitoPrefixTokenIds session step.lineageId).length) =
        (before.flatMap StepRecord.concatTokenIds).length := by
    by_cases starts : startsSegment step = true
    · rw [if_pos starts, origin.before_nil opened starts]
      rfl
    · have unbounded : ¬ lineageBoundary step = true := by
        intro bounded
        apply starts
        unfold startsSegment
        rw [Bool.or_eq_true]
        exact .inr bounded
      rw [Boundary.openSegment_snoc, if_neg unbounded] at opened
      rw [if_neg starts, lineageTitoPrefixTokenIds_eq, ← (append_inj' opened rfl).1]
      rfl
  unfold routedExpertsTarget
  dsimp only
  rw [prefixCount]
  split
  · next zero =>
      rw [zero]
      congr 1
      omega
  · congr 1
    omega

/-- The row of a position, given how many tokens lie before the steps: it comes from the first
step that reaches past the position, and there from the first payload that has it. -/
def originRow (mode : TokenBuildMode) (raw : StepRecord Message Tool → List RawExpertChunk) :
    Nat → List (StepRecord Message Tool) → Nat → Option (List Int)
  | _, [], _ => none
  | offset, step :: rest, row =>
    if row + 1 < offset + (stepTokens mode step).length then firstRow (raw step) row
    else originRow mode raw (offset + (stepTokens mode step).length) rest row

def RowsBehind (mode : TokenBuildMode) (state : TrainingState Message Tool) (offset : Nat)
    (step : StepRecord Message Tool) : Prop :=
  (columnRows state step).map some =
    (List.range' (offset - 1) (offset + (stepTokens mode step).length - 1 - (offset - 1))).map
      (firstRow (rawChunks state step))

theorem flatMap_columnRows {mode : TokenBuildMode} {steps : List (StepRecord Message Tool)}
    (each : ∀ before step after, steps = before ++ step :: after →
      RowsBehind mode state (before.flatMap (stepTokens mode)).length step)
    (before rest : List (StepRecord Message Tool)) (here : steps = before ++ rest) :
    (rest.flatMap (columnRows state)).map some =
      (List.range' ((before.flatMap (stepTokens mode)).length - 1)
        ((before.flatMap (stepTokens mode)).length + (rest.flatMap (stepTokens mode)).length - 1 -
          ((before.flatMap (stepTokens mode)).length - 1))).map
        (originRow mode (rawChunks state) (before.flatMap (stepTokens mode)).length rest) := by
  induction rest generalizing before with
  | nil =>
    rw [flatMap_nil, flatMap_nil, length_nil, Nat.add_zero, Nat.sub_self]
    rfl
  | cons step rest ih =>
    have behind := each before step rest here
    have next := ih (before ++ [step]) (by rw [here, append_assoc]; rfl)
    rw [flatMap_append, flatMap_singleton, length_append] at next
    unfold RowsBehind at behind
    generalize (before.flatMap (stepTokens mode)).length = offset at behind next ⊢
    have own : (columnRows state step).map some =
        (List.range' (offset - 1)
          (offset + (stepTokens mode step).length - 1 - (offset - 1))).map
            (originRow mode (rawChunks state) offset (step :: rest)) := by
      rw [behind]
      apply map_congr_left
      intro row member
      have bounds := mem_range'_bounds member
      rw [originRow, if_pos (by omega)]
    have others : (rest.flatMap (columnRows state)).map some =
        (List.range' (offset + (stepTokens mode step).length - 1)
          (offset + (stepTokens mode step).length + (rest.flatMap (stepTokens mode)).length - 1 -
            (offset + (stepTokens mode step).length - 1))).map
          (originRow mode (rawChunks state) offset (step :: rest)) := by
      rw [next]
      apply map_congr_left
      intro row member
      have bounds := mem_range'_bounds member
      rw [originRow, if_neg (by omega)]
    rw [flatMap_cons, map_append, own, others, ← map_append, flatMap_cons,
      length_append, ← Nat.add_assoc]
    congr 1
    exact (range'_split (by omega) (by omega)).symm

theorem ColumnsKept.chained (tito : config.proxy.tokenBuildMode = .tito)
    (kept : ColumnsKept config Call state) (payloads : PayloadsCarried state)
    {steps : List (StepRecord Message Tool)} (chained : Chained state.proxy.session steps)
    {after : List (StepRecord Message Tool)} (here : steps = before ++ step :: after) :
    RowsBehind .tito state (before.flatMap (stepTokens .tito)).length step ∧
      step.allTokenIds = (before ++ [step]).flatMap (stepTokens .tito) := by
  obtain ⟨past, later, split, opened⟩ := chained before step after here
  obtain ⟨draft, origin⟩ := kept.steps.origins past step later split
  obtain ⟨columns, carried, columnsOf⟩ := kept.columns past step later split
  obtain ⟨session, rfl, rows⟩ := columnsOf.targetRows origin payloads split
  constructor
  · rw [tito, origin.target opened] at rows
    exact rows
  · have stream := origin.openSegment tito
    rw [opened] at stream
    rw [(origin.shape tito).allTokens]
    exact stream.symm

theorem ColumnsKept.alone (snapshot : config.proxy.tokenBuildMode = .snapshot)
    (kept : ColumnsKept config Call state) (payloads : PayloadsCarried state)
    (member : step ∈ state.proxy.session.steps) : RowsBehind .snapshot state 0 step := by
  obtain ⟨past, later, split⟩ := append_of_mem member
  obtain ⟨draft, origin⟩ := kept.steps.origins past step later split
  obtain ⟨columns, carried, columnsOf⟩ := kept.columns past step later split
  obtain ⟨session, _past, rows⟩ := columnsOf.targetRows origin payloads split
  rw [snapshot] at rows
  unfold RowsBehind
  rw [Nat.zero_add]
  exact rows

end Dressage.Proxy
