/-
The token counts that a client is shown.

The counts of a streamed answer are in a chunk of their own, after the finish reason.
The Responses stream reads all chunks; the Anthropic stream ends with the finish reason,
and the usage of that chunk is null.
-/

import Dressage.Blackbox.AnthropicAnswers
import Dressage.Blackbox.ResponsesAnswers

namespace Dressage.Blackbox.Answers

open List

open ProxyRequests (Json)

variable {Number : Type}

inductive Protocol where
  | anthropicMessages
  | openaiResponses
  deriving DecidableEq, Repr

def readUsage (usage : AnthropicUsage) : AnthropicEvent → AnthropicUsage
  | .messageStart _ initial => initial
  | .messageDelta _ outputTokens => { usage with outputTokens := outputTokens }
  | _ => usage

def streamedUsage (events : List AnthropicEvent) : AnthropicUsage :=
  events.foldl readUsage (openaiUsageToAnthropicUsage none)

def shownCounts (usage : Option ResponseUsage) : AnthropicUsage :=
  { inputTokens := (usage.map ResponseUsage.inputTokens).getD 0
    outputTokens := (usage.map ResponseUsage.outputTokens).getD 0 }

/-- The counts in the translated answer for one completion, which the Dressage proxy
serves with its usage. -/
def shownUsage (loads : String → Option (Json Number)) (protocol : Protocol) (stream : Bool)
    (model : String) (requestModel : Option String) (message : Message) (result : AssistantResult)
    (promptTokens completionTokens : Nat) : AnthropicUsage :=
  let plain := openaiResponse model message result.finishReason promptTokens completionTokens
  let chunks := pseudoStreamChunks model result promptTokens completionTokens true
  match protocol, stream with
  | .anthropicMessages, false => (openaiChatCompletionToAnthropicMessage loads plain).usage
  | .anthropicMessages, true => streamedUsage (anthropicEvents chunks)
  | .openaiResponses, false => shownCounts (chatCompletionToOpenaiResponse plain requestModel).usage
  | .openaiResponses, true =>
    shownCounts (((responseEvents requestModel chunks).findSome? completedOf).bind
      ResponsePayload.usage)

def finishOutput : List ChatChunk → Nat
  | [] => 0
  | chunk :: rest =>
    if chunk.finishReason.isSome then (openaiUsageToAnthropicUsage chunk.usage).outputTokens
    else finishOutput rest

def AnthropicEvent.isBlock : AnthropicEvent → Bool
  | .contentBlockStart _ _ | .contentBlockDelta _ _ | .contentBlockStop _ => true
  | .messageStart _ _ | .messageDelta _ _ | .messageStop => false

structure WritesBlocks (state next : AnthropicStreamState) (events : List AnthropicEvent) :
    Prop where
  finished : next.finished = state.finished
  blocks : ∀ event ∈ events, event.isBlock = true

variable {state middle next : AnthropicStreamState}

theorem WritesBlocks.nothing (state : AnthropicStreamState) : WritesBlocks state state [] := by
  refine ⟨rfl, ?_⟩
  intro event impossible
  cases impossible

theorem WritesBlocks.one {event : AnthropicEvent} (finished : next.finished = state.finished)
    (block : event.isBlock = true) : WritesBlocks state next [event] := by
  refine ⟨finished, ?_⟩
  intro other member
  rw [mem_singleton.mp member]
  exact block

theorem WritesBlocks.andThen {first second : List AnthropicEvent}
    (before : WritesBlocks state middle first) (after : WritesBlocks middle next second) :
    WritesBlocks state next (first ++ second) := by
  refine ⟨after.finished.trans before.finished, ?_⟩
  intro event member
  rcases mem_append.mp member with early | late
  · exact before.blocks event early
  · exact after.blocks event late

theorem WritesBlocks.andThenOne {events : List AnthropicEvent} {event : AnthropicEvent}
    (before : WritesBlocks state middle events) (finished : next.finished = middle.finished)
    (block : event.isBlock = true) : WritesBlocks state next (events ++ [event]) :=
  before.andThen (WritesBlocks.one finished block)

theorem writesBlocks_stopActiveBlock (state : AnthropicStreamState) :
    WritesBlocks state state.stopActiveBlock.1 state.stopActiveBlock.2 := by
  unfold AnthropicStreamState.stopActiveBlock
  split
  · exact WritesBlocks.one rfl rfl
  · exact WritesBlocks.nothing state

theorem writesBlocks_startBlock (state : AnthropicStreamState) (type : BlockType)
    (block : BlockStart) :
    WritesBlocks state (state.startBlock type block).1 (state.startBlock type block).2 :=
  (writesBlocks_stopActiveBlock state).andThenOne rfl rfl

theorem writesBlocks_emitTextLikeBlock (type : BlockType) (block : BlockStart)
    (delta : String → BlockDelta) (state : AnthropicStreamState) (text : String) :
    WritesBlocks state (state.emitTextLikeBlock type block delta text).1
      (state.emitTextLikeBlock type block delta text).2 := by
  have started : WritesBlocks state
      (if state.activeBlockType = some type then (state, []) else state.startBlock type block).1
      (if state.activeBlockType = some type then (state, [])
        else state.startBlock type block).2 := by
    split
    · exact WritesBlocks.nothing state
    · exact writesBlocks_startBlock state type block
  unfold AnthropicStreamState.emitTextLikeBlock
  simp only
  split
  · exact started.andThenOne rfl rfl
  · exact started

theorem writesBlocks_emitToolCallDelta (state : AnthropicStreamState) (toolCall : ToolCallDelta) :
    WritesBlocks state (state.emitToolCallDelta toolCall).1
      (state.emitToolCallDelta toolCall).2 := by
  unfold AnthropicStreamState.emitToolCallDelta
  simp only
  cases state.toolCallBlocks.get? (toolCall.index.getD 0) with
  | some index =>
    simp only
    split
    · exact WritesBlocks.one rfl rfl
    · exact WritesBlocks.nothing state
  | none =>
    have started := writesBlocks_startBlock state (.toolUse (toolCall.index.getD 0))
      (.toolUse (orText toolCall.id ("toolu_" ++ toString (toolCall.index.getD 0)))
        (orText toolCall.name "tool"))
    simp only
    split
    · exact started.andThenOne rfl rfl
    · exact ⟨started.finished, started.blocks⟩

theorem writesBlocks_emitAll {α : Type} {emit : AnthropicStreamState → α → Written}
    (each : ∀ state item, WritesBlocks state (emit state item).1 (emit state item).2)
    (state : AnthropicStreamState) (items : List α) :
    WritesBlocks state (emitAll emit state items).1 (emitAll emit state items).2 := by
  induction items generalizing state with
  | nil => exact WritesBlocks.nothing state
  | cons item rest ih => exact (each state item).andThen (ih (emit state item).1)

theorem writesBlocks_emitDelta (state : AnthropicStreamState) (chunk : ChatChunk) :
    WritesBlocks state (emitDelta state chunk).1 (emitDelta state chunk).2 := by
  have thinking := writesBlocks_emitAll (writesBlocks_emitTextLikeBlock .thinking .thinking
    .thinking) state chunk.delta.reasoningText.toList
  have text := fun state => writesBlocks_emitAll (writesBlocks_emitTextLikeBlock .text .text .text)
    state chunk.delta.contentText.toList
  have tools := fun state => writesBlocks_emitAll writesBlocks_emitToolCallDelta state
    chunk.delta.toolCalls
  exact thinking.andThen ((text _).andThen (tools _))

theorem foldl_readUsage_blocks {events : List AnthropicEvent}
    (blocks : ∀ event ∈ events, event.isBlock = true) (usage : AnthropicUsage) :
    events.foldl readUsage usage = usage := by
  induction events with
  | nil => rfl
  | cons event rest ih =>
    have here : readUsage usage event = usage := by
      have block := blocks event mem_cons_self
      cases event with
      | contentBlockStart _ _ | contentBlockDelta _ _ | contentBlockStop _ => rfl
      | messageStart _ _ | messageDelta _ _ | messageStop => cases block
    rw [foldl_cons, here]
    exact ih (fun other member => blocks other (mem_cons_of_mem event member))

theorem foldl_readUsage_finish (unfinished : state.finished = false) (stopReason : String)
    (shown : Option AnthropicUsage) (usage : AnthropicUsage) :
    (state.finish stopReason shown).2.foldl readUsage usage =
      { usage with outputTokens := (shown.map AnthropicUsage.outputTokens).getD 0 } := by
  unfold AnthropicStreamState.finish
  rw [if_neg (by rw [unfinished]; exact Bool.false_ne_true)]
  simp only
  rw [foldl_append, foldl_readUsage_blocks (writesBlocks_stopActiveBlock state).blocks]
  rfl

theorem foldl_readUsage_emitChunks (unfinished : state.finished = false)
    (chunks : List ChatChunk) (usage : AnthropicUsage) :
    (emitChunks state chunks).foldl readUsage usage =
      { usage with outputTokens := finishOutput chunks } := by
  induction chunks generalizing state with
  | nil => exact foldl_readUsage_finish unfinished _ _ _
  | cons chunk rest ih =>
    have written := writesBlocks_emitDelta state chunk
    have unfinished : (emitDelta state chunk).1.finished = false :=
      written.finished.trans unfinished
    unfold emitChunks
    simp only
    cases isFinish : chunk.finishReason with
    | some reason =>
      simp only
      rw [foldl_append, foldl_readUsage_blocks written.blocks, foldl_readUsage_finish unfinished]
      unfold finishOutput
      rw [isFinish]
      rfl
    | none =>
      simp only
      rw [foldl_append, foldl_readUsage_blocks written.blocks, ih unfinished]
      conv_rhs => unfold finishOutput
      rw [isFinish]
      rfl

theorem streamedUsage_anthropicEvents (chunks : List ChatChunk) :
    streamedUsage (anthropicEvents chunks) =
      { inputTokens := 0
        outputTokens := finishOutput chunks } := by
  have unfinished : AnthropicStreamState.initial.finished = false := rfl
  exact foldl_readUsage_emitChunks unfinished chunks (openaiUsageToAnthropicUsage none)

theorem finishOutput_append {front : List ChatChunk}
    (unfinished : ∀ chunk ∈ front, chunk.finishReason = none) (back : List ChatChunk) :
    finishOutput (front ++ back) = finishOutput back := by
  induction front with
  | nil => rfl
  | cons chunk rest ih =>
    have skipped : finishOutput (chunk :: (rest ++ back)) = finishOutput (rest ++ back) := by
      conv_lhs => unfold finishOutput
      rw [unfinished chunk mem_cons_self]
      rfl
    rw [cons_append, skipped]
    exact ih (fun other member => unfinished other (mem_cons_of_mem chunk member))

theorem finishOutput_pseudoStreamChunks (model : String) (result : AssistantResult)
    (promptTokens completionTokens : Nat) (includeUsage : Bool) :
    finishOutput (pseudoStreamChunks model result promptTokens completionTokens includeUsage) =
      0 := by
  unfold pseudoStreamChunks
  simp only
  rw [append_assoc, finishOutput_append]
  · rfl
  · intro chunk member
    simp only [mem_append, mem_map, mem_singleton] at member
    rcases member with ((rfl | ⟨text, _, rfl⟩) | ⟨text, _, rfl⟩) | ⟨call, _, rfl⟩ <;> rfl

theorem usage_completedResponse (model : String) (requestModel : Option String)
    (result : AssistantResult) (promptTokens completionTokens : Nat) :
    (completedResponse requestModel
      (pseudoStreamChunks model result promptTokens completionTokens true)).usage =
        some (openaiUsageToResponseUsage (some (usageOf promptTokens completionTokens))) := by
  unfold completedResponse pseudoStreamChunks
  simp only [if_true]
  rw [foldl_append]
  rfl

theorem shownUsage_anthropic_stream (loads : String → Option (Json Number)) (model : String)
    (requestModel : Option String) (message : Message) (result : AssistantResult)
    (promptTokens completionTokens : Nat) :
    shownUsage loads .anthropicMessages true model requestModel message result promptTokens
      completionTokens =
        { inputTokens := 0
          outputTokens := 0 } := by
  unfold shownUsage
  simp only
  rw [streamedUsage_anthropicEvents, finishOutput_pseudoStreamChunks]

theorem shownUsage_otherwise (loads : String → Option (Json Number)) {protocol : Protocol}
    {stream : Bool} (otherwise : protocol = .openaiResponses ∨ stream = false) (model : String)
    (requestModel : Option String) (message : Message) (result : AssistantResult)
    (promptTokens completionTokens : Nat) :
    shownUsage loads protocol stream model requestModel message result promptTokens
      completionTokens =
        { inputTokens := promptTokens
          outputTokens := completionTokens } := by
  unfold shownUsage
  cases protocol with
  | anthropicMessages =>
    cases stream with
    | false => rfl
    | true => rcases otherwise with impossible | impossible <;> cases impossible
  | openaiResponses =>
    cases stream with
    | false => rfl
    | true =>
      simp only
      rw [findSome_completedOf_responseEvents, Option.bind_some, usage_completedResponse]
      rfl

/-- The counts are the completion's, and the same in both modes, exactly for Responses
clients, for plain answers, and where both counts are zero. -/
theorem shownUsage_iff (loads : String → Option (Json Number)) (protocol : Protocol)
    (model : String) (requestModel : Option String) (message : Message) (result : AssistantResult)
    (promptTokens completionTokens : Nat) :
    (∀ stream, shownUsage loads protocol stream model requestModel message result promptTokens
        completionTokens =
          { inputTokens := promptTokens
            outputTokens := completionTokens } ↔
      protocol = .openaiResponses ∨ stream = false ∨ promptTokens = 0 ∧ completionTokens = 0) ∧
    (shownUsage loads protocol true model requestModel message result promptTokens
        completionTokens =
      shownUsage loads protocol false model requestModel message result promptTokens
        completionTokens ↔
      protocol = .openaiResponses ∨ promptTokens = 0 ∧ completionTokens = 0) := by
  have zero : ({ inputTokens := 0, outputTokens := 0 } : AnthropicUsage) =
      { inputTokens := promptTokens, outputTokens := completionTokens } ↔
        promptTokens = 0 ∧ completionTokens = 0 := by
    constructor
    · intro same
      injection same with input output
      exact ⟨input.symm, output.symm⟩
    · rintro ⟨rfl, rfl⟩
      rfl
  constructor
  · intro stream
    by_cases otherwise : protocol = .openaiResponses ∨ stream = false
    · rw [shownUsage_otherwise loads otherwise, ← or_assoc]
      exact iff_of_true rfl (.inl otherwise)
    · obtain ⟨other, streamed⟩ := not_or.mp otherwise
      cases protocol with
      | openaiResponses => exact absurd rfl other
      | anthropicMessages =>
        rw [Bool.not_eq_false] at streamed
        subst streamed
        rw [shownUsage_anthropic_stream, zero]
        simp
  · rw [shownUsage_otherwise loads (.inr rfl)]
    cases protocol with
    | openaiResponses =>
      rw [shownUsage_otherwise loads (.inl rfl)]
      simp
    | anthropicMessages =>
      rw [shownUsage_anthropic_stream, zero]
      simp

def oneWord : AssistantResult :=
  { content := some "Done."
    reasoningContent := none
    toolCalls := []
    finishReason := "stop" }

theorem streamed_anthropic_shows_nothing :
    shownUsage (fun _ => (none : Option (Json Nat))) .anthropicMessages true "model" none
        oneWord.message oneWord 100 7 =
      { inputTokens := 0
        outputTokens := 0 } ∧
    ¬ (∀ (protocol : Protocol) (stream : Bool),
      shownUsage (fun _ => (none : Option (Json Nat))) protocol stream "model" none
        oneWord.message oneWord 100 7 =
          { inputTokens := 100
            outputTokens := 7 }) := by
  have shown : shownUsage (fun _ => (none : Option (Json Nat))) .anthropicMessages true "model" none
      oneWord.message oneWord 100 7 =
        { inputTokens := 0
          outputTokens := 0 } :=
    shownUsage_anthropic_stream _ _ _ _ _ _ _
  refine ⟨shown, fun all => ?_⟩
  have same := shown.symm.trans (all .anthropicMessages true)
  injection same with input
  cases input

end Dressage.Blackbox.Answers
