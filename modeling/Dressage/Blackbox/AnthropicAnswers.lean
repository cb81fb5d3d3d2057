/-
Chat completions as Anthropic messages.

A plain completion becomes a message; a stream of chunks becomes a stream of events,
written by a state machine that has at most one block open. A client puts the events
together again.
-/

import Dressage.Lib.OrderedDict
import Dressage.Blackbox.ChatAnswers
import Dressage.Blackbox.ProxyRequests

namespace Dressage.Blackbox.Answers

open Lib
open ProxyRequests (Json textOf)

variable {Number : Type}

inductive Block (Number : Type) where
  | thinking (thinking : String)
  | text (text : String)
  | toolUse (id name : String) (input : Json Number)

structure AnthropicUsage where
  inputTokens : Nat
  outputTokens : Nat
  deriving DecidableEq, Repr

structure AnthropicMessage (Number : Type) where
  model : String
  content : List (Block Number)
  stopReason : String
  usage : AnthropicUsage

/-- The value of a tool call's arguments; `loads` is `json.loads`, with `none` where it
raises `JSONDecodeError`. -/
def toolInput (loads : String → Option (Json Number)) (rawArguments : Option String) :
    Json Number :=
  let parsedArguments :=
    match rawArguments with
    | some raw => (loads raw).getD (.object [(textOf "arguments", .text (textOf raw))])
    | none => .null
  match parsedArguments with
  | .object entries => .object entries
  | _ => .object []

def openaiMessageToAnthropicContent (loads : String → Option (Json Number)) (message : Message) :
    List (Block Number) :=
  let reasoning := (orElse message.reasoningContent message.reasoning).filter (· ≠ "")
  let text := message.content.filter (· ≠ "")
  let content :=
    reasoning.toList.map Block.thinking ++ text.toList.map Block.text ++
      message.toolCalls.map (fun call =>
        Block.toolUse (orText call.id "toolu_proxy") (orText call.name "tool")
          (toolInput loads call.arguments))
  if content.isEmpty then [.text ""] else content

def openaiUsageToAnthropicUsage : Option Usage → AnthropicUsage
  | some usage =>
    { inputTokens := usage.input
      outputTokens := usage.output }
  | none =>
    { inputTokens := 0
      outputTokens := 0 }

def openaiFinishReasonToAnthropic (value : Option String) : String :=
  match value with
  | none => "end_turn"
  | some reason =>
    if reason = "" then "end_turn"
    else if reason = "stop" then "end_turn"
    else if reason = "length" then "max_tokens"
    else if reason = "tool_calls" then "tool_use"
    else reason

def openaiChatCompletionToAnthropicMessage (loads : String → Option (Json Number))
    (payload : ChatCompletion) : AnthropicMessage Number :=
  { model := orText payload.model "proxy-model"
    content := openaiMessageToAnthropicContent loads payload.message
    stopReason := openaiFinishReasonToAnthropic payload.finishReason
    usage := openaiUsageToAnthropicUsage payload.usage }

inductive BlockStart where
  | thinking
  | text
  | toolUse (id name : String)
  deriving DecidableEq, Repr

inductive BlockDelta where
  | thinking (thinking : String)
  | text (text : String)
  | inputJson (partialJson : String)
  deriving DecidableEq, Repr

inductive AnthropicEvent where
  | messageStart (model : String) (usage : AnthropicUsage)
  | contentBlockStart (index : Nat) (block : BlockStart)
  | contentBlockDelta (index : Nat) (delta : BlockDelta)
  | contentBlockStop (index : Nat)
  | messageDelta (stopReason : String) (outputTokens : Nat)
  | messageStop
  deriving DecidableEq, Repr

inductive BlockType where
  | thinking
  | text
  | toolUse (toolIndex : Int)
  deriving DecidableEq, Repr

/-- The model's name is left out: it is not read after `message_start`. -/
structure AnthropicStreamState where
  activeBlockType : Option BlockType
  activeBlockIndex : Option Nat
  nextIndex : Nat
  finished : Bool
  toolCallBlocks : OrderedDict Int Nat

abbrev Written := AnthropicStreamState × List AnthropicEvent

namespace AnthropicStreamState

def initial : AnthropicStreamState :=
  { activeBlockType := none
    activeBlockIndex := none
    nextIndex := 0
    finished := false
    toolCallBlocks := OrderedDict.empty }

def stopActiveBlock (state : AnthropicStreamState) : Written :=
  match state.activeBlockIndex with
  | some index =>
    ({ state with
        activeBlockType := none
        activeBlockIndex := none },
      [.contentBlockStop index])
  | none => (state, [])

def startBlock (state : AnthropicStreamState) (type : BlockType) (block : BlockStart) : Written :=
  let stopped := state.stopActiveBlock
  ({ stopped.1 with
      activeBlockType := some type
      activeBlockIndex := some stopped.1.nextIndex
      nextIndex := stopped.1.nextIndex + 1 },
    stopped.2 ++ [.contentBlockStart stopped.1.nextIndex block])

def emitTextLikeBlock (type : BlockType) (block : BlockStart) (delta : String → BlockDelta)
    (state : AnthropicStreamState) (text : String) : Written :=
  let started := if state.activeBlockType = some type then (state, []) else state.startBlock type block
  match started.1.activeBlockIndex with
  | some index => (started.1, started.2 ++ [.contentBlockDelta index (delta text)])
  -- the assertion of the source
  | none => started

def emitToolCallDelta (state : AnthropicStreamState) (toolCall : ToolCallDelta) : Written :=
  let toolIndex := toolCall.index.getD 0
  let started :=
    match state.toolCallBlocks.get? toolIndex with
    | some _ => (state, [])
    | none =>
      let written := state.startBlock (.toolUse toolIndex)
        (.toolUse (orText toolCall.id ("toolu_" ++ toString toolIndex))
          (orText toolCall.name "tool"))
      ({ written.1 with
          toolCallBlocks := state.toolCallBlocks.set toolIndex state.nextIndex },
        written.2)
  match started.1.toolCallBlocks.get? toolIndex, toolCall.arguments.filter (· ≠ "") with
  | some index, some partialJson =>
    (started.1, started.2 ++ [.contentBlockDelta index (.inputJson partialJson)])
  | _, _ => started

def finish (state : AnthropicStreamState) (stopReason : String) (usage : Option AnthropicUsage) :
    Written :=
  if state.finished then (state, [])
  else
    let stopped := state.stopActiveBlock
    ({ stopped.1 with finished := true },
      stopped.2 ++
        [.messageDelta stopReason ((usage.map AnthropicUsage.outputTokens).getD 0), .messageStop])

end AnthropicStreamState

def emitAll {α : Type} (emit : AnthropicStreamState → α → Written)
    (state : AnthropicStreamState) : List α → Written
  | [] => (state, [])
  | item :: rest =>
    let written := emit state item
    let others := emitAll emit written.1 rest
    (others.1, written.2 ++ others.2)

def emitThinking : AnthropicStreamState → String → Written :=
  AnthropicStreamState.emitTextLikeBlock .thinking .thinking .thinking

def emitText : AnthropicStreamState → String → Written :=
  AnthropicStreamState.emitTextLikeBlock .text .text .text

def emitDelta (state : AnthropicStreamState) (chunk : ChatChunk) : Written :=
  let thinking := emitAll emitThinking state chunk.delta.reasoningText.toList
  let text := emitAll emitText thinking.1 chunk.delta.contentText.toList
  let tools := emitAll AnthropicStreamState.emitToolCallDelta text.1 chunk.delta.toolCalls
  (tools.1, thinking.2 ++ (text.2 ++ tools.2))

/-- The loop over the chunks; what follows the finish reason is not read. -/
def emitChunks (state : AnthropicStreamState) : List ChatChunk → List AnthropicEvent
  | [] => (state.finish "end_turn" none).2
  | chunk :: rest =>
    let written := emitDelta state chunk
    match chunk.finishReason with
    | some reason =>
      written.2 ++ (written.1.finish (openaiFinishReasonToAnthropic (some reason))
        (some (openaiUsageToAnthropicUsage chunk.usage))).2
    | none => written.2 ++ emitChunks written.1 rest

def anthropicEvents (chunks : List ChatChunk) : List AnthropicEvent :=
  .messageStart "proxy-model" (openaiUsageToAnthropicUsage none) ::
    emitChunks AnthropicStreamState.initial chunks

inductive PartialBlock where
  | thinking (thinking : String)
  | text (text : String)
  | toolUse (id name partialJson : String)
  deriving DecidableEq, Repr

def PartialBlock.started : BlockStart → PartialBlock
  | .thinking => .thinking ""
  | .text => .text ""
  | .toolUse id name => .toolUse id name ""

def PartialBlock.extend : PartialBlock → BlockDelta → Option PartialBlock
  | .thinking written, .thinking more => some (.thinking (written ++ more))
  | .text written, .text more => some (.text (written ++ more))
  | .toolUse id name written, .inputJson more => some (.toolUse id name (written ++ more))
  | _, _ => none

def PartialBlock.complete (loads : String → Option (Json Number)) :
    PartialBlock → Option (Block Number)
  | .thinking written => some (.thinking written)
  | .text written => some (.text written)
  | .toolUse id name written =>
    if written = "" then some (.toolUse id name (.object []))
    else (loads written).map (Block.toolUse id name)

structure MessageDraft where
  model : String
  inputTokens : Nat
  blocks : List PartialBlock
  current : Option PartialBlock
  deriving DecidableEq, Repr

inductive MessageReader where
  | waiting
  | reading (draft : MessageDraft)
  | ending (draft : MessageDraft) (stopReason : String) (outputTokens : Nat)
  | ended (draft : MessageDraft) (stopReason : String) (outputTokens : Nat)
  deriving DecidableEq, Repr

def MessageReader.read : MessageReader → AnthropicEvent → Option MessageReader
  | .waiting, .messageStart model usage =>
    some (.reading
      { model := model
        inputTokens := usage.inputTokens
        blocks := []
        current := none })
  | .reading draft, .contentBlockStart index block =>
    if draft.current = none ∧ index = draft.blocks.length then
      some (.reading { draft with current := some (PartialBlock.started block) })
    else none
  | .reading draft, .contentBlockDelta index delta =>
    if index = draft.blocks.length then
      (draft.current.bind (fun block => block.extend delta)).map
        (fun block => .reading { draft with current := some block })
    else none
  | .reading draft, .contentBlockStop index =>
    if index = draft.blocks.length then
      draft.current.map (fun block =>
        .reading
          { draft with
            blocks := draft.blocks ++ [block]
            current := none })
    else none
  | .reading draft, .messageDelta stopReason outputTokens =>
    if draft.current = none then some (.ending draft stopReason outputTokens) else none
  | .ending draft stopReason outputTokens, .messageStop =>
    some (.ended draft stopReason outputTokens)
  | _, _ => none

def readAnthropic (loads : String → Option (Json Number)) (events : List AnthropicEvent) :
    Option (AnthropicMessage Number) :=
  match events.foldlM MessageReader.read MessageReader.waiting with
  | some (.ended draft stopReason outputTokens) =>
    (draft.blocks.mapM (PartialBlock.complete loads)).map (fun content =>
      { model := draft.model
        content := content
        stopReason := stopReason
        usage :=
          { inputTokens := draft.inputTokens
            outputTokens := outputTokens } })
  | _ => none

end Dressage.Blackbox.Answers
