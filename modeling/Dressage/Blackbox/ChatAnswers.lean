/-
Chat completions, plain and as a stream of chunks.

The Dressage proxy answers with one completion, or cuts the computed answer into
`chat.completion.chunk` events. The in-sandbox proxy translates either form for
Anthropic Messages and OpenAI Responses clients. Values are those of well-typed JSON;
texts are strings, an absent or null field is `none`, and fields that no translation
reads are left out. A token count with a fallback is `some none` where it is null, which
is zero tokens and not the fallback.
-/

import Mathlib.Data.List.Basic
import Mathlib.Data.Nat.Notation

namespace Dressage.Blackbox.Answers

structure Usage where
  promptTokens : Option (Option Nat)
  inputTokens : Option Nat
  completionTokens : Option (Option Nat)
  outputTokens : Option Nat
  totalTokens : Option Nat
  deriving DecidableEq, Repr

def Usage.input (usage : Usage) : Nat := (usage.promptTokens.getD usage.inputTokens).getD 0

def Usage.output (usage : Usage) : Nat := (usage.completionTokens.getD usage.outputTokens).getD 0

structure MessageToolCall where
  id : Option String
  name : Option String
  arguments : Option String
  deriving DecidableEq, Repr

structure Message where
  reasoningContent : Option String
  reasoning : Option String
  content : Option String
  toolCalls : List MessageToolCall
  deriving DecidableEq, Repr

structure ChatCompletion where
  model : Option String
  message : Message
  finishReason : Option String
  usage : Option Usage
  deriving DecidableEq, Repr

structure ToolCallDelta where
  index : Option Int
  id : Option String
  type : Option String
  name : Option String
  arguments : Option String
  deriving DecidableEq, Repr

structure Delta where
  reasoningContent : Option String
  reasoning : Option String
  content : Option String
  toolCalls : List ToolCallDelta
  deriving DecidableEq, Repr

def Delta.empty : Delta :=
  { reasoningContent := none
    reasoning := none
    content := none
    toolCalls := [] }

/-- The first choice of a chunk, and its usage; without a choice the delta is empty. -/
structure ChatChunk where
  model : Option String
  delta : Delta
  finishReason : Option String
  usage : Option Usage
  deriving DecidableEq, Repr

def orElse (first second : Option String) : Option String :=
  match first with
  | some text => if text = "" then second else some text
  | none => second

def orText (text : Option String) (fallback : String) : String :=
  match text with
  | some text => if text = "" then fallback else text
  | none => fallback

@[simp] theorem orText_some {text : String} (present : text ≠ "") (fallback : String) :
    orText (some text) fallback = text :=
  if_neg present

def Delta.reasoningText (delta : Delta) : Option String :=
  (orElse delta.reasoningContent delta.reasoning).filter (fun text => text ≠ "")

def Delta.contentText (delta : Delta) : Option String :=
  delta.content.filter (fun text => text ≠ "")

structure ToolCall where
  index : Nat
  id : String
  name : String
  arguments : String
  deriving DecidableEq, Repr

structure AssistantResult where
  content : Option String
  reasoningContent : Option String
  toolCalls : List ToolCall
  finishReason : String
  deriving DecidableEq, Repr

def AssistantResult.message (result : AssistantResult) : Message :=
  { reasoningContent := result.reasoningContent
    reasoning := none
    content := result.content
    toolCalls := result.toolCalls.map (fun call =>
      { id := some call.id
        name := some call.name
        arguments := some call.arguments }) }

def usageOf (promptTokens completionTokens : Nat) : Usage :=
  { promptTokens := some (some promptTokens)
    inputTokens := none
    completionTokens := some (some completionTokens)
    outputTokens := none
    totalTokens := some (promptTokens + completionTokens) }

def openaiResponse (model : String) (message : Message) (finishReason : String)
    (promptTokens completionTokens : Nat) : ChatCompletion :=
  { model := some model
    message := message
    finishReason := some finishReason
    usage := some (usageOf promptTokens completionTokens) }

def slices (text : String) : List String :=
  (List.range ((text.toList.length + 7) / 8)).map
    (fun slice => String.ofList ((text.toList.drop (8 * slice)).take 8))

def streamedText : Option String → List String
  | some text => if text = "" then [] else slices text
  | none => []

/-- `_pseudo_stream_chunks`; its chunks before the usage say that their usage is null. -/
def pseudoStreamChunks (model : String) (result : AssistantResult)
    (promptTokens completionTokens : Nat) (includeUsage : Bool) : List ChatChunk :=
  let chunk (delta : Delta) (reason : Option String) : ChatChunk :=
    { model := some model
      delta := delta
      finishReason := reason
      usage := none }
  [chunk Delta.empty none] ++
    (streamedText result.reasoningContent).map
      (fun text => chunk { Delta.empty with reasoningContent := some text } none) ++
    (streamedText result.content).map
      (fun text => chunk { Delta.empty with content := some text } none) ++
    result.toolCalls.map (fun call =>
      chunk { Delta.empty with
        toolCalls :=
          [{ index := some call.index
             id := some call.id
             type := some "function"
             name := some call.name
             arguments := some call.arguments }] } none) ++
    [chunk Delta.empty (some result.finishReason)] ++
    (if includeUsage then
      [{ model := some model
         delta := Delta.empty
         finishReason := none
         usage := some (usageOf promptTokens completionTokens) }]
    else [])

end Dressage.Blackbox.Answers
