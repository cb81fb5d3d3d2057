/-
Chat completions as OpenAI responses.

A plain completion becomes a response; a stream of chunks is collected first, and its
items are then written as events. A client puts each item together from its events.
-/

import Dressage.Lib.OrderedDict
import Dressage.Blackbox.ChatAnswers

namespace Dressage.Blackbox.Answers

open Lib List

inductive OutputItem where
  | reasoning (id : String) (summary : List String)
  | message (id status : String) (content : List String)
  | functionCall (id callId name arguments status : String)
  deriving DecidableEq, Repr

structure ResponseUsage where
  inputTokens : Nat
  outputTokens : Nat
  totalTokens : Nat
  deriving DecidableEq, Repr

structure ResponsePayload where
  id : String
  status : String
  model : String
  output : List OutputItem
  usage : Option ResponseUsage
  deriving DecidableEq, Repr

def reasoningItem (text id : String) : OutputItem := .reasoning id [text]

def messageItem (text status id : String) : OutputItem := .message id status [text]

def functionCallItem (callId name arguments : String) : OutputItem :=
  .functionCall ("fc_" ++ callId) callId name arguments "completed"

def openaiUsageToResponseUsage : Option Usage → ResponseUsage
  | some usage =>
    let totalTokens := usage.totalTokens.getD (usage.input + usage.output)
    { inputTokens := usage.input
      outputTokens := usage.output
      totalTokens := if totalTokens = 0 then usage.input + usage.output else totalTokens }
  | none =>
    { inputTokens := 0
      outputTokens := 0
      totalTokens := 0 }

def toolCallsToResponseItems (toolCalls : List MessageToolCall) : List OutputItem :=
  toolCalls.zipIdx.map (fun (call, index) =>
    functionCallItem (orText call.id ("call_proxy_" ++ toString index)) (orText call.name "tool")
      (call.arguments.getD "\x7b\x7d"))

def responseOutput (message : Message) : List OutputItem :=
  let reasoning := orElse message.reasoningContent message.reasoning
  let text := message.content.getD ""
  let toolCallItems := toolCallsToResponseItems message.toolCalls
  ((reasoning.filter (· ≠ "")).toList.map (fun text => reasoningItem text "rs_proxy")) ++
    (if text ≠ "" ∨ toolCallItems = [] then [messageItem text "completed" "msg_proxy"] else []) ++
    toolCallItems

def chatCompletionToOpenaiResponse (payload : ChatCompletion) (requestModel : Option String) :
    ResponsePayload :=
  { id := "resp_proxy"
    status := "completed"
    model := orText payload.model (orText requestModel "proxy-model")
    output := responseOutput payload.message
    usage := some (openaiUsageToResponseUsage payload.usage) }

structure ToolCallParts where
  id : Option String
  type : Option String
  name : Option String
  argumentsParts : List String
  deriving DecidableEq, Repr

def ToolCallParts.empty : ToolCallParts :=
  { id := none
    type := none
    name := none
    argumentsParts := [] }

def accumulateToolCallDelta (toolCallDeltas : OrderedDict Int ToolCallParts)
    (toolCall : ToolCallDelta) : OrderedDict Int ToolCallParts :=
  let index := toolCall.index.getD 0
  let state := toolCallDeltas.getD index ToolCallParts.empty
  toolCallDeltas.set index
    { id := orElse toolCall.id state.id
      type := orElse toolCall.type state.type
      name := orElse toolCall.name state.name
      argumentsParts := state.argumentsParts ++ toolCall.arguments.toList }

/-- A function call item and the deltas of its arguments. -/
structure ToolCallRecord where
  callId : String
  name : String
  arguments : String
  argumentDeltas : List String
  deriving DecidableEq, Repr

def ToolCallRecord.item (record : ToolCallRecord) : OutputItem :=
  functionCallItem record.callId record.name record.arguments

def ToolCallParts.toRecord (index : Int) (state : ToolCallParts) : Option ToolCallRecord :=
  if orText state.id "" = "" ∧ orText state.name "" = "" ∧ state.argumentsParts = [] then none
  else
    some
      { callId := orText state.id ("call_proxy_" ++ toString index)
        name := orText state.name "tool"
        arguments := String.join state.argumentsParts
        argumentDeltas := state.argumentsParts }

def streamToolCallRecords (toolCallDeltas : OrderedDict Int ToolCallParts) : List ToolCallRecord :=
  (toolCallDeltas.keys.mergeSort (fun left right => decide (left ≤ right))).filterMap
    (fun index => (toolCallDeltas.get? index).bind (ToolCallParts.toRecord index))

structure Collected where
  model : String
  reasoningParts : List String
  textParts : List String
  toolCallDeltas : OrderedDict Int ToolCallParts
  usage : Option ResponseUsage

namespace Collected

def initial (requestModel : Option String) : Collected :=
  { model := orText requestModel "proxy-model"
    reasoningParts := []
    textParts := []
    toolCallDeltas := OrderedDict.empty
    usage := none }

def collect (collected : Collected) (chunk : ChatChunk) : Collected :=
  { model := orText chunk.model collected.model
    reasoningParts := collected.reasoningParts ++ chunk.delta.reasoningText.toList
    textParts := collected.textParts ++ chunk.delta.contentText.toList
    toolCallDeltas := chunk.delta.toolCalls.foldl accumulateToolCallDelta collected.toolCallDeltas
    usage :=
      match chunk.usage with
      | some usage => some (openaiUsageToResponseUsage (some usage))
      | none => collected.usage }

end Collected

inductive ResponseEvent where
  | created (response : ResponsePayload)
  | itemAdded (outputIndex : Nat) (item : OutputItem)
  | partAdded (itemId : String) (outputIndex contentIndex : Nat) (text : String)
  | textDelta (itemId : String) (outputIndex contentIndex : Nat) (delta : String)
  | textDone (itemId : String) (outputIndex contentIndex : Nat) (text : String)
  | partDone (itemId : String) (outputIndex contentIndex : Nat) (text : String)
  | argumentsDelta (itemId : String) (outputIndex : Nat) (delta : String)
  | argumentsDone (itemId : String) (outputIndex : Nat) (arguments : String) (item : OutputItem)
  | itemDone (outputIndex : Nat) (item : OutputItem)
  | completed (response : ResponsePayload)
  deriving DecidableEq, Repr

def ResponseEvent.outputIndex : ResponseEvent → Option Nat
  | .created _ => none
  | .itemAdded outputIndex _ => some outputIndex
  | .partAdded _ outputIndex _ _ => some outputIndex
  | .textDelta _ outputIndex _ _ => some outputIndex
  | .textDone _ outputIndex _ _ => some outputIndex
  | .partDone _ outputIndex _ _ => some outputIndex
  | .argumentsDelta _ outputIndex _ => some outputIndex
  | .argumentsDone _ outputIndex _ _ => some outputIndex
  | .itemDone outputIndex _ => some outputIndex
  | .completed _ => none

inductive StreamItem where
  | reasoning (text : String)
  | text (text : String)
  | functionCall (record : ToolCallRecord)
  deriving DecidableEq, Repr

def StreamItem.item : StreamItem → OutputItem
  | .reasoning written => reasoningItem written "rs_proxy_stream"
  | .text written => messageItem written "completed" "msg_proxy_stream"
  | .functionCall record => record.item

/-- `_openai_response_stream_reasoning_item_events`, `_openai_response_stream_text_item_events`
and `_openai_response_stream_function_call_item_events` -/
def StreamItem.events (outputIndex : Nat) : StreamItem → List ResponseEvent
  | .reasoning written =>
    let item := reasoningItem written "rs_proxy_stream"
    [.itemAdded outputIndex item, .itemDone outputIndex item]
  | .text written =>
    let itemId := "msg_proxy_stream"
    [.itemAdded outputIndex (messageItem "" "in_progress" itemId),
      .partAdded itemId outputIndex 0 ""] ++
      (if written ≠ "" then [.textDelta itemId outputIndex 0 written] else []) ++
      [.textDone itemId outputIndex 0 written, .partDone itemId outputIndex 0 written,
        .itemDone outputIndex (messageItem written "completed" itemId)]
  | .functionCall record =>
    let itemId := "fc_" ++ record.callId
    let deltas :=
      if record.argumentDeltas = [] ∧ record.arguments ≠ "" then [record.arguments]
      else record.argumentDeltas
    [.itemAdded outputIndex
      (.functionCall itemId record.callId record.name "" "in_progress")] ++
      deltas.map (fun delta => .argumentsDelta itemId outputIndex delta) ++
      [.argumentsDone itemId outputIndex record.arguments record.item,
        .itemDone outputIndex record.item]

theorem outputIndex_of_mem_events {outputIndex : Nat} {item : StreamItem} {event : ResponseEvent}
    (member : event ∈ item.events outputIndex) : event.outputIndex = some outputIndex := by
  cases item with
  | reasoning written =>
    simp only [StreamItem.events, mem_cons, not_mem_nil, or_false] at member
    rcases member with rfl | rfl <;> rfl
  | text written =>
    simp only [StreamItem.events, mem_append, mem_cons, not_mem_nil, or_false] at member
    rcases member with ((rfl | rfl) | present) | rfl | rfl | rfl
    · rfl
    · rfl
    · split at present
      · rw [mem_singleton.mp present]
        rfl
      · cases present
    · rfl
    · rfl
    · rfl
  | functionCall record =>
    simp only [StreamItem.events, mem_append, mem_cons, not_mem_nil, or_false,
      mem_map] at member
    rcases member with (rfl | ⟨delta, _, rfl⟩) | rfl | rfl <;> rfl

def Collected.items (collected : Collected) : List StreamItem :=
  let finalReasoning := String.join collected.reasoningParts
  let finalText := String.join collected.textParts
  let records := streamToolCallRecords collected.toolCallDeltas
  (if finalReasoning ≠ "" then [.reasoning finalReasoning] else []) ++
    (if finalText ≠ "" ∨ records = [] then [.text finalText] else []) ++
    records.map StreamItem.functionCall

def itemEvents (outputIndex : Nat) : List StreamItem → List ResponseEvent
  | [] => []
  | item :: rest => item.events outputIndex ++ itemEvents (outputIndex + 1) rest

theorem outputIndex_of_mem_itemEvents {outputIndex : Nat} {items : List StreamItem}
    {event : ResponseEvent} (member : event ∈ itemEvents outputIndex items) :
    ∃ index, outputIndex ≤ index ∧ event.outputIndex = some index := by
  induction items generalizing outputIndex with
  | nil => cases member
  | cons item rest ih =>
    rcases mem_append.mp member with here | later
    · exact ⟨outputIndex, Nat.le_refl _, outputIndex_of_mem_events here⟩
    · obtain ⟨index, above, isIndex⟩ := ih later
      exact ⟨index, Nat.le_of_succ_le above, isIndex⟩

def completedResponse (requestModel : Option String) (chunks : List ChatChunk) :
    ResponsePayload :=
  let collected := chunks.foldl Collected.collect (Collected.initial requestModel)
  { id := "resp_proxy_stream"
    status := "completed"
    model := collected.model
    output := collected.items.map StreamItem.item
    usage := some (collected.usage.getD (openaiUsageToResponseUsage none)) }

def responseEvents (requestModel : Option String) (chunks : List ChatChunk) : List ResponseEvent :=
  let collected := chunks.foldl Collected.collect (Collected.initial requestModel)
  .created
    { id := "resp_proxy_stream"
      status := "in_progress"
      model := orText requestModel "proxy-model"
      output := []
      usage := none } ::
    (itemEvents 0 collected.items ++ [.completed (completedResponse requestModel chunks)])

def completedOf : ResponseEvent → Option ResponsePayload
  | .completed response => some response
  | _ => none

theorem findSome_completedOf_responseEvents (requestModel : Option String)
    (chunks : List ChatChunk) :
    (responseEvents requestModel chunks).findSome? completedOf =
      some (completedResponse requestModel chunks) := by
  unfold responseEvents
  have none : ∀ event ∈ itemEvents 0
      (chunks.foldl Collected.collect (Collected.initial requestModel)).items,
      completedOf event = none := by
    intro event member
    obtain ⟨index, _, isIndex⟩ := outputIndex_of_mem_itemEvents member
    cases event with
    | completed response => cases isIndex
    | created _ | itemAdded _ _ | partAdded _ _ _ _ | textDelta _ _ _ _ | textDone _ _ _ _
    | partDone _ _ _ _ | argumentsDelta _ _ _ | argumentsDone _ _ _ _ | itemDone _ _ => rfl
  rw [findSome?_cons]
  simp only [completedOf]
  rw [findSome?_append, findSome?_eq_none_iff.mpr none]
  rfl

def OutputItem.complete : OutputItem → OutputItem
  | .reasoning id summary => .reasoning id summary
  | .message id _ content => .message id "completed" content
  | .functionCall id callId name arguments _ => .functionCall id callId name arguments "completed"

inductive ItemReader where
  | waiting
  | open (item : OutputItem)
  | done (item : OutputItem)
  deriving DecidableEq, Repr

def ItemReader.read : ItemReader → ResponseEvent → Option ItemReader
  | .waiting, .itemAdded _ item => some (.open item)
  | .open (.message id status content), .partAdded itemId _ contentIndex text =>
    if itemId = id ∧ contentIndex ≤ content.length then
      some (.open (.message id status
        (content.take contentIndex ++ [text] ++ content.drop (contentIndex + 1))))
    else none
  | .open (.message id status content), .textDelta itemId _ contentIndex delta =>
    if itemId = id ∧ contentIndex < content.length then
      some (.open (.message id status (content.modify contentIndex (· ++ delta))))
    else none
  | .open (.message id status content), .textDone itemId _ contentIndex text =>
    if itemId = id ∧ content[contentIndex]? = some text then
      some (.open (.message id status content))
    else none
  | .open (.message id status content), .partDone itemId _ contentIndex text =>
    if itemId = id ∧ content[contentIndex]? = some text then
      some (.open (.message id status content))
    else none
  | .open (.functionCall id callId name arguments status), .argumentsDelta itemId _ delta =>
    if itemId = id then some (.open (.functionCall id callId name (arguments ++ delta) status))
    else none
  | .open (.functionCall id callId name arguments status), .argumentsDone itemId _ total item =>
    if itemId = id ∧ total = arguments ∧
        item = (OutputItem.functionCall id callId name arguments status).complete then
      some (.open (.functionCall id callId name arguments status))
    else none
  | .open item, .itemDone _ final => if final = item.complete then some (.done final) else none
  | _, _ => none

def readItem (events : List ResponseEvent) : Option OutputItem :=
  match events.foldlM ItemReader.read ItemReader.waiting with
  | some (.done item) => some item
  | _ => none

end Dressage.Blackbox.Answers
