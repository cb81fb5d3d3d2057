/-
Streamed answers and plain answers.

A client of either protocol reads the same from the stream as from the plain answer, as long as
the first fragment of a tool call names it, and the tool calls are numbered in their order and
have ids.
-/

import Dressage.Blackbox.AnthropicBlocks
import Dressage.Blackbox.ResponsesItems

namespace Dressage.Blackbox.Answers

open Lib
open ProxyRequests (Json)

variable {Number : Type}

/-- A client reads the same from the stream as from the plain answer. -/
structure StreamsAs (loads : String → Option (Json Number)) (requestModel : Option String)
    (plain : ChatCompletion) (chunks : List ChatChunk) : Prop where
  anthropic : ∃ message, readAnthropic loads (anthropicEvents chunks) = some message ∧
    message.content.filter Block.nonEmpty =
      (openaiChatCompletionToAnthropicMessage loads plain).content.filter Block.nonEmpty ∧
    message.stopReason = (openaiChatCompletionToAnthropicMessage loads plain).stopReason
  responses : ∃ response,
    (responseEvents requestModel chunks).findSome? completedOf = some response ∧
    response.output.map OutputItem.withoutId =
      (chatCompletionToOpenaiResponse plain requestModel).output.map OutputItem.withoutId ∧
    ∀ index item, response.output[index]? = some item →
      readItem ((responseEvents requestModel chunks).filter
        (fun event => event.outputIndex = some index)) = some item

theorem streamed_answer_agrees {loads : String → Option (Json Number)} (empty : loads "" = none)
    {result : AssistantResult} (wellFormed : result.WellFormed loads) {chunks : List ChatChunk}
    (cutting : Cutting CutsCallNamedFirst result chunks) (model : String)
    (requestModel : Option String) (promptTokens completionTokens : Nat) :
    StreamsAs loads requestModel
      (openaiResponse model result.message result.finishReason promptTokens completionTokens)
      chunks :=
  { anthropic := readAnthropic_of_cutting empty wellFormed cutting
    responses := by
      refine ⟨completedResponse requestModel chunks,
        findSome_completedOf_responseEvents requestModel chunks, ?_, ?_⟩
      · exact completedOutput_of_cutting cutting (fun _ _ cuts => cuts.toCutsCall)
          wellFormed.indices wellFormed.identified requestModel
      · intro index item isItem
        exact readItem_responseEvents requestModel chunks isItem }

def loadsEmptyObject (text : String) : Option (Json Nat) :=
  if text = "\x7b\x7d" then some (.object []) else none

def lookupCall : ToolCall :=
  { index := 0
    id := "call_a"
    name := "lookup"
    arguments := "\x7b\x7d" }

def lookupAnswer : AssistantResult :=
  { content := some "Looking it up."
    reasoningContent := some "The index has it."
    toolCalls := [lookupCall]
    finishReason := "tool_calls" }

theorem lookupAnswer_wellFormed : lookupAnswer.WellFormed loadsEmptyObject := by
  have only : ∀ call ∈ lookupAnswer.toolCalls, call = lookupCall := fun call member =>
    List.mem_singleton.mp member
  constructor
  · intro index call isCall
    cases index with
    | zero =>
      rw [← Option.some_inj.mp isCall]
      rfl
    | succ index => cases isCall
  · intro call member
    rw [only call member]
    decide
  · intro call member
    rw [only call member]
    exact ⟨[], if_pos rfl⟩

theorem lookupAnswer_agrees :
    StreamsAs loadsEmptyObject none
      (openaiResponse "model" lookupAnswer.message "tool_calls" 7 5)
      (pseudoStreamChunks "model" lookupAnswer 7 5 true) :=
  streamed_answer_agrees (by decide) lookupAnswer_wellFormed
    (pseudoStreamCutting "model" lookupAnswer 7 5 true) "model" none 7 5

def Block.toolId? : Block Number → Option String
  | .toolUse id _ _ => some id
  | _ => none

theorem StreamsAs.toolIds {loads : String → Option (Json Number)} {requestModel : Option String}
    {plain : ChatCompletion} {chunks : List ChatChunk}
    (streams : StreamsAs loads requestModel plain chunks) :
    (readAnthropic loads (anthropicEvents chunks)).map
        (fun message => (message.content.filter Block.nonEmpty).filterMap Block.toolId?) =
      some (((openaiChatCompletionToAnthropicMessage loads plain).content.filter
        Block.nonEmpty).filterMap Block.toolId?) := by
  obtain ⟨message, read, same, _⟩ := streams.anthropic
  rw [read, Option.map_some, same]

def toolCallChunk (delta : ToolCallDelta) (reason : Option String) : ChatChunk :=
  { model := some "model"
    delta := { Delta.empty with toolCalls := [delta] }
    finishReason := reason
    usage := none }

def namedLate : List ChatChunk :=
  [toolCallChunk
      { index := some 0
        id := none
        type := none
        name := none
        arguments := some "\x7b\x7d" } none,
    toolCallChunk
      { index := some 0
        id := some "call_a"
        type := some "function"
        name := some "lookup"
        arguments := none } (some "tool_calls")]

def namedLateCutting : Cutting CutsCall
    { lookupAnswer with
      content := none
      reasoningContent := none } namedLate :=
  { before := namedLate.take 1
    last := namedLate[1]
    after := []
    reasoning := []
    text := []
    calls := [namedLate.flatMap (fun chunk => chunk.delta.toolCalls)]
    inOrder := rfl
    unfinished := by decide
    finished := rfl
    exhausted := nofun
    atoms := rfl
    reasoningJoined := rfl
    textJoined := rfl
    callsCut := by
      refine List.Forall₂.cons ?_ List.Forall₂.nil
      exact
        { index := by decide
          id := by decide
          name := by decide
          identified := by decide
          named := by decide
          arguments := by decide } }

def swappedAnswer : AssistantResult :=
  { content := none
    reasoningContent := none
    toolCalls :=
      [{ lookupCall with
          index := 1
          id := "call_b" },
        lookupCall]
    finishReason := "tool_calls" }

theorem output_swapped :
    (completedResponse none (pseudoStreamChunks "model" swappedAnswer 7 5 true)).output =
      [functionCallItem "call_a" "lookup" "\x7b\x7d",
        functionCallItem "call_b" "lookup" "\x7b\x7d"] := by
  have keys : ((pseudoStreamChunks "model" swappedAnswer 7 5 true).foldl Collected.collect
    (Collected.initial none)).toolCallDeltas.keys = [1, 0] := rfl
  have sorted : ([1, 0] : List Int).mergeSort (fun left right => decide (left ≤ right)) =
      [0, 1] := by
    simp [List.mergeSort, List.MergeSort.Internal.splitInTwo]
  unfold completedResponse Collected.items streamToolCallRecords
  simp only
  rw [keys, sorted]
  rfl

def anonymousAnswer : AssistantResult :=
  { content := none
    reasoningContent := none
    toolCalls := [{ lookupCall with id := "" }]
    finishReason := "tool_calls" }

/-- A late name, tool calls out of order, or an empty id, and the answers differ. -/
theorem other_cuttings_disagree :
    (¬ ∀ (loads : String → Option (Json Nat)) (result : AssistantResult)
        (chunks : List ChatChunk) (_ : Cutting CutsCall result chunks) (model : String)
        (requestModel : Option String) (promptTokens completionTokens : Nat),
      loads "" = none → result.WellFormed loads →
        StreamsAs loads requestModel
          (openaiResponse model result.message result.finishReason promptTokens completionTokens)
          chunks) ∧
    (¬ ∀ (loads : String → Option (Json Nat)) (result : AssistantResult)
        (chunks : List ChatChunk) (_ : Cutting CutsCallNamedFirst result chunks) (model : String)
        (requestModel : Option String) (promptTokens completionTokens : Nat),
      loads "" = none →
        (result.toolCalls.map ToolCall.index).Perm (List.range result.toolCalls.length) →
        (∀ call ∈ result.toolCalls, call.id ≠ "") →
        (∀ call ∈ result.toolCalls, ∃ entries, loads call.arguments = some (.object entries)) →
        StreamsAs loads requestModel
          (openaiResponse model result.message result.finishReason promptTokens completionTokens)
          chunks) ∧
    (¬ ∀ (loads : String → Option (Json Nat)) (result : AssistantResult)
        (chunks : List ChatChunk) (_ : Cutting CutsCallNamedFirst result chunks) (model : String)
        (requestModel : Option String) (promptTokens completionTokens : Nat),
      loads "" = none →
        (∀ (index : Nat) (call : ToolCall), result.toolCalls[index]? = some call →
          call.index = index) →
        (∀ call ∈ result.toolCalls, ∃ entries, loads call.arguments = some (.object entries)) →
        StreamsAs loads requestModel
          (openaiResponse model result.message result.finishReason promptTokens completionTokens)
          chunks) := by
  refine ⟨?_, ?_, ?_⟩
  · intro claimed
    have streams := claimed loadsEmptyObject _ namedLate namedLateCutting "model" none 7 5
      (by decide)
      { indices := lookupAnswer_wellFormed.indices
        identified := lookupAnswer_wellFormed.identified
        objects := lookupAnswer_wellFormed.objects }
    exact absurd streams.toolIds (by decide)
  · intro claimed
    have streams := claimed loadsEmptyObject swappedAnswer _
      (pseudoStreamCutting "model" swappedAnswer 7 5 true) "model" none 7 5 (by decide) (by decide)
      (by decide) (by
        intro call member
        refine ⟨[], ?_⟩
        rcases List.mem_cons.mp member with rfl | member
        · rfl
        · rw [List.mem_singleton.mp member]
          rfl)
    obtain ⟨response, completed, same, _⟩ := streams.responses
    rw [findSome_completedOf_responseEvents, Option.some_inj] at completed
    subst completed
    rw [output_swapped] at same
    exact absurd same (by decide)
  · intro claimed
    have streams := claimed loadsEmptyObject anonymousAnswer _
      (pseudoStreamCutting "model" anonymousAnswer 7 5 true) "model" none 7 5 (by decide)
      (by
        intro index call isCall
        cases index with
        | zero =>
          rw [← Option.some_inj.mp isCall]
          rfl
        | succ index => cases isCall)
      (by
        intro call member
        rw [List.mem_singleton.mp member]
        exact ⟨[], rfl⟩)
    exact absurd streams.toolIds (by decide)

end Dressage.Blackbox.Answers
