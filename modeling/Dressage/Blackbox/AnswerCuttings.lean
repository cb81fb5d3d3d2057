/-
Cutting an answer into chunks.

A cutting keeps the reasoning before the content, the content before the tool calls and
the fragments of one tool call together; otherwise the pieces may be of any size and fall
into the chunks in any way. The chunks of the Dressage proxy are one.
-/

import Dressage.Blackbox.ChatAnswers
import Dressage.Blackbox.ProxyRequests

namespace Dressage.Blackbox.Answers

open List

open ProxyRequests (Json)

variable {Number : Type}

/-- The tool calls have the indices 0 to n-1, an id, and a JSON object for arguments. -/
structure AssistantResult.WellFormed (loads : String → Option (Json Number))
    (result : AssistantResult) : Prop where
  indices : ∀ (index : Nat) (call : ToolCall), result.toolCalls[index]? = some call →
    call.index = index
  identified : ∀ call ∈ result.toolCalls, call.id ≠ ""
  objects : ∀ call ∈ result.toolCalls, ∃ entries, loads call.arguments = some (.object entries)

inductive Atom where
  | reasoning (piece : String)
  | text (piece : String)
  | toolCall (delta : ToolCallDelta)
  deriving DecidableEq, Repr

def ChatChunk.atoms (chunk : ChatChunk) : List Atom :=
  chunk.delta.reasoningText.toList.map Atom.reasoning ++
    (chunk.delta.contentText.toList.map Atom.text ++ chunk.delta.toolCalls.map Atom.toolCall)

structure CutsCall (call : ToolCall) (deltas : List ToolCallDelta) : Prop where
  index : ∀ delta ∈ deltas, delta.index.getD 0 = call.index
  id : ∀ delta ∈ deltas, delta.id = none ∨ delta.id = some call.id
  name : ∀ delta ∈ deltas, delta.name = none ∨ delta.name = some call.name
  identified : ∃ delta ∈ deltas, delta.id = some call.id
  named : ∃ delta ∈ deltas, delta.name = some call.name
  arguments : String.join (deltas.map (fun delta => delta.arguments.getD "")) = call.arguments

structure CutsCallNamedFirst (call : ToolCall) (deltas : List ToolCallDelta) : Prop
    extends CutsCall call deltas where
  first : ∀ delta, deltas.head? = some delta → delta.id = some call.id ∧ delta.name = some call.name

/-- The chunks of an answer: those up to the one with the finish reason, and others
without any piece. -/
structure Cutting (cuts : ToolCall → List ToolCallDelta → Prop) (result : AssistantResult)
    (chunks : List ChatChunk) where
  before : List ChatChunk
  last : ChatChunk
  after : List ChatChunk
  reasoning : List String
  text : List String
  calls : List (List ToolCallDelta)
  inOrder : chunks = before ++ last :: after
  unfinished : ∀ chunk ∈ before, chunk.finishReason = none
  finished : last.finishReason = some result.finishReason
  exhausted : ∀ chunk ∈ after, chunk.atoms = []
  atoms : (before ++ [last]).flatMap ChatChunk.atoms =
    reasoning.map Atom.reasoning ++ (text.map Atom.text ++ calls.flatten.map Atom.toolCall)
  reasoningJoined : String.join reasoning = result.reasoningContent.getD ""
  textJoined : String.join text = result.content.getD ""
  callsCut : List.Forall₂ cuts result.toolCalls calls

theorem join_slices (text : String) : String.join (slices text) = text := by
  have upTo : ∀ count : Nat, ((List.range count).map (fun slice =>
      String.ofList ((text.toList.drop (8 * slice)).take 8))).flatMap String.toList =
      text.toList.take (8 * count) := by
    intro count
    induction count with
    | zero => rfl
    | succ count ih =>
      rw [range_succ, map_append, flatMap_append, ih, Nat.mul_succ, take_add]
      simp
  apply String.toList_inj.mp
  rw [String.toList_join]
  unfold slices
  rw [upTo]
  apply take_of_length_le
  omega

theorem join_streamedText (text : Option String) :
    String.join (streamedText text) = text.getD "" := by
  unfold streamedText
  split
  · next text =>
      split
      · next empty =>
          rw [empty]
          rfl
      · exact join_slices text
  · rfl

theorem ne_of_mem_streamedText {text : Option String} {piece : String}
    (member : piece ∈ streamedText text) : piece ≠ "" := by
  unfold streamedText at member
  split at member
  · next text =>
      split at member
      · cases member
      · obtain ⟨slice, inRange, rfl⟩ := mem_map.mp member
        rw [mem_range] at inRange
        intro empty
        have none := congrArg (fun piece => piece.toList.length) empty
        simp only [String.toList_ofList, length_take, length_drop, String.toList_empty,
          length_nil] at none
        omega
  · cases member

theorem atoms_map {α : Type} {chunk : α → ChatChunk} {atom : α → Atom} {items : List α}
    (one : ∀ item ∈ items, (chunk item).atoms = [atom item]) :
    (items.map chunk).flatMap ChatChunk.atoms = items.map atom := by
  induction items with
  | nil => rfl
  | cons item rest ih =>
    rw [map_cons, flatMap_cons, one item mem_cons_self,
      ih (fun other member => one other (mem_cons_of_mem item member))]
    rfl

def ToolCall.delta (call : ToolCall) : ToolCallDelta :=
  { index := some call.index
    id := some call.id
    type := some "function"
    name := some call.name
    arguments := some call.arguments }

theorem indices_tail {call : ToolCall} {calls : List ToolCall} {first : Nat}
    (indices : ∀ (index : Nat) (other : ToolCall), (call :: calls)[index]? = some other →
      other.index = first + index) (index : Nat) (other : ToolCall)
    (isOther : calls[index]? = some other) : other.index = first + 1 + index := by
  have further := indices (index + 1) other isOther
  omega

theorem cutsCallNamedFirst_delta (call : ToolCall) : CutsCallNamedFirst call [call.delta] := by
  have only : ∀ delta ∈ [call.delta], delta = call.delta := fun delta member =>
    mem_singleton.mp member
  constructor
  · constructor
    · intro delta member
      rw [only delta member]
      rfl
    · intro delta member
      rw [only delta member]
      exact .inr rfl
    · intro delta member
      rw [only delta member]
      exact .inr rfl
    · exact ⟨call.delta, mem_singleton_self _, rfl⟩
    · exact ⟨call.delta, mem_singleton_self _, rfl⟩
    · simp [ToolCall.delta]
  · intro delta isHead
    rw [← Option.some_inj.mp isHead]
    exact ⟨rfl, rfl⟩

def pseudoStreamCutting (model : String) (result : AssistantResult)
    (promptTokens completionTokens : Nat) (includeUsage : Bool) :
    Cutting CutsCallNamedFirst result
      (pseudoStreamChunks model result promptTokens completionTokens includeUsage) :=
  let chunk (delta : Delta) (reason : Option String) : ChatChunk :=
    { model := some model
      delta := delta
      finishReason := reason
      usage := none }
  { before :=
      [chunk Delta.empty none] ++
        (streamedText result.reasoningContent).map
          (fun text => chunk { Delta.empty with reasoningContent := some text } none) ++
        (streamedText result.content).map
          (fun text => chunk { Delta.empty with content := some text } none) ++
        result.toolCalls.map (fun call => chunk { Delta.empty with toolCalls := [call.delta] } none)
    last := chunk Delta.empty (some result.finishReason)
    after :=
      if includeUsage then
        [{ model := some model
           delta := Delta.empty
           finishReason := none
           usage := some (usageOf promptTokens completionTokens) }]
      else []
    reasoning := streamedText result.reasoningContent
    text := streamedText result.content
    calls := result.toolCalls.map (fun call => [call.delta])
    inOrder := append_assoc _ _ _
    unfinished := by
      intro chunk member
      simp only [mem_append, mem_map, mem_singleton] at member
      rcases member with ((rfl | ⟨text, _, rfl⟩) | ⟨text, _, rfl⟩) | ⟨call, _, rfl⟩ <;> rfl
    finished := rfl
    exhausted := by
      intro chunk member
      split at member
      · rw [mem_singleton.mp member]
        rfl
      · cases member
    atoms := by
      have reasoned : ∀ text ∈ streamedText result.reasoningContent,
          (chunk { Delta.empty with reasoningContent := some text } none).atoms =
            [Atom.reasoning text] := by
        intro text member
        have present := ne_of_mem_streamedText member
        simp [chunk, ChatChunk.atoms, Delta.reasoningText, Delta.contentText, Delta.empty, orElse,
          present]
      have written : ∀ text ∈ streamedText result.content,
          (chunk { Delta.empty with content := some text } none).atoms = [Atom.text text] := by
        intro text member
        have present := ne_of_mem_streamedText member
        simp [chunk, ChatChunk.atoms, Delta.reasoningText, Delta.contentText, Delta.empty, orElse,
          present]
      have called : ∀ call ∈ result.toolCalls,
          (chunk { Delta.empty with toolCalls := [call.delta] } none).atoms =
            [Atom.toolCall call.delta] :=
        fun _ _ => rfl
      have flat : (result.toolCalls.map (fun call => [call.delta])).flatten =
          result.toolCalls.map ToolCall.delta := by
        induction result.toolCalls with
        | nil => rfl
        | cons call rest ih =>
          rw [map_cons, flatten_cons, ih]
          rfl
      rw [flatMap_append, flatMap_append, flatMap_append, flatMap_append,
        atoms_map reasoned, atoms_map written, atoms_map called, flat, map_map]
      simp [chunk, ChatChunk.atoms, Delta.reasoningText, Delta.contentText, Delta.empty, orElse]
    reasoningJoined := join_streamedText result.reasoningContent
    textJoined := join_streamedText result.content
    callsCut := by
      induction result.toolCalls with
      | nil => exact List.Forall₂.nil
      | cons call rest ih => exact List.Forall₂.cons (cutsCallNamedFirst_delta call) ih }

end Dressage.Blackbox.Answers
