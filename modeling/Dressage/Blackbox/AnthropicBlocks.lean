/-
The Anthropic stream of a cut answer.

The state machine's open block is the one that the client is reading. Pieces of one kind
extend it, a piece of another kind ends it, and every tool call has a block of its own;
so the client ends up with the blocks of the whole answer, however it was cut.
-/

import Dressage.Blackbox.AnthropicAnswers
import Dressage.Blackbox.AnswerCuttings

namespace Dressage.Blackbox.Answers

open Lib List Option AnthropicStreamState
open ProxyRequests (Json)

variable {Number : Type}

def emitAtom (state : AnthropicStreamState) : Atom → Written
  | .reasoning piece => emitThinking state piece
  | .text piece => emitText state piece
  | .toolCall delta => state.emitToolCallDelta delta

variable {α : Type} {toolIndex : Int} {loads : String → Option (Json Number)}

theorem emitAll_append (emit : AnthropicStreamState → α → Written) (state : AnthropicStreamState)
    (first second : List α) :
    emitAll emit state (first ++ second) =
      ((emitAll emit (emitAll emit state first).1 second).1,
        (emitAll emit state first).2 ++ (emitAll emit (emitAll emit state first).1 second).2) := by
  induction first generalizing state with
  | nil => rfl
  | cons item rest ih =>
    simp only [cons_append, emitAll, ih, append_assoc]

theorem emitAll_map {β : Type} (emit : AnthropicStreamState → β → Written) (atom : α → β)
    (state : AnthropicStreamState) (items : List α) :
    emitAll emit state (items.map atom) =
      emitAll (fun state item => emit state (atom item)) state items := by
  induction items generalizing state with
  | nil => rfl
  | cons item rest ih => simp only [map_cons, emitAll, ih]

theorem emitDelta_eq (state : AnthropicStreamState) (chunk : ChatChunk) :
    emitDelta state chunk = emitAll emitAtom state chunk.atoms := by
  unfold emitDelta ChatChunk.atoms
  simp only [emitAll_append, emitAll_map]
  rfl

theorem emitChunks_cut {before : List ChatChunk} {last : ChatChunk} {reason : String}
    (unfinished : ∀ chunk ∈ before, chunk.finishReason = none)
    (finished : last.finishReason = some reason) (after : List ChatChunk)
    (state : AnthropicStreamState) :
    emitChunks state (before ++ last :: after) =
      (emitAll emitAtom state ((before ++ [last]).flatMap ChatChunk.atoms)).2 ++
        ((emitAll emitAtom state ((before ++ [last]).flatMap ChatChunk.atoms)).1.finish
          (openaiFinishReasonToAnthropic (some reason))
          (some (openaiUsageToAnthropicUsage last.usage))).2 := by
  induction before generalizing state with
  | nil =>
    simp only [nil_append, flatMap_cons, flatMap_nil, append_nil]
    unfold emitChunks
    rw [finished, emitDelta_eq]
  | cons chunk rest ih =>
    rw [cons_append, cons_append, flatMap_cons, emitAll_append]
    unfold emitChunks
    rw [unfinished chunk mem_cons_self, emitDelta_eq]
    simp only
    rw [ih (fun other member => unfinished other (mem_cons_of_mem chunk member)), append_assoc]

def MessageDraft.all (draft : MessageDraft) : List PartialBlock :=
  draft.blocks ++ draft.current.toList

structure Tracks (state : AnthropicStreamState) (draft : MessageDraft) : Prop where
  index : state.activeBlockIndex = draft.current.map (fun _ => draft.blocks.length)
  next : state.nextIndex = draft.all.length
  idle : draft.current = none → state.activeBlockType = none

structure Reaches (written : Written) (draft : MessageDraft) (state : AnthropicStreamState)
    (after : MessageDraft) : Prop where
  state : written.1 = state
  read : written.2.foldlM MessageReader.read (.reading draft) = some (.reading after)

variable {state middle next : AnthropicStreamState} {draft during after : MessageDraft}

theorem Reaches.nothing (state : AnthropicStreamState) (draft : MessageDraft) :
    Reaches (state, []) draft state draft :=
  ⟨rfl, rfl⟩

theorem Reaches.andThen {written : Written} (reaches : Reaches written draft middle during)
    {event : AnthropicEvent}
    (reads : MessageReader.read (.reading during) event = some (.reading after)) :
    Reaches (next, written.2 ++ [event]) draft next after := by
  refine ⟨rfl, ?_⟩
  rw [foldlM_append, reaches.read]
  simp only [bind_eq_bind, bind_some, foldlM_cons, foldlM_nil]
  rw [reads]
  rfl

theorem Reaches.trans {first second : Written} (one : Reaches first draft middle during)
    (two : Reaches second during next after) :
    Reaches (second.1, first.2 ++ second.2) draft next after := by
  refine ⟨two.state, ?_⟩
  rw [foldlM_append, one.read]
  exact two.read

theorem Reaches.append {emit : AnthropicStreamState → α → Written} {first second : List α}
    (one : Reaches (emitAll emit state first) draft middle during)
    (two : Reaches (emitAll emit middle second) during next after) :
    Reaches (emitAll emit state (first ++ second)) draft next after := by
  rw [emitAll_append, one.state]
  exact one.trans two

theorem Reaches.cons {α : Type} {emit : AnthropicStreamState → α → Written} {item : α}
    {rest : List α} (one : Reaches (emit state item) draft middle during)
    (two : Reaches (emitAll emit middle rest) during next after) :
    Reaches (emitAll emit state (item :: rest)) draft next after := by
  unfold emitAll
  simp only
  rw [one.state]
  exact one.trans two

def MessageDraft.closed (draft : MessageDraft) : MessageDraft :=
  { draft with
    blocks := draft.all
    current := none }

theorem Tracks.stopActiveBlock (tracks : Tracks state draft) :
    Reaches state.stopActiveBlock draft state.stopActiveBlock.1 draft.closed ∧
      Tracks state.stopActiveBlock.1 draft.closed := by
  unfold AnthropicStreamState.stopActiveBlock MessageDraft.closed MessageDraft.all
  cases current : draft.current with
  | none =>
    have index := tracks.index
    rw [current, map_none] at index
    rw [index]
    simp only
    have same : draft =
        { draft with
          blocks := draft.blocks ++ []
          current := none } := by
      rw [append_nil, ← current]
    refine ⟨⟨rfl, congrArg (fun draft => some (MessageReader.reading draft)) same⟩,
      ⟨index, ?_, fun _ => tracks.idle current⟩⟩
    · have next := tracks.next
      unfold MessageDraft.all at next ⊢
      rw [current] at next
      simpa using next
  | some block =>
    have index := tracks.index
    rw [current, map_some] at index
    rw [index]
    simp only
    refine ⟨⟨rfl, ?_⟩, ⟨rfl, ?_, fun _ => rfl⟩⟩
    · simp [MessageReader.read, current]
    · have next := tracks.next
      unfold MessageDraft.all at next ⊢
      rw [current] at next
      simpa using next

def MessageDraft.opened (draft : MessageDraft) (block : PartialBlock) : MessageDraft :=
  { draft with
    blocks := draft.all
    current := some block }

theorem Tracks.startBlock (tracks : Tracks state draft) (type : BlockType) (block : BlockStart) :
    Reaches (state.startBlock type block) draft (state.startBlock type block).1
        (draft.opened (PartialBlock.started block)) ∧
      Tracks (state.startBlock type block).1 (draft.opened (PartialBlock.started block)) := by
  obtain ⟨stops, stopped⟩ := tracks.stopActiveBlock
  have length : state.stopActiveBlock.1.nextIndex = draft.all.length := by
    have next := stopped.next
    simpa [MessageDraft.closed, MessageDraft.all] using next
  refine ⟨stops.andThen ?_, ?_⟩
  · rw [length]
    simp [MessageReader.read, MessageDraft.closed, MessageDraft.opened]
  · constructor
    · change some state.stopActiveBlock.1.nextIndex = some draft.all.length
      rw [length]
    · change state.stopActiveBlock.1.nextIndex + 1 = (draft.all ++ [_]).length
      rw [length, length_append]
      rfl
    · exact nofun

def MessageDraft.extended (draft : MessageDraft) (block : PartialBlock) : MessageDraft :=
  { draft with current := some block }

theorem Tracks.extended {current block : PartialBlock} (tracks : Tracks state draft)
    (isCurrent : draft.current = some current) : Tracks state (draft.extended block) := by
  constructor
  · rw [tracks.index, isCurrent]
    rfl
  · rw [tracks.next]
    unfold MessageDraft.all
    rw [isCurrent, length_append, length_append]
    rfl
  · exact nofun

theorem Tracks.reads_delta {current block : PartialBlock} {delta : BlockDelta}
    (isCurrent : draft.current = some current) (grows : current.extend delta = some block) :
    MessageReader.read (.reading draft) (.contentBlockDelta draft.blocks.length delta) =
      some (.reading (draft.extended block)) := by
  simp [MessageReader.read, isCurrent, grows, MessageDraft.extended]

/-- A kind of block whose deltas are pieces of its text. -/
structure TextLike (block : BlockStart) (delta : String → BlockDelta)
    (written : String → PartialBlock) : Prop where
  started : PartialBlock.started block = written ""
  grows : ∀ text piece, (written text).extend (delta piece) = some (written (text ++ piece))

theorem textLike_thinking : TextLike .thinking .thinking .thinking :=
  { started := rfl
    grows := fun _ _ => rfl }

theorem textLike_text : TextLike .text .text .text :=
  { started := rfl
    grows := fun _ _ => rfl }

structure Grown (state : AnthropicStreamState) (draft : MessageDraft)
    (next : AnthropicStreamState) (after : MessageDraft) (blocks : List PartialBlock) : Prop where
  tracks : Tracks next after
  all : after.all = draft.all ++ blocks
  finished : next.finished = state.finished

theorem startBlock_keeps (state : AnthropicStreamState) (type : BlockType) (block : BlockStart) :
    (state.startBlock type block).1.toolCallBlocks = state.toolCallBlocks ∧
      (state.startBlock type block).1.finished = state.finished := by
  unfold startBlock stopActiveBlock
  simp only
  split <;> exact ⟨rfl, rfl⟩

section TextLike

variable {type : BlockType} {block : BlockStart} {delta : String → BlockDelta}
  {written : String → PartialBlock}

theorem Tracks.emitAll_open (like : TextLike block delta written) (tracks : Tracks state draft)
    (active : state.activeBlockType = some type) {text : String}
    (isCurrent : draft.current = some (written text)) (pieces : List String) :
    Reaches (emitAll (emitTextLikeBlock type block delta) state pieces) draft
        state (draft.extended (written (text ++ String.join pieces))) ∧
      Tracks state (draft.extended (written (text ++ String.join pieces))) := by
  refine ⟨?_, tracks.extended isCurrent⟩
  induction pieces generalizing draft text with
  | nil =>
    have same : draft.extended (written (text ++ String.join [])) = draft := by
      rw [String.join_nil, String.append_empty]
      unfold MessageDraft.extended
      rw [← isCurrent]
    rw [same]
    exact Reaches.nothing state draft
  | cons piece rest ih =>
    have grows := like.grows text piece
    have next : Tracks state (draft.extended (written (text ++ piece))) :=
      tracks.extended isCurrent
    have one : Reaches (state.emitTextLikeBlock type block delta piece) draft state
        (draft.extended (written (text ++ piece))) := by
      have index := tracks.index
      rw [isCurrent, map_some] at index
      unfold emitTextLikeBlock
      rw [if_pos active]
      simp only
      rw [index]
      exact (Reaches.nothing state draft).andThen (Tracks.reads_delta isCurrent grows)
    have others := ih next rfl
    rw [String.join_cons, ← String.append_assoc]
    exact one.cons others

def blocksOf (written : String → PartialBlock) (pieces : List String) : List PartialBlock :=
  if pieces = [] then [] else [written (String.join pieces)]

theorem Tracks.emitAll_textLike (like : TextLike block delta written) (tracks : Tracks state draft)
    (elsewhere : state.activeBlockType ≠ some type) (pieces : List String) :
    ∃ next after,
      Reaches (emitAll (emitTextLikeBlock type block delta) state pieces)
        draft next after ∧
      Grown state draft next after (blocksOf written pieces) ∧
      next.toolCallBlocks = state.toolCallBlocks ∧
      (next.activeBlockType = state.activeBlockType ∨ next.activeBlockType = some type) := by
  cases pieces with
  | nil =>
    refine ⟨state, draft, Reaches.nothing state draft, ?_, rfl, .inl rfl⟩
    exact
      { tracks := tracks
        all := (append_nil _).symm
        finished := rfl }
  | cons piece rest =>
    obtain ⟨starts, started⟩ := tracks.startBlock type block
    rw [like.started] at starts started
    have grows := like.grows "" piece
    rw [String.empty_append] at grows
    have one : Reaches (state.emitTextLikeBlock type block delta piece) draft
        (state.startBlock type block).1 (draft.opened (written piece)) := by
      have index := started.index
      unfold emitTextLikeBlock
      rw [if_neg elsewhere]
      simp only
      rw [index]
      exact starts.andThen (Tracks.reads_delta rfl grows)
    have grown : Tracks (state.startBlock type block).1 (draft.opened (written piece)) :=
      started.extended rfl
    obtain ⟨others, final⟩ := grown.emitAll_open like rfl rfl rest
    obtain ⟨toolCallBlocks, finished⟩ := startBlock_keeps state type block
    refine ⟨_, _, one.cons others, ?_, toolCallBlocks, .inr rfl⟩
    exact
      { tracks := final
        all := by
          unfold blocksOf
          rw [if_neg (cons_ne_nil _ _), String.join_cons]
          rfl
        finished := finished }

end TextLike

def ToolCall.block (call : ToolCall) : PartialBlock :=
  .toolUse call.id (orText (some call.name) "tool") call.arguments

def AnthropicStreamState.startToolCall (state : AnthropicStreamState) (toolIndex : Int)
    (id name : String) : Written :=
  let written := state.startBlock (.toolUse toolIndex) (.toolUse id name)
  ({ written.1 with toolCallBlocks := state.toolCallBlocks.set toolIndex state.nextIndex },
    written.2)

theorem emitToolCallDelta_of_fresh {toolCall : ToolCallDelta}
    (isIndex : toolCall.index.getD 0 = toolIndex)
    (fresh : state.toolCallBlocks.get? toolIndex = none) {started : Written}
    (starts : state.startToolCall toolIndex (orText toolCall.id ("toolu_" ++ toString toolIndex))
      (orText toolCall.name "tool") = started) :
    state.emitToolCallDelta toolCall =
      ((started.1.emitToolCallDelta toolCall).1,
        started.2 ++ (started.1.emitToolCallDelta toolCall).2) := by
  subst isIndex starts
  unfold emitToolCallDelta startToolCall
  simp only [fresh, OrderedDict.get?_set_self]
  cases toolCall.arguments.filter (· ≠ "") with
  | none => simp
  | some partialJson => simp

theorem Tracks.emitToolCallDelta_open {toolCall : ToolCallDelta}
    (isIndex : toolCall.index.getD 0 = toolIndex) {id name text : String}
    (isCurrent : draft.current = some (.toolUse id name text))
    (known : state.toolCallBlocks.get? toolIndex = some draft.blocks.length) :
    Reaches (state.emitToolCallDelta toolCall) draft state
      (draft.extended (.toolUse id name (text ++ toolCall.arguments.getD ""))) := by
  subst isIndex
  have unchanged : draft.extended (.toolUse id name text) = draft := by
    unfold MessageDraft.extended
    rw [← isCurrent]
  unfold emitToolCallDelta
  simp only [known]
  cases arguments : toolCall.arguments with
  | none =>
    rw [getD_none, String.append_empty, unchanged]
    exact Reaches.nothing state draft
  | some more =>
    rw [getD_some]
    by_cases present : more = ""
    · rw [present, String.append_empty, unchanged]
      exact Reaches.nothing state draft
    · simp only [filter_some, present, ne_eq, not_false_eq_true, decide_true, if_true]
      exact (Reaches.nothing state draft).andThen (Tracks.reads_delta isCurrent rfl)

section

variable (tracks : Tracks state draft)
include tracks

theorem Tracks.startToolCall (toolIndex : Int) (id name : String) :
    Reaches (state.startToolCall toolIndex id name) draft (state.startToolCall toolIndex id name).1
        (draft.opened (.toolUse id name "")) ∧
      Tracks (state.startToolCall toolIndex id name).1 (draft.opened (.toolUse id name "")) ∧
      (state.startToolCall toolIndex id name).1.toolCallBlocks =
        state.toolCallBlocks.set toolIndex draft.all.length ∧
      (state.startToolCall toolIndex id name).1.finished = state.finished := by
  obtain ⟨starts, started⟩ := tracks.startBlock (.toolUse toolIndex) (.toolUse id name)
  have finished := (startBlock_keeps state (.toolUse toolIndex) (.toolUse id name)).2
  refine ⟨⟨rfl, starts.read⟩, ?_, ?_, finished⟩
  · exact
      { index := started.index
        next := started.next
        idle := started.idle }
  · change state.toolCallBlocks.set toolIndex state.nextIndex = _
    rw [tracks.next]

theorem Tracks.emitAll_call_open {deltas : List ToolCallDelta}
    (indices : ∀ delta ∈ deltas, delta.index.getD 0 = toolIndex) {id name text : String}
    (isCurrent : draft.current = some (.toolUse id name text))
    (known : state.toolCallBlocks.get? toolIndex = some draft.blocks.length) :
    Reaches (emitAll emitToolCallDelta state deltas) draft state
      (draft.extended (.toolUse id name
        (text ++ String.join (deltas.map (fun delta => delta.arguments.getD ""))))) := by
  induction deltas generalizing draft text with
  | nil =>
    have same : draft.extended (.toolUse id name (text ++ String.join [])) = draft := by
      rw [String.join_nil, String.append_empty]
      unfold MessageDraft.extended
      rw [← isCurrent]
    rw [map_nil, same]
    exact Reaches.nothing state draft
  | cons delta rest ih =>
    have one := Tracks.emitToolCallDelta_open (indices delta mem_cons_self) isCurrent known
    have grown : Tracks state
        (draft.extended (.toolUse id name (text ++ delta.arguments.getD ""))) :=
      tracks.extended isCurrent
    have others := ih grown
      (fun other member => indices other (mem_cons_of_mem delta member)) rfl known
    rw [map_cons, String.join_cons, ← String.append_assoc]
    exact one.cons others

theorem Tracks.emitAll_call {call : ToolCall} {deltas : List ToolCallDelta}
    (cuts : CutsCallNamedFirst call deltas) (present : call.id ≠ "")
    (fresh : state.toolCallBlocks.get? call.index = none) :
    ∃ next after, Reaches (emitAll emitToolCallDelta state deltas) draft next
        after ∧
      Grown state draft next after [call.block] ∧
      next.toolCallBlocks = state.toolCallBlocks.set call.index draft.all.length := by
  cases deltas with
  | nil =>
    obtain ⟨_, member, _⟩ := cuts.identified
    cases member
  | cons first rest =>
    obtain ⟨identified, named⟩ := cuts.first first rfl
    have isIndex := cuts.index first mem_cons_self
    obtain ⟨starts, started, toolCallBlocks, finished⟩ := tracks.startToolCall call.index
      (orText first.id ("toolu_" ++ toString (call.index : Int))) (orText first.name "tool")
    generalize isStarted : state.startToolCall call.index
      (orText first.id ("toolu_" ++ toString (call.index : Int))) (orText first.name "tool") =
        written at starts started toolCallBlocks finished
    have known : written.1.toolCallBlocks.get? call.index = some draft.all.length := by
      rw [toolCallBlocks, OrderedDict.get?_set_self]
    have whole := started.emitAll_call_open cuts.index rfl known
    rw [cuts.arguments, String.empty_append] at whole
    have reaches := starts.trans whole
    have unfolded : (emitAll emitToolCallDelta state (first :: rest)) =
        ((emitAll emitToolCallDelta written.1 (first :: rest)).1,
          written.2 ++
            (emitAll emitToolCallDelta written.1 (first :: rest)).2) := by
      simp only [emitAll]
      rw [emitToolCallDelta_of_fresh isIndex fresh isStarted, append_assoc]
    refine ⟨_, _, unfolded ▸ reaches, ?_, toolCallBlocks⟩
    exact
      { tracks := started.extended rfl
        all := by
          unfold ToolCall.block
          rw [identified, named, orText_some present]
          rfl
        finished := finished }

theorem Tracks.emitAll_calls {toolCalls : List ToolCall} {calls : List (List ToolCallDelta)}
    (cuts : List.Forall₂ CutsCallNamedFirst toolCalls calls) {first : Nat}
    (indices : ∀ (index : Nat) (call : ToolCall), toolCalls[index]? = some call →
      call.index = first + index) (identified : ∀ call ∈ toolCalls, call.id ≠ "")
    (fresh : ∀ index : Nat, first ≤ index → state.toolCallBlocks.get? index = none) :
    ∃ next after, Reaches (emitAll emitToolCallDelta state calls.flatten) draft
        next after ∧
      Grown state draft next after (toolCalls.map ToolCall.block) := by
  induction cuts generalizing state draft first with
  | nil =>
    refine ⟨state, draft, Reaches.nothing state draft, ?_⟩
    exact
      { tracks := tracks
        all := (append_nil _).symm
        finished := rfl }
  | @cons call deltas otherCalls others cut _ ih =>
    have isFirst : call.index = first := indices 0 call rfl
    obtain ⟨middle, during, one, grown, toolCallBlocks⟩ := tracks.emitAll_call cut
      (identified call mem_cons_self) (fresh call.index (Nat.le_of_eq isFirst.symm))
    have freshAfter : ∀ index : Nat, first + 1 ≤ index →
        middle.toolCallBlocks.get? index = none := by
      intro index above
      have other : (index : Int) ≠ (call.index : Int) := by omega
      rw [toolCallBlocks, OrderedDict.get?_set_of_ne _ _ other]
      exact fresh index (Nat.le_of_succ_le above)
    obtain ⟨next, after, two, final⟩ := ih grown.tracks (indices_tail indices)
      (fun other member => identified other (mem_cons_of_mem call member)) freshAfter
    refine ⟨next, after, one.append two, ?_⟩
    exact
      { tracks := final.tracks
        all := by
          rw [final.all, grown.all, map_cons, append_assoc]
          rfl
        finished := final.finished.trans grown.finished }

end

def MessageDraft.begun : MessageDraft :=
  { model := "proxy-model"
    inputTokens := 0
    blocks := []
    current := none }

theorem MessageReader.read_messageStart :
    MessageReader.read .waiting (.messageStart "proxy-model" (openaiUsageToAnthropicUsage none)) =
      some (.reading .begun) := rfl

theorem Tracks.finish (tracks : Tracks state draft) (unfinished : state.finished = false)
    (stopReason : String) (usage : Option AnthropicUsage) :
    (state.finish stopReason usage).2.foldlM MessageReader.read (.reading draft) =
      some (.ended draft.closed stopReason ((usage.map AnthropicUsage.outputTokens).getD 0)) := by
  obtain ⟨stops, _⟩ := tracks.stopActiveBlock
  unfold AnthropicStreamState.finish
  rw [unfinished]
  simp only [Bool.false_eq_true, if_false]
  rw [foldlM_append, stops.read]
  rfl

def resultBlocks (reasoning text : List String) (toolCalls : List ToolCall) : List PartialBlock :=
  blocksOf .thinking reasoning ++ (blocksOf .text text ++ toolCalls.map ToolCall.block)

theorem emitAll_pieces {result : AssistantResult} (wellFormed : result.WellFormed loads)
    {chunks : List ChatChunk} (cutting : Cutting CutsCallNamedFirst result chunks) :
    ∃ next after, Reaches (emitAll emitAtom initial
        ((cutting.before ++ [cutting.last]).flatMap ChatChunk.atoms)) .begun next after ∧
      Grown initial .begun next after
        (resultBlocks cutting.reasoning cutting.text result.toolCalls) := by
  have tracks : Tracks initial .begun :=
    { index := rfl
      next := rfl
      idle := fun _ => rfl }
  have notThinking : initial.activeBlockType ≠ some .thinking := nofun
  obtain ⟨thought, afterThought, thinks, grownThinking, noBlocks, activeThinking⟩ :=
    tracks.emitAll_textLike textLike_thinking notThinking cutting.reasoning
  have elsewhere : thought.activeBlockType ≠ some .text := by
    rcases activeThinking with active | active
    · rw [active]
      exact nofun
    · rw [active]
      exact nofun
  obtain ⟨written, afterText, writes, grownText, stillNoBlocks, _⟩ :=
    grownThinking.tracks.emitAll_textLike textLike_text elsewhere cutting.text
  have fresh : ∀ index : Nat, 0 ≤ index → written.toolCallBlocks.get? index = none := by
    intro index _
    rw [stillNoBlocks, noBlocks]
    rfl
  obtain ⟨next, after, calls, grownCalls⟩ := grownText.tracks.emitAll_calls cutting.callsCut
    (fun index call isCall => (wellFormed.indices index call isCall).trans (Nat.zero_add index).symm)
    wellFormed.identified fresh
  refine ⟨next, after, ?_, ?_⟩
  · have first : Reaches (emitAll emitAtom initial
        (cutting.reasoning.map Atom.reasoning)) .begun thought afterThought := by
      rw [emitAll_map]
      exact thinks
    have second : Reaches (emitAll emitAtom thought (cutting.text.map Atom.text)) afterThought
        written afterText := by
      rw [emitAll_map]
      exact writes
    have third : Reaches (emitAll emitAtom written (cutting.calls.flatten.map Atom.toolCall))
        afterText next after := by
      rw [emitAll_map]
      exact calls
    rw [cutting.atoms]
    exact first.append (second.append third)
  · exact
      { tracks := grownCalls.tracks
        all := by
          rw [grownCalls.all, grownText.all, grownThinking.all]
          simp only [resultBlocks, append_assoc]
        finished := grownCalls.finished.trans (grownText.finished.trans grownThinking.finished) }

def Block.nonEmpty : Block Number → Bool
  | .thinking written => decide (written ≠ "")
  | .text written => decide (written ≠ "")
  | .toolUse _ _ _ => true

theorem mapM_append_some {β : Type} {complete : α → Option β} {first second : List α}
    {firstRead secondRead : List β} (one : first.mapM complete = some firstRead)
    (two : second.mapM complete = some secondRead) :
    (first ++ second).mapM complete = some (firstRead ++ secondRead) := by
  rw [mapM_append, one, two]
  rfl

theorem mapM_complete_blocksOf (loads : String → Option (Json Number))
    (written : String → PartialBlock) (block : String → Block Number)
    (completes : ∀ text, (written text).complete loads = some (block text))
    (nonEmpty : ∀ text, (block text).nonEmpty = decide (text ≠ "")) {text : Option String}
    {pieces : List String} (joined : String.join pieces = text.getD "") :
    ∃ blocks, (blocksOf written pieces).mapM (PartialBlock.complete loads) = some blocks ∧
      blocks.filter Block.nonEmpty = (text.filter (· ≠ "")).toList.map block := by
  have plain : (text.filter (· ≠ "")).toList.map block =
      [block (text.getD "")].filter Block.nonEmpty := by
    cases text with
    | none => simp [nonEmpty]
    | some text =>
      by_cases empty : text = ""
      · simp [empty, nonEmpty]
      · simp [empty, nonEmpty]
  rw [plain, ← joined]
  unfold blocksOf
  split
  · next none =>
      refine ⟨[], rfl, ?_⟩
      rw [none, String.join_nil]
      simp [nonEmpty]
  · refine ⟨[block (String.join pieces)], ?_, rfl⟩
    rw [mapM_cons, completes]
    rfl

theorem mapM_complete_toolCalls (empty : loads "" = none) {toolCalls : List ToolCall}
    (identified : ∀ call ∈ toolCalls, call.id ≠ "")
    (objects : ∀ call ∈ toolCalls, ∃ entries, loads call.arguments = some (.object entries)) :
    (toolCalls.map ToolCall.block).mapM (PartialBlock.complete loads) =
      some (toolCalls.map (fun call =>
        Block.toolUse (orText (some call.id) "toolu_proxy") (orText (some call.name) "tool")
          (toolInput loads (some call.arguments)))) := by
  induction toolCalls with
  | nil => rfl
  | cons call rest ih =>
    have others := ih (fun other member => identified other (mem_cons_of_mem call member))
      (fun other member => objects other (mem_cons_of_mem call member))
    obtain ⟨entries, loaded⟩ := objects call mem_cons_self
    have present : call.arguments ≠ "" := by
      intro noArguments
      rw [noArguments, empty] at loaded
      cases loaded
    have input : toolInput loads (some call.arguments) = .object entries := by
      unfold toolInput
      simp only [loaded, getD_some]
    have completes : call.block.complete loads =
        some (.toolUse call.id (orText (some call.name) "tool") (.object entries)) := by
      unfold ToolCall.block PartialBlock.complete
      simp only
      rw [if_neg present, loaded]
      rfl
    rw [map_cons, mapM_cons, completes, others, map_cons,
      orText_some (identified call mem_cons_self), input]
    rfl

theorem orElse_none_filter (text : Option String) :
    (orElse text none).filter (· ≠ "") = text.filter (· ≠ "") := by
  cases text with
  | none => rfl
  | some text =>
    by_cases empty : text = ""
    · rw [empty]
      rfl
    · simp [orElse, empty]

theorem nonEmpty_of_mem_map {block : String → Block Number}
    (nonEmpty : ∀ text, (block text).nonEmpty = decide (text ≠ "")) {text : Option String}
    {member : Block Number} (isMember : member ∈ (text.filter (· ≠ "")).toList.map block) :
    member.nonEmpty = true := by
  obtain ⟨piece, kept, rfl⟩ := List.mem_map.mp isMember
  rw [mem_toList, filter_eq_some_iff] at kept
  rw [nonEmpty]
  exact kept.2

theorem filter_openaiMessageToAnthropicContent (loads : String → Option (Json Number))
    (result : AssistantResult) :
    (openaiMessageToAnthropicContent loads result.message).filter Block.nonEmpty =
      (result.reasoningContent.filter (· ≠ "")).toList.map Block.thinking ++
        (result.content.filter (· ≠ "")).toList.map Block.text ++
          result.toolCalls.map (fun call =>
            Block.toolUse (orText (some call.id) "toolu_proxy") (orText (some call.name) "tool")
              (toolInput loads (some call.arguments))) := by
  unfold openaiMessageToAnthropicContent AssistantResult.message
  simp only [orElse_none_filter, List.map_map]
  split
  · next none =>
      rw [List.isEmpty_iff] at none
      exact none.symm
  · apply filter_eq_self.mpr
    intro member isMember
    rcases mem_append.mp isMember with isMember | isMember
    · rcases mem_append.mp isMember with isMember | isMember
      · exact nonEmpty_of_mem_map (fun _ => rfl) isMember
      · exact nonEmpty_of_mem_map (fun _ => rfl) isMember
    · obtain ⟨call, _, rfl⟩ := List.mem_map.mp isMember
      rfl

theorem readAnthropic_of_cutting (empty : loads "" = none) {result : AssistantResult}
    (wellFormed : result.WellFormed loads) {chunks : List ChatChunk}
    (cutting : Cutting CutsCallNamedFirst result chunks) :
    ∃ message, readAnthropic loads (anthropicEvents chunks) = some message ∧
      message.content.filter Block.nonEmpty =
        (openaiMessageToAnthropicContent loads result.message).filter Block.nonEmpty ∧
      message.stopReason = openaiFinishReasonToAnthropic (some result.finishReason) := by
  obtain ⟨next, after, reaches, grown⟩ := emitAll_pieces wellFormed cutting
  obtain ⟨reasoning, readReasoning, sameReasoning⟩ := mapM_complete_blocksOf loads
    PartialBlock.thinking Block.thinking (fun _ => rfl) (fun _ => rfl) cutting.reasoningJoined
  obtain ⟨text, readText, sameText⟩ := mapM_complete_blocksOf loads
    PartialBlock.text Block.text (fun _ => rfl) (fun _ => rfl) cutting.textJoined
  have calls := mapM_complete_toolCalls empty wellFormed.identified wellFormed.objects
  have complete : after.closed.blocks.mapM (PartialBlock.complete loads) =
      some (reasoning ++ (text ++ result.toolCalls.map (fun call =>
        Block.toolUse (orText (some call.id) "toolu_proxy") (orText (some call.name) "tool")
          (toolInput loads (some call.arguments))))) := by
    have blocks : after.closed.blocks =
        resultBlocks cutting.reasoning cutting.text result.toolCalls :=
      grown.all
    rw [blocks]
    exact mapM_append_some readReasoning (mapM_append_some readText calls)
  have events := (congrArg (emitChunks initial) cutting.inOrder).trans
    (emitChunks_cut cutting.unfinished cutting.finished cutting.after _)
  rw [reaches.state] at events
  have read : (anthropicEvents chunks).foldlM MessageReader.read MessageReader.waiting =
      some (.ended after.closed (openaiFinishReasonToAnthropic (some result.finishReason))
        (openaiUsageToAnthropicUsage cutting.last.usage).outputTokens) := by
    unfold anthropicEvents
    rw [events, foldlM_cons, MessageReader.read_messageStart]
    simp only [bind_eq_bind, bind_some]
    rw [foldlM_append, reaches.read]
    exact grown.tracks.finish grown.finished _ _
  refine
    ⟨{ model := after.closed.model
       content := reasoning ++ (text ++ result.toolCalls.map (fun call =>
         Block.toolUse (orText (some call.id) "toolu_proxy") (orText (some call.name) "tool")
           (toolInput loads (some call.arguments))))
       stopReason := openaiFinishReasonToAnthropic (some result.finishReason)
       usage :=
         { inputTokens := after.closed.inputTokens
           outputTokens := (openaiUsageToAnthropicUsage cutting.last.usage).outputTokens } },
      ?_, ?_, rfl⟩
  · unfold readAnthropic
    rw [read]
    simp only
    rw [complete]
    rfl
  · rw [filter_openaiMessageToAnthropicContent, filter_append, filter_append,
      sameReasoning, sameText, append_assoc]
    congr 2
    apply filter_eq_self.mpr
    intro member isMember
    obtain ⟨call, _, rfl⟩ := List.mem_map.mp isMember
    rfl

end Dressage.Blackbox.Answers
