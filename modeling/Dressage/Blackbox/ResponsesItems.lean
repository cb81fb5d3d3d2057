/-
The response events of a cut answer.

The collected stream has the pieces of the answer, whatever chunks they came in. Its
output is the plain output up to the ids of the items, and the events of an output index
put its item together.
-/

import Mathlib.Order.Defs.LinearOrder
import Dressage.Blackbox.ResponsesAnswers
import Dressage.Blackbox.AnswerCuttings

namespace Dressage.Blackbox.Answers

open Lib List OrderedDict Option

variable (chunks : List ChatChunk)

theorem foldl_collect_reasoningParts (collected : Collected) :
    (chunks.foldl Collected.collect collected).reasoningParts =
      collected.reasoningParts ++
        chunks.flatMap (fun chunk => chunk.delta.reasoningText.toList) := by
  induction chunks generalizing collected with
  | nil => exact (append_nil _).symm
  | cons chunk rest ih =>
    rw [foldl_cons, ih, flatMap_cons, ← append_assoc]
    rfl

theorem foldl_collect_textParts (collected : Collected) :
    (chunks.foldl Collected.collect collected).textParts =
      collected.textParts ++ chunks.flatMap (fun chunk => chunk.delta.contentText.toList) := by
  induction chunks generalizing collected with
  | nil => exact (append_nil _).symm
  | cons chunk rest ih =>
    rw [foldl_cons, ih, flatMap_cons, ← append_assoc]
    rfl

theorem foldl_collect_toolCallDeltas (collected : Collected) :
    (chunks.foldl Collected.collect collected).toolCallDeltas =
      (chunks.flatMap (fun chunk => chunk.delta.toolCalls)).foldl accumulateToolCallDelta
        collected.toolCallDeltas := by
  induction chunks generalizing collected with
  | nil => rfl
  | cons chunk rest ih =>
    rw [foldl_cons, ih, flatMap_cons, foldl_append]
    rfl

def Atom.reasoning? : Atom → Option String
  | .reasoning piece => some piece
  | _ => none

def Atom.text? : Atom → Option String
  | .text piece => some piece
  | _ => none

def Atom.toolCall? : Atom → Option ToolCallDelta
  | .toolCall delta => some delta
  | _ => none

section Read

variable {α β : Type} {atom : α → Atom} {read : Atom → Option β}

theorem filterMap_map_of_none (reads : ∀ item, read (atom item) = none) (items : List α) :
    (items.map atom).filterMap read = [] := by
  rw [filterMap_map, filterMap_eq_nil_iff]
  exact fun item _ => reads item

theorem filterMap_map_of_some (atom : α → Atom) {read : Atom → Option α}
    (reads : ∀ item, read (atom item) = some item) (items : List α) :
    (items.map atom).filterMap read = items := by
  have same : read ∘ atom = some := funext reads
  rw [filterMap_map, same, filterMap_some]

end Read

theorem filterMap_atoms (reasoning text : List String) (toolCalls : List ToolCallDelta) :
    let atoms := reasoning.map Atom.reasoning ++ (text.map Atom.text ++ toolCalls.map Atom.toolCall)
    atoms.filterMap Atom.reasoning? = reasoning ∧ atoms.filterMap Atom.text? = text ∧
      atoms.filterMap Atom.toolCall? = toolCalls := by
  have reasoningKept : (reasoning.map Atom.reasoning).filterMap Atom.reasoning? = reasoning :=
    filterMap_map_of_some Atom.reasoning (fun _ => rfl) reasoning
  have textKept : (text.map Atom.text).filterMap Atom.text? = text :=
    filterMap_map_of_some Atom.text (fun _ => rfl) text
  have callsKept : (toolCalls.map Atom.toolCall).filterMap Atom.toolCall? = toolCalls :=
    filterMap_map_of_some Atom.toolCall (fun _ => rfl) toolCalls
  simp only [filterMap_append]
  refine ⟨?_, ?_, ?_⟩
  · rw [reasoningKept, filterMap_map_of_none (fun _ => rfl), filterMap_map_of_none (fun _ => rfl),
      append_nil, append_nil]
  · rw [textKept, filterMap_map_of_none (fun _ => rfl), filterMap_map_of_none (fun _ => rfl),
      nil_append, append_nil]
  · rw [callsKept, filterMap_map_of_none (fun _ => rfl), filterMap_map_of_none (fun _ => rfl),
      nil_append, nil_append]

structure Collected.Of (collected : Collected) (reasoning text : List String)
    (toolCalls : List ToolCallDelta) : Prop where
  reasoning : collected.reasoningParts = reasoning
  text : collected.textParts = text
  toolCalls : collected.toolCallDeltas = toolCalls.foldl accumulateToolCallDelta OrderedDict.empty

theorem collected_of_cutting {cuts : ToolCall → List ToolCallDelta → Prop}
    {result : AssistantResult} {chunks : List ChatChunk} (cutting : Cutting cuts result chunks)
    (requestModel : Option String) :
    (chunks.foldl Collected.collect (Collected.initial requestModel)).Of cutting.reasoning
      cutting.text cutting.calls.flatten := by
  have none : cutting.after.flatMap ChatChunk.atoms = [] :=
    flatMap_eq_nil_iff.mpr cutting.exhausted
  have atoms : chunks.flatMap ChatChunk.atoms = cutting.reasoning.map Atom.reasoning ++
      (cutting.text.map Atom.text ++ cutting.calls.flatten.map Atom.toolCall) := by
    calc chunks.flatMap ChatChunk.atoms
      _ = (cutting.before ++ cutting.last :: cutting.after).flatMap ChatChunk.atoms :=
        congrArg (List.flatMap ChatChunk.atoms) cutting.inOrder
      _ = (cutting.before ++ [cutting.last]).flatMap ChatChunk.atoms := by
        rw [flatMap_append, flatMap_cons, none, flatMap_append, flatMap_singleton, append_nil]
      _ = _ := cutting.atoms
  obtain ⟨reasoning, text, toolCalls⟩ :=
    filterMap_atoms cutting.reasoning cutting.text cutting.calls.flatten
  rw [← atoms, filterMap_flatMap] at reasoning text toolCalls
  have ofChunk : ∀ chunk : ChatChunk,
      chunk.atoms.filterMap Atom.reasoning? = chunk.delta.reasoningText.toList ∧
      chunk.atoms.filterMap Atom.text? = chunk.delta.contentText.toList ∧
      chunk.atoms.filterMap Atom.toolCall? = chunk.delta.toolCalls :=
    fun chunk => filterMap_atoms _ _ _
  simp only [(ofChunk _).1] at reasoning
  simp only [(ofChunk _).2.1] at text
  simp only [(ofChunk _).2.2] at toolCalls
  constructor
  · rw [foldl_collect_reasoningParts, reasoning]
    rfl
  · rw [foldl_collect_textParts, text]
    rfl
  · rw [foldl_collect_toolCallDeltas, toolCalls]
    rfl

def ToolCallParts.add (state : ToolCallParts) (toolCall : ToolCallDelta) : ToolCallParts :=
  { id := orElse toolCall.id state.id
    type := orElse toolCall.type state.type
    name := orElse toolCall.name state.name
    argumentsParts := state.argumentsParts ++ toolCall.arguments.toList }

variable {deltas : List ToolCallDelta} {dict : OrderedDict Int ToolCallParts}
variable {toolCalls : List ToolCall}

theorem foldl_accumulate_set {index : Int} (indices : ∀ delta ∈ deltas, delta.index.getD 0 = index)
    (dict : OrderedDict Int ToolCallParts) (state : ToolCallParts) :
    deltas.foldl accumulateToolCallDelta (dict.set index state) =
      dict.set index (deltas.foldl ToolCallParts.add state) := by
  induction deltas generalizing state with
  | nil => rfl
  | cons delta rest ih =>
    have isIndex := indices delta mem_cons_self
    have once : accumulateToolCallDelta (dict.set index state) delta =
        dict.set index (state.add delta) := by
      unfold accumulateToolCallDelta OrderedDict.getD
      simp only [isIndex, get?_set_self, OrderedDict.set_set]
      rfl
    rw [foldl_cons, foldl_cons, once]
    exact ih (fun other member => indices other (mem_cons_of_mem delta member)) _

theorem foldl_accumulate_new {index : Int} (present : deltas ≠ [])
    (indices : ∀ delta ∈ deltas, delta.index.getD 0 = index) (new : dict.get? index = none) :
    deltas.foldl accumulateToolCallDelta dict =
      dict.set index (deltas.foldl ToolCallParts.add ToolCallParts.empty) := by
  cases deltas with
  | nil => exact absurd rfl present
  | cons delta rest =>
    have isIndex := indices delta mem_cons_self
    have once : accumulateToolCallDelta dict delta =
        dict.set index (ToolCallParts.empty.add delta) := by
      unfold accumulateToolCallDelta OrderedDict.getD
      simp only [isIndex, new]
      rfl
    rw [foldl_cons, foldl_cons, once]
    exact foldl_accumulate_set
      (fun other member => indices other (mem_cons_of_mem delta member)) dict _

theorem orElse_some {value : String} {state : Option String}
    (isState : state = none ∨ state = (some value).filter (· ≠ "")) :
    orElse (some value) state = (some value).filter (· ≠ "") := by
  by_cases empty : value = ""
  · have none : (some value).filter (· ≠ "") = none := by simp [empty]
    have unchanged : orElse (some value) state = state := if_pos empty
    rw [none] at isState ⊢
    rw [unchanged]
    exact isState.elim id id
  · have kept : (some value).filter (· ≠ "") = some value := by simp [empty]
    rw [kept]
    exact if_neg empty

theorem foldl_orElse {value : String} (fragments : List (Option String)) {state : Option String}
    (each : ∀ fragment ∈ fragments, fragment = none ∨ fragment = some value)
    (isState : state = none ∨ state = (some value).filter (· ≠ ""))
    (present : some value ∈ fragments ∨ state = (some value).filter (· ≠ "")) :
    fragments.foldl (fun state fragment => orElse fragment state) state =
      (some value).filter (· ≠ "") := by
  induction fragments generalizing state with
  | nil =>
    rcases present with member | present
    · cases member
    · exact present
  | cons fragment rest ih =>
    have others := fun other member => each other (mem_cons_of_mem fragment member)
    rw [foldl_cons]
    rcases each fragment mem_cons_self with rfl | rfl
    · refine ih others isState ?_
      rcases present with member | present
      · rcases mem_cons.mp member with impossible | later
        · cases impossible
        · exact .inl later
      · exact .inr present
    · exact ih others (.inr (orElse_some isState)) (.inr (orElse_some isState))

theorem foldl_add_id (deltas : List ToolCallDelta) (state : ToolCallParts) :
    (deltas.foldl ToolCallParts.add state).id =
      (deltas.map ToolCallDelta.id).foldl (fun state fragment => orElse fragment state)
        state.id := by
  induction deltas generalizing state with
  | nil => rfl
  | cons delta rest ih => exact ih _

theorem foldl_add_name (deltas : List ToolCallDelta) (state : ToolCallParts) :
    (deltas.foldl ToolCallParts.add state).name =
      (deltas.map ToolCallDelta.name).foldl (fun state fragment => orElse fragment state)
        state.name := by
  induction deltas generalizing state with
  | nil => rfl
  | cons delta rest ih => exact ih _

theorem join_foldl_add_argumentsParts (deltas : List ToolCallDelta) (state : ToolCallParts) :
    String.join (deltas.foldl ToolCallParts.add state).argumentsParts =
      String.join state.argumentsParts ++
        String.join (deltas.map (fun delta => delta.arguments.getD "")) := by
  induction deltas generalizing state with
  | nil => exact (String.append_empty).symm
  | cons delta rest ih =>
    have more : String.join delta.arguments.toList = delta.arguments.getD "" := by
      cases delta.arguments with
      | none => rfl
      | some text => simp
    rw [foldl_cons, ih, map_cons, String.join_cons, ← String.append_assoc]
    unfold ToolCallParts.add
    rw [String.join_append, more]

structure ToolCallParts.Of (parts : ToolCallParts) (call : ToolCall) : Prop where
  id : parts.id = (some call.id).filter (· ≠ "")
  name : parts.name = (some call.name).filter (· ≠ "")
  arguments : String.join parts.argumentsParts = call.arguments

theorem CutsCall.parts {call : ToolCall} (cuts : CutsCall call deltas) :
    (deltas.foldl ToolCallParts.add ToolCallParts.empty).Of call := by
  constructor
  · rw [foldl_add_id]
    refine foldl_orElse _ ?_ (.inl rfl) (.inl ?_)
    · intro fragment member
      obtain ⟨delta, isDelta, rfl⟩ := List.mem_map.mp member
      exact cuts.id delta isDelta
    · obtain ⟨delta, isDelta, identified⟩ := cuts.identified
      exact List.mem_map.mpr ⟨delta, isDelta, identified⟩
  · rw [foldl_add_name]
    refine foldl_orElse _ ?_ (.inl rfl) (.inl ?_)
    · intro fragment member
      obtain ⟨delta, isDelta, rfl⟩ := List.mem_map.mp member
      exact cuts.name delta isDelta
    · obtain ⟨delta, isDelta, named⟩ := cuts.named
      exact List.mem_map.mpr ⟨delta, isDelta, named⟩
  · rw [join_foldl_add_argumentsParts, cuts.arguments]
    exact String.empty_append

def EntryOf (call : ToolCall) (entry : Int × ToolCallParts) : Prop :=
  entry.1 = call.index ∧ entry.2.Of call

theorem foldl_accumulate_calls {calls : List (List ToolCallDelta)}
    (cuts : List.Forall₂ CutsCall toolCalls calls) {first : Nat}
    (indices : ∀ (index : Nat) (call : ToolCall), toolCalls[index]? = some call →
      call.index = first + index) (fresh : ∀ index : Nat, first ≤ index → dict.get? index = none) :
    ∃ entries, (calls.flatten.foldl accumulateToolCallDelta dict).entries =
      dict.entries ++ entries ∧ List.Forall₂ EntryOf toolCalls entries := by
  induction cuts generalizing dict first with
  | nil => exact ⟨[], (append_nil _).symm, List.Forall₂.nil⟩
  | @cons call deltas otherCalls others cut _ ih =>
    have isFirst : call.index = first := indices 0 call rfl
    have new : dict.get? (call.index : Int) = none := fresh _ (Nat.le_of_eq isFirst.symm)
    have present : deltas ≠ [] := by
      intro none
      obtain ⟨_, member, _⟩ := cut.identified
      rw [none] at member
      cases member
    have freshAfter : ∀ index : Nat, first + 1 ≤ index →
        (dict.set call.index (deltas.foldl ToolCallParts.add ToolCallParts.empty)).get? index =
          none := by
      intro index above
      have other : (index : Int) ≠ (call.index : Int) := by omega
      rw [get?_set_of_ne _ _ other]
      exact fresh index (Nat.le_of_succ_le above)
    obtain ⟨entries, collected, are⟩ := ih (indices_tail indices) freshAfter
    have notKey : (call.index : Int) ∉ dict.keys := by
      rw [mem_keys_iff, new]
      rintro ⟨_, impossible⟩
      cases impossible
    refine
      ⟨((call.index : Int), deltas.foldl ToolCallParts.add ToolCallParts.empty) :: entries, ?_,
        List.Forall₂.cons ⟨rfl, cut.parts⟩ are⟩
    rw [flatten_cons, foldl_append, foldl_accumulate_new present cut.index new,
      collected, entries_set_new notKey, append_assoc]
    rfl

def ToolCall.item (call : ToolCall) : OutputItem :=
  functionCallItem call.id (orText (some call.name) "tool") call.arguments

theorem orText_filter (text fallback : String) :
    orText ((some text).filter (· ≠ "")) fallback = orText (some text) fallback := by
  by_cases empty : text = ""
  · rw [empty]
    rfl
  · have kept : (some text).filter (· ≠ "") = some text := by simp [empty]
    rw [kept]

theorem ToolCallParts.Of.toRecord {parts : ToolCallParts} {call : ToolCall} (of : parts.Of call)
    (present : call.id ≠ "") (index : Int) :
    ∃ record, parts.toRecord index = some record ∧ record.item = call.item := by
  have id : orText parts.id "" = call.id := by
    rw [of.id, orText_filter, orText_some present]
  refine
    ⟨{ callId := orText parts.id ("call_proxy_" ++ toString index)
       name := orText parts.name "tool"
       arguments := String.join parts.argumentsParts
       argumentDeltas := parts.argumentsParts }, ?_, ?_⟩
  · unfold ToolCallParts.toRecord
    rw [if_neg (fun none => present (id.symm.trans none.1))]
  · unfold ToolCallRecord.item ToolCall.item
    simp only [of.id, of.name, of.arguments, orText_filter, orText_some present]

theorem streamToolCallRecords_of_sorted (sorted : dict.keys.Pairwise (· ≤ ·)) :
    streamToolCallRecords dict =
      dict.entries.filterMap (fun entry => entry.2.toRecord entry.1) := by
  unfold streamToolCallRecords
  have unchanged : dict.keys.mergeSort (fun left right => decide (left ≤ right)) = dict.keys :=
    mergeSort_of_pairwise (sorted.imp (fun below => decide_eq_true below))
  rw [unchanged, OrderedDict.keys, filterMap_map]
  apply filterMap_congr
  intro entry member
  rw [Function.comp_apply, get?_of_mem member]
  rfl

theorem entries_sorted {entries : List (Int × ToolCallParts)}
    (are : List.Forall₂ EntryOf toolCalls entries) {first : Nat}
    (indices : ∀ (index : Nat) (call : ToolCall), toolCalls[index]? = some call →
      call.index = first + index) :
    (∀ entry ∈ entries, (first : Int) ≤ entry.1) ∧ (entries.map Prod.fst).Pairwise (· ≤ ·) := by
  induction are generalizing first with
  | nil => exact ⟨nofun, List.Pairwise.nil⟩
  | @cons call entry otherCalls others is _ ih =>
    have isFirst : call.index = first := indices 0 call rfl
    obtain ⟨above, sorted⟩ := ih (indices_tail indices)
    have atFirst : entry.1 = first := by
      rw [is.1, isFirst]
    refine ⟨?_, ?_⟩
    · intro other member
      rcases mem_cons.mp member with rfl | member
      · exact Int.le_of_eq atFirst.symm
      · have later := above other member
        omega
    · refine List.Pairwise.cons ?_ sorted
      intro key isKey
      obtain ⟨other, member, rfl⟩ := List.mem_map.mp isKey
      have later := above other member
      omega

theorem records_of_entries {entries : List (Int × ToolCallParts)}
    (are : List.Forall₂ EntryOf toolCalls entries) (identified : ∀ call ∈ toolCalls, call.id ≠ "") :
    (entries.filterMap (fun entry => entry.2.toRecord entry.1)).map ToolCallRecord.item =
      toolCalls.map ToolCall.item := by
  induction are with
  | nil => rfl
  | @cons call entry otherCalls others is _ ih =>
    obtain ⟨record, isRecord, sameItem⟩ := is.2.toRecord (identified call mem_cons_self) entry.1
    rw [filterMap_cons, isRecord, map_cons, map_cons, sameItem,
      ih (fun other member => identified other (mem_cons_of_mem call member))]

theorem toolCallsToResponseItems_of_identified (identified : ∀ call ∈ toolCalls, call.id ≠ "") :
    toolCallsToResponseItems (toolCalls.map (fun call =>
      { id := some call.id
        name := some call.name
        arguments := some call.arguments })) = toolCalls.map ToolCall.item := by
  unfold toolCallsToResponseItems
  apply ext_getElem?
  intro position
  rw [getElem?_map, getElem?_zipIdx, getElem?_map, getElem?_map]
  cases isCall : toolCalls[position]? with
  | none => rfl
  | some call =>
    simp only [map_some]
    rw [orText_some (identified call (mem_of_getElem? isCall))]
    rfl

def OutputItem.withoutId : OutputItem → OutputItem
  | .reasoning _ summary => .reasoning "" summary
  | .message _ status content => .message "" status content
  | .functionCall _ callId name arguments status => .functionCall "" callId name arguments status

theorem reasoningOutput_eq (text : Option String) :
    (((orElse text none).filter (· ≠ "")).toList.map (fun text => reasoningItem text "rs_proxy")).map
        OutputItem.withoutId =
      (if text.getD "" ≠ "" then [reasoningItem (text.getD "") "rs_proxy_stream"] else []).map
        OutputItem.withoutId := by
  cases text with
  | none => rfl
  | some text =>
    by_cases empty : text = ""
    · rw [empty]
      rfl
    · simp [orElse, empty, reasoningItem, OutputItem.withoutId]

theorem completedOutput_of_cutting {cuts : ToolCall → List ToolCallDelta → Prop}
    {result : AssistantResult} {chunks : List ChatChunk} (cutting : Cutting cuts result chunks)
    (cutsCall : ∀ call deltas, cuts call deltas → CutsCall call deltas)
    (indices : ∀ (index : Nat) (call : ToolCall), result.toolCalls[index]? = some call →
      call.index = index)
    (identified : ∀ call ∈ result.toolCalls, call.id ≠ "") (requestModel : Option String) :
    (completedResponse requestModel chunks).output.map OutputItem.withoutId =
      (responseOutput result.message).map OutputItem.withoutId := by
  have collected := collected_of_cutting cutting requestModel
  have fromZero : ∀ (index : Nat) (call : ToolCall), result.toolCalls[index]? = some call →
      call.index = 0 + index :=
    fun index call isCall => (indices index call isCall).trans (Nat.zero_add index).symm
  obtain ⟨entries, areEntries, entriesOf⟩ := foldl_accumulate_calls
    (cutting.callsCut.imp cutsCall) fromZero (fun _ _ => get?_empty _)
  have areAll : (cutting.calls.flatten.foldl accumulateToolCallDelta
    OrderedDict.empty).entries = entries := areEntries
  have sorted : (cutting.calls.flatten.foldl accumulateToolCallDelta
      OrderedDict.empty).keys.Pairwise (· ≤ ·) := by
    rw [OrderedDict.keys, areAll]
    exact (entries_sorted entriesOf fromZero).2
  have records : (streamToolCallRecords
      (cutting.calls.flatten.foldl accumulateToolCallDelta OrderedDict.empty)).map
        ToolCallRecord.item = result.toolCalls.map ToolCall.item := by
    rw [streamToolCallRecords_of_sorted sorted, areAll]
    exact records_of_entries entriesOf identified
  unfold completedResponse Collected.items responseOutput AssistantResult.message
  simp only [collected.reasoning, collected.text, collected.toolCalls, cutting.reasoningJoined,
    cutting.textJoined, toolCallsToResponseItems_of_identified identified, map_append]
  generalize streamToolCallRecords (cutting.calls.flatten.foldl accumulateToolCallDelta
    OrderedDict.empty) = written at records ⊢
  have none : written = [] ↔ result.toolCalls.map ToolCall.item = [] := by
    rw [← records, map_eq_nil_iff]
  have calls : (written.map StreamItem.functionCall).map StreamItem.item =
      result.toolCalls.map ToolCall.item := by
    rw [← records, List.map_map]
    rfl
  rw [reasoningOutput_eq, calls]
  congr 2
  · split <;> rfl
  · simp only [none]
    split <;> rfl

theorem filter_itemEvents {items : List StreamItem} {index : Nat} {item : StreamItem}
    (isItem : items[index]? = some item) (first : Nat) :
    (itemEvents first items).filter (fun event => event.outputIndex = some (first + index)) =
      item.events (first + index) := by
  induction items generalizing first index with
  | nil => cases isItem
  | cons head rest ih =>
    unfold itemEvents
    rw [filter_append]
    cases index with
    | zero =>
      rw [getElem?_cons_zero, some_inj] at isItem
      subst isItem
      have own : (head.events first).filter
          (fun event => event.outputIndex = some (first + 0)) = head.events first := by
        apply filter_eq_self.mpr
        intro event member
        exact decide_eq_true (outputIndex_of_mem_events member)
      have none : (itemEvents (first + 1) rest).filter
          (fun event => event.outputIndex = some (first + 0)) = [] := by
        apply filter_eq_nil_iff.mpr
        intro event member here
        obtain ⟨later, above, isIndex⟩ := outputIndex_of_mem_itemEvents member
        have same := some_inj.mp (isIndex.symm.trans (of_decide_eq_true here))
        omega
      rw [own, none, append_nil]
      rfl
    | succ index =>
      rw [getElem?_cons_succ] at isItem
      have none : (head.events first).filter
          (fun event => event.outputIndex = some (first + (index + 1))) = [] := by
        apply filter_eq_nil_iff.mpr
        intro event member here
        have same := some_inj.mp
          ((outputIndex_of_mem_events member).symm.trans (of_decide_eq_true here))
        omega
      have shifted : first + (index + 1) = first + 1 + index := by omega
      rw [none, nil_append, shifted]
      exact ih isItem (first + 1)

def StreamItem.Whole : StreamItem → Prop
  | .functionCall record => String.join record.argumentDeltas = record.arguments
  | _ => True

theorem foldlM_argumentsDelta (id callId name status : String) (outputIndex : Nat)
    (deltas : List String) (arguments : String) :
    (deltas.map (fun delta => ResponseEvent.argumentsDelta id outputIndex delta)).foldlM
        ItemReader.read (.open (.functionCall id callId name arguments status)) =
      some (.open (.functionCall id callId name (arguments ++ String.join deltas) status)) := by
  induction deltas generalizing arguments with
  | nil =>
    rw [String.join_nil, String.append_empty]
    rfl
  | cons delta rest ih =>
    rw [map_cons, foldlM_cons]
    simp only [ItemReader.read, if_true, bind_eq_bind, bind_some]
    rw [ih, String.join_cons, String.append_assoc]

theorem readItem_events {item : StreamItem} (whole : item.Whole) (outputIndex : Nat) :
    readItem (item.events outputIndex) = some item.item := by
  cases item with
  | reasoning written =>
    simp [readItem, StreamItem.events, StreamItem.item, reasoningItem, ItemReader.read,
      OutputItem.complete]
  | text written =>
    by_cases empty : written = ""
    · simp [readItem, StreamItem.events, StreamItem.item, messageItem, ItemReader.read,
        OutputItem.complete, empty]
    · simp [readItem, StreamItem.events, StreamItem.item, messageItem, ItemReader.read,
        OutputItem.complete, empty]
  | functionCall record =>
    have joined : ∀ deltas, String.join deltas = record.arguments →
        (([ResponseEvent.itemAdded outputIndex (.functionCall ("fc_" ++ record.callId)
            record.callId record.name "" "in_progress")] ++
          deltas.map (fun delta =>
            ResponseEvent.argumentsDelta ("fc_" ++ record.callId) outputIndex delta) ++
          [ResponseEvent.argumentsDone ("fc_" ++ record.callId) outputIndex record.arguments
              record.item,
            ResponseEvent.itemDone outputIndex record.item]).foldlM ItemReader.read .waiting) =
          some (.done record.item) := by
      intro deltas join
      rw [foldlM_append, foldlM_append, foldlM_cons]
      simp only [ItemReader.read, bind_eq_bind, bind_some, foldlM_nil, pure]
      rw [foldlM_argumentsDelta, join, String.empty_append]
      simp [ItemReader.read, OutputItem.complete, ToolCallRecord.item, functionCallItem]
    have read : (StreamItem.events outputIndex (.functionCall record)).foldlM ItemReader.read
        .waiting = some (.done record.item) := by
      unfold StreamItem.events
      simp only
      split
      · exact joined [record.arguments] (by simp)
      · exact joined _ whole
    unfold readItem
    rw [read]
    rfl

theorem join_argumentDeltas {dict : OrderedDict Int ToolCallParts} {record : ToolCallRecord}
    (member : record ∈ streamToolCallRecords dict) :
    String.join record.argumentDeltas = record.arguments := by
  obtain ⟨index, _, found⟩ := mem_filterMap.mp member
  obtain ⟨parts, _, isRecord⟩ := bind_eq_some_iff.mp found
  unfold ToolCallParts.toRecord at isRecord
  split at isRecord
  · cases isRecord
  · rw [← some_inj.mp isRecord]

theorem whole_of_mem_items {collected : Collected} {item : StreamItem}
    (member : item ∈ collected.items) : item.Whole := by
  cases item with
  | reasoning written => trivial
  | text written => trivial
  | functionCall record =>
    unfold Collected.items at member
    rcases mem_append.mp member with others | isCall
    · rcases mem_append.mp others with isReasoning | isText
      · split at isReasoning
        · cases mem_singleton.mp isReasoning
        · cases isReasoning
      · split at isText
        · cases mem_singleton.mp isText
        · cases isText
    · obtain ⟨other, isRecord, same⟩ := List.mem_map.mp isCall
      cases same
      exact join_argumentDeltas isRecord

theorem readItem_responseEvents (requestModel : Option String) (chunks : List ChatChunk)
    {index : Nat} {item : OutputItem}
    (isItem : (completedResponse requestModel chunks).output[index]? = some item) :
    readItem ((responseEvents requestModel chunks).filter
      (fun event => event.outputIndex = some index)) = some item := by
  unfold completedResponse at isItem
  simp only [getElem?_map] at isItem
  obtain ⟨streamed, isStreamed, rfl⟩ := map_eq_some_iff.mp isItem
  have events := filter_itemEvents isStreamed 0
  rw [Nat.zero_add] at events
  have own : (responseEvents requestModel chunks).filter
      (fun event => event.outputIndex = some index) = streamed.events index := by
    unfold responseEvents
    rw [filter_cons, filter_append, events]
    simp [ResponseEvent.outputIndex]
  rw [own]
  exact readItem_events (whole_of_mem_items (mem_of_getElem? isStreamed)) index

end Dressage.Blackbox.Answers
