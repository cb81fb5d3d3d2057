/-
Appended messages rendered behind a dummy conversation and behind the real one.

A run of tool messages looks only at what is next to it, so it reads the same behind the dummy
assistant as behind the message it was appended to, and the suffixes of the appended segments
make up the suffix of the whole. The dummy conversation itself is rendered when the names of the
tool messages it is built from are texts.
-/

import Dressage.Proxy.TemplateFormat

namespace Dressage.Proxy.ChatTemplate

open Lib Lib.Neighbours List

variable {env : Environment}

theorem renderMessage_lastQuery (lastQuery lastQuery' : Nat) :
    renderMessage env true lastQuery = renderMessage env true lastQuery' := by
  funext index before message after
  simp only [renderMessage, Bool.true_or]

theorem renderMessage_eq (env : Environment) (message : ChatMessage)
    (notSystem : roleText message ≠ some "system")
    (lastQuery index index' : Nat) {before before' after after' : Option ChatMessage}
    (sameBefore : opensRun before = opensRun before')
    (sameAfter : closesRun after = closesRun after') :
    renderMessage env true lastQuery index before message after =
      renderMessage env true lastQuery index' before' message after' := by
  simp only [renderMessage, Bool.true_or, if_neg notSystem, renderToolResponse, sameBefore,
    sameAfter]

theorem renderMessage_blind (env : Environment) (message : ChatMessage)
    (notTool : isTool message = false)
    (lastQuery index : Nat) (before before' after after' : Option ChatMessage) :
    renderMessage env true lastQuery index before message after =
      renderMessage env true lastQuery index before' message after' := by
  have other : roleText message ≠ some "tool" := of_decide_eq_false notTool
  simp only [renderMessage, Bool.true_or, if_neg other]

variable {index : Nat} {tools : Option (List Value)} {first : ChatMessage} {failure : TemplateError}
variable {messages rest : List ChatMessage} {addGenerationPrompt : Bool} {text : Text}

theorem content_of_renderMessage {preserveThinking : Bool} {lastQuery : Nat}
    {before after : Option ChatMessage} {message : ChatMessage} {piece : Text}
    (written : renderMessage env preserveThinking lastQuery index before message after =
      .ok piece) :
    ∃ content, contentOf env false message = .ok content := by
  obtain ⟨content, read, -⟩ := Effect.except_bind_eq_ok.mp written
  exact ⟨content, read⟩

theorem renderHeader_eq_ok {header : Text} :
    renderHeader env first tools = .ok header ↔
      ∃ opened, toolsHeader env tools = .ok opened ∧
        ∃ system, systemContent env first = .ok system ∧ joinHeader opened system = header := by
  rw [renderHeader, Effect.except_bind_eq_ok]
  constructor
  · rintro ⟨opened, listed, rest⟩
    obtain ⟨system, read, made⟩ := Effect.except_bind_eq_ok.mp rest
    exact ⟨opened, listed, system, read, Except.ok.inj made⟩
  · rintro ⟨opened, listed, system, read, made⟩
    exact ⟨opened, listed, Effect.except_bind_eq_ok.mpr ⟨system, read, congrArg _ made⟩⟩

theorem renderHeader_error (fails : toolsHeader env tools = .error failure) :
    renderHeader env first tools = .error failure := by
  rw [renderHeader, fails]
  rfl

theorem searchQuery_ok (unfound : Nat)
    (readable : ∀ message ∈ messages, ∃ content, contentOf env false message = .ok content) :
    ∃ index, searchQuery env unfound messages = .ok index := by
  induction messages with
  | nil => exact ⟨unfound, rfl⟩
  | cons message earlier ih =>
    have others := ih (fun other listed => readable other (mem_cons_of_mem _ listed))
    obtain ⟨content, read⟩ := readable message mem_cons_self
    rw [searchQuery]
    by_cases isUser : roleText message = some "user"
    · rw [if_pos isUser, read]
      by_cases response : ("<tool_response>".toList.isPrefixOf content &&
        "</tool_response>".toList.isSuffixOf content) = true
      · obtain ⟨index, found⟩ := others
        refine ⟨index, Effect.except_bind_eq_ok.mpr ⟨content, rfl, ?_⟩⟩
        rw [if_pos response, found]
      · refine ⟨earlier.length, Effect.except_bind_eq_ok.mpr ⟨content, rfl, ?_⟩⟩
        rw [if_neg response]
    · rw [if_neg isUser]
      exact others

def conversation (env : Environment) (messages : List ChatMessage) : Except TemplateError Text :=
  walk (renderMessage env true 0) 0 none messages none

theorem lastQueryIndex_ok {body : Text} (walked : conversation env messages = .ok body) :
    ∃ index, lastQueryIndex env messages = .ok index := by
  refine searchQuery_ok _ ?_
  intro message listed
  obtain ⟨index, before, after, piece, written⟩ :=
    written_of_walk walked message (mem_reverse.mp listed)
  exact content_of_renderMessage written

def promptText (addGenerationPrompt : Bool) : Text :=
  if addGenerationPrompt then generationPrompt else []

theorem renderTemplate_eq_ok :
    renderTemplate env true (first :: rest) tools addGenerationPrompt = .ok text ↔
      ∃ header, renderHeader env first tools = .ok header ∧
        ∃ body, conversation env (first :: rest) = .ok body ∧
          header ++ body ++ promptText addGenerationPrompt = text := by
  rw [renderTemplate, Effect.except_bind_eq_ok]
  constructor
  · rintro ⟨header, headed, continued⟩
    obtain ⟨lastQuery, -, continued⟩ := Effect.except_bind_eq_ok.mp continued
    obtain ⟨body, walked, joined⟩ := Effect.except_bind_eq_ok.mp continued
    rw [renderMessage_lastQuery lastQuery 0] at walked
    exact ⟨header, headed, body, walked, Except.ok.inj joined⟩
  · rintro ⟨header, headed, body, walked, joined⟩
    obtain ⟨lastQuery, found⟩ := lastQueryIndex_ok walked
    refine ⟨header, headed, Effect.except_bind_eq_ok.mpr ⟨lastQuery, found,
      Effect.except_bind_eq_ok.mpr ⟨body, ?_, congrArg Except.ok joined⟩⟩⟩
    rw [renderMessage_lastQuery lastQuery 0]
    exact walked

theorem conversation_append {base more : List ChatMessage} {last : ChatMessage}
    (ends : base.getLast? = some last) (notTool : isTool last = false) :
    conversation env (base ++ more) = .ok text ↔
      ∃ opening, conversation env base = .ok opening ∧
        ∃ closing, walk (renderMessage env true 0) base.length (some last) more none =
          .ok closing ∧ opening ++ closing = text := by
  have blind : walk (renderMessage env true 0) 0 none base (more.head?.or none) =
      conversation env base :=
    walk_eq_of_last ends
      (fun index before after after' =>
        renderMessage_blind env last notTool 0 index before before after after') 0 none _ none
  rw [conversation, walk_append_eq_ok, blind, ends, Option.some_or, Nat.zero_add]

theorem renderTemplate_append {base more : List ChatMessage} {last : ChatMessage}
    (ends : base.getLast? = some last) (notTool : isTool last = false) :
    renderTemplate env true (base ++ more) tools addGenerationPrompt = .ok text ↔
      ∃ opening, renderTemplate env true base tools false = .ok opening ∧
        ∃ closing, walk (renderMessage env true 0) base.length (some last) more none =
          .ok closing ∧ opening ++ (closing ++ promptText addGenerationPrompt) = text := by
  cases base with
  | nil => cases ends
  | cons first rest =>
    rw [cons_append, renderTemplate_eq_ok]
    constructor
    · rintro ⟨header, headed, body, walked, joined⟩
      obtain ⟨opening, opened, closing, closed, split⟩ :=
        (conversation_append ends notTool).mp walked
      refine ⟨header ++ opening, ?_, closing, closed, ?_⟩
      · refine renderTemplate_eq_ok.mpr ⟨header, headed, opening, opened, ?_⟩
        exact append_nil _
      · rw [← joined, ← split]
        simp only [append_assoc]
    · rintro ⟨opening, rendered, closing, closed, joined⟩
      obtain ⟨header, headed, body, opened, split⟩ := renderTemplate_eq_ok.mp rendered
      refine ⟨header, headed, body ++ closing, ?_, ?_⟩
      · exact (conversation_append ends notTool).mpr ⟨body, opened, closing, closed, rfl⟩
      · rw [← joined, ← split]
        simp only [promptText, append_assoc, nil_append, Bool.false_eq_true, if_false]

def usableTools (env : Environment) (tools : Option (List Value)) : Option (List Value) :=
  match toolsHeader env tools with
  | .ok _ => tools
  | .error _ => none

theorem toolsHeader_usable (env : Environment) (tools : Option (List Value)) :
    ∃ opened, toolsHeader env (usableTools env tools) = .ok opened := by
  cases listed : toolsHeader env tools with
  | ok opened =>
    have used : usableTools env tools = tools := by
      rw [usableTools, listed]
    exact ⟨opened, by rw [used, listed]⟩
  | error failure =>
    have unused : usableTools env tools = none := by
      rw [usableTools, listed]
    exact ⟨none, by rw [unused, toolsHeader]⟩

theorem rendered_eq_ok {result : Except TemplateError Text} {text : String} :
    rendered result = .ok text ↔ ∃ chars, result = .ok chars ∧ String.ofList chars = text := by
  cases result with
  | ok chars =>
    constructor
    · exact fun same => ⟨chars, rfl, Except.ok.inj same⟩
    · rintro ⟨other, same, written⟩
      cases same
      exact congrArg Except.ok written
  | error failure =>
    constructor
    · intro impossible
      cases impossible
    · rintro ⟨chars, impossible, -⟩
      cases impossible

theorem renderTemplate_error (fails : toolsHeader env tools = .error failure)
    (addGenerationPrompt : Bool) :
    renderTemplate env true (first :: rest) tools addGenerationPrompt = .error failure := by
  rw [renderTemplate, renderHeader_error fails]
  rfl

theorem renderTemplate_with_tools {opened : Option Text}
    (listed : toolsHeader env tools = .ok opened)
    (without : renderTemplate env true messages none addGenerationPrompt = .ok text) :
    ∃ text, renderTemplate env true messages tools addGenerationPrompt = .ok text := by
  cases messages with
  | nil => cases without
  | cons first rest =>
    obtain ⟨header, headed, body, walked, -⟩ := renderTemplate_eq_ok.mp without
    obtain ⟨-, -, system, read, -⟩ := renderHeader_eq_ok.mp headed
    have withTools := renderHeader_eq_ok.mpr ⟨opened, listed, system, read, rfl⟩
    exact ⟨_, renderTemplate_eq_ok.mpr ⟨_, withTools, body, walked, rfl⟩⟩

theorem tools_of_rendered {text : String}
    (rendered : applyChatTemplate env (first :: rest) tools addGenerationPrompt = .ok text)
    (fails : toolsHeader env tools = .error failure) :
    failure = .typeError := by
  cases failure with
  | typeError => rfl
  | undefinedError | raised message =>
    rw [applyChatTemplate, map_cons, renderTemplate_error fails] at rendered
    cases rendered

theorem applyChatTemplate_eq_ok (nonempty : messages ≠ []) {text : String}
    (tooled : ∀ failure, toolsHeader env tools = .error failure → failure = .typeError) :
    applyChatTemplate env messages tools addGenerationPrompt = .ok text ↔
      ∃ chars, renderTemplate env true (messages.map (normalizeMessage env))
        (usableTools env tools) addGenerationPrompt = .ok chars ∧ String.ofList chars = text := by
  rw [applyChatTemplate, rendered_eq_ok]
  cases listed : toolsHeader env tools with
  | error failure =>
    have unused : usableTools env tools = none := by
      rw [usableTools, listed]
    obtain rfl := tooled failure listed
    obtain ⟨first, rest, rfl⟩ := exists_cons_of_ne_nil nonempty
    rw [unused, map_cons, renderTemplate_error listed]
  | ok opened =>
    have used : usableTools env tools = tools := by
      rw [usableTools, listed]
    rw [used]
    cases made : renderTemplate env true (messages.map (normalizeMessage env)) tools
      addGenerationPrompt with
    | ok chars => rfl
    | error failure =>
      cases failure with
      | undefinedError => rfl
      | raised message => rfl
      | typeError =>
        constructor
        · rintro ⟨chars, without, -⟩
          obtain ⟨others, possible⟩ := renderTemplate_with_tools listed without
          rw [made] at possible
          cases possible
        · rintro ⟨chars, impossible, -⟩
          cases impossible

/-- The name of a tool message stands in the dummy call when it is a text, and a name that is
absent or falsy does not stand there. -/
def nameRenders (message : ChatMessage) : Bool :=
  match message.name with
  | none => true
  | some (.text _) => true
  | some value => !value.truthy

theorem orElse_isText {value : Value} {default : String} :
    (∃ name, orElse (some value) (.text default) = .text name) ↔
      value.truthy = false ∨ ∃ name, value = .text name := by
  by_cases truthy : value.truthy = true
  · have kept : orElse (some value) (.text default) = value := if_pos truthy
    rw [kept, truthy]
    exact ⟨.inr, fun either => either.resolve_left Bool.noConfusion⟩
  · have replaced : orElse (some value) (.text default) = .text default := if_neg truthy
    rw [replaced]
    exact ⟨fun _ => .inl (Bool.eq_false_of_not_eq_true truthy), fun _ => ⟨default, rfl⟩⟩

theorem dummyName_isText (message : ChatMessage) :
    (∃ name, dummyName message = .text name) ↔ nameRenders message = true := by
  unfold dummyName nameRenders
  cases message.name with
  | none => exact ⟨fun _ => rfl, fun _ => ⟨"dummy_func", rfl⟩⟩
  | some value =>
    rw [orElse_isText]
    cases value with
    | text name => exact ⟨fun _ => rfl, fun _ => .inr ⟨name, rfl⟩⟩
    | _ => simp

theorem calledName_eq_ok {name : Value} :
    (∃ text, calledName (some name) = .ok text) ↔ ∃ text, name = .text text := by
  constructor
  · rintro ⟨text, named⟩
    cases name with
    | text name => exact ⟨name, rfl⟩
    | _ => cases named
  · rintro ⟨text, rfl⟩
    exact ⟨text.toList, rfl⟩

theorem renderToolCall_dummy {first spaced : Bool} {response : ChatMessage} :
    (∃ text, renderToolCall env first spaced
      (normalizeToolCall env (dummyCall response index)) = .ok text) ↔
        nameRenders response = true := by
  have named : ((normalizeToolCall env (dummyCall response index)).field "function").getD
    (normalizeToolCall env (dummyCall response index)) =
      .object [("name", dummyName response), ("arguments", .object [])] := rfl
  rw [← dummyName_isText, ← calledName_eq_ok, renderToolCall, named]
  constructor
  · rintro ⟨text, written⟩
    obtain ⟨name, called, -⟩ := Effect.except_bind_eq_ok.mp written
    exact ⟨name, called⟩
  · rintro ⟨name, called⟩
    exact ⟨_, Effect.except_bind_eq_ok.mpr ⟨name, called, rfl⟩⟩

theorem renderToolCalls_dummy (env : Environment) {first spaced : Bool}
    {responses : List ChatMessage} :
    (∃ text, renderToolCalls env spaced first (((responses.zipIdx index).map
      (fun entry => dummyCall entry.1 entry.2)).map (normalizeToolCall env)) = .ok text) ↔
        ∀ response ∈ responses, nameRenders response = true := by
  induction responses generalizing first index with
  | nil => exact ⟨fun _ response listed => absurd listed not_mem_nil, fun _ => ⟨[], rfl⟩⟩
  | cons response rest ih =>
    rw [zipIdx_cons, map_cons, map_cons, renderToolCalls, forall_mem_cons]
    constructor
    · rintro ⟨text, written⟩
      obtain ⟨call, called, continued⟩ := Effect.except_bind_eq_ok.mp written
      obtain ⟨others, remaining, -⟩ := Effect.except_bind_eq_ok.mp continued
      exact ⟨renderToolCall_dummy.mp ⟨call, called⟩, ih.mp ⟨others, remaining⟩⟩
    · rintro ⟨named, restNamed⟩
      obtain ⟨call, called⟩ := renderToolCall_dummy.mpr named
      obtain ⟨others, remaining⟩ := ih.mpr restNamed
      exact ⟨_, Effect.except_bind_eq_ok.mpr ⟨call, called,
        Effect.except_bind_eq_ok.mpr ⟨others, remaining, rfl⟩⟩⟩

theorem content_of_dummyAssistant (responses : List ChatMessage) :
    contentOf env false (normalizeMessage env (buildDummyAssistant responses)) = .ok [] := by
  have content : (normalizeMessage env (buildDummyAssistant responses)).content =
      some (.text "") := by
    change normalizeContent _ = _
    unfold normalizeContent
    split <;> rfl
  rw [contentOf, content]
  rfl

theorem renderMessage_dummyAssistant (env : Environment) {responses : List ChatMessage}
    (index : Nat) (before after : Option ChatMessage) :
    (∃ text, renderMessage env true 0 index before
      (normalizeMessage env (buildDummyAssistant responses)) after = .ok text) ↔
        ∀ response ∈ responses, nameRenders response = true := by
  have assistant : renderMessage env true 0 index before
      (normalizeMessage env (buildDummyAssistant responses)) after =
        renderAssistant env true (normalizeMessage env (buildDummyAssistant responses)) [] := by
    rw [renderMessage, content_of_dummyAssistant]
    rfl
  have calls : renderCallsOf env false
    (normalizeMessage env (buildDummyAssistant responses)).toolCalls =
      renderToolCalls env false true ((dummyCalls responses).map (normalizeToolCall env)) := rfl
  rw [assistant, ← renderToolCalls_dummy env]
  constructor
  · rintro ⟨text, written⟩
    obtain ⟨made, called, -⟩ := Effect.except_bind_eq_ok.mp written
    exact ⟨made, calls.symm.trans called⟩
  · rintro ⟨made, called⟩
    exact ⟨_, Effect.except_bind_eq_ok.mpr ⟨made, calls.trans called, rfl⟩⟩

end Dressage.Proxy.ChatTemplate
