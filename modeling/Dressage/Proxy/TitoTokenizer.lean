/-
Incremental tokenization of append-only chat context.

The message type, the chat template and the tokenizer are not fixed: whatever
the proxy asks of them is a field of `ChatFormat`, and fallible where the call
may raise. The tokenizers here render the appended messages behind a dummy
conversation, encode the rendered difference, and put it behind the token ids
the engine has already seen.
-/

import Mathlib.Data.List.Basic
import Dressage.Proxy.Session

namespace Dressage.Proxy

/-- The questions the proxy asks about messages, tools, templates and tokens. `Call` is the
type of a parsed tool call. -/
structure ChatFormat (Message Tool Call : Type) where
  normalizeTemplateMessages : List Message → Except String (List Message)
  normalizeMessage : Message → Message
  messageMatches : Message → Message → Bool
  role : Message → Option String
  roleText : Message → String
  roleRepr : Message → String
  assistantMessage : Option String → List Call → Option String → Message
  canonicalMessages : List Message → String
  canonicalTools : List Tool → String
  sha256 : String → String
  iterate : List StepId → List StepId
  renderMessages : List Message → Option (List Tool) → Bool → Except String String
  tokenizeMessages : List Message → Option (List Tool) → Bool → Except String (List Nat)
  applyChatTemplate : List Message → Option (List Tool) → Bool → Except String String
  encode : String → Except String (List Nat)
  imEndId : Option Nat
  dummySystem : Message
  dummyUser : Message
  buildDummyAssistant : List Message → Message

inductive TitoModel
  | qwen35
  | qwen36
deriving DecidableEq, Repr

namespace TitoTokenizer

variable {Message Tool Call : Type} (format : ChatFormat Message Tool Call)

def allowedAppendRoles : List String := ["tool", "user"]

def newlineId : Option Nat :=
  match format.encode "\n" with
  | .ok [token] => some token
  | _ => none

def rolesRepr (messages : List Message) : String :=
  "[" ++ String.intercalate ", " (messages.map format.roleRepr) ++ "]"

def roleAllowed (message : Message) : Bool :=
  match format.role message with
  | none => false
  | some role => decide (role ∈ allowedAppendRoles)

def assertAppendOnlyWithAllowedRoles (stored current : List Message) : Except String Unit :=
  if current.length < stored.length then
    .error s!"new messages ({current.length}) are fewer than stored messages ({stored.length})"
  else
    match (stored.zip current).findIdx? (fun pair => !format.messageMatches pair.1 pair.2) with
    | some index => .error s!"message mismatch at index {index}"
    | none =>
      match ((current.drop stored.length).zipIdx stored.length).find?
        (fun entry => !roleAllowed format entry.1) with
      | some (message, index) =>
        .error (s!"appended message at index {index} has role={format.roleRepr message}, " ++
          "allowed=['tool', 'user']")
      | none => .ok ()

def splitAppendedSegments : List Message → List Message → Except String (List (List Message))
  | toolRun, [] => .ok (if toolRun = [] then [] else [toolRun])
  | toolRun, message :: rest =>
    if format.role message = some "tool" then
      splitAppendedSegments (toolRun ++ [message]) rest
    else if format.role message = some "user" then do
      let segments ← splitAppendedSegments [] rest
      .ok ((if toolRun = [] then [] else [toolRun]) ++ [message] :: segments)
    else
      .error s!"unsupported appended role for TITO tokenization: {format.roleText message}"

def tokenizeRenderedSuffix (base appended : List Message) (tools : Option (List Tool))
    (addGenerationPrompt : Bool) : Except String (List Nat) := do
  let renderedWithout ← format.applyChatTemplate base tools false
  let renderedWith ← format.applyChatTemplate (base ++ appended) tools addGenerationPrompt
  if renderedWithout.toList.isPrefixOf renderedWith.toList then
    format.encode (String.ofList (renderedWith.toList.drop renderedWithout.length))
  else if appended = [] then .error "rendered suffix diff failed for ['generation_prompt']"
  else .error s!"rendered suffix diff failed for {rolesRepr format appended}"

def toolBase (model : TitoModel) (segment : List Message) : List Message :=
  match model with
  | .qwen35 => [format.dummySystem, format.buildDummyAssistant segment]
  | .qwen36 => [format.dummySystem, format.dummyUser, format.buildDummyAssistant segment]

def userBase (model : TitoModel) : List Message :=
  match model with
  | .qwen35 => [format.dummySystem]
  | .qwen36 => [format.dummySystem, format.dummyUser]

def tokenizeSegment (model : TitoModel) (tools : Option (List Tool)) (segment : List Message) :
    Except String (List Nat) :=
  match segment with
  | [] => .error "list index out of range"
  | first :: _ =>
    if format.role first = some "tool" then
      tokenizeRenderedSuffix format (toolBase format model segment) segment tools false
    else if format.role first = some "user" then
      tokenizeRenderedSuffix format (userBase format model) [first] tools false
    else .error s!"unsupported appended role for TITO tokenization: {format.roleText first}"

def tokenizeSegments (model : TitoModel) (tools : Option (List Tool)) :
    List (List Message) → Except String (List Nat)
  | [] => .ok []
  | segment :: rest => do
    let first ← tokenizeSegment format model tools segment
    let others ← tokenizeSegments model tools rest
    .ok (first ++ others)

def tokenizeAdditionalNonAssistant (model : TitoModel) (old new : List Message)
    (tools : Option (List Tool)) : Except String (List Nat) := do
  assertAppendOnlyWithAllowedRoles format old new
  if model = .qwen36 ∧ old = [] then
    let rendered ← format.applyChatTemplate new tools true
    format.encode rendered
  else
    let segments ← splitAppendedSegments format [] (new.drop old.length)
    let incremental ← tokenizeSegments format model tools segments
    let generationPrompt ← tokenizeRenderedSuffix format new [] tools true
    .ok (incremental ++ generationPrompt)

/-- The newline a template puts behind an end-of-message token the engine stopped at. -/
def closePrefix (pretokenized : List Nat) : List Nat :=
  match format.imEndId, newlineId format, pretokenized.getLast? with
  | some imEnd, some newline, some last => if last = imEnd then [newline] else []
  | _, _, _ => []

def mergeTokens (model : TitoModel) (old new : List Message) (pretokenized : List Nat)
    (tools : Option (List Tool)) : Except String (List Nat) := do
  let incremental ← tokenizeAdditionalNonAssistant format model old new tools
  .ok (pretokenized ++ closePrefix format pretokenized ++ incremental)

theorem mergeTokens_extends {model : TitoModel} {old new : List Message}
    {pretokenized merged : List Nat} {tools : Option (List Tool)}
    (returned : mergeTokens format model old new pretokenized tools = .ok merged) :
    merged = pretokenized ++ merged.drop pretokenized.length := by
  unfold mergeTokens at returned
  cases added : tokenizeAdditionalNonAssistant format model old new tools with
  | error message =>
    rw [added] at returned
    cases returned
  | ok incremental =>
    rw [added] at returned
    have value : merged = pretokenized ++ closePrefix format pretokenized ++ incremental := by
      cases returned
      rfl
    rw [value, List.append_assoc, List.drop_left]

end TitoTokenizer

end Dressage.Proxy
