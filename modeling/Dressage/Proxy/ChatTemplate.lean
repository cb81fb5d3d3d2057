/-
The pinned Qwen3.5 chat template over parsed request messages.

A value is what a JSON text parses to, without the constants `NaN` and
`Infinity`; of a message only the keys are kept that the template or the
tokenizer reads, and an absent key is `none`. The template raises its own
exceptions, reads of undefined values and type errors; only a type error makes
the caller render once more without tools. Thinking is always enabled here.
The JSON filter, the JSON parser and the printing of floats and containers are
the environment's.
-/

import Mathlib.Data.Rat.Defs
import Dressage.Lib.Neighbours
import Dressage.Lib.Text
import Dressage.Proxy.TitoTokenizer

namespace Dressage.Proxy.ChatTemplate

open Lib

abbrev Text := List Char

inductive Value where
  | null
  | bool (value : Bool)
  | int (value : Int)
  | float (value : Rat)
  | text (value : String)
  | array (items : List Value)
  | object (entries : List (String × Value))

structure ChatMessage where
  role : Option Value
  content : Option Value
  reasoningContent : Option Value
  toolCalls : Option Value
  name : Option Value
  toolCallId : Option Value

inductive TemplateError where
  | typeError
  | undefinedError
  | raised (message : String)
deriving DecidableEq, Repr

def TemplateError.describe : TemplateError → String
  | .typeError => "TypeError"
  | .undefinedError => "UndefinedError"
  | .raised message => message

structure Environment where
  toJson : Value → Except TemplateError Text
  loads : String → Option Value
  floatText : Rat → Text
  containerText : Value → Text

namespace Value

def truthy : Value → Bool
  | .null => false
  | .bool value => value
  | .int value => decide (value ≠ 0)
  | .float value => decide (value ≠ 0)
  | .text value => decide (value ≠ "")
  | .array items => !items.isEmpty
  | .object entries => !entries.isEmpty

def field (key : String) : Value → Option Value
  | .object entries => entries.lookup key
  | _ => none

def isText (expected : String) : Value → Bool
  | .text value => decide (value = expected)
  | _ => false

def numeric : Value → Option Rat
  | .bool value => some (if value then 1 else 0)
  | .int value => some value
  | .float value => some value
  | _ => none

mutual

/-- `==`, of dicts whose keys are sorted. -/
def same : Value → Value → Bool
  | .null, .null => true
  | .text left, .text right => decide (left = right)
  | .array left, .array right => sameItems left right
  | .object left, .object right => sameEntries left right
  | left, right =>
    match numeric left, numeric right with
    | some left, some right => decide (left = right)
    | _, _ => false

def sameItems : List Value → List Value → Bool
  | [], [] => true
  | left :: lefts, right :: rights => same left right && sameItems lefts rights
  | _, _ => false

def sameEntries : List (String × Value) → List (String × Value) → Bool
  | [], [] => true
  | (leftKey, left) :: lefts, (rightKey, right) :: rights =>
    decide (leftKey = rightKey) && same left right && sameEntries lefts rights
  | _, _ => false

end

mutual

theorem same_self : ∀ value : Value, same value value = true
  | .null => by rw [same]
  | .bool value => by simp only [same, numeric, decide_true]
  | .int value => by simp only [same, numeric, decide_true]
  | .float value => by simp only [same, numeric, decide_true]
  | .text value => by simp only [same, decide_true]
  | .array items => by rw [same, sameItems_self items]
  | .object entries => by rw [same, sameEntries_self entries]

theorem sameItems_self : ∀ items : List Value, sameItems items items = true
  | [] => by rw [sameItems]
  | item :: rest => by rw [sameItems, same_self item, sameItems_self rest, Bool.and_self]

theorem sameEntries_self : ∀ entries : List (String × Value), sameEntries entries entries = true
  | [] => by rw [sameEntries]
  | (key, value) :: rest => by
    rw [sameEntries, same_self value, sameEntries_self rest, Bool.and_true, Bool.and_true]
    exact decide_eq_true rfl

end

def insertEntry (entry : String × Value) : List (String × Value) → List (String × Value)
  | [] => [entry]
  | first :: rest =>
    if first.1 < entry.1 then first :: insertEntry entry rest else entry :: first :: rest

mutual

def canonicalJsonish : Value → Value
  | .array items => .array (canonicalItems items)
  | .object entries => .object ((canonicalEntries entries).foldr insertEntry [])
  | other => other

def canonicalItems : List Value → List Value
  | [] => []
  | item :: rest => canonicalJsonish item :: canonicalItems rest

def canonicalEntries : List (String × Value) → List (String × Value)
  | [] => []
  | (key, value) :: rest =>
    if key = "index" then canonicalEntries rest
    else (key, canonicalJsonish value) :: canonicalEntries rest

end

def update (key : String) (change : Value → Value) (entries : List (String × Value)) :
    List (String × Value) :=
  entries.map (fun entry => if entry.1 = key then (entry.1, change entry.2) else entry)

end Value

def roleText (message : ChatMessage) : Option String :=
  match message.role with
  | some (.text role) => some role
  | _ => none

def contains (pattern : Text) : Text → Bool
  | [] => pattern.isEmpty
  | char :: rest => pattern.isPrefixOf (char :: rest) || contains pattern rest

def beforeFirst (separator : Text) : Text → Text
  | [] => []
  | char :: rest =>
    if separator.isPrefixOf (char :: rest) then [] else char :: beforeFirst separator rest

/-- `text.split(separator)[-1]`, of a separator that cannot overlap itself. -/
def afterLast (separator : Text) : Text → Text
  | [] => []
  | char :: rest =>
    if contains separator rest then afterLast separator rest
    else if separator.isPrefixOf (char :: rest) then (char :: rest).drop separator.length
    else char :: rest

def stripLeftNewlines (text : Text) : Text := text.dropWhile (fun char => char == '\n')

def stripRightNewlines (text : Text) : Text :=
  (text.reverse.dropWhile (fun char => char == '\n')).reverse

variable (env : Environment)

def valueText : Value → Text
  | .null => "None".toList
  | .bool value => if value then "True".toList else "False".toList
  | .int value => (toString value).toList
  | .float value => env.floatText value
  | .text value => value.toList
  | value => env.containerText value

def itemHas (key : String) : Value → Except TemplateError Bool
  | .text value => .ok (contains key.toList value.toList)
  | .array items => .ok (items.any (Value.isText key))
  | .object entries => .ok (entries.any (fun entry => entry.1 == key))
  | _ => .error .typeError

def itemTypeIs (expected : String) (item : Value) : Bool :=
  match item.field "type" with
  | some type => type.isText expected
  | none => false

def renderItem (isSystemContent : Bool) (item : Value) : Except TemplateError Text := do
  let image ← itemHas "image" item
  let imageUrl ← itemHas "image_url" item
  let video ← itemHas "video" item
  let text ← itemHas "text" item
  if image || imageUrl || itemTypeIs "image" item then
    if isSystemContent then .error (.raised "System message cannot contain images.")
    else .ok "<|vision_start|><|image_pad|><|vision_end|>".toList
  else if video || itemTypeIs "video" item then
    if isSystemContent then .error (.raised "System message cannot contain videos.")
    else .ok "<|vision_start|><|video_pad|><|vision_end|>".toList
  else if text then
    .ok (match item.field "text" with
      | some value => valueText env value
      | none => [])
  else .error (.raised "Unexpected item type in content.")

def renderItems (isSystemContent : Bool) : List Value → Except TemplateError Text
  | [] => .ok []
  | item :: rest => do
    let first ← renderItem env isSystemContent item
    let others ← renderItems isSystemContent rest
    .ok (first ++ others)

def renderContent (isSystemContent : Bool) : Option Value → Except TemplateError Text
  | some (.text value) => .ok value.toList
  | some (.array items) => renderItems env isSystemContent items
  | some .null => .ok []
  | none => .ok []
  | some _ => .error (.raised "Unexpected content type.")

def contentOf (isSystemContent : Bool) (message : ChatMessage) : Except TemplateError Text := do
  let rendered ← renderContent env isSystemContent message.content
  .ok (Text.stripChars rendered)

def toolInstructions : Text :=
  ("\n\nIf you choose to call a function ONLY reply in the following format with NO suffix:\n\n" ++
    "<tool_call>\n<function=example_function_name>\n<parameter=example_parameter_1>\nvalue_1\n" ++
    "</parameter>\n</function>\n</tool_call>").toList

def renderTools : List Value → Except TemplateError Text
  | [] => .ok []
  | tool :: rest => do
    let first ← env.toJson tool
    let others ← renderTools rest
    .ok ("\n".toList ++ first ++ others)

def toolsHeader : Option (List Value) → Except TemplateError (Option Text)
  | none => .ok none
  | some [] => .ok none
  | some tools => do
    let listed ← renderTools env tools
    .ok (some ("<|im_start|>system\n".toList ++
      "# Tools\n\nYou have access to the following functions:\n\n<tools>".toList ++ listed ++
      "\n</tools>".toList ++ toolInstructions))

def systemContent (first : ChatMessage) : Except TemplateError (Option Text) :=
  if roleText first = some "system" then do
    let content ← contentOf env true first
    .ok (some content)
  else .ok none

def joinHeader : Option Text → Option Text → Text
  | some opened, none => opened ++ "<|im_end|>\n".toList
  | some opened, some [] => opened ++ "<|im_end|>\n".toList
  | some opened, some content => opened ++ "\n\n".toList ++ content ++ "<|im_end|>\n".toList
  | none, some content => "<|im_start|>system\n".toList ++ content ++ "<|im_end|>\n".toList
  | none, none => []

def renderHeader (first : ChatMessage) (tools : Option (List Value)) :
    Except TemplateError Text := do
  let opened ← toolsHeader env tools
  let system ← systemContent env first
  .ok (joinHeader opened system)

/-- The messages are walked from the last one back; the index of a message is the number of
messages before it. -/
def searchQuery (unfound : Nat) : List ChatMessage → Except TemplateError Nat
  | [] => .ok unfound
  | message :: earlier =>
    if roleText message = some "user" then do
      let content ← contentOf env false message
      if "<tool_response>".toList.isPrefixOf content &&
          "</tool_response>".toList.isSuffixOf content then
        searchQuery unfound earlier
      else .ok earlier.length
    else searchQuery unfound earlier

def lastQueryIndex (messages : List ChatMessage) : Except TemplateError Nat :=
  searchQuery env (messages.length - 1) messages.reverse

def argumentText : Value → Except TemplateError Text
  | .object entries => env.toJson (.object entries)
  | .array items => env.toJson (.array items)
  | value => .ok (valueText env value)

def renderArguments : List (String × Value) → Except TemplateError Text
  | [] => .ok []
  | (name, value) :: rest => do
    let text ← argumentText env value
    let others ← renderArguments rest
    .ok ("<parameter=".toList ++ name.toList ++ ">\n".toList ++ text ++
      "\n</parameter>\n".toList ++ others)

def renderCallArguments : Option Value → Except TemplateError Text
  | none => .ok []
  | some (.object entries) => renderArguments env entries
  | some _ => .error .typeError

def calledName : Option Value → Except TemplateError Text
  | none => .error .undefinedError
  | some (.text name) => .ok name.toList
  | some _ => .error .typeError

def callOpening (first spaced : Bool) : Text :=
  if first then if spaced then "\n\n".toList else []
  else "\n".toList

def renderToolCall (first spaced : Bool) (toolCall : Value) : Except TemplateError Text := do
  let function := (toolCall.field "function").getD toolCall
  let name ← calledName (function.field "name")
  let arguments ← renderCallArguments env (function.field "arguments")
  .ok (callOpening first spaced ++ "<tool_call>\n<function=".toList ++ name ++ ">\n".toList ++
    arguments ++ "</function>\n</tool_call>".toList)

def renderToolCalls (spaced : Bool) : Bool → List Value → Except TemplateError Text
  | _, [] => .ok []
  | first, toolCall :: rest => do
    let text ← renderToolCall env first spaced toolCall
    let others ← renderToolCalls spaced false rest
    .ok (text ++ others)

def renderCallsOf (spaced : Bool) : Option Value → Except TemplateError Text
  | some (.array toolCalls) => renderToolCalls env spaced true toolCalls
  | some (.text toolCalls) => if toolCalls = "" then .ok [] else .error .undefinedError
  | _ => .ok []

def splitReasoning (message : ChatMessage) (content : Text) : Text × Text :=
  match message.reasoningContent with
  | some (.text reasoning) => (reasoning.toList, content)
  | _ =>
    if contains "</think>".toList content then
      (stripLeftNewlines (afterLast "<think>".toList
          (stripRightNewlines (beforeFirst "</think>".toList content))),
        stripLeftNewlines (afterLast "</think>".toList content))
    else ([], content)

def renderAssistant (keepsThinking : Bool) (message : ChatMessage) (content : Text) :
    Except TemplateError Text := do
  let split := splitReasoning message content
  let opened :=
    if keepsThinking then
      "<|im_start|>assistant\n<think>\n".toList ++ Text.stripChars split.1 ++
        "\n</think>\n\n".toList ++ split.2
    else "<|im_start|>assistant\n".toList ++ split.2
  let calls ← renderCallsOf env (!(Text.stripChars split.2).isEmpty) message.toolCalls
  .ok (opened ++ calls ++ "<|im_end|>\n".toList)

def isTool (message : ChatMessage) : Bool := decide (roleText message = some "tool")

/-- A run of tool messages opens behind a message that is none. A message that was rendered has
a role, so it is never an empty dict. -/
def opensRun (before : Option ChatMessage) : Bool :=
  match before with
  | some message => !isTool message
  | none => false

def closesRun (after : Option ChatMessage) : Bool :=
  match after with
  | some message => !isTool message
  | none => true

def renderToolResponse (before : Option ChatMessage) (content : Text)
    (after : Option ChatMessage) : Text :=
  (if opensRun before then "<|im_start|>user".toList else []) ++ "\n<tool_response>\n".toList ++
    content ++ "\n</tool_response>".toList ++
    (if closesRun after then "<|im_end|>\n".toList else [])

def renderMessage (preserveThinking : Bool) (lastQuery index : Nat)
    (before : Option ChatMessage) (message : ChatMessage) (after : Option ChatMessage) :
    Except TemplateError Text := do
  let content ← contentOf env false message
  if roleText message = some "system" then
    if index = 0 then .ok []
    else .error (.raised "System message must be at the beginning.")
  else if roleText message = some "user" then
    .ok ("<|im_start|>user\n".toList ++ content ++ "<|im_end|>\n".toList)
  else if roleText message = some "assistant" then
    renderAssistant env (preserveThinking || decide (lastQuery < index)) message content
  else if roleText message = some "tool" then
    .ok (renderToolResponse before content after)
  else .error (.raised "Unexpected message role.")

def generationPrompt : Text := "<|im_start|>assistant\n<think>\n".toList

def renderTemplate (preserveThinking : Bool) (messages : List ChatMessage)
    (tools : Option (List Value)) (addGenerationPrompt : Bool) : Except TemplateError Text :=
  match messages with
  | [] => .error (.raised "No messages provided.")
  | first :: _ => do
    let header ← renderHeader env first tools
    let lastQuery ← lastQueryIndex env messages
    let body ← Neighbours.walk (renderMessage env preserveThinking lastQuery) 0 none messages none
    .ok (header ++ body ++ if addGenerationPrompt then generationPrompt else [])

end Dressage.Proxy.ChatTemplate
