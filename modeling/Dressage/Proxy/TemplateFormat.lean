/-
The chat format of the Qwen3.5 tokenizer: how messages are normalized, compared
and rendered, and the dummy conversation appended messages are rendered behind.

Of the tokenizer itself only this is used: ids decode piece by piece, a text is
decoded back from its encoding, a newline is one token, and the end-of-message
token, where the tokenizer has one, stands for its own text.
-/

import Dressage.Proxy.ChatTemplate

namespace Dressage.Proxy.ChatTemplate

open Lib

variable (env : Environment)

def canonicalToolCallId : Value → Value
  | .text id => .text (String.ofList (id.toList.filter Char.isAlphanum))
  | other => other

def parseArguments : Value → Value
  | .text arguments => (env.loads arguments).getD (.text arguments)
  | other => other

def normalizeFunction : Value → Value
  | .object entries => .object (Value.update "arguments" (parseArguments env) entries)
  | other => other

def normalizeToolCall : Value → Value
  | .object entries =>
    .object (Value.update "function" (normalizeFunction env)
      (Value.update "id" canonicalToolCallId entries))
  | other => other

def normalizeToolCalls : Option Value → Option Value
  | some (.array toolCalls) => some (.array (toolCalls.map (normalizeToolCall env)))
  | other => other

def isTruthy (value : Option Value) : Bool :=
  match value with
  | some value => value.truthy
  | none => false

def normalizeContent (message : ChatMessage) : Option Value :=
  if roleText message = some "assistant" ∧ isTruthy message.toolCalls = true then
    match message.content with
    | none => some (.text "")
    | some .null => some (.text "")
    | content => content
  else message.content

def normalizeMessage (message : ChatMessage) : ChatMessage :=
  { message with
    content := normalizeContent message
    toolCalls := normalizeToolCalls env message.toolCalls }

def canonicalValue : Option Value → Value
  | none => .null
  | some (.text value) => if value = "" then .null else .text value
  | some (.array []) => .null
  | some value => value.canonicalJsonish

def canonicalReasoning : Option Value → Option Text
  | none => none
  | some .null => none
  | some value =>
    match Text.stripChars (valueText env value) with
    | [] => none
    | stripped => some stripped

def messageMatches (stored current : ChatMessage) : Bool :=
  let stored := normalizeMessage env stored
  let current := normalizeMessage env current
  Value.same (canonicalValue stored.role) (canonicalValue current.role) &&
    Value.same (canonicalValue stored.content) (canonicalValue current.content) &&
    decide (canonicalReasoning env stored.reasoningContent =
      canonicalReasoning env current.reasoningContent) &&
    Value.same (canonicalValue stored.toolCalls) (canonicalValue current.toolCalls)

theorem messageMatches_self (message : ChatMessage) :
    messageMatches env message message = true := by
  simp only [messageMatches, Value.same_self, decide_true, Bool.and_self]

def rendered : Except TemplateError Text → Except String String
  | .ok text => .ok (String.ofList text)
  | .error failure => .error failure.describe

/-- A type error is taken for a template that takes no tools. -/
def applyChatTemplate (messages : List ChatMessage) (tools : Option (List Value))
    (addGenerationPrompt : Bool) : Except String String :=
  let normalized := messages.map (normalizeMessage env)
  rendered
    (match renderTemplate env true normalized tools addGenerationPrompt with
      | .error .typeError => renderTemplate env true normalized none addGenerationPrompt
      | other => other)

def plainMessage (role content : String) : ChatMessage where
  role := some (.text role)
  content := some (.text content)
  reasoningContent := none
  toolCalls := none
  name := none
  toolCallId := none

def dummySystem : ChatMessage := plainMessage "system" "dummy system"

def dummyUser : ChatMessage := plainMessage "user" "dummy user"

def orElse (value : Option Value) (default : Value) : Value :=
  match value with
  | some value => if value.truthy then value else default
  | none => default

def dummyName (response : ChatMessage) : Value := orElse response.name (.text "dummy_func")

def dummyCall (response : ChatMessage) (index : Nat) : Value :=
  .object
    [("id", orElse response.toolCallId (.text ("call0000" ++ toString index))),
      ("type", .text "function"),
      ("function", .object [("name", dummyName response), ("arguments", .object [])])]

def dummyCalls (toolResponses : List ChatMessage) : List Value :=
  toolResponses.zipIdx.map (fun entry => dummyCall entry.1 entry.2)

def buildDummyAssistant (toolResponses : List ChatMessage) : ChatMessage where
  role := some (.text "assistant")
  content := some (.text "")
  reasoningContent := some (.text " ")
  toolCalls := some (.array (dummyCalls toolResponses))
  name := none
  toolCallId := none

end Dressage.Proxy.ChatTemplate

namespace Dressage.Proxy

open Proxy.ChatTemplate

structure TextTokenizer where
  encode : String → List Nat
  decode : List Nat → String
  imEndId : Option Nat
  newline : Nat
  encode_newline : encode "\n" = [newline]
  decode_encode (text : String) : decode (encode text) = text
  decode_append (first second : List Nat) : decode (first ++ second) = decode first ++ decode second
  decode_imEnd {id : Nat} (known : imEndId = some id) : decode [id] = "<|im_end|>"

/-- The format of the tokenizer; what it does not define is the rest of the proxy's. -/
def qwen35Format {Call : Type} (proxy : ChatFormat ChatMessage Value Call) (env : Environment)
    (tokenizer : TextTokenizer) : ChatFormat ChatMessage Value Call :=
  { proxy with
    messageMatches := messageMatches env
    role := roleText
    applyChatTemplate := applyChatTemplate env
    encode := fun text => .ok (tokenizer.encode text)
    imEndId := tokenizer.imEndId
    dummySystem := dummySystem
    dummyUser := dummyUser
    buildDummyAssistant := buildDummyAssistant }

namespace TextTokenizer

/-- A text whose end-of-message markers are one token each and whose other characters are one
token each. -/
def encodeChars : List Char → List Nat
  | '<' :: '|' :: 'i' :: 'm' :: '_' :: 'e' :: 'n' :: 'd' :: '|' :: '>' :: rest =>
    0x110000 :: encodeChars rest
  | char :: rest => char.toNat :: encodeChars rest
  | [] => []

def tokenText (id : Nat) : List Char :=
  if id = 0x110000 then "<|im_end|>".toList else [Char.ofNat id]

theorem flatMap_tokenText_encodeChars (text : List Char) :
    (encodeChars text).flatMap tokenText = text := by
  fun_induction encodeChars text with
  | case1 rest ih => rw [List.flatMap_cons, ih]; rfl
  | case2 char rest _ ih =>
    have small : char.toNat ≠ 0x110000 := by
      have valid := char.valid
      unfold UInt32.isValidChar Nat.isValidChar at valid
      change char.val.toNat ≠ _
      omega
    rw [List.flatMap_cons, ih, tokenText, if_neg small, Char.ofNat_toNat]
    rfl
  | case3 => rfl

def markers : TextTokenizer where
  encode text := encodeChars text.toList
  decode ids := String.ofList (ids.flatMap tokenText)
  imEndId := some 0x110000
  newline := 10
  encode_newline := by decide
  decode_encode text := by rw [flatMap_tokenText_encodeChars, String.ofList_toList]
  decode_append first second := by rw [List.flatMap_append, String.ofList_append]
  decode_imEnd known := by
    cases known
    decide

end TextTokenizer

end Dressage.Proxy
