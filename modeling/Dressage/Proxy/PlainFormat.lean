/-
A small chat format to run the pipeline on.

Messages are a role and a text, rendered one per line behind their role; every
character is a token, and `#` is the token a message ends with. Rendering a
longer conversation extends the rendering of a shorter one, so sessions in this
format route the way real ones do.
-/

import Dressage.Proxy.ChatPipeline

namespace Dressage.Proxy.PlainFormat

open Lib Transport Generation

structure PlainMessage where
  role : String
  content : String
deriving DecidableEq, Repr

def renderMessage (message : PlainMessage) : String :=
  message.role ++ ":" ++ message.content ++ "#\n"

def renderTools (tools : Option (List String)) : String := String.join (tools.getD [])

def render (messages : List PlainMessage) (tools : Option (List String))
    (addGenerationPrompt : Bool) : String :=
  renderTools tools ++ String.join (messages.map renderMessage) ++
    (if addGenerationPrompt then "assistant:" else "")

def encode (text : String) : List Nat := text.toList.map Char.toNat

/-- Tool calls are named by their text and rendered behind the content. -/
def assistantMessage (content : Option String) (toolCalls : List String) (_ : Option String) :
    PlainMessage :=
  { role := "assistant"
    content := content.getD "" ++ String.join toolCalls }

def format : ChatFormat PlainMessage String String :=
  { normalizeTemplateMessages := .ok
    normalizeMessage := id
    messageMatches := fun left right => decide (left = right)
    role := fun message => some message.role
    roleText := PlainMessage.role
    roleRepr := fun message => "'" ++ message.role ++ "'"
    assistantMessage := assistantMessage
    canonicalMessages := fun messages => render messages none false
    canonicalTools := fun tools => String.join tools
    sha256 := id
    iterate := id
    renderMessages := fun messages tools flag => .ok (render messages tools flag)
    tokenizeMessages := fun messages tools flag => .ok (encode (render messages tools flag))
    applyChatTemplate := fun messages tools flag => .ok (render messages tools flag)
    encode := fun text => .ok (encode text)
    imEndId := some 35
    dummySystem := ⟨"system", "dummy system"⟩
    dummyUser := ⟨"user", "dummy user"⟩
    buildDummyAssistant := fun _ => ⟨"assistant", ""⟩ }

def config : ProxyConfig :=
  { tokenBuildMode := .tito
    titoModel := .qwen35
    recordTokenVersions := true
    maskNonlastVersionTokens := false
    contextWindow := none
    dynamicMaxTokens := true
    maxOutputTokens := none
    partialRollout := true
    maxPartialRolloutPreempts := none
    noneEqualsEmptyTools := true
    maxStepsPerSession := 0
    toolCallHookChain := none
    transferQueue := none }

def request (messages : List PlainMessage) : ChatRequest PlainMessage String :=
  { messages := messages
    tools := none
    instanceId := none
    turnId := some "turn"
    sandboxId := some "sandbox"
    expectedVersion := none
    seed := none
    maxTokens := none }

def response (text version : String) : SGLangResponse :=
  { inputTokenLogprobsRaw := []
    inputTokenTexts := []
    outputIds := encode text
    outputTokenLogprobs := (encode text).map (fun _ => 0)
    outputTokenTexts := []
    text := text
    metaFinishReason := some "stop"
    weightVersion := some version
    finishReason := "stop"
    inputLogprobsInvalid := false
    allLogprobsInvalid := false }

def quietHooks : DispatchAnswers :=
  { now := 0
    appliesTo := fun _ => some true
    outcome := fun _ => .completed }

def answers (chunks : List ChunkEvent) (content : String) (toolCalls : List String) :
    Answers String :=
  { uuidHex := "0"
    incarnationHex := "0"
    currentEpoch := 0
    currentVersion := none
    afterDispatch := quietHooks
    lease := .acquired
    chunks := chunks
    requestError := false
    settlement := .done ()
    reasoning := .done (none, content)
    toolCalls := .done (some content, toolCalls)
    beforeDispatch := quietHooks
    routedExperts := .ok ()
    put := .stored
    cancelledWhileRecording := false }

def asked (messages : List PlainMessage) (reply version : String) :
    ChatEvent PlainMessage String String :=
  { request := request messages
    answers := answers [.answered 0 (response (reply ++ "#") version) false] reply [] }

def start : ProxyState PlainMessage String := ProxyState.initial "session" "instance" 0

end Dressage.Proxy.PlainFormat
