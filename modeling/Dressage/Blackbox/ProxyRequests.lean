/-
Model requests of the in-sandbox proxy and the scopes they run under.

A request waits for the pause to end, takes a step number of the turn scope that
is open then, and is forwarded by one of six handlers. The plain handlers await
one upstream answer; the streaming ones await the head of the answer, its error
body or its first frame, and hand the rest to the response stream. The scope
lock is never held over an await, so it never makes anyone wait.

A step is what one coroutine does from one await to the next. An exception and a
cancellation at an await, by a client that disconnects or by a shutdown, have
the same effect on the scopes and are one event. Texts are code points and may
hold halves of surrogate pairs, as decoded request bodies do. The records of
upstream errors, headers, requests that are no model requests and the responses
themselves are left out.
-/

import Mathlib.Algebra.Ring.Int.Defs
import Dressage.Lib.OrderedDict

namespace Dressage.Blackbox.ProxyRequests

open Lib

abbrev Text := List Nat

def textOf (literal : String) : Text := literal.toList.map Char.toNat

def isSurrogate (codePoint : Nat) : Bool := 0xD800 ≤ codePoint && codePoint ≤ 0xDFFF

def encodes (text : Text) : Bool := text.all (fun codePoint => !isSurrogate codePoint)

inductive Json (Number : Type) where
  | null
  | bool (value : Bool)
  | number (value : Number)
  | text (value : Text)
  | array (items : List (Json Number))
  | object (entries : List (Text × Json Number))

abbrev Body (Number : Type) := OrderedDict Text (Json Number)

namespace Json

variable {Number : Type}

def truthy [DecidableEq Number] [Zero Number] : Json Number → Bool
  | .null => false
  | .bool value => value
  | .number value => decide (value ≠ 0)
  | .text value => !value.isEmpty
  | .array items => !items.isEmpty
  | .object entries => !entries.isEmpty

def sized : Json Number → Bool
  | .text _ => true
  | .array _ => true
  | .object _ => true
  | _ => false

def isNull : Json Number → Bool
  | .null => true
  | _ => false

mutual

def encodable : Json Number → Bool
  | .text value => encodes value
  | .array items => itemsEncodable items
  | .object entries => entriesEncodable entries
  | _ => true

def itemsEncodable : List (Json Number) → Bool
  | [] => true
  | item :: rest => encodable item && itemsEncodable rest

def entriesEncodable : List (Text × Json Number) → Bool
  | [] => true
  | (key, value) :: rest => encodes key && encodable value && entriesEncodable rest

end

def ofBool [Zero Number] [One Number] (value : Bool) : Number := if value then 1 else 0

mutual

/-- `==`: truth values are numbers, and the order of an object's entries does not count. -/
def same [DecidableEq Number] [Zero Number] [One Number] : Json Number → Json Number → Bool
  | .null, .null => true
  | .bool left, .bool right => left == right
  | .bool left, .number right => decide (ofBool left = right)
  | .number left, .bool right => decide (left = ofBool right)
  | .number left, .number right => decide (left = right)
  | .text left, .text right => left == right
  | .array left, .array right => sameItems left right
  | .object left, .object right => left.length == right.length && sameEntries left right
  | _, _ => false

def sameItems [DecidableEq Number] [Zero Number] [One Number] :
    List (Json Number) → List (Json Number) → Bool
  | [], [] => true
  | left :: lefts, right :: rights => same left right && sameItems lefts rights
  | _, _ => false

def sameEntries [DecidableEq Number] [Zero Number] [One Number] :
    List (Text × Json Number) → List (Text × Json Number) → Bool
  | [], _ => true
  | (key, value) :: rest, other =>
    (match OrderedDict.lookup key other with
      | none => false
      | some found => same value found) && sameEntries rest other

end

end Json

inductive RequestKind
  | chatCompletion
  | anthropicMessages
  | openaiResponses
deriving DecidableEq, Repr

inductive SamplingMode
  | fillMissing
  | force
deriving DecidableEq, Repr

structure ProxyConfig (Number : Type) where
  maxSteps : Option Nat
  defaultTemperature : Option Number
  modelOverride : Option Text
  samplingMode : Option SamplingMode
  samplingTemperature : Option Number
  samplingTopP : Option Number
  samplingSeed : Option (Nat → Number)
  toChatCompletion : RequestKind → Body Number → Option (Body Number)
  /-- Writing the debug summary of the tools fails, for the body as it came and as translated. -/
  summaryRaises : RequestKind → Body Number → Body Number → Bool

variable {Number : Type} [DecidableEq Number] [Zero Number] [One Number]

def getJson (body : Body Number) (key : String) : Json Number :=
  body.getD (textOf key) .null

def wantsStream (body : Body Number) : Bool := (getJson body "stream").truthy

def translate (config : ProxyConfig Number) (kind : RequestKind) (body : Body Number) :
    Option (Body Number) :=
  match kind with
  | .chatCompletion => some body
  | .anthropicMessages => config.toChatCompletion .anthropicMessages body
  | .openaiResponses => config.toChatCompletion .openaiResponses body

def overrideModel (config : ProxyConfig Number) (body : Body Number) : Body Number :=
  match config.modelOverride with
  | none => body
  | some model => if textOf "model" ∈ body then body.set (textOf "model") (.text model) else body

def sampleField (mode : SamplingMode) (key : String) (value : Option Number)
    (body : Body Number) : Body Number :=
  match value with
  | none => body
  | some value =>
    if mode = .force ∨ (getJson body key).isNull = true then
      body.set (textOf key) (.number value)
    else body

def applySampling (config : ProxyConfig Number) (sequence : Nat) (body : Body Number) :
    Body Number × Nat :=
  match config.samplingMode with
  | none => (body, sequence)
  | some mode =>
    (sampleField mode "seed" (config.samplingSeed.map (fun seed => seed sequence))
      (sampleField mode "top_p" config.samplingTopP
        (sampleField mode "temperature" config.samplingTemperature body)), sequence + 1)

def fillTemperature (config : ProxyConfig Number) (body : Body Number) : Body Number :=
  sampleField .fillMissing "temperature" config.defaultTemperature body

def fixStreamOptions (body : Body Number) : Body Number :=
  if wantsStream body then
    match getJson body "stream_options" with
    | .object entries =>
      body.set (textOf "stream_options")
        (.object (OrderedDict.assign (textOf "include_usage") (.bool true) entries))
    | _ => body.set (textOf "stream_options") (.object [(textOf "include_usage", .bool true)])
  else body.pop (textOf "stream_options")

def messagesSized (body : Body Number) : Bool :=
  match body.get? (textOf "messages") with
  | none => true
  | some messages => messages.sized

structure Prepared (Number : Type) where
  body : Body Number
  sequence : Nat
  raises : Bool

/-- What `_handle_proxy` does between entering the scope and calling the handler. -/
def prepare (config : ProxyConfig Number) (sequence : Nat) (kind : RequestKind)
    (original translated : Body Number) : Prepared Number :=
  if !messagesSized translated || config.summaryRaises kind original translated then
    { body := translated
      sequence := sequence
      raises := true }
  else
    let sampled := applySampling config sequence (overrideModel config translated)
    let final := fixStreamOptions (fillTemperature config sampled.1)
    { body := final
      sequence := sampled.2
      raises := !Json.same (.object final.entries) (.object original.entries) &&
        !Json.encodable (.object final.entries) }

structure TurnScope where
  turnId : String
  backendSessionId : Option String
  stepCounter : Nat
  inflightRequests : Nat
  drained : Bool
  maxStepsExceeded : Bool
deriving DecidableEq, Repr

abbrev ScopeId := Nat

def TurnScope.opened (turnId : String) (backendSessionId : Option String) : TurnScope :=
  { turnId := turnId
    backendSessionId := backendSessionId
    stepCounter := 0
    inflightRequests := 0
    drained := true
    maxStepsExceeded := false }

def TurnScope.enter (scope : TurnScope) : TurnScope :=
  { scope with
    stepCounter := scope.stepCounter + 1
    inflightRequests := scope.inflightRequests + 1
    drained := false }

def TurnScope.finish (scope : TurnScope) : TurnScope :=
  { scope with
    inflightRequests := scope.inflightRequests - 1
    drained := scope.drained || scope.inflightRequests ≤ 1 }

inductive Closing
  | prelude
  | error
  | stream
deriving DecidableEq, Repr

inductive Phase
  | waiting
  | sending
  | readingError
  | prelude
  | closing (what : Closing)
  | ready
  | streaming
  | ended
deriving DecidableEq, Repr

structure Request (Number : Type) where
  kind : RequestKind
  body : Option (Body Number × Body Number)
  phase : Phase
  scope : Option ScopeId

def Request.streams (request : Request Number) : Bool :=
  request.body.any (fun bodies => wantsStream bodies.1)

structure Proxy (Number : Type) where
  scopes : List TurnScope
  turnScope : Option ScopeId
  paused : Bool
  samplingRequestSequence : Nat
  requests : List (Request Number)
  steps : List (ScopeId × Nat)

namespace Proxy

def init : Proxy Number :=
  { scopes := []
    turnScope := none
    paused := false
    samplingRequestSequence := 0
    requests := []
    steps := [] }

def setScope (proxy : Proxy Number) (scope : ScopeId) (change : TurnScope → TurnScope) :
    Proxy Number :=
  { proxy with scopes := proxy.scopes.modify scope change }

def setRequest (proxy : Proxy Number) (number : Nat)
    (change : Request Number → Request Number) : Proxy Number :=
  { proxy with requests := proxy.requests.modify number change }

def move (proxy : Proxy Number) (number : Nat) (phase : Phase) : Proxy Number :=
  proxy.setRequest number (fun request => { request with phase := phase })

def openTurn (proxy : Proxy Number) (turnId : String) (backendSessionId : Option String) :
    Proxy Number :=
  match proxy.turnScope with
  | some _ => proxy
  | none =>
    { proxy with
      scopes := proxy.scopes ++ [TurnScope.opened turnId backendSessionId]
      turnScope := some proxy.scopes.length }

def clearTurn (proxy : Proxy Number) : Proxy Number := { proxy with turnScope := none }

def pause (proxy : Proxy Number) : Proxy Number := { proxy with paused := true }

def resume (proxy : Proxy Number) : Proxy Number := { proxy with paused := false }

def turnDrained (proxy : Proxy Number) : Bool :=
  match proxy.turnScope with
  | none => true
  | some scope => (proxy.scopes[scope]?).any TurnScope.drained

/-- A request whose translation raises has not come to the scope. -/
def arrive (config : ProxyConfig Number) (proxy : Proxy Number) (kind : RequestKind)
    (body : Option (Body Number)) : Proxy Number :=
  match body with
  | none =>
    { proxy with
      requests := proxy.requests ++
        [{ kind := kind
           body := none
           phase := .waiting
           scope := none }] }
  | some original =>
    match translate config kind original with
    | none => proxy
    | some translated =>
      { proxy with
        requests := proxy.requests ++
          [{ kind := kind
             body := some (original, translated)
             phase := .waiting
             scope := none }] }

def prepareRequest (config : ProxyConfig Number) (proxy : Proxy Number)
    (request : Request Number) : Option (Prepared Number) :=
  request.body.map (fun bodies =>
    prepare config proxy.samplingRequestSequence request.kind bodies.1 bodies.2)

def preparationRaises (config : ProxyConfig Number) (proxy : Proxy Number)
    (request : Request Number) : Bool :=
  (proxy.prepareRequest config request).any Prepared.raises

def forward (config : ProxyConfig Number) (proxy : Proxy Number) (number : Nat)
    (request : Request Number) : Proxy Number :=
  { proxy.move number (if proxy.preparationRaises config request then .ended else .sending) with
    samplingRequestSequence :=
      (proxy.prepareRequest config request).elim proxy.samplingRequestSequence Prepared.sequence }

def exceedsMaxSteps (config : ProxyConfig Number) (scope : TurnScope) : Bool :=
  config.maxSteps.any (fun maxSteps => decide (maxSteps ≤ scope.stepCounter))

def countIn (proxy : Proxy Number) (scopeId : ScopeId) (scope : TurnScope) (number : Nat) :
    Proxy Number :=
  { (proxy.setScope scopeId TurnScope.enter).setRequest number
      (fun request => { request with scope := some scopeId }) with
    steps := proxy.steps ++ [(scopeId, scope.stepCounter)] }

def enterChatRequest (config : ProxyConfig Number) (proxy : Proxy Number) (number : Nat)
    (request : Request Number) : Proxy Number :=
  if proxy.paused then proxy
  else
    match proxy.turnScope with
    | none => proxy.forward config number request
    | some scopeId =>
      match proxy.scopes[scopeId]? with
      | none => proxy
      | some scope =>
        if exceedsMaxSteps config scope then
          (proxy.setScope scopeId (fun scope => { scope with maxStepsExceeded := true })).move
            number .ended
        else
          (proxy.countIn scopeId scope number).forward config number request

def markRequestFinished (proxy : Proxy Number) (scope : Option ScopeId) : Proxy Number :=
  match scope with
  | none => proxy
  | some scope => proxy.setScope scope TurnScope.finish

def finish (proxy : Proxy Number) (number : Nat) (request : Request Number) : Proxy Number :=
  (proxy.markRequestFinished request.scope).move number .ended

def interrupt (proxy : Proxy Number) (number : Nat) (request : Request Number) : Proxy Number :=
  match request.phase with
  | .waiting => proxy.move number .ended
  | .sending => proxy.finish number request
  -- no handler surrounds these awaits
  | .readingError => proxy.move number .ended
  | .prelude => proxy.move number (.closing .prelude)
  | .closing _ => proxy.move number .ended
  -- a generator that was never started has no `finally` to run
  | .ready => proxy.move number .ended
  | .streaming => proxy.move number (.closing .stream)
  | .ended => proxy

end Proxy

inductive Progress
  | enter
  | answered (statusCode : Nat)
  | errorRead (recordingRaises : Bool)
  | firstFrame
  | errorFrame (recordingRaises : Bool)
  | streamStarted
  | streamEnded
  | closed
  | interrupted
deriving DecidableEq, Repr

inductive Event (Number : Type)
  | openTurn (turnId : String) (backendSessionId : Option String)
  | clearTurn
  | pause
  | resume
  | arrive (kind : RequestKind) (body : Option (Body Number))
  | proceed (number : Nat) (progress : Progress)

def Proxy.proceed (config : ProxyConfig Number) (proxy : Proxy Number) (number : Nat)
    (request : Request Number) (progress : Progress) : Proxy Number :=
  match request.phase, progress with
  | .waiting, .enter => proxy.enterChatRequest config number request
  | .sending, .answered statusCode =>
    if !request.streams then proxy.finish number request
    else if 400 ≤ statusCode then proxy.move number .readingError
    else proxy.move number .prelude
  | .readingError, .errorRead raises =>
    proxy.move number (if raises then .ended else .closing .error)
  | .prelude, .firstFrame => proxy.move number .ready
  | .prelude, .errorFrame raises =>
    proxy.move number (if raises then .ended else .closing .error)
  | .ready, .streamStarted => proxy.move number .streaming
  | .streaming, .streamEnded => proxy.move number (.closing .stream)
  | .closing _, .closed => proxy.finish number request
  | _, .interrupted => proxy.interrupt number request
  | _, _ => proxy

def step (config : ProxyConfig Number) (proxy : Proxy Number) : Event Number → Proxy Number
  | .openTurn turnId backendSessionId => proxy.openTurn turnId backendSessionId
  | .clearTurn => proxy.clearTurn
  | .pause => proxy.pause
  | .resume => proxy.resume
  | .arrive kind body => proxy.arrive config kind body
  | .proceed number progress =>
    match proxy.requests[number]? with
    | none => proxy
    | some request => proxy.proceed config number request progress

end Dressage.Blackbox.ProxyRequests
