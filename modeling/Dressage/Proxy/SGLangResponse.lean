/-
Reading an answer of SGLang.

Token ids come from one list and log-probabilities from another, and either may lack entries.
Three tests guard their alignment: as many entries as ids, a log-probability in each of them,
and the ids of the entries, where there are any, equal to the ids.
-/

import Dressage.Harbor.AttemptValidation
import Dressage.Lib.Effects

namespace Dressage.Proxy.SGLang

open Lib.Effect List Option
open Harbor (Value PyFloat)

inductive CoercionError where
  | attributeError
  | typeError
  | overflowError
deriving DecidableEq

structure Conversions where
  intOfText : String → Option Int
  floatOfText : String → Option PyFloat
  floatOfInt : Int → ℚ
  str : Value → String

variable (conversions : Conversions)

def toInt : Value → Except CoercionError (Option Int)
  | .null | .list _ | .dict _ => .ok none
  | .bool value => .ok (some (if value then 1 else 0))
  | .int value => .ok (some value)
  | .float (.finite value) => .ok (some (value.num.tdiv value.den))
  | .float .nan => .ok none
  | .float .infinite => .error .overflowError
  | .text value => .ok (conversions.intOfText value)

def toFloat : Value → Except CoercionError (Option PyFloat)
  | .null | .list _ | .dict _ => .ok none
  | .bool value => .ok (some (.finite (if value then 1 else 0)))
  | .int value =>
    if Value.overflows value then .error .overflowError
    else .ok (some (.finite (conversions.floatOfInt value)))
  | .float value => .ok (some value)
  | .text value => .ok (conversions.floatOfText value)

/-- `get` with the other keys as defaults, one in the other. -/
def firstOf (entries : List (String × Value)) (keys : List String) : Value :=
  (keys.findSome? fun key => entries.lookup key).getD .null

def coerceIntList : Value → Except CoercionError (List Int)
  | .list values => do return (← values.mapM (toInt conversions)).filterMap id
  | _ => .ok []

structure LogprobEntry where
  logprob : Option PyFloat
  tokenId : Option Int
  text : Option String

def coerceParts (logprob tokenId text : Value) : Except CoercionError LogprobEntry := do
  let logprob ← toFloat conversions logprob
  let tokenId ← toInt conversions tokenId
  return (
    { logprob := logprob
      tokenId := tokenId
      text := match text with
        | .null => none
        | text => some (conversions.str text) })

def coerceLogprobEntry : Value → Except CoercionError LogprobEntry
  | .dict entry => coerceParts conversions (firstOf entry ["logprob"])
    (firstOf entry ["token_id", "id", "token"])
    (firstOf entry ["token_text", "text", "token_str", "decoded_token"])
  | .list entry => coerceParts conversions (entry.getD 0 .null) (entry.getD 1 .null)
    (entry.getD 2 .null)
  | entry => do
    let logprob ← toFloat conversions entry
    return (
      { logprob := logprob
        tokenId := none
        text := none })

def iterated (entries : Value) : Except CoercionError (List Value) :=
  if entries.truthy then
    match entries with
    | .list items => .ok items
    | .text text => .ok (text.toList.map fun letter => .text letter.toString)
    | .dict entries => .ok (entries.map fun entry => .text entry.1)
    | _ => .error .typeError
  else .ok []

def parseLogprobEntries (entries : Value) : Except CoercionError (List LogprobEntry) := do
  (← iterated entries).mapM (coerceLogprobEntry conversions)

def normalizeLogprobs (rawValues : List (Option PyFloat)) (expectedLength : Nat)
    (nullIsValidZero : Bool) : List PyFloat × Bool :=
  ((List.range expectedLength).map fun index => (rawValues[index]?.join).getD (.finite 0),
    decide (rawValues.length ≠ expectedLength) || (List.range expectedLength).any fun index =>
      (rawValues[index]?.join).isNone && (decide (rawValues.length ≤ index) || !nullIsValidZero))

def normalizeTexts (rawValues : List (Option String)) (expectedLength : Nat) : List String :=
  (List.range expectedLength).map fun index => (rawValues[index]?.join).getD ""

structure SGLangResponse where
  inputTokenIds : List Int
  inputTokenLogprobsRaw : List PyFloat
  inputTokenTexts : List String
  outputIds : List Int
  outputTokenLogprobs : List PyFloat
  outputTokenTexts : List String
  outputVersions : List String
  allTokenIds : List Int
  allLogprobs : List PyFloat
  text : Value
  metaInfo : List (String × Value)
  finishReason : String
  inputLogprobsInvalid : Bool
  allLogprobsInvalid : Bool
  routedExperts : Option String

def respond (data metaInfo : List (String × Value)) (inputIds : List Int)
    (expectInputLogprobs : Bool) (inputEntries outputEntries : List LogprobEntry)
    (givenIds : List Int) : SGLangResponse :=
  let parsedIds := outputEntries.filterMap LogprobEntry.tokenId
  let outputIds := if givenIds = [] then parsedIds else givenIds
  let input :=
    if expectInputLogprobs then
      normalizeLogprobs (inputEntries.map LogprobEntry.logprob) inputIds.length true
    else (List.replicate inputIds.length (.finite 0), false)
  let output := normalizeLogprobs (outputEntries.map LogprobEntry.logprob) outputIds.length false
  let finishReason := (metaInfo.lookup "finish_reason").getD (.dict [])
  { inputTokenIds := inputIds
    inputTokenLogprobsRaw := input.1
    inputTokenTexts := normalizeTexts (inputEntries.map LogprobEntry.text) inputIds.length
    outputIds := outputIds
    outputTokenLogprobs := output.1
    outputTokenTexts := normalizeTexts (outputEntries.map LogprobEntry.text) outputIds.length
    outputVersions := match firstOf metaInfo ["weight_version", "version"] with
      | .null => []
      | version => List.replicate outputIds.length (conversions.str version)
    allTokenIds := inputIds ++ outputIds
    allLogprobs := input.1 ++ output.1
    text := (data.lookup "text").getD (.text "")
    metaInfo := metaInfo
    finishReason := match finishReason with
      | .dict reason => conversions.str ((reason.lookup "type").getD (.text "stop"))
      | reason => if reason.truthy then conversions.str reason else "stop"
    inputLogprobsInvalid := input.2
    allLogprobsInvalid :=
      input.2 || output.2 || !parsedIds.isEmpty && decide (parsedIds ≠ outputIds)
    routedExperts := match metaInfo.lookup "routed_experts" with
      | some (.text experts) => some experts
      | _ => none }

/-- `data.get("meta_info", {})`, as far as it has a `get`. -/
def metaInfoOf (data : List (String × Value)) : Except CoercionError (List (String × Value)) :=
  match data.lookup "meta_info" with
  | none => .ok []
  | some (.dict metaInfo) => .ok metaInfo
  | some _ => .error .attributeError

def logprobsOf (metaInfo : List (String × Value)) (key : String) : Value :=
  (metaInfo.lookup key).getD (.list [])

def coerceResponse (data : List (String × Value)) (inputIds : List Int)
    (expectInputLogprobs : Bool) : Except CoercionError SGLangResponse := do
  let metaInfo ← metaInfoOf data
  let input ← parseLogprobEntries conversions (logprobsOf metaInfo "input_token_logprobs")
  let output ← parseLogprobEntries conversions (logprobsOf metaInfo "output_token_logprobs")
  let givenIds ← coerceIntList conversions ((data.lookup "output_ids").getD .null)
  return respond conversions data metaInfo inputIds expectInputLogprobs input output givenIds

def outputEntries (data : List (String × Value)) : Except CoercionError (List Value) := do
  iterated (logprobsOf (← metaInfoOf data) "output_token_logprobs")

structure Aligned (data : List (String × Value)) (response : SGLangResponse) : Prop where
  logprobs : response.outputTokenLogprobs.length = response.outputIds.length
  texts : response.outputTokenTexts.length = response.outputIds.length
  entries : response.allLogprobsInvalid = false → ∀ listed, outputEntries data = .ok listed →
    (∃ entry ∈ listed, ∃ parts, coerceLogprobEntry conversions entry = .ok parts ∧
      parts.tokenId ≠ none) →
    ∀ (index : Nat) id, response.outputIds[index]? = some id →
      ∃ entry parts logprob, listed[index]? = some entry ∧
        coerceLogprobEntry conversions entry = .ok parts ∧ parts.tokenId = some id ∧
        parts.logprob = some logprob ∧ response.outputTokenLogprobs[index]? = some logprob

/-- No number of the entries or the ids is out of range, and the containers are of the
kinds that the reader expects. -/
structure Readable (data : List (String × Value)) : Prop where
  metaInfo : ∀ value, data.lookup "meta_info" = some value → ∃ entries, value = .dict entries
  logprobs : ∀ metaInfo, metaInfoOf data = .ok metaInfo →
    ∀ key ∈ ["input_token_logprobs", "output_token_logprobs"], ∀ value,
      metaInfo.lookup key = some value → value = .null ∨ ∃ items, value = .list items ∧
        ∀ entry ∈ items, ∃ parts, coerceLogprobEntry conversions entry = .ok parts
  outputIds : ∀ items, data.lookup "output_ids" = some (.list items) →
    ∀ id ∈ items, ∃ read, toInt conversions id = .ok read

variable {conversions} {data : List (String × Value)} {inputIds : List Int}
variable {expectInputLogprobs : Bool}

theorem normalizeLogprobs_length (rawValues : List (Option PyFloat)) (expectedLength : Nat)
    (nullIsValidZero : Bool) :
    (normalizeLogprobs rawValues expectedLength nullIsValidZero).1.length = expectedLength := by
  simp [normalizeLogprobs]

theorem normalizeLogprobs_valid {rawValues : List (Option PyFloat)} {expectedLength : Nat}
    (valid : (normalizeLogprobs rawValues expectedLength false).2 = false) :
    rawValues.length = expectedLength ∧ ∀ index, index < expectedLength →
      ∃ logprob, rawValues[index]? = some (some logprob) ∧
        (normalizeLogprobs rawValues expectedLength false).1[index]? = some logprob := by
  simp only [normalizeLogprobs, Bool.or_eq_false_iff, decide_eq_false_iff_not, not_not,
    List.any_eq_false, mem_range] at valid
  obtain ⟨length, nonnull⟩ := valid
  refine ⟨length, ?_⟩
  intro index within
  have present := nonnull index within
  rw [Bool.not_false, Bool.or_true, Bool.and_true, isNone_iff_eq_none] at present
  obtain ⟨logprob, isLogprob⟩ := ne_none_iff_exists'.mp present
  refine ⟨logprob, join_eq_some_iff.mp isLogprob, ?_⟩
  simp only [normalizeLogprobs, getElem?_map, getElem?_range within, map_some, isLogprob, getD_some]

theorem tokenId_of_length {entries : List LogprobEntry}
    (length : (entries.filterMap LogprobEntry.tokenId).length = entries.length) {index : Nat}
    {id : Int} (found : (entries.filterMap LogprobEntry.tokenId)[index]? = some id) :
    ∃ entry, entries[index]? = some entry ∧ entry.tokenId = some id := by
  induction entries generalizing index with
  | nil => cases found
  | cons entry rest ih =>
    cases known : entry.tokenId with
    | none =>
      rw [filterMap_cons_none known, length_cons] at length
      have bounded := length_filterMap_le LogprobEntry.tokenId rest
      omega
    | some own =>
      rw [filterMap_cons_some known] at length found
      cases index with
      | zero => exact ⟨entry, rfl, known.trans found⟩
      | succ index => exact ih (Nat.succ.inj length) found

theorem coerceResponse_ok {response : SGLangResponse}
    (coerced : coerceResponse conversions data inputIds expectInputLogprobs = .ok response) :
    ∃ metaInfo input listed output givenIds,
      outputEntries data = .ok listed ∧
        listed.mapM (coerceLogprobEntry conversions) = .ok output ∧
        response = respond conversions data metaInfo inputIds expectInputLogprobs input output
          givenIds := by
  obtain ⟨metaInfo, isMeta, coerced⟩ := except_bind_eq_ok.mp coerced
  obtain ⟨input, _, coerced⟩ := except_bind_eq_ok.mp coerced
  obtain ⟨output, isOutput, coerced⟩ := except_bind_eq_ok.mp coerced
  obtain ⟨givenIds, _, coerced⟩ := except_bind_eq_ok.mp coerced
  obtain ⟨listed, isListed, parsed⟩ := except_bind_eq_ok.mp isOutput
  refine ⟨metaInfo, input, listed, output, givenIds, ?_, parsed, (Except.ok.inj coerced).symm⟩
  rw [outputEntries, isMeta]
  exact isListed

theorem respond_entries {metaInfo : List (String × Value)} {input output : List LogprobEntry}
    {givenIds : List Int}
    (valid : (respond conversions data metaInfo inputIds expectInputLogprobs input output
      givenIds).allLogprobsInvalid = false)
    (named : ∃ entry ∈ output, entry.tokenId ≠ none) :
    let response := respond conversions data metaInfo inputIds expectInputLogprobs input output
      givenIds
    ∀ (index : Nat) id, response.outputIds[index]? = some id →
      ∃ entry logprob, output[index]? = some entry ∧ entry.tokenId = some id ∧
        entry.logprob = some logprob ∧ response.outputTokenLogprobs[index]? = some logprob := by
  simp only [respond, Bool.or_eq_false_iff, Bool.and_eq_false_iff, Bool.not_eq_false',
    decide_eq_false_iff_not, not_not] at valid ⊢
  obtain ⟨⟨_, logprobs⟩, ids⟩ := valid
  generalize (if givenIds = [] then output.filterMap LogprobEntry.tokenId else givenIds) =
    outputIds at *
  have same : output.filterMap LogprobEntry.tokenId = outputIds := by
    refine ids.resolve_left (fun empty => ?_)
    obtain ⟨entry, member, known⟩ := named
    obtain ⟨id, isId⟩ := ne_none_iff_exists'.mp known
    have inIds := mem_filterMap.mpr ⟨entry, member, isId⟩
    rw [List.isEmpty_iff.mp empty] at inIds
    cases inIds
  obtain ⟨length, valued⟩ := normalizeLogprobs_valid logprobs
  rw [length_map, ← same] at length
  intro index id found
  have within := (List.getElem_of_getElem? found).1
  rw [← same] at found
  obtain ⟨entry, atIndex, known⟩ := tokenId_of_length length.symm found
  obtain ⟨logprob, isLogprob, returned⟩ := valued index within
  rw [getElem?_map, atIndex, map_some, some_inj] at isLogprob
  exact ⟨entry, logprob, atIndex, known, isLogprob, returned⟩

theorem parsed_at {listed : List Value} {output : List LogprobEntry}
    (parsed : listed.mapM (coerceLogprobEntry conversions) = .ok output) {index : Nat}
    {entry : Value} {parts : LogprobEntry} :
    (output[index]? = some parts → ∃ source, listed[index]? = some source ∧
      coerceLogprobEntry conversions source = .ok parts) ∧
    (listed[index]? = some entry → coerceLogprobEntry conversions entry = .ok parts →
      parts ∈ output) := by
  obtain ⟨length, each⟩ := forall₂_iff_get.mp (except_mapM_eq_ok parsed)
  constructor
  · intro found
    obtain ⟨within, rfl⟩ := List.getElem_of_getElem? found
    exact ⟨_, getElem?_eq_getElem (length ▸ within), each index _ within⟩
  · intro found isParts
    obtain ⟨within, rfl⟩ := List.getElem_of_getElem? found
    have atIndex := each index within (length ▸ within)
    rw [get_eq_getElem, isParts, Except.ok.injEq] at atIndex
    exact atIndex ▸ getElem_mem _

theorem aligned_of_ok {response : SGLangResponse}
    (coerced : coerceResponse conversions data inputIds expectInputLogprobs = .ok response) :
    Aligned conversions data response := by
  obtain ⟨metaInfo, input, listed, output, givenIds, isListed, parsed, rfl⟩ :=
    coerceResponse_ok coerced
  refine ⟨normalizeLogprobs_length _ _ false, by simp [respond, normalizeTexts], ?_⟩
  intro valid others same named index id found
  rw [isListed, Except.ok.injEq] at same
  subst same
  have namedOutput : ∃ entry ∈ output, entry.tokenId ≠ none := by
    obtain ⟨entry, member, parts, isParts, known⟩ := named
    obtain ⟨position, atPosition⟩ := mem_iff_getElem?.mp member
    exact ⟨parts, (parsed_at parsed).2 atPosition isParts, known⟩
  obtain ⟨parts, logprob, atIndex, known, isLogprob, returned⟩ :=
    respond_entries valid namedOutput index id found
  obtain ⟨entry, isEntry, isParts⟩ := (@parsed_at _ _ _ parsed _ .null _).1 atIndex
  exact ⟨entry, parts, logprob, isEntry, isParts, known, isLogprob, returned⟩

theorem mapM_total {α β ε : Type} {step : α → Except ε β} {items : List α}
    (total : ∀ item ∈ items, ∃ result, step item = .ok result) :
    ∃ results, items.mapM step = .ok results := by
  cases mapped : items.mapM step with
  | ok results => exact ⟨results, rfl⟩
  | error failure =>
    obtain ⟨item, member, failed⟩ := except_mapM_eq_error mapped
    obtain ⟨result, isResult⟩ := total item member
    rw [failed] at isResult
    cases isResult

theorem parseLogprobEntries_total {metaInfo : List (String × Value)} {key : String}
    (readable : ∀ value, metaInfo.lookup key = some value →
      value = .null ∨ ∃ items, value = .list items ∧
        ∀ entry ∈ items, ∃ parts, coerceLogprobEntry conversions entry = .ok parts) :
    ∃ entries, parseLogprobEntries conversions (logprobsOf metaInfo key) = .ok entries := by
  have total : ∀ items : List Value,
      (∀ entry ∈ items, ∃ parts, coerceLogprobEntry conversions entry = .ok parts) →
        ∃ entries, parseLogprobEntries conversions (.list items) = .ok entries := by
    intro items each
    obtain ⟨entries, parsed⟩ := mapM_total each
    refine ⟨entries, ?_⟩
    cases items with
    | nil => exact parsed
    | cons first rest => exact parsed
  unfold logprobsOf
  cases found : metaInfo.lookup key with
  | none => exact total [] (by simp)
  | some value =>
    rcases readable value found with rfl | ⟨items, rfl, each⟩
    · exact total [] (by simp)
    · exact total items each

theorem coerceResponse_total (readable : Readable conversions data) :
    ∃ response, coerceResponse conversions data inputIds expectInputLogprobs = .ok response := by
  obtain ⟨metaInfo, isMeta⟩ : ∃ metaInfo, metaInfoOf data = .ok metaInfo := by
    unfold metaInfoOf
    cases found : data.lookup "meta_info" with
    | none => exact ⟨[], rfl⟩
    | some value =>
      obtain ⟨entries, rfl⟩ := readable.metaInfo value found
      exact ⟨entries, rfl⟩
  obtain ⟨input, isInput⟩ := parseLogprobEntries_total
    (readable.logprobs metaInfo isMeta "input_token_logprobs" (by simp))
  obtain ⟨output, isOutput⟩ := parseLogprobEntries_total
    (readable.logprobs metaInfo isMeta "output_token_logprobs" (by simp))
  obtain ⟨givenIds, isGiven⟩ : ∃ ids, coerceIntList conversions
      ((data.lookup "output_ids").getD .null) = .ok ids := by
    cases found : data.lookup "output_ids" with
    | none => exact ⟨[], rfl⟩
    | some value =>
      cases value with
      | list items =>
        obtain ⟨ids, isIds⟩ := mapM_total (readable.outputIds items found)
        refine ⟨ids.filterMap id, ?_⟩
        rw [getD_some, coerceIntList, isIds]
        rfl
      | _ => exact ⟨[], rfl⟩
  rw [coerceResponse, isMeta]
  refine ⟨respond conversions data metaInfo inputIds expectInputLogprobs input output givenIds, ?_⟩
  simp only [bind, Except.bind, isInput, isOutput, isGiven]
  rfl

/-- Readable answers are read, and log-probabilities that are not flagged are aligned. -/
theorem logprobs_aligned (conversions : Conversions) (data : List (String × Value))
    (inputIds : List Int) (expectInputLogprobs : Bool) :
    (Readable conversions data → ∃ response,
      coerceResponse conversions data inputIds expectInputLogprobs = .ok response) ∧
    ∀ response, coerceResponse conversions data inputIds expectInputLogprobs = .ok response →
      Aligned conversions data response :=
  ⟨coerceResponse_total, fun _ => aligned_of_ok⟩

theorem null_meta_info_raises :
    ¬ ∀ (conversions : Conversions) (data : List (String × Value)) (inputIds : List Int)
        (expectInputLogprobs : Bool),
      ∃ response, coerceResponse conversions data inputIds expectInputLogprobs = .ok response ∧
        Aligned conversions data response := by
  intro claimed
  obtain ⟨response, coerced, _⟩ := claimed
    { intOfText := fun _ => none
      floatOfText := fun _ => none
      floatOfInt := fun value => value
      str := fun _ => "" }
    [("meta_info", .null)] [] true
  cases coerced

end Dressage.Proxy.SGLang
