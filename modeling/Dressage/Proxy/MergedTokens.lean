/-
Merged token ids and the conversation they stand for.

The ids of the appended segments, behind a prefix whose last message is closed again, decode to
the whole conversation with its generation prompt when the names of the appended tool messages
stand in a dummy call; otherwise the merge raises, although the whole conversation is rendered.
-/

import Dressage.Proxy.IncrementalRender

namespace Dressage.Proxy

open Lib Lib.Neighbours Proxy.ChatTemplate List TitoTokenizer

namespace TextTokenizer

variable (tokenizer : TextTokenizer)

theorem decode_nil : tokenizer.decode [] = "" := by
  have twice := tokenizer.decode_append [] []
  rw [append_nil, ← String.toList_inj, String.toList_append] at twice
  rw [← String.toList_inj]
  exact self_eq_append_left.mp twice

def withoutClosingNewline (ids : List Nat) : List Nat :=
  match tokenizer.imEndId with
  | some imEnd =>
    if ids.dropLast.getLast? = some imEnd ∧ ids.getLast? = some tokenizer.newline then
      ids.dropLast
    else ids
  | none => ids

end TextTokenizer

variable {Call : Type} {proxy : ChatFormat ChatMessage Value Call} {env : Environment}
  {tokenizer : TextTokenizer}

theorem newlineId_qwen35Format :
    newlineId (qwen35Format proxy env tokenizer) = some tokenizer.newline := by
  have encoded : (qwen35Format proxy env tokenizer).encode "\n" = .ok [tokenizer.newline] :=
    congrArg Except.ok tokenizer.encode_newline
  rw [newlineId, encoded]

variable {ids : List Nat} {message : ChatMessage} {appended old : List ChatMessage}

theorem closePrefix_of_imEnd {imEnd : Nat} (known : tokenizer.imEndId = some imEnd)
    (ends : ids.getLast? = some imEnd) :
    closePrefix (qwen35Format proxy env tokenizer) ids = [tokenizer.newline] := by
  have id : (qwen35Format proxy env tokenizer).imEndId = some imEnd := known
  rw [closePrefix, id, newlineId_qwen35Format, ends]
  exact if_pos rfl

theorem closePrefix_of_other
    (other : ∀ imEnd, tokenizer.imEndId = some imEnd → ids.getLast? ≠ some imEnd) :
    closePrefix (qwen35Format proxy env tokenizer) ids = [] := by
  have id : (qwen35Format proxy env tokenizer).imEndId = tokenizer.imEndId := rfl
  rw [closePrefix, id, newlineId_qwen35Format]
  cases known : tokenizer.imEndId with
  | none => rfl
  | some imEnd =>
    cases last : ids.getLast? with
    | none => rfl
    | some final =>
      have differs : final ≠ imEnd := by
        rintro rfl
        exact other final known last
      exact if_neg differs

theorem getLast?_ne_imEnd {chars : Text}
    (decoded : tokenizer.decode ids = String.ofList (chars ++ ['\n'])) {imEnd : Nat}
    (known : tokenizer.imEndId = some imEnd) : ids.getLast? ≠ some imEnd := by
  intro ends
  obtain ⟨front, rfl⟩ := getLast?_eq_some_iff.mp ends
  have text : (String.ofList (chars ++ ['\n'])).toList = chars ++ ['\n'] := String.toList_ofList
  rw [tokenizer.decode_append, tokenizer.decode_imEnd known, ← String.toList_inj,
    String.toList_append, text] at decoded
  have lasts := congrArg List.getLast? decoded
  rw [getLast?_append_of_ne_nil, getLast?_append_of_ne_nil] at lasts
  · revert lasts
    decide
  · decide
  · decide

theorem decode_closed_prefix {chars : Text}
    (decoded : tokenizer.decode ids = String.ofList (chars ++ ['\n'])) :
    tokenizer.decode (tokenizer.withoutClosingNewline ids ++
      closePrefix (qwen35Format proxy env tokenizer)
        (tokenizer.withoutClosingNewline ids)) = String.ofList (chars ++ ['\n']) := by
  by_cases closed : ∃ imEnd, tokenizer.imEndId = some imEnd ∧
    ids.dropLast.getLast? = some imEnd ∧ ids.getLast? = some tokenizer.newline
  · obtain ⟨imEnd, known, ends, newline⟩ := closed
    have left : tokenizer.withoutClosingNewline ids = ids.dropLast := by
      rw [TextTokenizer.withoutClosingNewline, known]
      exact if_pos ⟨ends, newline⟩
    rw [left, closePrefix_of_imEnd known ends, dropLast_append_getLast? _ newline, decoded]
  · have kept : tokenizer.withoutClosingNewline ids = ids := by
      rw [TextTokenizer.withoutClosingNewline]
      cases known : tokenizer.imEndId with
      | none => rfl
      | some imEnd => exact if_neg (fun ends => closed ⟨imEnd, known, ends⟩)
    rw [kept, closePrefix_of_other (fun _ known => getLast?_ne_imEnd decoded known),
      append_nil, decoded]

/-- User messages and runs of tool messages, no two runs next to each other. -/
inductive Alternating : List (List ChatMessage) → Prop
  | nil : Alternating []
  | user {message : ChatMessage} {segments : List (List ChatMessage)}
    (isUser : roleText message = some "user") (rest : Alternating segments) :
    Alternating ([message] :: segments)
  | tools {run : List ChatMessage} {segments : List (List ChatMessage)} (nonempty : run ≠ [])
    (areTools : ∀ message ∈ run, isTool message = true)
    (ended : closesRun segments.flatten.head? = true) (rest : Alternating segments) :
    Alternating (run :: segments)

theorem isTool_iff : isTool message = true ↔ roleText message = some "tool" := decide_eq_true_iff

theorem isTool_of_user (isUser : roleText message = some "user") : isTool message = false := by
  rw [isTool, isUser]
  rfl

theorem Alternating.behind_run {run : List ChatMessage} {segments : List (List ChatMessage)}
    (areTools : ∀ message ∈ run, isTool message = true)
    (ended : closesRun segments.flatten.head? = true) (rest : Alternating segments) :
    Alternating ((if run = [] then [] else [run]) ++ segments) := by
  by_cases empty : run = []
  · rw [if_pos empty]
    exact rest
  · rw [if_neg empty]
    exact .tools empty areTools ended rest

theorem flatten_behind_run (run : List ChatMessage) (segments : List (List ChatMessage)) :
    ((if run = [] then [] else [run]) ++ segments).flatten = run ++ segments.flatten := by
  by_cases empty : run = []
  · rw [if_pos empty, empty]
    rfl
  · rw [if_neg empty]
    rfl

theorem splitRun_ok {messages run : List ChatMessage}
    (allowed : ∀ message ∈ messages,
      roleText message = some "user" ∨ roleText message = some "tool")
    (areTools : ∀ message ∈ run, isTool message = true) :
    ∃ segments,
      splitAppendedSegments (qwen35Format proxy env tokenizer) run messages =
        .ok segments ∧ Alternating segments ∧ segments.flatten = run ++ messages := by
  induction messages generalizing run with
  | nil =>
    refine ⟨(if run = [] then [] else [run]) ++ [], ?_, ?_, flatten_behind_run run []⟩
    · rw [splitAppendedSegments, append_nil]
    · exact Alternating.behind_run areTools rfl .nil
  | cons message rest ih =>
    have restAllowed := fun other listed => allowed other (mem_cons_of_mem message listed)
    have role : (qwen35Format proxy env tokenizer).role message = roleText message := rfl
    rw [splitAppendedSegments, role]
    rcases allowed message mem_cons_self with isUser | tool
    · have notTool : roleText message ≠ some "tool" := by
        rw [isUser]
        decide
      obtain ⟨segments, split, alternating, joined⟩ :=
        ih restAllowed (fun other listed => absurd listed not_mem_nil)
      have closes : closesRun ([message] :: segments).flatten.head? = true := by
        change (!isTool message) = true
        rw [isTool_of_user isUser]
        rfl
      rw [if_neg notTool, if_pos isUser]
      refine ⟨_, Effect.except_bind_eq_ok.mpr ⟨segments, split, rfl⟩,
        Alternating.behind_run areTools closes (.user isUser alternating), ?_⟩
      rw [flatten_behind_run, flatten_cons, joined]
      rfl
    · have longer : ∀ other ∈ run ++ [message], isTool other = true := by
        intro other listed
        rcases mem_append.mp listed with old | new
        · exact areTools other old
        · rw [mem_singleton.mp new]
          exact isTool_iff.mpr tool
      obtain ⟨segments, split, alternating, joined⟩ := ih restAllowed longer
      rw [if_pos tool]
      refine ⟨segments, split, alternating, ?_⟩
      rw [joined, append_assoc, singleton_append]

theorem splitAppendedSegments_ok (proxy : ChatFormat ChatMessage Value Call) (env : Environment)
    (tokenizer : TextTokenizer)
    (allowed : ∀ message ∈ appended,
      roleText message = some "user" ∨ roleText message = some "tool") :
    ∃ segments,
      splitAppendedSegments (qwen35Format proxy env tokenizer) [] appended =
        .ok segments ∧ Alternating segments ∧ segments.flatten = appended :=
  splitRun_ok allowed (fun _ listed => absurd listed not_mem_nil)

def segmentText (env : Environment) (segment : List ChatMessage) : Except TemplateError Text :=
  walk (renderMessage env true 0) 1 (some (normalizeMessage env dummySystem))
    (segment.map (normalizeMessage env)) none

theorem walk_eq_segmentText {segment : List ChatMessage}
    (allowed : ∀ message ∈ segment, roleText message ≠ some "system") (index : Nat)
    {before after : Option ChatMessage} (opens : opensRun before = true)
    (closes : closesRun after = true) :
    walk (renderMessage env true 0) index before (segment.map (normalizeMessage env)) after =
      segmentText env segment := by
  have looks : ∀ message ∈ segment.map (normalizeMessage env), ∀ index index' before before' after
      after', opensRun before = opensRun before' → closesRun after = closesRun after' →
        renderMessage env true 0 index before message after =
          renderMessage env true 0 index' before' message after' := by
    intro message listed index index' before before' after after' sameBefore sameAfter
    obtain ⟨original, segmentListed, rfl⟩ := mem_map.mp listed
    exact renderMessage_eq env (normalizeMessage env original) (allowed original segmentListed) 0
      index index' sameBefore sameAfter
  exact walk_eq_of_same_surroundings looks opens closes

theorem role_ne_system_of_tool (tool : isTool message = true) :
    roleText message ≠ some "system" := by
  rw [isTool_iff.mp tool]
  decide

theorem role_ne_system_of_user (isUser : roleText message = some "user") :
    roleText message ≠ some "system" := by
  rw [isUser]
  decide

theorem segmentText_of_user (isUser : roleText message = some "user") {index : Nat}
    {before after : Option ChatMessage} {piece : Text}
    (written : renderMessage env true 0 index before (normalizeMessage env message) after =
      .ok piece) :
    segmentText env [message] = .ok piece := by
  have moved := renderMessage_blind env (normalizeMessage env message) (isTool_of_user isUser) 0
    index before (some (normalizeMessage env dummySystem)) after none
  have renumbered : renderMessage env true 0 index (some (normalizeMessage env dummySystem))
      (normalizeMessage env message) none = renderMessage env true 0 1
        (some (normalizeMessage env dummySystem)) (normalizeMessage env message) none :=
    renderMessage_eq env (normalizeMessage env message) (role_ne_system_of_user isUser) 0 index 1
      rfl rfl
  refine walk_cons_eq_ok.mpr ⟨piece, ?_, [], rfl, append_nil piece⟩
  exact (renumbered.symm.trans moved.symm).trans written

section Suffixes

variable {tools : Option (List Value)}

variable {base appended run : List ChatMessage} {ids : List Nat}

theorem tokenizeRenderedSuffix_of_rendered {addGenerationPrompt : Bool} {opening closing : Text}
    (without : applyChatTemplate env base tools false = .ok (String.ofList opening))
    (whole : applyChatTemplate env (base ++ appended) tools addGenerationPrompt =
      .ok (String.ofList (opening ++ closing))) :
    tokenizeRenderedSuffix (qwen35Format proxy env tokenizer) base appended tools
      addGenerationPrompt = .ok (tokenizer.encode (String.ofList closing)) := by
  have first : (qwen35Format proxy env tokenizer).applyChatTemplate base tools false = _ := without
  have second : (qwen35Format proxy env tokenizer).applyChatTemplate (base ++ appended) tools
    addGenerationPrompt = _ := whole
  have extended : (String.ofList opening).toList.isPrefixOf
      (String.ofList (opening ++ closing)).toList = true := by
    rw [String.toList_ofList, String.toList_ofList, List.isPrefixOf_iff_prefix]
    exact prefix_append opening closing
  have rest : (String.ofList (opening ++ closing)).toList.drop (String.ofList opening).length =
      closing := by
    rw [String.toList_ofList, String.length_ofList, drop_left]
  refine Effect.except_bind_eq_ok.mpr ⟨_, first, Effect.except_bind_eq_ok.mpr ⟨_, second, ?_⟩⟩
  rw [if_pos extended, rest]
  rfl

theorem base_rendered_of_suffix {addGenerationPrompt : Bool}
    (returned : tokenizeRenderedSuffix (qwen35Format proxy env tokenizer) base
      appended tools addGenerationPrompt = .ok ids) :
    ∃ text, applyChatTemplate env base tools false = .ok text := by
  obtain ⟨text, rendered, -⟩ := Effect.except_bind_eq_ok.mp returned
  exact ⟨text, rendered⟩

theorem dummySystem_rendered (env : Environment) (tools : Option (List Value)) :
    ∃ opening, renderTemplate env true [normalizeMessage env dummySystem]
      (usableTools env tools) false = .ok opening := by
  obtain ⟨opened, listed⟩ := toolsHeader_usable env tools
  have content : systemContent env (normalizeMessage env dummySystem) =
    .ok (some "dummy system".toList) := rfl
  have headed := renderHeader_eq_ok.mpr ⟨opened, listed, _, content, rfl⟩
  exact ⟨_, renderTemplate_eq_ok.mpr ⟨_, headed, [], rfl, rfl⟩⟩

theorem toolBase_rendered (env : Environment) (tools : Option (List Value)) :
    (∃ opening, renderTemplate env true
      ([dummySystem, buildDummyAssistant run].map (normalizeMessage env))
        (usableTools env tools) false = .ok opening) ↔
      ∀ message ∈ run, nameRenders message = true := by
  have split : [dummySystem, buildDummyAssistant run].map (normalizeMessage env) =
    [normalizeMessage env dummySystem] ++ [normalizeMessage env (buildDummyAssistant run)] := rfl
  rw [split, ← renderMessage_dummyAssistant env 1 (some (normalizeMessage env dummySystem)) none]
  constructor
  · rintro ⟨opening, rendered⟩
    obtain ⟨-, -, closing, walked, -⟩ := (renderTemplate_append rfl rfl).mp rendered
    obtain ⟨piece, written, -⟩ := walk_cons_eq_ok.mp walked
    exact ⟨piece, written⟩
  · rintro ⟨piece, written⟩
    obtain ⟨opening, rendered⟩ := dummySystem_rendered env tools
    have walked : walk (renderMessage env true 0) 1 (some (normalizeMessage env dummySystem))
        [normalizeMessage env (buildDummyAssistant run)] none = .ok piece :=
      walk_cons_eq_ok.mpr ⟨piece, written, [], rfl, append_nil piece⟩
    exact ⟨_, (renderTemplate_append rfl rfl).mpr ⟨opening, rendered, piece, walked, rfl⟩⟩

theorem tokenizeSegment_eq_of_tools (nonempty : run ≠ [])
    (areTools : ∀ message ∈ run, isTool message = true) :
    tokenizeSegment (qwen35Format proxy env tokenizer) .qwen35 tools run =
      tokenizeRenderedSuffix (qwen35Format proxy env tokenizer)
        [dummySystem, buildDummyAssistant run] run tools false := by
  obtain ⟨first, rest, rfl⟩ := exists_cons_of_ne_nil nonempty
  have role : (qwen35Format proxy env tokenizer).role first = some "tool" :=
    isTool_iff.mp (areTools first mem_cons_self)
  rw [tokenizeSegment, role, if_pos rfl]
  rfl

variable (tooled : ∀ failure, toolsHeader env tools = .error failure → failure = .typeError)

include tooled

theorem tokenizeRenderedSuffix_of_walk {last : ChatMessage} (ends : base.getLast? = some last)
    (notTool : isTool last = false) {opening closing : Text}
    (rendered : renderTemplate env true (base.map (normalizeMessage env))
      (usableTools env tools) false = .ok opening)
    (walked : walk (renderMessage env true 0) base.length (some (normalizeMessage env last))
      (appended.map (normalizeMessage env)) none = .ok closing) :
    tokenizeRenderedSuffix (qwen35Format proxy env tokenizer) base appended tools
      false = .ok (tokenizer.encode (String.ofList closing)) := by
  have nonempty : base ≠ [] := by
    rintro rfl
    cases ends
  have normalizedEnds : (base.map (normalizeMessage env)).getLast? =
      some (normalizeMessage env last) := by
    rw [getLast?_map, ends]
    rfl
  rw [← length_map (f := normalizeMessage env)] at walked
  have whole : renderTemplate env true ((base ++ appended).map (normalizeMessage env))
      (usableTools env tools) false = .ok (opening ++ closing) := by
    rw [map_append]
    exact (renderTemplate_append normalizedEnds notTool).mpr
      ⟨opening, rendered, closing, walked, congrArg (opening ++ ·) (append_nil closing)⟩
  exact tokenizeRenderedSuffix_of_rendered
    ((applyChatTemplate_eq_ok nonempty tooled).mpr ⟨opening, rendered, rfl⟩)
    ((applyChatTemplate_eq_ok (append_ne_nil_of_left_ne_nil nonempty appended) tooled).mpr
      ⟨opening ++ closing, whole, rfl⟩)

theorem tokenizeSegment_of_user (proxy : ChatFormat ChatMessage Value Call)
    (tokenizer : TextTokenizer) {message : ChatMessage} (isUser : roleText message = some "user")
    {text : Text} (written : segmentText env [message] = .ok text) :
    tokenizeSegment (qwen35Format proxy env tokenizer) .qwen35 tools [message] =
      .ok (tokenizer.encode (String.ofList text)) := by
  have role : (qwen35Format proxy env tokenizer).role message = some "user" := isUser
  obtain ⟨opening, rendered⟩ := dummySystem_rendered env tools
  rw [tokenizeSegment, role, if_neg (by decide), if_pos rfl]
  have ends : [dummySystem].getLast? = some dummySystem := rfl
  exact tokenizeRenderedSuffix_of_walk tooled ends rfl rendered written

theorem tokenizeSegment_of_tools (proxy : ChatFormat ChatMessage Value Call)
    (tokenizer : TextTokenizer) {run : List ChatMessage} (nonempty : run ≠ [])
    (areTools : ∀ message ∈ run, isTool message = true)
    (named : ∀ message ∈ run, nameRenders message = true) {text : Text}
    (written : segmentText env run = .ok text) :
    tokenizeSegment (qwen35Format proxy env tokenizer) .qwen35 tools run =
      .ok (tokenizer.encode (String.ofList text)) := by
  obtain ⟨opening, rendered⟩ := (toolBase_rendered env tools).mpr named
  have moved : walk (renderMessage env true 0) 2
      (some (normalizeMessage env (buildDummyAssistant run)))
      (run.map (normalizeMessage env)) none = segmentText env run :=
    walk_eq_segmentText (fun message listed => role_ne_system_of_tool (areTools message listed)) 2
      rfl rfl
  rw [tokenizeSegment_eq_of_tools nonempty areTools]
  exact tokenizeRenderedSuffix_of_walk tooled rfl rfl rendered (moved.trans written)

theorem named_of_tokenizeSegment (nonempty : run ≠ [])
    (areTools : ∀ message ∈ run, isTool message = true)
    (returned : tokenizeSegment (qwen35Format proxy env tokenizer) .qwen35 tools
      run = .ok ids) : ∀ message ∈ run, nameRenders message = true := by
  rw [tokenizeSegment_eq_of_tools nonempty areTools] at returned
  obtain ⟨text, rendered⟩ := base_rendered_of_suffix returned
  obtain ⟨chars, made, -⟩ := (applyChatTemplate_eq_ok (cons_ne_nil _ _) tooled).mp rendered
  exact (toolBase_rendered env tools).mp ⟨chars, made⟩

theorem tokenizeSegments_of_walk (proxy : ChatFormat ChatMessage Value Call)
    (tokenizer : TextTokenizer) {segments : List (List ChatMessage)}
    (alternating : Alternating segments) {index : Nat} {before : Option ChatMessage} {text : Text}
    (apart : opensRun before = true ∨ closesRun segments.flatten.head? = true)
    (named : ∀ message ∈ segments.flatten, isTool message = true → nameRenders message = true)
    (walked : walk (renderMessage env true 0) index before
      (segments.flatten.map (normalizeMessage env)) none = .ok text) :
    ∃ ids, tokenizeSegments (qwen35Format proxy env tokenizer) .qwen35 tools
      segments = .ok ids ∧ tokenizer.decode ids = String.ofList text := by
  induction alternating generalizing index before text with
  | nil =>
    cases walked
    exact ⟨[], rfl, tokenizer.decode_nil⟩
  | @user message segments isUser rest ih =>
    rw [flatten_cons, singleton_append, map_cons] at walked
    obtain ⟨piece, written, others, continued, joined⟩ := walk_cons_eq_ok.mp walked
    have opens : opensRun (some (normalizeMessage env message)) = true := by
      change (!isTool message) = true
      rw [isTool_of_user isUser]
      rfl
    obtain ⟨ids, tokenized, decoded⟩ := ih (.inl opens)
      (fun other listed => named other (mem_append_right [message] listed)) continued
    have first := tokenizeSegment_of_user tooled proxy tokenizer isUser
      (segmentText_of_user isUser written)
    refine ⟨_, Effect.except_bind_eq_ok.mpr ⟨_, first,
      Effect.except_bind_eq_ok.mpr ⟨ids, tokenized, rfl⟩⟩, ?_⟩
    rw [tokenizer.decode_append, tokenizer.decode_encode, decoded, ← joined, String.ofList_append]
  | @tools run segments nonempty areTools ended rest ih =>
    rw [flatten_cons, map_append] at walked
    obtain ⟨opening, opened, closing, closed, joined⟩ := walk_append_eq_ok.mp walked
    have opens : opensRun before = true := by
      refine apart.resolve_right ?_
      obtain ⟨first, others, rfl⟩ := exists_cons_of_ne_nil nonempty
      change ¬ (!isTool first) = true
      rw [areTools first mem_cons_self]
      decide
    have closes : closesRun (((segments.flatten.map (normalizeMessage env)).head?).or none) =
        true := by
      rw [Option.or_none, head?_map]
      cases next : segments.flatten.head? with
      | none => rfl
      | some message =>
        rw [next] at ended
        exact ended
    have written : segmentText env run = .ok opening := by
      rw [← walk_eq_segmentText
        (fun message listed => role_ne_system_of_tool (areTools message listed)) index opens
        closes]
      exact opened
    obtain ⟨ids, tokenized, decoded⟩ := ih (.inr ended)
      (fun other listed => named other (mem_append_right run listed)) closed
    have runNamed : ∀ message ∈ run, nameRenders message = true :=
      fun message listed =>
        named message (mem_append_left _ listed) (areTools message listed)
    have first := tokenizeSegment_of_tools tooled proxy tokenizer nonempty areTools runNamed written
    refine ⟨_, Effect.except_bind_eq_ok.mpr ⟨_, first,
      Effect.except_bind_eq_ok.mpr ⟨ids, tokenized, rfl⟩⟩, ?_⟩
    rw [tokenizer.decode_append, tokenizer.decode_encode, decoded, ← joined, String.ofList_append]

theorem named_of_tokenizeSegments {segments : List (List ChatMessage)}
    (alternating : Alternating segments)
    (returned : tokenizeSegments (qwen35Format proxy env tokenizer) .qwen35 tools
      segments = .ok ids) :
    ∀ message ∈ segments.flatten, isTool message = true → nameRenders message = true := by
  induction alternating generalizing ids with
  | nil =>
    intro message listed
    cases listed
  | @user message segments isUser rest ih =>
    obtain ⟨first, -, continued⟩ := Effect.except_bind_eq_ok.mp returned
    obtain ⟨others, tokenized, -⟩ := Effect.except_bind_eq_ok.mp continued
    intro other listed tool
    rcases mem_append.mp listed with here | later
    · rw [mem_singleton.mp here, isTool_of_user isUser] at tool
      cases tool
    · exact ih tokenized other later tool
  | @tools run segments nonempty areTools ended rest ih =>
    obtain ⟨first, made, continued⟩ := Effect.except_bind_eq_ok.mp returned
    obtain ⟨others, tokenized, -⟩ := Effect.except_bind_eq_ok.mp continued
    intro other listed tool
    rcases mem_append.mp listed with here | later
    · exact named_of_tokenizeSegment tooled nonempty areTools made other here
    · exact ih tokenized other later tool

end Suffixes

theorem assertAppendOnly_ok
    (allowed : ∀ message ∈ appended,
      roleText message = some "user" ∨ roleText message = some "tool") :
    assertAppendOnlyWithAllowedRoles (qwen35Format proxy env tokenizer) old
      (old ++ appended) = .ok () := by
  have longer : ¬ (old ++ appended).length < old.length := by
    rw [length_append]
    omega
  have matching : (old.zip (old ++ appended)).findIdx? (fun pair =>
      !(qwen35Format proxy env tokenizer).messageMatches pair.1 pair.2) = none := by
    clear longer
    induction old with
    | nil => rfl
    | cons message rest ih =>
      rw [cons_append, zip_cons_cons, findIdx?_cons, ih]
      have same : (qwen35Format proxy env tokenizer).messageMatches message message = true :=
        messageMatches_self env message
      rw [same]
      rfl
  have permitted : (((old ++ appended).drop old.length).zipIdx old.length).find? (fun entry =>
      !roleAllowed (qwen35Format proxy env tokenizer) entry.1) = none := by
    rw [drop_left, find?_eq_none]
    intro entry listed
    have role : (qwen35Format proxy env tokenizer).role entry.1 = roleText entry.1 := rfl
    rw [roleAllowed, role]
    rcases allowed entry.1 (fst_mem_of_mem_zipIdx listed) with isUser | tool
    · rw [isUser]
      decide
    · rw [tool]
      decide
  rw [assertAppendOnlyWithAllowedRoles, if_neg longer, matching, permitted]

theorem renderAssistant_ends {keepsThinking : Bool} {content piece : Text}
    (written : renderAssistant env keepsThinking message content = .ok piece) :
    ∃ chars, piece = chars ++ ['\n'] := by
  obtain ⟨calls, -, joined⟩ := Effect.except_bind_eq_ok.mp written
  have marker : "<|im_end|>\n".toList = "<|im_end|>".toList ++ ['\n'] := by decide
  rw [marker, ← append_assoc] at joined
  exact ⟨_, (Except.ok.inj joined).symm⟩

theorem conversation_ends {messages : List ChatMessage} {last : ChatMessage}
    (ends : messages.getLast? = some last) (assistant : roleText last = some "assistant")
    {body : Text} (walked : conversation env messages = .ok body) :
    ∃ chars, body = chars ++ ['\n'] := by
  obtain ⟨front, rfl⟩ := getLast?_eq_some_iff.mp ends
  obtain ⟨opening, -, closing, closed, rfl⟩ := walk_append_eq_ok.mp walked
  obtain ⟨piece, written, others, rest, rfl⟩ := walk_cons_eq_ok.mp closed
  cases rest
  obtain ⟨content, -, made⟩ := Effect.except_bind_eq_ok.mp written
  rw [assistant, if_neg (by decide), if_neg (by decide), if_pos rfl] at made
  obtain ⟨chars, rfl⟩ := renderAssistant_ends made
  exact ⟨opening ++ chars, by rw [append_nil, append_assoc]⟩

theorem isTool_of_assistant (assistant : roleText message = some "assistant") :
    isTool message = false := by
  rw [isTool, assistant]
  decide

variable {tools : Option (List Value)}

theorem mergeTokens_eq_ok {pretokenized merged : List Nat}
    (allowed : ∀ message ∈ appended,
      roleText message = some "user" ∨ roleText message = some "tool")
    {segments : List (List ChatMessage)}
    (split : splitAppendedSegments (qwen35Format proxy env tokenizer) [] appended =
      .ok segments) :
    mergeTokens (qwen35Format proxy env tokenizer) .qwen35 old (old ++ appended)
        pretokenized tools = .ok merged ↔
      ∃ ids, tokenizeSegments (qwen35Format proxy env tokenizer) .qwen35 tools
          segments = .ok ids ∧
        ∃ prompt, tokenizeRenderedSuffix (qwen35Format proxy env tokenizer)
            (old ++ appended) [] tools true = .ok prompt ∧
          pretokenized ++ closePrefix (qwen35Format proxy env tokenizer)
            pretokenized ++ (ids ++ prompt) = merged := by
  have native : ¬ (TitoModel.qwen35 = .qwen36 ∧ old = []) := by
    rintro ⟨impossible, -⟩
    cases impossible
  rw [mergeTokens, tokenizeAdditionalNonAssistant,
    assertAppendOnly_ok allowed, if_neg native, drop_left, split]
  constructor
  · intro returned
    obtain ⟨incremental, tokenized, joined⟩ := Effect.except_bind_eq_ok.mp returned
    obtain ⟨-, -, checked⟩ := Effect.except_bind_eq_ok.mp tokenized
    obtain ⟨others, sameSplit, continued⟩ := Effect.except_bind_eq_ok.mp checked
    obtain rfl := Except.ok.inj sameSplit
    obtain ⟨ids, made, prompting⟩ := Effect.except_bind_eq_ok.mp continued
    obtain ⟨prompt, prompted, whole⟩ := Effect.except_bind_eq_ok.mp prompting
    refine ⟨ids, made, prompt, prompted, ?_⟩
    rw [Except.ok.inj whole]
    exact Except.ok.inj joined
  · rintro ⟨ids, made, prompt, prompted, rfl⟩
    exact Effect.except_bind_eq_ok.mpr ⟨ids ++ prompt, Effect.except_bind_eq_ok.mpr ⟨(), rfl,
      Effect.except_bind_eq_ok.mpr ⟨segments, rfl, Effect.except_bind_eq_ok.mpr ⟨ids, made,
        Effect.except_bind_eq_ok.mpr ⟨prompt, prompted, rfl⟩⟩⟩⟩, rfl⟩

theorem decode_merged
    (tooled : ∀ failure, toolsHeader env tools = .error failure → failure = .typeError)
    {last : ChatMessage} (ends : old.getLast? = some last)
    (assistant : roleText last = some "assistant")
    (allowed : ∀ message ∈ appended,
      roleText message = some "user" ∨ roleText message = some "tool")
    (named : ∀ message ∈ appended, isTool message = true → nameRenders message = true)
    {opening closing : Text}
    (rendered : renderTemplate env true (old.map (normalizeMessage env)) (usableTools env tools)
      false = .ok opening)
    (walked : walk (renderMessage env true 0) (old.map (normalizeMessage env)).length
      (some (normalizeMessage env last)) (appended.map (normalizeMessage env)) none = .ok closing) :
    ∃ merged,
      mergeTokens (qwen35Format proxy env tokenizer) .qwen35 old (old ++ appended)
        (tokenizer.withoutClosingNewline (tokenizer.encode (String.ofList opening))) tools =
          .ok merged ∧
      tokenizer.decode merged = String.ofList (opening ++ (closing ++ generationPrompt)) := by
  have notTool : isTool (normalizeMessage env last) = false := isTool_of_assistant assistant
  have nonempty : old ≠ [] := by
    rintro rfl
    cases ends
  have wholeNonempty : old ++ appended ≠ [] :=
    append_ne_nil_of_left_ne_nil nonempty appended
  have normalizedEnds : (old.map (normalizeMessage env)).getLast? =
      some (normalizeMessage env last) := by
    rw [getLast?_map, ends]
    rfl
  have wholeRendered (flag : Bool) : applyChatTemplate env (old ++ appended) tools flag =
      .ok (String.ofList (opening ++ (closing ++ promptText flag))) := by
    refine (applyChatTemplate_eq_ok wholeNonempty tooled).mpr ⟨_, ?_, rfl⟩
    rw [map_append]
    exact (renderTemplate_append normalizedEnds notTool).mpr
      ⟨opening, rendered, closing, walked, rfl⟩
  obtain ⟨segments, split, alternating, joined⟩ :=
    splitAppendedSegments_ok proxy env tokenizer allowed
  have opens : opensRun (some (normalizeMessage env last)) = true := by
    change (!isTool (normalizeMessage env last)) = true
    rw [notTool]
    rfl
  rw [← joined] at named walked
  obtain ⟨ids, tokenized, decoded⟩ := tokenizeSegments_of_walk tooled proxy
    tokenizer alternating (.inl opens) named walked
  have prompted : tokenizeRenderedSuffix (qwen35Format proxy env tokenizer)
      (old ++ appended) [] tools true =
        .ok (tokenizer.encode (String.ofList generationPrompt)) := by
    have unprompted : applyChatTemplate env (old ++ appended) tools false =
        .ok (String.ofList (opening ++ closing)) := by
      rw [wholeRendered false]
      exact congrArg (fun text => Except.ok (String.ofList (opening ++ text))) (append_nil closing)
    refine tokenizeRenderedSuffix_of_rendered unprompted ?_
    rw [append_nil, wholeRendered true, append_assoc]
    rfl
  have closedPrefix : ∃ chars, opening = chars ++ ['\n'] := by
    obtain ⟨first, rest, rfl⟩ := exists_cons_of_ne_nil nonempty
    rw [map_cons] at rendered normalizedEnds
    obtain ⟨header, -, body, conversed, rfl⟩ := renderTemplate_eq_ok.mp rendered
    obtain ⟨chars, rfl⟩ := conversation_ends normalizedEnds assistant conversed
    refine ⟨header ++ chars, ?_⟩
    rw [promptText, if_neg Bool.false_ne_true, append_nil, append_assoc]
  obtain ⟨chars, rfl⟩ := closedPrefix
  refine ⟨_, (mergeTokens_eq_ok allowed split).mpr ⟨ids, tokenized, _, prompted, rfl⟩, ?_⟩
  have suffix : String.ofList (closing ++ generationPrompt) =
    String.ofList closing ++ String.ofList generationPrompt := String.ofList_append
  have text : String.ofList (chars ++ ['\n'] ++ (closing ++ generationPrompt)) =
      String.ofList (chars ++ ['\n']) ++ String.ofList (closing ++ generationPrompt) :=
    String.ofList_append
  rw [tokenizer.decode_append, decode_closed_prefix (tokenizer.decode_encode _),
    tokenizer.decode_append, decoded, tokenizer.decode_encode, text, suffix]

theorem mergeTokens_raises_with_template {pretokenized merged : List Nat}
    (allowed : ∀ message ∈ appended,
      roleText message = some "user" ∨ roleText message = some "tool")
    (returned : mergeTokens (qwen35Format proxy env tokenizer) .qwen35 old
      (old ++ appended) pretokenized tools = .ok merged) :
    ∃ text, applyChatTemplate env (old ++ appended) tools true = .ok text := by
  obtain ⟨segments, split, -⟩ := splitAppendedSegments_ok proxy env tokenizer allowed
  obtain ⟨_, _, prompt, prompted, -⟩ := (mergeTokens_eq_ok allowed split).mp returned
  obtain ⟨_, _, whole⟩ := Effect.except_bind_eq_ok.mp prompted
  obtain ⟨text, rendered, -⟩ := Effect.except_bind_eq_ok.mp whole
  rw [append_nil] at rendered
  exact ⟨text, rendered⟩

/-- The merged ids decode to the whole conversation when, and only when, the names of the
appended tool messages stand in a dummy call. -/
theorem merged_tokens_render_iff (proxy : ChatFormat ChatMessage Value Call) (env : Environment)
    (tokenizer : TextTokenizer) {old appended : List ChatMessage} {tools : Option (List Value)}
    {last : ChatMessage} {oldText newText : String} (ends : old.getLast? = some last)
    (assistant : roleText last = some "assistant")
    (allowed : ∀ message ∈ appended,
      roleText message = some "user" ∨ roleText message = some "tool")
    (oldRendered : applyChatTemplate env old tools false = .ok oldText)
    (newRendered : applyChatTemplate env (old ++ appended) tools true = .ok newText) :
    (∃ merged,
      mergeTokens (qwen35Format proxy env tokenizer) .qwen35 old (old ++ appended)
        (tokenizer.withoutClosingNewline (tokenizer.encode oldText)) tools = .ok merged ∧
      tokenizer.decode merged = newText) ↔
        ∀ message ∈ appended, roleText message = some "tool" → nameRenders message = true := by
  have nonempty : old ≠ [] := by
    rintro rfl
    cases ends
  have tooled : ∀ failure, toolsHeader env tools = .error failure → failure = .typeError := by
    obtain ⟨first, rest, rfl⟩ := exists_cons_of_ne_nil nonempty
    exact fun failure fails => tools_of_rendered oldRendered fails
  constructor
  · rintro ⟨merged, returned, -⟩ message listed tool
    obtain ⟨segments, split, alternating, joined⟩ :=
      splitAppendedSegments_ok proxy env tokenizer allowed
    obtain ⟨ids, tokenized, -⟩ := (mergeTokens_eq_ok allowed split).mp returned
    rw [← joined] at listed
    exact named_of_tokenizeSegments tooled alternating tokenized message listed
      (isTool_iff.mpr tool)
  · intro named
    have wholeNonempty : old ++ appended ≠ [] :=
      append_ne_nil_of_left_ne_nil nonempty appended
    obtain ⟨whole, wholeMade, rfl⟩ := (applyChatTemplate_eq_ok wholeNonempty tooled).mp newRendered
    obtain ⟨opening, openingMade, rfl⟩ := (applyChatTemplate_eq_ok nonempty tooled).mp oldRendered
    have normalizedEnds : (old.map (normalizeMessage env)).getLast? =
        some (normalizeMessage env last) := by
      rw [getLast?_map, ends]
      rfl
    rw [map_append] at wholeMade
    have notTool : isTool (normalizeMessage env last) = false := isTool_of_assistant assistant
    obtain ⟨again, againMade, closing, walked, rfl⟩ :=
      (renderTemplate_append normalizedEnds notTool).mp wholeMade
    obtain rfl : opening = again := Except.ok.inj (openingMade.symm.trans againMade)
    exact decode_merged tooled ends assistant allowed
      (fun message listed tool => named message listed (isTool_iff.mp tool)) openingMade walked

def bareProxy : ChatFormat ChatMessage Value Value :=
  { normalizeTemplateMessages := .ok
    normalizeMessage := id
    messageMatches := fun _ _ => true
    role := roleText
    roleText := fun message => (roleText message).getD "None"
    roleRepr := fun message => ((roleText message).map fun role => "'" ++ role ++ "'").getD "None"
    assistantMessage := fun content _ _ => plainMessage "assistant" (content.getD "")
    canonicalMessages := fun _ => ""
    canonicalTools := fun _ => ""
    sha256 := id
    iterate := id
    renderMessages := fun _ _ _ => .ok ""
    tokenizeMessages := fun _ _ _ => .ok []
    applyChatTemplate := fun _ _ _ => .ok ""
    encode := fun _ => .ok []
    imEndId := none
    dummySystem := dummySystem
    dummyUser := dummyUser
    buildDummyAssistant := buildDummyAssistant }

/-- Enough for conversations without tools, arguments, floats and printed containers. -/
def bareEnvironment : Environment where
  toJson _ := .error .typeError
  loads _ := none
  floatText _ := []
  containerText _ := []

def oldMessages : List ChatMessage :=
  [plainMessage "user" "hi",
    { plainMessage "assistant" "on it" with reasoningContent := some (.text "easy") }]

def oldMessagesText : String :=
  "<|im_start|>user\nhi<|im_end|>\n" ++
    "<|im_start|>assistant\n<think>\neasy\n</think>\n\non it<|im_end|>\n"

def toolMessage (name : Option Value) : ChatMessage :=
  { plainMessage "tool" "done" with name := name }

def appendedMessages : List ChatMessage :=
  [toolMessage none, toolMessage (some (.text "search")), plainMessage "user" "more"]

def newMessagesText : String :=
  oldMessagesText ++
    "<|im_start|>user\n<tool_response>\ndone\n</tool_response>" ++
    "\n<tool_response>\ndone\n</tool_response><|im_end|>\n" ++
    "<|im_start|>user\nmore<|im_end|>\n<|im_start|>assistant\n<think>\n"

theorem merged_tokens_render_run_and_user :
    ∃ merged,
      mergeTokens (qwen35Format bareProxy bareEnvironment .markers) .qwen35
        oldMessages (oldMessages ++ appendedMessages)
        (TextTokenizer.markers.withoutClosingNewline
          (TextTokenizer.markers.encode oldMessagesText)) none = .ok merged ∧
      TextTokenizer.markers.decode merged = newMessagesText :=
  (merged_tokens_render_iff bareProxy bareEnvironment .markers rfl rfl (by decide)
    (by decide +kernel) (by decide +kernel)).mpr (by decide)

theorem merge_raises_for_number_as_name :
    applyChatTemplate bareEnvironment oldMessages none false = .ok oldMessagesText ∧
      applyChatTemplate bareEnvironment (oldMessages ++ [toolMessage (some (.int 7))]) none true =
        .ok (oldMessagesText ++
          "<|im_start|>user\n<tool_response>\ndone\n</tool_response><|im_end|>\n" ++
          "<|im_start|>assistant\n<think>\n") ∧
      mergeTokens (qwen35Format bareProxy bareEnvironment .markers) .qwen35
        oldMessages (oldMessages ++ [toolMessage (some (.int 7))])
        (TextTokenizer.markers.withoutClosingNewline
          (TextTokenizer.markers.encode oldMessagesText)) none = .error "TypeError" := by
  refine ⟨?_, ?_, ?_⟩
  · decide +kernel
  · decide +kernel
  · decide +kernel

end Dressage.Proxy
