import Completions.Proofs.StreamedAnswer
import Completions.Rehearsal.Session

/-! What a client makes of the two answers to one body, whole and in pieces: the same outcome, with
the same text, calls and usage, or the same error. The reason of the end is the same too, unless the
run was cancelled and its text has calls. Main statements: `streamed_outcome`, `streamed_finish`. -/

namespace Completions.Http

structure Inner (service : Engine.Service) (v : Json) (text : List Char) (calls : List Json) : Prop where
  text : textIn service .piece v = text
  calls : callsIn .piece v = calls
  finish : finishIn v = none
  error : errorIn v = none

theorem inner_text (h : Head) (t : String) : Inner .text (.obj (h.text t none)) t.toList [] where
  text := by simpa using textIn_text h [] .piece t none
  calls := by simpa using callsIn_text h [] .piece t none
  finish := by simpa using finishIn_text h [] t none
  error := by simp [errorIn, Head.text, Head.fields]

theorem inner_chat (h : Head) (delta : Fields) : Inner .chat (.obj (h.chat delta none))
    (lettersOf (fieldOf (.obj delta) "content")) (itemsOf (fieldOf (.obj delta) "tool_calls")) where
  text := by simpa using textIn_chat h [] delta none
  calls := by simpa using callsIn_chat h [] delta none
  finish := by simpa using finishIn_chat h [] delta none
  error := by simp [errorIn, Head.chat, Head.fields]

theorem inner_fragment (service : Engine.Service) (h : Head) (t : String) :
    Inner service (fragment service h t) t.toList [] := by
  cases service with
  | text => exact inner_text h t
  | chat => exact inner_chat h [("content", .str t)]

theorem inner_opening (service : Engine.Service) (h : Head) :
    ∀ v ∈ opening service h, Inner service v [] [] := by
  cases service with
  | text => exact fun v none => by cases none
  | chat =>
    intro v only
    rw [List.mem_singleton.1 only]
    exact inner_chat h [("role", .str "assistant")]

theorem inner_announcement (h : Head) (calls : List Tool.Call) :
    ∀ v ∈ announcement h calls, Inner .chat v [] (numberedCalls 0 calls) := by
  intro v only
  unfold announcement at only
  split at only
  · cases only
  · rw [List.mem_singleton.1 only]
    exact inner_chat h [("tool_calls", .arr (numberedCalls 0 calls))]

structure Last (service : Engine.Service) (v : Json) (finish : String) (usage : Json) : Prop where
  text : textIn service .piece v = []
  calls : callsIn .piece v = []
  finish : finishIn v = some finish
  usage : usageIn v = usage
  error : errorIn v = none

/-- The reason that the answer in pieces gives. -/
def spokenReason (service : Engine.Service) (c : Completion) : String :=
  match service with
  | .text => c.finish.name
  | .chat => (chatSummary c).reason

theorem last_ending (service : Engine.Service) (h : Head) (c : Completion) :
    Last service (ending service h c) (spokenReason service c) c.usage.toJson := by
  cases service with
  | text =>
    constructor
    · exact textIn_text h _ .piece "" _
    · exact callsIn_text h _ .piece "" _
    · exact finishIn_text h _ "" _
    · exact (usageIn_fields h _ _ _).trans (by simp [usageIn, usageField])
    · exact (errorIn_fields h _ _ _).trans (by simp [errorIn, usageField])
  | chat =>
    simp only [ending, ChatSummary.terminal, List.append_assoc]
    constructor
    · exact textIn_chat h _ [] _
    · exact callsIn_chat h _ [] _
    · exact finishIn_chat h _ [] _
    · exact (usageIn_fields h _ _ _).trans (by simp [usageIn, usageField, chatSummary])
    · refine (errorIn_fields h _ _ _).trans ?_
      cases timing : c.timing <;> simp [errorIn, usageField, chatSummary, timingField, timing]

/-- A whole answer that tells of a completion; the text makes way for calls. -/
structure Tells (service : Engine.Service) (v : Json) (c : Completion) : Prop where
  text : textIn service .whole v = if c.toolCalls = [] then c.content.toList else []
  calls : callsIn .whole v = c.toolCalls.map Tool.Call.toJson
  finish : finishIn v = some c.finish.name
  usage : usageIn v = c.usage.toJson

theorem tells_text (h : Head) {c : Completion} (noCalls : c.toolCalls = []) :
    Tells .text (Server.textJson h c) c := by
  rw [textJson_eq]
  constructor
  · rw [textIn_text, if_pos noCalls]
  · rw [callsIn_text, noCalls, List.map_nil]
  · exact finishIn_text h _ _ _
  · exact (usageIn_fields h _ _ _).trans (by simp [usageIn])

theorem tells_chat (h : Head) {c : Completion} {reply : ChatReply} (told : c.reply = some reply)
    (repeats : Engine.Repeats c reply) : Tells .chat (Server.chatJson h c) c := by
  rw [chatJson_eq h told, repeats.content, repeats.toolCalls, repeats.finish, repeats.usage]
  constructor
  · rw [textIn, choiceOf_fields]
    split <;> simp [Form.part, ChatReply.messageJson, lettersOf, text?]
  · rw [callsIn, choiceOf_fields]
    by_cases calls : c.toolCalls = [] <;>
      simp [Form.part, ChatReply.messageJson, calls, itemsOf]
  · rw [finishIn, choiceOf_fields]
    simp [text?]
  · exact (usageIn_fields _ _ _ _).trans (by simp [usageIn])

theorem tells_whole {service : Engine.Service} {tools : List Tool.Definition} {c : Completion}
    (answered : Engine.Answered service tools c) (h : Head) :
    Tells service (wholeJson service h c) c := by
  cases service with
  | text => exact tells_text h (answered.text rfl)
  | chat =>
    obtain ⟨reply, told, repeats⟩ := answered.reply rfl
    exact tells_chat h told repeats

theorem areFinite_calls (calls : List Tool.Call) :
    Json.areFinite (calls.map Tool.Call.toJson) = true := by
  induction calls with
  | nil => rfl
  | cons call calls ih => exact ih

theorem finite_messageJson (content : Option String) (calls : List Tool.Call) :
    (ChatReply.messageJson content calls).isFinite = true := by
  cases content <;> by_cases none : calls = [] <;>
    simp [ChatReply.messageJson, Json.isFinite, Json.fieldsFinite, none, areFinite_calls]

theorem finite_whole {service : Engine.Service} {tools : List Tool.Definition} {c : Completion}
    (answered : Engine.Answered service tools c) (h : Head)
    (finite : Json.fieldsFinite (timingField c.timing) = true) :
    (wholeJson service h c).isFinite = true := by
  cases service with
  | text =>
    rw [wholeJson, textJson_eq]
    cases c.stoppingWord <;>
      simp [Json.isFinite, Json.fieldsFinite, Json.areFinite, Head.text, Head.fields, optionalText,
        Usage.toJson, finite]
  | chat =>
    obtain ⟨reply, told, -⟩ := answered.reply rfl
    rw [wholeJson, chatJson_eq h told]
    simp [Json.isFinite, Json.fieldsFinite, Json.areFinite, Head.fields, Usage.toJson,
      finite_messageJson, finite]

/-- A whole answer and one in pieces carry the same outcome of a run; the status of pieces is 200 in
any case. Every piece but the last leaves the end open, and nothing comes after the last. -/
inductive SameOutcome (service : Engine.Service) : Result → Response → Response → Prop
  | failed {f : Fault} {sent : List Json} {last : Json}
    (opens : ∀ v ∈ sent, finishIn v = none ∧ errorIn v = none)
    (told : errorIn last = some (f.report, f.kind.errorKind.name))
    (unfinished : finishIn last = none) :
    SameOutcome service (.failed f)
      (.json (statusOf f.kind.errorKind) (.obj [("detail", .str f.report)]))
      (.events ((sent ++ [last]).map .data ++ [.done]))
  | completed {c : Completion} {whole : Json} {sent : List Json} {last : Json}
    (tells : Tells service whole c)
    (opens : ∀ v ∈ sent, finishIn v = none ∧ errorIn v = none)
    (finished : finishIn last = some (spokenReason service c) ∧ errorIn last = none)
    (text : (sent ++ [last]).flatMap (textIn service .piece) = textIn service .whole whole)
    (calls : ((sent ++ [last]).flatMap (callsIn .piece)).map withoutIndex = callsIn .whole whole)
    (usage : usageIn last = usageIn whole) :
    SameOutcome service (.completed c) (.json 200 whole)
      (.events ((sent ++ [last]).map .data ++ [.done]))

theorem before_opens (service : Engine.Service) (h : Head) (texts : List String)
    (calls : List Tool.Call) :
    ∀ v ∈ before service h texts calls, finishIn v = none ∧ errorIn v = none := by
  intro v sent
  rcases List.mem_append.1 sent with first | sent
  · have inner := inner_opening service h v first
    exact ⟨inner.finish, inner.error⟩
  · rcases List.mem_append.1 sent with written | called
    · obtain ⟨t, -, rfl⟩ := List.mem_map.1 written
      have inner := inner_fragment service h t
      exact ⟨inner.finish, inner.error⟩
    · have inner := inner_announcement h calls v called
      exact ⟨inner.finish, inner.error⟩

theorem before_text (service : Engine.Service) (h : Head) (texts : List String)
    {calls : List Tool.Call} (chat : service = .text → calls = []) :
    (before service h texts calls).flatMap (textIn service .piece) =
      texts.flatMap String.toList := by
  have first : (opening service h).flatMap (textIn service .piece) = [] :=
    List.flatMap_eq_nil_iff.2 fun v hv => (inner_opening service h v hv).text
  have called : (announcement h calls).flatMap (textIn service .piece) = [] := by
    cases service with
    | text => rw [chat rfl]; rfl
    | chat => exact List.flatMap_eq_nil_iff.2 fun v hv => (inner_announcement h calls v hv).text
  rw [before, List.flatMap_append, List.flatMap_append, first, called, List.flatMap_map]
  simp [(inner_fragment service h _).text]

theorem before_calls (service : Engine.Service) (h : Head) (texts : List String)
    (calls : List Tool.Call) :
    ((before service h texts calls).flatMap (callsIn .piece)).map withoutIndex =
      calls.map Tool.Call.toJson := by
  have first : (opening service h).flatMap (callsIn .piece) = [] :=
    List.flatMap_eq_nil_iff.2 fun v hv => (inner_opening service h v hv).calls
  have written : (texts.map (fragment service h)).flatMap (callsIn .piece) = [] := by
    refine List.flatMap_eq_nil_iff.2 fun v hv => ?_
    obtain ⟨t, -, rfl⟩ := List.mem_map.1 hv
    exact (inner_fragment service h t).calls
  have called : (announcement h calls).flatMap (callsIn .piece) = numberedCalls 0 calls := by
    by_cases none : calls = []
    · rw [announcement, if_pos none, none]
      rfl
    · have inner := inner_announcement h calls
      rw [announcement, if_neg none] at inner ⊢
      rw [List.flatMap_singleton, (inner _ (List.mem_singleton_self _)).calls]
  rw [before, List.flatMap_append, List.flatMap_append, first, written, called]
  exact numberedCalls_withoutIndex 0 calls

open Engine in
theorem sameOutcome_heard {service : Engine.Service} {tools : List Tool.Definition} {result : Result}
    {events : List Event} (heard : Heard tools result events)
    (answered : ∀ c, result = .completed c → Answered service tools c)
    (finite : ∀ c, result = .completed c → Json.fieldsFinite (timingField c.timing) = true)
    (h : Head) :
    SameOutcome service result (.inOne service h events) (.inPieces service h events) := by
  cases result with
  | failed f =>
    obtain ⟨texts, pieces⟩ := inPieces_failed heard service h
    rw [inOne_failed heard, pieces]
    exact .failed (before_opens service h texts []) (errorIn_errorJson _ _) (finishIn_errorJson _ _)
  | completed c =>
    have answered := answered c rfl
    obtain ⟨texts, whole, pieces⟩ := inPieces_completed heard answered h
    have tells := tells_whole answered h
    have ends := last_ending service h c
    have sendable : Response.answer (wholeJson service h c) = .json 200 (wholeJson service h c) :=
      if_pos (finite_whole answered h (finite c rfl))
    rw [inOne_completed heard, pieces, sendable]
    refine .completed tells (before_opens service h texts c.toolCalls) ⟨ends.finish, ends.error⟩
      ?text ?calls (ends.usage.trans tells.usage.symm)
    case text =>
      rw [List.flatMap_append, before_text service h texts answered.text, List.flatMap_singleton,
        ends.text, List.append_nil, tells.text, whole]
    case calls =>
      rw [List.flatMap_append, List.flatMap_singleton, ends.calls, List.append_nil, before_calls,
        tells.calls]

def Response.values : Response → List Json
  | .json _ v => [v]
  | .events chunks => chunks.filterMap fun
    | .data v => some v
    | .done => none
  | .crashed _ => []

def Response.finishes (answer : Response) : List String := answer.values.filterMap finishIn

theorem values_pieces (sent : List Json) :
    (Response.events (sent.map .data ++ [.done])).values = sent := by
  simp only [Response.values, List.filterMap_append, List.filterMap_map]
  simp

/-- Each answer gives one reason; the pieces of a conversation count calls as one. -/
theorem SameOutcome.finishes {service : Engine.Service} {c : Completion} {whole pieces : Response}
    (same : SameOutcome service (.completed c) whole pieces) :
    whole.finishes = [c.finish.name] ∧ pieces.finishes = [spokenReason service c] := by
  cases same with
  | @completed _ whole sent last tells opens finished text calls usage =>
    have silent : sent.filterMap finishIn = [] :=
      List.filterMap_eq_nil_iff.2 fun v hv => (opens v hv).1
    constructor
    · simp [Response.finishes, Response.values, tells.finish]
    · rw [Response.finishes, values_pieces, List.filterMap_append, silent]
      simp [finished.1]

theorem ending_name (ending : Generation.Ending) : ending.finish.name ≠ "" := by
  cases ending <;> simp [Generation.Ending.finish, FinishReason.name]

theorem spokenReason_chat {tools : List Tool.Definition} {c : Completion}
    (called : Engine.Called tools c) :
    spokenReason .chat c = if c.toolCalls = [] then c.finish.name else "tool_calls" := by
  by_cases calls : c.toolCalls = []
  · obtain ⟨ending, ended⟩ := called.ended calls
    simp [spokenReason, chatSummary, ChatSummary.reason, calls, ended, ending_name]
  · simp [spokenReason, chatSummary, ChatSummary.reason, calls, FinishReason.name]

open Engine in
theorem heard_last {tools : List Tool.Definition} {c : Completion} {events : List Event}
    (heard : Heard tools (.completed c) events) :
    events.getLast? = some (.final c.finish c.usage c) := by
  cases heard with
  | called => rfl
  | written => exact List.getLast?_concat

namespace Server

open Engine

variable {σ : Type} {sv : Server σ} {stamp : Stamp} {service : Engine.Service} {r : Request}
  {whole pieces : Demand} {a b : Fields} {h : House σ}

theorem answers_twice (twice : sv.Twice stamp service r whole pieces a b) :
    sv.answer stamp whole h = (sv.complete service stamp false r undisturbed h).1.1 ∧
    sv.answer stamp pieces h =
      (sv.complete service stamp false (r.withStream true) undisturbed h).1.1 := by
  have reads : readRequest stamp sv.modelId service b = .ok (r.withStream true) := by
    rw [readRequest_besides twice.same, twice.reads, twice.on]
    rfl
  exact ⟨answer_eq twice.whole twice.reads, answer_eq twice.pieces reads⟩

theorem answers_heard (twice : sv.Twice stamp service r whole pieces a b) {h' : House σ}
    (slot : sv.acquire h = some h') :
    sv.answer stamp whole h = .inOne service (sv.headOf stamp service)
      (sv.engine.stream service stamp .stays r h.station).1 ∧
    sv.answer stamp pieces h = .inPieces service (sv.headOf stamp service)
      (sv.engine.stream service stamp .stays r h.station).1 := by
  obtain ⟨inOne, inPieces⟩ := answers_twice (h := h) twice
  have off : r.stream = false := (stream_readRequest twice.reads).trans twice.off
  exact ⟨inOne.trans (complete_whole off slot), inPieces.trans (complete_pieces rfl slot)⟩

theorem sameOutcome_answers (twice : sv.Twice stamp service r whole pieces a b)
    (slot : (sv.acquire h).isSome) {result : Result} {t : Station σ}
    (run : sv.engine.attended service stamp r h.station = .ok result t)
    (finite : ∀ c, result = .completed c → Json.fieldsFinite (timingField c.timing) = true) :
    SameOutcome service result (sv.answer stamp whole h) (sv.answer stamp pieces h) := by
  obtain ⟨h', taken⟩ := Option.isSome_iff_exists.1 slot
  obtain ⟨inOne, inPieces⟩ := answers_heard twice taken
  rw [inOne, inPieces]
  refine sameOutcome_heard (heard_stream run) (fun c completed => ?_) finite _
  subst completed
  exact serve_answered (r := streamed r) run

def callingServer : Server Rehearsal.World where
  engine :=
    { controller :=
        { backend := Rehearsal.backend, batch := 4, batch_pos := by decide
          rejectWhenBusy := false, maxPromptTokens := none }
      config := {} }
  modelId := "streamgen"
  slots := none

def callText : String := "\x7b\"function\": \x7b\"name\": \"f\"\x7d\x7d"

/-- Where the script reaches the engine, the run is cancelled after its first token. -/
def callingHouse (engaged : Bool) : House Rehearsal.World :=
  callingServer.opened ⟨.idle,
    { script := { items := [.piece callText, .endToken], template := .native, hooks := [(1, .cancel)] }
      engaged }⟩

def callingText : Bool → String
  | false =>
    "\x7b\"messages\":[\x7b\"role\":\"user\"\x7d],\"tools\":[\x7b\"name\":\"f\"\x7d],\"stream\":false\x7d"
  | true =>
    "\x7b\"messages\":[\x7b\"role\":\"user\"\x7d],\"tools\":[\x7b\"name\":\"f\"\x7d],\"stream\":true\x7d"

def callingBody (on : Bool) : Fields :=
  [("messages", .arr [.obj [("role", .str "user")]]),
   ("tools", .arr [.obj [("name", .str "f")]]), ("stream", .bool on)]

def callingDemand (on : Bool) : Demand where
  path := "/v1/chat/completions"
  body := callingText on

def callingRequest : Request where
  messages := some [{ role := .user }]
  tools := [{ name := "f" }]

theorem bodyFields_of_chars {body : String} {chars : List Char} {fields : Fields}
    (decoded : bodyChars body = some body.toList) (spelled : body.toList = chars)
    (read : Json.read? chars = some (.obj fields)) : bodyFields body = .ok fields := by
  rw [bodyFields, bodyJson, decoded, spelled, Option.bind_some, read]

theorem callingBody_read (on : Bool) : bodyFields (callingText on) = .ok (callingBody on) := by
  have decoded : bodyChars (callingText on) = some (callingText on).toList := by
    revert on
    decide +kernel
  -- The characters are spelled out first: to read the text as it stands would unfold its encoding.
  cases on with
  | false =>
    exact bodyFields_of_chars decoded (by simp only [callingText, String.reduceToList]; rfl) rfl
  | true =>
    exact bodyFields_of_chars decoded (by simp only [callingText, String.reduceToList]; rfl) rfl

theorem callingRequest_read :
    readRequest Rehearsal.stamp "streamgen" .chat (callingBody false) = .ok callingRequest := by
  have sampling : Request.samplingOf (callingBody false) = .ok {} :=
    Request.samplingOf_unset rfl rfl rfl rfl rfl
  simp only [readRequest, Request.ofFields, sampling]
  rfl

theorem calling_twice : callingServer.Twice Rehearsal.stamp .chat callingRequest (callingDemand false)
    (callingDemand true) (callingBody false) (callingBody true) where
  whole := ⟨rfl, callingBody_read false, rfl⟩
  pieces := ⟨rfl, callingBody_read true, rfl⟩
  same k other := by
    simp [callingBody, Fields.get?, List.lookup_cons, beq_false_of_ne other]
  off := rfl
  on := rfl
  reads := callingRequest_read

theorem calling_run : ∃ c t,
    callingServer.engine.attended .chat Rehearsal.stamp callingRequest (callingHouse false).station =
      .ok (.completed c) t ∧
    Json.fieldsFinite (timingField c.timing) = true ∧ c.toolCalls ≠ [] ∧ c.finish = .toolCalls := by
  have evaluated : Act.meets (fun c => Json.fieldsFinite (timingField c.timing) &&
      decide (c.toolCalls ≠ [] ∧ c.finish = .toolCalls))
      (callingServer.engine.attended .chat Rehearsal.stamp callingRequest
        (callingHouse false).station) = true := by decide +kernel
  obtain ⟨c, t, done, tested⟩ := Act.completed_of_meets evaluated
  obtain ⟨finite, calls⟩ := (Bool.and_eq_true _ _).mp tested
  exact ⟨c, t, done, finite, of_decide_eq_true calls⟩

/-- The reason of the end in the answers to a conversation, and in the last event of its run. The
answer in pieces reports calls where the others report that the run was cancelled. -/
theorem streamed_finish (twice : sv.Twice stamp .chat r whole pieces a b)
    (slot : (sv.acquire h).isSome) {c : Completion} {t : Station σ}
    (run : sv.engine.attended .chat stamp r h.station = .ok (.completed c) t)
    (finite : Json.fieldsFinite (timingField c.timing) = true) :
    (sv.engine.stream .chat stamp .stays r h.station).1.getLast? =
      some (.final c.finish c.usage c) ∧
    (sv.answer stamp whole h).finishes = [c.finish.name] ∧
    (sv.answer stamp pieces h).finishes =
      [if c.toolCalls = [] then c.finish.name else "tool_calls"] ∧
    ((sv.answer stamp whole h).finishes = (sv.answer stamp pieces h).finishes ↔
      ¬ (c.finish = .cancelled ∧ c.toolCalls ≠ [])) := by
  have called : Called r.offeredTools c := (serve_answered (r := streamed r) run).toCalled
  have same := sameOutcome_answers twice slot run fun c' completed => by
    rw [← Result.completed.inj completed]
    exact finite
  obtain ⟨inOne, inPieces⟩ := same.finishes
  rw [spokenReason_chat called] at inPieces
  refine ⟨heard_last (heard_stream run), inOne, inPieces, ?_⟩
  rw [inOne, inPieces]
  by_cases calls : c.toolCalls = []
  · simp [calls]
  · rcases called.reason calls with reason | reason <;> simp [calls, reason, FinishReason.name]

theorem streamed_finish_rehearsed :
    (callingServer.answer Rehearsal.stamp (callingDemand false) (callingHouse false)).finishes =
      (callingServer.answer Rehearsal.stamp (callingDemand true) (callingHouse false)).finishes := by
  obtain ⟨c, t, run, finite, calls, reason⟩ := calling_run
  have both := streamed_finish calling_twice rfl run finite
  exact both.2.2.2.2 fun cancelled => by rw [reason] at cancelled; cases cancelled.1

/-- What is heard of a run that was cancelled when it had written a call. -/
def cancelledCall : List Incoming :=
  [.event (.toolCalls [{ id := "call_f_1700000000000000000", name := "f" }]),
   .event (.final .cancelled ⟨15, 1⟩
    { content := callText, promptTokens := 15, tokens := [2], finish := .cancelled })]

/-- The writer of pieces does not take over the reason that the last event gives, so the two answers
of a server to one body differ in it. -/
theorem streamed_finish_cancelled :
    (Response.events (chatStream ⟨"chatcmpl-1", 7, "m"⟩ none cancelledCall).chunks).finishes =
      ["tool_calls"] ∧
    callingServer.Twice Rehearsal.stamp .chat callingRequest (callingDemand false)
      (callingDemand true) (callingBody false) (callingBody true) ∧
    (callingServer.answer Rehearsal.stamp (callingDemand false)
      (callingHouse true)).finishes = ["cancelled"] ∧
    (callingServer.answer Rehearsal.stamp (callingDemand true)
      (callingHouse true)).finishes = ["tool_calls"] := by
  obtain ⟨inOne, inPieces⟩ := answers_heard (h := callingHouse true) calling_twice rfl
  refine ⟨by decide +kernel, calling_twice, ?_, ?_⟩
  · rw [inOne]
    decide +kernel
  · rw [inPieces]
    decide +kernel

end Server

end Completions.Http
