import Completions.Proofs.BodyReading
import Completions.Proofs.ClientView
import Completions.Proofs.EventGrammar

/-! Answers whole and in pieces as they are made of the events of a run. Main statements:
`inPieces_failed`, `inPieces_completed`, `inOne_failed`, `inOne_completed`, and `complete_pieces`,
`complete_whole`, which say that the server makes them so. -/

namespace Completions.Http

variable {σ : Type}

/-- The writer of a service for a client who stays, once the opening has been sent. -/
def writer (service : Engine.Service) (h : Head) (l : Ledger) (source : List Incoming) : Transmission :=
  match service with
  | .text => textStream h none {} l source
  | .chat => chatBody h none {} l source

def opening (service : Engine.Service) (h : Head) : List Json :=
  match service with
  | .text => []
  | .chat => [.obj (h.chat [("role", .str "assistant")] none)]

def fragment (service : Engine.Service) (h : Head) (text : String) : Json :=
  match service with
  | .text => .obj (h.text text none)
  | .chat => .obj (h.chat [("content", .str text)] none)

def announcement (h : Head) (calls : List Tool.Call) : List Json :=
  if calls = [] then [] else [.obj (h.chat [("tool_calls", .arr (numberedCalls 0 calls))] none)]

def chatSummary (c : Completion) : ChatSummary where
  finish := some (if c.toolCalls = [] then c.finish else .toolCalls)
  usage := some c.usage
  timing := c.timing

def ending (service : Engine.Service) (h : Head) (c : Completion) : Json :=
  match service with
  | .text => .obj (TextSummary.terminal ⟨c.finish, some c.usage⟩ h)
  | .chat => .obj ((chatSummary c).terminal h)

theorem writer_text (service : Engine.Service) (h : Head) {t : String} (nonempty : t ≠ "")
    (l : Ledger) (rest : List Incoming) : (writer service h l (.event (.delta t) :: rest)).chunks =
      .data (fragment service h t) :: (writer service h l.poll rest).chunks := by
  have sent : (t != "") = true := bne_iff_ne.2 nonempty
  cases service with
  | text => simp [writer, textStream, isGone, sendIf, sent, Transmission.chunks, fragment]
  | chat => simp [writer, chatBody, isGone, sendIf, sent, Transmission.chunks, fragment]

theorem writer_texts (service : Engine.Service) (h : Head) {texts : List String}
    (nonempty : "" ∉ texts) (l : Ledger) (rest : List Event) : ∃ l',
    (writer service h l ((texts.map Event.delta ++ rest).map Incoming.event)).chunks =
      (texts.map (fragment service h)).map .data ++
        (writer service h l' (rest.map Incoming.event)).chunks := by
  induction texts generalizing l with
  | nil => exact ⟨l, rfl⟩
  | cons t texts ih =>
    obtain ⟨first, others⟩ := not_or.1 (mt List.mem_cons.2 nonempty)
    obtain ⟨l', tail⟩ := ih others l.poll
    exact ⟨l', (writer_text service h (Ne.symm first) l _).trans (congrArg _ tail)⟩

theorem writer_error (service : Engine.Service) (h : Head) (l : Ledger) (kind : ErrorKind)
    (message : String) : (writer service h l [.event (.error kind message)]).chunks =
      [.data (errorJson kind message), .done] := by
  cases service <;> rfl

theorem writer_final (service : Engine.Service) (h : Head) (l : Ledger) {c : Completion}
    (noCalls : c.toolCalls = []) : (writer service h l [.event (.final c.finish c.usage c)]).chunks =
      [.data (ending service h c), .done] := by
  cases service with
  | text => rfl
  | chat =>
    have summary : ({} : ChatSummary).close c.finish c.usage c = chatSummary c := by
      simp [ChatSummary.close, chatSummary, noCalls]
    simp only [writer, chatBody, isGone, Bool.false_eq_true, if_false, summary]
    rfl

theorem writer_called (h : Head) (l : Ledger) {c : Completion} (calls : c.toolCalls ≠ []) :
    (writer .chat h l [.event (.toolCalls c.toolCalls), .event (.final c.finish c.usage c)]).chunks =
      (announcement h c.toolCalls ++ [ending .chat h c]).map .data ++ [.done] := by
  have summary : ({} : ChatSummary).announce.close c.finish c.usage c = chatSummary c := by
    simp [ChatSummary.close, ChatSummary.announce, chatSummary, calls]
  simp only [writer, chatBody, isGone, Bool.false_eq_true, if_false, sendIf, if_true, summary,
    announcement, calls]
  rfl

def before (service : Engine.Service) (h : Head) (texts : List String) (calls : List Tool.Call) :
    List Json :=
  opening service h ++ (texts.map (fragment service h) ++ announcement h calls)

/-- The answer in pieces to what was heard of a run, for a client who stays. -/
def Response.inPieces (service : Engine.Service) (h : Head) (events : List Event) : Response :=
  .events ((opening service h).map .data ++ (writer service h {} (events.map .event)).chunks)

theorem inPieces_eq {service : Engine.Service} {h : Head} {events : List Event}
    {texts : List String} {calls : List Tool.Call} {last : Json}
    (written : (writer service h {} (events.map .event)).chunks =
      (texts.map (fragment service h) ++ announcement h calls ++ [last]).map .data ++ [.done]) :
    Response.inPieces service h events =
      .events ((before service h texts calls ++ [last]).map .data ++ [.done]) := by
  rw [Response.inPieces, written, before, ← List.append_assoc, ← List.map_append,
    ← List.append_assoc]

open Engine in
theorem inPieces_failed {tools : List Tool.Definition} {f : Fault} {events : List Event}
    (heard : Heard tools (.failed f) events) (service : Engine.Service) (h : Head) :
    ∃ texts : List String, Response.inPieces service h events =
      .events ((before service h texts [] ++ [errorJson f.kind.errorKind f.report]).map .data ++
        [.done]) := by
  cases heard with
  | @failed _ texts nonempty inOne =>
    obtain ⟨l, written⟩ := writer_texts service h nonempty {} [.error f.kind.errorKind f.report]
    rw [List.map_singleton, writer_error] at written
    refine ⟨texts, inPieces_eq (written.trans ?_)⟩
    rw [show announcement h [] = [] from rfl, List.append_nil, List.map_append, List.append_assoc]
    rfl

open Engine in
theorem inPieces_completed {tools : List Tool.Definition} {c : Completion} {events : List Event}
    {service : Engine.Service} (heard : Heard tools (.completed c) events)
    (answered : Answered service tools c) (h : Head) : ∃ texts : List String,
      texts.flatMap String.toList = (if c.toolCalls = [] then c.content.toList else []) ∧
      Response.inPieces service h events = .events
        ((before service h texts c.toolCalls ++ [ending service h c]).map .data ++ [.done]) := by
  cases heard with
  | called calls =>
    have chat : service = .chat := by
      cases service with
      | text => exact absurd (answered.text rfl) calls
      | chat => rfl
    subst chat
    exact ⟨[], by simp [calls], inPieces_eq (writer_called h {} calls)⟩
  | @written _ noCalls texts nonempty inOne whole =>
    obtain ⟨l, written⟩ := writer_texts service h nonempty {} [.final c.finish c.usage c]
    rw [List.map_singleton, writer_final service h l noCalls] at written
    refine ⟨texts, by simp [noCalls, whole], inPieces_eq (written.trans ?_)⟩
    simp [announcement, noCalls]

theorem collect_texts (last : Option Completion) (texts : List String) (rest : List Event) :
    collect last ((texts.map Event.delta ++ rest).map .event) = collect last (rest.map .event) := by
  induction texts with
  | nil => rfl
  | cons t texts ih => exact ih

def wholeJson (service : Engine.Service) (h : Head) (c : Completion) : Json :=
  match service with
  | .text => Server.textJson h c
  | .chat => Server.chatJson h c

/-- The answer in one piece to what was heard of a run. -/
def Response.inOne (service : Engine.Service) (h : Head) (events : List Event) : Response :=
  .ofExcept (((collect none (events.map .event)).map (wholeJson service h)).mapError
    Server.collapsed)

open Engine in
theorem inOne_failed {tools : List Tool.Definition} {f : Fault} {events : List Event}
    (heard : Heard tools (.failed f) events) (service : Engine.Service) (h : Head) :
    Response.inOne service h events =
      .json (statusOf f.kind.errorKind) (.obj [("detail", .str f.report)]) := by
  have collected : collect none (events.map .event) =
      .error (.refused f.kind.errorKind f.report) := by
    cases heard with
    | failed => exact collect_texts none _ _
  rw [Response.inOne, collected]
  rfl

open Engine in
theorem inOne_completed {tools : List Tool.Definition} {c : Completion} {events : List Event}
    (heard : Heard tools (.completed c) events) (service : Engine.Service) (h : Head) :
    Response.inOne service h events = .answer (wholeJson service h c) := by
  have collected : collect none (events.map .event) = .ok c := by
    cases heard with
    | called => rfl
    | written => exact collect_texts none _ _
  rw [Response.inOne, collected]
  rfl

namespace Server

def undisturbed (h : House σ) : Unit × House σ := ((), h)

def answer (sv : Server σ) (stamp : Stamp) (d : Demand) (h : House σ) : Response :=
  (sv.handle stamp d undisturbed h).1.1

/-- A body posted for a completion, by a client who waits for the answer. -/
structure Posts (service : Engine.Service) (d : Demand) (body : Fields) : Prop where
  route : routeOf d = .ok (.complete service)
  fields : bodyFields d.body = .ok body
  stays : d.gone = false

/-- One body posted twice, for a whole answer and for one in pieces, and the request it is read as. -/
structure Twice (sv : Server σ) (stamp : Stamp) (service : Engine.Service) (r : Request)
    (whole pieces : Demand) (a b : Fields) : Prop where
  whole : Posts service whole a
  pieces : Posts service pieces b
  same : Fields.SameBesides "stream" a b
  off : a.asksStream = false
  on : b.asksStream = true
  reads : readRequest stamp sv.modelId service a = .ok r

variable {sv : Server σ} {stamp : Stamp} {service : Engine.Service} {d : Demand} {body : Fields}
  {r : Request} {h : House σ}

theorem station_acquire {h' : House σ} (slot : sv.acquire h = some h') : h'.station = h.station := by
  unfold acquire at slot
  split at slot
  · rw [Option.some.inj slot]
  · split at slot
    · cases slot
    · rw [← Option.some.inj slot]

theorem answer_eq (posts : Posts service d body)
    (reads : readRequest stamp sv.modelId service body = .ok r) :
    sv.answer stamp d h = (sv.complete service stamp false r undisturbed h).1.1 := by
  have read : (bodyFields d.body >>= readRequest stamp sv.modelId service) = .ok r := by
    rw [posts.fields]
    exact reads
  simp only [answer, handle, posts.route, read, posts.stays]

theorem complete_pieces (stream : r.stream = true) {h' : House σ} (slot : sv.acquire h = some h') :
    (sv.complete service stamp false r undisturbed h).1.1 =
      .inPieces service (sv.headOf stamp service)
        (sv.engine.stream service stamp .stays r h.station).1 := by
  simp only [complete, slot, stream, if_true, Bool.false_eq_true, if_false]
  cases service with
  | text =>
    simp only [streamText, eventsOf, station_acquire slot]
    rfl
  | chat =>
    simp only [streamChat, undisturbed, eventsOf, station_acquire slot]
    rfl

theorem complete_whole (stream : r.stream = false) {h' : House σ} (slot : sv.acquire h = some h') :
    (sv.complete service stamp false r undisturbed h).1.1 =
      .inOne service (sv.headOf stamp service)
        (sv.engine.stream service stamp .stays r h.station).1 := by
  simp only [complete, slot, stream, whole, Bool.false_eq_true, if_false, afterwards, eventsOf,
    station_acquire slot]
  cases service <;> rfl

end Server

end Completions.Http
