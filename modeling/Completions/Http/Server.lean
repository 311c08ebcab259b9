import Completions.Http.Transmission
import Completions.Json.Reader
import Completions.Request.Reading

/-!
The service over HTTP. A request is read and checked, takes a slot if the number of slots is limited,
and is answered with JSON or with an event stream. Something may happen elsewhere when the first
chunk of an answer has gone out; it is given as an action on the house.
-/

namespace Completions.Http

structure Server (σ : Type) where
  engine : Engine σ
  modelId : String
  /-- How many completions may be under way at once; none is no limit. -/
  slots : Option Nat

structure House (σ : Type) where
  station : Station σ
  free : Nat

inductive LimitFlaw where
  | notInteger
  | negative
  deriving DecidableEq, Repr

def LimitFlaw.fault : LimitFlaw → Fault
  | .notInteger => ⟨.value, "http_max_concurrency must be an integer"⟩
  | .negative => ⟨.value, "http_max_concurrency must be >= 0"⟩

def slotsOf : Json → Except LimitFlaw (Option Nat)
  | .null => .ok none
  | v =>
    match v.toInteger with
    | .error _ => .error .notInteger
    | .ok n => if n < 0 then .error .negative else .ok (if n = 0 then none else some n.toNat)

def Server.make? (engine : Engine σ) (modelId : String) (limit : Json) : Except LimitFlaw (Server σ) := do
  let slots ← slotsOf limit
  pure { engine, modelId, slots }

def Server.opened (sv : Server σ) (station : Station σ) : House σ := ⟨station, sv.slots.getD 0⟩

inductive Route where
  | health
  | models
  | tokenize
  | detokenize
  | complete (service : Engine.Service)
  deriving DecidableEq, Repr

inductive Wrong where
  | notJson
  | notObject
  | unknownModel (v : Json)
  | noMessages
  | noPrompt
  | request (flaw : Request.Flaw)
  | busy
  | gone
  | engine (kind : ErrorKind) (message : String)
  | noResult
  | path
  | method
  | crash (fault : Fault)

namespace Wrong

def status : Wrong → Nat
  | .notJson | .notObject | .noMessages | .noPrompt | .request _ => 400
  | .unknownModel _ | .path => 404
  | .method => 405
  | .busy => 429
  | .gone => 499
  | .engine kind _ => statusOf kind
  | .noResult | .crash _ => 500

def detail : Wrong → String
  | .notJson => "Request body must be valid JSON."
  | .notObject => "Request body must be a JSON object."
  | .unknownModel v => "Unknown model: " ++ v.named
  | .noMessages => "'messages' must be a non-empty list."
  | .noPrompt => "'prompt' is required."
  | .request f => f.text
  | .busy => "Server is busy"
  | .gone => "Client disconnected"
  | .engine _ message => message
  | .noResult => "Generation ended without a result."
  | .path => "Not Found"
  | .method => "Method Not Allowed"
  | .crash _ => "Internal Server Error"

/-- A body that is wrong in a way a client is told of, or else a crash. -/
def ofFlaw (f : Request.Flaw) : Wrong :=
  if f.fault.kind = .invalidParam then .request f else .crash f.fault

end Wrong

inductive Response where
  | json (status : Nat) (body : Json)
  | events (chunks : List Chunk)
  | crashed (fault : Fault)

namespace Response

def body : Response → String
  | .json _ v => v.text
  | .events chunks => String.join (chunks.map Chunk.frame)
  | .crashed _ => "Internal Server Error"

def contentType : Response → String
  | .json _ _ => "application/json"
  | .events _ => "text/event-stream; charset=utf-8"
  | .crashed _ => "text/plain; charset=utf-8"

def status : Response → Nat
  | .json n _ => n
  | .events _ => 200
  | .crashed _ => 500

def wrong : Wrong → Response
  | .crash f => .crashed f
  | w => .json w.status (.obj [("detail", .str w.detail)])

def notFinite : Fault := ⟨.value, "Out of range float values are not JSON compliant"⟩

/-- An answer in JSON, where only finite numbers can be sent. -/
def answer (v : Json) : Response := if v.isFinite then .json 200 v else .crashed notFinite

def ofExcept : Except Wrong Json → Response
  | .ok v => answer v
  | .error w => wrong w

end Response

structure Demand where
  method : String := "POST"
  path : String
  body : String := ""
  gone : Bool := false

def textOr (default : String) : Option Json → String
  | some (.str s) => s
  | _ => default

def Demand.ofFields (fields : Fields) : Demand where
  method := textOr "POST" (fields.get? "method")
  path := textOr "" (fields.get? "path")
  body :=
    match fields.get? "body_text", fields.get? "body" with
    | some (.str t), _ => t
    | _, some v => v.text
    | _, none => ""
  gone := (fields.get "disconnect").truthy

def routes : List (String × String × Route) :=
  [("/health", "GET", .health), ("/v1/models", "GET", .models), ("/tokenize", "POST", .tokenize),
   ("/detokenize", "POST", .detokenize), ("/v1/completions", "POST", .complete .text),
   ("/v1/chat/completions", "POST", .complete .chat)]

def routeOf (d : Demand) : Except Wrong Route :=
  match routes.lookup d.path with
  | none => .error .path
  | some (method, route) => if d.method = method then .ok route else .error .method

/-- The characters of a body. A mark of byte order before them is passed over. -/
def bodyChars (body : String) : Option (List Char) :=
  match body.toList with
  | '\uFEFF' :: rest => some rest
  | _ => (Text.Encoding.ofFirstBytes body.toUTF8.toList).decode body

def bodyJson (body : String) : Option Json := (bodyChars body).bind Json.read?

def bodyFields (body : String) : Except Wrong Fields :=
  match bodyJson body with
  | none => .error .notJson
  | some (.obj fields) => .ok fields
  | some _ => .error .notObject

def isList : Json → Bool
  | .arr _ => true
  | _ => false

/-- A request for a completion from its body. The model is checked before anything else. -/
def readRequest (stamp : Stamp) (modelId : String) (service : Engine.Service) (body : Fields) :
    Except Wrong Request := do
  let model := body.get "model"
  if !model.isNull && !model.isStr modelId then .error (.unknownModel model)
  match service with
  | .chat => if !isList (body.get "messages") then .error .noMessages
  | .text =>
    if (body.get "prompt").isNull && (body.get "messages").isNull then .error .noPrompt
  (Request.ofFields stamp false body).mapError Wrong.ofFlaw

namespace Server

variable {σ : Type}

def engineFault (f : Fault) : Wrong :=
  match f.kind.own? with
  | some kind => .engine kind f.message
  | none => .crash f

def callEngine (act : Act σ α) (encode : α → Json) (h : House σ) : Response × House σ :=
  match act h.station with
  | .ok a s => (.json 200 (encode a), { h with station := s })
  | .error f s => (.wrong (engineFault f), { h with station := s })

def health (sv : Server σ) (h : House σ) : Json :=
  .obj [("status", .str (if sv.engine.backend.ready h.station.world then "ok" else "loading")),
        ("generating", .bool h.station.gate.running)]

def models (sv : Server σ) (stamp : Stamp) (h : House σ) : Json :=
  .obj [("object", .str "list"),
        ("data", .arr [.obj [("id", .str sv.modelId), ("object", .str "model"),
          ("created", .int stamp.seconds), ("owned_by", .str "streamgen"),
          ("meta", (Json.obj (sv.engine.backend.info h.station.world)).finite)]])]

def tokensJson (ts : List Int) : Json := .obj [("tokens", .arr (ts.map .int))]

def piecesJson (ps : List (Int × String)) : Json :=
  .obj [("tokens", .arr (ps.map fun p => .obj [("id", .int p.1), ("piece", .str p.2)]))]

def tokenize (sv : Server σ) (body : Fields) (h : House σ) : Response × House σ :=
  if (body.get "with_pieces").truthy then
    callEngine (sv.engine.tokenizeInPieces (body.get "content")) piecesJson h
  else callEngine (sv.engine.tokenize (body.get "content")) tokensJson h

def detokenize (sv : Server σ) (body : Fields) (h : House σ) : Response × House σ :=
  callEngine (sv.engine.detokenize (body.get "tokens")) (fun s => .obj [("content", .str s)]) h

def acquire (sv : Server σ) (h : House σ) : Option (House σ) :=
  match sv.slots with
  | none => some h
  | some _ => if h.free = 0 then none else some { h with free := h.free - 1 }

def release (sv : Server σ) (n : Nat) (h : House σ) : House σ :=
  match sv.slots with
  | none => h
  | some _ => { h with free := h.free + n }

def textJson (head : Head) (c : Completion) : Json :=
  .obj ([("id", .str head.id), ("object", .str "text_completion"), ("created", .int head.created),
         ("model", .str head.model),
         ("choices", .arr [.obj [("index", .int 0), ("text", .str c.content), ("logprobs", .null),
                                 ("finish_reason", .str c.finish.name)]]),
         ("usage", c.usage.toJson)] ++
    (c.stoppingWord.elim [] fun w => [("stopping_word", .str w)]) ++ timingField c.timing)

def chatJson (head : Head) (c : Completion) : Json :=
  .obj (Fields.put (c.reply.elim [] ChatReply.toFields) "model" (.str head.model) ++
    timingField c.timing)

def headOf (sv : Server σ) (stamp : Stamp) (service : Engine.Service) : Head where
  id := match service with
    | .text => stamp.completionId
    | .chat => stamp.chatId
  created := stamp.seconds
  model := sv.modelId

def collapsed : Collapse → Wrong
  | .refused kind message => .engine kind message
  | .noResult => .noResult
  | .interrupted .cancelled => .gone
  | .interrupted (.failed f) => .crash f

def eventsOf (sv : Server σ) (service : Engine.Service) (stamp : Stamp) (l : Listener) (r : Request)
    (h : House σ) : List Event × House σ :=
  let (events, s) := sv.engine.stream service stamp l r h.station
  (events, { h with station := s })

/-- What comes of a request whose client is gone: a run that has failed before its first token is
reported all the same. -/
def orGone : Except Collapse Completion → Wrong
  | .error (.refused kind message) => .engine kind message
  | _ => .gone

/-- An answer in one piece. The slot is given back before it goes out. -/
def whole (sv : Server σ) (service : Engine.Service) (stamp : Stamp) (gone : Bool) (r : Request)
    (h : House σ) : Response × House σ :=
  let (events, h) := sv.eventsOf service stamp (if gone then .gone else .stays) r h
  let head := sv.headOf stamp service
  let encode := match service with
    | .text => textJson head
    | .chat => chatJson head
  let collected := collect none (events.map .event)
  let outcome : Except Wrong Json :=
    if gone then .error (orGone collected) else (collected.map encode).mapError collapsed
  (.ofExcept outcome, sv.release 1 h)

/-- Let what happens elsewhere happen while some of the slots a transmission gives back are still
taken. -/
def between (sv : Server σ) (before after : Nat) (meanwhile : House σ → α × House σ) (h : House σ) :
    α × House σ :=
  let (a, h) := meanwhile (sv.release before h)
  (a, sv.release (after - before) h)

/-- A text in pieces: the run has come to its first event when the first chunk goes out. -/
def streamText (sv : Server σ) (stamp : Stamp) (d : Departure) (l : Listener) (r : Request)
    (meanwhile : House σ → α × House σ) (h : House σ) : (Response × α) × House σ :=
  let (events, h) := sv.eventsOf .text stamp l r h
  let t := textStream (sv.headOf stamp .text) d {} {} (events.map .event)
  let (a, h) := sv.between t.openingLedger.released t.ledger.released meanwhile h
  ((.events t.chunks, a), h)

/-- An answer to a conversation in pieces: the run begins after the first chunk has gone out. -/
def streamChat (sv : Server σ) (stamp : Stamp) (d : Departure) (l : Listener) (r : Request)
    (meanwhile : House σ → α × House σ) (h : House σ) : (Response × α) × House σ :=
  let (a, h) := meanwhile h
  let (events, h) := sv.eventsOf .chat stamp l r h
  let t := chatStream (sv.headOf stamp .chat) d (events.map .event)
  ((.events t.chunks, a), sv.release t.ledger.released h)

def afterwards (answer : Response × House σ) (meanwhile : House σ → α × House σ) :
    (Response × α) × House σ :=
  let (a, h) := meanwhile answer.2
  ((answer.1, a), h)

def complete (sv : Server σ) (service : Engine.Service) (stamp : Stamp) (gone : Bool) (r : Request)
    (meanwhile : House σ → α × House σ) (h : House σ) : (Response × α) × House σ :=
  match sv.acquire h with
  | none => afterwards (.wrong .busy, h) meanwhile
  | some h =>
    let departure : Departure := if gone then some 1 else none
    let listener : Listener := if gone then .takes 1 else .stays
    if r.stream then
      match service with
      | .text => sv.streamText stamp departure listener r meanwhile h
      | .chat => sv.streamChat stamp departure listener r meanwhile h
    else afterwards (sv.whole service stamp gone r h) meanwhile

def handle (sv : Server σ) (stamp : Stamp) (d : Demand) (meanwhile : House σ → α × House σ)
    (h : House σ) : (Response × α) × House σ :=
  let wrong (w : Wrong) := afterwards (Response.wrong w, h) meanwhile
  match routeOf d with
  | .error w => wrong w
  | .ok .health => afterwards (.json 200 (sv.health h), h) meanwhile
  | .ok .models => afterwards (.json 200 (sv.models stamp h), h) meanwhile
  | .ok .tokenize =>
    match bodyFields d.body with
    | .error w => wrong w
    | .ok body => afterwards (sv.tokenize body h) meanwhile
  | .ok .detokenize =>
    match bodyFields d.body with
    | .error w => wrong w
    | .ok body => afterwards (sv.detokenize body h) meanwhile
  | .ok (.complete service) =>
    match bodyFields d.body >>= readRequest stamp sv.modelId service with
    | .error w => wrong w
    | .ok r => sv.complete service stamp d.gone r meanwhile h

end Server

end Completions.Http
