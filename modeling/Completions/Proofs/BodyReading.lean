import Completions.Http.Server

/-! What the switches among the fields of a body do to the reading of it: each sets its own switch of
the request and nothing else. Main statements: `ofFields_alike`, and `readRequest_besides` for the
field that asks for a stream. -/

namespace Completions

namespace Fields

def SameBesides (key : String) (a b : Fields) : Prop := ∀ k, k ≠ key → a.get? k = b.get? k

/-- Two objects in which every field but those named reads alike; a null reads as an absent field. -/
def AlikeBesides (keys : List String) (a b : Fields) : Prop := ∀ k, k ∉ keys → a.get k = b.get k

variable {a b : Fields}

theorem SameBesides.get {key : String} (same : SameBesides key a b) {k : String} (other : k ≠ key) :
    a.get k = b.get k := by
  rw [Fields.get, same k other, Fields.get]

theorem SameBesides.alike {key : String} {keys : List String} (same : SameBesides key a b)
    (inside : key ∈ keys) : AlikeBesides keys a b :=
  fun _ outside => same.get fun here => outside (here ▸ inside)

def asksStream (body : Fields) : Bool := ((body.get? "stream").getD (.bool false)).truthy

/-- A body whose switch for the template engine is on: it has two names, and the first one given
counts. -/
def asksEngine (body : Fields) : Bool :=
  ((body.get? "use_jinja").getD ((body.get? "use_template_engine").getD (.bool true))).truthy

end Fields

namespace Request

open Fields

def withStream (r : Request) (on : Bool) : Request := { r with stream := on }

/-- The fields of a body that turn something on or off; in them a null says off. -/
def switches : List String := ["ignore_eos", "stream", "use_jinja", "use_template_engine"]

def withSwitches (r : Request) (body : Fields) : Request :=
  { r with
    ignoreEos := ((body.get? "ignore_eos").getD (.bool false)).truthy
    stream := body.asksStream
    useTemplateEngine := body.asksEngine }

variable {a b : Fields}

section Alike

variable (alike : AlikeBesides switches a b)
include alike

theorem samplingOf_alike : samplingOf b = samplingOf a := by
  simp only [samplingOf, topKOf, numberOf, alike "seed" (by decide),
    alike "temperature" (by decide), alike "top_p" (by decide), alike "top_k" (by decide),
    alike "min_p" (by decide)]

theorem schemaOf_alike : schemaOf b = schemaOf a := by
  simp only [schemaOf, alike "json_schema" (by decide), alike "response_format" (by decide)]

theorem templateNameOf_alike : templateNameOf b = templateNameOf a := by
  simp only [templateNameOf, alike "chat_template" (by decide),
    alike "template_name" (by decide)]

/-- Bodies that differ in their switches are refused alike, or read as requests that differ in
theirs. -/
theorem ofFields_alike (stamp : Stamp) :
    ofFields stamp false b = (·.withSwitches b) <$> ofFields stamp false a := by
  simp only [ofFields, map_bind, map_pure, samplingOf_alike alike, schemaOf_alike alike,
    templateNameOf_alike alike, alike "messages" (by decide), alike "prompt" (by decide),
    alike "n_predict" (by decide), alike "max_tokens" (by decide), alike "stop" (by decide),
    alike "grammar" (by decide), alike "tools" (by decide), alike "model" (by decide),
    alike "tool_choice" (by decide), asksStream, asksEngine, withSwitches]

end Alike

theorem ofFields_switched (stamp : Stamp) (body : Fields) :
    (·.withSwitches body) <$> ofFields stamp false body = ofFields stamp false body :=
  (ofFields_alike (fun _ _ => rfl) stamp).symm

theorem ofFields_besides (same : SameBesides "stream" a b) (stamp : Stamp) :
    ofFields stamp false b = (·.withStream b.asksStream) <$> ofFields stamp false a := by
  have others (r : Request) : r.withSwitches b = (r.withSwitches a).withStream b.asksStream := by
    simp only [withSwitches, withStream, asksEngine, same "ignore_eos" (by decide),
      same "use_jinja" (by decide), same "use_template_engine" (by decide)]
  calc
    ofFields stamp false b = (·.withSwitches b) <$> ofFields stamp false a :=
      ofFields_alike (same.alike (by decide)) stamp
    _ = (·.withStream b.asksStream) <$> (·.withSwitches a) <$> ofFields stamp false a := by
      simp only [others, Functor.map_map]
    _ = (·.withStream b.asksStream) <$> ofFields stamp false a := by
      rw [ofFields_switched]

end Request

namespace Http

open Fields

theorem mapError_map {α β ε δ : Type} (f : ε → δ) (g : α → β) (x : Except ε α) :
    (g <$> x).mapError f = g <$> x.mapError f := by
  cases x <;> rfl

theorem readRequest_besides {a b : Fields} (same : SameBesides "stream" a b) (stamp : Stamp)
    (modelId : String) (service : Engine.Service) :
    readRequest stamp modelId service b =
      (·.withStream b.asksStream) <$> readRequest stamp modelId service a := by
  simp only [readRequest, ← same.get (k := "model") (by decide),
    ← same.get (k := "messages") (by decide), ← same.get (k := "prompt") (by decide),
    Request.ofFields_besides same stamp, mapError_map]
  cases service with
  | text =>
    dsimp only
    split
    · rfl
    · split <;> rfl
  | chat =>
    dsimp only
    split
    · rfl
    · split <;> rfl

theorem stream_readRequest {stamp : Stamp} {modelId : String} {service : Engine.Service}
    {body : Fields} {r : Request} (read : readRequest stamp modelId service body = .ok r) :
    r.stream = body.asksStream := by
  have again := readRequest_besides (a := body) (fun _ _ => rfl) stamp modelId service
  rw [read] at again
  exact congrArg Request.stream (Except.ok.inj again)

end Http

end Completions
