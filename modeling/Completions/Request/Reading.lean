import Completions.Request.Basic

/-!
Requests from JSON. A field of the wrong type is refused; of several such fields the first in the
order of reading is named. Unknown fields are passed over.
-/

namespace Completions.Request

inductive Flaw where
  | notObject
  | messages
  | message (flaw : Chat.MessageFlaw)
  | prompt
  | seed
  | number (key : String)
  | topKInfinite
  | topKTooLarge
  | maxTokens
  | stop
  | grammar
  | jsonSchema
  | tools
  | tool (flaw : Tool.Flaw)
  | chatTemplate
  | model

namespace Flaw

def text : Flaw → String
  | .notObject => "Request body must be a JSON object."
  | .messages => "'messages' must be a list."
  | .message f => f.message
  | .prompt => "'prompt' must be a string or a list."
  | .seed => "'seed' must be an integer."
  | .number key => "'" ++ key ++ "' must be a number."
  | .topKInfinite => "'top_k' must be a finite number."
  | .topKTooLarge => "int too large to convert to float"
  | .maxTokens => "'max_tokens' must be an integer."
  | .stop => "'stop' must be a string or list of strings."
  | .grammar => "'grammar' must be a string."
  | .jsonSchema => "'json_schema' must be an object."
  | .tools => "'tools' must be a list."
  | .tool f => "Invalid tool definition: " ++ f.message
  | .chatTemplate => "'chat_template' must be a string."
  | .model => "'model' must be a string."

/-- Only a number beyond the doubles is no mistake in a parameter but an overflow. -/
def fault (f : Flaw) : Fault :=
  match f with
  | .topKTooLarge => ⟨.overflow, f.text⟩
  | _ => ⟨.invalidParam, f.text⟩

end Flaw

def orElse (v w : Json) : Json := if v.isNull then w else v

/-- The first of two values that counts as true, or else the second. -/
def orFalse (v w : Json) : Json := if v.truthy then v else w

def readMessages (stamp : Stamp) : List Json → Except Flaw (List Chat.Message)
  | [] => .ok []
  | v :: rest =>
    match Chat.Message.ofJson stamp v with
    | .error f => .error (.message f)
    | .ok m => do
      let ms ← readMessages stamp rest
      pure (m :: ms)

def messagesOf (stamp : Stamp) : Json → Except Flaw (Option (List Chat.Message))
  | .null => .ok none
  | .arr raws => (readMessages stamp raws).map some
  | _ => .error .messages

def promptOf : Json → Except Flaw (Option Prompt)
  | .null => .ok none
  | .str s => .ok (some (.text s))
  | .arr xs => .ok (some (.items xs))
  | _ => .error .prompt

def integerOf (flaw : Flaw) (default : Int) : Json → Except Flaw Json
  | .null => .ok (.int default)
  | .int n => .ok (.int n)
  | _ => .error flaw

def numberOf (body : Fields) (key : String) (default : Json) : Except Flaw Json :=
  match body.get key with
  | .null => .ok default
  | .int n => .ok (.int n)
  | .float x => .ok (.float x)
  | _ => .error (.number key)

def topKOf (body : Fields) (default : Json) : Except Flaw Json := do
  match ← numberOf body "top_k" default with
  | .float x =>
    match Number.truncate? x with
    | some n => pure (.int n)
    | none => .error .topKInfinite
  | .int n => if Number.tooLarge n then .error .topKTooLarge else pure (.int n)
  | v => pure v

theorem topKOf_absent {body : Fields} (absent : body.get "top_k" = .null) :
    topKOf body (.int 40) = .ok (.int 40) := by
  have forty : Number.tooLarge 40 = false := by decide +kernel
  simp [topKOf, numberOf, absent, forty, bind, Except.bind, pure, Except.pure]

def samplingOf (body : Fields) : Except Flaw Sampling := do
  let defaults : Sampling := {}
  let seed ← integerOf .seed (-1) (body.get "seed")
  let temperature ← numberOf body "temperature" defaults.temperature
  let topP ← numberOf body "top_p" defaults.topP
  let topK ← topKOf body defaults.topK
  let minP ← numberOf body "min_p" defaults.minP
  pure { temperature, topP, topK, minP, seed }

theorem samplingOf_unset {body : Fields} (seed : body.get "seed" = .null)
    (temperature : body.get "temperature" = .null) (topP : body.get "top_p" = .null)
    (topK : body.get "top_k" = .null) (minP : body.get "min_p" = .null) :
    samplingOf body = .ok {} := by
  simp only [samplingOf, integerOf, numberOf, seed, temperature, topP, topKOf_absent topK, minP]
  rfl

def stopOf (v : Json) : Except Flaw (List String) :=
  if v.truthy then
    match v with
    | .str s => .ok [s]
    | .arr xs => .ok (xs.filterMap fun
        | .str s => some s
        | _ => none)
    | _ => .error .stop
  else .ok []

def textOf (flaw : Flaw) : Json → Except Flaw (Option String)
  | .null => .ok none
  | .str s => .ok (some s)
  | _ => .error flaw

def schemaOfFormat : Json → Json
  | .obj format =>
    if (Fields.get format "type").isStr "json_schema" then
      match Fields.get format "json_schema" with
      | .obj schema => Fields.get schema "schema"
      | _ => .null
    else if (Fields.get format "type").isStr "json_object" then
      orFalse (Fields.get format "schema") (.obj [("type", .str "object")])
    else .null
  | _ => .null

def schemaOf (body : Fields) : Except Flaw (Option Fields) :=
  match orElse (body.get "json_schema") (schemaOfFormat (body.get "response_format")) with
  | .null => .ok none
  | .obj fields => .ok (some fields)
  | _ => .error .jsonSchema

def readTools : List Json → Except Flaw (List Tool.Definition)
  | [] => .ok []
  | v :: rest =>
    match Tool.Definition.ofJson v with
    | .error f => .error (.tool f)
    | .ok t => do
      let ts ← readTools rest
      pure (t :: ts)

def toolsOf (v : Json) : Except Flaw (List Tool.Definition) :=
  if v.truthy then
    match v with
    | .arr raws => readTools raws
    | _ => .error .tools
  else .ok []

def templateNameOf (body : Fields) : Except Flaw String :=
  match orFalse (body.get "chat_template") (orFalse (body.get "template_name") (.str "")) with
  | .str s => .ok s
  | _ => .error .chatTemplate

/-- A request from the fields of a body. Where a switch is absent its default holds, where it is
null it is off. -/
def ofFields (stamp : Stamp) (streamDefault : Bool) (body : Fields) : Except Flaw Request := do
  let messages ← messagesOf stamp (body.get "messages")
  let prompt ← promptOf (body.get "prompt")
  let sampling ← samplingOf body
  let maxNewTokens ←
    integerOf .maxTokens (-1) (orElse (body.get "n_predict") (body.get "max_tokens"))
  let stop ← stopOf (body.get "stop")
  let grammar ← textOf .grammar (body.get "grammar")
  let jsonSchema ← schemaOf body
  let tools ← toolsOf (body.get "tools")
  let templateName ← templateNameOf body
  let model ← textOf .model (body.get "model")
  let switch (key : String) (default : Json) : Json := (body.get? key).getD default
  pure {
    prompt, messages, sampling, maxNewTokens
    stop := Stop.Words.ofList stop
    ignoreEos := (switch "ignore_eos" (.bool false)).truthy
    grammar, jsonSchema
    stream := (switch "stream" (.bool streamDefault)).truthy
    useTemplateEngine :=
      (switch "use_jinja" (switch "use_template_engine" (.bool true))).truthy
    templateName, tools
    toolChoice := orElse (body.get "tool_choice") (.str "auto")
    model }

def ofJson (stamp : Stamp) (streamDefault : Bool) : Json → Except Flaw Request
  | .obj body => ofFields stamp streamDefault body
  | _ => .error .notObject

end Completions.Request
