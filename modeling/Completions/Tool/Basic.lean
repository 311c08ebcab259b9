import Completions.Fault
import Completions.Json.Writer

/-!
Tools a model may call and calls it has made, with their JSON. Reading accepts several shapes,
writing has one.
-/

namespace Completions

/-- What a run takes from outside itself: the time and a text that no other run has. -/
structure Stamp where
  seconds : Nat
  nanoseconds : Nat
  nonce : String
  deriving Repr

namespace Stamp

def callId (s : Stamp) (name : String) : String := "call_" ++ name ++ "_" ++ toString s.nanoseconds

def completionId (s : Stamp) : String := "cmpl-" ++ s.nonce

def chatId (s : Stamp) : String := "chatcmpl-" ++ s.nonce

end Stamp

end Completions

namespace Completions.Tool

/-- The arguments are the text of a JSON value, as the model wrote it. -/
structure Call where
  id : String
  name : String
  arguments : String := "\x7b\x7d"
  kind : String := "function"
  deriving DecidableEq, Repr

def anyParameters : Fields := [("type", .str "object"), ("properties", .obj [])]

structure Definition where
  name : String
  description : String := ""
  parameters : Fields := anyParameters

inductive Flaw where
  | callNotObject
  | callKind
  | callFunction
  | callName
  | toolNotObject
  | toolKind
  | toolFunction
  | toolName
  | toolDescription
  | toolParameters
  deriving DecidableEq, Repr

namespace Flaw

def message : Flaw → String
  | .callNotObject => "Each tool_call must be an object."
  | .callKind => "Unsupported tool call type."
  | .callFunction => "tool_call.function must be an object."
  | .callName => "tool_call.function.name must be a non-empty string."
  | .toolNotObject => "Each tool must be an object."
  | .toolKind => "Unsupported tool type."
  | .toolFunction => "Missing tool function."
  | .toolName => "Tool function name must be a non-empty string."
  | .toolDescription => "Tool description must be a string."
  | .toolParameters => "Tool parameters must be a JSON schema object."

def fault (f : Flaw) : Fault := ⟨.malformedCall, f.message⟩

end Flaw

def textOf? : Json → Option String
  | .str s => if s = "" then none else some s
  | _ => none

namespace Call

def argumentsOf : Json → String
  | .null => "\x7b\x7d"
  | .str s => s
  | v => v.text

def ofJson (stamp : Stamp) : Json → Except Flaw Call
  | .obj call =>
    if ((Fields.get? call "type").getD (.str "function")).isStr "function" then
      match Fields.get call "function" with
      | .obj f =>
        match textOf? (Fields.get f "name") with
        | some name =>
          .ok { id := (textOf? (Fields.get call "id")).getD (stamp.callId name)
                name
                arguments := argumentsOf (Fields.get f "arguments") }
        | none => .error .callName
      | _ => .error .callFunction
    else .error .callKind
  | _ => .error .callNotObject

def toFields (c : Call) : Fields :=
  [("id", .str c.id), ("type", .str c.kind),
   ("function", .obj [("name", .str c.name), ("arguments", .str c.arguments)])]

def toJson (c : Call) : Json := .obj c.toFields

end Call

namespace Definition

/-- The object that describes the tool: the value itself, or its function when it says it has one. -/
def body (tool : Fields) : Except Flaw Fields :=
  if tool.has "function" || tool.has "type" then
    if (tool.get "type").isStr "function" then
      match tool.get "function" with
      | .obj f => .ok f
      | _ => .error .toolFunction
    else .error .toolKind
  else .ok tool

def descriptionOf (v : Json) : Except Flaw String :=
  match v with
  | .str s => .ok s
  | v => if v.truthy then .error .toolDescription else .ok ""

def parametersOf : Json → Except Flaw Fields
  | .null => .ok anyParameters
  | .obj fields => .ok fields
  | _ => .error .toolParameters

def ofJson : Json → Except Flaw Definition
  | .obj tool => do
    let f ← body tool
    match textOf? (f.get "name") with
    | none => .error .toolName
    | some name => do
      let description ← descriptionOf (f.get "description")
      let parameters ← parametersOf (f.get "parameters")
      pure { name, description, parameters }
  | _ => .error .toolNotObject

def toJson (d : Definition) : Json :=
  .obj [("type", .str "function"),
        ("function", .obj [("name", .str d.name), ("description", .str d.description),
                           ("parameters", .obj d.parameters)])]

end Definition

end Completions.Tool
