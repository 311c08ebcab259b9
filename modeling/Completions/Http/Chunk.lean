import Completions.Engine.Event
import Completions.Json.Writer

/-!
The chunks of an event stream and how they are framed: a line with the data and a blank line. The
data is JSON, in which no line break stands raw, so a blank line never falls within a chunk.
-/

namespace Completions.Http

inductive Chunk where
  | data (v : Json)
  | done

namespace Chunk

def payload : Chunk → String
  | .data v => v.text
  | .done => "[DONE]"

def frame (c : Chunk) : String := "data: " ++ c.payload ++ "\n\n"

end Chunk

structure Head where
  id : String
  created : Nat
  model : String
  deriving DecidableEq, Repr

def optionalText : Option String → Json
  | some s => .str s
  | none => .null

namespace Head

def fields (h : Head) (object : String) (choice : Fields) : Fields :=
  [("id", .str h.id), ("object", .str object), ("created", .int h.created), ("model", .str h.model),
   ("choices", .arr [.obj choice])]

def text (h : Head) (text : String) (finish : Option String) : Fields :=
  h.fields "text_completion"
    [("index", .int 0), ("text", .str text), ("logprobs", .null),
     ("finish_reason", optionalText finish)]

def chat (h : Head) (delta : Fields) (finish : Option String) : Fields :=
  h.fields "chat.completion.chunk"
    [("index", .int 0), ("delta", .obj delta), ("finish_reason", optionalText finish)]

end Head

def numberedCalls (i : Nat) : List Tool.Call → List Json
  | [] => []
  | c :: rest => .obj (c.toFields ++ [("index", .int i)]) :: numberedCalls (i + 1) rest

def errorJson (kind : ErrorKind) (message : String) : Json :=
  .obj [("error", .obj
    [("message", .str message),
     ("type", .str (if kind = .invalidParam then "invalid_request_error" else "server_error")),
     ("param", .null), ("code", .str kind.name)])]

def usageField (u : Usage) : Fields := [("usage", u.toJson)]

def timingField : Option Timing → Fields
  | some t => [("x_streamgen_timing", t.toJson)]
  | none => []

end Completions.Http
