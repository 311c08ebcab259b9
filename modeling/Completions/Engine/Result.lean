import Completions.Fault
import Completions.Tool.Basic

/-!
What a run comes to: a text with the reason it ended and what it cost, or a failure.
-/

namespace Completions

inductive FinishReason where
  | stop
  | length
  | toolCalls
  | cancelled
  | other (name : String)
  deriving DecidableEq, Repr

namespace FinishReason

def name : FinishReason → String
  | .stop => "stop"
  | .length => "length"
  | .toolCalls => "tool_calls"
  | .cancelled => "cancelled"
  | .other n => n

def ofName (n : String) : FinishReason :=
  if n = "stop" then .stop
  else if n = "length" then .length
  else if n = "tool_calls" then .toolCalls
  else if n = "cancelled" then .cancelled
  else .other n

end FinishReason

structure Timing where
  prefill : Option Float := none
  decode : Option Float := none
  total : Option Float := none
  rate : Option Float := none

namespace Timing

/-- Time never runs backward; what is no number stays what it is. -/
def elapsed (start stop : Float) : Float :=
  if stop - start < 0.0 then 0.0 else stop - start

def rateOf (tokens : Nat) (seconds : Float) : Option Float :=
  if seconds > 0.0 ∧ 0 < tokens then some (Float.ofNat tokens / seconds) else none

def measure (began read ended : Float) (tokens : Nat) : Timing where
  prefill := some (elapsed began read)
  decode := some (elapsed read ended)
  total := some (elapsed began ended)
  rate := rateOf tokens (elapsed read ended)

def secondsJson : Option Float → Json
  | some x => .float x
  | none => .null

def toJson (t : Timing) : Json :=
  .obj [("prefill_s", secondsJson t.prefill), ("decode_s", secondsJson t.decode),
        ("total_s", secondsJson t.total), ("tok_per_s", secondsJson t.rate)]

end Timing

structure Usage where
  prompt : Nat
  completion : Nat
  deriving DecidableEq, Repr

namespace Usage

def total (u : Usage) : Nat := u.prompt + u.completion

def toJson (u : Usage) : Json :=
  .obj [("prompt_tokens", .int u.prompt), ("completion_tokens", .int u.completion),
        ("total_tokens", .int u.total)]

end Usage

/-- The assistant's answer as clients of the chat service read it. The message has a text or it has
calls. -/
structure ChatReply where
  id : String
  created : Nat
  model : String
  content : Option String
  toolCalls : List Tool.Call
  finish : FinishReason
  usage : Usage
  deriving Repr

namespace ChatReply

def messageJson (content : Option String) (calls : List Tool.Call) : Json :=
  .obj ([("role", .str "assistant"),
         ("content", match content with
           | some s => .str s
           | none => .null)] ++
    (if calls = [] then [] else [("tool_calls", .arr (calls.map Tool.Call.toJson))]))

def toFields (r : ChatReply) : Fields :=
  [("id", .str r.id), ("object", .str "chat.completion"), ("created", .int r.created),
   ("model", .str r.model),
   ("choices", .arr [.obj [("index", .int 0), ("message", messageJson r.content r.toolCalls),
                           ("finish_reason", .str r.finish.name)]]),
   ("usage", r.usage.toJson)]

def toJson (r : ChatReply) : Json := .obj r.toFields

end ChatReply

structure Completion where
  content : String
  promptTokens : Nat
  /-- Every token sampled, also those whose text was cut off. -/
  tokens : List Int
  truncated : Bool := false
  stoppingWord : Option String := none
  finish : FinishReason
  timing : Option Timing := none
  toolCalls : List Tool.Call := []
  reply : Option ChatReply := none

namespace Completion

def usage (c : Completion) : Usage := ⟨c.promptTokens, c.tokens.length⟩

end Completion

inductive Result where
  | failed (fault : Fault)
  | completed (c : Completion)

end Completions
