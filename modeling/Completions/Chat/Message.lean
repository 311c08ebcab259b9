import Completions.Json.Shown
import Completions.Text.Blank
import Completions.Tool.Basic

/-!
Chat messages, with their JSON. Content may come in parts, of which the text parts count.
-/

namespace Completions.Chat

inductive Role where
  | system
  | user
  | assistant
  | tool
  | other (name : String)
  deriving DecidableEq, Repr

namespace Role

def name : Role → String
  | .system => "system"
  | .user => "user"
  | .assistant => "assistant"
  | .tool => "tool"
  | .other n => n

def ofName (n : String) : Role :=
  if n = "system" then .system
  else if n = "user" then .user
  else if n = "assistant" then .assistant
  else if n = "tool" then .tool
  else .other n

def isKnown : Role → Bool
  | .other _ => false
  | _ => true

theorem ofName_name {r : Role} (h : r.isKnown = true) : ofName r.name = r := by
  cases r <;> first | rfl | simp [isKnown] at h

end Role

structure Message where
  role : Role
  content : String := ""
  name : Option String := none
  toolCallId : Option String := none
  toolCalls : List Tool.Call := []
  deriving DecidableEq, Repr

inductive MessageFlaw where
  | notObject
  | role (v : Json)
  | content
  | name
  | toolCallId
  | toolCalls
  | toolCall (flaw : Tool.Flaw)

def MessageFlaw.message : MessageFlaw → String
  | .notObject => "Each message must be an object."
  | .role v => "Invalid message role: " ++ v.shown ++ "."
  | .content => "Unsupported message content type."
  | .name => "'name' must be a string."
  | .toolCallId => "'tool_call_id' must be a string."
  | .toolCalls => "'tool_calls' must be a list."
  | .toolCall f => "Invalid tool_call: " ++ f.message

namespace Message

def partText : Json → String
  | .obj part =>
    if (Fields.get part "type").isStr "text" then
      match Fields.get part "text" with
      | .str s => s
      | _ => ""
    else ""
  | _ => ""

def contentOf : Json → Except MessageFlaw String
  | .null => .ok ""
  | .str s => .ok s
  | .arr parts => .ok (String.join (parts.map partText))
  | _ => .error .content

def roleOf (v : Json) : Except MessageFlaw Role :=
  match v with
  | .str n => if (Role.ofName n).isKnown then .ok (Role.ofName n) else .error (.role v)
  | _ => .error (.role v)

def optionalText (flaw : MessageFlaw) : Json → Except MessageFlaw (Option String)
  | .null => .ok none
  | .str s => .ok (some s)
  | _ => .error flaw

def readCalls (stamp : Stamp) : List Json → Except MessageFlaw (List Tool.Call)
  | [] => .ok []
  | v :: rest =>
    match Tool.Call.ofJson stamp v with
    | .error f => .error (.toolCall f)
    | .ok call => do
      let calls ← readCalls stamp rest
      pure (call :: calls)

def callsOf (stamp : Stamp) : Json → Except MessageFlaw (List Tool.Call)
  | .null => .ok []
  | .arr raws => readCalls stamp raws
  | _ => .error .toolCalls

def ofJson (stamp : Stamp) : Json → Except MessageFlaw Message
  | .obj m => do
    let role ← roleOf (Fields.get m "role")
    let content ← contentOf (Fields.get m "content")
    let name ← optionalText .name (Fields.get m "name")
    let toolCallId ←
      if role = .tool then optionalText .toolCallId (Fields.get m "tool_call_id") else pure none
    let toolCalls ←
      if role = .assistant then callsOf stamp (Fields.get m "tool_calls") else pure []
    pure { role, content, name, toolCallId, toolCalls }
  | _ => .error .notObject

def textField (key : String) : Option String → Fields
  | some s => if s = "" then [] else [(key, .str s)]
  | none => []

def toFields (m : Message) : Fields :=
  [("role", .str m.role.name), ("content", .str m.content)] ++ textField "name" m.name ++
    (if m.role = .tool then textField "tool_call_id" m.toolCallId else []) ++
    (if m.role = .assistant ∧ m.toolCalls ≠ [] then
      [("tool_calls", .arr (m.toolCalls.map Tool.Call.toJson))] else [])

def toJson (m : Message) : Json := .obj m.toFields

end Message

end Completions.Chat
