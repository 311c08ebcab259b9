import Completions.Engine.Basic
import Completions.Text.Blank

/-!
The prompt of a conversation: the backend's own template when it has one and may be used, or else a
dialect. A dialect knows nothing of tools, so there the tools are described in the system message.
-/

namespace Completions

namespace Tool

def callForm : String :=
  "To call a tool, reply with a single JSON object of the form " ++
    "\x7b\"function\": \x7b\"name\": \"<tool name>\", \"arguments\": \x7b...\x7d\x7d\x7d."

def instruction (tools : List Definition) (required : Bool) : String :=
  "\n".intercalate (["You can call the following tools:"] ++ tools.map (fun t => t.toJson.text) ++
    [callForm] ++ if required then ["You must call a tool for this response."] else [])

end Tool

namespace Chat

/-- Add an instruction to the first system message, wherever it stands. -/
def mergeInstruction (instruction : String) : List Message → Option (List Message)
  | [] => none
  | m :: rest =>
    if m.role = .system then
      some ({ m with content := stripped (strippedEnd m.content ++ "\n\n" ++ instruction) } :: rest)
    else (mergeInstruction instruction rest).map (m :: ·)

def instruct (instruction : String) (ms : List Message) : List Message :=
  (mergeInstruction instruction ms).getD ({ role := .system, content := instruction } :: ms)

def withTools (ms : List Message) (tools : List Tool.Definition) (toolChoice : Json) : List Message :=
  if tools.isEmpty then ms else instruct (Tool.instruction tools (toolChoice.isStr "required")) ms

end Chat

namespace Engine

variable {σ : Type}

def templateName (e : Engine σ) (r : Request) : String :=
  if r.templateName = "" then e.config.defaultTemplate else r.templateName

def dialect (e : Engine σ) (r : Request) : Chat.Dialect := e.catalog.find (e.templateName r)

def templateCall (e : Engine σ) (r : Request) : TemplateCall where
  messages := (r.messages.getD []).map Chat.Message.toJson
  tools := if r.offeredTools.isEmpty then none else some (r.offeredTools.map Tool.Definition.toJson)
  toolChoice := r.toolChoice
  templateName := e.templateName r

/-- The prompt by the backend's own template. A backend that does not support templates has none, and
what it cannot lay out is the caller's mistake. -/
def nativeLayout (e : Engine σ) (r : Request) : Act σ (Option String) := fun s =>
  match Act.ask (e.backend.layout (e.templateCall r)) s with
  | .ok prompt s => .ok prompt s
  | .error f s =>
    if f.kind = .unsupported then .ok none s
    else if f.kind.isValue = true then .error (Cause.template f.message).fault s
    else .error f s

def dialectLayout (e : Engine σ) (r : Request) : Except Fault String :=
  (e.dialect r).format (Chat.withTools (r.messages.getD []) r.offeredTools r.toolChoice)

def prompt (e : Engine σ) (r : Request) : Act σ String := do
  let native ←
    if r.useTemplateEngine = true ∧ e.config.useTemplateEngine = true then e.nativeLayout r
    else pure none
  match native with
  | some p => pure p
  | none => Act.ofExcept (e.dialectLayout r)

end Engine

end Completions
