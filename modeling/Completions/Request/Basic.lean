import Completions.Chat.Message
import Completions.Stop
import Completions.Tool.Basic

/-!
Requests for a completion. What a caller may get wrong (the sampling numbers, the token budget, the
tool choice, the items of a prompt) is kept as it was given until it is checked.
-/

namespace Completions

structure Sampling where
  temperature : Json := .float 0.8
  topP : Json := .float 0.95
  topK : Json := .int 40
  minP : Json := .float 0.05
  seed : Json := .int (-1)

inductive Prompt where
  | text (s : String)
  | items (xs : List Json)

structure Request where
  prompt : Option Prompt := none
  messages : Option (List Chat.Message) := none
  sampling : Sampling := {}
  maxNewTokens : Json := .int (-1)
  stop : Stop.Words := .ofList []
  ignoreEos : Bool := false
  grammar : Option String := none
  jsonSchema : Option Fields := none
  stream : Bool := false
  useTemplateEngine : Bool := true
  templateName : String := ""
  tools : List Tool.Definition := []
  toolChoice : Json := .str "auto"
  model : Option String := none

namespace Request

def isChat (r : Request) : Bool := r.messages.isSome

def offeredTools (r : Request) : List Tool.Definition :=
  if r.toolChoice.isStr "none" then [] else r.tools

end Request

end Completions
