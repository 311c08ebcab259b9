import Completions.Chat.Dialect
import Completions.Engine.Controller

/-!
The engine: a controller with the defaults and limits it serves under, and the dialects it knows.
What needs no run of the model is answered here: tokens of a text, the text of tokens, the end.
-/

namespace Completions

structure Config where
  modelId : String := "streamgen"
  defaultTemplate : String := ""
  useTemplateEngine : Bool := true
  promptBatchSize : Int := 1
  rejectWhenBusy : Bool := false
  maxPromptTokens : Option Int := none
  /-- The token budget for requests that set none; there is no such budget unless it is positive. -/
  defaultMaxNewTokens : Int := -1
  deriving DecidableEq, Repr

structure Engine (σ : Type) where
  controller : Controller σ
  config : Config
  catalog : Chat.Catalog := Chat.Catalog.standard

namespace Engine

variable {σ : Type}

def make? (backend : Backend σ) (config : Config) : Except Cause (Engine σ) := do
  let controller ←
    Controller.make? backend config.promptBatchSize config.rejectWhenBusy config.maxPromptTokens
  pure { controller, config }

def backend (e : Engine σ) : Backend σ := e.controller.backend

def beside (e : Engine σ) (ε : Type) : Engine (σ × ε) where
  controller := { e.controller with backend := e.backend.beside ε }
  config := e.config
  catalog := e.catalog

def checkReady (e : Engine σ) : Act σ Unit := do
  if ← Act.look e.backend.ready then pure () else Act.refuse Cause.notReady.fault

/-- The tokens of a text. The context is not touched, so this waits for no run. -/
def tokenize (e : Engine σ) (content : Json) : Act σ (List Int) :=
  match content with
  | .str s => do
    e.checkReady
    Act.ask (e.backend.tokenize s)
  | _ => Act.refuse Cause.contentType.fault

def piecesOf (b : Backend σ) : List Int → Act σ (List (Int × String))
  | [] => pure []
  | t :: rest => do
    let piece ← Act.ask (b.piece t)
    let more ← piecesOf b rest
    pure ((t, piece) :: more)

def tokenizeInPieces (e : Engine σ) (content : Json) : Act σ (List (Int × String)) := do
  let tokens ← e.tokenize content
  piecesOf e.backend tokens

def tokensOf? : Json → Option (List Int)
  | .arr xs => xs.mapM fun
    | .int n => some n
    | _ => none
  | _ => none

/-- A token that the vocabulary does not have is the caller's mistake. -/
def unknownToken (f : Fault) : Fault :=
  if f.kind = .key ∨ f.kind = .index ∨ f.kind.isValue = true then
    (Cause.unknownToken f.message).fault
  else f

def detokenize (e : Engine σ) (tokens : Json) : Act σ String :=
  match tokensOf? tokens with
  | none => Act.refuse Cause.tokensType.fault
  | some ts => do
    e.checkReady
    fun s =>
      match piecesOf e.backend ts s with
      | .ok pieces s => .ok (String.join (pieces.map Prod.snd)) s
      | .error f s => .error (unknownToken f) s

def cancel : Act σ Unit := fun s => .ok () s.cancel

def isGenerating : Act σ Bool := fun s => .ok s.gate.running s

def shutdown (e : Engine σ) : Act σ Unit := fun s => .ok () (s.mapWorld e.backend.unload)

end Engine

end Completions
