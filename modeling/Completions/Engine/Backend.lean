import Completions.Engine.Station
import Completions.Request.Basic

/-!
Backends run the model: they turn text into tokens and back, take tokens into their context at a
position, and sample the next token. A backend is a record of what it does to the world, so any
state and any order of failures is a backend.
-/

namespace Completions

structure TemplateCall where
  messages : List Json
  tools : Option (List Json)
  toolChoice : Json
  templateName : String
  opensReply : Bool := true

structure Backend (σ : Type) where
  ready : σ → Bool
  endToken : σ → Option Int
  info : σ → Fields
  /-- A clock that never goes back, in seconds. -/
  now : σ → Float × σ
  contextSize : Call σ Int
  clear : Call σ Unit
  tokenize : String → Call σ (List Int)
  /-- Take tokens in, the first at the given position; false when the backend cannot. -/
  decode : List Int → Nat → Call σ Bool
  sample : Sampling → Option String → Option Fields → Call σ Int
  piece : Int → Call σ String
  layout : TemplateCall → Call σ (Option String)
  unload : σ → σ

/-- A receiver of a text as it is written: fragments, and last the whole text marked as the end.
It answers whether to go on. -/
abbrev Sink (σ : Type) := (text : String) → (last : Bool) → Act σ Bool

/-- A world with something kept beside it, which the backend does not see. -/
def Call.beside (ε : Type) (call : Call σ α) : Call (σ × ε) α := fun w =>
  let r := call w.1
  ⟨r.outcome, (r.world, w.2), r.cancels⟩

namespace Backend

def beside (b : Backend σ) (ε : Type) : Backend (σ × ε) where
  ready w := b.ready w.1
  endToken w := b.endToken w.1
  info w := b.info w.1
  now w := ((b.now w.1).1, ((b.now w.1).2, w.2))
  contextSize := Call.beside ε b.contextSize
  clear := Call.beside ε b.clear
  tokenize text := Call.beside ε (b.tokenize text)
  decode tokens position := Call.beside ε (b.decode tokens position)
  sample params grammar schema := Call.beside ε (b.sample params grammar schema)
  piece token := Call.beside ε (b.piece token)
  layout call := Call.beside ε (b.layout call)
  unload w := (b.unload w.1, w.2)

end Backend

end Completions
