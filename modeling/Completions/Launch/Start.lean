import Completions.Http.Server
import Completions.Json.Shown
import Completions.Launch.Factory
import Completions.Launch.Options

/-!
From a command line to a server and back. What is printed on the way is kept with the log level that
was set, also when the start fails; the engine is shut down whatever becomes of serving.
-/

namespace Completions.Launch

structure Console where
  printed : List String := []
  level : Option LogLevel := none
  deriving DecidableEq, Repr

inductive Halt where
  | usage (u : Usage)
  | fault (f : Fault)
  deriving DecidableEq, Repr

abbrev Startup := EStateM Halt Console

def say (line : String) : Startup Unit := modify fun c => { c with printed := c.printed ++ [line] }

def setLevel (l : LogLevel) : Startup Unit := modify fun c => { c with level := some l }

def orFault : Except Fault α → Startup α
  | .ok a => pure a
  | .error f => throw (.fault f)

variable {σ : Type}

def warmupRequest (tokens : Int) : Request := { prompt := some (.text "Hello"), maxNewTokens := .int tokens }

def warmupFault (kind : ErrorKind) (message : String) : Fault :=
  ⟨.runtime, "Warmup failed (" ++ kind.name ++ "): " ++ message⟩

def secondsText (x : Float) : String := String.ofList (Number.spellFixed Json.shownFloat 2 x)

/-- Have the engine write some tokens before it serves, and print how it went. -/
def warmup (e : Engine σ) (tokens : Int) (s : Station σ) : List String × Except Fault Unit × Station σ :=
  if tokens ≤ 0 then (["[warmup] skipped (warmup token count is 0)"], .ok (), s)
  else
    let began := e.backend.now s.world
    let first := "[warmup] starting: decode_tokens=" ++ toString tokens
    match e.complete (warmupRequest tokens) none (fun _ => false) { s with world := began.2 } with
    | .error f s => ([first], .error f, s)
    | .ok (.failed f) s => ([first], .error (warmupFault f.kind.errorKind f.report), s)
    | .ok (.completed c) s =>
      let ended := e.backend.now s.world
      let last := "[warmup] decode_steps_executed=" ++ toString c.tokens.length ++ " done in " ++
        secondsText (ended.1 - began.1) ++ "s"
      ([first, last], .ok (), { s with world := ended.2 })

inductive Blank where
  | level
  | engine
  | arguments
  | template
  | limit
  | count
  deriving DecidableEq, Repr

def Blank.fault : Blank → Fault
  | .level => ⟨.other "AttributeError", "'list' object has no attribute 'upper'"⟩
  | .engine => ⟨.other "AttributeError", "'list' object has no attribute 'partition'"⟩
  | .template => ⟨.other "AttributeError", "'list' object has no attribute 'strip'"⟩
  | .arguments => ⟨.type, "the JSON object must be str, bytes or bytearray, not list"⟩
  | .limit => ⟨.type, "'<=' not supported between instances of 'list' and 'int'"⟩
  | .count =>
    ⟨.type, "int() argument must be a string, a bytes-like object or a real number, not 'list'"⟩

def need (b : Blank) : Setting α → Startup α
  | .value a => pure a
  | .blank => throw (.fault b.fault)

def modelIdOf (spec : String) : Option (Setting String) → String
  | some (.value id) => if id = "" then (splitSpec spec).2 else id
  | _ => (splitSpec spec).2

def limitOf (n : Int) : Option Int := if n ≤ 0 then none else some n

/-- The dialects of the service. A blank template is the name of one in which nothing can be said. -/
def catalogOf (s : Settings) : Chat.Catalog :=
  match s.template with
  | .value _ => .standard
  | .blank => Chat.Catalog.standard.register "--" ⟨"", fun _ _ => .error Blank.template.fault⟩

def configOf (spec : String) (s : Settings) : Startup Config := do
  let most ← need .limit s.maxPromptTokens
  let batch ← need .limit s.promptBatchSize
  pure { modelId := modelIdOf spec s.modelId
         defaultTemplate := s.template.getD "--"
         useTemplateEngine := s.useTemplateEngine
         promptBatchSize := batch
         rejectWhenBusy := s.rejectWhenBusy
         maxPromptTokens := limitOf most
         defaultMaxNewTokens := s.defaultMaxTokens.getD (-1) }

structure Ready (σ : Type) where
  options : Options
  server : Http.Server σ
  house : Http.House σ

def argumentNames (arguments : Fields) : String :=
  (Json.arr ((arguments.map Prod.fst).mergeSort.map .str)).shown

def make (modules : Modules σ) (spec : String) (arguments : Setting String) : Startup (Backend σ × σ) := do
  let factory ← orFault ((findFactory modules spec).mapError FactoryFlaw.fault)
  let text ← need .arguments arguments
  let fields ← orFault ((readArguments text).mapError FactoryFlaw.fault)
  say ("[server] loading engine... factory=" ++ quoted spec ++ " kwargs=" ++ argumentNames fields)
  match ← orFault (factory fields) with
  | .backend b world => pure (b, world)
  | .other kind => throw (.fault (FactoryFlaw.notBackend spec kind).fault)

def prepare (modules : Modules σ) (words : List String) : Startup (Ready σ) := do
  let o ← match readOptions words with
    | .ok o => pure o
    | .error u => throw (.usage u)
  let level ← need .level o.settings.logLevel
  setLevel level
  let spec ← need .engine o.engine
  let (backend, world) ← make modules spec o.settings.engineArguments
  let size := backend.contextSize world
  let positions ← orFault size.outcome
  say ("[server] engine loaded: n_ctx=" ++ toString positions)
  let config ← configOf spec o.settings
  let engine ← orFault ((Engine.make? backend config).mapError Cause.fault)
  let engine := { engine with catalog := catalogOf o.settings }
  let tokens ← need .count o.settings.warmupDecodeTokens
  let (lines, outcome, station) := warmup engine tokens ⟨Gate.idle, size.world⟩
  lines.forM say
  orFault outcome
  let most ← need .limit o.settings.httpMaxConcurrency
  let server : Http.Server σ :=
    { engine, modelId := config.modelId, slots := (limitOf most).map Int.toNat }
  pure ⟨o, server, server.opened station⟩

def finish (r : Ready σ) (h : Http.House σ) : Http.House σ :=
  { h with station := h.station.mapWorld r.server.engine.backend.unload }

def run (modules : Modules σ) (words : List String) (serve : Ready σ → α × Http.House σ) :
    Startup (Ready σ × α × Http.House σ) := do
  let r ← prepare modules words
  let (outcome, house) := serve r
  pure (r, outcome, finish r house)

end Completions.Launch
