import Completions.Engine.Backend
import Completions.Engine.Cause
import Completions.Engine.Result
import Completions.Json.Integer
import Completions.Stop

/-!
One run of the model. The prompt is taken into the context in batches; then tokens are sampled one at
a time, each taken in before the next, until a stop word occurs, the end token comes, the context is
full, the budget is spent, or somebody wants the run to end. Text that may still turn into a stop
word is held back.
-/

namespace Completions.Generation

/-- What has been written so far, how much of it has been handed over, and the next free position of
the context. -/
structure Progress where
  text : Text.Growing := {}
  /-- The tokens sampled, the last first. -/
  tokens : List Int := []
  sent : Nat := 0
  past : Nat

namespace Progress

def extend (p : Progress) (token : Int) (piece : String) : Progress :=
  { p with text := p.text.append piece.toList, tokens := token :: p.tokens, past := p.past + 1 }

def handed (p : Progress) : Progress := { p with sent := p.text.size }

def unsent (p : Progress) : List Char := p.text.since p.sent

def cut (p : Progress) (place : Nat) : Progress := { p with text := p.text.before place }

end Progress

inductive Ending where
  | exhausted
  | interrupted
  | declined
  | stopWord (word : String)
  | endToken
  | contextFull
  deriving DecidableEq, Repr

namespace Ending

def finish : Ending → FinishReason
  | .interrupted | .declined => .cancelled
  | .stopWord _ | .endToken => .stop
  | .exhausted | .contextFull => .length

def word? : Ending → Option String
  | .stopWord w => some w
  | _ => none

end Ending

variable {σ : Type}

def promptItems (b : Backend σ) : List Json → Act σ (List Int)
  | [] => pure []
  | .str s :: rest => do
    let tokens ← Act.ask (b.tokenize s)
    let more ← promptItems b rest
    pure (tokens ++ more)
  | v :: rest => do
    let token ← Act.ofExcept (v.toInteger.mapError Json.NotInteger.fault)
    let more ← promptItems b rest
    pure (token :: more)

def promptTokens (b : Backend σ) : Prompt → Act σ (List Int)
  | .text s => Act.ask (b.tokenize s)
  | .items xs => promptItems b xs

/-- Consecutive slices of `size` elements, the last as long as what is left. `slice` holds what has
been collected of the next one, and `room` is how much of it is missing. -/
def slicesOn (size : Nat) (slice : List α) (room : Nat) : List α → List (List α)
  | [] => if slice = [] then [] else [slice]
  | x :: rest =>
    if room ≤ 1 then (slice ++ [x]) :: slicesOn size [] size rest
    else slicesOn size (slice ++ [x]) (room - 1) rest

def slices (size : Nat) (xs : List α) : List (List α) := slicesOn size [] size xs

def ingest (b : Backend σ) (past : Nat) : List (List Int) → Act σ Unit
  | [] => pure ()
  | slice :: rest => do
    if ← Act.ask (b.decode slice past) then ingest b (past + slice.length) rest
    else Act.refuse (Cause.prefill past).fault

structure Task (σ : Type) where
  words : Stop.Words
  sampling : Sampling
  grammar : Option String
  jsonSchema : Option Fields
  stream : Bool
  ignoreEnd : Bool
  sink : Option (Sink σ)
  /-- Says that the caller is gone. -/
  watch : σ → Bool

def handOver (sink : Option (Sink σ)) (p : Progress) : Act σ (Bool × Progress) := do
  match sink, p.unsent with
  | some sink, c :: fragment => do
    let goOn ← sink (String.ofList (c :: fragment)) false
    pure (goOn, p.handed)
  | _, _ => pure (true, p.handed)

def isInterrupted (watch : σ → Bool) : Act σ Bool := fun s =>
  .ok (s.gate.cancelled || watch s.world) s

def advance (b : Backend σ) (t : Task σ) (p : Progress) : Act σ (Int × Progress) := do
  let token ← Act.ask (b.sample t.sampling t.grammar t.jsonSchema)
  let piece ← Act.ask (b.piece token)
  if ← Act.ask (b.decode [token] p.past) then pure (token, p.extend token piece)
  else Act.refuse Cause.decode.fault

def endingAfter (t : Task σ) (endToken : Option Int) (context : Nat) (token : Int) (past : Nat) :
    Option Ending :=
  if t.ignoreEnd = false ∧ endToken = some token then some .endToken
  else if context ≤ past then some .contextFull
  else none

/-- What becomes of a run whose last token has added `fresh` characters: a stop word ends it, and text
that cannot grow into one is handed over. There was no stop word before the last token, so one that
has occurred since ends in that token's text. -/
def settle (t : Task σ) (endToken : Option Int) (context fresh : Nat) (token : Int) (p : Progress) :
    Act σ (Option Ending × Progress) :=
  match t.words.checkEnd p.text fresh with
  | .stop hit => pure (some (.stopWord hit.word), p.cut hit.position)
  | check => do
    let (goOn, p) ←
      if check = .clear ∧ t.stream = true then handOver t.sink p else pure (true, p)
    pure (if goOn then endingAfter t endToken context token p.past else some .declined, p)

/-- One token, unless the run is to end before it. Without an ending the run goes on. -/
def step (b : Backend σ) (t : Task σ) (endToken : Option Int) (context : Nat) (p : Progress) :
    Act σ (Option Ending × Progress) := do
  if ← isInterrupted t.watch then pure (some .interrupted, p)
  else
    let (token, q) ← advance b t p
    settle t endToken context (q.text.size - p.text.size) token q

def loop (b : Backend σ) (t : Task σ) (endToken : Option Int) (context : Nat) :
    (budget : Nat) → Progress → Act σ (Ending × Progress)
  | 0, p => pure (.exhausted, p)
  | budget + 1, p => do
    match ← step b t endToken context p with
    | (some ending, q) => pure (ending, q)
    | (none, q) => loop b t endToken context budget q

structure Draft where
  began : Float
  read : Float
  promptTokens : Nat
  ending : Ending
  text : String
  tokens : List Int

/-- Refuse a prompt that is empty or leaves no position for a token. -/
def checkLength (most : Option Int) (context : Int) (size : Nat) : Except Cause Unit :=
  if size = 0 then .error .emptyPrompt
  else match most.filter fun m : Int => decide (m < (size : Int)) with
    | some m => .error (.promptTooLong size m)
    | none => if context ≤ size then .error (.promptBeyondContext size context) else .ok ()

def budgetOf (maxNewTokens : Json) (room : Nat) : Nat :=
  match maxNewTokens with
  | .int n => if 0 < n then n.toNat else room
  | _ => room

/-- Take the prompt into an empty context; the size of the context and the tokens of the prompt. -/
def prefill (b : Backend σ) (batch : Nat) (most : Option Int) (prompt : Prompt) :
    Act σ (Int × List Int) := do
  Act.ask b.clear
  let context ← Act.ask b.contextSize
  let tokens ← promptTokens b prompt
  Act.ofExcept ((checkLength most context tokens.length).mapError Cause.fault)
  ingest b 0 (slices batch tokens)
  pure (context, tokens)

/-- Hand over what was held back, unless the sink has declined. -/
def flush (t : Task σ) (ending : Ending) (p : Progress) : Act σ Progress :=
  if t.stream = true ∧ ending ≠ .declined then do
    let (_, p) ← handOver t.sink p
    pure p
  else pure p

def compose (b : Backend σ) (maxNewTokens : Json) (t : Task σ) (context : Int) (promptSize : Nat) :
    Act σ (Ending × Progress) := do
  let endToken ← Act.look b.endToken
  let budget := budgetOf maxNewTokens (context.toNat - promptSize)
  let (ending, p) ← loop b t endToken context.toNat budget { past := promptSize }
  let p ← flush t ending p
  pure (ending, p)

def write (b : Backend σ) (batch : Nat) (most : Option Int) (maxNewTokens : Json) (prompt : Prompt)
    (t : Task σ) : Act σ Draft := do
  let began ← Act.turn b.now
  let (context, tokens) ← prefill b batch most prompt
  let read ← Act.turn b.now
  let (ending, p) ← compose b maxNewTokens t context tokens.length
  pure ⟨began, read, tokens.length, ending, String.ofList p.text.toList, p.tokens.reverse⟩

def Draft.completion (d : Draft) (ended : Float) : Completion where
  content := d.text
  promptTokens := d.promptTokens
  tokens := d.tokens
  truncated := d.ending == .contextFull
  stoppingWord := d.ending.word?
  finish := d.ending.finish
  timing := some (Timing.measure d.began d.read ended d.tokens.length)

end Completions.Generation
