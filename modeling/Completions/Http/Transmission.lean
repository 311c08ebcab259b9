import Completions.Http.Chunk

/-!
Event streams on their way to a client. The source of events may end, be interrupted or fail; the
client may leave at any time. While the source is being read its slot is taken and it is open; both
are given back before the last chunks go out.
-/

namespace Completions.Http

inductive Interruption where
  | cancelled
  | failed (fault : Fault)
  deriving DecidableEq, Repr

inductive Incoming where
  | event (e : Event)
  | interrupted (i : Interruption)

structure Ledger where
  /-- How often the slot has been given back. -/
  released : Nat := 0
  closed : Bool := false
  polls : Nat := 0
  deriving DecidableEq, Repr

namespace Ledger

def poll (l : Ledger) : Ledger := { l with polls := l.polls + 1 }

def settle (l : Ledger) : Ledger := { l with released := l.released + 1, closed := true }

end Ledger

/-- The chunks that go out one after another, with the ledger at the time of each. A guarded chunk is
sent while the slot is taken: if the client is gone then, the ledger is settled. -/
inductive Transmission where
  | chunk (c : Chunk) (ledger : Ledger) (guarded : Bool) (rest : Transmission)
  | over (outcome : Except Interruption Unit) (ledger : Ledger)

namespace Transmission

def chunks : Transmission → List Chunk
  | .chunk c _ _ rest => c :: rest.chunks
  | .over _ _ => []

def outcome : Transmission → Except Interruption Unit
  | .chunk _ _ _ rest => rest.outcome
  | .over o _ => o

def ledger : Transmission → Ledger
  | .chunk _ _ _ rest => rest.ledger
  | .over _ l => l

def openingLedger : Transmission → Ledger
  | .chunk _ l _ _ => l
  | .over _ l => l

/-- The ledger of a transmission that is closed while a chunk is being sent; chunks are counted from
zero. -/
def closedAt : Transmission → Nat → Ledger
  | .chunk _ l guarded _, 0 => if guarded then l.settle else l
  | .chunk _ _ _ rest, k + 1 => rest.closedAt k
  | .over _ l, _ => l

def unguarded (l : Ledger) : List Chunk → Transmission
  | [] => .over (.ok ()) l
  | c :: rest => .chunk c l false (unguarded l rest)

end Transmission

/-- The number of the poll from which on the client is gone. -/
abbrev Departure := Option Nat

def isGone (d : Departure) (l : Ledger) : Bool :=
  match d with
  | some n => decide (n ≤ l.polls)
  | none => false

def finishing (l : Ledger) (terminal : Fields) : Transmission :=
  .unguarded l.settle [.data (.obj terminal), .done]

/-- An error is sent while the slot is still taken, and ends the stream. -/
def failing (l : Ledger) (kind : ErrorKind) (message : String) : Transmission :=
  .chunk (.data (errorJson kind message)) l true (.unguarded l.settle [.done])

def sendIf (wanted : Bool) (l : Ledger) (v : Fields) (rest : Transmission) : Transmission :=
  if wanted then .chunk (.data (.obj v)) l true rest else rest

structure TextSummary where
  finish : FinishReason := .stop
  usage : Option Usage := none

def TextSummary.terminal (s : TextSummary) (h : Head) : Fields :=
  h.text "" (some s.finish.name) ++ (s.usage.elim [] usageField)

def textStream (h : Head) (d : Departure) (s : TextSummary) (l : Ledger) :
    List Incoming → Transmission
  | [] => finishing l (s.terminal h)
  | .interrupted i :: _ => .over (.error i) l.settle
  | .event e :: rest =>
    let l := l.poll
    if isGone d l then .over (.ok ()) l.settle
    else match e with
      | .delta text =>
        sendIf (text != "") l (h.text text none) (textStream h d s l rest)
      | .toolCalls _ => textStream h d s l rest
      | .final finish usage _ => textStream h d { finish, usage := some usage } l rest
      | .error kind message => failing l kind message

structure ChatSummary where
  finish : Option FinishReason := none
  usage : Option Usage := none
  timing : Option Timing := none

namespace ChatSummary

/-- Calls that have been announced are the reason of the end, whatever comes later. -/
def announce (s : ChatSummary) : ChatSummary := { s with finish := some .toolCalls }

def close (s : ChatSummary) (finish : FinishReason) (usage : Usage) (c : Completion) : ChatSummary where
  finish := if s.finish = some .toolCalls then s.finish else some finish
  usage := some usage
  timing := c.timing

/-- A reason that is missing or empty counts as a plain stop. -/
def reason (s : ChatSummary) : String :=
  match s.finish with
  | some f => if f.name = "" then "stop" else f.name
  | none => "stop"

def terminal (s : ChatSummary) (h : Head) : Fields :=
  h.chat [] (some s.reason) ++ (s.usage.elim [] usageField) ++ timingField s.timing

end ChatSummary

def chatBody (h : Head) (d : Departure) (s : ChatSummary) (l : Ledger) :
    List Incoming → Transmission
  | [] => finishing l (s.terminal h)
  | .interrupted i :: _ => .over (.error i) l.settle
  | .event e :: rest =>
    let l := l.poll
    if isGone d l then .over (.ok ()) l.settle
    else match e with
      | .delta text =>
        sendIf (text != "") l (h.chat [("content", .str text)] none) (chatBody h d s l rest)
      | .toolCalls calls =>
        sendIf true l (h.chat [("tool_calls", .arr (numberedCalls 0 calls))] none)
          (chatBody h d s.announce l rest)
      | .final finish usage c => chatBody h d (s.close finish usage c) l rest
      | .error kind message => failing l kind message

/-- The first chunk, which announces the role, goes out before anything is read of the source. -/
def chatStream (h : Head) (d : Departure) (source : List Incoming) : Transmission :=
  .chunk (.data (.obj (h.chat [("role", .str "assistant")] none))) {} false
    (chatBody h d {} {} source)

inductive Collapse where
  | refused (kind : ErrorKind) (message : String)
  | noResult
  | interrupted (i : Interruption)
  deriving DecidableEq, Repr

def collect (last : Option Completion) : List Incoming → Except Collapse Completion
  | [] => match last with
    | some c => .ok c
    | none => .error .noResult
  | .interrupted i :: _ => .error (.interrupted i)
  | .event e :: rest =>
    match e with
    | .final _ _ c => collect (some c) rest
    | .error kind message => .error (.refused kind message)
    | _ => collect last rest

def statusOf : ErrorKind → Nat
  | .invalidParam => 400
  | .modelNotReady => 503
  | _ => 500

end Completions.Http
