import Completions.Proofs.StreamedAnswer
import Mathlib.Data.List.Induction

/-! What the two stream writers send for a source of events, in which order, and what they have
given back when they are done. They read a source alike and differ only in the pieces they send, so
the reading is told once. Main statements: `transmission_written`, for a writer that is driven to
its end, and `closing_gives_back`, for one that is closed while a chunk is being sent. -/

namespace Completions.Http

inductive Close where
  | finished
  | refused (kind : ErrorKind) (message : String)
  | left
  | broken (i : Interruption)

def refusal? : Event → Option (ErrorKind × String)
  | .error kind message => some (kind, message)
  | _ => none

def GoneAt (d : Departure) (poll : Nat) : Prop := ∃ n, d = some n ∧ n ≤ poll

/-- How the reading ends at what is left of a source, after so many polls. The client is asked for
before an event is looked at. -/
inductive Ends (d : Departure) (polls : Nat) : List Incoming → Close → Prop
  | finished : Ends d polls [] .finished
  | broken {i : Interruption} {later : List Incoming} :
    Ends d polls (.interrupted i :: later) (.broken i)
  | left {e : Event} {later : List Incoming} (gone : GoneAt d (polls + 1)) :
    Ends d polls (.event e :: later) .left
  | refused {kind : ErrorKind} {message : String} {later : List Incoming}
    (there : ¬ GoneAt d (polls + 1)) :
    Ends d polls (.event (.error kind message) :: later) (.refused kind message)

/-- The events of a source that are answered to, from the poll after the given number of them on,
and why there are no more. -/
structure Reading (d : Departure) (polls : Nat) (source : List Incoming) (events : List Event)
    (close : Close) : Prop where
  accepted : ∀ e ∈ events, refusal? e = none
  there : ∀ i < events.length, ¬ GoneAt d (polls + i + 1)
  rest : ∃ rest, source = events.map .event ++ rest ∧ Ends d (polls + events.length) rest close

section Reading

variable {d : Departure} {polls : Nat} {source rest : List Incoming} {events : List Event}
  {e : Event} {close : Close}

theorem reading_nil : Reading d polls source [] close ↔ Ends d polls source close := by
  constructor
  · intro reading
    obtain ⟨rest, rfl, ends⟩ := reading.rest
    exact ends
  · intro ends
    exact ⟨by simp, by simp, source, rfl, ends⟩

theorem reading_cons : Reading d polls source (e :: events) close ↔
    ∃ rest, source = .event e :: rest ∧ refusal? e = none ∧ ¬ GoneAt d (polls + 1) ∧
      Reading d (polls + 1) rest events close := by
  have shift : ∀ i, polls + 1 + i = polls + (i + 1) := by intro i; omega
  constructor
  · intro reading
    obtain ⟨rest, rfl, ends⟩ := reading.rest
    refine ⟨events.map .event ++ rest, rfl, reading.accepted e (by simp),
      reading.there 0 (by simp), ?_, ?_, rest, rfl, ?_⟩
    · intro e' member
      exact reading.accepted e' (List.mem_cons_of_mem e member)
    · intro i bound
      rw [shift]
      exact reading.there (i + 1) (by simpa using bound)
    · rw [shift]
      exact ends
  · intro ⟨rest, first, accepted, there, reading⟩
    obtain ⟨tail, rfl, ends⟩ := reading.rest
    refine ⟨?_, ?_, tail, first, ?_⟩
    · simpa [accepted] using reading.accepted
    · intro i bound
      cases i with
      | zero => exact there
      | succ i =>
        rw [← shift]
        exact reading.there i (by simpa using bound)
    · rw [List.length_cons, ← shift]
      exact ends

theorem Ends.event (ends : Ends d polls (.event e :: rest) close) :
    refusal? e ≠ none ∨ GoneAt d (polls + 1) := by
  cases ends with
  | left gone => exact .inr gone
  | refused there => exact .inl (by simp [refusal?])

theorem Ends.unique {close' : Close} (a : Ends d polls source close)
    (b : Ends d polls source close') : close' = close := by
  cases a with
  | finished => cases b; rfl
  | broken => cases b; rfl
  | left gone =>
    cases b with
    | left => rfl
    | refused there => exact absurd gone there
  | refused there =>
    cases b with
    | left gone => exact absurd gone there
    | refused => rfl

theorem Reading.unique {events' : List Event} {close' : Close}
    (a : Reading d polls source events close) (b : Reading d polls source events' close') :
    events' = events ∧ close' = close := by
  induction events generalizing polls source events' with
  | nil =>
    have ends := reading_nil.1 a
    cases events' with
    | nil => exact ⟨rfl, ends.unique (reading_nil.1 b)⟩
    | cons e events' =>
      obtain ⟨rest, rfl, accepted, there, -⟩ := reading_cons.1 b
      rcases ends.event with refused | gone
      · exact absurd accepted refused
      · exact absurd gone there
  | cons e events ih =>
    obtain ⟨rest, rfl, accepted, there, tail⟩ := reading_cons.1 a
    cases events' with
    | nil =>
      rcases (reading_nil.1 b).event with refused | gone
      · exact absurd accepted refused
      · exact absurd gone there
    | cons e' events' =>
      obtain ⟨rest', same, -, -, tail'⟩ := reading_cons.1 b
      obtain ⟨rfl, rfl⟩ : e = e' ∧ rest = rest' := by simpa using same
      obtain ⟨rfl, rfl⟩ := ih tail tail'
      exact ⟨rfl, rfl⟩

theorem exists_reading (d : Departure) (polls : Nat) (source : List Incoming) :
    ∃ events close, Reading d polls source events close := by
  induction source generalizing polls with
  | nil => exact ⟨[], .finished, reading_nil.2 .finished⟩
  | cons first rest ih =>
    cases first with
    | interrupted i => exact ⟨[], .broken i, reading_nil.2 .broken⟩
    | event e =>
      by_cases gone : GoneAt d (polls + 1)
      · exact ⟨[], .left, reading_nil.2 (.left gone)⟩
      · cases refusal : refusal? e with
        | none =>
          obtain ⟨events, close, reading⟩ := ih (polls + 1)
          exact ⟨e :: events, close, reading_cons.2 ⟨rest, rfl, refusal, gone, reading⟩⟩
        | some refused =>
          cases e with
          | error kind message =>
            exact ⟨[], .refused kind message, reading_nil.2 (.refused gone)⟩
          | delta | toolCalls | final => cases refusal

end Reading

/-- How a writer puts an answer: the piece it sends for an event, what it notes of the event, and
the piece it ends with. -/
structure Idiom (τ : Type) where
  piece : Event → Option Fields
  note : τ → Event → τ
  last : τ → Fields

def sending (l : Ledger) (piece : Option Fields) (rest : Transmission) : Transmission :=
  match piece with
  | some v => .chunk (.data (.obj v)) l true rest
  | none => rest

namespace Idiom

variable {τ : Type}

def stream (w : Idiom τ) (d : Departure) (s : τ) (l : Ledger) : List Incoming → Transmission
  | [] => finishing l (w.last s)
  | .interrupted i :: _ => .over (.error i) l.settle
  | .event e :: rest =>
    if isGone d l.poll then .over (.ok ()) l.poll.settle
    else match refusal? e with
      | some (kind, message) => failing l.poll kind message
      | none => sending l.poll (w.piece e) (w.stream d (w.note s e) l.poll rest)

def text (h : Head) : Idiom TextSummary where
  piece
    | .delta t => if t = "" then none else some (h.text t none)
    | _ => none
  note s
    | .final finish usage _ => { finish, usage := some usage }
    | _ => s
  last s := s.terminal h

def chat (h : Head) : Idiom ChatSummary where
  piece
    | .delta t => if t = "" then none else some (h.chat [("content", .str t)] none)
    | .toolCalls calls => some (h.chat [("tool_calls",
        .arr (calls.mapIdx fun i c => .obj (c.toFields ++ [("index", .int i)])))] none)
    | _ => none
  note s
    | .toolCalls _ => s.announce
    | .final finish usage c => s.close finish usage c
    | _ => s
  last s := s.terminal h

end Idiom

theorem numberedCalls_eq (i : Nat) (calls : List Tool.Call) : numberedCalls i calls =
    calls.mapIdx fun j c => .obj (c.toFields ++ [("index", .int (i + j : Nat))]) := by
  induction calls generalizing i with
  | nil => rfl
  | cons c calls ih =>
    rw [numberedCalls, ih, List.mapIdx_cons]
    simp [Nat.add_assoc, Nat.add_comm 1]

theorem textStream_eq (h : Head) (d : Departure) (s : TextSummary) (l : Ledger)
    (source : List Incoming) : textStream h d s l source = (Idiom.text h).stream d s l source := by
  induction source generalizing s l with
  | nil => rfl
  | cons first rest ih =>
    cases first with
    | interrupted i => rfl
    | event e =>
      by_cases gone : isGone d l.poll = true
      · simp only [textStream, Idiom.stream, gone, if_true]
      · cases e with
        | delta t =>
          by_cases empty : t = "" <;>
            simp [textStream, Idiom.stream, gone, refusal?, Idiom.text, sendIf, sending, ih, empty]
        | toolCalls | final | error =>
          simp [textStream, Idiom.stream, gone, refusal?, Idiom.text, sending, ih]

theorem chatBody_eq (h : Head) (d : Departure) (s : ChatSummary) (l : Ledger)
    (source : List Incoming) : chatBody h d s l source = (Idiom.chat h).stream d s l source := by
  induction source generalizing s l with
  | nil => rfl
  | cons first rest ih =>
    cases first with
    | interrupted i => rfl
    | event e =>
      by_cases gone : isGone d l.poll = true
      · simp only [chatBody, Idiom.stream, gone, if_true]
      · cases e with
        | delta t =>
          by_cases empty : t = "" <;>
            simp [chatBody, Idiom.stream, gone, refusal?, Idiom.chat, sendIf, sending, ih, empty]
        | toolCalls calls =>
          simp [chatBody, Idiom.stream, gone, refusal?, Idiom.chat, sendIf, sending, ih,
            numberedCalls_eq]
        | final | error =>
          simp [chatBody, Idiom.stream, gone, refusal?, Idiom.chat, sending, ih]

theorem isGone_iff {d : Departure} {l : Ledger} : isGone d l = true ↔ GoneAt d l.polls := by
  cases d <;> simp [isGone, GoneAt]

namespace Close

def chunks (last : Fields) : Close → List Chunk
  | .finished => [.data (.obj last), .done]
  | .refused kind message => [.data (errorJson kind message), .done]
  | .left | .broken _ => []

def outcome : Close → Except Interruption Unit
  | .broken i => .error i
  | _ => .ok ()

def polls : Close → Nat
  | .left | .refused _ _ => 1
  | .finished | .broken _ => 0

end Close

@[simp] theorem chunks_sending (l : Ledger) (piece : Option Fields) (rest : Transmission) :
    (sending l piece rest).chunks = piece.toList.map (fun v => .data (.obj v)) ++ rest.chunks := by
  cases piece <;> rfl

@[simp] theorem outcome_sending (l : Ledger) (piece : Option Fields) (rest : Transmission) :
    (sending l piece rest).outcome = rest.outcome := by
  cases piece <;> rfl

@[simp] theorem ledger_sending (l : Ledger) (piece : Option Fields) (rest : Transmission) :
    (sending l piece rest).ledger = rest.ledger := by
  cases piece <;> rfl

namespace Idiom

variable {τ : Type} (w : Idiom τ) {d : Departure} {l : Ledger} {source rest : List Incoming}
  {events : List Event} {close : Close}

/-- A transmission that has sent these chunks, and given the slot and the source back once. -/
structure Settles (t : Transmission) (chunks : List Chunk) (close : Close) (l : Ledger) : Prop where
  chunks : t.chunks = chunks
  outcome : t.outcome = close.outcome
  ledger : t.ledger = l.settle

theorem stream_ends (ends : Ends d l.polls source close) (s : τ) :
    Settles (w.stream d s l source) (close.chunks (w.last s)) close
      { l with polls := l.polls + close.polls } := by
  cases ends with
  | finished => exact ⟨rfl, rfl, rfl⟩
  | broken => exact ⟨rfl, rfl, rfl⟩
  | left gone =>
    have gone : isGone d l.poll = true := isGone_iff.2 gone
    rw [stream, if_pos gone]
    exact ⟨rfl, rfl, rfl⟩
  | refused there =>
    have there : ¬ isGone d l.poll = true := mt isGone_iff.1 there
    rw [stream, if_neg there]
    exact ⟨rfl, rfl, rfl⟩

theorem stream_event {e : Event} (accepted : refusal? e = none)
    (there : ¬ GoneAt d (l.polls + 1)) (s : τ) : w.stream d s l (.event e :: rest) =
      sending l.poll (w.piece e) (w.stream d (w.note s e) l.poll rest) := by
  have there : ¬ isGone d l.poll = true := mt isGone_iff.1 there
  rw [stream, if_neg there, accepted]

/-- A writer sends the pieces of the events it reads, in their order, and then what the end of the
reading asks for. -/
theorem stream_reading (reading : Reading d l.polls source events close) (s : τ) :
    Settles (w.stream d s l source)
      ((events.filterMap w.piece).map (fun v => .data (.obj v)) ++
        close.chunks (w.last (events.foldl w.note s))) close
      { l with polls := l.polls + events.length + close.polls } := by
  induction events generalizing l source s with
  | nil => exact w.stream_ends (reading_nil.1 reading) s
  | cons e events ih =>
    obtain ⟨rest, rfl, accepted, there, tail⟩ := reading_cons.1 reading
    have settled := ih (l := l.poll) tail (w.note s e)
    rw [w.stream_event accepted there s]
    constructor
    · rw [chunks_sending, settled.chunks]
      cases piece : w.piece e <;> simp [piece]
    · rw [outcome_sending, settled.outcome]
    · have polls : l.polls + 1 + events.length = l.polls + (events.length + 1) := by omega
      rw [ledger_sending, settled.ledger, List.length_cons, ← polls]
      rfl

end Idiom

def lastFinal (events : List Event) : Option (FinishReason × Usage × Completion) :=
  (events.filterMap fun
    | .final finish usage c => some (finish, usage, c)
    | _ => none).getLast?

def saysCalls : Event → Bool
  | .toolCalls _ => true
  | .final finish _ _ => finish == .toolCalls
  | _ => false

/-- The reason a streamed answer to a conversation gives: calls that were announced come before all
else, then the last end counts. -/
def chatReason (events : List Event) : String :=
  if events.any saysCalls then "tool_calls"
  else match lastFinal events with
    | some (finish, _, _) => if finish.name = "" then "stop" else finish.name
    | none => "stop"

def endPiece (service : Engine.Service) (h : Head) (events : List Event) : Fields :=
  match service with
  | .text =>
    match lastFinal events with
    | some (finish, usage, _) => h.text "" (some finish.name) ++ usageField usage
    | none => h.text "" (some "stop")
  | .chat =>
    h.chat [] (some (chatReason events)) ++
      match lastFinal events with
      | some (_, usage, c) => usageField usage ++ timingField c.timing
      | none => []

section Summary

variable (h : Head)

theorem lastFinal_concat (events : List Event) (e : Event) : lastFinal (events ++ [e]) =
    match e with
    | .final finish usage c => some (finish, usage, c)
    | _ => lastFinal events := by
  cases e <;> simp [lastFinal]

theorem text_noted (events : List Event) : events.foldl (Idiom.text h).note {} =
    match lastFinal events with
    | some (finish, usage, _) => { finish, usage := some usage }
    | none => {} := by
  induction events using List.reverseRecOn with
  | nil => rfl
  | append_singleton events e ih =>
    rw [List.foldl_concat, ih, lastFinal_concat]
    cases e <;> rfl

theorem text_last (events : List Event) :
    (Idiom.text h).last (events.foldl (Idiom.text h).note {}) = endPiece .text h events := by
  rw [text_noted]
  cases last : lastFinal events with
  | none => simp [Idiom.text, TextSummary.terminal, endPiece, last, FinishReason.name]
  | some final => simp [Idiom.text, TextSummary.terminal, endPiece, last]

theorem saysCalls_of_lastFinal {events : List Event} {usage : Usage} {c : Completion}
    (last : lastFinal events = some (.toolCalls, usage, c)) : events.any saysCalls = true := by
  induction events using List.reverseRecOn with
  | nil => cases last
  | append_singleton events e ih =>
    rw [lastFinal_concat] at last
    rw [List.any_append, Bool.or_eq_true]
    cases e with
    | final finish usage' c' =>
      obtain ⟨rfl, -⟩ := Prod.mk.inj (Option.some.inj last)
      exact .inr rfl
    | delta | toolCalls | error => exact .inl (ih last)

theorem chat_noted (events : List Event) : events.foldl (Idiom.chat h).note {} =
    { finish := if events.any saysCalls then some .toolCalls else (lastFinal events).map (·.1)
      usage := (lastFinal events).map (·.2.1)
      timing := (lastFinal events).bind (·.2.2.timing) } := by
  induction events using List.reverseRecOn with
  | nil => rfl
  | append_singleton events e ih =>
    rw [List.foldl_concat, ih, lastFinal_concat, List.any_append]
    cases e with
    | delta | error => simp [Idiom.chat, saysCalls]
    | toolCalls calls => simp [Idiom.chat, saysCalls, ChatSummary.announce]
    | final finish usage c =>
      by_cases calls : events.any saysCalls = true
      · simp [Idiom.chat, ChatSummary.close, calls]
      · -- The reason so far is no calls: it would have been said.
        have other : (lastFinal events).map (·.1) ≠ some .toolCalls := by
          intro same
          obtain ⟨⟨finish', usage', c'⟩, last, rfl⟩ := Option.map_eq_some_iff.1 same
          exact calls (saysCalls_of_lastFinal last)
        by_cases reason : finish = .toolCalls <;>
          simp [Idiom.chat, ChatSummary.close, calls, other, saysCalls, reason]

theorem chat_last (events : List Event) :
    (Idiom.chat h).last (events.foldl (Idiom.chat h).note {}) = endPiece .chat h events := by
  have reason : ChatSummary.reason (events.foldl (Idiom.chat h).note {}) = chatReason events := by
    rw [chat_noted, ChatSummary.reason, chatReason]
    by_cases calls : events.any saysCalls = true
    · simp [calls, FinishReason.name]
    · cases lastFinal events <;> simp [calls]
  change ChatSummary.terminal _ h = _
  rw [ChatSummary.terminal, reason, chat_noted]
  cases last : lastFinal events <;> simp [endPiece, last, timingField]

end Summary

def Ledger.Returned (l : Ledger) : Prop := l.released = 1 ∧ l.closed = true

theorem returned_settle {l : Ledger} (held : l.released = 0) : l.settle.Returned :=
  ⟨congrArg (· + 1) held, rfl⟩

theorem Idiom.Settles.returned {t : Transmission} {chunks : List Chunk} {close : Close} {l : Ledger}
    (settled : Settles t chunks close l) (held : l.released = 0) : t.ledger.Returned := by
  rw [settled.ledger]
  exact returned_settle held

def transmission (service : Engine.Service) (h : Head) (d : Departure) (source : List Incoming) :
    Transmission :=
  match service with
  | .text => textStream h d {} {} source
  | .chat => chatStream h d source

def pieceOf (service : Engine.Service) (h : Head) : Event → Option Fields :=
  match service with
  | .text => (Idiom.text h).piece
  | .chat => (Idiom.chat h).piece

/-- What has been sent for these events when the reading ended, and what has been given back. -/
structure Written (service : Engine.Service) (h : Head) (events : List Event) (close : Close)
    (t : Transmission) : Prop where
  chunks : t.chunks = (opening service h).map .data ++
    ((events.filterMap (pieceOf service h)).map (fun v => .data (.obj v)) ++
      close.chunks (endPiece service h events))
  outcome : t.outcome = close.outcome
  returned : t.ledger.Returned
  /-- Each event that was read was polled for, and none was read after the one that ended it. -/
  polls : t.ledger.polls = events.length + close.polls

theorem written_reading (service : Engine.Service) (h : Head) {d : Departure}
    {source : List Incoming} {events : List Event} {close : Close}
    (reading : Reading d 0 source events close) :
    Written service h events close (transmission service h d source) := by
  have polls : 0 + events.length + close.polls = events.length + close.polls := by omega
  cases service with
  | text =>
    have settled := (Idiom.text h).stream_reading (l := {}) reading {}
    rw [← textStream_eq, text_last] at settled
    refine ⟨settled.chunks, settled.outcome, ?_, ?_⟩
    · exact settled.returned rfl
    · exact (congrArg Ledger.polls settled.ledger).trans polls
  | chat =>
    have settled := (Idiom.chat h).stream_reading (l := {}) reading {}
    rw [← chatBody_eq, chat_last] at settled
    refine ⟨?_, settled.outcome, ?_, ?_⟩
    · exact congrArg _ settled.chunks
    · exact settled.returned rfl
    · exact (congrArg Ledger.polls settled.ledger).trans polls

/-- A writer answers to the one reading there is of its source. -/
theorem transmission_written (service : Engine.Service) (h : Head) (d : Departure)
    (source : List Incoming) : ∃ events close,
      (∀ events' close', Reading d 0 source events' close' ↔ events' = events ∧ close' = close) ∧
      Written service h events close (transmission service h d source) := by
  obtain ⟨events, close, reading⟩ := exists_reading d 0 source
  refine ⟨events, close, ?_, written_reading service h reading⟩
  intro events' close'
  constructor
  · exact reading.unique
  · rintro ⟨rfl, rfl⟩
    exact reading

example : (transmission .text ⟨"cmpl-1", 7, "m"⟩ (some 2)
    [.event (.delta "a"), .event (.delta "b"), .event (.delta "c")]).ledger = ⟨1, true, 2⟩ := rfl

@[simp] theorem closedAt_unguarded (l : Ledger) (chunks : List Chunk) (k : Nat) :
    (Transmission.unguarded l chunks).closedAt k = l := by
  induction chunks generalizing k with
  | nil => rfl
  | cons c chunks ih =>
    cases k with
    | zero => rfl
    | succ k => exact ih k

theorem closedAt_finishing (l : Ledger) (last : Fields) (k : Nat) :
    (finishing l last).closedAt k = l.settle :=
  closedAt_unguarded _ _ k

theorem closedAt_failing (l : Ledger) (kind : ErrorKind) (message : String) (k : Nat) :
    (failing l kind message).closedAt k = l.settle := by
  cases k with
  | zero => rfl
  | succ k => exact closedAt_unguarded _ _ k

/-- From the first event on every chunk goes out either while the slot is held, and closing gives it
back, or after it has been given back. -/
theorem returned_closedAt {τ : Type} (w : Idiom τ) (d : Departure) (s : τ) {l : Ledger}
    (held : l.released = 0) (source : List Incoming) (k : Nat) :
    ((w.stream d s l source).closedAt k).Returned := by
  induction source generalizing s l k with
  | nil =>
    rw [Idiom.stream, closedAt_finishing]
    exact returned_settle held
  | cons first rest ih =>
    cases first with
    | interrupted i => exact returned_settle held
    | event e =>
      have held : l.poll.released = 0 := held
      by_cases gone : isGone d l.poll = true
      · rw [Idiom.stream, if_pos gone]
        exact returned_settle held
      · rw [Idiom.stream, if_neg gone]
        cases refusal? e with
        | some refused =>
          obtain ⟨kind, message⟩ := refused
          dsimp only
          rw [closedAt_failing]
          exact returned_settle held
        | none =>
          have later := ih (w.note s e) held
          cases w.piece e with
          | none => exact later k
          | some v =>
            cases k with
            | zero => exact returned_settle held
            | succ k => exact later k

/-- Wherever a writer is closed it has given the slot and the source back, but for the opening of an
answer to a conversation: closed there it keeps both for good. -/
theorem closing_gives_back (service : Engine.Service) (h : Head) (d : Departure)
    (source : List Incoming) (k : Nat) :
    (((transmission service h d source).closedAt k).Returned ↔ ¬ (service = .chat ∧ k = 0)) ∧
      (transmission .chat h d source).closedAt 0 = {} := by
  refine ⟨?_, rfl⟩
  cases service with
  | text =>
    have returned : ((transmission .text h d source).closedAt k).Returned := by
      rw [transmission, textStream_eq]
      exact returned_closedAt (Idiom.text h) d {} rfl source k
    simp [returned]
  | chat =>
    cases k with
    | zero =>
      have kept : ¬ ((transmission .chat h d source).closedAt 0).Returned := by
        intro returned
        cases returned.1
      simp [kept]
    | succ k =>
      have returned : ((transmission .chat h d source).closedAt (k + 1)).Returned := by
        change ((chatBody h d {} {} source).closedAt k).Returned
        rw [chatBody_eq]
        exact returned_closedAt (Idiom.chat h) d {} rfl source k
      simp [returned]

/-- A conversation whose client leaves with the opening alone: nothing is given back. -/
theorem opening_keeps_slot : ¬ ((transmission .chat ⟨"chatcmpl-1", 7, "m"⟩ none
    [.event (.delta "a"),
     .event (.final .stop ⟨1, 1⟩
       { content := "a", promptTokens := 1, tokens := [2], finish := .stop })]).closedAt 0).Returned
    := by
  intro returned
  cases returned.1

end Completions.Http
