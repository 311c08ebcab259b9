import Completions.Engine.Event
import Completions.Proofs.Delivery
import Completions.Proofs.ServiceOutcome

/-! What a listener hears who stays to the end of a run: the fragments of its text, then the calls it
makes, then one event of the end. Main statement: `events_heard`, for both services of an engine. -/

namespace Completions

variable {σ : Type}

def Word.event? (w : Word) : Option Event :=
  if !w.last && w.text != "" then some (.delta w.text) else none

def heard (said : List Word) : List Event := said.filterMap Word.event?

namespace Outbox

def holding (events : List Event) : Outbox := { sent := events.reverse }

@[simp] theorem events_holding (es : List Event) : (holding es).events = es := List.reverse_reverse es

theorem emit_holding (es : List Event) (e : Event) :
    (holding es).emit .stays e = holding (es ++ [e]) := by
  simp [holding, emit]

theorem emitAll_holding (es fs : List Event) :
    (holding es).emitAll .stays fs = holding (es ++ fs) := by
  induction fs generalizing es with
  | nil => rw [List.append_nil]; rfl
  | cons e fs ih =>
    change ((holding es).emit .stays e).emitAll .stays fs = _
    rw [emit_holding, ih, List.append_assoc]
    rfl

end Outbox

/-- What is heard of a run is what its journal says of the words to an attentive sink. -/
def listening (w : σ × Journal σ) : σ × Outbox :=
  (w.1, .holding (heard (words (w.2.map Note.deed))))

theorem listening_note (w : σ) (notes : Journal σ) (n : Note σ) :
    listening (w, notes ++ [n]) =
      (w, .holding (heard (words (notes.map Note.deed)) ++ heard (words [n.deed]))) := by
  simp [listening, heard]

theorem listening_quiet (w : σ × Journal σ) (w' : σ) (cancels : Bool) {d : Deed}
    (quiet : d.word? = none) :
    listening (w', w.2 ++ [⟨d, w', cancels⟩]) = (w', (listening w).2) := by
  have silent : words [d] = [] := List.filterMap_cons_none quiet
  rw [listening_note, silent]
  simp [listening, heard]

theorem listening_call (deed : Except Fault α → Deed) (quiet : ∀ r, (deed r).word? = none)
    (call : Call σ α) : Call.Over listening (call.recorded deed) (Call.beside Outbox call) := by
  intro w
  simp only [Call.recorded]
  rw [listening_quiet w _ _ (quiet _)]
  rfl

theorem listening_backend (b : Backend σ) :
    Backend.Over listening b.recorded (b.beside Outbox) where
  ready _ := rfl
  endToken _ := rfl
  now w := by
    simp only [Backend.recorded]
    rw [listening_quiet w _ _ rfl]
    rfl
  contextSize := listening_call _ (fun _ => rfl) _
  clear := listening_call _ (fun _ => rfl) _
  tokenize _ := listening_call _ (fun _ => rfl) _
  decode _ _ := listening_call _ (fun _ => rfl) _
  sample _ _ _ := listening_call _ (fun _ => rfl) _
  piece _ := listening_call _ (fun _ => rfl) _
  layout _ := listening_call _ (fun _ => rfl) _

theorem listening_sink : Sink.Over listening (some (Sink.attentive (σ := σ)).recorded)
    (some (Engine.emitting .stays)) := by
  refine .some fun text last s => ?_
  have told : Sink.attentive.recorded text last s = .ok true ⟨s.gate, (s.world.1,
    s.world.2 ++ [⟨.tell text last (.ok true), s.world.1, s.gate.cancelled⟩])⟩ := rfl
  rw [told]
  simp only [Act.view, Station.project, listening_note, Engine.emitting]
  by_cases fragment : (!last && text != "") = true
  · have event : heard (words [.tell text last (.ok true)]) = [.delta text] := by
      simp [heard, words, Deed.word?, Word.event?, fragment]
    rw [if_pos fragment, event, ← Outbox.emit_holding]
    rfl
  · have event : heard (words [.tell text last (.ok true)]) = [] := by
      simp [heard, words, Deed.word?, Word.event?, fragment]
    rw [if_neg fragment, event, List.append_nil]
    rfl

namespace Engine

theorem listening_engine (e : Engine σ) :
    Engine.Over listening e.recorded (e.forListener .stays) :=
  ⟨⟨listening_backend e.backend, rfl, rfl, rfl⟩, rfl, rfl⟩

/-- The request as a stream of events asks for it: in one piece if tools are offered. -/
def streamed (r : Request) : Request := { r with stream := !isBuffered r }

def attended (e : Engine σ) (service : Service) (stamp : Stamp) (r : Request) : Act σ Result :=
  e.serve service stamp (streamed r) (some .attentive) fun _ => false

def told (e : Engine σ) (service : Service) (stamp : Stamp) (r : Request) (s : Station σ) :
    List Word :=
  words ((e.serveJournal service stamp (streamed r) (some .attentive) (fun _ => false) s).map
    Note.deed)

theorem reject_attentive (f : Fault) (s : Station σ) :
    reject (some .attentive) f s = .ok (.failed f) s := rfl

theorem serve_attentive (e : Engine σ) (service : Service) (stamp : Stamp) (r : Request)
    (watch : σ → Bool) (s : Station σ) :
    ∃ result t, e.serve service stamp r (some .attentive) watch s = .ok result t := by
  cases service with
  | text =>
    simp only [serve, complete]
    split
    · cases e.transcript (e.withDefaults r) with
      | error f => exact ⟨_, _, reject_attentive f s⟩
      | ok p => exact ⟨_, _, rfl⟩
    · exact ⟨_, _, rfl⟩
  | chat =>
    simp only [serve, chat]
    split
    · exact ⟨_, _, reject_attentive _ _⟩
    · exact ⟨_, _, rfl⟩

theorem eventsOf_eq (e : Engine σ) (service : Service) (stamp : Stamp) (l : Listener) (r : Request)
    (s : Station σ) : e.eventsOf service stamp l r s =
      match (e.forListener l).serve service stamp (streamed r) (some (emitting l))
        (fun w => w.2.closed) ⟨s.gate, (s.world, {})⟩ with
      | .ok result t =>
        ((t.world.2.emitAll l (closing (isBuffered r) result)).events, ⟨t.gate, t.world.1⟩)
      | .error f t =>
        ((t.world.2.emit l (.error .general ("Generation failed: " ++ f.message))).events,
          ⟨t.gate, t.world.1⟩) := by
  cases service <;> rfl

/-- A listener who stays hears what the sink of the run is told, and the closing events. -/
theorem stream_stays {e : Engine σ} {service : Service} {stamp : Stamp} {r : Request}
    {s t : Station σ} {result : Result} (run : e.attended service stamp r s = .ok result t) :
    e.stream service stamp .stays r s =
      (heard (e.told service stamp r s) ++ closing (isBuffered r) result, t) := by
  have seen := @serve_over _ _ listening _ _ _ _ (fun _ => false) (fun w => w.2.closed)
    (listening_engine e) listening_sink (fun _ => rfl) service stamp (streamed r) s.withJournal
  rw [show s.withJournal.project listening = ⟨s.gate, (s.world, {})⟩ from rfl,
    show e.recorded.serve service stamp (streamed r) (some Sink.attentive.recorded) _ s.withJournal =
      _ from serve_recorded run] at seen
  rw [stream, if_neg (by simp), eventsOf_eq, seen]
  simp only [Act.view, Station.project, listening, Outbox.emitAll_holding, Outbox.events_holding]
  rfl

theorem serve_protocol (e : Engine σ) (service : Service) (stamp : Stamp) (r : Request)
    (sink : Sink σ) (watch : σ → Bool) (s : Station σ) : ∃ fragments final,
    words ((e.serveJournal service stamp r (some sink) watch s).map Note.deed) =
        fragments ++ [final] ∧
      Protocol r.stream fragments final ((e.serve service stamp r (some sink) watch).settled s).1 := by
  have stream : (e.withDefaults r).stream = r.stream := by
    unfold withDefaults
    split <;> rfl
  rw [← stream]
  cases service with
  | text => exact (completeJournal_course e r (some sink) watch s).protocol
  | chat =>
    obtain ⟨outcome, served, result⟩ := chatJournal_course e stamp r (some sink) watch s
    obtain ⟨fragments, final, told, protocol⟩ := served.protocol
    refine ⟨fragments, final, told, ?_⟩
    rw [serve, result]
    exact protocol_answered protocol e stamp (e.withDefaults r)

/-- What is heard to the end of a run that comes to a result, when these tools were offered. Texts
come before the one event of the end; calls come in their place. -/
inductive Heard (tools : List Tool.Definition) : Result → List Event → Prop
  | failed (f : Fault) {texts : List String} (nonempty : "" ∉ texts)
    (inOne : tools ≠ [] → texts.length ≤ 1) :
    Heard tools (.failed f) (texts.map .delta ++ [.error f.kind.errorKind f.report])
  | called {c : Completion} (calls : c.toolCalls ≠ []) :
    Heard tools (.completed c)
      [.toolCalls c.toolCalls, .final c.finish ⟨c.promptTokens, c.tokens.length⟩ c]
  | written {c : Completion} (noCalls : c.toolCalls = []) {texts : List String}
    (nonempty : "" ∉ texts) (inOne : tools ≠ [] → texts.length ≤ 1)
    (whole : texts.flatMap String.toList = c.content.toList) :
    Heard tools (.completed c)
      (texts.map .delta ++ [.final c.finish ⟨c.promptTokens, c.tokens.length⟩ c])

theorem heard_fragments {fragments : List Word}
    (h : ∀ w ∈ fragments, w.last = false ∧ w.text ≠ "") :
    heard fragments = (fragments.map Word.text).map .delta := by
  induction fragments with
  | nil => rfl
  | cons w rest ih =>
    obtain ⟨inner, nonempty⟩ := h w (List.mem_cons_self ..)
    have event : w.event? = some (.delta w.text) := by simp [Word.event?, inner, nonempty]
    rw [heard, List.filterMap_cons_some event, ← heard, ih fun v hv => h v (.tail _ hv)]
    rfl

theorem heard_protocol {stream : Bool} {fragments : List Word} {final : Word}
    {outcome : Except Fault Result} (h : Protocol stream fragments final outcome) :
    heard (fragments ++ [final]) = (fragments.map Word.text).map .delta := by
  have ends : heard [final] = [] := by simp [heard, Word.event?, h.last]
  rw [← heard_fragments h.fragment, heard, List.filterMap_append, ← heard, ← heard, ends,
    List.append_nil]

theorem isBuffered_iff (r : Request) : isBuffered r = true ↔ r.offeredTools ≠ [] := by
  simp [isBuffered]

theorem heard_written {r : Request} {c : Completion} (noCalls : c.toolCalls = [])
    {texts : List String} (nonempty : "" ∉ texts) (silent : r.offeredTools ≠ [] → texts = [])
    (whole : r.offeredTools = [] → texts.flatMap String.toList = c.content.toList) :
    Heard r.offeredTools (.completed c)
      (texts.map .delta ++ closing (isBuffered r) (.completed c)) := by
  rw [closing, if_neg (not_not.2 noCalls)]
  by_cases tools : r.offeredTools = []
  · rw [if_neg (by simp [isBuffered, tools])]
    exact .written noCalls nonempty (absurd tools) (whole tools)
  · rw [silent tools]
    by_cases empty : c.content = ""
    · rw [if_neg (by simp [empty])]
      exact @Heard.written _ c noCalls [] (by simp) (by simp) (by simp [empty])
    · rw [if_pos ⟨(isBuffered_iff r).2 tools, empty⟩]
      exact @Heard.written _ c noCalls [c.content] (by simpa using Ne.symm empty) (by simp)
        (by simp)

theorem heard_stream {e : Engine σ} {service : Service} {stamp : Stamp} {r : Request}
    {s t : Station σ} {result : Result} (run : e.attended service stamp r s = .ok result t) :
    Heard r.offeredTools result (e.stream service stamp .stays r s).1 := by
  obtain ⟨fragments, final, told, protocol⟩ :=
    serve_protocol e service stamp (streamed r) .attentive (fun _ => false) s
  rw [Act.settled, show e.serve service stamp (streamed r) (some .attentive) _ s = _ from run]
    at protocol
  rw [stream_stays run, Engine.told, told, heard_protocol protocol]
  have nonempty : "" ∉ fragments.map Word.text := fun none => by
    obtain ⟨w, hw, empty⟩ := List.mem_map.1 none
    exact (protocol.fragment w hw).2 empty
  have silent (tools : r.offeredTools ≠ []) : fragments.map Word.text = [] := by
    rw [protocol.silent (by rw [streamed, (isBuffered_iff r).2 tools]; rfl), List.map_nil]
  cases result with
  | failed f => exact .failed f nonempty fun tools => by simp [silent tools]
  | completed c =>
    have answered : Answered service r.offeredTools c := serve_answered (r := streamed r) run
    by_cases calls : c.toolCalls = []
    · refine heard_written calls nonempty silent fun none => ?_
      have stream : (streamed r).stream = true := by simp [streamed, isBuffered, none]
      rw [List.flatMap_map]
      exact protocol.whole c rfl stream
    · rw [silent (answered.offered calls), closing, if_pos calls]
      exact .called calls

/-- Whatever the request and the backend, the events of a run of either service end with one event
that tells its result, and tell before it all of a text that was written. -/
theorem events_heard (e : Engine σ) (service : Service) (stamp : Stamp) (r : Request)
    (s : Station σ) : ∃ result t, e.attended service stamp r s = .ok result t ∧
      Heard r.offeredTools result (e.stream service stamp .stays r s).1 := by
  obtain ⟨result, t, run⟩ := serve_attentive e service stamp (streamed r) (fun _ => false) s
  exact ⟨result, t, run, heard_stream run⟩

end Engine

end Completions
