import Completions.Proofs.GateDiscipline

/-! Runs leave nothing behind. Whatever has been asked of an engine, and whatever sinks have asked of
it in the middle of their runs, the next run begins as on a fresh station. Main statement:
`steps_leave_nothing`. -/

namespace Completions

variable {σ : Type}

open Act

def Station.fresh (w : σ) : Station σ := { world := w }

def Act.attempt {α : Type} (act : Act σ α) : Act σ (Except Fault α) := fun s =>
  .ok (act.settled s).1 (act.settled s).2

namespace Engine

/-- What can be made of the services of an engine and of the world around it, by its callers and by
the sinks of its runs. -/
inductive Uses (e : Engine σ) : {α : Type} → Act σ α → Prop
  | pure {α : Type} (a : α) : Uses e (pure a : Act σ α)
  | refuse {α : Type} (f : Fault) : Uses e (Act.refuse f : Act σ α)
  | look {α : Type} (f : σ → α) : Uses e (Act.look f)
  | turn {α : Type} (f : σ → α × σ) : Uses e (Act.turn f)
  | bind {α β : Type} {x : Act σ α} {f : α → Act σ β} (first : Uses e x) (next : ∀ a, Uses e (f a)) :
    Uses e (x >>= f)
  | attempt {α : Type} {x : Act σ α} (act : Uses e x) : Uses e x.attempt
  | run (r : Request) {sink : Option (Sink σ)} (override : Option Prompt) (watch : σ → Bool)
    (calls : ∀ k ∈ sink, ∀ text last, Uses e (k text last)) : Uses e (e.run r sink override watch)
  | serve (service : Service) (stamp : Stamp) (r : Request) {sink : Option (Sink σ)}
    (watch : σ → Bool) (calls : ∀ k ∈ sink, ∀ text last, Uses e (k text last)) :
    Uses e (e.serve service stamp r sink watch)
  | streaming (service : Service) (stamp : Stamp) (l : Listener) (r : Request) :
    Uses e (e.streaming service stamp l r)
  | cancel : Uses e Engine.cancel
  | isGenerating : Uses e Engine.isGenerating
  | tokenize (content : Json) : Uses e (e.tokenize content)
  | tokenizeInPieces (content : Json) : Uses e (e.tokenizeInPieces content)
  | detokenize (tokens : Json) : Uses e (e.detokenize tokens)
  | shutdown : Uses e e.shutdown

/-- The gate is kept by all that can be made of the engine. The induction is on how it is made; a sink
is part of that. -/
theorem Uses.tidy {α : Type} {e : Engine σ} {act : Act σ α} (uses : e.Uses act) : act.Tidy := by
  induction uses with
  | pure a => exact tidy_pure a
  | refuse f => exact tidy_refuse f
  | look f => exact tidy_look f
  | turn f => exact tidy_turn f
  | bind first next ih ihs => exact ih.bind ihs
  | attempt act ih => exact ih
  | run r override watch calls ih => exact tidy_run ih e r override watch
  | serve service stamp r watch calls ih => exact tidy_serve ih e service stamp r watch
  | streaming service stamp l r => exact tidy_streaming e service stamp l r
  | cancel => exact tidy_cancel
  | isGenerating => exact .of_same fun _ => rfl
  | tokenize content => exact tidy_tokenize e content
  | tokenizeInPieces content => exact tidy_tokenizeInPieces e content
  | detokenize tokens => exact tidy_detokenize e tokens
  | shutdown => exact .of_same fun _ => rfl

structure Step (e : Engine σ) where
  {Answer : Type}
  act : Act σ Answer
  uses : e.Uses act

namespace Step

variable {e : Engine σ}

def take (step : e.Step) (s : Station σ) : Station σ := (step.act.settled s).2

def cancel : e.Step := ⟨Engine.cancel, .cancel⟩

theorem take_fresh (step : e.Step) (w : σ) :
    step.take (.fresh w) = .fresh (step.take (.fresh w)).world := by
  have gate : (step.take (.fresh w)).gate = .idle :=
    (step.uses.tidy (.fresh w) Gate.sound_idle).of_idle
  generalize step.take (.fresh w) = t at gate ⊢
  obtain ⟨g, w'⟩ := t
  obtain rfl : g = .idle := gate
  rfl

end Step

def after {e : Engine σ} (steps : List e.Step) (s : Station σ) : Station σ :=
  steps.foldl (fun s step => step.take s) s

theorem after_fresh {e : Engine σ} (steps : List e.Step) (w : σ) :
    ∃ w', after steps (.fresh w) = .fresh w' := by
  induction steps generalizing w with
  | nil => exact ⟨w, rfl⟩
  | cons step rest ih =>
    obtain ⟨w', same⟩ := ih (step.take (.fresh w)).world
    rw [← step.take_fresh w] at same
    exact ⟨w', same⟩

theorem cancels_fresh {e : Engine σ} (n : Nat) (w : σ) :
    after (List.replicate n (Step.cancel (e := e))) (.fresh w) = .fresh w := by
  induction n with
  | zero => rfl
  | succ n ih => exact ih

end Engine

def Act.cancelling {α : Type} (act : Act σ α) : Act σ α := do
  let outcome ← act.attempt
  Engine.cancel
  Act.ofExcept outcome

/-- The sink that also asks for the end of the run when it is told of the end. -/
def Sink.cancelling (k : Sink σ) : Sink σ := fun text last =>
  if last then (k text last).cancelling else k text last

theorem Station.cancel_idle {s : Station σ} (idle : s.gate = .idle) : s.cancel = s := by
  obtain ⟨g, w⟩ := s
  obtain rfl : g = .idle := idle
  rfl

namespace Act

variable {α β : Type}

theorem cancelling_ok {x : Act σ α} {s t : Station σ} {a : α} (h : x s = .ok a t) :
    x.cancelling s = .ok a t.cancel := by
  have outcome : x.attempt s = .ok (.ok a) t := by rw [attempt, settled_ok h]
  rw [cancelling, bind_ok outcome]
  rfl

theorem cancelling_error {x : Act σ α} {s t : Station σ} {f : Fault} (h : x s = .error f t) :
    x.cancelling s = .error f t.cancel := by
  have outcome : x.attempt s = .ok (.error f) t := by rw [attempt, settled_error h]
  rw [cancelling, bind_ok outcome]
  rfl

theorem settled_cancelling (x : Act σ α) (s : Station σ) :
    x.cancelling.settled s = ((x.settled s).1, (x.settled s).2.cancel) := by
  cases h : x s with
  | ok a t => rw [settled_ok (cancelling_ok h), settled_ok h]
  | error f t => rw [settled_error (cancelling_error h), settled_error h]

theorem cancelling_bind {x : Act σ α} {f : α → Act σ β}
    (blind : ∀ a s, f a s.cancel = (f a).cancelling s) :
    x.cancelling >>= f = (x >>= f).cancelling := by
  funext s
  cases h : x s with
  | ok a t =>
    rw [bind_ok (cancelling_ok h), blind]
    cases next : f a t with
    | ok b u => rw [cancelling_ok next, cancelling_ok ((bind_ok h).trans next)]
    | error e u => rw [cancelling_error next, cancelling_error ((bind_ok h).trans next)]
  | error e t => rw [bind_error (cancelling_error h), cancelling_error (bind_error h)]

theorem Tidy.cancelling_idle {x : Act σ α} (tidy : x.Tidy) {s : Station σ} (idle : s.gate = .idle) :
    x.cancelling s = x s := by
  have kept := tidy s (idle ▸ Gate.sound_idle)
  rw [idle] at kept
  cases h : x s with
  | ok a t =>
    rw [settled_ok h] at kept
    rw [cancelling_ok h, Station.cancel_idle kept.of_idle]
  | error f t =>
    rw [settled_error h] at kept
    rw [cancelling_error h, Station.cancel_idle kept.of_idle]

end Act

namespace Generation

theorem handOver_cancelling (k : Sink σ) (p : Progress) :
    handOver (some k.cancelling) p = handOver (some k) p := by
  unfold handOver
  cases p.unsent <;> rfl

variable (t : Task σ) (k : Sink σ)

theorem settle_cancelling (endToken : Option Int) (context fresh : Nat) (token : Int)
    (p : Progress) : settle { t with sink := some k.cancelling } endToken context fresh token p =
      settle { t with sink := some k } endToken context fresh token p := by
  simp only [settle, handOver_cancelling, endingAfter]

theorem loop_cancelling (b : Backend σ) (endToken : Option Int) (context budget : Nat)
    (p : Progress) : loop b { t with sink := some k.cancelling } endToken context budget p =
      loop b { t with sink := some k } endToken context budget p := by
  induction budget generalizing p with
  | zero => rfl
  | succ budget ih => simp only [loop, step, settle_cancelling, advance, ih]

theorem write_cancelling (b : Backend σ) (batch : Nat) (most : Option Int) (maxNewTokens : Json)
    (prompt : Prompt) : write b batch most maxNewTokens prompt { t with sink := some k.cancelling } =
      write b batch most maxNewTokens prompt { t with sink := some k } := by
  simp only [write, compose, loop_cancelling, flush, handOver_cancelling]

end Generation

namespace Controller

variable (c : Controller σ) {k : Sink σ}

theorem finishSink_cancelling (k : Sink σ) (text : String) :
    finishSink (some k.cancelling) text = (finishSink (some k) text).cancelling :=
  cancelling_bind fun _ _ => rfl

theorem deliver_cancelling (k : Sink σ) (d : Generation.Draft) :
    c.deliver (some k.cancelling) d = (c.deliver (some k) d).cancelling := by
  rw [deliver, finishSink_cancelling]
  exact cancelling_bind fun _ _ => rfl

theorem failed_cancelling (tidy : Sink.Tidy (some k)) (f : Fault) {s : Station σ}
    (idle : s.gate = .idle) : failed (some k.cancelling) f s = failed (some k) f s := by
  rw [failed, settled, finishSink_cancelling, (tidy_finishSink tidy "").cancelling_idle idle]
  rfl

theorem run_cancelling (tidy : Sink.Tidy (some k)) (r : Request) (override : Option Prompt)
    (watch : σ → Bool) {s : Station σ} (idle : s.gate = .idle) :
    c.run r (some k.cancelling) override watch s = c.run r (some k) override watch s := by
  unfold run
  cases c.receive r override s with
  | error f => exact failed_cancelling tidy f idle
  | ok prompt =>
    have write : Generation.write c.backend c.batch c.maxPromptTokens r.maxNewTokens prompt
        (task r (some k.cancelling) watch) = Generation.write c.backend c.batch c.maxPromptTokens
          r.maxNewTokens prompt (task r (some k) watch) :=
      Generation.write_cancelling (task r none watch) k c.backend c.batch c.maxPromptTokens
        r.maxNewTokens prompt
    simp only [generate, write, deliver_cancelling, settled_cancelling]
    generalize (Generation.write c.backend c.batch c.maxPromptTokens r.maxNewTokens prompt
      (task r (some k) watch)).settled s.enter = written
    obtain ⟨f | d, t⟩ := written
    · exact failed_cancelling tidy f rfl
    · dsimp only
      generalize (c.deliver (some k) d).settled t = delivered
      obtain ⟨f | completion, u⟩ := delivered <;> rfl

end Controller

namespace Engine

variable {k : Sink σ} {s : Station σ}

theorem run_cancelling (tidy : Sink.Tidy (some k)) (idle : s.gate = .idle) (e : Engine σ)
    (r : Request) (override : Option Prompt) (watch : σ → Bool) :
    e.run r (some k.cancelling) override watch s = e.run r (some k) override watch s := by
  rw [run, Controller.run_cancelling e.controller tidy r override watch idle]
  rfl

theorem reject_cancelling (tidy : Sink.Tidy (some k)) (idle : s.gate = .idle) (f : Fault) :
    reject (some k.cancelling) f s = reject (some k) f s := by
  have asked : reject (some k.cancelling) f = (reject (some k) f).cancelling := by
    rw [reject, Controller.finishSink_cancelling]
    exact cancelling_bind fun _ _ => rfl
  rw [asked, (tidy_reject tidy f).cancelling_idle idle]

theorem serve_cancelling (tidy : Sink.Tidy (some k)) (idle : s.gate = .idle) (e : Engine σ)
    (service : Service) (stamp : Stamp) (r : Request) (watch : σ → Bool) :
    e.serve service stamp r (some k.cancelling) watch s =
      e.serve service stamp r (some k) watch s := by
  cases service with
  | text =>
    simp only [serve, complete]
    split
    · cases e.transcript (e.withDefaults r) with
      | error f => exact reject_cancelling tidy idle f
      | ok p => exact run_cancelling tidy idle e _ _ watch
    · exact run_cancelling tidy idle e _ _ watch
  | chat =>
    have laid : Tidy (e.chatPrompt (e.withDefaults r)) :=
      (tidy_ofExcept _).bind fun _ => tidy_prompt e _
    have kept := laid s (idle ▸ Gate.sound_idle)
    rw [idle] at kept
    simp only [serve, chat]
    cases h : e.chatPrompt (e.withDefaults r) s with
    | error f t =>
      rw [settled_error h] at kept
      exact reject_cancelling tidy kept.of_idle f
    | ok p t =>
      rw [settled_ok h] at kept
      simp only [run_cancelling tidy kept.of_idle]

/-- A sink that does nothing but use the engine. -/
structure Guest (e : Engine σ) where
  sink : Sink σ
  uses : ∀ text last, e.Uses (sink text last)

def Guest.cancelling {e : Engine σ} (guest : e.Guest) : e.Guest where
  sink := guest.sink.cancelling
  uses text last := by
    rw [Sink.cancelling]
    split
    · refine .bind (.attempt (guest.uses text last)) fun outcome => .bind .cancel fun _ => ?_
      cases outcome with
      | ok goOn => exact .pure goOn
      | error f => exact .refuse f
    · exact guest.uses text last

theorem Guest.tidy {e : Engine σ} (guest : e.Guest) : Sink.Tidy (some guest.sink) := by
  intro k only text last
  rw [← Option.mem_some_iff.1 only]
  exact (guest.uses text last).tidy

end Engine

section Event

variable {ε : Type}

/-- The engine beside which an event is kept; the event may be set as a token is sampled. -/
def Engine.withEvent (e : Engine σ) (set : ε → ε) : Engine (σ × ε) where
  controller :=
    { (e.beside ε).controller with
      backend :=
        { (e.beside ε).backend with
          sample := fun params grammar schema w =>
            let r := e.backend.sample params grammar schema w.1
            ⟨r.outcome, (r.world, set w.2), r.cancels⟩ } }
  config := e.config
  catalog := e.catalog

def Sink.withEvent (set : String → Bool → ε → ε) (k : Sink σ) : Sink (σ × ε) := fun text last s =>
  match k text last (s.project Prod.fst) with
  | .ok goOn t => .ok goOn ⟨t.gate, (t.world, set text last s.world.2)⟩
  | .error f t => .error f ⟨t.gate, (t.world, set text last s.world.2)⟩

theorem withEvent_call_over {α : Type} (call : Call σ α) :
    Call.Over Prod.fst (Call.beside ε call) call := fun _ => rfl

theorem withEvent_engine_over (e : Engine σ) (set : ε → ε) :
    Engine.Over Prod.fst (e.withEvent set) e where
  controller :=
    { backend :=
        { ready := fun _ => rfl
          endToken := fun _ => rfl
          now := fun _ => rfl
          contextSize := withEvent_call_over _
          clear := withEvent_call_over _
          tokenize := fun _ => withEvent_call_over _
          decode := fun _ _ => withEvent_call_over _
          sample := fun _ _ _ _ => rfl
          piece := fun _ => withEvent_call_over _
          layout := fun _ => withEvent_call_over _ }
      batch := rfl
      rejectWhenBusy := rfl
      maxPromptTokens := rfl }
  config := rfl
  catalog := rfl

theorem withEvent_sink_over (set : String → Bool → ε → ε) (sink : Option (Sink σ)) :
    Sink.Over Prod.fst (sink.map (Sink.withEvent set)) sink := by
  cases sink with
  | none => exact .none
  | some k =>
    refine .some fun text last s => ?_
    rw [Sink.withEvent]
    cases k text last (s.project Prod.fst) <;> rfl

end Event

namespace Engine

/-- Runs on the one station are runs on the other, in what they come to and in all they do. -/
structure SameRuns (e : Engine σ) (s t : Station σ) : Prop where
  run : ∀ r sink override watch,
    e.controller.run r sink override watch s = e.controller.run r sink override watch t
  journal : ∀ r sink override watch,
    e.controller.journal r sink override watch s = e.controller.journal r sink override watch t
  serve : ∀ service stamp r sink watch,
    e.serve service stamp r sink watch s = e.serve service stamp r sink watch t
  serveJournal : ∀ service stamp r sink watch,
    e.serveJournal service stamp r sink watch s = e.serveJournal service stamp r sink watch t
  stream : ∀ service stamp l r, e.stream service stamp l r s = e.stream service stamp l r t

theorem SameRuns.refl (e : Engine σ) (s : Station σ) : e.SameRuns s s where
  run _ _ _ _ := rfl
  journal _ _ _ _ := rfl
  serve _ _ _ _ _ := rfl
  serveJournal _ _ _ _ _ := rfl
  stream _ _ _ _ := rfl

/-- Whatever has been asked of an engine, no run is going on, nobody is asked to end, and the next run
is one on a fresh station. Requests to end that come without a run change nothing, nor do those that
a sink makes when it is told of the end; and an event is seen by none but the runs it is given to. -/
theorem steps_leave_nothing (e : Engine σ) (steps : List e.Step) (w : σ) :
    let s := after steps (.fresh w)
    s.gate.running = false ∧ s.gate.cancelled = false ∧ e.SameRuns s (.fresh s.world) ∧
      (∀ n, after (List.replicate n (Step.cancel (e := e))) s = s) ∧
      (∀ r override watch (guest : e.Guest),
        e.run r (some guest.cancelling.sink) override watch s =
          e.run r (some guest.sink) override watch s) ∧
      (∀ service stamp r watch (guest : e.Guest),
        e.serve service stamp r (some guest.cancelling.sink) watch s =
          e.serve service stamp r (some guest.sink) watch s) ∧
      (∀ {ε : Type} (event : ε) hook set r sink override watch,
        view Prod.fst ((e.withEvent hook).run r (sink.map (Sink.withEvent set)) override
          (fun w => watch w.1) ⟨s.gate, (s.world, event)⟩) = e.run r sink override watch s) ∧
      ∀ {ε : Type} (event : ε) hook set service stamp r sink watch,
        view Prod.fst ((e.withEvent hook).serve service stamp r (sink.map (Sink.withEvent set))
          (fun w => watch w.1) ⟨s.gate, (s.world, event)⟩) = e.serve service stamp r sink watch s := by
  obtain ⟨w', fresh⟩ := after_fresh steps w
  intro s
  rw [show s = .fresh w' from fresh]
  refine ⟨rfl, rfl, .refl e _, fun n => cancels_fresh n w', ?_, ?_, ?_, ?_⟩
  · exact fun r override watch guest => run_cancelling guest.tidy rfl e r override watch
  · exact fun service stamp r watch guest => serve_cancelling guest.tidy rfl e service stamp r watch
  · intro ε event hook set r sink override watch
    exact (engineRun_over (withEvent_engine_over e hook) (withEvent_sink_over set sink)
      (fun _ => rfl) r override _).symm
  · intro ε event hook set service stamp r sink watch
    exact (serve_over (withEvent_engine_over e hook) (withEvent_sink_over set sink) (fun _ => rfl)
      service stamp r _).symm

end Engine

end Completions
