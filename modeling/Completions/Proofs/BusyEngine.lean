import Mathlib.Tactic.Choose
import Completions.Proofs.Preparation

/-! An engine that turns away runs while one is going on. A sink may ask for further runs in the middle
of its own: each is refused, and to the run that is going on it is as if nobody had asked. What that
run sees of the world is given by `π`. Main statement: `visits_unseen`. -/

namespace Completions

variable {σ τ α β : Type} {π : τ → σ}

open Act

section Journals

def Note.seen (π : τ → σ) (n : Note τ) : Note σ := ⟨n.deed, π n.world, n.cancels⟩

def seen (π : τ → σ) (w : τ × Journal τ) : σ × Journal σ := (π w.1, w.2.map (Note.seen π))

theorem deeds_seen (notes : Journal τ) :
    (notes.map (Note.seen π)).map Note.deed = notes.map Note.deed := by
  rw [List.map_map]
  rfl

theorem Call.Over.recorded {large : Call τ α} {small : Call σ α} (h : Call.Over π large small)
    (deed : Except Fault α → Deed) :
    Call.Over (seen π) (large.recorded deed) (small.recorded deed) := by
  intro w
  simp only [Call.recorded, seen, h w.1, List.map_append]
  rfl

theorem Backend.Over.recorded {b : Backend τ} {b₀ : Backend σ} (h : Backend.Over π b b₀) :
    Backend.Over (seen π) b.recorded b₀.recorded where
  ready w := h.ready w.1
  endToken w := h.endToken w.1
  now w := by
    simp only [Backend.recorded, seen, h.now w.1, List.map_append]
    rfl
  contextSize := h.contextSize.recorded _
  clear := h.clear.recorded _
  tokenize text := (h.tokenize text).recorded _
  decode tokens past := (h.decode tokens past).recorded _
  sample params grammar schema := (h.sample params grammar schema).recorded _
  piece token := (h.piece token).recorded _
  layout call := (h.layout call).recorded _

theorem Sink.Over.recorded {sink : Option (Sink τ)} {sink₀ : Option (Sink σ)}
    (h : Sink.Over π sink sink₀) :
    Sink.Over (seen π) (sink.map Sink.recorded) (sink₀.map Sink.recorded) := by
  cases h with
  | none => exact .none
  | @some k k₀ h =>
    refine .some fun text last s => ?_
    have told : k₀ text last ⟨s.gate, π s.world.1⟩ = view π (k text last ⟨s.gate, s.world.1⟩) :=
      h text last ⟨s.gate, s.world.1⟩
    simp only [Sink.recorded, Station.project, seen, told]
    cases k text last ⟨s.gate, s.world.1⟩ with
    | ok goOn t => simp [view, Station.project, seen, Note.seen]
    | error f t => simp [view, Station.project, seen, Note.seen]

theorem Controller.Over.recorded {c : Controller τ} {c₀ : Controller σ}
    (h : Controller.Over π c c₀) : Controller.Over (seen π) c.recorded c₀.recorded :=
  ⟨h.backend.recorded, h.batch, h.rejectWhenBusy, h.maxPromptTokens⟩

theorem Engine.Over.recorded {e : Engine τ} {e₀ : Engine σ} (h : Engine.Over π e e₀) :
    Engine.Over (seen π) e.recorded e₀.recorded :=
  ⟨h.controller.recorded, h.config, h.catalog⟩

variable {sink : Option (Sink τ)} {sink₀ : Option (Sink σ)} {watch : τ → Bool} {watch₀ : σ → Bool}

theorem Controller.journal_over {c : Controller τ} {c₀ : Controller σ}
    (hc : Controller.Over π c c₀) (hs : Sink.Over π sink sink₀) (hw : ∀ w, watch₀ (π w) = watch w)
    (r : Request) (override : Option Prompt) (s : Station τ) :
    c₀.journal r sink₀ override watch₀ (s.project π) =
      (c.journal r sink override watch s).map (Note.seen π) := by
  have through := @Controller.run_over _ _ (seen π) _ _ _ _ (fun w => watch w.1) (fun w => watch₀ w.1)
    hc.recorded hs.recorded (fun w => hw w.1) r override s.withJournal
  exact congrArg (fun out => out.2.world.2) through

theorem Engine.serveJournal_over {e : Engine τ} {e₀ : Engine σ} (he : Engine.Over π e e₀)
    (hs : Sink.Over π sink sink₀) (hw : ∀ w, watch₀ (π w) = watch w) (service : Engine.Service)
    (stamp : Stamp) (r : Request) (s : Station τ) :
    e₀.serveJournal service stamp r sink₀ watch₀ (s.project π) =
      (e.serveJournal service stamp r sink watch s).map (Note.seen π) := by
  have through := (@Engine.serve_over _ _ (seen π) _ _ _ _ (fun w => watch w.1) (fun w => watch₀ w.1)
    he.recorded hs.recorded (fun w => hw w.1) service stamp r).settled s.withJournal
  exact congrArg (fun out => out.2.world.2) through

end Journals

namespace Act

/-- While a run is going on, the act leaves the gate, and of the world what is seen through `π`. -/
def Unseen (π : τ → σ) (act : Act τ α) : Prop :=
  ∀ s, s.gate.running = true → (act.settled s).2.project π = s.project π

/-- While a run is going on, the act is unseen and does not fail. -/
def Discreet (π : τ → σ) (act : Act τ α) : Prop :=
  ∀ s, s.gate.running = true → ∃ a t, act s = .ok a t ∧ t.project π = s.project π

theorem running_of_project {s t : Station τ} (same : t.project π = s.project π)
    (running : s.gate.running = true) : t.gate.running = true := by
  have gate : t.gate = s.gate := congrArg (fun u : Station σ => u.gate) same
  rwa [gate]

theorem unseen_pure (a : α) : Unseen π (pure a : Act τ α) := fun _ _ => rfl

theorem unseen_ofExcept (r : Except Fault α) : Unseen π (ofExcept r : Act τ α) := by
  cases r with
  | ok a => exact unseen_pure a
  | error f => exact fun _ _ => rfl

theorem Unseen.bind {x : Act τ α} {f : α → Act τ β} (hx : Unseen π x)
    (hf : ∀ a, Unseen π (f a)) : Unseen π (x >>= f) := by
  intro s running
  refine bind_leaves (P := fun t => t.project π = s.project π) (hx s running) fun a t first => ?_
  exact (hf a t (running_of_project first running)).trans first

theorem Unseen.ite {p : Prop} [Decidable p] {x y : Act τ α} (hx : Unseen π x) (hy : Unseen π y) :
    Unseen π (if p then x else y) := by
  split
  · exact hx
  · exact hy

theorem Discreet.bind {x : Act τ α} {f : α → Act τ β} (hx : Discreet π x)
    (hf : ∀ a, Discreet π (f a)) : Discreet π (x >>= f) := by
  intro s running
  obtain ⟨a, t, first, same⟩ := hx s running
  obtain ⟨b, u, next, same'⟩ := hf a t (running_of_project same running)
  exact ⟨b, u, (bind_ok first).trans next, same'.trans same⟩

def whileRunning (act : Act τ Unit) : Act τ Unit := do
  if ← Engine.isGenerating then act else pure ()

theorem Discreet.over_nothing {act : Act τ Unit} (h : Discreet π act) :
    Act.Over π (whileRunning act) (pure ()) := by
  intro s
  have asked : whileRunning act s = if s.gate.running then act s else .ok () s := by
    rw [whileRunning, bind_ok (show Engine.isGenerating s = .ok s.gate.running s from rfl)]
    split <;> rfl
  rw [asked]
  cases running : s.gate.running with
  | false => rfl
  | true =>
    obtain ⟨_, t, told, same⟩ := h s running
    rw [if_pos rfl, told, view, same]
    rfl

end Act

def Sink.Discreet (π : τ → σ) (sink : Option (Sink τ)) : Prop :=
  ∀ k ∈ sink, ∀ text last, Act.Discreet π (k text last)

namespace Controller

variable {c : Controller τ} {sink : Option (Sink τ)}

theorem finishSink_discreet (discreet : Sink.Discreet π sink) (text : String) :
    Act.Discreet π (finishSink sink text) := by
  cases sink with
  | none => exact fun s _ => ⟨(), s, rfl, rfl⟩
  | some k =>
    have told := discreet k rfl text true
    exact told.bind fun _ s _ => ⟨(), s, rfl, rfl⟩

/-- Whatever is asked of a controller in the middle of a run fails, and its sink is told so. -/
theorem run_busy (c : Controller τ) (discreet : Sink.Discreet π sink) (r : Request)
    (override : Option Prompt) (watch : τ → Bool) {s : Station τ} (running : s.gate.running = true) :
    ∃ f t, c.receive r override s = .error f ∧ c.run r sink override watch s = (.failed f, t) ∧
      t.project π = s.project π := by
  cases received : c.receive r override s with
  | ok prompt =>
    have idle := (receive_eq_ok_iff.1 received).2.2.2
    cases running.symm.trans idle
  | error f =>
    obtain ⟨_, t, told, same⟩ := finishSink_discreet discreet "" s running
    refine ⟨f, t, rfl, ?_, same⟩
    rw [run, received]
    simp only [failed, settled, told]

theorem journal_busy (c : Controller τ) (r : Request) (sink : Option (Sink τ))
    (override : Option Prompt) (watch : τ → Bool) {s : Station (τ × Journal τ)}
    {notes : Journal τ} {result : Result} (running : s.gate.running = true)
    (ran : Ran c r override sink watch s notes result) : ∀ n ∈ notes, n.deed.kind = .tell := by
  cases ran with
  | refused received told => exact fun n hn => told.kinds _ (List.mem_map_of_mem hn)
  | generated received generated =>
    have idle := (receive_eq_ok_iff.1 received).2.2.2
    cases running.symm.trans idle

theorem receive_busy {r : Request} {override : Option Prompt} {prompt : Prompt} {s : Station τ}
    (rejects : c.rejectWhenBusy = true) (running : s.gate.running = true)
    (given : override.or r.prompt = some prompt) (valid : r.validate = .ok ())
    (ready : c.backend.ready s.world = true) :
    c.receive r override s = .error Cause.busy.fault := by
  simp only [receive, given, valid, ready, running, rejects]
  rfl

end Controller

namespace Engine

variable {e : Engine τ} {e₀ : Engine σ} {sink : Option (Sink τ)} {s : Station τ}

def LaysUnseen (π : τ → σ) (e : Engine τ) : Prop :=
  ∀ call w, π (e.backend.layout call w).world = π w ∧ (e.backend.layout call w).cancels = false

theorem nativeLayout_unseen (lays : LaysUnseen π e) (r : Request) :
    Unseen π (e.nativeLayout r) := by
  intro s _
  obtain ⟨world, cancels⟩ := lays (e.templateCall r) s.world
  rw [nativeLayout_leaves, settled_ask, cancels]
  simp only [Station.project, world]
  rfl

theorem prompt_unseen (lays : LaysUnseen π e) (r : Request) : Unseen π (e.prompt r) := by
  unfold prompt
  refine Unseen.ite ((nativeLayout_unseen lays r).bind fun native => ?_)
    ((unseen_pure none).bind fun native => ?_)
  all_goals
    cases native with
    | none => exact unseen_ofExcept _
    | some p => exact unseen_pure p

theorem prepare_unseen (lays : LaysUnseen π e) (r : Request) (service : Service) :
    Unseen π (e.prepare r service) := by
  cases service with
  | text => exact (unseen_ofExcept _).ite (unseen_pure none)
  | chat =>
    have laid := (unseen_ofExcept (checkChat r)).bind fun _ => prompt_unseen lays r
    exact laid.bind fun p => unseen_pure (some (Prompt.text p))

theorem serve_busy (lays : LaysUnseen π e) (discreet : Sink.Discreet π sink) (service : Service)
    (stamp : Stamp) (r : Request) (watch : τ → Bool) (running : s.gate.running = true) :
    ∃ f t, e.serve service stamp r sink watch s = .ok (.failed f) t ∧
      t.project π = s.project π := by
  have left := prepare_unseen lays (e.withDefaults r) service s running
  cases prepared : e.prepare (e.withDefaults r) service s with
  | error f t =>
    rw [settled, prepared] at left
    obtain ⟨_, u, told, same⟩ :=
      Controller.finishSink_discreet discreet "" t (running_of_project left running)
    exact ⟨f, u, (serve_unprepared prepared stamp sink watch).trans (reject_told told),
      same.trans left⟩
  | ok override t =>
    rw [settled, prepared] at left
    obtain ⟨f, u, -, ran, same⟩ := e.controller.run_busy discreet (e.withDefaults r) override watch
      (running_of_project left running)
    refine ⟨f, u, ?_, same.trans left⟩
    rw [serve_prepared prepared, ran, conclude_failed]

theorem serveJournal_busy (lays : LaysUnseen π e) (service : Service) (stamp : Stamp) (r : Request)
    (sink : Option (Sink τ)) (watch : τ → Bool) (running : s.gate.running = true) :
    ∀ n ∈ e.serveJournal service stamp r sink watch s, n.deed.kind ∈ [Deed.Kind.layout, .tell] := by
  obtain ⟨ns, ms, journal, prepares, continues⟩ :=
    serveJournal_course e service stamp r sink watch s
  have lays' : LaysUnseen (fun w : τ × Journal τ => π w.1) e.recorded := fun call w => lays call w.1
  have left := prepare_unseen lays' (e.withDefaults r) service s.withJournal running
  rw [settled] at left
  have tells : ∀ n ∈ ms, n.deed.kind = .tell := by
    generalize e.recorded.prepare (e.withDefaults r) service s.withJournal = prepared at continues left
    cases continues with
    | rejected f t told => exact fun n hn => told.kinds _ (List.mem_map_of_mem hn)
    | ran override t ran =>
      exact Controller.journal_busy e.controller _ sink override watch
        (running_of_project left running) ran
  rw [journal]
  intro n hn
  rcases List.mem_append.1 hn with hn | hn
  · simp [prepares.laidOut _ (List.mem_map_of_mem hn)]
  · simp [tells n hn]

/-- What may be done in the middle of a run: further runs and services are asked for, with sinks that do
the same, and what else is done is discreet. -/
inductive Intrudes (π : τ → σ) (e : Engine τ) : {α : Type} → Act τ α → Prop
  | own {α : Type} {act : Act τ α} (discreet : Discreet π act) : Intrudes π e act
  | bind {α β : Type} {x : Act τ α} {f : α → Act τ β} (first : Intrudes π e x)
    (next : ∀ a, Intrudes π e (f a)) : Intrudes π e (x >>= f)
  | run (r : Request) {sink : Option (Sink τ)} (override : Option Prompt) (watch : τ → Bool)
    (calls : ∀ k ∈ sink, ∀ text last, Intrudes π e (k text last)) :
    Intrudes π e (e.run r sink override watch)
  | serve (service : Service) (stamp : Stamp) (r : Request) {sink : Option (Sink τ)}
    (watch : τ → Bool) (calls : ∀ k ∈ sink, ∀ text last, Intrudes π e (k text last)) :
    Intrudes π e (e.serve service stamp r sink watch)

/-- The induction is on how the act is made, the sinks of its runs included. -/
theorem Intrudes.discreet (lays : LaysUnseen π e) {act : Act τ α} (h : Intrudes π e act) :
    Discreet π act := by
  induction h with
  | own discreet => exact discreet
  | bind first next ih ihs => exact ih.bind ihs
  | run r override watch calls ih =>
    intro s running
    obtain ⟨f, t, -, ran, same⟩ := e.controller.run_busy ih r override watch running
    refine ⟨.failed f, t, ?_, same⟩
    rw [Engine.run, ran]
  | serve service stamp r watch calls ih =>
    intro s running
    obtain ⟨f, t, served, same⟩ := serve_busy lays ih service stamp r watch running
    exact ⟨.failed f, t, served, same⟩

/-- The first act is the second with intrusions, which are made only while a run is going on. What the
two do alike depends on what is seen through `π` alone. -/
inductive Visits (π : τ → σ) (e : Engine τ) : {α : Type} → Act τ α → Act τ α → Prop
  | own {α : Type} {x : Act τ α} {x₀ : Act σ α} (through : Act.Over π x x₀) : Visits π e x x
  | bind {α β : Type} {x y : Act τ α} {f g : α → Act τ β} (first : Visits π e x y)
    (next : ∀ a, Visits π e (f a) (g a)) : Visits π e (x >>= f) (y >>= g)
  | call {act : Act τ Unit} (intrudes : Intrudes π e act) : Visits π e (whileRunning act) (pure ())

theorem Visits.over (lays : LaysUnseen π e) {x y : Act τ α} (h : Visits π e x y) :
    ∃ z : Act σ α, Act.Over π x z ∧ Act.Over π y z := by
  induction h with
  | own through => exact ⟨_, through, through⟩
  | bind first next ih ihs =>
    obtain ⟨z, hx, hy⟩ := ih
    choose g hf hg using ihs
    exact ⟨z >>= g, hx.bind hf, hy.bind hg⟩
  | call intrudes => exact ⟨pure (), (intrudes.discreet lays).over_nothing, over_pure ()⟩

def SinkVisits (π : τ → σ) (e : Engine τ) (visiting quiet : Sink τ) : Prop :=
  ∀ text last, Visits π e (visiting text last) (quiet text last)

theorem SinkVisits.over (lays : LaysUnseen π e) {visiting quiet : Sink τ}
    (h : SinkVisits π e visiting quiet) : ∃ k₀ : Sink σ,
      Sink.Over π (some visiting) (some k₀) ∧ Sink.Over π (some quiet) (some k₀) := by
  have through (text : String) (last : Bool) := (h text last).over lays
  choose k₀ hv hq using through
  exact ⟨k₀, .some hv, .some hq⟩

/-- The call is refused: it fails, nothing is asked of the model, and the gate stays as it is, and so
does what is seen of the world. -/
structure Refused (π : τ → σ) (s : Station τ) (out : EStateM.Result Fault (Station τ) Result)
    (notes : Journal τ) : Prop where
  failed : ∃ f t, out = .ok (.failed f) t ∧ t.gate = s.gate ∧ π t.world = π s.world
  silent : ∀ n ∈ notes, n.deed.kind ∈ [Deed.Kind.layout, .tell]

/-- Both come to the same, leave the same gate and the same world as it is seen, and have done the
same to the outside. -/
structure Alike (π : τ → σ) (out out' : EStateM.Result Fault (Station τ) Result)
    (notes notes' : Journal τ) : Prop where
  outcome : view π out = view π out'
  deeds : notes.map Note.deed = notes'.map Note.deed

/-- The engine refuses runs while another is going on, and a run sees of its world no more than an
engine of the small world. -/
structure Hosts (π : τ → σ) (e : Engine τ) (e₀ : Engine σ) : Prop where
  through : Engine.Over π e e₀
  lays : LaysUnseen π e
  rejects : e.controller.rejectWhenBusy = true

theorem refused_of_project {out : EStateM.Result Fault (Station τ) Result} {notes : Journal τ}
    {f : Fault} {t : Station τ} (failed : out = .ok (.failed f) t)
    (same : t.project π = s.project π)
    (silent : ∀ n ∈ notes, n.deed.kind ∈ [Deed.Kind.layout, .tell]) : Refused π s out notes where
  failed := ⟨f, t, failed, congrArg (fun u : Station σ => u.gate) same,
    congrArg (fun u : Station σ => u.world) same⟩
  silent

/-- In the middle of a run every further run is refused, because the engine is busy if for no other
reason, and the run that is going on is not asked to end nor has its request to end forgotten. A run
whose sink intrudes is the run whose sink does not, in what it comes to and in all it does. -/
theorem visits_unseen (hosts : Hosts π e e₀) :
    (∀ sink : Option (Sink τ), (∀ k ∈ sink, ∀ text last, Intrudes π e (k text last)) →
      ∀ s : Station τ, s.gate.running = true →
        (∀ r override watch, Refused π s (e.run r sink override watch s)
          (e.controller.journal r sink override watch s)) ∧
        (∀ r override watch prompt, override.or r.prompt = some prompt → r.validate = .ok () →
          e.backend.ready s.world = true →
          ∃ t, e.run r sink override watch s = .ok (.failed Cause.busy.fault) t) ∧
        (∀ service stamp r watch, Refused π s (e.serve service stamp r sink watch s)
          (e.serveJournal service stamp r sink watch s))) ∧
    ∀ visiting quiet : Sink τ, SinkVisits π e visiting quiet →
      ∀ (watch : τ → Bool) (watch₀ : σ → Bool), (∀ w, watch₀ (π w) = watch w) → ∀ s,
        (∀ r override, Alike π (e.run r (some visiting) override watch s)
          (e.run r (some quiet) override watch s)
          (e.controller.journal r (some visiting) override watch s)
          (e.controller.journal r (some quiet) override watch s)) ∧
        (∀ service stamp r, Alike π (e.serve service stamp r (some visiting) watch s)
          (e.serve service stamp r (some quiet) watch s)
          (e.serveJournal service stamp r (some visiting) watch s)
          (e.serveJournal service stamp r (some quiet) watch s)) := by
  have discreet {sink : Option (Sink τ)}
      (calls : ∀ k ∈ sink, ∀ text last, Intrudes π e (k text last)) : Sink.Discreet π sink :=
    fun k hk text last => (calls k hk text last).discreet hosts.lays
  refine ⟨fun sink calls s running => ⟨fun r override watch => ?_,
    fun r override watch prompt given valid ready => ?_, fun service stamp r watch => ?_⟩,
    fun visiting quiet visits watch watch₀ seen s => ?_⟩
  · obtain ⟨f, t, -, ran, same⟩ := e.controller.run_busy (discreet calls) r override watch running
    have tells := Controller.journal_busy e.controller r sink override watch (s := s.withJournal)
      running (Controller.journal_course e.controller r override sink watch s)
    refine refused_of_project (f := f) (t := t) ?_ same fun n hn => ?_
    · rw [Engine.run, ran]
    · simp [tells n hn]
  · obtain ⟨f, t, received, ran, -⟩ :=
      e.controller.run_busy (discreet calls) r override watch running
    have busy := Controller.receive_busy hosts.rejects running given valid ready
    obtain rfl : Cause.busy.fault = f := Except.error.inj (busy.symm.trans received)
    refine ⟨t, ?_⟩
    rw [Engine.run, ran]
  · obtain ⟨f, t, served, same⟩ :=
      serve_busy hosts.lays (discreet calls) service stamp r watch running
    exact refused_of_project served same
      (serveJournal_busy hosts.lays service stamp r sink watch running)
  -- Both sinks are the one sink `k₀` of the bare engine once what the visits leave is put aside.
  · obtain ⟨k₀, hv, hq⟩ := visits.over hosts.lays
    refine ⟨fun r override => ⟨?_, ?_⟩, fun service stamp r => ⟨?_, ?_⟩⟩
    · have first := engineRun_over hosts.through hv seen r override s
      have second := engineRun_over hosts.through hq seen r override s
      exact first.symm.trans second
    · have first := Controller.journal_over hosts.through.controller hv seen r override s
      have second := Controller.journal_over hosts.through.controller hq seen r override s
      rw [← deeds_seen (π := π), ← first, second, deeds_seen]
    · have first := serve_over hosts.through hv seen service stamp r s
      have second := serve_over hosts.through hq seen service stamp r s
      exact first.symm.trans second
    · have first := serveJournal_over hosts.through hv seen service stamp r s
      have second := serveJournal_over hosts.through hq seen service stamp r s
      rw [← deeds_seen (π := π), ← first, second, deeds_seen]

theorem beside_over (e : Engine σ) (ε : Type) : Engine.Over Prod.fst (e.beside ε) e where
  controller :=
    { backend :=
        { ready := fun _ => rfl
          endToken := fun _ => rfl
          now := fun _ => rfl
          contextSize := fun _ => rfl
          clear := fun _ => rfl
          tokenize := fun _ _ => rfl
          decode := fun _ _ _ => rfl
          sample := fun _ _ _ _ => rfl
          piece := fun _ _ => rfl
          layout := fun _ _ => rfl }
      batch := rfl
      rejectWhenBusy := rfl
      maxPromptTokens := rfl }
  config := rfl
  catalog := rfl

end Engine

/-- An engine that refuses runs while another is going on, on the backend of the rehearsal without a
template; beside it calls are counted. -/
def countedEngine : Engine (Rehearsal.World × Nat) :=
  Engine.beside
    { controller :=
        { rehearsed with
          backend := { Rehearsal.backend with layout := fun _ w => ⟨.ok none, w, false⟩ }
          rejectWhenBusy := true }
      config := {} } Nat

def counting : Sink (Rehearsal.World × Nat) := fun _ _ =>
  Act.turn fun w => (true, (w.1, w.2 + 1))

def runAgain : Act (Rehearsal.World × Nat) Unit := do
  let _ ← countedEngine.run rehearsedRequest (some counting) none fun _ => false
  pure ()

def restless : Sink (Rehearsal.World × Nat) := fun _ _ => do
  whileRunning runAgain
  pure true

def patient : Sink (Rehearsal.World × Nat) := fun _ _ => do
  pure ()
  pure true

def countedStation : Station (Rehearsal.World × Nat) where
  world := (rehearsedStation.world, 0)

theorem visits_unseen_rehearsed :
    (∃ t, countedEngine.run rehearsedRequest (some counting) none (fun _ => false)
      countedStation.enter = .ok (.failed Cause.busy.fault) t) ∧
    Engine.Alike Prod.fst
      (countedEngine.run streamedRequest (some restless) none (fun _ => false) countedStation)
      (countedEngine.run streamedRequest (some patient) none (fun _ => false) countedStation)
      (countedEngine.controller.journal streamedRequest (some restless) none (fun _ => false)
        countedStation)
      (countedEngine.controller.journal streamedRequest (some patient) none (fun _ => false)
        countedStation) := by
  have hosts : Engine.Hosts Prod.fst countedEngine _ :=
    ⟨Engine.beside_over _ Nat, fun _ _ => ⟨rfl, rfl⟩, rfl⟩
  have counts : ∀ k ∈ some counting, ∀ text last,
      Engine.Intrudes Prod.fst countedEngine (k text last) := by
    intro k hk text last
    obtain rfl := Option.mem_some_iff.1 hk
    exact .own fun s _ => ⟨true, _, rfl, rfl⟩
  have again : Engine.Intrudes Prod.fst countedEngine runAgain :=
    .bind (.run rehearsedRequest none _ counts) fun _ => .own fun s _ => ⟨(), s, rfl, rfl⟩
  have visits : Engine.SinkVisits Prod.fst countedEngine restless patient :=
    fun text last => .bind (.call again) fun _ => .own (over_pure true)
  obtain ⟨inner, outer⟩ := Engine.visits_unseen hosts
  obtain ⟨-, busy, -⟩ := inner (some counting) counts countedStation.enter rfl
  obtain ⟨alike, -⟩ := outer restless patient visits (fun _ => false) (fun _ => false)
    (fun _ => rfl) countedStation
  exact ⟨busy rehearsedRequest none _ _ rfl rehearsed_valid rfl, alike streamedRequest none⟩

end Completions
