import Completions.Proofs.Projection

/-! A journal of what a run does to the outside: each call of the backend and each word to the sink,
with what came of it. The journal is kept beside the world, where neither the backend nor the sink
sees it. Main statement: a run that keeps a journal is the run without it. -/

namespace Completions

inductive Deed where
  | clock (reading : Float)
  | clear (outcome : Except Fault Unit)
  | context (outcome : Except Fault Int)
  | tokenize (text : String) (outcome : Except Fault (List Int))
  | decode (tokens : List Int) (past : Nat) (outcome : Except Fault Bool)
  | sample (params : Sampling) (grammar : Option String) (schema : Option Fields)
    (outcome : Except Fault Int)
  | piece (token : Int) (outcome : Except Fault String)
  | layout (call : TemplateCall) (outcome : Except Fault (Option String))
  | tell (text : String) (last : Bool) (outcome : Except Fault Bool)

inductive Deed.Kind where
  | clock | clear | context | tokenize | decode | sample | piece | layout | tell
  deriving DecidableEq

def Deed.kind : Deed → Deed.Kind
  | .clock _ => .clock
  | .clear _ => .clear
  | .context _ => .context
  | .tokenize _ _ => .tokenize
  | .decode _ _ _ => .decode
  | .sample _ _ _ _ => .sample
  | .piece _ _ => .piece
  | .layout _ _ => .layout
  | .tell _ _ _ => .tell

theorem kind_ne {ds : List Deed} {k : Deed.Kind} {ks : List Deed.Kind}
    (kinds : ∀ d ∈ ds, d.kind ∈ ks) (absent : k ∉ ks) : ∀ d ∈ ds, d.kind ≠ k :=
  fun d hd same => absent (same ▸ kinds d hd)

structure Word where
  text : String
  last : Bool
  outcome : Except Fault Bool

def Deed.word? : Deed → Option Word
  | .tell text last outcome => some ⟨text, last, outcome⟩
  | _ => none

def words (deeds : List Deed) : List Word := deeds.filterMap Deed.word?

@[simp] theorem words_append (ds es : List Deed) : words (ds ++ es) = words ds ++ words es :=
  List.filterMap_append

theorem words_eq_nil {ds : List Deed} (h : ∀ d ∈ ds, d.kind ≠ .tell) : words ds = [] := by
  refine List.filterMap_eq_nil_iff.2 fun d hd => ?_
  cases d with
  | tell text last outcome => exact absurd rfl (h _ hd)
  | _ => rfl

def tokenizations (deeds : List Deed) : List Deed := deeds.filter fun d => d.kind = .tokenize

@[simp] theorem tokenizations_append (ds es : List Deed) :
    tokenizations (ds ++ es) = tokenizations ds ++ tokenizations es := List.filter_append ds es

theorem tokenizations_eq_nil {ds : List Deed} (h : ∀ d ∈ ds, d.kind ≠ .tokenize) :
    tokenizations ds = [] :=
  List.filter_eq_nil_iff.2 fun d hd => by simpa using h d hd

theorem tokenizations_eq_self {ds : List Deed} (h : ∀ d ∈ ds, d.kind = .tokenize) :
    tokenizations ds = ds :=
  List.filter_eq_self.2 fun d hd => by simpa using h d hd

structure Note (σ : Type) where
  deed : Deed
  world : σ
  /-- The backend asked for the end of the run, or after a word to the sink such a request stands. -/
  cancels : Bool

abbrev Journal (σ : Type) := List (Note σ)

variable {σ α : Type}

def Call.recorded (deed : Except Fault α → Deed) (call : Call σ α) : Call (σ × Journal σ) α := fun w =>
  let r := call w.1
  ⟨r.outcome, (r.world, w.2 ++ [⟨deed r.outcome, r.world, r.cancels⟩]), r.cancels⟩

def Backend.recorded (b : Backend σ) : Backend (σ × Journal σ) where
  ready w := b.ready w.1
  endToken w := b.endToken w.1
  info w := b.info w.1
  now w := ((b.now w.1).1, ((b.now w.1).2, w.2 ++ [⟨.clock (b.now w.1).1, (b.now w.1).2, false⟩]))
  contextSize := b.contextSize.recorded .context
  clear := b.clear.recorded .clear
  tokenize text := (b.tokenize text).recorded (.tokenize text)
  decode tokens past := (b.decode tokens past).recorded (.decode tokens past)
  sample params grammar schema :=
    (b.sample params grammar schema).recorded (.sample params grammar schema)
  piece token := (b.piece token).recorded (.piece token)
  layout call := (b.layout call).recorded (.layout call)
  unload w := (b.unload w.1, w.2)

def Sink.recorded (sink : Sink σ) : Sink (σ × Journal σ) := fun text last s =>
  match sink text last ⟨s.gate, s.world.1⟩ with
  | .ok goOn t =>
    .ok goOn ⟨t.gate, (t.world, s.world.2 ++ [⟨.tell text last (.ok goOn), t.world, t.gate.cancelled⟩])⟩
  | .error f t =>
    .error f ⟨t.gate, (t.world, s.world.2 ++ [⟨.tell text last (.error f), t.world, t.gate.cancelled⟩])⟩

def Controller.recorded (c : Controller σ) : Controller (σ × Journal σ) :=
  { c with backend := c.backend.recorded }

def Engine.recorded (e : Engine σ) : Engine (σ × Journal σ) where
  controller := e.controller.recorded
  config := e.config
  catalog := e.catalog

def Station.withJournal (s : Station σ) : Station (σ × Journal σ) := ⟨s.gate, (s.world, [])⟩

def Controller.journal (c : Controller σ) (r : Request) (sink : Option (Sink σ))
    (override : Option Prompt) (watch : σ → Bool) (s : Station σ) : Journal σ :=
  (c.recorded.run r (sink.map Sink.recorded) override (fun w => watch w.1) s.withJournal).2.world.2

def Engine.completeJournal (e : Engine σ) (r : Request) (sink : Option (Sink σ)) (watch : σ → Bool)
    (s : Station σ) : Journal σ :=
  ((e.recorded.complete r (sink.map Sink.recorded) fun w => watch w.1).settled s.withJournal).2.world.2

def Engine.chatJournal (e : Engine σ) (stamp : Stamp) (r : Request) (sink : Option (Sink σ))
    (watch : σ → Bool) (s : Station σ) : Journal σ :=
  ((e.recorded.chat stamp r (sink.map Sink.recorded) fun w => watch w.1).settled
    s.withJournal).2.world.2

theorem recorded_call_over (deed : Except Fault α → Deed) (call : Call σ α) :
    Call.Over Prod.fst (call.recorded deed) call := fun _ => rfl

theorem recorded_backend_over (b : Backend σ) : Backend.Over Prod.fst b.recorded b where
  ready _ := rfl
  endToken _ := rfl
  now _ := rfl
  contextSize := recorded_call_over _ _
  clear := recorded_call_over _ _
  tokenize _ := recorded_call_over _ _
  decode _ _ := recorded_call_over _ _
  sample _ _ _ := recorded_call_over _ _
  piece _ := recorded_call_over _ _
  layout _ := recorded_call_over _ _

theorem recorded_sink_over (sink : Option (Sink σ)) :
    Sink.Over Prod.fst (sink.map Sink.recorded) sink := by
  cases sink with
  | none => exact .none
  | some sink =>
    refine .some fun text last s => ?_
    simp only [Sink.recorded, Station.project]
    cases sink text last ⟨s.gate, s.world.1⟩ <;> rfl

theorem recorded_controller_over (c : Controller σ) : Controller.Over Prod.fst c.recorded c :=
  ⟨recorded_backend_over c.backend, rfl, rfl, rfl⟩

theorem recorded_engine_over (e : Engine σ) : Engine.Over Prod.fst e.recorded e :=
  ⟨recorded_controller_over e.controller, rfl, rfl⟩

/-- A run that keeps a journal comes to the same result, in the same world. -/
theorem run_recorded (c : Controller σ) (r : Request) (sink : Option (Sink σ))
    (override : Option Prompt) (watch : σ → Bool) (s : Station σ) :
    let run := c.recorded.run r (sink.map Sink.recorded) override (fun w => watch w.1) s.withJournal
    c.run r sink override watch s = (run.1, run.2.project Prod.fst) :=
  Controller.run_over (recorded_controller_over c) (recorded_sink_over sink) (fun _ => rfl) r override
    s.withJournal

theorem complete_recorded (e : Engine σ) (r : Request) (sink : Option (Sink σ)) (watch : σ → Bool)
    (s : Station σ) :
    let run := (e.recorded.complete r (sink.map Sink.recorded) fun w => watch w.1).settled
      s.withJournal
    (e.complete r sink watch).settled s = (run.1, run.2.project Prod.fst) :=
  (Engine.complete_over (recorded_engine_over e) (recorded_sink_over sink) (fun _ => rfl) r).settled
    s.withJournal

theorem chat_recorded (e : Engine σ) (stamp : Stamp) (r : Request) (sink : Option (Sink σ))
    (watch : σ → Bool) (s : Station σ) :
    let run := (e.recorded.chat stamp r (sink.map Sink.recorded) fun w => watch w.1).settled
      s.withJournal
    (e.chat stamp r sink watch).settled s = (run.1, run.2.project Prod.fst) :=
  (Engine.chat_over (recorded_engine_over e) (recorded_sink_over sink) (fun _ => rfl) stamp r).settled
    s.withJournal

end Completions
