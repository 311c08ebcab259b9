import Completions.Proofs.EventGrammar

/-! What the engine does to the gate. Whatever is asked of it, by a caller or by a sink in the middle
of a run, leaves the gate as it was, except that a run that is going on may have been asked to end.
Main statement: `Uses.tidy`. -/

namespace Completions

variable {σ α β : Type}

namespace Gate

/-- Only a run that is going on has been asked to end. -/
def Sound (g : Gate) : Prop := g.cancelled = true → g.running = true

theorem sound_idle : idle.Sound := fun asked => by cases asked

theorem Sound.cancel {g : Gate} (sound : g.Sound) : g.cancel.Sound := by
  intro asked
  rcases (Bool.or_eq_true _ _).mp asked with before | running
  · exact sound before
  · exact running

theorem cancel_cancel (g : Gate) : g.cancel.cancel = g.cancel := by
  simp [Gate.cancel]

theorem Sound.eq_idle {g : Gate} (sound : g.Sound) (still : g.running = false) : g = idle := by
  obtain ⟨running, cancelled⟩ := g
  cases cancelled with
  | false => rw [show running = false from still, idle]
  | true => exact absurd ((sound rfl).symm.trans still) (by decide)

/-- The gate that was, or the same with a request to end the run. -/
def Kept (before after : Gate) : Prop := after = before ∨ after = before.cancel

theorem Kept.refl (g : Gate) : Kept g g := .inl rfl

theorem Kept.trans {g g' g'' : Gate} (first : Kept g g') (second : Kept g' g'') : Kept g g'' := by
  rcases first with rfl | rfl
  · exact second
  · rcases second with rfl | rfl
    · exact .inr rfl
    · exact .inr (cancel_cancel g)

theorem Kept.sound {g g' : Gate} (kept : Kept g g') (sound : g.Sound) : g'.Sound := by
  rcases kept with rfl | rfl
  · exact sound
  · exact sound.cancel

theorem Kept.of_idle {g : Gate} (kept : Kept idle g) : g = idle := by
  rcases kept with rfl | rfl <;> rfl

end Gate

namespace Act

def Tidy (act : Act σ α) : Prop :=
  ∀ s, s.gate.Sound → Gate.Kept s.gate (act.settled s).2.gate

theorem Tidy.of_same {x : Act σ α} (same : ∀ s, (x.settled s).2.gate = s.gate) : x.Tidy :=
  fun s _ => .inl (same s)

theorem tidy_pure (a : α) : Tidy (pure a : Act σ α) := .of_same fun _ => rfl

theorem tidy_refuse (f : Fault) : Tidy (refuse f : Act σ α) := .of_same fun _ => rfl

theorem tidy_look (f : σ → α) : Tidy (look f) := .of_same fun _ => rfl

theorem tidy_turn (f : σ → α × σ) : Tidy (turn f) := .of_same fun _ => rfl

theorem tidy_ofExcept (r : Except Fault α) : Tidy (ofExcept r : Act σ α) := by
  cases r with
  | ok a => exact tidy_pure a
  | error f => exact tidy_refuse f

theorem tidy_ask (call : Call σ α) : Tidy (ask call) := by
  intro s _
  have gate : ((ask call).settled s).2.gate =
      if (call s.world).cancels then s.gate.cancel else s.gate := by
    simp only [settled, ask]
    cases (call s.world).outcome <;> rfl
  rw [gate]
  split
  · exact .inr rfl
  · exact .inl rfl

theorem Tidy.bind {x : Act σ α} {f : α → Act σ β} (hx : x.Tidy) (hf : ∀ a, (f a).Tidy) :
    (x >>= f).Tidy := by
  intro s sound
  refine bind_leaves (P := fun t => Gate.Kept s.gate t.gate) (hx s sound) fun a t first => ?_
  exact first.trans (hf a t (first.sound sound))

theorem Tidy.ite {p : Prop} [Decidable p] {x y : Act σ α} (hx : x.Tidy) (hy : y.Tidy) :
    (if p then x else y).Tidy := by
  split
  · exact hx
  · exact hy

end Act

open Act

def Sink.Tidy (sink : Option (Sink σ)) : Prop := ∀ k ∈ sink, ∀ text last, Act.Tidy (k text last)

namespace Controller

variable {c : Controller σ} {sink : Option (Sink σ)}

theorem tidy_finishSink (tidy : Sink.Tidy sink) (text : String) : Tidy (finishSink sink text) := by
  cases sink with
  | none => exact tidy_pure ()
  | some k => exact (tidy k rfl text true).bind fun _ => tidy_pure ()

/-- A run leaves the gate as it was; it is told of the end when it has left. -/
theorem kept_run (tidy : Sink.Tidy sink) (c : Controller σ) (r : Request) (override : Option Prompt)
    (watch : σ → Bool) {s : Station σ} (sound : s.gate.Sound) :
    Gate.Kept s.gate (c.run r sink override watch s).2.gate := by
  unfold run
  cases received : c.receive r override s with
  | error f => exact tidy_finishSink tidy "" s sound
  | ok prompt =>
    have idle := (receive_eq_ok_iff.1 received).2.2.2
    rw [sound.eq_idle idle]
    dsimp only [generate]
    generalize (Generation.write c.backend c.batch c.maxPromptTokens r.maxNewTokens prompt
      (task r sink watch)).settled s.enter = written
    obtain ⟨f | d, t⟩ := written
    · exact tidy_finishSink tidy "" t.leave Gate.sound_idle
    · dsimp only
      generalize (c.deliver sink d).settled t = delivered
      obtain ⟨f | completion, u⟩ := delivered
      · exact .refl _
      · exact .refl _

end Controller

namespace Engine

variable {sink : Option (Sink σ)}

theorem tidy_reject (tidy : Sink.Tidy sink) (f : Fault) : Tidy (reject sink f) :=
  (Controller.tidy_finishSink tidy "").bind fun _ => tidy_pure _

theorem tidy_run (tidy : Sink.Tidy sink) (e : Engine σ) (r : Request) (override : Option Prompt)
    (watch : σ → Bool) : Tidy (e.run r sink override watch) :=
  fun _ sound => Controller.kept_run tidy e.controller r override watch sound

theorem tidy_nativeLayout (e : Engine σ) (r : Request) : Tidy (e.nativeLayout r) := by
  intro s sound
  rw [nativeLayout_leaves]
  exact tidy_ask _ s sound

theorem tidy_prompt (e : Engine σ) (r : Request) : Tidy (e.prompt r) := by
  unfold prompt
  refine Tidy.ite ((tidy_nativeLayout e r).bind fun native => ?_)
    ((tidy_pure none).bind fun native => ?_)
  all_goals
    cases native with
    | none => exact tidy_ofExcept _
    | some p => exact tidy_pure p

theorem tidy_serve (tidy : Sink.Tidy sink) (e : Engine σ) (service : Service) (stamp : Stamp)
    (r : Request) (watch : σ → Bool) : Tidy (e.serve service stamp r sink watch) := by
  cases service with
  | text =>
    refine Tidy.ite ?_ (tidy_run tidy e _ _ watch)
    split
    · exact tidy_reject tidy _
    · exact tidy_run tidy e _ _ watch
  | chat =>
    intro s sound
    have laid : Tidy (e.chatPrompt (e.withDefaults r)) :=
      (tidy_ofExcept _).bind fun _ => tidy_prompt e _
    have first := laid s sound
    rw [serve, settled, chat]
    cases h : e.chatPrompt (e.withDefaults r) s with
    | error f t =>
      rw [settled_error h] at first
      exact first.trans (tidy_reject tidy f t (first.sound sound))
    | ok p t =>
      rw [settled_ok h] at first
      exact first.trans
        (tidy_run tidy e (e.withDefaults r) (some (.text p)) watch t (first.sound sound))

theorem tidy_emitting (l : Listener) : Sink.Tidy (some (emitting (σ := σ) l)) := by
  intro k only text last
  rw [← Option.mem_some_iff.1 only]
  exact .of_same fun _ => rfl

def streaming (e : Engine σ) (service : Service) (stamp : Stamp) (l : Listener) (r : Request) :
    Act σ (List Event) := fun s => .ok (e.stream service stamp l r s).1 (e.stream service stamp l r s).2

theorem tidy_streaming (e : Engine σ) (service : Service) (stamp : Stamp) (l : Listener)
    (r : Request) : Tidy (e.streaming service stamp l r) := by
  intro s sound
  change Gate.Kept s.gate (e.stream service stamp l r s).2.gate
  rw [stream]
  split
  · exact .refl _
  · have served := tidy_serve (tidy_emitting l) (e.forListener l) service stamp (streamed r)
      (fun w => w.2.closed) ⟨s.gate, (s.world, {})⟩ sound
    rw [eventsOf_eq]
    cases run : (e.forListener l).serve service stamp (streamed r) (some (emitting l))
        (fun w => w.2.closed) ⟨s.gate, (s.world, {})⟩ with
    | ok result t => rwa [settled_ok run] at served
    | error f t => rwa [settled_error run] at served

theorem tidy_piecesOf (b : Backend σ) (tokens : List Int) : Tidy (piecesOf b tokens) := by
  induction tokens with
  | nil => exact tidy_pure []
  | cons t rest ih => exact (tidy_ask _).bind fun _ => ih.bind fun _ => tidy_pure _

theorem tidy_checkReady (e : Engine σ) : Tidy e.checkReady :=
  (tidy_look _).bind fun _ => (tidy_pure ()).ite (tidy_refuse _)

theorem tidy_tokenize (e : Engine σ) (content : Json) : Tidy (e.tokenize content) := by
  cases content with
  | str s => exact (tidy_checkReady e).bind fun _ => tidy_ask _
  | _ => exact tidy_refuse _

theorem tidy_tokenizeInPieces (e : Engine σ) (content : Json) :
    Tidy (e.tokenizeInPieces content) :=
  (tidy_tokenize e content).bind fun tokens => tidy_piecesOf e.backend tokens

theorem tidy_detokenize (e : Engine σ) (tokens : Json) : Tidy (e.detokenize tokens) := by
  unfold detokenize
  split
  · exact tidy_refuse _
  · next ts _ =>
    refine (tidy_checkReady e).bind fun _ s sound => ?_
    have pieces := tidy_piecesOf e.backend ts s sound
    cases run : piecesOf e.backend ts s with
    | ok ps t =>
      rw [settled_ok run] at pieces
      simp only [settled, run]
      exact pieces
    | error f t =>
      rw [settled_error run] at pieces
      simp only [settled, run]
      exact pieces

theorem tidy_cancel : Tidy (cancel (σ := σ)) := fun _ _ => .inr rfl

end Engine

end Completions
