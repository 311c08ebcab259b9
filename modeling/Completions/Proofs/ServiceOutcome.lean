import Completions.Proofs.ServiceCourse

/-! What a run of a service comes to, whichever of the two it is: a completion is that of the
controller's run, with the calls of offered tools found in its text, and as a conversation with a
reply that repeats it. Main statement: `serve_answered`. -/

namespace Completions

variable {σ τ : Type}

theorem Controller.run_completed {c : Controller σ} {r : Request} {sink : Option (Sink σ)}
    {override : Option Prompt} {watch : σ → Bool} {s : Station σ} {completion : Completion}
    (h : (c.run r sink override watch s).1 = .completed completion) :
    ∃ (d : Generation.Draft) (ended : Float), completion = d.completion ended := by
  have ran := journal_course c r override sink watch s
  generalize c.journal r sink override watch s = notes at ran
  rw [h] at ran
  cases ran with
  | generated received generated =>
    cases generated with
    | @delivered _ _ d ended w wrote told => exact ⟨d, ended, rfl⟩

namespace Engine

def serve (e : Engine σ) (service : Service) (stamp : Stamp) (r : Request) (sink : Option (Sink σ))
    (watch : σ → Bool) : Act σ Result :=
  match service with
  | .text => e.complete r sink watch
  | .chat => e.chat stamp r sink watch

theorem serve_over {π : τ → σ} {e : Engine τ} {e₀ : Engine σ} {sink : Option (Sink τ)}
    {sink₀ : Option (Sink σ)} {watch : τ → Bool} {watch₀ : σ → Bool} (he : Engine.Over π e e₀)
    (hs : Sink.Over π sink sink₀) (hw : ∀ w, watch₀ (π w) = watch w) (service : Service)
    (stamp : Stamp) (r : Request) :
    Act.Over π (e.serve service stamp r sink watch) (e₀.serve service stamp r sink₀ watch₀) := by
  cases service with
  | text => exact complete_over he hs hw r
  | chat => exact chat_over he hs hw stamp r

def serveJournal (e : Engine σ) (service : Service) (stamp : Stamp) (r : Request)
    (sink : Option (Sink σ)) (watch : σ → Bool) (s : Station σ) : Journal σ :=
  ((e.recorded.serve service stamp r (sink.map Sink.recorded) fun w => watch w.1).settled
    s.withJournal).2.world.2

theorem serve_recorded {e : Engine σ} {service : Service} {stamp : Stamp} {r : Request}
    {sink : Option (Sink σ)} {watch : σ → Bool} {s t : Station σ} {result : Result}
    (h : e.serve service stamp r sink watch s = .ok result t) :
    e.recorded.serve service stamp r (sink.map Sink.recorded) (fun w => watch w.1) s.withJournal =
      .ok result ⟨t.gate, (t.world, e.serveJournal service stamp r sink watch s)⟩ := by
  have seen := @serve_over _ _ Prod.fst _ _ _ _ (fun w => watch w.1) watch
    (recorded_engine_over e) (recorded_sink_over sink) (fun _ => rfl) service stamp r s.withJournal
  rw [show s.withJournal.project Prod.fst = s from rfl, h] at seen
  rw [serveJournal, Act.settled]
  cases run : e.recorded.serve service stamp r (sink.map Sink.recorded) (fun w => watch w.1)
      s.withJournal with
  | error f u => rw [run] at seen; cases seen
  | ok result' u =>
    rw [run] at seen
    obtain ⟨rfl, rfl⟩ := EStateM.Result.ok.inj seen
    rfl

theorem offeredTools_withDefaults (e : Engine σ) (r : Request) :
    (e.withDefaults r).offeredTools = r.offeredTools := by
  unfold withDefaults
  split <;> rfl

/-- A reply repeats what its completion says; its text makes way for calls. -/
structure Repeats (c : Completion) (reply : ChatReply) : Prop where
  content : reply.content = if c.toolCalls = [] then some c.content else none
  toolCalls : reply.toolCalls = c.toolCalls
  finish : reply.finish = c.finish
  usage : reply.usage = c.usage

structure Called (tools : List Tool.Definition) (c : Completion) : Prop where
  ended : c.toolCalls = [] → ∃ ending : Generation.Ending, c.finish = ending.finish
  offered : c.toolCalls ≠ [] → tools ≠ []
  reason : c.toolCalls ≠ [] → c.finish = .toolCalls ∨ c.finish = .cancelled

/-- What a service makes of a completion: a text has no calls, a conversation has a reply. -/
structure Answered (service : Service) (tools : List Tool.Definition) (c : Completion) : Prop
    extends Called tools c where
  text : service = .text → c.toolCalls = []
  reply : service = .chat → ∃ reply, c.reply = some reply ∧ Repeats c reply

theorem called_draft (d : Generation.Draft) (ended : Float) (tools : List Tool.Definition) :
    Called tools (d.completion ended) where
  ended _ := ⟨d.ending, rfl⟩
  offered calls := absurd rfl calls
  reason calls := absurd rfl calls

theorem called_withCalls {stamp : Stamp} {tools : List Tool.Definition} {c : Completion}
    (h : Called tools c) (offered : tools ≠ []) : Called tools (withCalls stamp tools c) := by
  unfold withCalls
  cases accepted stamp tools c.content with
  | nil => exact h
  | cons call calls =>
    refine ⟨fun none => (by cases none), fun _ => offered, fun _ => ?_⟩
    by_cases cancelled : c.finish = .cancelled
    · exact .inr (if_pos cancelled)
    · exact .inl (if_neg cancelled)

theorem Called.with_reply {tools : List Tool.Definition} {c : Completion} (h : Called tools c)
    (e : Engine σ) (stamp : Stamp) (r : Request) :
    Answered .chat tools { c with reply := some (e.chatReply stamp r c) } where
  ended := h.ended
  offered := h.offered
  reason := h.reason
  text chat := by cases chat
  reply _ := ⟨_, rfl, ⟨rfl, rfl, rfl, rfl⟩⟩

theorem answered_answer {e : Engine σ} {stamp : Stamp} {r : Request} {d : Generation.Draft}
    {ended : Float} {c : Completion}
    (h : e.answer stamp r (.completed (d.completion ended)) = .completed c) :
    Answered .chat r.offeredTools c := by
  have draft := called_draft d ended r.offeredTools
  obtain rfl := Result.completed.inj h
  by_cases offered : r.offeredTools = []
  · simp only [offered, List.isEmpty_nil, if_true] at draft ⊢
    exact draft.with_reply e stamp r
  · simp only [List.isEmpty_iff, offered, if_false]
    exact (called_withCalls draft offered).with_reply e stamp r

theorem run_answered {e : Engine σ} {r : Request} {sink : Option (Sink σ)}
    {override : Option Prompt} {watch : σ → Bool} {s t : Station σ} {c : Completion}
    (h : e.run r sink override watch s = .ok (.completed c) t) (tools : List Tool.Definition) :
    Answered .text tools c := by
  obtain ⟨d, ended, rfl⟩ := Controller.run_completed (EStateM.Result.ok.inj h).1
  exact { called_draft d ended tools with text := fun _ => rfl, reply := fun chat => by cases chat }

theorem reject_not_completed {sink : Option (Sink σ)} {f : Fault} {s t : Station σ} {c : Completion} :
    reject sink f s ≠ .ok (.completed c) t := by
  intro h
  cases told : Controller.finishSink sink "" s with
  | ok u v =>
    rw [reject, Act.bind_ok told] at h
    cases h
  | error f v =>
    rw [reject, Act.bind_error told] at h
    cases h

theorem serve_answered {e : Engine σ} {service : Service} {stamp : Stamp} {r : Request}
    {sink : Option (Sink σ)} {watch : σ → Bool} {s t : Station σ} {c : Completion}
    (h : e.serve service stamp r sink watch s = .ok (.completed c) t) :
    Answered service r.offeredTools c := by
  cases service with
  | text =>
    simp only [serve, complete] at h
    split at h
    · cases layout : e.transcript (e.withDefaults r) with
      | error f =>
        rw [layout] at h
        exact absurd h reject_not_completed
      | ok p =>
        rw [layout] at h
        exact run_answered h _
    · exact run_answered h _
  | chat =>
    simp only [serve, chat] at h
    split at h
    · exact absurd h reject_not_completed
    · split at h
      · next result u run =>
        obtain ⟨answered, -⟩ := EStateM.Result.ok.inj h
        cases result with
        | failed f => cases answered
        | completed c₀ =>
          obtain ⟨d, ended, rfl⟩ := Controller.run_completed (EStateM.Result.ok.inj run).1
          exact offeredTools_withDefaults e r ▸ answered_answer answered
      · cases h

end Engine

end Completions
