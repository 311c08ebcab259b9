import Completions.Proofs.RunCourse

/-! The courses of the services of an engine: a conversation is laid out, and then there is a run or
none. Main statements: `completeJournal_course` and `chatJournal_course`. -/

namespace Completions.Engine

variable {σ : Type}

open Act Controller

def LaidOut (deeds : List Deed) : Prop := ∀ d ∈ deeds, d.kind = .layout

/-- What a service writes, and what it comes to; the run is that of the controller `c`. -/
inductive Served (c : Controller σ) (r : Request) (sink : Option (Sink σ)) (watch : σ → Bool)
    (s : Station (σ × Journal σ)) : Journal σ → Except Fault Result → Prop
  | rejected {ns ms : Journal σ} {outcome : Except Fault Unit} (f : Fault)
    (laidOut : LaidOut (ns.map Note.deed)) (told : Told sink "" (ms.map Note.deed) outcome) :
    Served c r sink watch s (ns ++ ms) (outcome.map fun _ => .failed f)
  | ran {ns ms : Journal σ} {t : Station (σ × Journal σ)} {override : Option Prompt}
    {result : Result} (laidOut : LaidOut (ns.map Note.deed)) (grows : Grows s t ns)
    (ran : Ran c r override sink watch t ms result) :
    Served c r sink watch s (ns ++ ms) (.ok result)

theorem laidOut_nil : LaidOut [] := List.forall_mem_nil _

theorem reject_does (sink : Option (Sink σ)) (f : Fault) :
    (reject (sink.map Sink.recorded) f).Does fun ds r =>
      ∃ outcome, Told sink "" ds outcome ∧ r = outcome.map fun _ => .failed f :=
  (finishSink_does sink "").map fun _ => Result.failed f

theorem laidOut_append {ds es : List Deed} (h : LaidOut ds) (h' : LaidOut es) :
    LaidOut (ds ++ es) := fun d hd => (List.mem_append.1 hd).elim (h d) (h' d)

theorem nativeLayout_leaves (e : Engine σ) (r : Request) (s : Station σ) :
    ((e.nativeLayout r).settled s).2 =
      ((ask (e.backend.layout (e.templateCall r))).settled s).2 := by
  rw [settled, settled, nativeLayout]
  cases ask (e.backend.layout (e.templateCall r)) s with
  | ok prompt t => rfl
  | error f t =>
    by_cases unsupported : f.kind = .unsupported
    · simp [unsupported]
    · by_cases value : f.kind.isValue = true <;> simp [unsupported, value]

/-- What is asked of the backend for the prompt of a conversation: its own layout, once, if it may be
used. -/
inductive Laid (e : Engine σ) (r : Request) : List Deed → Prop
  | native (allowed : r.useTemplateEngine = true ∧ e.config.useTemplateEngine = true)
    (outcome : Except Fault (Option String)) : Laid e r [.layout (e.templateCall r) outcome]
  | dialect (barred : ¬(r.useTemplateEngine = true ∧ e.config.useTemplateEngine = true)) : Laid e r []

theorem Laid.laidOut {e : Engine σ} {r : Request} {deeds : List Deed} (h : Laid e r deeds) :
    LaidOut deeds := by
  cases h with
  | native allowed outcome =>
    intro d hd
    rw [List.mem_singleton.1 hd]
    rfl
  | dialect barred => exact laidOut_nil

theorem nativeLayout_does (e : Engine σ) (r : Request) : (e.recorded.nativeLayout r).Does fun ds _ =>
    ∃ outcome, ds = [.layout (e.templateCall r) outcome] := by
  intro s
  obtain ⟨ns, grows, asked⟩ :=
    does_ask (.layout (e.templateCall r)) (e.backend.layout (e.templateCall r)) s
  have left : ((e.recorded.nativeLayout r).settled s).2 =
      ((ask ((e.backend.layout (e.templateCall r)).recorded
        (.layout (e.templateCall r)))).settled s).2 := nativeLayout_leaves e.recorded r s
  exact ⟨ns, left ▸ grows, _, asked⟩

theorem dialect_does (e : Engine σ) (r : Request) (native : Option String) :
    Act.Does (match native with
      | some p => pure p
      | none => Act.ofExcept (e.recorded.dialectLayout r) : Act (σ × Journal σ) String)
      fun ds _ => ds = [] := by
  cases native with
  | none => exact (does_ofExcept _).mono fun _ _ h => h.1
  | some p => exact (does_pure p).mono fun _ _ h => h.1

theorem layout_does {e : Engine σ} {r : Request} {x : Act (σ × Journal σ) (Option String)}
    {P : List Deed → Prop} (h : x.Does fun ds _ => P ds) : Act.Does (do
      let native ← x
      match native with
      | some p => pure p
      | none => Act.ofExcept (e.recorded.dialectLayout r)) fun ds _ => P ds := by
  refine (h.bind (dialect_does e r)).mono ?_
  rintro deeds out (⟨f, h, -⟩ | ⟨native, ds, es, rfl, h, rfl⟩)
  · exact h
  · rwa [List.append_nil]

theorem prompt_does (e : Engine σ) (r : Request) :
    (e.recorded.prompt r).Does fun ds _ => Laid e r ds := by
  unfold prompt
  split
  · next allowed =>
    refine layout_does ((nativeLayout_does e r).mono ?_)
    rintro ds out ⟨outcome, rfl⟩
    exact .native (e := e) allowed outcome
  · next barred =>
    refine layout_does ((does_pure none).mono ?_)
    rintro ds out ⟨rfl, -⟩
    exact .dialect (e := e) barred

theorem chatPrompt_does (e : Engine σ) (r : Request) : (e.recorded.chatPrompt r).Does fun ds _ =>
    (checkChat r = .ok () ∧ Laid e r ds) ∨ (checkChat r ≠ .ok () ∧ ds = []) := by
  refine ((does_ofExcept _).bind fun _ => prompt_does e r).mono ?_
  rintro deeds out (⟨f, ⟨rfl, failed⟩, -⟩ | ⟨_, ds, es, rfl, ⟨rfl, ok⟩, laid⟩)
  · exact .inr ⟨fun ok => (by cases failed.trans ok), rfl⟩
  · exact .inl ⟨ok.symm, laid⟩

theorem chatPrompt_laidOut (e : Engine σ) (r : Request) :
    (e.recorded.chatPrompt r).Does fun ds _ => LaidOut ds := by
  refine (chatPrompt_does e r).mono ?_
  rintro deeds out (⟨-, laid⟩ | ⟨-, rfl⟩)
  · exact laid.laidOut
  · exact laidOut_nil

theorem settled_run (e : Engine σ) (r : Request) (sink : Option (Sink σ)) (override : Option Prompt)
    (watch : σ → Bool) (s : Station σ) : (e.run r sink override watch).settled s =
      (.ok (e.controller.run r sink override watch s).1,
        (e.controller.run r sink override watch s).2) := rfl

def Serves (c : Controller σ) (r : Request) (sink : Option (Sink σ)) (watch : σ → Bool)
    (s : Station (σ × Journal σ)) (act : Act (σ × Journal σ) Result) : Prop :=
  ∃ ns, (act.settled s).2.world.2 = s.world.2 ++ ns ∧
    Served c r sink watch s ns (act.settled s).1

theorem run_serves (e : Engine σ) (r : Request) (sink : Option (Sink σ)) (override : Option Prompt)
    (watch : σ → Bool) (s : Station (σ × Journal σ)) : Serves e.controller r sink watch s
      (e.recorded.run r (sink.map Sink.recorded) override fun w => watch w.1) := by
  obtain ⟨ns, journal, ran⟩ := run_course e.controller r override sink watch s
  rw [Serves, settled_run]
  exact ⟨ns, journal, List.nil_append ns ▸ .ran laidOut_nil (.refl s) ran⟩

theorem reject_serves (c : Controller σ) (r : Request) (sink : Option (Sink σ)) (watch : σ → Bool)
    (f : Fault) (s : Station (σ × Journal σ)) :
    Serves c r sink watch s (reject (sink.map Sink.recorded) f) := by
  obtain ⟨ns, grows, outcome, told, result⟩ := reject_does sink f s
  refine ⟨ns, grows.journal, ?_⟩
  rw [result]
  exact List.nil_append ns ▸ .rejected f laidOut_nil told

theorem Served.after {c : Controller σ} {r : Request} {sink : Option (Sink σ)} {watch : σ → Bool}
    {s t : Station (σ × Journal σ)} {ns ms : Journal σ} {outcome : Except Fault Result}
    (laidOut : LaidOut (ns.map Note.deed)) (grows : Grows s t ns)
    (served : Served c r sink watch t ms outcome) : Served c r sink watch s (ns ++ ms) outcome := by
  cases served with
  | rejected f laidOut' told =>
    rw [← List.append_assoc]
    exact .rejected f (List.map_append ▸ laidOut_append laidOut laidOut') told
  | ran laidOut' grows' ran =>
    rw [← List.append_assoc]
    exact .ran (List.map_append ▸ laidOut_append laidOut laidOut') (grows.trans grows') ran

theorem complete_course (e : Engine σ) (r : Request) (sink : Option (Sink σ)) (watch : σ → Bool)
    (s : Station (σ × Journal σ)) : Serves e.controller (e.withDefaults r) sink watch s
      (e.recorded.complete r (sink.map Sink.recorded) fun w => watch w.1) := by
  have defaults : e.recorded.withDefaults r = e.withDefaults r := rfl
  unfold complete
  rw [defaults]
  by_cases chat : (e.withDefaults r).isChat = true ∧ (e.withDefaults r).prompt.isNone = true
  · rw [if_pos chat]
    cases e.recorded.transcript (e.withDefaults r) with
    | error f => exact reject_serves _ _ sink watch f s
    | ok p => exact run_serves e _ sink _ watch s
  · rw [if_neg chat]
    exact run_serves e _ sink none watch s

theorem chat_course (e : Engine σ) (stamp : Stamp) (r : Request) (sink : Option (Sink σ))
    (watch : σ → Bool) (s : Station (σ × Journal σ)) :
    let out := (e.recorded.chat stamp r (sink.map Sink.recorded) fun w => watch w.1).settled s
    ∃ ns outcome, out.2.world.2 = s.world.2 ++ ns ∧
      Served e.controller (e.withDefaults r) sink watch s ns outcome ∧
      out.1 = outcome.map (e.answer stamp (e.withDefaults r)) := by
  intro out
  have defaults : e.recorded.withDefaults r = e.withDefaults r := rfl
  obtain ⟨ns, grows, laidOut⟩ := chatPrompt_laidOut e (e.withDefaults r) s
  rcases laid : e.recorded.chatPrompt (e.withDefaults r) s with ⟨p, t⟩ | ⟨f, t⟩
  · rw [settled, laid] at grows
    have ends : out = ((e.recorded.run (e.withDefaults r) (sink.map Sink.recorded) (some (.text p))
        fun w => watch w.1).settled t).map (Except.map (e.answer stamp (e.withDefaults r))) id := by
      simp only [out, settled, chat, defaults, laid]
      rfl
    obtain ⟨ms, journal, served⟩ := run_serves e (e.withDefaults r) sink (some (.text p)) watch t
    refine ⟨ns ++ ms, _, ?_, served.after laidOut grows, ?_⟩
    · rw [ends, ← List.append_assoc, ← grows.journal]
      exact journal
    · rw [ends]
      rfl
  · rw [settled, laid] at grows
    have ends : out = (reject (sink.map Sink.recorded) f).settled t := by
      simp only [out, settled, chat, defaults, laid]
    obtain ⟨ms, grows', outcome, told, result⟩ := reject_does sink f t
    refine ⟨ns ++ ms, _, ?_, .rejected f laidOut told, ?_⟩
    · rw [ends]
      exact (grows.trans grows').journal
    · rw [ends, result]
      cases outcome <;> rfl

theorem completeJournal_course (e : Engine σ) (r : Request) (sink : Option (Sink σ))
    (watch : σ → Bool) (s : Station σ) : Served e.controller (e.withDefaults r) sink watch
      s.withJournal (e.completeJournal r sink watch s) ((e.complete r sink watch).settled s).1 := by
  obtain ⟨notes, journal, served⟩ := complete_course e r sink watch s.withJournal
  rw [complete_recorded, show e.completeJournal r sink watch s = notes from journal]
  exact served

theorem chatJournal_course (e : Engine σ) (stamp : Stamp) (r : Request) (sink : Option (Sink σ))
    (watch : σ → Bool) (s : Station σ) : ∃ outcome, Served e.controller (e.withDefaults r) sink watch
      s.withJournal (e.chatJournal stamp r sink watch s) outcome ∧
      ((e.chat stamp r sink watch).settled s).1 =
        outcome.map (e.answer stamp (e.withDefaults r)) := by
  obtain ⟨notes, outcome, journal, served, result⟩ :=
    chat_course e stamp r sink watch s.withJournal
  rw [chat_recorded, show e.chatJournal stamp r sink watch s = notes from journal]
  exact ⟨outcome, served, result⟩

end Completions.Engine
