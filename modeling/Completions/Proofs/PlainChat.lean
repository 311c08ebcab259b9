import Completions.Proofs.CarriedFailure
import Completions.Proofs.ModelNotReady
import Completions.Rehearsal.Session

/-! The two services on a conversation without tools that the backend does not lay out itself: they
have one prompt, and one run of it, and the answer to the conversation is the completion of its text
with a reply beside it. Main statement: `chat_eq_complete`. -/

namespace Completions

variable {σ α : Type}

def Journal.after (ns : Journal σ) (w : σ × Journal σ) : σ × Journal σ := (w.1, ns ++ w.2)

section After

variable (ns : Journal σ)

theorem recorded_call_after (deed : Except Fault α → Deed) (call : Call σ α) :
    Call.Over ns.after (call.recorded deed) (call.recorded deed) := fun w => by
  simp only [Call.recorded, Journal.after, List.append_assoc]

theorem recorded_backend_after (b : Backend σ) : Backend.Over ns.after b.recorded b.recorded where
  ready _ := rfl
  endToken _ := rfl
  now w := by simp only [Backend.recorded, Journal.after, List.append_assoc]
  contextSize := recorded_call_after ns _ _
  clear := recorded_call_after ns _ _
  tokenize _ := recorded_call_after ns _ _
  decode _ _ := recorded_call_after ns _ _
  sample _ _ _ := recorded_call_after ns _ _
  piece _ := recorded_call_after ns _ _
  layout _ := recorded_call_after ns _ _

theorem recorded_sink_after (sink : Option (Sink σ)) :
    Sink.Over ns.after (sink.map Sink.recorded) (sink.map Sink.recorded) := by
  cases sink with
  | none => exact .none
  | some sink =>
    refine .some fun text last s => ?_
    simp only [Sink.recorded, Station.project, Journal.after]
    cases sink text last ⟨s.gate, s.world.1⟩ <;>
      simp only [Act.view, Station.project, Journal.after, List.append_assoc]

theorem recorded_engine_after (e : Engine σ) : Engine.Over ns.after e.recorded e.recorded :=
  ⟨⟨recorded_backend_after ns e.backend, rfl, rfl, rfl⟩, rfl, rfl⟩

theorem ask_recorded (deed : Except Fault α → Deed) (call : Call σ α) (s : Station σ) :
    ∃ n : Note σ, n.deed = deed (call s.world).outcome ∧
      Act.ask (call.recorded deed) s.withJournal = match Act.ask call s with
        | .ok a t => .ok a (t.withJournal.project (Journal.after [n]))
        | .error f t => .error f (t.withJournal.project (Journal.after [n])) := by
  refine ⟨⟨_, (call s.world).world, (call s.world).cancels⟩, rfl, ?_⟩
  simp only [Act.ask, Call.recorded, Station.withJournal]
  cases (call s.world).outcome <;> rfl

end After

def Result.withoutReply : Result → Result
  | .failed f => .failed f
  | .completed c => .completed { c with reply := none }

namespace Engine

open Act

variable {e : Engine σ} {r : Request} {s t : Station σ}

/-- A conversation alone, which passes its checks and offers no tools. -/
structure Plain (r : Request) : Prop where
  checked : checkChat r = .ok ()
  alone : r.prompt = none
  toolless : r.offeredTools = []

/-- Between the two stations the backend has made no layout of its own: it may not be asked for one,
or it is asked and has none. -/
inductive Declines (e : Engine σ) (r : Request) (s : Station σ) : Station σ → Prop
  | barred (barred : ¬(r.useTemplateEngine = true ∧ e.config.useTemplateEngine = true)) :
    Declines e r s s
  | nothing {t : Station σ} (allowed : r.useTemplateEngine = true ∧ e.config.useTemplateEngine = true)
    (asked : ask (e.backend.layout (e.templateCall r)) s = .ok none t) : Declines e r s t
  | unsupported {t : Station σ} {f : Fault}
    (allowed : r.useTemplateEngine = true ∧ e.config.useTemplateEngine = true)
    (asked : ask (e.backend.layout (e.templateCall r)) s = .error f t) (kind : f.kind = .unsupported) :
    Declines e r s t

/-- The conversation in the dialect of its template. -/
def spelled (e : Engine σ) (r : Request) : Except Fault (Option Prompt) :=
  ((e.dialect r).format (r.messages.getD [])).map fun p => some (.text p)

theorem Plain.isChat (plain : Plain r) : r.isChat = true := by
  have checked := plain.checked
  cases messages : r.messages with
  | some ms => rw [Request.isChat, messages]; rfl
  | none =>
    rw [checkChat, messages] at checked
    cases checked

theorem Plain.prepare_text (plain : Plain r) (e : Engine σ) :
    e.prepare r .text = ofExcept (e.spelled r) := by
  have admitted : Admits r .chat := plain.checked
  rw [prepare, if_pos ⟨plain.isChat, by rw [plain.alone]; rfl⟩, transcript, admitted.valid]
  rfl

theorem Plain.dialectLayout (plain : Plain r) (e : Engine σ) :
    e.dialectLayout r = (e.dialect r).format (r.messages.getD []) := by
  rw [Engine.dialectLayout, plain.toolless]
  rfl

theorem Declines.prompt (declines : Declines e r s t) :
    e.prompt r s = ofExcept (e.dialectLayout r) t := by
  unfold Engine.prompt
  cases declines with
  | barred barred =>
    rw [if_neg barred]
    rfl
  | nothing allowed asked =>
    have none : e.nativeLayout r s = .ok none t := by rw [nativeLayout, asked]
    rw [if_pos allowed, bind_ok none]
  | unsupported allowed asked kind =>
    have none : e.nativeLayout r s = .ok none t := by simp only [nativeLayout, asked, if_pos kind]
    rw [if_pos allowed, bind_ok none]

theorem Plain.prepare_chat (plain : Plain r) (declines : Declines e r s t) :
    e.prepare r .chat s = ofExcept (e.spelled r) t := by
  have laid : e.chatPrompt r s = ofExcept ((e.dialect r).format (r.messages.getD [])) t := by
    rw [chatPrompt, plain.checked, ← plain.dialectLayout e, ← declines.prompt]
    rfl
  rw [prepare, spelled]
  cases spelling : (e.dialect r).format (r.messages.getD []) with
  | error f =>
    rw [spelling] at laid
    rw [bind_error laid]
    rfl
  | ok p =>
    rw [spelling] at laid
    rw [bind_ok laid]
    rfl

theorem Plain.answer {d : Generation.Draft} {ended : Float} (plain : Plain r) (e : Engine σ)
    (stamp : Stamp) :
    (e.answer stamp r (.completed (d.completion ended))).withoutReply =
      .completed (d.completion ended) := by
  rw [Engine.answer, plain.toolless]
  rfl

theorem Plain.conclude_run (plain : Plain r) (stamp : Stamp) (sink : Option (Sink σ))
    (override : Option Prompt) (watch : σ → Bool) :
    (e.conclude stamp r .chat (e.controller.run r sink override watch t).1).withoutReply =
      (e.controller.run r sink override watch t).1 := by
  cases ran : (e.controller.run r sink override watch t).1 with
  | failed f => rfl
  | completed c =>
    obtain ⟨d, ended, rfl⟩ := Controller.run_completed ran
    exact plain.answer e stamp

theorem Plain.serve (plain : Plain (e.withDefaults r)) (declines : Declines e (e.withDefaults r) s t)
    (stamp : Stamp) (sink : Option (Sink σ)) (watch : σ → Bool) :
    (e.complete r sink watch).settled t =
      (((e.chat stamp r sink watch).settled s).1.map Result.withoutReply,
        ((e.chat stamp r sink watch).settled s).2) := by
  have text := congrFun (plain.prepare_text e) t
  have chat := plain.prepare_chat declines
  change settled (e.serve .text stamp r sink watch) t =
    ((settled (e.serve .chat stamp r sink watch) s).1.map _,
      (settled (e.serve .chat stamp r sink watch) s).2)
  cases spelling : e.spelled (e.withDefaults r) with
  | error f =>
    rw [spelling] at text chat
    rw [settled, settled, serve_unprepared text, serve_unprepared chat]
    cases told : Controller.finishSink sink "" t with
    | ok u v => rw [reject_told told]; rfl
    | error g v => rw [reject_untold told]; rfl
  | ok override =>
    rw [spelling] at text chat
    rw [settled, settled, serve_prepared text, serve_prepared chat]
    simp only [Except.map, plain.conclude_run]
    rfl

theorem Declines.recorded (declines : Declines e r s t) :
    ∃ ns : Journal σ, Laid e r (ns.map Note.deed) ∧
      Declines e.recorded r s.withJournal (t.withJournal.project ns.after) := by
  cases declines with
  | barred barred => exact ⟨[], .dialect barred, .barred barred⟩
  | nothing allowed asked =>
    obtain ⟨n, deed, asked'⟩ := ask_recorded (.layout (e.templateCall r)) _ s
    rw [asked] at asked'
    exact ⟨[n], by simpa [deed] using .native allowed _, .nothing allowed asked'⟩
  | unsupported allowed asked kind =>
    obtain ⟨n, deed, asked'⟩ := ask_recorded (.layout (e.templateCall r)) _ s
    rw [asked] at asked'
    exact ⟨[n], by simpa [deed] using .native allowed _, .unsupported allowed asked' kind⟩

/-- A conversation without tools that the backend does not lay out itself has, in the dialect of its
template, one prompt for both services. Its answer is the completion of that text with a reply, and
the same is asked of the backend and told to the sink, but for the layout that is asked first. Where
the backend was asked, the completion is that from the station it left. -/
theorem chat_eq_complete (plain : Plain (e.withDefaults r))
    (declines : Declines e (e.withDefaults r) s t) (stamp : Stamp) (sink : Option (Sink σ))
    (watch : σ → Bool) :
    (e.prepare (e.withDefaults r) .chat s = ofExcept (e.spelled (e.withDefaults r)) t ∧
      e.prepare (e.withDefaults r) .text = ofExcept (e.spelled (e.withDefaults r))) ∧
    (e.complete r sink watch).settled t =
      (((e.chat stamp r sink watch).settled s).1.map Result.withoutReply,
        ((e.chat stamp r sink watch).settled s).2) ∧
    ∃ ns : Journal σ, Laid e (e.withDefaults r) (ns.map Note.deed) ∧
      e.chatJournal stamp r sink watch s = ns ++ e.completeJournal r sink watch t := by
  refine ⟨⟨plain.prepare_chat declines, plain.prepare_text e⟩, plain.serve declines stamp sink watch, ?_⟩
  obtain ⟨ns, laid, declines'⟩ := declines.recorded
  refine ⟨ns, laid, ?_⟩
  have served := @Plain.serve _ e.recorded r _ _ plain declines' stamp (sink.map Sink.recorded)
    fun w => watch w.1
  have shifted := (@complete_over _ _ ns.after _ _ _ _ (fun w => watch w.1) (fun w => watch w.1)
    (recorded_engine_after ns e) (recorded_sink_after ns sink) (fun _ => rfl) r).settled t.withJournal
  rw [served] at shifted
  exact congrArg (fun out => out.2.world.2) shifted

end Engine

def streamedTalk : Request := { rehearsedTalk with stream := true }

theorem streamedTalk_checked : Engine.checkChat streamedTalk = .ok () := rehearsedTalk_checked

def decliningStation : Station Rehearsal.World where
  world :=
    { script := { template := .declining, items := [.piece "xy", .piece "ab", .piece "cd"] } }

def declinedStation : Station Rehearsal.World where
  world := decliningStation.world.note (.templated (rehearsedEngine.templateCall streamedTalk))

def noting : Sink Rehearsal.World := fun text last s =>
  .ok true (s.mapWorld fun w => w.hand text last)

theorem chat_eq_complete_rehearsed :
    let r := rehearsedEngine.withDefaults streamedTalk
    let chat := (rehearsedEngine.chat ⟨0, 0, ""⟩ streamedTalk (some noting) fun _ => false).settled
      decliningStation
    (rehearsedEngine.prepare r .chat decliningStation =
        Act.ofExcept (rehearsedEngine.spelled r) declinedStation ∧
      rehearsedEngine.prepare r .text = Act.ofExcept (rehearsedEngine.spelled r)) ∧
    (rehearsedEngine.complete streamedTalk (some noting) fun _ => false).settled declinedStation =
      (chat.1.map Result.withoutReply, chat.2) ∧
    chat.2.world.handed = [("xya", true), ("a", false), ("xy", false)] ∧
    ∃ ns : Journal Rehearsal.World, Engine.Laid rehearsedEngine r (ns.map Note.deed) ∧
      rehearsedEngine.chatJournal ⟨0, 0, ""⟩ streamedTalk (some noting) (fun _ => false)
          decliningStation =
        ns ++ rehearsedEngine.completeJournal streamedTalk (some noting) (fun _ => false)
          declinedStation := by
  have declines : Engine.Declines rehearsedEngine (rehearsedEngine.withDefaults streamedTalk)
      decliningStation declinedStation := .nothing ⟨rfl, rfl⟩ rfl
  obtain ⟨prompts, results, journals⟩ := Engine.chat_eq_complete (e := rehearsedEngine)
    (r := streamedTalk) ⟨streamedTalk_checked, rfl, rfl⟩ declines ⟨0, 0, ""⟩ (some noting)
    fun _ => false
  exact ⟨prompts, results, by decide +kernel, journals⟩

end Completions
