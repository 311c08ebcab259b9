import Completions.Proofs.Preparation

/-! A backend that is not ready. No run begins on it, and nothing is asked of it but the layout of a
conversation, by the service that answers conversations. Main statement: `unready_asked`. -/

namespace Completions

variable {σ : Type}

def Journal.asked (notes : Journal σ) : List Deed :=
  (notes.map Note.deed).filter fun d => d.kind ≠ .tell

namespace Controller

variable {c : Controller σ} {r : Request} {override : Option Prompt} {sink : Option (Sink σ)}

theorem Told.asked_nil {text : String} {notes : Journal σ} {outcome : Except Fault Unit}
    (told : Told sink text (notes.map Note.deed) outcome) : Journal.asked notes = [] :=
  List.filter_eq_nil_iff.2 fun d hd => by simp [told.kinds d hd]

theorem receive_unready (unready : ∀ w, c.backend.ready w = false) {prompt : Prompt}
    (given : override.or r.prompt = some prompt) (valid : r.validate = .ok ()) (s : Station σ) :
    c.receive r override s = .error Cause.notReady.fault := by
  simp only [receive, given, valid, unready s.world]
  rfl

theorem Ran.asked_nil {watch : σ → Bool} {s : Station (σ × Journal σ)} {notes : Journal σ}
    {result : Result} (ran : Ran c r override sink watch s notes result)
    (unready : ∀ w, c.backend.ready w = false) : Journal.asked notes = [] := by
  cases ran with
  | refused received told => exact told.asked_nil
  | generated received generated =>
    have ready := (receive_eq_ok_iff.1 received).2.2.1
    cases (unready _).symm.trans ready

theorem run_unready (unready : ∀ w, c.backend.ready w = false) {prompt : Prompt}
    (given : override.or r.prompt = some prompt) (valid : r.validate = .ok ())
    (sink : Option (Sink σ)) (watch : σ → Bool) (s : Station σ) :
    (c.run r sink override watch s).1 = .failed Cause.notReady.fault := by
  rw [run, receive_unready unready given valid s]
  rfl

end Controller

namespace Engine

variable {e : Engine σ} {r : Request} {service : Service} {sink : Option (Sink σ)}
  {watch : σ → Bool} {s t : Station σ}

def Admits (r : Request) : Service → Prop
  | .text => r.validate = .ok ()
  | .chat => checkChat r = .ok ()

theorem Admits.valid (admitted : Admits r service) : r.validate = .ok () := by
  cases service with
  | text => exact admitted
  | chat =>
    unfold Admits checkChat at admitted
    cases valid : r.validate with
    | ok u => rfl
    | error breach =>
      rw [valid] at admitted
      cases messages : r.messages.isNone with
      | true =>
        rw [messages] at admitted
        cases admitted
      | false =>
        rw [messages] at admitted
        cases admitted

theorem Admits.given (admitted : Admits r service) {override : Option Prompt}
    (prepared : e.prepare r service s = .ok override t) :
    ∃ prompt, override.or r.prompt = some prompt := by
  cases service with
  | text =>
    obtain ⟨source, -⟩ := Request.validate_eq_ok_iff.1 admitted.valid
    rw [prepare] at prepared
    split at prepared
    · cases laid : e.transcript r with
      | error f =>
        rw [laid] at prepared
        cases prepared
      | ok p =>
        rw [laid] at prepared
        obtain ⟨rfl, -⟩ := EStateM.Result.ok.inj prepared
        exact ⟨.text p, rfl⟩
    · next own =>
      obtain ⟨rfl, -⟩ := EStateM.Result.ok.inj prepared
      cases prompt : r.prompt with
      | some p => exact ⟨p, rfl⟩
      | none =>
        cases messages : r.messages with
        | none =>
          rw [Request.checkSource, prompt, messages] at source
          cases source
        | some ms => simp [Request.isChat, prompt, messages] at own
  | chat =>
    rw [prepare] at prepared
    cases laid : e.chatPrompt r s with
    | error f u =>
      rw [Act.bind_error laid] at prepared
      cases prepared
    | ok p u =>
      rw [Act.bind_ok laid] at prepared
      obtain ⟨rfl, -⟩ := EStateM.Result.ok.inj prepared
      exact ⟨.text p, rfl⟩

theorem serve_unready (unready : ∀ w, e.backend.ready w = false)
    (admitted : Admits (e.withDefaults r) service) {override : Option Prompt}
    (prepared : e.prepare (e.withDefaults r) service s = .ok override t) (stamp : Stamp)
    (sink : Option (Sink σ)) (watch : σ → Bool) :
    ∃ u, e.serve service stamp r sink watch s = .ok (.failed Cause.notReady.fault) u := by
  obtain ⟨prompt, given⟩ := admitted.given prepared
  have result := Controller.run_unready unready given admitted.valid sink watch t
  rw [serve_prepared prepared, result, conclude_failed]
  exact ⟨_, rfl⟩

theorem LaidOut.asked {notes : Journal σ} (laidOut : LaidOut (notes.map Note.deed)) :
    Journal.asked notes = notes.map Note.deed :=
  List.filter_eq_self.2 fun d hd => by simp [laidOut d hd]

theorem serveJournal_unready (unready : ∀ w, e.backend.ready w = false) (service : Service)
    (stamp : Stamp) (r : Request) (sink : Option (Sink σ)) (watch : σ → Bool) (s : Station σ) :
    Prepares e (e.withDefaults r) service
      (Journal.asked (e.serveJournal service stamp r sink watch s)) := by
  obtain ⟨ns, ms, journal, prepares, continues⟩ :=
    serveJournal_course e service stamp r sink watch s
  have nothing : Journal.asked ms = [] := by
    generalize e.recorded.prepare (e.withDefaults r) service s.withJournal = prepared at continues
    cases continues with
    | rejected f t told => exact told.asked_nil
    | ran override t ran => exact ran.asked_nil unready
  have same : Journal.asked (ns ++ ms) = ns.map Note.deed := by
    rw [Journal.asked, List.map_append, List.filter_append]
    change Journal.asked ns ++ Journal.asked ms = _
    rw [nothing, List.append_nil, prepares.laidOut.asked]
  rwa [journal, same]

/-- On a backend that is not ready every run that may begin is refused for this reason, and the
backend is asked for nothing. So it is with the services, but that of conversations has the prompt
laid out first: the backend is asked for its own layout, if that may be used, and only when there is a
prompt the refusal has this reason. -/
theorem unready_asked (e : Engine σ) (unready : ∀ w, e.backend.ready w = false) (stamp : Stamp)
    (r : Request) (sink : Option (Sink σ)) (watch : σ → Bool) (s : Station σ) :
    (∀ override prompt, override.or r.prompt = some prompt → r.validate = .ok () →
      (e.controller.run r sink override watch s).1 = .failed Cause.notReady.fault ∧
      Journal.asked (e.controller.journal r sink override watch s) = []) ∧
    Journal.asked (e.serveJournal .text stamp r sink watch s) = [] ∧
    (checkChat (e.withDefaults r) = .ok () →
      Laid e (e.withDefaults r) (Journal.asked (e.serveJournal .chat stamp r sink watch s))) ∧
    ∀ service, Admits (e.withDefaults r) service →
      (∃ override t u, e.prepare (e.withDefaults r) service s = .ok override t ∧
        e.serve service stamp r sink watch s = .ok (.failed Cause.notReady.fault) u) ∨
      ∃ f t, e.prepare (e.withDefaults r) service s = .error f t ∧
        e.serve service stamp r sink watch s = reject sink f t := by
  refine ⟨fun override prompt given valid => ⟨?_, ?_⟩, ?_, fun checked => ?_,
    fun service admitted => ?_⟩
  · exact Controller.run_unready unready given valid sink watch s
  · exact (Controller.journal_course e.controller r override sink watch s).asked_nil unready
  · have prepares := serveJournal_unready unready .text stamp r sink watch s
    generalize Journal.asked _ = deeds at prepares
    cases prepares
    rfl
  · have prepares := serveJournal_unready unready .chat stamp r sink watch s
    generalize Journal.asked _ = deeds at prepares
    cases prepares with
    | refused failed => exact absurd checked failed
    | laid _ laid => exact laid
  · cases prepared : e.prepare (e.withDefaults r) service s with
    | ok override t =>
      obtain ⟨u, served⟩ := serve_unready unready admitted prepared stamp sink watch
      exact .inl ⟨override, t, u, rfl, served⟩
    | error f t => exact .inr ⟨f, t, rfl, serve_unprepared prepared stamp sink watch⟩

end Engine

def unreadyEngine : Engine Rehearsal.World where
  controller := { rehearsed with backend := { Rehearsal.backend with ready := fun _ => false } }
  config := {}

theorem unready_asked_rehearsed :
    (unreadyEngine.controller.run rehearsedRequest none none (fun _ => false) rehearsedStation).1 =
        .failed Cause.notReady.fault ∧
      Journal.asked (unreadyEngine.controller.journal rehearsedRequest none none (fun _ => false)
        rehearsedStation) = [] ∧
      ∃ t, unreadyEngine.serve .text ⟨0, 0, ""⟩ rehearsedRequest none (fun _ => false)
        rehearsedStation = .ok (.failed Cause.notReady.fault) t := by
  obtain ⟨runs, -, -, services⟩ := Engine.unready_asked unreadyEngine (fun _ => rfl) ⟨0, 0, ""⟩
    rehearsedRequest none (fun _ => false) rehearsedStation
  obtain ⟨refused, nothing⟩ := runs none (.items [.int 5, .int 6, .int 7]) rfl rehearsed_valid
  refine ⟨refused, nothing, ?_⟩
  rcases services .text rehearsed_valid with ⟨_, _, t, -, served⟩ | ⟨f, t, unprepared, -⟩
  · exact ⟨t, served⟩
  · cases unprepared

def rehearsedTalk : Request :=
  { rehearsedRequest with prompt := none, messages := some [{ role := .user, content := "hi" }] }

theorem rehearsedTalk_checked : Engine.checkChat rehearsedTalk = .ok () := by
  obtain ⟨-, sampling, budget, choice⟩ := Request.validate_eq_ok_iff.1 rehearsed_valid
  have valid : rehearsedTalk.validate = .ok () :=
    Request.validate_eq_ok_iff.2 ⟨rfl, sampling, budget, choice⟩
  rw [Engine.checkChat, valid]
  rfl

/-- A station whose backend has a template of its own and fails when it is asked for a layout. -/
def templateStation : Station Rehearsal.World where
  world :=
    { script := { template := .native, raising := [(.layout, ⟨.value, "no model"⟩)] } }

def laidWorld : Rehearsal.World :=
  templateStation.world.note (.templated (unreadyEngine.templateCall rehearsedTalk))

theorem rehearsedTalk_unprepared : unreadyEngine.prepare (unreadyEngine.withDefaults rehearsedTalk)
    .chat templateStation = .error (Cause.template "no model").fault ⟨.idle, laidWorld⟩ := by
  rw [show unreadyEngine.withDefaults rehearsedTalk = rehearsedTalk from rfl, Engine.prepare,
    Engine.chatPrompt, rehearsedTalk_checked]
  rfl

theorem rehearsedTalk_recorded : unreadyEngine.recorded.prepare
    (unreadyEngine.recorded.withDefaults rehearsedTalk) .chat templateStation.withJournal =
      .error (Cause.template "no model").fault ⟨.idle, (laidWorld,
        [⟨.layout (unreadyEngine.templateCall rehearsedTalk) (.error ⟨.value, "no model"⟩), laidWorld,
          false⟩])⟩ := by
  rw [show unreadyEngine.recorded.withDefaults rehearsedTalk = rehearsedTalk from rfl,
    Engine.prepare, Engine.chatPrompt, rehearsedTalk_checked]
  rfl

/-- A conversation that passes every check is laid out on a backend that is not ready, and it is the
layout that the refusal is about. -/
theorem unready_chat_lays_out :
    Engine.checkChat rehearsedTalk = .ok () ∧
      unreadyEngine.serve .chat ⟨0, 0, ""⟩ rehearsedTalk none (fun _ => false) templateStation =
        .ok (.failed (Cause.template "no model").fault) ⟨.idle, laidWorld⟩ ∧
      Journal.asked (unreadyEngine.serveJournal .chat ⟨0, 0, ""⟩ rehearsedTalk none (fun _ => false)
        templateStation) =
          [.layout (unreadyEngine.templateCall rehearsedTalk) (.error ⟨.value, "no model"⟩)] := by
  refine ⟨rehearsedTalk_checked, ?_, ?_⟩
  · rw [Engine.serve_unprepared rehearsedTalk_unprepared]
    rfl
  · rw [Engine.serveJournal, Act.settled, Engine.serve_unprepared rehearsedTalk_recorded]
    rfl

end Completions
