import Completions.Proofs.SameOutcome
import Completions.Proofs.WriterGrammar

/-! Slots of a server. Whatever is demanded of it, an answer leaves as many slots free as there were
before; so of demands that come one after another none is refused for want of a slot. Main
statement: `slots_conserved`. -/

namespace Completions.Http

def Keeps {σ α : Type} (meanwhile : House σ → α × House σ) : Prop :=
  ∀ h, (meanwhile h).2.free = h.free

theorem openingLedger_le (t : Transmission) :
    t.openingLedger.released ≤ (t.closedAt 0).released := by
  cases t with
  | chunk c l guarded rest =>
    cases guarded with
    | true => exact Nat.le_succ _
    | false => exact Nat.le_refl _
  | _ => exact Nat.le_refl _

theorem released_textStream (h : Head) (d : Departure) (source : List Incoming) :
    (textStream h d {} {} source).openingLedger.released ≤ 1 ∧
      (textStream h d {} {} source).ledger.released = 1 := by
  obtain ⟨events, close, reading⟩ := exists_reading d 0 source
  have opening := openingLedger_le ((Idiom.text h).stream d {} {} source)
  rw [(returned_closedAt (Idiom.text h) d {} rfl source 0).1, ← textStream_eq] at opening
  exact ⟨opening, (written_reading .text h reading).returned.1⟩

theorem released_chatStream (h : Head) (d : Departure) (source : List Incoming) :
    (chatStream h d source).ledger.released = 1 := by
  obtain ⟨events, close, reading⟩ := exists_reading d 0 source
  exact (written_reading .chat h reading).returned.1

namespace Server

variable {σ α : Type} {sv : Server σ} {stamp : Stamp} {service : Engine.Service} {d : Departure}
  {l : Listener} {r : Request} {meanwhile : House σ → α × House σ} {h h' : House σ}

/-- So many slots are given back by a server whose slots are limited, and none by another. -/
def counted (sv : Server σ) (n : Nat) : Nat := if sv.slots.isSome then n else 0

theorem free_release (n : Nat) (h : House σ) : (sv.release n h).free = h.free + sv.counted n := by
  unfold release counted
  cases sv.slots <;> rfl

theorem free_acquire (slot : sv.acquire h = some h') : h'.free + sv.counted 1 = h.free := by
  unfold acquire at slot
  unfold counted
  cases slots : sv.slots with
  | none =>
    rw [slots] at slot
    rw [← Option.some.inj slot]
    rfl
  | some n =>
    rw [slots] at slot
    by_cases full : h.free = 0
    · simp [full] at slot
    · have taken : { h with free := h.free - 1 } = h' := by simpa [full] using slot
      rw [← taken]
      change h.free - 1 + 1 = h.free
      omega

theorem acquire_isSome (free : 0 < h.free) : sv.acquire h ≠ none := by
  have some : h.free ≠ 0 := by omega
  unfold acquire
  cases sv.slots <;> simp [some]

theorem counted_add (m n : Nat) : sv.counted m + sv.counted n = sv.counted (m + n) := by
  unfold counted
  cases sv.slots.isSome <;> simp

theorem free_between {before after : Nat} (le : before ≤ after) (keeps : Keeps meanwhile)
    (h : House σ) :
    (sv.between before after meanwhile h).2.free = h.free + sv.counted after := by
  have all : sv.counted before + sv.counted (after - before) = sv.counted after := by
    rw [counted_add]
    congr 1
    omega
  change (sv.release (after - before) (meanwhile (sv.release before h)).2).free = _
  rw [free_release, keeps, free_release]
  omega

theorem free_whole (gone : Bool) (h : House σ) :
    (sv.whole service stamp gone r h).2.free = h.free + sv.counted 1 :=
  free_release 1 _

theorem free_streamText (keeps : Keeps meanwhile) (h : House σ) :
    (sv.streamText stamp d l r meanwhile h).2.free = h.free + sv.counted 1 := by
  have after : (sv.eventsOf .text stamp l r h).2.free = h.free := rfl
  unfold streamText
  generalize sv.eventsOf .text stamp l r h = heard at after ⊢
  obtain ⟨opening, whole⟩ :=
    released_textStream (sv.headOf stamp .text) d (heard.1.map .event)
  rw [← after, ← free_between opening keeps heard.2, ← whole]

theorem free_streamChat (keeps : Keeps meanwhile) (h : House σ) :
    (sv.streamChat stamp d l r meanwhile h).2.free = h.free + sv.counted 1 := by
  have after : (sv.eventsOf .chat stamp l r (meanwhile h).2).2.free = h.free := keeps h
  unfold streamChat
  dsimp only
  generalize sv.eventsOf .chat stamp l r (meanwhile h).2 = heard at after ⊢
  have whole := released_chatStream (sv.headOf stamp .chat) d (heard.1.map .event)
  rw [whole, free_release, after]

theorem free_afterwards {answer : Response × House σ} (keeps : Keeps meanwhile) :
    (afterwards answer meanwhile).2.free = answer.2.free :=
  keeps answer.2

/-- A slot that was taken for an answer is given back by it, on every way it can go. -/
theorem free_complete (keeps : Keeps meanwhile) (gone : Bool) :
    (sv.complete service stamp gone r meanwhile h).2.free = h.free := by
  cases slot : sv.acquire h with
  | none =>
    rw [complete, slot]
    exact keeps h
  | some h' =>
    have back := free_acquire slot
    rw [complete, slot]
    dsimp only
    by_cases stream : r.stream = true
    · rw [if_pos stream]
      cases service with
      | text => exact (free_streamText keeps h').trans back
      | chat => exact (free_streamChat keeps h').trans back
    · rw [if_neg stream, free_afterwards keeps, free_whole]
      exact back

theorem free_callEngine {β : Type} (act : Act σ β) (encode : β → Json) (h : House σ) :
    (callEngine act encode h).2.free = h.free := by
  unfold callEngine
  cases act h.station <;> rfl

theorem free_tokenize (body : Fields) (h : House σ) : (sv.tokenize body h).2.free = h.free := by
  unfold tokenize
  split
  · exact free_callEngine _ _ h
  · exact free_callEngine _ _ h

theorem free_handle (keeps : Keeps meanwhile) (d : Demand) :
    (sv.handle stamp d meanwhile h).2.free = h.free := by
  unfold handle
  cases routeOf d with
  | error w => exact keeps h
  | ok route =>
    cases route with
    | health => exact keeps h
    | models => exact keeps h
    | tokenize =>
      dsimp only
      cases bodyFields d.body with
      | error w => exact keeps h
      | ok body => exact (free_afterwards keeps).trans (free_tokenize body h)
    | detokenize =>
      dsimp only
      cases bodyFields d.body with
      | error w => exact keeps h
      | ok body => exact (free_afterwards keeps).trans (free_callEngine _ _ h)
    | complete service =>
      dsimp only
      cases bodyFields d.body >>= readRequest stamp sv.modelId service with
      | error w => exact keeps h
      | ok r => exact free_complete keeps d.gone

theorem status_wrong {w : Wrong} (status : (Response.wrong w).status = 429) : w = .busy := by
  cases w with
  | busy => rfl
  | engine kind message => cases kind <;> cases status
  | _ => cases status

theorem status_ofExcept {outcome : Except Wrong Json} (other : outcome ≠ .error .busy) :
    (Response.ofExcept outcome).status ≠ 429 := by
  intro status
  cases outcome with
  | error w => exact other (congrArg _ (status_wrong status))
  | ok v =>
    have answered : (Response.answer v).status ≠ 429 := by
      unfold Response.answer
      split <;> simp [Response.status]
    exact answered status

theorem orGone_ne_busy (collected : Except Collapse Completion) : orGone collected ≠ .busy := by
  unfold orGone
  split <;> simp

theorem collapsed_ne_busy (c : Collapse) : collapsed c ≠ .busy := by
  unfold collapsed
  split <;> simp

theorem status_whole (gone : Bool) (h : House σ) :
    (sv.whole service stamp gone r h).1.status ≠ 429 := by
  apply status_ofExcept
  cases gone with
  | true => simp [orGone_ne_busy]
  | false =>
    dsimp only
    generalize collect none _ = collected
    cases collected with
    | ok c => simp [Except.map, Except.mapError]
    | error c => simp [Except.map, Except.mapError, collapsed_ne_busy]

theorem routeOf_ne_busy (d : Demand) : routeOf d ≠ .error .busy := by
  unfold routeOf
  split
  · simp
  · split <;> simp

theorem bodyFields_ne_busy (body : String) : bodyFields body ≠ .error .busy := by
  unfold bodyFields
  split <;> simp

theorem readRequest_ne_busy (modelId : String) (body : Fields) :
    readRequest stamp modelId service body ≠ .error .busy := by
  have ofFlaw : ∀ f, Wrong.ofFlaw f ≠ .busy := by
    intro f
    unfold Wrong.ofFlaw
    split <;> simp
  have read : ∀ x : Except Request.Flaw Request, x.mapError Wrong.ofFlaw ≠ .error .busy := by
    intro x
    cases x <;> simp [Except.mapError, ofFlaw]
  unfold readRequest
  cases service with
  | text =>
    dsimp only
    split
    · simp [bind, Except.bind]
    · split
      · simp [bind, Except.bind]
      · exact read _
  | chat =>
    dsimp only
    split
    · simp [bind, Except.bind]
    · split
      · simp [bind, Except.bind]
      · exact read _

theorem readDemand_ne_busy (modelId : String) (body : String) :
    bodyFields body >>= readRequest stamp modelId service ≠ .error .busy := by
  cases read : bodyFields body with
  | error w =>
    intro busy
    have same : w = .busy := by simpa [bind, Except.bind] using busy
    exact bodyFields_ne_busy body (read.trans (congrArg _ same))
  | ok fields => exact readRequest_ne_busy modelId fields

theorem status_refused {β : Type} {read : Except Wrong β} {w : Wrong} (other : read ≠ .error .busy)
    (refused : read = .error w) : (Response.wrong w).status ≠ 429 := by
  intro status
  exact other (refused.trans (congrArg _ (status_wrong status)))

theorem status_callEngine {β : Type} (act : Act σ β) (encode : β → Json) (h : House σ) :
    (callEngine act encode h).1.status ≠ 429 := by
  have fault : ∀ f, engineFault f ≠ .busy := by
    intro f
    unfold engineFault
    split <;> simp
  intro status
  unfold callEngine at status
  cases called : act h.station with
  | ok b s =>
    rw [called] at status
    cases status
  | error f s =>
    rw [called] at status
    exact fault f (status_wrong status)

theorem status_tokenize (body : Fields) (h : House σ) : (sv.tokenize body h).1.status ≠ 429 := by
  unfold tokenize
  split
  · exact status_callEngine _ _ h
  · exact status_callEngine _ _ h

theorem status_complete (gone : Bool)
    (status : (sv.complete service stamp gone r meanwhile h).1.1.status = 429) :
    sv.acquire h = none := by
  cases slot : sv.acquire h with
  | none => rfl
  | some h' =>
    rw [complete, slot] at status
    dsimp only at status
    by_cases stream : r.stream = true
    · rw [if_pos stream] at status
      cases service with
      | text => cases status
      | chat => cases status
    · rw [if_neg stream] at status
      exact absurd status (status_whole gone h')

theorem status_handle (d : Demand) (status : (sv.handle stamp d meanwhile h).1.1.status = 429) :
    sv.acquire h = none := by
  unfold handle at status
  cases route : routeOf d with
  | error w =>
    rw [route] at status
    exact absurd status (status_refused (routeOf_ne_busy d) route)
  | ok route' =>
    rw [route] at status
    cases route' with
    | health => cases status
    | models => cases status
    | tokenize =>
      dsimp only at status
      cases read : bodyFields d.body with
      | error w =>
        rw [read] at status
        exact absurd status (status_refused (bodyFields_ne_busy d.body) read)
      | ok body =>
        rw [read] at status
        exact absurd status (status_tokenize body h)
    | detokenize =>
      dsimp only at status
      cases read : bodyFields d.body with
      | error w =>
        rw [read] at status
        exact absurd status (status_refused (bodyFields_ne_busy d.body) read)
      | ok body =>
        rw [read] at status
        exact absurd status (status_callEngine _ _ h)
    | complete service =>
      dsimp only at status
      cases read : bodyFields d.body >>= readRequest stamp sv.modelId service with
      | error w =>
        rw [read] at status
        exact absurd status (status_refused (readDemand_ne_busy sv.modelId d.body) read)
      | ok r =>
        rw [read] at status
        exact status_complete d.gone status

end Server

/-- A demand, the time it comes at, and what has become of the station since the one before. -/
structure Turn (σ : Type) where
  stamp : Stamp
  demand : Demand
  drift : Station σ → Station σ := id

namespace Server

variable {σ : Type}

def attend (sv : Server σ) : List (Turn σ) → House σ → List (Response × House σ)
  | [], _ => []
  | turn :: rest, h =>
    let h := { h with station := turn.drift h.station }
    let answered := sv.handle turn.stamp turn.demand undisturbed h
    (answered.1.1, answered.2) :: attend sv rest answered.2

theorem keeps_undisturbed : Keeps (undisturbed (σ := σ)) := fun _ => rfl

theorem free_attend (sv : Server σ) (turns : List (Turn σ)) (h : House σ) :
    ∀ answered ∈ sv.attend turns h,
      answered.2.free = h.free ∧ (0 < h.free → answered.1.status ≠ 429) := by
  induction turns generalizing h with
  | nil => simp [attend]
  | cons turn rest ih =>
    intro answered member
    have kept : (sv.handle turn.stamp turn.demand undisturbed
        { h with station := turn.drift h.station }).2.free = h.free :=
      free_handle keeps_undisturbed turn.demand
    rw [attend, List.mem_cons] at member
    cases member with
    | inl first =>
      rw [first]
      refine ⟨kept, ?_⟩
      intro free status
      exact acquire_isSome (h := { h with station := turn.drift h.station }) free
        (status_handle turn.demand status)
    | inr later =>
      rw [← kept]
      exact ih _ answered later

theorem make_limited (engine : Engine σ) (modelId : String) {limit : Nat} (pos : 1 ≤ limit) :
    Server.make? engine modelId (.int limit) = .ok { engine, modelId, slots := some limit } := by
  have slots : slotsOf (.int limit) = .ok (some limit) := by
    have some : limit ≠ 0 := by omega
    simp [slotsOf, Json.toInteger, some]
  rw [Server.make?, slots]
  rfl

/-- Demands that come one after another find all the slots of the server free, and none of them is
told that it is busy. -/
theorem slots_conserved (engine : Engine σ) (modelId : String) (limit : Nat) (pos : 1 ≤ limit) :
    ∃ sv, Server.make? engine modelId (.int limit) = .ok sv ∧ sv.slots = some limit ∧
      (∀ station, (sv.opened station).free = limit) ∧
      ∀ turns h, ∀ answered ∈ sv.attend turns h,
        answered.2.free = h.free ∧ (0 < h.free → answered.1.status ≠ 429) := by
  refine ⟨_, make_limited engine modelId pos, rfl, ?_, ?_⟩
  · intro station
    rfl
  · intro turns h
    exact free_attend _ turns h

theorem slots_conserved_rehearsed : 1 ≤ 1 ∧
    ∃ sv, Server.make? callingServer.engine "streamgen" (.int (1 : Nat)) = .ok sv ∧
      ∀ answered ∈ sv.attend
        [{ stamp := Rehearsal.stamp, demand := callingDemand true },
         { stamp := Rehearsal.stamp, demand := callingDemand false }] (sv.opened ⟨.idle, {}⟩),
        answered.2.free = 1 ∧ answered.1.status ≠ 429 := by
  obtain ⟨sv, made, -, opened, kept⟩ :=
    slots_conserved callingServer.engine "streamgen" 1 (Nat.le_refl 1)
  refine ⟨Nat.le_refl 1, sv, made, ?_⟩
  intro answered member
  obtain ⟨free, calm⟩ := kept _ _ answered member
  have one := opened ⟨.idle, {}⟩
  exact ⟨free.trans one, calm (by omega)⟩

end Server

end Completions.Http
