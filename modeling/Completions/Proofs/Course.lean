import Completions.Proofs.Journal

/-! The courses a run can take, as the deeds in its journal: what a step does to the outside and what
comes of it, said once, so that what holds of every run is shown by induction on its course and not
on the program. Main statement: `loop_course`, for the loop that samples the tokens. -/

namespace Completions

variable {σ α β : Type}

/-- Nothing has asked for the end of the run. -/
def Station.Calm (watch : σ → Bool) (s : Station (σ × Journal σ)) : Prop :=
  s.gate.cancelled = false ∧ watch s.world.1 = false

def Note.Calm (watch : σ → Bool) (n : Note σ) : Prop := n.cancels = false ∧ watch n.world = false

def Journal.worldAfter (w : σ) (notes : Journal σ) : σ := notes.foldl (fun _ n => n.world) w

/-- From `s` to `t` the journal grows by `notes`, which tell all changes of the world and hold all
that can ask for the end. -/
structure Grows (s t : Station (σ × Journal σ)) (notes : Journal σ) : Prop where
  journal : t.world.2 = s.world.2 ++ notes
  world : t.world.1 = Journal.worldAfter s.world.1 notes
  calm : ∀ watch, s.Calm watch → (∀ n ∈ notes, n.Calm watch) → t.Calm watch

theorem Grows.refl (s : Station (σ × Journal σ)) : Grows s s [] :=
  ⟨(List.append_nil _).symm, rfl, fun _ h _ => h⟩

theorem Grows.trans {s t u : Station (σ × Journal σ)} {ns ms : Journal σ} (h : Grows s t ns)
    (h' : Grows t u ms) : Grows s u (ns ++ ms) where
  journal := by rw [h'.journal, h.journal, List.append_assoc]
  world := by
    rw [h'.world, h.world]
    exact List.foldl_append.symm
  calm watch hs hn := by
    have ht := h.calm watch hs fun n hm => hn n (List.mem_append_left _ hm)
    exact h'.calm watch ht fun n hm => hn n (List.mem_append_right _ hm)

/-- From `s` an outcome is reached with the notes and the value that `P` says. -/
def Leaves (s : Station (σ × Journal σ)) (out : α × Station (σ × Journal σ))
    (P : Journal σ → α → Prop) : Prop :=
  ∃ notes, Grows s out.2 notes ∧ P notes out.1

def Act.Writes (act : Act (σ × Journal σ) α)
    (P : Station (σ × Journal σ) → Journal σ → Except Fault α → Prop) : Prop :=
  ∀ s, Leaves s (act.settled s) (P s)

namespace Act

variable {P : Station (σ × Journal σ) → Journal σ → Except Fault α → Prop}
  {R : Station (σ × Journal σ) → Journal σ → Except Fault β → Prop}

theorem Writes.mono {x : Act (σ × Journal σ) α}
    {P' : Station (σ × Journal σ) → Journal σ → Except Fault α → Prop} (h : x.Writes P)
    (hP : ∀ s ns r, P s ns r → P' s ns r) : x.Writes P' := by
  intro s
  obtain ⟨ns, grows, hp⟩ := h s
  exact ⟨ns, grows, hP s ns _ hp⟩

theorem Writes.look_bind {f : σ × Journal σ → α} {x : α → Act (σ × Journal σ) β}
    {Q : α → Station (σ × Journal σ) → Journal σ → Except Fault β → Prop}
    (h : ∀ a, (x a).Writes (Q a)) : (look f >>= x).Writes fun s ns r => Q (f s.world) s ns r :=
  fun s => h (f s.world) s

theorem Writes.bind {x : Act (σ × Journal σ) α} {f : α → Act (σ × Journal σ) β}
    {Q : α → Station (σ × Journal σ) → Journal σ → Except Fault β → Prop} (hx : x.Writes P)
    (hf : ∀ a, (f a).Writes (Q a)) : (x >>= f).Writes fun s notes r =>
      (∃ e, P s notes (.error e) ∧ r = .error e) ∨
      ∃ a t ns ms, notes = ns ++ ms ∧ P s ns (.ok a) ∧ Grows s t ns ∧ Q a t ms r := by
  intro s
  obtain ⟨ns, grows, hp⟩ := hx s
  cases hr : x s with
  | error e t =>
    rw [settled, hr] at grows hp
    rw [settled, bind_error hr]
    exact ⟨ns, grows, .inl ⟨e, hp, rfl⟩⟩
  | ok a t =>
    rw [settled, hr] at grows hp
    obtain ⟨ms, grows', hq⟩ := hf a t
    have same : (x >>= f).settled s = (f a).settled t := by rw [settled, bind_ok hr, settled]
    rw [same]
    exact ⟨ns ++ ms, grows.trans grows', .inr ⟨a, t, ns, ms, rfl, hp, grows, hq⟩⟩

/-- What an act does and comes to, where it does not matter in which station it begins. -/
def Does (act : Act (σ × Journal σ) α) (P : List Deed → Except Fault α → Prop) : Prop :=
  act.Writes fun _ ns r => P (ns.map Note.deed) r

theorem Does.mono {x : Act (σ × Journal σ) α} {P P' : List Deed → Except Fault α → Prop}
    (h : x.Does P) (hP : ∀ ds r, P ds r → P' ds r) : x.Does P' :=
  Writes.mono h fun _ _ _ => hP _ _

theorem does_pure (a : α) : Does (σ := σ) (pure a) fun ds r => ds = [] ∧ r = .ok a :=
  fun s => ⟨[], .refl s, rfl, rfl⟩

theorem does_refuse (f : Fault) : Does (σ := σ) (refuse (α := α) f) fun ds r =>
    ds = [] ∧ r = .error f :=
  fun s => ⟨[], .refl s, rfl, rfl⟩

theorem does_ofExcept (r₀ : Except Fault α) : Does (σ := σ) (ofExcept r₀) fun ds r =>
    ds = [] ∧ r = r₀ := by
  cases r₀ with
  | ok a => exact does_pure a
  | error f => exact does_refuse f

theorem Does.bind {x : Act (σ × Journal σ) α} {f : α → Act (σ × Journal σ) β}
    {P : List Deed → Except Fault α → Prop} {Q : α → List Deed → Except Fault β → Prop}
    (hx : x.Does P) (hf : ∀ a, (f a).Does (Q a)) : (x >>= f).Does fun deeds r =>
      (∃ e, P deeds (.error e) ∧ r = .error e) ∨
      ∃ a ds es, deeds = ds ++ es ∧ P ds (.ok a) ∧ Q a es r := by
  refine (Writes.bind hx hf).mono ?_
  rintro s notes r (⟨e, hp, rfl⟩ | ⟨a, t, ns, ms, rfl, hp, -, hq⟩)
  · exact .inl ⟨e, hp, rfl⟩
  · exact .inr ⟨a, _, _, List.map_append, hp, hq⟩

theorem Does.map {x : Act (σ × Journal σ) α} {P : List Deed → Except Fault α → Prop}
    (h : x.Does P) (f : α → β) :
    (x >>= fun a => pure (f a)).Does fun ds r => ∃ r', P ds r' ∧ r = r'.map f := by
  refine (h.bind fun a => does_pure (f a)).mono ?_
  rintro deeds r (⟨e, hp, rfl⟩ | ⟨a, ds, es, rfl, hp, rfl, rfl⟩)
  · exact ⟨.error e, hp, rfl⟩
  · exact ⟨.ok a, by rwa [List.append_nil], rfl⟩

theorem does_ite {c : Prop} [Decidable c] {x y : Act (σ × Journal σ) α}
    {P P' : List Deed → Except Fault α → Prop} (hx : c → x.Does P) (hy : ¬c → y.Does P') :
    Does (if c then x else y) fun ds r => (c ∧ P ds r) ∨ (¬c ∧ P' ds r) := by
  split
  · next h => exact (hx h).mono fun _ _ hp => .inl ⟨h, hp⟩
  · next h => exact (hy h).mono fun _ _ hp => .inr ⟨h, hp⟩

theorem settled_ask (call : Call α β) (s : Station α) : (ask call).settled s =
    ((call s.world).outcome,
      ⟨if (call s.world).cancels then s.gate.cancel else s.gate, (call s.world).world⟩) := by
  rw [settled, ask]
  cases (call s.world).outcome <;> rfl

theorem does_ask (deed : Except Fault α → Deed) (call : Call σ α) :
    Does (ask (call.recorded deed)) fun ds r => ds = [deed r] := by
  intro s
  rw [settled_ask]
  refine ⟨_, ⟨rfl, rfl, fun watch hs hn => ?_⟩, rfl⟩
  have note := hn _ (List.mem_singleton_self _)
  refine ⟨?_, note.2⟩
  rw [show (call.recorded deed s.world).cancels = false from note.1]
  exact hs.1

theorem writes_now (b : Backend σ) : Writes (turn b.recorded.now) fun _ ns r =>
    ∃ reading world, ns = [⟨.clock reading, world, false⟩] ∧ r = .ok reading := by
  intro s
  refine ⟨_, ⟨rfl, rfl, fun watch hs hn => ?_⟩, _, _, rfl, rfl⟩
  exact ⟨hs.1, (hn _ (List.mem_singleton_self _)).2⟩

theorem does_tell (sink : Sink σ) (text : String) (last : Bool) :
    Does (sink.recorded text last) fun ds r => ds = [.tell text last r] := by
  intro s
  simp only [settled, Sink.recorded]
  cases sink text last ⟨s.gate, s.world.1⟩ with
  | ok goOn t =>
    exact ⟨[⟨.tell text last (.ok goOn), t.world, t.gate.cancelled⟩],
      ⟨rfl, rfl, fun watch _ hn => hn _ (List.mem_singleton_self _)⟩, rfl⟩
  | error f t =>
    exact ⟨[⟨.tell text last (.error f), t.world, t.gate.cancelled⟩],
      ⟨rfl, rfl, fun watch _ hn => hn _ (List.mem_singleton_self _)⟩, rfl⟩

end Act

namespace Generation

def Task.sampled (t : Task σ) (outcome : Except Fault Int) : Deed :=
  .sample t.sampling t.grammar t.jsonSchema outcome

inductive Advanced (t : Task σ) (p : Progress) : List Deed → Except Fault (Int × Progress) → Prop
  | unsampled (f : Fault) : Advanced t p [t.sampled (.error f)] (.error f)
  | unread (token : Int) (f : Fault) :
    Advanced t p [t.sampled (.ok token), .piece token (.error f)] (.error f)
  | broken (token : Int) (piece : String) (f : Fault) :
    Advanced t p [t.sampled (.ok token), .piece token (.ok piece), .decode [token] p.past (.error f)]
      (.error f)
  | refused (token : Int) (piece : String) :
    Advanced t p [t.sampled (.ok token), .piece token (.ok piece), .decode [token] p.past (.ok false)]
      (.error Cause.decode.fault)
  | taken (token : Int) (piece : String) :
    Advanced t p [t.sampled (.ok token), .piece token (.ok piece), .decode [token] p.past (.ok true)]
      (.ok (token, p.extend token piece))

inductive HandedOver (sink : Option (Sink σ)) (p : Progress) :
    List Deed → Except Fault (Bool × Progress) → Prop
  | nothing (h : sink = none ∨ p.unsent = []) : HandedOver sink p [] (.ok (true, p.handed))
  | told (hs : sink ≠ none) (hu : p.unsent ≠ []) (outcome : Except Fault Bool) :
    HandedOver sink p [.tell (String.ofList p.unsent) false outcome]
      (outcome.map fun goOn => (goOn, p.handed))

/-- What becomes of a run after the token that has added `fresh` characters. -/
inductive Decided (t : Task σ) (endToken : Option Int) (context fresh : Nat) (token : Int)
    (p : Progress) : List Deed → Except Fault (Option Ending × Progress) → Prop
  | stopped (hit : Stop.Hit) (h : t.words.checkEnd p.text fresh = .stop hit) :
    Decided t endToken context fresh token p []
      (.ok (some (.stopWord hit.word), p.cut hit.position))
  | held (h : ∀ hit, t.words.checkEnd p.text fresh ≠ .stop hit)
    (h' : ¬(t.words.checkEnd p.text fresh = .clear ∧ t.stream = true)) :
    Decided t endToken context fresh token p [] (.ok (endingAfter t endToken context token p.past, p))
  | handed (h : t.words.checkEnd p.text fresh = .clear) (hs : t.stream = true) {deeds : List Deed}
    {outcome : Except Fault (Bool × Progress)} (told : HandedOver t.sink p deeds outcome) :
    Decided t endToken context fresh token p deeds (outcome.map fun r =>
      (if r.1 then endingAfter t endToken context token r.2.past else some .declined, r.2))

/-- One step of a run that has not been asked to end if `calm` holds. -/
inductive Stepped (t : Task σ) (endToken : Option Int) (context : Nat) (p : Progress) (calm : Prop) :
    List Deed → Except Fault (Option Ending × Progress) → Prop
  | interrupted (h : ¬calm) : Stepped t endToken context p calm [] (.ok (some .interrupted, p))
  | failed (h : calm) {deeds : List Deed} {f : Fault} (advanced : Advanced t p deeds (.error f)) :
    Stepped t endToken context p calm deeds (.error f)
  | decided (h : calm) {deeds more : List Deed} {token : Int} {q : Progress}
    {outcome : Except Fault (Option Ending × Progress)}
    (advanced : Advanced t p deeds (.ok (token, q)))
    (decided : Decided t endToken context (q.text.size - p.text.size) token q more outcome) :
    Stepped t endToken context p calm (deeds ++ more) outcome

/-- The steps of a loop with a budget, from a station in which it has come so far. -/
inductive Course (t : Task σ) (endToken : Option Int) (context : Nat) :
    Nat → Progress → Station (σ × Journal σ) → Journal σ → Except Fault (Ending × Progress) → Prop
  | exhausted (p : Progress) (s : Station (σ × Journal σ)) :
    Course t endToken context 0 p s [] (.ok (.exhausted, p))
  | failed {budget : Nat} {p : Progress} {s : Station (σ × Journal σ)} {ns : Journal σ} {f : Fault}
    (step : Stepped t endToken context p (s.Calm t.watch) (ns.map Note.deed) (.error f)) :
    Course t endToken context (budget + 1) p s ns (.error f)
  | ended {budget : Nat} {p q : Progress} {s : Station (σ × Journal σ)} {ns : Journal σ}
    {ending : Ending}
    (step : Stepped t endToken context p (s.Calm t.watch) (ns.map Note.deed) (.ok (some ending, q))) :
    Course t endToken context (budget + 1) p s ns (.ok (ending, q))
  | goesOn {budget : Nat} {p q : Progress} {s u : Station (σ × Journal σ)} {ns ms : Journal σ}
    {outcome : Except Fault (Ending × Progress)}
    (step : Stepped t endToken context p (s.Calm t.watch) (ns.map Note.deed) (.ok (none, q)))
    (grows : Grows s u ns) (rest : Course t endToken context budget q u ms outcome) :
    Course t endToken context (budget + 1) p s (ns ++ ms) outcome

section Deeds

variable {t : Task σ} {p q : Progress} {endToken : Option Int} {context : Nat} {deeds : List Deed}

theorem Advanced.kinds {r : Except Fault (Int × Progress)} (h : Advanced t p deeds r) :
    ∀ d ∈ deeds, d.kind ∈ [Deed.Kind.sample, .piece, .decode] := by
  cases h <;> simp [Deed.kind, Task.sampled]

theorem HandedOver.kinds {sink : Option (Sink σ)} {r : Except Fault (Bool × Progress)}
    (h : HandedOver sink p deeds r) : ∀ d ∈ deeds, d.kind = .tell := by
  cases h <;> simp [Deed.kind]

theorem Decided.kinds {fresh : Nat} {token : Int} {r : Except Fault (Option Ending × Progress)}
    (h : Decided t endToken context fresh token p deeds r) : ∀ d ∈ deeds, d.kind = .tell := by
  cases h with
  | stopped | held => exact List.forall_mem_nil _
  | handed _ _ told => exact told.kinds

theorem Stepped.kinds {calm : Prop} {r : Except Fault (Option Ending × Progress)}
    (h : Stepped t endToken context p calm deeds r) :
    ∀ d ∈ deeds, d.kind ∈ [Deed.Kind.sample, .piece, .decode, .tell] := by
  have wider {d : Deed} (h : d.kind ∈ [Deed.Kind.sample, .piece, .decode]) :
      d.kind ∈ [Deed.Kind.sample, .piece, .decode, .tell] :=
    List.mem_append_left [Deed.Kind.tell] h
  cases h with
  | interrupted => exact List.forall_mem_nil _
  | failed _ advanced => exact fun d hd => wider (advanced.kinds d hd)
  | decided _ advanced decided =>
    intro d hd
    rcases List.mem_append.1 hd with hd | hd
    · exact wider (advanced.kinds d hd)
    · simp [decided.kinds d hd]

theorem Course.kinds {budget : Nat} {s : Station (σ × Journal σ)} {notes : Journal σ}
    {r : Except Fault (Ending × Progress)} (h : Course t endToken context budget p s notes r) :
    ∀ d ∈ notes.map Note.deed, d.kind ∈ [Deed.Kind.sample, .piece, .decode, .tell] := by
  induction h with
  | exhausted => exact List.forall_mem_nil _
  | failed step | ended step => exact step.kinds
  | goesOn step grows rest ih =>
    rw [List.map_append]
    exact fun d hd => (List.mem_append.1 hd).elim (step.kinds d) (ih d)

theorem Advanced.extends {token : Int} (h : Advanced t p deeds (.ok (token, q))) :
    ∃ piece, q = p.extend token piece ∧ deeds = [t.sampled (.ok token), .piece token (.ok piece),
      .decode [token] p.past (.ok true)] := by
  cases h with
  | taken token piece => exact ⟨piece, rfl, rfl⟩

theorem HandedOver.handed {sink : Option (Sink σ)} {goOn : Bool}
    (h : HandedOver sink p deeds (.ok (goOn, q))) : q = p.handed := by
  generalize out : Except.ok (goOn, q) = outcome at h
  cases h with
  | nothing _ => exact congrArg Prod.snd (Except.ok.inj out)
  | told _ _ outcome =>
    cases outcome with
    | error f => cases out
    | ok goOn => exact congrArg Prod.snd (Except.ok.inj out)

end Deeds

def Task.recorded (t : Task σ) : Task (σ × Journal σ) where
  words := t.words
  sampling := t.sampling
  grammar := t.grammar
  jsonSchema := t.jsonSchema
  stream := t.stream
  ignoreEnd := t.ignoreEnd
  sink := t.sink.map Sink.recorded
  watch w := t.watch w.1

open Act

theorem advance_does (b : Backend σ) (t : Task σ) (p : Progress) :
    (advance b.recorded t.recorded p).Does (Advanced t p) := by
  refine (Does.bind (does_ask _ _) fun token => Does.bind (does_ask _ _) fun piece =>
    Does.bind (does_ask _ _) fun taken => does_ite (fun _ => does_pure (token, p.extend token piece))
      fun _ => does_refuse Cause.decode.fault).mono ?_
  rintro deeds r (⟨f, rfl, rfl⟩ | ⟨token, ds, es, rfl, rfl, rest⟩)
  · exact .unsampled f
  · rcases rest with ⟨f, rfl, rfl⟩ | ⟨piece, ds, es, rfl, rfl, rest⟩
    · exact .unread token f
    · rcases rest with ⟨f, rfl, rfl⟩ | ⟨taken, ds, es, rfl, rfl, rest⟩
      · exact .broken token piece f
      · rcases rest with ⟨rfl, rfl, rfl⟩ | ⟨no, rfl, rfl⟩
        · exact .taken token piece
        · rw [Bool.not_eq_true] at no
          rw [no]
          exact .refused token piece

theorem handOver_does (sink : Option (Sink σ)) (p : Progress) :
    (handOver (sink.map Sink.recorded) p).Does (HandedOver sink p) := by
  cases sink with
  | none =>
    refine (does_pure (true, p.handed)).mono ?_
    rintro ds r ⟨rfl, rfl⟩
    exact .nothing (.inl rfl)
  | some sink =>
    rw [Option.map_some]
    unfold handOver
    cases unsent : p.unsent with
    | nil =>
      refine (does_pure (true, p.handed)).mono ?_
      rintro ds r ⟨rfl, rfl⟩
      exact .nothing (.inr unsent)
    | cons c fragment =>
      refine ((does_tell sink _ false).map fun goOn => (goOn, p.handed)).mono ?_
      rintro ds r ⟨outcome, rfl, rfl⟩
      rw [← unsent]
      exact .told (by simp) (by simp [unsent]) outcome

theorem goOn_does (t : Task σ) (endToken : Option Int) (context fresh : Nat) (token : Int)
    (p : Progress) {check : Stop.Check} (h : t.words.checkEnd p.text fresh = check)
    (go : ∀ hit, check ≠ .stop hit) : Act.Does (do
      let (goOn, p) ←
        if check = .clear ∧ t.stream = true then handOver (t.sink.map Sink.recorded) p
        else pure (true, p)
      pure (if goOn then endingAfter t endToken context token p.past else some .declined, p))
    (Decided t endToken context fresh token p) := by
  refine (does_ite (fun _ => (handOver_does t.sink p).map fun r =>
    (if r.1 then endingAfter t endToken context token r.2.past else some .declined, r.2))
    fun _ => (does_pure (true, p)).map fun r =>
      (if r.1 then endingAfter t endToken context token r.2.past else some .declined, r.2)).mono ?_
  rintro ds r (⟨⟨clear, stream⟩, outcome, told, rfl⟩ | ⟨keep, outcome, ⟨rfl, rfl⟩, rfl⟩)
  · exact .handed (h.trans clear) stream told
  · exact .held (fun hit => h ▸ go hit) (h ▸ keep)

theorem settle_does (t : Task σ) (endToken : Option Int) (context fresh : Nat) (token : Int)
    (p : Progress) : (settle t.recorded endToken context fresh token p).Does
      (Decided t endToken context fresh token p) := by
  unfold settle
  cases check : t.words.checkEnd p.text fresh with
  | stop hit =>
    rw [show t.recorded.words.checkEnd p.text fresh = .stop hit from check]
    refine (does_pure (some (Ending.stopWord hit.word), p.cut hit.position)).mono ?_
    rintro ds r ⟨rfl, rfl⟩
    exact .stopped hit check
  | pending place =>
    rw [show t.recorded.words.checkEnd p.text fresh = .pending place from check]
    exact goOn_does t endToken context fresh token p check (by simp)
  | clear =>
    rw [show t.recorded.words.checkEnd p.text fresh = .clear from check]
    exact goOn_does t endToken context fresh token p check (by simp)

theorem isInterrupted_writes (watch : σ → Bool) :
    Writes (isInterrupted fun w : σ × Journal σ => watch w.1) fun s ns r =>
      ns = [] ∧ ∃ asked : Bool, r = .ok asked ∧ (asked = true ↔ ¬s.Calm watch) := by
  intro s
  refine ⟨[], .refl s, rfl, s.gate.cancelled || watch s.world.1, rfl, ?_⟩
  rw [Station.Calm]
  cases s.gate.cancelled <;> simp

theorem act_does (b : Backend σ) (t : Task σ) (endToken : Option Int) (context : Nat)
    (p : Progress) : Act.Does (do
      let (token, q) ← advance b.recorded t.recorded p
      settle t.recorded endToken context (q.text.size - p.text.size) token q) fun ds r =>
      ∀ calm : Prop, calm → Stepped t endToken context p calm ds r := by
  refine (Does.bind (advance_does b t p) fun q => settle_does t endToken context _ q.1 q.2).mono ?_
  rintro deeds r (⟨f, advanced, rfl⟩ | ⟨⟨token, q⟩, ds, es, rfl, advanced, decided⟩) calm h
  · exact .failed h advanced
  · exact .decided h advanced decided

theorem step_writes (b : Backend σ) (t : Task σ) (endToken : Option Int) (context : Nat)
    (p : Progress) : (step b.recorded t.recorded endToken context p).Writes fun s ns r =>
      Stepped t endToken context p (s.Calm t.watch) (ns.map Note.deed) r := by
  refine (Writes.bind (isInterrupted_writes t.watch) fun asked =>
    does_ite (fun _ => does_pure (some Ending.interrupted, p)) fun _ =>
      act_does b t endToken context p).mono ?_
  rintro s notes r (⟨f, ⟨-, asked, he, -⟩, rfl⟩ | ⟨asked, u, ns, ms, rfl, ⟨rfl, _, he, h⟩, -, rest⟩)
  · cases he
  · obtain rfl := Except.ok.inj he
    rw [List.nil_append]
    rcases rest with ⟨yes, none, rfl⟩ | ⟨no, step⟩
    · rw [none]
      exact .interrupted (h.1 yes)
    · exact step _ (Classical.not_not.1 fun busy => no (h.2 busy))

theorem rest_writes {b : Backend σ} {t : Task σ} {endToken : Option Int} {context budget : Nat}
    (r : Option Ending × Progress)
    (ih : ∀ q, (loop b.recorded t.recorded endToken context budget q).Writes
      (Course t endToken context budget q)) : Act.Writes (match r with
      | (some ending, q) => pure (ending, q)
      | (none, q) => loop b.recorded t.recorded endToken context budget q) fun s ns out =>
        (∃ ending, r.1 = some ending ∧ ns = [] ∧ out = .ok (ending, r.2)) ∨
        (r.1 = none ∧ Course t endToken context budget r.2 s ns out) := by
  obtain ⟨_ | ending, q⟩ := r
  · exact (ih q).mono fun _ _ _ rest => .inr ⟨rfl, rest⟩
  · exact fun s => ⟨[], .refl s, .inl ⟨ending, rfl, rfl, rfl⟩⟩

theorem loop_course (b : Backend σ) (t : Task σ) (endToken : Option Int) (context budget : Nat)
    (p : Progress) : (loop b.recorded t.recorded endToken context budget p).Writes
      (Course t endToken context budget p) := by
  induction budget generalizing p with
  | zero => exact fun s => ⟨[], .refl s, .exhausted p s⟩
  | succ budget ih =>
    refine (Writes.bind (step_writes b t endToken context p) fun r => rest_writes r ih).mono ?_
    rintro s notes r (⟨f, step, rfl⟩ | ⟨⟨_, q⟩, u, ns, ms, rfl, step, grows, rest⟩)
    · exact .failed step
    · rcases rest with ⟨ending, rfl, rfl, rfl⟩ | ⟨rfl, rest⟩
      · rw [List.append_nil]
        exact .ended step
      · exact .goesOn step grows rest

end Generation

end Completions
