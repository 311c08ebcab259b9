import Completions.Engine.Complete

/-! The engine in a larger world. When a backend does in the large world what another does in the
small one, as seen through `π`, so does everything that is built on it. Main statements: `run_over`,
`complete_over` and `chat_over`, for the runs of a controller and the two services of an engine. -/

namespace Completions

variable {σ τ α β : Type} (π : τ → σ)

def Station.project (s : Station τ) : Station σ := ⟨s.gate, π s.world⟩

namespace Act

theorem bind_ok {x : Act σ α} {f : α → Act σ β} {s t : Station σ} {a : α} (h : x s = .ok a t) :
    (x >>= f) s = f a t := by
  change EStateM.bind x f s = f a t
  rw [EStateM.bind, h]

theorem bind_error {x : Act σ α} {f : α → Act σ β} {s t : Station σ} {e : Fault}
    (h : x s = .error e t) : (x >>= f) s = .error e t := by
  change EStateM.bind x f s = .error e t
  rw [EStateM.bind, h]

theorem settled_ok {x : Act σ α} {s t : Station σ} {a : α} (h : x s = .ok a t) :
    x.settled s = (.ok a, t) := by
  rw [settled, h]

theorem settled_error {x : Act σ α} {s t : Station σ} {f : Fault} (h : x s = .error f t) :
    x.settled s = (.error f, t) := by
  rw [settled, h]

theorem bind_leaves {P : Station σ → Prop} {x : Act σ α} {f : α → Act σ β} {s : Station σ}
    (first : P (x.settled s).2) (next : ∀ a t, P t → P ((f a).settled t).2) :
    P ((x >>= f).settled s).2 := by
  cases h : x s with
  | ok a t =>
    rw [settled_ok h] at first
    rw [settled, bind_ok h]
    exact next a t first
  | error e t =>
    rw [settled_error h] at first
    rwa [settled_error (bind_error h)]

def view : EStateM.Result Fault (Station τ) α → EStateM.Result Fault (Station σ) α
  | .ok a s => .ok a (s.project π)
  | .error f s => .error f (s.project π)

/-- What `large` does in the large world is, seen through `π`, what `small` does in the small one. -/
def Over (large : Act τ α) (small : Act σ α) : Prop :=
  ∀ s, small (s.project π) = view π (large s)

end Act

def Call.Over (large : Call τ α) (small : Call σ α) : Prop :=
  ∀ w, small (π w) = ⟨(large w).outcome, π (large w).world, (large w).cancels⟩

structure Backend.Over (large : Backend τ) (small : Backend σ) : Prop where
  ready : ∀ w, small.ready (π w) = large.ready w
  endToken : ∀ w, small.endToken (π w) = large.endToken w
  now : ∀ w, small.now (π w) = ((large.now w).1, π (large.now w).2)
  contextSize : Call.Over π large.contextSize small.contextSize
  clear : Call.Over π large.clear small.clear
  tokenize : ∀ text, Call.Over π (large.tokenize text) (small.tokenize text)
  decode : ∀ tokens past, Call.Over π (large.decode tokens past) (small.decode tokens past)
  sample : ∀ params grammar schema,
    Call.Over π (large.sample params grammar schema) (small.sample params grammar schema)
  piece : ∀ token, Call.Over π (large.piece token) (small.piece token)
  layout : ∀ call, Call.Over π (large.layout call) (small.layout call)

def Sink.Over : Option (Sink τ) → Option (Sink σ) → Prop :=
  Option.Rel fun large small => ∀ text last, Act.Over π (large text last) (small text last)

namespace Act

variable {π}

theorem over_pure (a : α) : Over π (pure a : Act τ α) (pure a) := fun _ => rfl

theorem Over.bind {x : Act τ α} {y : Act σ α} {f : α → Act τ β} {g : α → Act σ β}
    (hx : Over π x y) (hf : ∀ a, Over π (f a) (g a)) : Over π (x >>= f) (y >>= g) := by
  intro s
  have h := hx s
  cases hr : x s with
  | ok a t =>
    rw [hr] at h
    rw [bind_ok h, bind_ok hr]
    exact hf a t
  | error e t =>
    rw [hr] at h
    rw [bind_error h, bind_error hr]
    rfl

theorem over_ask {large : Call τ α} {small : Call σ α} (h : Call.Over π large small) :
    Over π (ask large) (ask small) := by
  intro s
  simp only [ask, Station.project, h s.world]
  cases (large s.world).outcome <;> rfl

theorem over_look {f : τ → α} {g : σ → α} (h : ∀ w, g (π w) = f w) : Over π (look f) (look g) :=
  fun s => congrArg (EStateM.Result.ok · (s.project π)) (h s.world)

theorem over_turn {f : τ → α × τ} {g : σ → α × σ} (h : ∀ w, g (π w) = ((f w).1, π (f w).2)) :
    Over π (turn f) (turn g) := by
  intro s
  simp only [turn, Station.project, h s.world]
  rfl

theorem over_refuse (f : Fault) : Over π (refuse f : Act τ α) (refuse f) := fun _ => rfl

theorem over_ofExcept (r : Except Fault α) : Over π (ofExcept r : Act τ α) (ofExcept r) := by
  cases r with
  | ok a => exact over_pure a
  | error f => exact over_refuse f

theorem over_ite {p : Prop} [Decidable p] {x x' : Act τ α} {y y' : Act σ α} (h : Over π x y)
    (h' : Over π x' y') : Over π (if p then x else x') (if p then y else y') := by
  split
  · exact h
  · exact h'

theorem Over.settled {large : Act τ α} {small : Act σ α} (h : Over π large small)
    (s : Station τ) : small.settled (s.project π) =
      ((large.settled s).1, (large.settled s).2.project π) := by
  rw [Act.settled, h s, Act.settled]
  cases large s <;> rfl

end Act

open Act

variable {π}

namespace Generation

theorem promptItems_over {b : Backend τ} {b₀ : Backend σ} (hb : Backend.Over π b b₀)
    (items : List Json) : Over π (promptItems b items) (promptItems b₀ items) := by
  induction items with
  | nil => exact over_pure _
  | cons v rest ih =>
    cases v with
    | str s => exact (over_ask (hb.tokenize s)).bind fun _ => ih.bind fun _ => over_pure _
    | _ => exact (over_ofExcept _).bind fun _ => ih.bind fun _ => over_pure _

theorem promptTokens_over {b : Backend τ} {b₀ : Backend σ} (hb : Backend.Over π b b₀)
    (prompt : Prompt) : Over π (promptTokens b prompt) (promptTokens b₀ prompt) := by
  cases prompt with
  | text s => exact over_ask (hb.tokenize s)
  | items xs => exact promptItems_over hb xs

theorem ingest_over {b : Backend τ} {b₀ : Backend σ} (hb : Backend.Over π b b₀)
    (past : Nat) (parts : List (List Int)) : Over π (ingest b past parts) (ingest b₀ past parts) := by
  induction parts generalizing past with
  | nil => exact over_pure _
  | cons part rest ih =>
    exact (over_ask (hb.decode part past)).bind fun _ => over_ite (ih _) (over_refuse _)

structure Task.Over (π : τ → σ) (t : Task τ) (t₀ : Task σ) : Prop where
  words : t₀.words = t.words
  sampling : t₀.sampling = t.sampling
  grammar : t₀.grammar = t.grammar
  jsonSchema : t₀.jsonSchema = t.jsonSchema
  stream : t₀.stream = t.stream
  ignoreEnd : t₀.ignoreEnd = t.ignoreEnd
  sink : Sink.Over π t.sink t₀.sink
  watch : ∀ w, t₀.watch (π w) = t.watch w

theorem handOver_over {sink : Option (Sink τ)} {sink₀ : Option (Sink σ)}
    (h : Sink.Over π sink sink₀) (p : Progress) :
    Over π (handOver sink p) (handOver sink₀ p) := by
  cases h with
  | none => exact over_pure _
  | some h =>
    unfold handOver
    cases p.unsent with
    | nil => exact over_pure _
    | cons c fragment => exact (h _ false).bind fun _ => over_pure _

section Loop

variable {b : Backend τ} {b₀ : Backend σ} {t : Task τ} {t₀ : Task σ}

theorem isInterrupted_over (ht : Task.Over π t t₀) :
    Over π (isInterrupted t.watch) (isInterrupted t₀.watch) := by
  intro s
  simp only [isInterrupted, Station.project, ht.watch]
  rfl

theorem advance_over (hb : Backend.Over π b b₀) (ht : Task.Over π t t₀) (p : Progress) :
    Over π (advance b t p) (advance b₀ t₀ p) := by
  unfold advance
  rw [ht.sampling, ht.grammar, ht.jsonSchema]
  exact (over_ask (hb.sample _ _ _)).bind fun token => (over_ask (hb.piece token)).bind fun _ =>
    (over_ask (hb.decode [token] p.past)).bind fun _ => over_ite (over_pure _) (over_refuse _)

theorem settle_over (ht : Task.Over π t t₀) (endToken : Option Int) (context fresh : Nat)
    (token : Int) (p : Progress) :
    Over π (settle t endToken context fresh token p) (settle t₀ endToken context fresh token p) := by
  have ending (token : Int) (past : Nat) :
      endingAfter t₀ endToken context token past = endingAfter t endToken context token past := by
    rw [endingAfter, endingAfter, ht.ignoreEnd]
  unfold settle
  simp only [ht.words, ht.stream, ending]
  cases t.words.checkEnd p.text fresh with
  | stop hit => exact over_pure _
  | clear | pending place =>
    exact over_ite ((handOver_over ht.sink p).bind fun _ => over_pure _)
      ((over_pure _).bind fun _ => over_pure _)

theorem step_over (hb : Backend.Over π b b₀) (ht : Task.Over π t t₀) (endToken : Option Int)
    (context : Nat) (p : Progress) :
    Over π (step b t endToken context p) (step b₀ t₀ endToken context p) :=
  (isInterrupted_over ht).bind fun _ => over_ite (over_pure _) <|
    (advance_over hb ht p).bind fun q => settle_over ht endToken context _ q.1 q.2

theorem loop_over (hb : Backend.Over π b b₀) (ht : Task.Over π t t₀) (endToken : Option Int)
    (context budget : Nat) (p : Progress) :
    Over π (loop b t endToken context budget p) (loop b₀ t₀ endToken context budget p) := by
  induction budget generalizing p with
  | zero => exact over_pure _
  | succ budget ih =>
    refine (step_over hb ht endToken context p).bind fun r => ?_
    obtain ⟨ending, q⟩ := r
    cases ending with
    | none => exact ih q
    | some ending => exact over_pure _

theorem prefill_over (hb : Backend.Over π b b₀) (batch : Nat) (most : Option Int)
    (prompt : Prompt) : Over π (prefill b batch most prompt) (prefill b₀ batch most prompt) :=
  (over_ask hb.clear).bind fun _ => (over_ask hb.contextSize).bind fun _ =>
    (promptTokens_over hb prompt).bind fun _ => (over_ofExcept _).bind fun _ =>
      (ingest_over hb 0 _).bind fun _ => over_pure _

theorem flush_over (ht : Task.Over π t t₀) (ending : Ending) (p : Progress) :
    Over π (flush t ending p) (flush t₀ ending p) := by
  unfold flush
  rw [ht.stream]
  exact over_ite ((handOver_over ht.sink p).bind fun _ => over_pure _) (over_pure _)

theorem compose_over (hb : Backend.Over π b b₀) (ht : Task.Over π t t₀) (maxNewTokens : Json)
    (context : Int) (promptSize : Nat) : Over π (compose b maxNewTokens t context promptSize)
      (compose b₀ maxNewTokens t₀ context promptSize) :=
  (over_look hb.endToken).bind fun _ => (loop_over hb ht _ _ _ _).bind fun r =>
    (flush_over ht r.1 r.2).bind fun _ => over_pure _

theorem write_over (hb : Backend.Over π b b₀) (ht : Task.Over π t t₀) (batch : Nat)
    (most : Option Int) (maxNewTokens : Json) (prompt : Prompt) :
    Over π (write b batch most maxNewTokens prompt t) (write b₀ batch most maxNewTokens prompt t₀) :=
  (over_turn hb.now).bind fun _ => (prefill_over hb batch most prompt).bind fun _ =>
    (over_turn hb.now).bind fun _ => (compose_over hb ht _ _ _).bind fun _ => over_pure _

end Loop

end Generation

namespace Controller

structure Over (π : τ → σ) (c : Controller τ) (c₀ : Controller σ) : Prop where
  backend : Backend.Over π c.backend c₀.backend
  batch : c₀.batch = c.batch
  rejectWhenBusy : c₀.rejectWhenBusy = c.rejectWhenBusy
  maxPromptTokens : c₀.maxPromptTokens = c.maxPromptTokens

variable {c : Controller τ} {c₀ : Controller σ} {sink : Option (Sink τ)} {sink₀ : Option (Sink σ)}
  {watch : τ → Bool} {watch₀ : σ → Bool}

theorem receive_over (hc : Over π c c₀) (r : Request) (override : Option Prompt) (s : Station τ) :
    c₀.receive r override (s.project π) = c.receive r override s := by
  simp only [receive, Station.project, hc.backend.ready, hc.rejectWhenBusy]

theorem task_over (hs : Sink.Over π sink sink₀) (hw : ∀ w, watch₀ (π w) = watch w) (r : Request) :
    Generation.Task.Over π (task r sink watch) (task r sink₀ watch₀) :=
  ⟨rfl, rfl, rfl, rfl, rfl, rfl, hs, hw⟩

theorem finishSink_over (hs : Sink.Over π sink sink₀) (text : String) :
    Act.Over π (finishSink sink text) (finishSink sink₀ text) := by
  cases hs with
  | none => exact over_pure _
  | some h => exact (h text true).bind fun _ => over_pure _

theorem failed_over (hs : Sink.Over π sink sink₀) (f : Fault) (s : Station τ) :
    failed sink₀ f (s.project π) = ((failed sink f s).1, (failed sink f s).2.project π) := by
  rw [failed, (finishSink_over hs "").settled s, failed]

theorem deliver_over (hc : Over π c c₀) (hs : Sink.Over π sink sink₀) (d : Generation.Draft) :
    Act.Over π (c.deliver sink d) (c₀.deliver sink₀ d) :=
  (finishSink_over hs d.text).bind fun _ => (over_turn hc.backend.now).bind fun _ => over_pure _

theorem generate_over (hc : Over π c c₀) (hs : Sink.Over π sink sink₀)
    (hw : ∀ w, watch₀ (π w) = watch w) (r : Request) (prompt : Prompt) (s : Station τ) :
    c₀.generate r prompt sink₀ watch₀ (s.project π) =
      ((c.generate r prompt sink watch s).1, (c.generate r prompt sink watch s).2.project π) := by
  have write := (Generation.write_over hc.backend (task_over hs hw r) c.batch c.maxPromptTokens
    r.maxNewTokens prompt).settled s.enter
  change _ = (_, Station.project π _) at write
  simp only [generate, hc.batch, hc.maxPromptTokens]
  rw [show (s.project π).enter = s.enter.project π from rfl, write]
  rcases (Act.settled (Generation.write c.backend c.batch c.maxPromptTokens r.maxNewTokens prompt
    (task r sink watch)) s.enter) with ⟨f | d, t⟩
  · exact failed_over hs f t.leave
  · dsimp only
    rw [(deliver_over hc hs d).settled t]
    rcases (c.deliver sink d).settled t with ⟨f | completion, u⟩ <;> rfl

theorem run_over (hc : Over π c c₀) (hs : Sink.Over π sink sink₀)
    (hw : ∀ w, watch₀ (π w) = watch w) (r : Request) (override : Option Prompt) (s : Station τ) :
    c₀.run r sink₀ override watch₀ (s.project π) =
      ((c.run r sink override watch s).1, (c.run r sink override watch s).2.project π) := by
  rw [run, receive_over hc, run]
  cases c.receive r override s with
  | error f => exact failed_over hs f s
  | ok prompt => exact generate_over hc hs hw r prompt s

end Controller

namespace Engine

structure Over (π : τ → σ) (e : Engine τ) (e₀ : Engine σ) : Prop where
  controller : Controller.Over π e.controller e₀.controller
  config : e₀.config = e.config
  catalog : e₀.catalog = e.catalog

variable {e : Engine τ} {e₀ : Engine σ} {sink : Option (Sink τ)} {sink₀ : Option (Sink σ)}
  {watch : τ → Bool} {watch₀ : σ → Bool}

theorem reject_over (hs : Sink.Over π sink sink₀) (f : Fault) :
    Act.Over π (reject sink f) (reject sink₀ f) :=
  (Controller.finishSink_over hs "").bind fun _ => over_pure _

theorem engineRun_over (he : Over π e e₀) (hs : Sink.Over π sink sink₀)
    (hw : ∀ w, watch₀ (π w) = watch w) (r : Request) (override : Option Prompt) :
    Act.Over π (e.run r sink override watch) (e₀.run r sink₀ override watch₀) := by
  intro s
  rw [run, Controller.run_over he.controller hs hw r override s, run]
  rfl

theorem dialect_over (he : Over π e e₀) (r : Request) : e₀.dialect r = e.dialect r := by
  rw [dialect, dialect, templateName, templateName, he.config, he.catalog]

theorem complete_over (he : Over π e e₀) (hs : Sink.Over π sink sink₀)
    (hw : ∀ w, watch₀ (π w) = watch w) (r : Request) :
    Act.Over π (e.complete r sink watch) (e₀.complete r sink₀ watch₀) := by
  have defaults : e₀.withDefaults r = e.withDefaults r := by
    rw [withDefaults, withDefaults, he.config]
  unfold complete
  simp only [defaults, transcript, dialect_over he]
  refine over_ite ?_ (engineRun_over he hs hw _ _)
  split
  · exact reject_over hs _
  · exact engineRun_over he hs hw _ _

theorem nativeLayout_over (he : Over π e e₀) (r : Request) :
    Act.Over π (e.nativeLayout r) (e₀.nativeLayout r) := by
  have call : e₀.templateCall r = e.templateCall r := by
    simp only [templateCall, templateName, he.config]
  intro s
  have asked := over_ask (he.controller.backend.layout (e.templateCall r)) s
  simp only [nativeLayout, backend, call, asked]
  cases ask (e.controller.backend.layout (e.templateCall r)) s with
  | ok prompt t => rfl
  | error f t =>
    simp only [view]
    split
    · rfl
    · split <;> rfl

theorem prompt_over (he : Over π e e₀) (r : Request) :
    Act.Over π (e.prompt r) (e₀.prompt r) := by
  have fallback : e₀.dialectLayout r = e.dialectLayout r := by
    rw [dialectLayout, dialectLayout, dialect_over he]
  unfold prompt
  rw [he.config, fallback]
  refine over_ite ((nativeLayout_over he r).bind fun native => ?_)
    ((over_pure none).bind fun native => ?_)
  all_goals
    cases native with
    | none => exact over_ofExcept _
    | some p => exact over_pure _

theorem chat_over (he : Over π e e₀) (hs : Sink.Over π sink sink₀)
    (hw : ∀ w, watch₀ (π w) = watch w) (stamp : Stamp) (r : Request) :
    Act.Over π (e.chat stamp r sink watch) (e₀.chat stamp r sink₀ watch₀) := by
  have defaults : e₀.withDefaults r = e.withDefaults r := by
    rw [withDefaults, withDefaults, he.config]
  have reply (stamp : Stamp) (r : Request) (result : Result) :
      e₀.answer stamp r result = e.answer stamp r result := by
    cases result <;> simp only [answer, chatReply, he.config]
  have prompt := (over_ofExcept (checkChat (e.withDefaults r))).bind fun _ =>
    prompt_over he (e.withDefaults r)
  intro s
  have laid : e₀.chatPrompt (e.withDefaults r) (s.project π) =
    view π (e.chatPrompt (e.withDefaults r) s) := prompt s
  simp only [chat, defaults, laid]
  cases e.chatPrompt (e.withDefaults r) s with
  | error f t => exact reject_over hs f t
  | ok p t =>
    simp only [view, engineRun_over he hs hw _ _ t]
    cases e.run (e.withDefaults r) sink (some (.text p)) watch t with
    | ok result u => exact congrArg (EStateM.Result.ok · (u.project π)) (reply stamp _ result)
    | error f u => rfl

end Engine

end Completions
