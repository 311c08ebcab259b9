import Completions.Proofs.Course
import Completions.Rehearsal.World

/-! The courses of a whole run: the prompt is read, the text written, the end told. Main statement:
`journal_course`, for the journal and the result of any run. -/

namespace Completions

variable {σ : Type}

open Act

namespace Generation

inductive ItemsRead : List Json → List Deed → Except Fault (List Int) → Prop
  | done : ItemsRead [] [] (.ok [])
  | untokenized (s : String) (rest : List Json) (f : Fault) :
    ItemsRead (.str s :: rest) [.tokenize s (.error f)] (.error f)
  | text (s : String) (tokens : List Int) {rest : List Json} {deeds : List Deed}
    {outcome : Except Fault (List Int)} (h : ItemsRead rest deeds outcome) :
    ItemsRead (.str s :: rest) (.tokenize s (.ok tokens) :: deeds) (outcome.map (tokens ++ ·))
  | notToken {v : Json} (hv : ∀ s, v ≠ .str s) (rest : List Json) {why : Json.NotInteger}
    (h : v.toInteger = .error why) : ItemsRead (v :: rest) [] (.error why.fault)
  | token {v : Json} (hv : ∀ s, v ≠ .str s) {n : Int} (hn : v.toInteger = .ok n) {rest : List Json}
    {deeds : List Deed} {outcome : Except Fault (List Int)} (h : ItemsRead rest deeds outcome) :
    ItemsRead (v :: rest) deeds (outcome.map (n :: ·))

inductive PromptRead : Prompt → List Deed → Except Fault (List Int) → Prop
  | text (s : String) (outcome : Except Fault (List Int)) :
    PromptRead (.text s) [.tokenize s outcome] outcome
  | items {xs : List Json} {deeds : List Deed} {outcome : Except Fault (List Int)}
    (h : ItemsRead xs deeds outcome) : PromptRead (.items xs) deeds outcome

inductive Ingested : Nat → List (List Int) → List Deed → Except Fault Unit → Prop
  | done (past : Nat) : Ingested past [] [] (.ok ())
  | broken (past : Nat) (part : List Int) (rest : List (List Int)) (f : Fault) :
    Ingested past (part :: rest) [.decode part past (.error f)] (.error f)
  | refused (past : Nat) (part : List Int) (rest : List (List Int)) :
    Ingested past (part :: rest) [.decode part past (.ok false)] (.error (Cause.prefill past).fault)
  | taken {past : Nat} {part : List Int} {rest : List (List Int)} {deeds : List Deed}
    {outcome : Except Fault Unit} (h : Ingested (past + part.length) rest deeds outcome) :
    Ingested past (part :: rest) (.decode part past (.ok true) :: deeds) outcome

inductive Prefilled (batch : Nat) (most : Option Int) (prompt : Prompt) :
    List Deed → Except Fault (Int × List Int) → Prop
  | uncleared (f : Fault) : Prefilled batch most prompt [.clear (.error f)] (.error f)
  | unsized (f : Fault) :
    Prefilled batch most prompt [.clear (.ok ()), .context (.error f)] (.error f)
  | unread (context : Int) {deeds : List Deed} {f : Fault}
    (read : PromptRead prompt deeds (.error f)) :
    Prefilled batch most prompt ([.clear (.ok ()), .context (.ok context)] ++ deeds) (.error f)
  | unfit {context : Int} {deeds : List Deed} {tokens : List Int} {cause : Cause}
    (read : PromptRead prompt deeds (.ok tokens))
    (length : checkLength most context tokens.length = .error cause) :
    Prefilled batch most prompt ([.clear (.ok ()), .context (.ok context)] ++ deeds)
      (.error cause.fault)
  | fit {context : Int} {deeds more : List Deed} {tokens : List Int} {outcome : Except Fault Unit}
    (read : PromptRead prompt deeds (.ok tokens))
    (length : checkLength most context tokens.length = .ok ())
    (ingested : Ingested 0 (slices batch tokens) more outcome) :
    Prefilled batch most prompt ([.clear (.ok ()), .context (.ok context)] ++ deeds ++ more)
      (outcome.map fun _ => (context, tokens))

inductive Flushed (t : Task σ) (ending : Ending) (p : Progress) :
    List Deed → Except Fault Progress → Prop
  | skipped (h : ¬(t.stream = true ∧ ending ≠ .declined)) : Flushed t ending p [] (.ok p)
  | flushed (h : t.stream = true ∧ ending ≠ .declined) {deeds : List Deed}
    {outcome : Except Fault (Bool × Progress)} (told : HandedOver t.sink p deeds outcome) :
    Flushed t ending p deeds (outcome.map Prod.snd)

inductive Composed (b : Backend σ) (maxNewTokens : Json) (t : Task σ) (context : Int)
    (promptSize : Nat) (s : Station (σ × Journal σ)) :
    Journal σ → Except Fault (Ending × Progress) → Prop
  | broken {ns : Journal σ} {f : Fault}
    (course : Course t (b.endToken s.world.1) context.toNat
      (budgetOf maxNewTokens (context.toNat - promptSize)) { past := promptSize } s ns (.error f)) :
    Composed b maxNewTokens t context promptSize s ns (.error f)
  | written {ns ms : Journal σ} {ending : Ending} {p : Progress} {outcome : Except Fault Progress}
    (course : Course t (b.endToken s.world.1) context.toNat
      (budgetOf maxNewTokens (context.toNat - promptSize)) { past := promptSize } s ns
      (.ok (ending, p)))
    (flushed : Flushed t ending p (ms.map Note.deed) outcome) :
    Composed b maxNewTokens t context promptSize s (ns ++ ms) (outcome.map fun q => (ending, q))

def Progress.draft (p : Progress) (began read : Float) (promptTokens : Nat) (ending : Ending) :
    Draft :=
  ⟨began, read, promptTokens, ending, String.ofList p.text.toList, p.tokens.reverse⟩

inductive Drafted (b : Backend σ) (batch : Nat) (most : Option Int) (maxNewTokens : Json)
    (prompt : Prompt) (t : Task σ) (s : Station (σ × Journal σ)) :
    Journal σ → Except Fault Draft → Prop
  | unread (began : Float) (w : σ) {ns : Journal σ} {f : Fault}
    (prefilled : Prefilled batch most prompt (ns.map Note.deed) (.error f)) :
    Drafted b batch most maxNewTokens prompt t s (⟨.clock began, w, false⟩ :: ns) (.error f)
  | composed (began read : Float) (w w' : σ) {ns ms : Journal σ} {context : Int} {tokens : List Int}
    {u : Station (σ × Journal σ)} {outcome : Except Fault (Ending × Progress)}
    (prefilled : Prefilled batch most prompt (ns.map Note.deed) (.ok (context, tokens)))
    (grows : Grows s u (⟨.clock began, w, false⟩ :: (ns ++ [⟨.clock read, w', false⟩])))
    (composed : Composed b maxNewTokens t context tokens.length u ms outcome) :
    Drafted b batch most maxNewTokens prompt t s
      (⟨.clock began, w, false⟩ :: (ns ++ ⟨.clock read, w', false⟩ :: ms))
      (outcome.map fun r => r.2.draft began read tokens.length r.1)

section Kinds

variable {t : Task σ} {deeds : List Deed}

theorem ItemsRead.kinds {xs : List Json} {r : Except Fault (List Int)} (h : ItemsRead xs deeds r) :
    ∀ d ∈ deeds, d.kind = .tokenize := by
  induction h with
  | done | notToken => exact List.forall_mem_nil _
  | untokenized s rest f => simp [Deed.kind]
  | text s tokens h ih => simpa [Deed.kind] using ih
  | token hv hn h ih => exact ih

theorem PromptRead.kinds {prompt : Prompt} {r : Except Fault (List Int)}
    (h : PromptRead prompt deeds r) : ∀ d ∈ deeds, d.kind = .tokenize := by
  cases h with
  | text s r => simp [Deed.kind]
  | items h => exact h.kinds

theorem Ingested.kinds {past : Nat} {parts : List (List Int)} {r : Except Fault Unit}
    (h : Ingested past parts deeds r) : ∀ d ∈ deeds, d.kind = .decode := by
  induction h with
  | done => exact List.forall_mem_nil _
  | broken | refused => simp [Deed.kind]
  | taken h ih => simpa [Deed.kind] using ih

theorem Prefilled.kinds {batch : Nat} {most : Option Int} {prompt : Prompt}
    {r : Except Fault (Int × List Int)} (h : Prefilled batch most prompt deeds r) :
    ∀ d ∈ deeds, d.kind ∈ [Deed.Kind.clear, .context, .tokenize, .decode] := by
  have front {context : Int} {ds : List Deed} (read : ∀ d ∈ ds, d.kind = .tokenize) :
      ∀ d ∈ [Deed.clear (.ok ()), .context (.ok context)] ++ ds,
        d.kind ∈ [Deed.Kind.clear, .context, .tokenize, .decode] := by
    intro d hd
    rcases List.mem_append.1 hd with hd | hd
    · rcases (by simpa using hd : d = .clear (.ok ()) ∨ d = .context (.ok context)) with rfl | rfl
      · exact .head _
      · exact .tail _ (.head _)
    · simp [read d hd]
  cases h with
  | uncleared | unsized => simp [Deed.kind]
  | unread context read | unfit read length => exact front read.kinds
  | fit read length ingested =>
    intro d hd
    rcases List.mem_append.1 hd with hd | hd
    · exact front read.kinds d hd
    · simp [ingested.kinds d hd]

theorem Flushed.kinds {ending : Ending} {p : Progress} {r : Except Fault Progress}
    (h : Flushed t ending p deeds r) : ∀ d ∈ deeds, d.kind = .tell := by
  cases h with
  | skipped => exact List.forall_mem_nil _
  | flushed h told => exact told.kinds

theorem Composed.kinds {b : Backend σ} {maxNewTokens : Json} {context : Int} {promptSize : Nat}
    {s : Station (σ × Journal σ)} {notes : Journal σ} {r : Except Fault (Ending × Progress)}
    (h : Composed b maxNewTokens t context promptSize s notes r) :
    ∀ d ∈ notes.map Note.deed, d.kind ∈ [Deed.Kind.sample, .piece, .decode, .tell] := by
  cases h with
  | broken course => exact course.kinds
  | written course flushed =>
    rw [List.map_append]
    intro d hd
    rcases List.mem_append.1 hd with hd | hd
    · exact course.kinds d hd
    · simp [flushed.kinds d hd]

theorem clock_kinds {ks : List Deed.Kind} (kinds : ∀ d ∈ deeds, d.kind ∈ ks) (reading : Float) :
    ∀ d ∈ Deed.clock reading :: deeds, d.kind ∈ Deed.Kind.clock :: ks := by
  intro d hd
  rcases List.mem_cons.1 hd with rfl | hd
  · exact .head _
  · exact .tail _ (kinds d hd)

end Kinds

theorem promptToken_does {b : Backend σ} {v : Json} {rest : List Json} (hv : ∀ s, v ≠ .str s)
    (ih : (promptItems b.recorded rest).Does (ItemsRead rest)) : Act.Does (do
      let token ← Act.ofExcept (v.toInteger.mapError Json.NotInteger.fault)
      let more ← promptItems b.recorded rest
      pure (token :: more)) (ItemsRead (v :: rest)) := by
  refine (Does.bind (does_ofExcept _) fun token => ih.map (token :: ·)).mono ?_
  rintro deeds r (⟨f, ⟨rfl, h⟩, rfl⟩ | ⟨n, ds, es, rfl, ⟨rfl, h⟩, outcome, read, rfl⟩)
  · cases number : v.toInteger with
    | ok n => rw [number] at h; cases h
    | error why =>
      rw [number] at h
      cases h
      exact .notToken hv rest number
  · cases number : v.toInteger with
    | ok m =>
      rw [number] at h
      cases h
      exact .token hv number read
    | error why => rw [number] at h; cases h

theorem promptItems_does (b : Backend σ) (xs : List Json) :
    (promptItems b.recorded xs).Does (ItemsRead xs) := by
  induction xs with
  | nil =>
    refine (does_pure []).mono ?_
    rintro ds r ⟨rfl, rfl⟩
    exact .done
  | cons v rest ih =>
    cases v with
    | str s =>
      refine (Does.bind (does_ask _ _) fun tokens => ih.map (tokens ++ ·)).mono ?_
      rintro deeds r (⟨f, rfl, rfl⟩ | ⟨tokens, ds, es, rfl, rfl, outcome, read, rfl⟩)
      · exact .untokenized s rest f
      · exact .text s tokens read
    | _ => exact promptToken_does (by simp) ih

theorem promptTokens_does (b : Backend σ) (prompt : Prompt) :
    (promptTokens b.recorded prompt).Does (PromptRead prompt) := by
  cases prompt with
  | text s =>
    refine (does_ask _ _).mono ?_
    rintro ds r rfl
    exact .text s r
  | items xs => exact (promptItems_does b xs).mono fun _ _ => .items

theorem ingest_does (b : Backend σ) (past : Nat) (parts : List (List Int)) :
    (ingest b.recorded past parts).Does (Ingested past parts) := by
  induction parts generalizing past with
  | nil =>
    refine (does_pure ()).mono ?_
    rintro ds r ⟨rfl, rfl⟩
    exact .done past
  | cons part rest ih =>
    refine (Does.bind (does_ask _ _) fun taken => does_ite (fun _ => ih (past + part.length))
      fun _ => does_refuse (Cause.prefill past).fault).mono ?_
    rintro deeds r (⟨f, rfl, rfl⟩ | ⟨taken, ds, es, rfl, rfl, ⟨rfl, h⟩ | ⟨no, rfl, rfl⟩⟩)
    · exact .broken past part rest f
    · exact .taken h
    · rw [Bool.not_eq_true] at no
      rw [no]
      exact .refused past part rest

theorem prefill_does (b : Backend σ) (batch : Nat) (most : Option Int) (prompt : Prompt) :
    (prefill b.recorded batch most prompt).Does (Prefilled batch most prompt) := by
  refine (Does.bind (does_ask _ _) fun _ => Does.bind (does_ask _ _) fun context =>
    Does.bind (promptTokens_does b prompt) fun tokens => Does.bind (does_ofExcept _) fun _ =>
      (ingest_does b 0 (slices batch tokens)).map fun _ => (context, tokens)).mono ?_
  rintro deeds r (⟨f, rfl, rfl⟩ | ⟨_, ds, es, rfl, rfl, rest⟩)
  · exact .uncleared f
  rcases rest with ⟨f, rfl, rfl⟩ | ⟨context, ds, es, rfl, rfl, rest⟩
  · exact .unsized f
  rcases rest with ⟨f, read, rfl⟩ | ⟨tokens, ds, es, rfl, read, rest⟩
  · exact .unread context read
  cases length : checkLength most context tokens.length with
  | error cause =>
    rw [length] at rest
    rcases rest with ⟨f, ⟨rfl, h⟩, rfl⟩ | ⟨_, ds, es, rfl, ⟨rfl, h⟩, -⟩
    · cases h
      rw [List.append_nil]
      exact .unfit read length
    · cases h
  | ok u =>
    rw [length] at rest
    rcases rest with ⟨f, ⟨rfl, h⟩, rfl⟩ | ⟨_, _, es', rfl, ⟨rfl, h⟩, outcome, ingested, rfl⟩
    · cases h
    · simpa using Prefilled.fit read length ingested

theorem flush_does (t : Task σ) (ending : Ending) (p : Progress) :
    (flush t.recorded ending p).Does (Flushed t ending p) := by
  refine (does_ite (fun _ => (handOver_does t.sink p).map Prod.snd) fun _ => does_pure p).mono ?_
  rintro ds r (⟨h, outcome, told, rfl⟩ | ⟨h, rfl, rfl⟩)
  · exact .flushed (show t.stream = true ∧ ending ≠ .declined from h) told
  · exact .skipped h

theorem compose_writes (b : Backend σ) (maxNewTokens : Json) (t : Task σ) (context : Int)
    (promptSize : Nat) : (compose b.recorded maxNewTokens t.recorded context promptSize).Writes
      (Composed b maxNewTokens t context promptSize) := by
  refine (Writes.look_bind fun endToken => Writes.bind (loop_course b t endToken _ _ _) fun r =>
    (flush_does t r.1 r.2).map fun q => (r.1, q)).mono ?_
  rintro s notes r (⟨f, course, rfl⟩ | ⟨⟨ending, p⟩, u, ns, ms, rfl, course, -, outcome, flushed, rfl⟩)
  · exact .broken course
  · exact .written course flushed

theorem draft_writes (b : Backend σ) (maxNewTokens : Json) (t : Task σ) (began : Float)
    (context : Int) (tokens : List Int) (read : Float) : Act.Writes (do
      let (ending, p) ← compose b.recorded maxNewTokens t.recorded context tokens.length
      pure (⟨began, read, tokens.length, ending, String.ofList p.text.toList, p.tokens.reverse⟩ : Draft))
      fun s ns r => ∃ outcome, Composed b maxNewTokens t context tokens.length s ns outcome ∧
        r = outcome.map fun r => r.2.draft began read tokens.length r.1 := by
  refine (Writes.bind (compose_writes b maxNewTokens t context tokens.length) fun r =>
    does_pure (r.2.draft began read tokens.length r.1)).mono ?_
  rintro s notes r (⟨f, composed, rfl⟩ | ⟨out, u, ns, ms, rfl, composed, -, none, rfl⟩)
  · exact ⟨_, composed, rfl⟩
  · rw [List.map_eq_nil_iff.1 none, List.append_nil]
    exact ⟨_, composed, rfl⟩

theorem write_writes (b : Backend σ) (batch : Nat) (most : Option Int) (maxNewTokens : Json)
    (prompt : Prompt) (t : Task σ) :
    (write b.recorded batch most maxNewTokens prompt t.recorded).Writes
      (Drafted b batch most maxNewTokens prompt t) := by
  refine (Writes.bind (writes_now b) fun began => Writes.bind (prefill_does b batch most prompt)
    fun r => Writes.bind (writes_now b) fun read =>
      draft_writes b maxNewTokens t began r.1 r.2 read).mono ?_
  rintro s notes r (⟨f, ⟨_, _, _, h⟩, -⟩ | ⟨began, u, ns, ms, rfl, ⟨_, w, rfl, h⟩, grows, rest⟩)
  · cases h
  cases h
  rcases rest with ⟨f, prefilled, rfl⟩ | ⟨⟨context, tokens⟩, v, ns, ms, rfl, prefilled, grows', rest⟩
  · exact .unread began w prefilled
  rcases rest with ⟨f, ⟨_, _, _, h⟩, -⟩ | ⟨read, x, _, ms, rfl, ⟨_, w', rfl, h⟩, grows'', rest⟩
  · cases h
  cases h
  obtain ⟨outcome, composed, rfl⟩ := rest
  exact .composed began read w w' prefilled ((grows.trans grows').trans grows'') composed

end Generation

namespace Controller

inductive Told (sink : Option (Sink σ)) (text : String) : List Deed → Except Fault Unit → Prop
  | nobody (h : sink = none) : Told sink text [] (.ok ())
  | told (h : sink ≠ none) (outcome : Except Fault Bool) :
    Told sink text [.tell text true outcome] (outcome.map fun _ => ())

theorem Told.kinds {sink : Option (Sink σ)} {text : String} {deeds : List Deed}
    {r : Except Fault Unit} (h : Told sink text deeds r) : ∀ d ∈ deeds, d.kind = .tell := by
  cases h <;> simp [Deed.kind]

theorem Told.kinds_ended {sink : Option (Sink σ)} {text : String} {ms : Journal σ}
    {r : Except Fault Unit} (h : Told sink text (ms.map Note.deed) r) (ended : Float) (w : σ) :
    ∀ d ∈ List.map Note.deed (ms ++ [⟨.clock ended, w, false⟩]), d.kind ∈ [Deed.Kind.clock, .tell] := by
  intro d hd
  rw [List.map_append, List.mem_append] at hd
  rcases hd with hd | hd
  · simp [h.kinds d hd]
  · rw [List.mem_singleton.1 hd]
    exact .head _

abbrev Wrote (c : Controller σ) (r : Request) (prompt : Prompt) (sink : Option (Sink σ))
    (watch : σ → Bool) : Station (σ × Journal σ) → Journal σ → Except Fault Generation.Draft → Prop :=
  Generation.Drafted c.backend c.batch c.maxPromptTokens r.maxNewTokens prompt (task r sink watch)

inductive Generated (c : Controller σ) (r : Request) (prompt : Prompt) (sink : Option (Sink σ))
    (watch : σ → Bool) (s : Station (σ × Journal σ)) : Journal σ → Result → Prop
  | failed {ns ms : Journal σ} {f : Fault} {outcome : Except Fault Unit}
    (wrote : c.Wrote r prompt sink watch s.enter ns (.error f))
    (told : Told sink "" (ms.map Note.deed) outcome) :
    Generated c r prompt sink watch s (ns ++ ms) (.failed f)
  | undelivered {ns ms : Journal σ} {d : Generation.Draft} {f : Fault}
    (wrote : c.Wrote r prompt sink watch s.enter ns (.ok d))
    (told : Told sink d.text (ms.map Note.deed) (.error f)) :
    Generated c r prompt sink watch s (ns ++ ms) (.failed f)
  | delivered {ns ms : Journal σ} {d : Generation.Draft} (ended : Float) (w : σ)
    (wrote : c.Wrote r prompt sink watch s.enter ns (.ok d))
    (told : Told sink d.text (ms.map Note.deed) (.ok ())) :
    Generated c r prompt sink watch s (ns ++ (ms ++ [⟨.clock ended, w, false⟩]))
      (.completed (d.completion ended))

inductive Ran (c : Controller σ) (r : Request) (override : Option Prompt) (sink : Option (Sink σ))
    (watch : σ → Bool) (s : Station (σ × Journal σ)) : Journal σ → Result → Prop
  | refused {ns : Journal σ} {f : Fault} {outcome : Except Fault Unit}
    (received : c.receive r override (s.project Prod.fst) = .error f)
    (told : Told sink "" (ns.map Note.deed) outcome) :
    Ran c r override sink watch s ns (.failed f)
  | generated {ns : Journal σ} {prompt : Prompt} {result : Result}
    (received : c.receive r override (s.project Prod.fst) = .ok prompt)
    (generated : Generated c r prompt sink watch s ns result) :
    Ran c r override sink watch s ns result

theorem finishSink_does (sink : Option (Sink σ)) (text : String) :
    (finishSink (sink.map Sink.recorded) text).Does (Told sink text) := by
  cases sink with
  | none =>
    refine (does_pure ()).mono ?_
    rintro ds r ⟨rfl, rfl⟩
    exact .nobody rfl
  | some sink =>
    refine ((does_tell sink text true).map fun _ => ()).mono ?_
    rintro ds r ⟨outcome, rfl, rfl⟩
    exact .told (by simp) outcome

theorem failed_leaves (sink : Option (Sink σ)) (f : Fault) (s : Station (σ × Journal σ)) :
    Leaves s (failed (sink.map Sink.recorded) f s) fun ns result =>
      result = .failed f ∧ ∃ outcome, Told sink "" (ns.map Note.deed) outcome := by
  obtain ⟨ns, grows, told⟩ := finishSink_does sink "" s
  exact ⟨ns, grows, rfl, _, told⟩

theorem deliver_writes (c : Controller σ) (sink : Option (Sink σ)) (d : Generation.Draft) :
    (c.recorded.deliver (sink.map Sink.recorded) d).Writes fun _ ns r =>
      (∃ f, Told sink d.text (ns.map Note.deed) (.error f) ∧ r = .error f) ∨
      ∃ ms ended w, ns = ms ++ [⟨.clock ended, w, false⟩] ∧
        Told sink d.text (ms.map Note.deed) (.ok ()) ∧ r = .ok (d.completion ended) := by
  refine (Writes.bind (finishSink_does sink d.text) fun _ => Writes.bind (writes_now c.backend)
    fun ended => does_pure (d.completion ended)).mono ?_
  rintro s notes r (⟨f, told, rfl⟩ | ⟨_, u, ns, ms, rfl, told, -, rest⟩)
  · exact .inl ⟨f, told, rfl⟩
  rcases rest with ⟨f, ⟨_, _, _, h⟩, -⟩ | ⟨ended, v, _, ms, rfl, ⟨_, w, rfl, h⟩, -, none, rfl⟩
  · cases h
  cases h
  rw [List.map_eq_nil_iff.1 none, List.append_nil]
  exact .inr ⟨ns, ended, w, rfl, told, rfl⟩

/-- The journal of a run that is let in grows as one of the courses says. -/
theorem generate_course (c : Controller σ) (r : Request) (prompt : Prompt) (sink : Option (Sink σ))
    (watch : σ → Bool) (s : Station (σ × Journal σ)) :
    let run := c.recorded.generate r prompt (sink.map Sink.recorded) (fun w => watch w.1) s
    ∃ ns, run.2.world.2 = s.world.2 ++ ns ∧ Generated c r prompt sink watch s ns run.1 := by
  intro run
  have writes : (Generation.write c.recorded.backend c.recorded.batch c.recorded.maxPromptTokens
      r.maxNewTokens prompt (task r (sink.map Sink.recorded) fun w => watch w.1)).Writes
      (c.Wrote r prompt sink watch) :=
    Generation.write_writes c.backend c.batch c.maxPromptTokens r.maxNewTokens prompt
      (task r sink watch)
  obtain ⟨ns, grows, wrote⟩ := writes s.enter
  -- A failure is told to the sink from outside the run, a draft from inside it.
  rcases out : (Generation.write c.recorded.backend c.recorded.batch c.recorded.maxPromptTokens
    r.maxNewTokens prompt (task r (sink.map Sink.recorded) fun w => watch w.1)).settled s.enter
    with ⟨f | d, t⟩
  · have ends : run = failed (sink.map Sink.recorded) f t.leave := by
      simp only [run, generate, out]
    rw [out] at grows wrote
    obtain ⟨ms, grows', result, outcome, told⟩ := failed_leaves sink f t.leave
    rw [ends, result]
    refine ⟨ns ++ ms, ?_, .failed wrote told⟩
    rw [grows'.journal, ← List.append_assoc]
    exact congrArg (· ++ ms) grows.journal
  · rw [out] at grows wrote
    obtain ⟨ms, grows', delivered⟩ := deliver_writes c sink d t
    rcases out' : (c.recorded.deliver (sink.map Sink.recorded) d).settled t with ⟨f | completion, u⟩
    · have ends : run = (.failed f, u.leave) := by simp only [run, generate, out, out']
      rw [out'] at grows' delivered
      rw [ends]
      rcases delivered with ⟨f', told, h⟩ | ⟨_, _, _, _, _, h⟩
      · cases h
        exact ⟨ns ++ ms, (grows.trans grows').journal, .undelivered wrote told⟩
      · cases h
    · have ends : run = (.completed completion, u.leave) := by
        simp only [run, generate, out, out']
      rw [out'] at grows' delivered
      rw [ends]
      rcases delivered with ⟨_, _, h⟩ | ⟨ms, ended, w, rfl, told, h⟩
      · cases h
      · cases h
        exact ⟨_, (grows.trans grows').journal, .delivered ended w wrote told⟩

theorem run_course (c : Controller σ) (r : Request) (override : Option Prompt)
    (sink : Option (Sink σ)) (watch : σ → Bool) (s : Station (σ × Journal σ)) :
    let run := c.recorded.run r (sink.map Sink.recorded) override (fun w => watch w.1) s
    ∃ ns, run.2.world.2 = s.world.2 ++ ns ∧ Ran c r override sink watch s ns run.1 := by
  have received := receive_over (recorded_controller_over c) r override s
  unfold run
  cases h : c.recorded.receive r override s with
  | error f =>
    obtain ⟨ns, grows, result, outcome, told⟩ := failed_leaves sink f s
    refine ⟨ns, grows.journal, ?_⟩
    simp only [result]
    exact .refused (received.trans h) told
  | ok prompt =>
    obtain ⟨ns, journal, generated⟩ := generate_course c r prompt sink watch s
    exact ⟨ns, journal, .generated (received.trans h) generated⟩

/-- The journal of a run and its result belong together. -/
theorem journal_course (c : Controller σ) (r : Request) (override : Option Prompt)
    (sink : Option (Sink σ)) (watch : σ → Bool) (s : Station σ) :
    Ran c r override sink watch s.withJournal (c.journal r sink override watch s)
      (c.run r sink override watch s).1 := by
  obtain ⟨notes, journal, ran⟩ := run_course c r override sink watch s.withJournal
  rw [run_recorded, show c.journal r sink override watch s = notes from journal]
  exact ran

theorem Ran.of_received {c : Controller σ} {r : Request} {override : Option Prompt}
    {sink : Option (Sink σ)} {watch : σ → Bool} {s : Station (σ × Journal σ)} {notes : Journal σ}
    {result : Result} {prompt : Prompt} (h : Ran c r override sink watch s notes result)
    (received : c.receive r override (s.project Prod.fst) = .ok prompt) :
    Generated c r prompt sink watch s notes result := by
  cases h with
  | refused refused told => cases received.symm.trans refused
  | generated received' generated =>
    obtain rfl := Except.ok.inj (received'.symm.trans received)
    exact generated

/-- A run begins when there is a prompt, the request is valid, the backend ready and nobody running. -/
theorem receive_eq_ok_iff {c : Controller σ} {r : Request} {override : Option Prompt}
    {prompt : Prompt} {s : Station σ} : c.receive r override s = .ok prompt ↔
      override.or r.prompt = some prompt ∧ r.validate = .ok () ∧ c.backend.ready s.world = true ∧
        s.gate.running = false := by
  unfold receive
  cases override.or r.prompt with
  | none => simp
  | some given =>
    cases r.validate with
    | error breach => exact ⟨nofun, fun ⟨_, valid, _⟩ => nomatch valid⟩
    | ok u =>
      cases c.backend.ready s.world with
      | false => exact ⟨nofun, fun ⟨_, _, ready, _⟩ => nomatch ready⟩
      | true =>
        cases s.gate.running with
        | true => exact ⟨nofun, fun ⟨_, _, _, idle⟩ => nomatch idle⟩
        | false =>
          refine ⟨fun received => ?_, fun ⟨prompted, _⟩ => ?_⟩
          · obtain rfl := Except.ok.inj received
            exact ⟨rfl, rfl, rfl, rfl⟩
          · obtain rfl := Option.some.inj prompted
            rfl

theorem journal_of_received {c : Controller σ} {r : Request} {override : Option Prompt}
    {prompt : Prompt} {s : Station σ} (received : c.receive r override s = .ok prompt)
    (sink : Option (Sink σ)) (watch : σ → Bool) : c.journal r sink override watch s =
      (c.recorded.generate r prompt (sink.map Sink.recorded) (fun w => watch w.1)
        s.withJournal).2.world.2 := by
  have received' : c.recorded.receive r override s.withJournal = .ok prompt :=
    (receive_over (recorded_controller_over c) r override s.withJournal).symm.trans received
  rw [journal, run, received']

end Controller

namespace Request

theorem validate_eq_ok_iff {r : Request} : r.validate = .ok () ↔ r.checkSource = .ok () ∧
    checkSampling r.sampling = .ok () ∧ checkBudget r.maxNewTokens = .ok () ∧
    checkToolChoice r.toolChoice = .ok () := by
  unfold validate
  cases r.checkSource with
  | error breach => simp [bind, Except.bind]
  | ok _ =>
    cases checkSampling r.sampling with
    | error breach => simp [bind, Except.bind]
    | ok _ => cases checkBudget r.maxNewTokens <;> simp [bind, Except.bind]

end Request

def Result.meets (test : Completion → Bool) : Result → Bool
  | .completed c => test c
  | .failed _ => false

theorem Result.completed_of_meets {test : Completion → Bool} {result : Result}
    (met : result.meets test = true) : ∃ c, result = .completed c ∧ test c = true := by
  cases result with
  | failed f => cases met
  | completed c => exact ⟨c, rfl, met⟩

def Act.meets (test : Completion → Bool) : EStateM.Result Fault (Station σ) Result → Bool
  | .ok result _ => result.meets test
  | .error _ _ => false

/-- Turns a run that is evaluated, with a test of its completion, into the equation of its end. -/
theorem Act.completed_of_meets {test : Completion → Bool}
    {ended : EStateM.Result Fault (Station σ) Result} (met : Act.meets test ended = true) :
    ∃ c t, ended = .ok (.completed c) t ∧ test c = true := by
  cases ended with
  | error f t => cases met
  | ok result t =>
    obtain ⟨c, rfl, tested⟩ := Result.completed_of_meets met
    exact ⟨c, t, rfl, tested⟩

def Sink.attentive : Sink σ := fun _ _ s => .ok true s

/-- A prompt of three tokens in slices of two, and a script that writes "abcd". -/
def rehearsed : Controller Rehearsal.World where
  backend := Rehearsal.backend
  batch := 2
  batch_pos := by decide
  rejectWhenBusy := false
  maxPromptTokens := none

def rehearsedRequest : Request where
  prompt := some (.items [.int 5, .int 6, .int 7])
  sampling := ⟨.int 1, .int 1, .int 40, .int 0, .int 7⟩
  stop := .ofList ["bc"]

def streamedRequest : Request := { rehearsedRequest with stream := true }

def rehearsedStation : Station Rehearsal.World where
  world := { script := { contextSize := 8, items := [.piece "ab", .piece "cd"] } }

theorem rehearsed_valid : rehearsedRequest.validate = .ok () := by
  have one : Number.tooLarge 1 = false := by decide +kernel
  have forty : Number.tooLarge 40 = false := by decide +kernel
  have zero : Number.tooLarge 0 = false := by decide +kernel
  simp [Request.validate, rehearsedRequest, Request.checkSource, Request.checkPrompt,
    Request.isPromptItem, Request.checkSampling, Request.checkNumber, one, forty, zero,
    Request.checkBudget]
  rfl

theorem rehearsed_received : rehearsed.receive rehearsedRequest none rehearsedStation =
    .ok (.items [.int 5, .int 6, .int 7]) :=
  Controller.receive_eq_ok_iff.2 ⟨rfl, rehearsed_valid, rfl, rfl⟩

def rehearsedDeeds : List Deed :=
  [.clock 0.0, .clear (.ok ()), .context (.ok 8), .decode [5, 6] 0 (.ok true),
    .decode [7] 2 (.ok true), .clock 0.0,
    .sample rehearsedRequest.sampling none none (.ok 2), .piece 2 (.ok "ab"),
    .decode [2] 3 (.ok true),
    .sample rehearsedRequest.sampling none none (.ok 3), .piece 3 (.ok "cd"),
    .decode [3] 4 (.ok true), .clock 0.0]

theorem rehearsed_notes : (rehearsed.journal rehearsedRequest none none (fun _ => false)
    rehearsedStation).map (fun note => (note.deed, note.cancels)) =
      rehearsedDeeds.map fun deed => (deed, false) := by
  rw [Controller.journal_of_received rehearsed_received]
  rfl

theorem rehearsed_deeds : (rehearsed.journal rehearsedRequest none none (fun _ => false)
    rehearsedStation).map Note.deed = rehearsedDeeds := by
  have deeds := congrArg (List.map Prod.fst) rehearsed_notes
  rw [List.map_map, List.map_map] at deeds
  exact deeds.trans (List.map_id _)

theorem rehearsed_completed : ∃ completion,
    (rehearsed.run rehearsedRequest none none (fun _ => false) rehearsedStation).1 =
      .completed completion ∧ completion.tokens = [2, 3] := by
  rw [Controller.run, rehearsed_received]
  exact ⟨_, rfl, rfl⟩

end Completions
