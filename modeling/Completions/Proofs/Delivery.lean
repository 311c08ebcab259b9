import Completions.Proofs.LoopText
import Completions.Proofs.ServiceCourse

/-! What a sink is told. The fragments of a text are handed over in order, and nothing that was handed
over is taken back; then comes one word of the end, and after it nothing. Main statement:
`sink_protocol`, for the run of a controller and both services of an engine. -/

namespace Completions

variable {σ : Type}

def spelled (said : List Word) : List Char := said.flatMap fun w => w.text.toList

@[simp] theorem spelled_append (said more : List Word) :
    spelled (said ++ more) = spelled said ++ spelled more := List.flatMap_append

namespace Generation

variable {t : Task σ} {p q : Progress} {endToken : Option Int} {context : Nat} {calm : Prop}
  {deeds : List Deed}

/-- The fragments of a stretch of a run that begins at `p`. It comes to where the text has got to,
and to whether the sink wanted to go on. -/
structure Stretch (t : Task σ) (p : Progress) (said : List Word)
    (r : Except Fault (Bool × Progress)) : Prop where
  fragment : ∀ w ∈ said, w.last = false ∧ w.text ≠ ""
  silent : t.stream = false ∨ t.sink = none → said = []
  inOrder : said.Pairwise fun w _ => w.outcome ≠ .ok false
  declined : ∀ w ∈ said, w.outcome = .ok false → ∃ q, r = .ok (false, q)
  spells : ∀ goOn q, r = .ok (goOn, q) → t.stream = true → t.sink ≠ none →
    p.text.toList.take p.sent ++ spelled said = q.text.toList.take q.sent

theorem Stretch.error (t : Task σ) (p : Progress) (f : Fault) : Stretch t p [] (.error f) where
  fragment := by simp
  silent _ := rfl
  inOrder := .nil
  declined := by simp
  spells := by simp

theorem Stretch.nothing (t : Task σ) {goOn : Bool}
    (h : p.text.toList.take p.sent = q.text.toList.take q.sent) :
    Stretch t p [] (.ok (goOn, q)) where
  fragment := by simp
  silent _ := rfl
  inOrder := .nil
  declined := by simp
  spells go r same _ _ := by
    obtain ⟨rfl, rfl⟩ := Prod.mk.inj (Except.ok.inj same)
    simpa [spelled] using h

theorem Stretch.append {said more : List Word} {r : Except Fault (Bool × Progress)}
    (h : Stretch t p said (.ok (true, q))) (h' : Stretch t q more r) :
    Stretch t p (said ++ more) r where
  fragment w hw := (List.mem_append.1 hw).elim (h.fragment w) (h'.fragment w)
  silent hs := by rw [h.silent hs, h'.silent hs, List.append_nil]
  inOrder := by
    refine List.pairwise_append.2 ⟨h.inOrder, h'.inOrder, fun w hw _ _ no => ?_⟩
    obtain ⟨_, none⟩ := h.declined w hw no
    cases none
  declined w hw no := by
    rcases List.mem_append.1 hw with hw | hw
    · obtain ⟨_, none⟩ := h.declined w hw no
      cases none
    · exact h'.declined w hw no
  spells goOn u hu stream sink := by
    rw [spelled_append, ← List.append_assoc, h.spells true q rfl stream sink,
      h'.spells goOn u hu stream sink]

theorem Stretch.extend {said : List Word} {r : Except Fault (Bool × Progress)} (token : Int)
    (piece : String) (inside : p.sent ≤ p.text.size) (h : Stretch t (p.extend token piece) said r) :
    Stretch t p said r where
  fragment := h.fragment
  silent := h.silent
  inOrder := h.inOrder
  declined := h.declined
  spells goOn q same stream sink := by
    rw [← h.spells goOn q same stream sink, toList_extend]
    rw [← Text.Growing.length_toList] at inside
    exact congrArg (· ++ _) (List.take_append_of_le_length inside).symm

theorem take_sent_append_unsent (p : Progress) :
    p.text.toList.take p.sent ++ p.unsent = p.handed.text.toList.take p.handed.sent := by
  rw [Progress.unsent, Text.Growing.since_eq, List.take_append_drop]
  change _ = p.text.toList.take p.text.size
  rw [← Text.Growing.length_toList, List.take_length]

theorem handedOver_stretch (stream : t.stream = true) {r : Except Fault (Bool × Progress)}
    (h : HandedOver t.sink p deeds r) : Stretch t p (words deeds) r := by
  cases h with
  | nothing nobody =>
    refine ⟨by simp [words], fun _ => rfl, .nil, by simp [words], ?_⟩
    rintro goOn q same - sink
    obtain ⟨-, rfl⟩ := Prod.mk.inj (Except.ok.inj same)
    have unsent := nobody.resolve_left sink
    have all := take_sent_append_unsent p
    rw [unsent] at all
    exact all
  | told someone unsent outcome =>
    refine ⟨?_, ?_, List.pairwise_singleton _ _, ?_, ?_⟩
    · intro w hw
      obtain rfl : w = _ := List.mem_singleton.1 hw
      exact ⟨rfl, fun none => unsent (by simpa using congrArg String.toList none)⟩
    · rintro (still | nobody)
      · rw [stream] at still
        cases still
      · exact absurd nobody someone
    · intro w hw no
      obtain rfl : w = _ := List.mem_singleton.1 hw
      exact ⟨p.handed, by rw [show outcome = .ok false from no]; rfl⟩
    · rintro goOn q same - -
      have all := take_sent_append_unsent p
      cases outcome with
      | error f => cases same
      | ok b =>
        obtain ⟨-, rfl⟩ := Prod.mk.inj (Except.ok.inj same)
        simpa [spelled, words, Deed.word?] using all

def willing (r : Option Ending × Progress) : Bool × Progress := (decide (r.1 ≠ some .declined), r.2)

theorem decided_stretch (hp : p.Settled t.words) {token : Int} {piece : String}
    {r : Except Fault (Option Ending × Progress)}
    (h : Decided t endToken context ((p.extend token piece).text.size - p.text.size) token
      (p.extend token piece) deeds r) : Stretch t p (words deeds) (r.map willing) := by
  have inside : p.sent ≤ p.text.size := hp.sound.sent_le
  refine Stretch.extend token piece inside ?_
  cases h with
  | stopped hit check =>
    refine Stretch.nothing t ?_
    rw [hp.checkEnd_extend] at check
    change _ = ((p.extend token piece).text.before hit.position).toList.take p.sent
    rw [Text.Growing.toList_before, List.take_take, Nat.min_eq_left (hp.sent_le_stop check)]
    rfl
  | held go keep => exact Stretch.nothing t rfl
  | @handed clear stream _ outcome told =>
    have stretch := handedOver_stretch stream told
    refine ⟨stretch.fragment, stretch.silent, stretch.inOrder, fun w hw no => ?_, ?_⟩
    · obtain ⟨q, rfl⟩ := stretch.declined w hw no
      exact ⟨q, rfl⟩
    · rintro goOn q same
      rcases outcome with f | ⟨b, u⟩
      · cases same
      · obtain ⟨-, rfl⟩ := Prod.mk.inj (Except.ok.inj same)
        exact stretch.spells b u rfl

theorem Advanced.silent {r : Except Fault (Int × Progress)} (h : Advanced t p deeds r) :
    words deeds = [] := words_eq_nil (kind_ne h.kinds (by decide))

theorem stepped_stretch (hp : p.Settled t.words) {r : Except Fault (Option Ending × Progress)}
    (h : Stepped t endToken context p calm deeds r) : Stretch t p (words deeds) (r.map willing) := by
  cases h with
  | interrupted busy => exact Stretch.nothing t rfl
  | failed calm advanced =>
    rw [advanced.silent]
    exact Stretch.error t p _
  | decided calm advanced decided =>
    rw [words_append, advanced.silent, List.nil_append]
    obtain ⟨piece, rfl, -⟩ := advanced.extends
    exact decided_stretch hp decided

def ended (r : Ending × Progress) : Option Ending × Progress := (some r.1, r.2)

theorem course_stretch {budget : Nat} {s : Station (σ × Journal σ)} {notes : Journal σ}
    {r : Except Fault (Ending × Progress)} (hp : p.Settled t.words)
    (h : Course t endToken context budget p s notes r) :
    Stretch t p (words (notes.map Note.deed)) ((r.map ended).map willing) := by
  induction h with
  | exhausted p s => exact Stretch.nothing t rfl
  | failed step => exact stepped_stretch hp step
  | ended step => exact stepped_stretch hp step
  | goesOn step grows rest ih =>
    rw [List.map_append, words_append]
    exact (stepped_stretch hp step).append (ih ((stepped_kept hp step).settled rfl))

theorem Prefilled.silent {batch : Nat} {most : Option Int} {prompt : Prompt}
    {r : Except Fault (Int × List Int)} (h : Prefilled batch most prompt deeds r) :
    words deeds = [] := words_eq_nil (kind_ne h.kinds (by decide))

end Generation

/-- The fragments of a text, as long as there is a text in the end. -/
structure Fragments (stream : Bool) (said : List Word) (text : Except Fault String) : Prop where
  fragment : ∀ w ∈ said, w.last = false ∧ w.text ≠ ""
  silent : stream = false → said = []
  inOrder : said.Pairwise fun w _ => w.outcome ≠ .ok false
  whole : ∀ content, text = .ok content → stream = true → spelled said = content.toList

theorem fragments_nil (stream : Bool) (f : Fault) : Fragments stream [] (.error f) where
  fragment := by simp
  silent _ := rfl
  inOrder := .nil
  whole _ same := by cases same

namespace Generation

variable {t : Task σ} {b : Backend σ} {maxNewTokens : Json} {s : Station (σ × Journal σ)}
  {notes : Journal σ}

theorem Stretch.fragments {p : Progress} {said : List Word} {r : Except Fault (Bool × Progress)}
    {text : Except Fault String} (h : Stretch t p said r)
    (whole : ∀ content, text = .ok content → t.stream = true → spelled said = content.toList) :
    Fragments t.stream said text :=
  ⟨h.fragment, fun still => h.silent (.inl still), h.inOrder, whole⟩

theorem Composed.fragments {context : Int} {promptSize : Nat}
    {r : Except Fault (Ending × Progress)} (someone : t.sink ≠ none)
    (h : Composed b maxNewTokens t context promptSize s notes r) :
    Fragments t.stream (words (notes.map Note.deed))
      (r.map fun x => String.ofList x.2.text.toList) := by
  have start := settled_start t.words promptSize
  cases h with
  | broken course => exact (course_stretch start course).fragments fun _ same => by cases same
  | @written ns _ ending p outcome course flushed =>
    have stretch := course_stretch start course
    have kept := course.kept start
    rw [List.map_append, words_append]
    generalize deeds : List.map Note.deed _ = ds at flushed ⊢
    cases flushed with
    | skipped done =>
      -- Of a streamed text nothing is left only if the sink declined, and then it has heard it all.
      rw [show words [] = [] from rfl, List.append_nil]
      refine stretch.fragments ?_
      rintro content same stream
      obtain rfl := Except.ok.inj same
      have declined : ending = .declined := by
        by_contra other
        exact done ⟨stream, other⟩
      have spelt := stretch.spells _ _ rfl stream someone
      change _ = p.text.toList.take p.sent at spelt
      rw [kept.2 declined, ← Text.Growing.length_toList, List.take_length] at spelt
      rw [String.toList_ofList]
      exact spelt
    | @flushed goes _ outcome told =>
      have first : Stretch t { past := promptSize } (words (ns.map Note.deed)) (.ok (true, p)) := by
        simpa [Except.map, willing, ended, goes.2] using stretch
      have all := first.append (handedOver_stretch goes.1 told)
      refine all.fragments ?_
      rintro content same stream
      rcases outcome with f | ⟨goOn, q⟩
      · cases same
      · obtain rfl := Except.ok.inj same
        have spelt := all.spells goOn q rfl stream someone
        rw [told.handed] at spelt ⊢
        change _ = p.text.toList.take p.text.size at spelt
        rw [← Text.Growing.length_toList, List.take_length] at spelt
        rw [String.toList_ofList]
        exact spelt

theorem Drafted.fragments {batch : Nat} {most : Option Int} {prompt : Prompt}
    {r : Except Fault Draft} (someone : t.sink ≠ none)
    (h : Drafted b batch most maxNewTokens prompt t s notes r) :
    Fragments t.stream (words (notes.map Note.deed)) (r.map Draft.text) := by
  cases h with
  | unread began w prefilled =>
    have silent : words (List.map Note.deed (⟨.clock began, w, false⟩ :: _)) = [] := prefilled.silent
    rw [silent]
    exact fragments_nil t.stream _
  | @composed began read w w' ns ms _ tokens _ outcome prefilled grows composed =>
    have said : words (List.map Note.deed
        (⟨.clock began, w, false⟩ :: (ns ++ ⟨.clock read, w', false⟩ :: ms))) =
        words (ms.map Note.deed) := by
      change words (List.map Note.deed (ns ++ ⟨.clock read, w', false⟩ :: ms)) = _
      rw [List.map_append, words_append, prefilled.silent]
      rfl
    rw [said]
    cases outcome <;> exact composed.fragments someone

end Generation

/-- What a sink is told, when the request is streamed or not and the run or service comes to the
outcome: the fragments and then the end. -/
structure Protocol (stream : Bool) (fragments : List Word) (final : Word)
    (outcome : Except Fault Result) : Prop where
  fragment : ∀ w ∈ fragments, w.last = false ∧ w.text ≠ ""
  last : final.last = true
  declined : fragments.Pairwise fun w _ => w.outcome ≠ .ok false
  silent : stream = false → fragments = []
  content : ∀ c, outcome = .ok (.completed c) → final.text = c.content
  whole : ∀ c, outcome = .ok (.completed c) → stream = true → spelled fragments = c.content.toList
  kept : ∀ c, outcome = .ok (.completed c) → ∀ delivered, delivered <+: fragments →
    spelled delivered <+: c.content.toList
  failure : (∀ c, outcome ≠ .ok (.completed c)) →
    (∀ w ∈ fragments ++ [final], ∃ goOn, w.outcome = .ok goOn) → final.text = ""

theorem Fragments.protocol {stream : Bool} {said : List Word} {text : Except Fault String}
    (h : Fragments stream said text) {final : Word} (last : final.last = true)
    {outcome : Except Fault Result}
    (content : ∀ c, outcome = .ok (.completed c) → text = .ok c.content ∧ final.text = c.content)
    (failure : (∀ c, outcome ≠ .ok (.completed c)) → (∃ goOn, final.outcome = .ok goOn) →
      final.text = "") : Protocol stream said final outcome where
  fragment := h.fragment
  last := last
  declined := h.inOrder
  silent := h.silent
  content c hc := (content c hc).2
  whole c hc := h.whole c.content (content c hc).1
  kept c hc delivered begins := by
    cases stream with
    | false =>
      rw [h.silent rfl, List.prefix_nil] at begins
      rw [begins]
      exact List.nil_prefix
    | true =>
      obtain ⟨rest, rfl⟩ := begins
      rw [← h.whole c.content (content c hc).1 rfl, spelled_append]
      exact List.prefix_append _ _
  failure noText heard := failure noText (heard final (by simp))

namespace Controller

variable {c : Controller σ} {r : Request} {sink : Sink σ} {watch : σ → Bool}
  {s : Station (σ × Journal σ)} {notes : Journal σ}

theorem Told.words {text : String} {deeds : List Deed} {outcome : Except Fault Unit}
    (h : Told (some sink) text deeds outcome) :
    ∃ answer, Completions.words deeds = [⟨text, true, answer⟩] ∧
      outcome = answer.map fun _ => () := by
  cases h with
  | nobody none => cases none
  | told _ answer => exact ⟨answer, rfl, rfl⟩

theorem Generated.protocol {prompt : Prompt} {result : Result}
    (h : Generated c r prompt (some sink) watch s notes result) :
    ∃ fragments final, Completions.words (notes.map Note.deed) = fragments ++ [final] ∧
      Protocol r.stream fragments final (.ok result) := by
  have someone : (task r (some sink) watch).sink ≠ none := Option.some_ne_none sink
  cases h with
  | @failed ns ms f _ wrote told =>
    obtain ⟨answer, heard, -⟩ := told.words
    have fragments := Generation.Drafted.fragments someone wrote
    refine ⟨_, ⟨"", true, answer⟩, by rw [List.map_append, words_append, heard], ?_⟩
    exact fragments.protocol rfl (fun _ same => by cases same) fun _ _ => rfl
  | @undelivered ns ms d f wrote told =>
    obtain ⟨answer, heard, failed⟩ := told.words
    have fragments := Generation.Drafted.fragments someone wrote
    refine ⟨_, ⟨d.text, true, answer⟩, by rw [List.map_append, words_append, heard], ?_⟩
    refine fragments.protocol rfl (fun _ same => by cases same) ?_
    rintro - ⟨goOn, taken⟩
    rw [show answer = .ok goOn from taken] at failed
    cases failed
  | @delivered ns ms d ended w wrote told =>
    obtain ⟨answer, heard, -⟩ := told.words
    have fragments := Generation.Drafted.fragments someone wrote
    have clock : Completions.words [Deed.clock ended] = [] := rfl
    refine ⟨_, ⟨d.text, true, answer⟩, ?_, fragments.protocol rfl ?_ ?_⟩
    · rw [List.map_append, words_append, List.map_append, words_append, heard, List.map_singleton,
        clock, List.append_nil]
    · rintro completion same
      cases same
      exact ⟨rfl, rfl⟩
    · intro noText
      exact absurd rfl (noText (d.completion ended))

theorem Ran.protocol {override : Option Prompt} {result : Result}
    (h : Ran c r override (some sink) watch s notes result) :
    ∃ fragments final, Completions.words (notes.map Note.deed) = fragments ++ [final] ∧
      Protocol r.stream fragments final (.ok result) := by
  cases h with
  | @refused f outcome received told =>
    obtain ⟨answer, heard, -⟩ := told.words
    refine ⟨[], ⟨"", true, answer⟩, heard, ?_⟩
    exact (fragments_nil r.stream f).protocol rfl (fun _ same => by cases same) fun _ _ => rfl
  | generated received generated => exact generated.protocol

end Controller

namespace Engine

theorem LaidOut.silent {deeds : List Deed} (h : LaidOut deeds) : words deeds = [] :=
  words_eq_nil fun d hd tell => by cases (h d hd).symm.trans tell

theorem Served.protocol {c : Controller σ} {r : Request} {sink : Sink σ} {watch : σ → Bool}
    {s : Station (σ × Journal σ)} {notes : Journal σ} {outcome : Except Fault Result}
    (h : Served c r (some sink) watch s notes outcome) :
    ∃ fragments final, words (notes.map Note.deed) = fragments ++ [final] ∧
      Protocol r.stream fragments final outcome := by
  cases h with
  | rejected f laidOut told =>
    obtain ⟨answer, heard, rfl⟩ := told.words
    refine ⟨[], ⟨"", true, answer⟩, ?_, ?_⟩
    · rw [List.map_append, words_append, laidOut.silent, heard]
    · refine (fragments_nil r.stream f).protocol rfl (fun completion same => ?_) fun _ _ => rfl
      cases answer <;> cases same
  | ran laidOut grows ran =>
    rw [List.map_append, words_append, laidOut.silent]
    exact ran.protocol

theorem answer_content {e : Engine σ} {stamp : Stamp} {r : Request} {result : Result}
    {c : Completion} (h : e.answer stamp r result = .completed c) :
    ∃ c', result = .completed c' ∧ c'.content = c.content := by
  cases result with
  | failed f => cases h
  | completed c' =>
    refine ⟨c', rfl, ?_⟩
    cases h
    dsimp only
    split
    · rfl
    · unfold withCalls
      split <;> rfl

theorem protocol_answered {stream : Bool} {fragments : List Word} {final : Word}
    {outcome : Except Fault Result} (h : Protocol stream fragments final outcome) (e : Engine σ)
    (stamp : Stamp) (r : Request) :
    Protocol stream fragments final (outcome.map (e.answer stamp r)) := by
  have back {c : Completion} (same : outcome.map (e.answer stamp r) = .ok (.completed c)) :
      ∃ c', outcome = .ok (.completed c') ∧ c'.content = c.content := by
    cases outcome with
    | error f => cases same
    | ok result =>
      obtain ⟨c', rfl, content⟩ := answer_content (Except.ok.inj same)
      exact ⟨c', rfl, content⟩
  refine ⟨h.fragment, h.last, h.declined, h.silent, ?_, ?_, ?_, ?_⟩
  · intro c same
    obtain ⟨c', run, content⟩ := back same
    rw [← content]
    exact h.content c' run
  · intro c same
    obtain ⟨c', run, content⟩ := back same
    rw [← content]
    exact h.whole c' run
  · intro c same
    obtain ⟨c', run, content⟩ := back same
    rw [← content]
    exact h.kept c' run
  · intro noText
    refine h.failure fun c run => ?_
    obtain ⟨c', answered⟩ : ∃ c', e.answer stamp r (.completed c) = .completed c' := ⟨_, rfl⟩
    exact noText c' (by rw [run, ← answered]; rfl)

end Engine

/-- Whatever the backend and the sink do, the sink of a run and of both services is told fragments and
then the end, and no more. -/
theorem sink_protocol (sink : Sink σ) (watch : σ → Bool) (r : Request) (s : Station σ) :
    (∀ (c : Controller σ) (override : Option Prompt), ∃ fragments final,
      words ((c.journal r (some sink) override watch s).map Note.deed) = fragments ++ [final] ∧
      Protocol r.stream fragments final (.ok (c.run r (some sink) override watch s).1)) ∧
    (∀ e : Engine σ, ∃ fragments final,
      words ((e.completeJournal r (some sink) watch s).map Note.deed) = fragments ++ [final] ∧
      Protocol r.stream fragments final ((e.complete r (some sink) watch).settled s).1) ∧
    ∀ (e : Engine σ) (stamp : Stamp), ∃ fragments final,
      words ((e.chatJournal stamp r (some sink) watch s).map Note.deed) = fragments ++ [final] ∧
      Protocol r.stream fragments final ((e.chat stamp r (some sink) watch).settled s).1 := by
  have stream (e : Engine σ) : (e.withDefaults r).stream = r.stream := by
    unfold Engine.withDefaults
    split <;> rfl
  refine ⟨fun c override => ?_, fun e => ?_, fun e stamp => ?_⟩
  · exact (Controller.journal_course c r override (some sink) watch s).protocol
  · rw [← stream e]
    exact (Engine.completeJournal_course e r (some sink) watch s).protocol
  · obtain ⟨outcome, served, result⟩ := Engine.chatJournal_course e stamp r (some sink) watch s
    obtain ⟨fragments, final, heard, protocol⟩ := served.protocol
    refine ⟨fragments, final, heard, ?_⟩
    rw [result, ← stream e]
    exact Engine.protocol_answered protocol e stamp (e.withDefaults r)

end Completions
