import Completions.Proofs.Delivery

/-! The search for stop words while a text is written. Only the end of the text is searched, from
shortly before the part that was not yet handed over, and that is enough: at every token it finds what
a search of the whole text finds, and what it finds begins in the part not handed over. Main statement:
`stop_scan`. -/

namespace Completions

variable {σ : Type}

namespace Generation

/-- Where a loop that begins at `p` in station `s` has got to after some tokens. -/
inductive Reaches (b : Backend σ) (t : Task σ) (endToken : Option Int) (context : Nat)
    (p : Progress) (s : Station σ) : Progress → Station σ → Prop
  | start : Reaches b t endToken context p s p s
  | next {q q' : Progress} {u u' : Station σ} (before : Reaches b t endToken context p s q u)
    (step : step b t endToken context q u = .ok (none, q') u') :
    Reaches b t endToken context p s q' u'

variable {b : Backend σ} {t : Task σ} {endToken : Option Int} {context past : Nat}
  {s : Station σ} {p q : Progress} {u v : Station (σ × Journal σ)}

theorem step_none {q' : Progress}
    (h : step b.recorded t.recorded endToken context q u = .ok (none, q') v) :
    ∃ notes, v.world.2 = u.world.2 ++ notes ∧
      Stepped t endToken context q (u.Calm t.watch) (notes.map Note.deed) (.ok (none, q')) := by
  obtain ⟨notes, grows, stepped⟩ := step_writes b t endToken context q u
  rw [Act.settled, h] at grows stepped
  exact ⟨notes, grows.journal, stepped⟩

theorem advance_ok {token : Int} (h : advance b.recorded t.recorded p u = .ok (token, q) v) :
    ∃ notes, v.world.2 = u.world.2 ++ notes ∧
      Advanced t p (notes.map Note.deed) (.ok (token, q)) := by
  obtain ⟨notes, grows, advanced⟩ := advance_does b t p u
  rw [Act.settled, h] at grows advanced
  exact ⟨notes, grows.journal, advanced⟩

/-- Before every token the text is settled, and the fragments so far spell what was handed over. -/
theorem Reaches.settled (h : Reaches b.recorded t.recorded endToken context { past := past }
    s.withJournal p u) : p.Settled t.words ∧
      Stretch t { past := past } (words (u.world.2.map Note.deed)) (.ok (true, p)) := by
  induction h with
  | start => exact ⟨settled_start t.words past, Stretch.nothing t rfl⟩
  | next before step ih =>
    obtain ⟨notes, journal, stepped⟩ := step_none step
    rw [journal, List.map_append, words_append]
    exact ⟨(stepped_kept ih.1 stepped).settled rfl, ih.2.append (stepped_stretch ih.1 stepped)⟩

theorem Stretch.spelled_prefix {said : List Word} {goOn : Bool}
    (h : Stretch t { past := past } said (.ok (goOn, q))) :
    spelled said <+: q.text.toList.take q.sent := by
  by_cases quiet : t.stream = false ∨ t.sink = none
  · rw [h.silent quiet]
    exact List.nil_prefix
  · obtain ⟨stream, someone⟩ := not_or.1 quiet
    have spelt := h.spells goOn q rfl (by simpa using stream) someone
    rw [← spelt]
    exact List.prefix_refl _

theorem Composed.absent {maxNewTokens : Json} {n : Int} {promptSize : Nat}
    {s : Station (σ × Journal σ)} {notes : Journal σ} {r : Except Fault (Ending × Progress)}
    (h : Composed b maxNewTokens t n promptSize s notes r) {ending : Ending}
    (ok : r = .ok (ending, q)) (place : Nat) : ¬t.words.StandsAt q.text.toList place := by
  cases h with
  | broken => cases ok
  | @written ns ms _ p outcome course flushed =>
    have sound := (course.kept (settled_start t.words promptSize)).1
    generalize List.map Note.deed ms = ds at flushed
    cases flushed with
    | skipped =>
      obtain ⟨-, rfl⟩ := Prod.mk.inj (Except.ok.inj ok)
      exact sound.absent place
    | @flushed _ _ outcome told =>
      rcases outcome with f | ⟨goOn, u⟩
      · cases ok
      · obtain ⟨-, rfl⟩ := Prod.mk.inj (Except.ok.inj ok)
        rw [told.handed]
        exact sound.absent place

theorem Drafted.absent {batch : Nat} {most : Option Int} {maxNewTokens : Json} {prompt : Prompt}
    {s : Station (σ × Journal σ)} {notes : Journal σ} {r : Except Fault Draft}
    (h : Drafted b batch most maxNewTokens prompt t s notes r) {d : Draft} (ok : r = .ok d)
    (place : Nat) : ¬t.words.StandsAt d.text.toList place := by
  cases h with
  | unread => cases ok
  | @composed _ _ _ _ _ _ _ _ _ outcome prefilled grows composed =>
    rcases outcome with f | ⟨ending, q⟩
    · cases ok
    · obtain rfl := Except.ok.inj ok
      rw [show (q.draft _ _ _ ending).text = String.ofList q.text.toList from rfl,
        String.toList_ofList]
      exact composed.absent rfl place

end Generation

theorem Controller.Generated.absent {c : Controller σ} {r : Request} {prompt : Prompt}
    {sink : Option (Sink σ)} {watch : σ → Bool} {s : Station (σ × Journal σ)} {notes : Journal σ}
    {result : Result} (h : Generated c r prompt sink watch s notes result) {completion : Completion}
    (ok : result = .completed completion) (place : Nat) :
    ¬r.stop.StandsAt completion.content.toList place := by
  cases h with
  | failed | undelivered => cases ok
  | delivered ended w wrote told =>
    cases ok
    exact Generation.Drafted.absent wrote rfl place

/-- At every token of the loop the check from the part handed over is that of the whole text, and it
is the check the loop makes; a stop word begins behind all that was handed over; and no text in which
a run ends holds one. -/
theorem stop_scan :
    (∀ (b : Backend σ) (t : Generation.Task σ) (endToken : Option Int) (context past : Nat)
      (s : Station σ) (p q : Generation.Progress) (u v : Station (σ × Journal σ)) (token : Int),
      Generation.Reaches b.recorded t.recorded endToken context { past := past } s.withJournal p u →
      Generation.advance b.recorded t.recorded p u = .ok (token, q) v →
      t.words.check q.text.toList q.sent = t.words.check q.text.toList 0 ∧
      t.words.checkEnd q.text (q.text.size - p.text.size) = t.words.check q.text.toList q.sent ∧
      ∀ hit, t.words.check q.text.toList q.sent = .stop hit → q.sent ≤ hit.position ∧
        spelled (words (v.world.2.map Note.deed)) <+: q.text.toList.take hit.position) ∧
    ∀ (c : Controller σ) (r : Request) (sink : Option (Sink σ)) (override : Option Prompt)
      (watch : σ → Bool) (s : Station σ) (completion : Completion),
      (c.run r sink override watch s).1 = .completed completion →
      ∀ w ∈ r.stop.list, ¬w.toList <:+: completion.content.toList := by
  constructor
  · intro b t endToken context past s p q u v token reaches advance
    obtain ⟨settled, stretch⟩ := reaches.settled
    obtain ⟨notes, journal, advanced⟩ := Generation.advance_ok advance
    obtain ⟨piece, rfl, -⟩ := advanced.extends
    have whole := settled.check_extend token piece
    refine ⟨whole, (settled.checkEnd_extend token piece).trans whole.symm, fun hit stop => ?_⟩
    have before := settled.sent_le_stop (whole.symm.trans stop)
    refine ⟨before, ?_⟩
    rw [journal, List.map_append, words_append, advanced.silent, List.append_nil]
    refine stretch.spelled_prefix.trans ?_
    have inside : p.sent ≤ p.text.toList.length := settled.sent_le
    rw [Generation.toList_extend, ← List.take_append_of_le_length inside]
    exact List.take_prefix_take_left before
  · intro c r sink override watch s completion ends w hw occurs
    have ran := Controller.journal_course c r override sink watch s
    rw [ends] at ran
    cases ran with
    | generated received generated =>
      obtain ⟨place, at_place⟩ := Text.infix_iff_occursAt.1 occurs
      exact generated.absent rfl place ⟨w, hw, at_place⟩

def spacedStation : Station Rehearsal.World where
  world := { script := { contextSize := 8, items := [.piece "xy", .piece "ab", .piece "cd"] } }

theorem spaced_completed : ∃ completion, (rehearsed.run streamedRequest (some .attentive) none
    (fun _ => false) spacedStation).1 = .completed completion ∧ completion.content = "xya" := by
  have received : rehearsed.receive streamedRequest none spacedStation =
      .ok (.items [.int 5, .int 6, .int 7]) :=
    Controller.receive_eq_ok_iff.2 ⟨rfl, rehearsed_valid, rfl, rfl⟩
  have evaluated : Result.meets (fun c => decide (c.content = "xya"))
      (rehearsed.run streamedRequest (some .attentive) none (fun _ => false) spacedStation).1 =
        true := by
    rw [Controller.run, received]
    decide +kernel
  obtain ⟨c, done, content⟩ := Result.completed_of_meets evaluated
  exact ⟨c, done, of_decide_eq_true content⟩

theorem stop_scan_rehearsed :
    (∃ p u q v, Generation.Reaches Rehearsal.backend.recorded
        (Controller.task streamedRequest (some .attentive) fun _ => false).recorded (some 0) 8
        { past := 3 } spacedStation.withJournal p u ∧
      Generation.advance Rehearsal.backend.recorded
        (Controller.task streamedRequest (some .attentive) fun _ => false).recorded p u =
          .ok (4, q) v ∧
      q.sent = 2 ∧ streamedRequest.stop.check q.text.toList 2 = .stop ⟨3, "bc"⟩ ∧
      streamedRequest.stop.check q.text.toList 0 = .stop ⟨3, "bc"⟩ ∧
      spelled (words (v.world.2.map Note.deed)) = "xy".toList ∧
      "xy".toList <+: q.text.toList.take 3) ∧
    ∃ completion, (rehearsed.run streamedRequest (some .attentive) none (fun _ => false)
        spacedStation).1 = .completed completion ∧ completion.content = "xya" ∧
      ¬"bc".toList <:+: completion.content.toList := by
  constructor
  · have reaches : Generation.Reaches Rehearsal.backend.recorded
        (Controller.task streamedRequest (some .attentive) fun _ => false).recorded (some 0) 8
        { past := 3 } spacedStation.withJournal _ _ := .next (.next .start rfl) rfl
    obtain ⟨same, -, behind⟩ := stop_scan.1 Rehearsal.backend
      (Controller.task streamedRequest (some .attentive) fun _ => false) (some 0) 8 3 spacedStation
      _ _ _ _ 4 reaches rfl
    have stop : streamedRequest.stop.check _ _ = .stop ⟨3, "bc"⟩ := same.trans rfl
    exact ⟨_, _, _, _, reaches, rfl, rfl, stop, same ▸ stop, rfl, (behind _ stop).2⟩
  · obtain ⟨completion, ends, content⟩ := spaced_completed
    exact ⟨completion, ends, content, stop_scan.2 rehearsed streamedRequest (some .attentive) none
      (fun _ => false) spacedStation completion ends "bc" (by decide)⟩

end Completions
