import Completions.Proofs.LoopText

/-! A text comes to a run in fragments, the texts of its tokens, and a stop word may be noticed only
some characters after it has ended. Where no stop word occurs inside another this makes no difference:
how a run ends and what it leaves is told by the whole text. Main statement: `ends_alike`. -/

namespace Completions

namespace Text

variable {word other text : List Char} {p q : Nat}

theorem OccursAt.append (h : OccursAt word text p) (inside : p ≤ text.length) (more : List Char) :
    OccursAt word (text ++ more) p := by
  rw [OccursAt, List.drop_append_of_le_length inside]
  exact h.trans (List.prefix_append _ _)

theorem OccursAt.infix_of_within (h : OccursAt word text p) (outer : OccursAt other text q)
    (begins : q ≤ p) (ends : p + word.length ≤ q + other.length) : word <:+: other := by
  obtain ⟨d, rfl⟩ := Nat.exists_eq_add_of_le begins
  obtain ⟨rest, split⟩ := outer
  rw [OccursAt, ← List.drop_drop, ← split, List.drop_append_of_le_length (by omega)] at h
  have within : word <+: other.drop d :=
    List.prefix_of_prefix_length_le h (List.prefix_append _ _) (by rw [List.length_drop]; omega)
  exact within.isInfix.trans (List.drop_suffix d other).isInfix

end Text

namespace Stop.Words
open Text

variable {ws : Words} {old text : List Char} {hit : Hit}

/-- No stop word occurs inside another. -/
def Apart (ws : Words) : Prop :=
  ∀ v ∈ ws.list, ∀ w ∈ ws.list, v.toList <:+: w.toList → v = w

theorem Apart.word_unique (apart : ws.Apart) {v w : String} (hv : v ∈ ws.list) (hw : w ∈ ws.list)
    {p : Nat} (v_at : OccursAt v.toList text p) (w_at : OccursAt w.toList text p) : v = w := by
  by_cases shorter : v.toList.length ≤ w.toList.length
  · exact apart v hv w hw (v_at.infix_of_within w_at (Nat.le_refl p) (by omega))
  · exact (apart w hw v hv (w_at.infix_of_within v_at (Nat.le_refl p) (by omega))).symm

theorem Apart.ends_sooner (apart : ws.Apart) {v w : String} (hv : v ∈ ws.list) (hw : w ∈ ws.list)
    {p q : Nat} (v_at : OccursAt v.toList text q) (w_at : OccursAt w.toList text p) (sooner : q < p) :
    q + v.toList.length < p + w.toList.length := by
  by_contra within
  obtain rfl := apart w hw v hv (w_at.infix_of_within v_at (Nat.le_of_lt sooner) (by omega))
  omega

/-- The stop word that has been found stays the first, however the text goes on. -/
theorem Apart.check_append (apart : ws.Apart) (stop : ws.check old 0 = .stop hit)
    (more : List Char) : ws.check (old ++ more) 0 = .stop hit := by
  rw [check_eq_stop_iff, findFrom_eq_some_iff, scanStart_zero] at stop ⊢
  obtain ⟨⟨-, least⟩, first⟩ := stop
  have hw := List.mem_of_find?_eq_some first
  have occurs : OccursAt hit.word.toList old hit.position := by
    simpa using List.find?_some first
  have ends := occurs.add_length_le (toList_ne_nil hw)
  have still := occurs.append (by omega) more
  refine ⟨⟨⟨Nat.zero_le _, hit.word, hw, still⟩, ?_⟩, ?_⟩
  · intro q ⟨_, v, hv, v_at⟩
    by_contra sooner
    have early := apart.ends_sooner hv hw v_at still (Nat.lt_of_not_le sooner)
    have there := occursAt_of_append (toList_ne_nil hv) v_at (by omega)
    exact sooner (least ⟨Nat.zero_le q, v, hv, there⟩)
  · cases found : ws.firstAt (old ++ more) hit.position with
    | none => exact absurd still (by simpa using List.find?_eq_none.1 found hit.word hw)
    | some v =>
      have v_at : OccursAt v.toList (old ++ more) hit.position := by
        simpa using List.find?_some found
      rw [apart.word_unique (List.mem_of_find?_eq_some found) hw v_at still]

theorem position_le (stop : ws.check text 0 = .stop hit) : hit.position ≤ text.length := by
  obtain ⟨w, hw, occurs⟩ := (findFrom_eq_some_iff.1 (check_eq_stop_iff.1 stop)).1.1.2
  have := occurs.add_length_le (toList_ne_nil hw)
  omega

theorem check_ne_stop (absent : ∀ p, ¬ws.StandsAt text p) : ws.check text 0 ≠ .stop hit := by
  intro stop
  exact absent _ (findFrom_eq_some_iff.1 (check_eq_stop_iff.1 stop)).1.1.2

end Stop.Words

namespace Generation

variable {σ τ : Type}

/-- How a run ends that reads off a whole text, and what it leaves of it. -/
def verdict (ws : Stop.Words) (text : List Char) : Ending × List Char :=
  match ws.check text 0 with
  | .stop hit => (.stopWord hit.word, text.take hit.position)
  | _ => (.exhausted, text)

/-- From station `s` and position `past` on the tokens have these texts one after another, whatever is
handed over between them, and nothing but a stop word ends the run. -/
def Feeds (b : Backend σ) (t : Task σ) (endToken : Option Int) (context : Nat) :
    Nat → List String → Station σ → Prop
  | _, [], _ => True
  | past, f :: fs, s =>
    isInterrupted t.watch s = .ok false s ∧ ∃ token u,
      (∀ p : Progress, p.past = past → advance b t p s = .ok (token, p.extend token f) u) ∧
      endingAfter t endToken context token (past + 1) = none ∧
      Feeds b t endToken context (past + 1) fs u ∧
      ∀ p, ∃ v, handOver t.sink p u = .ok (true, p.handed) v ∧
        Feeds b t endToken context (past + 1) fs v

variable {b : Backend σ} {t : Task σ} {endToken : Option Int} {context past : Nat} {p : Progress}
  {f : String} {fs gs : List String} {s : Station σ}

inductive Fed (b : Backend σ) (t : Task σ) (endToken : Option Int) (context : Nat) (p : Progress)
    (text : List Char) (fs : List String) : EStateM.Result Fault (Station σ) (Option Ending × Progress) → Prop
  | stopped {hit : Stop.Hit} {q : Progress} {u : Station σ} (stop : t.words.check text 0 = .stop hit)
    (cut : q.text.toList = text.take hit.position) :
    Fed b t endToken context p text fs (.ok (some (.stopWord hit.word), q) u)
  | goesOn {q : Progress} {u : Station σ} (settled : q.Settled t.words) (whole : q.text.toList = text)
    (past : q.past = p.past + 1) (feeds : Feeds b t endToken context q.past fs u) :
    Fed b t endToken context p text fs (.ok (none, q) u)

theorem step_fed (settled : p.Settled t.words)
    (feeds : Feeds b t endToken context p.past (f :: fs) s) :
    Fed b t endToken context p (p.text.toList ++ f.toList) fs (step b t endToken context p s) := by
  rw [Feeds] at feeds
  obtain ⟨calm, token, u, advanced, endless, rest, handed⟩ := feeds
  have whole := settled.checkEnd_extend token f
  have text := toList_extend p token f
  have taken : step b t endToken context p s = settle t endToken context
      ((p.extend token f).text.size - p.text.size) token (p.extend token f) u := by
    rw [step, Act.bind_ok calm, if_neg Bool.false_ne_true, Act.bind_ok (advanced p rfl)]
  rw [taken, settle, whole, text]
  -- What goes on without a word to the sink.
  have held (go : ∀ hit, t.words.check (p.text.toList ++ f.toList) 0 ≠ .stop hit) :
      Fed b t endToken context p (p.text.toList ++ f.toList) fs
        (.ok (endingAfter t endToken context token (p.past + 1), p.extend token f) u) := by
    rw [endless]
    refine .goesOn ?_ text rfl rest
    rw [Progress.Settled, text]
    exact Stop.Words.Settled.append settled go
  cases check : t.words.check (p.text.toList ++ f.toList) 0 with
  | stop hit =>
    refine .stopped check ?_
    rw [Progress.cut, Text.Growing.toList_before, text]
  | clear =>
    dsimp only
    by_cases stream : t.stream = true
    · obtain ⟨v, told, later⟩ := handed (p.extend token f)
      have cleared : (p.extend token f).handed.Settled t.words := by
        have all := Stop.Words.settled_of_clear check
        rwa [← text, Text.Growing.length_toList] at all
      rw [if_pos ⟨rfl, stream⟩, Act.bind_ok told]
      change Fed _ _ _ _ _ _ _ (.ok (endingAfter t endToken context token (p.past + 1), _) v)
      rw [endless]
      exact .goesOn cleared text rfl later
    · rw [if_neg fun both => stream both.2]
      exact held (by simp [check])
  | pending place =>
    exact held (by simp [check])

/-- A run that is fed a text in fragments ends as the whole text tells. -/
theorem loop_fed (apart : t.words.Apart) (settled : p.Settled t.words)
    (feeds : Feeds b t endToken context p.past fs s) :
    ∃ ending q u, loop b t endToken context fs.length p s = .ok (ending, q) u ∧
      (ending, q.text.toList) = verdict t.words (p.text.toList ++ fs.flatMap String.toList) := by
  induction fs generalizing p s with
  | nil =>
    refine ⟨.exhausted, p, s, rfl, ?_⟩
    have none : ∀ hit, t.words.check p.text.toList 0 ≠ .stop hit := fun _ =>
      Stop.Words.check_ne_stop settled.absent
    rw [List.flatMap_nil, List.append_nil, verdict]
    cases check : t.words.check p.text.toList 0 with
    | stop hit => exact absurd check (none hit)
    | clear | pending place => rfl
  | cons f fs ih =>
    have fed := step_fed settled feeds
    rw [List.flatMap_cons, ← List.append_assoc, List.length_cons, loop]
    cases step : step b t endToken context p s with
    | error e u =>
      rw [step] at fed
      cases fed
    | ok r u =>
      rw [step] at fed
      rw [Act.bind_ok step]
      cases fed with
      | @stopped hit q _ stop cut =>
        have before := Stop.Words.position_le stop
        refine ⟨.stopWord hit.word, q, u, rfl, ?_⟩
        rw [verdict, apart.check_append stop, cut]
        exact congrArg (Prod.mk _) (List.take_append_of_le_length before).symm
      | goesOn settled' whole past rest =>
        rw [← whole]
        exact ih settled' rest

inductive Left (ws : Stop.Words) (text : List Char) : Ending → List Char → Prop
  | stopped {w : String} (hw : w ∈ ws.list) {kept : List Char} (stop : kept ++ w.toList <+: text)
    (first : ∀ q < kept.length, ¬ws.StandsAt text q) : Left ws text (.stopWord w) kept
  | whole (absent : ∀ w ∈ ws.list, ¬w.toList <:+: text) : Left ws text .exhausted text

theorem left_verdict (ws : Stop.Words) (text : List Char) :
    Left ws text (verdict ws text).1 (verdict ws text).2 := by
  have absent (none : ∀ hit, ws.check text 0 ≠ .stop hit) : Left ws text .exhausted text := by
    refine .whole fun w hw occurs => ?_
    obtain ⟨q, at_q⟩ := Text.infix_iff_occursAt.1 occurs
    exact Stop.Words.not_standsAt_of_check none q ⟨w, hw, at_q⟩
  rw [verdict]
  cases check : ws.check text 0 with
  | clear | pending place => exact absent (by simp [check])
  | stop hit =>
    have inside := Stop.Words.position_le check
    obtain ⟨⟨-, least⟩, first⟩ :=
      Stop.Words.findFrom_eq_some_iff.1 (Stop.Words.check_eq_stop_iff.1 check)
    have occurs : Text.OccursAt hit.word.toList text hit.position := by
      simpa using List.find?_some first
    refine .stopped (List.mem_of_find?_eq_some first) ?_ fun q before stands => ?_
    · obtain ⟨rest, split⟩ := occurs
      exact ⟨rest, by rw [List.append_assoc, split, List.take_append_drop]⟩
    · rw [List.length_take, Nat.min_eq_left inside] at before
      exact Nat.not_le_of_lt before (least ⟨by simp, stands⟩)

/-- A backend whose tokens have the texts of a list, one after another. -/
def reel : Backend (List String) where
  ready _ := true
  endToken _ := none
  info _ := []
  now w := (0.0, w)
  contextSize w := ⟨.ok w.length, w, false⟩
  clear w := ⟨.ok (), w, false⟩
  tokenize _ w := ⟨.ok [], w, false⟩
  decode _ _ w := ⟨.ok true, w, false⟩
  sample _ _ _ w := ⟨.ok 0, w, false⟩
  piece _ w := ⟨.ok (w.headD ""), w.tail, false⟩
  layout _ w := ⟨.ok none, w, false⟩
  unload w := w

def reelTask (ws : Stop.Words) (stream : Bool) : Task (List String) where
  words := ws
  sampling := {}
  grammar := none
  jsonSchema := none
  stream
  ignoreEnd := true
  sink := some fun _ _ => pure true
  watch _ := false

theorem reel_feeds (ws : Stop.Words) (stream : Bool) {fs : List String} {past context : Nat}
    (room : past + fs.length < context) :
    Feeds reel (reelTask ws stream) none context past fs ⟨.idle, fs⟩ := by
  induction fs generalizing past with
  | nil => trivial
  | cons f fs ih =>
    rw [List.length_cons] at room
    have rest : Feeds reel (reelTask ws stream) none context (past + 1) fs ⟨.idle, fs⟩ :=
      ih (by omega)
    refine ⟨rfl, 0, ⟨.idle, fs⟩, fun p _ => rfl, ?_, rest, fun p => ⟨⟨.idle, fs⟩, ?_, rest⟩⟩
    · rw [endingAfter, if_neg (by simp), if_neg (by omega)]
    · unfold handOver
      cases unsent : p.unsent with
      | nil => rfl
      | cons c fragment => rfl

end Generation

open Generation

variable {σ τ : Type}

/-- Any fragments are those of some run, streamed or not; and where no stop word occurs inside
another, runs that are fed one text, however it is split, stop at one word and leave one text. -/
theorem ends_alike :
    (∀ (ws : Stop.Words) (stream : Bool) (fs : List String),
      Feeds reel (reelTask ws stream) none (fs.length + 1) 0 fs ⟨.idle, fs⟩) ∧
    ∀ (b : Backend σ) (b' : Backend τ) (t : Generation.Task σ) (t' : Generation.Task τ)
      (endToken endToken' : Option Int) (context context' past past' : Nat) (s : Station σ)
      (s' : Station τ) (fs gs : List String),
      t.words.Apart → t'.words = t.words →
      fs.flatMap String.toList = gs.flatMap String.toList →
      Feeds b t endToken context past fs s → Feeds b' t' endToken' context' past' gs s' →
      ∃ ending text, Left t.words (fs.flatMap String.toList) ending text ∧
        (∃ q u, loop b t endToken context fs.length { past := past } s = .ok (ending, q) u ∧
          q.text.toList = text) ∧
        ∃ q u, loop b' t' endToken' context' gs.length { past := past' } s' = .ok (ending, q) u ∧
          q.text.toList = text := by
  refine ⟨fun ws stream fs => reel_feeds ws stream (by omega), ?_⟩
  intro b b' t t' endToken endToken' context context' past past' s s' fs gs apart words same feeds
    feeds'
  obtain ⟨ending, q, u, runs, ends⟩ := loop_fed apart (settled_start t.words past) feeds
  obtain ⟨ending', q', u', runs', ends'⟩ :=
    loop_fed (words ▸ apart) (settled_start t'.words past') feeds'
  change _ = verdict t.words (fs.flatMap String.toList) at ends
  change _ = verdict t'.words (gs.flatMap String.toList) at ends'
  rw [words, ← same] at ends'
  obtain ⟨rfl, text⟩ := Prod.mk.inj (ends.trans ends'.symm)
  refine ⟨ending, q.text.toList, ?_, ⟨q, u, runs, rfl⟩, q', u', runs', text.symm⟩
  have left := left_verdict t.words (fs.flatMap String.toList)
  rwa [← ends] at left

theorem ends_alike_split :
    ∃ ending text, Left (.ofList ["xy", "cd"]) "abcde".toList ending text ∧
      (∃ q u, loop reel (reelTask (.ofList ["xy", "cd"]) true) none 5 4 { past := 0 }
        ⟨.idle, ["a", "bc", "", "de"]⟩ = .ok (ending, q) u ∧ q.text.toList = text) ∧
      ∃ q u, loop reel (reelTask (.ofList ["xy", "cd"]) false) none 3 2 { past := 0 }
        ⟨.idle, ["abcd", "e"]⟩ = .ok (ending, q) u ∧ q.text.toList = text :=
  ends_alike.2 reel reel (reelTask (.ofList ["xy", "cd"]) true) (reelTask (.ofList ["xy", "cd"]) false)
    none none 5 3 0 0 ⟨.idle, ["a", "bc", "", "de"]⟩ ⟨.idle, ["abcd", "e"]⟩ ["a", "bc", "", "de"]
    ["abcd", "e"] (by unfold Stop.Words.Apart; decide) rfl (by decide)
    (reel_feeds (.ofList ["xy", "cd"]) true (by decide))
    (reel_feeds (.ofList ["xy", "cd"]) false (by decide))

end Completions
