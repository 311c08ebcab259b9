import Completions.Proofs.StopCheck

/-! Texts that are written piece by piece and handed over in part. Such a text is settled when it
holds no stop word and the part handed over does not end in the middle of one. Main statements: of a
settled text with one more piece, the check of the end, the check from the part handed over and the
check of the whole text are the same; and the text is settled again unless a stop word has occurred. -/

namespace Completions.Stop.Words
open Text

variable {ws : Words} {text old piece : List Char} {sent : Nat}

structure Settled (ws : Words) (text : List Char) (sent : Nat) : Prop where
  sent_le : sent ≤ text.length
  absent : ∀ p, ¬ws.StandsAt text p
  unbroken : ∀ p, ¬ws.BeginsAt (text.take sent) p

theorem settled_nil (ws : Words) : ws.Settled [] 0 where
  sent_le := Nat.le_refl 0
  absent p := by
    rintro ⟨_, hw, at_p⟩
    exact not_occursAt_nil (toList_ne_nil hw) p at_p
  unbroken p := by
    rintro ⟨_, _, begins⟩
    exact Nat.not_lt_zero p begins.1

/-- A stop word that has come with the last piece ends in that piece, and begins in what has not been
handed over. -/
theorem Settled.fresh (h : ws.Settled old sent) {w : String} (hw : w ∈ ws.list) {p : Nat}
    (at_p : OccursAt w.toList (old ++ piece) p) :
    sent ≤ p ∧ old.length < p + w.toList.length := by
  have late : old.length < p + w.toList.length := by
    by_contra early
    exact h.absent p ⟨w, hw, occursAt_of_append (toList_ne_nil hw) at_p (Nat.le_of_not_lt early)⟩
  refine ⟨?_, late⟩
  -- Otherwise the part handed over would end in the middle of the word.
  by_contra before
  have hs := h.sent_le
  refine h.unbroken p ⟨w, hw, by rw [List.length_take]; omega, ?_, by rw [List.length_take]; omega⟩
  refine List.prefix_of_prefix_length_le ?_ at_p (by rw [List.length_drop, List.length_take]; omega)
  rw [List.drop_append_of_le_length (by omega), List.drop_take]
  exact (List.take_prefix _ _).trans (List.prefix_append _ _)

theorem findFrom_congr {a b : Nat} (h : ∀ p, ws.StandsAt text p → a ≤ p ∧ b ≤ p) :
    ws.findFrom text a = ws.findFrom text b := by
  have same : {p | a ≤ p ∧ ws.StandsAt text p} = {p | b ≤ p ∧ ws.StandsAt text p} := by
    ext p
    exact ⟨fun hp => ⟨(h p hp.2).2, hp.2⟩, fun hp => ⟨(h p hp.2).1, hp.2⟩⟩
  ext hit
  rw [findFrom_eq_some_iff, findFrom_eq_some_iff, same]

theorem scanStart_le (ws : Words) (sent : Nat) : ws.scanStart sent ≤ sent := by
  rw [scanStart]
  omega

@[simp] theorem scanStart_zero (ws : Words) : ws.scanStart 0 = 0 := by
  rw [scanStart]
  omega

theorem Settled.check_sent (h : ws.Settled old sent) (piece : List Char) :
    ws.check (old ++ piece) sent = ws.check (old ++ piece) 0 := by
  rw [check_eq, check_eq, findFrom_congr]
  rintro p ⟨w, hw, at_p⟩
  have hs := (h.fresh hw at_p).1
  exact ⟨(scanStart_le ws sent).trans hs, by simp⟩

theorem standsAt_drop_iff {k p : Nat} :
    ws.StandsAt (text.drop k) p ↔ ws.StandsAt text (k + p) := by
  simp only [StandsAt, occursAt_drop_iff]

theorem beginsAt_drop_iff {k p : Nat} :
    ws.BeginsAt (text.drop k) p ↔ ws.BeginsAt text (k + p) := by
  simp only [BeginsAt, pendingAt_drop_iff]

theorem firstAt_drop (k p : Nat) : ws.firstAt (text.drop k) p = ws.firstAt text (k + p) := by
  simp only [firstAt, occursAt_drop_iff]

theorem findFrom_drop (ws : Words) (text : List Char) (k : Nat) :
    (ws.findFrom (text.drop k) 0).map (fun hit => { hit with position := hit.position + k }) =
      ws.findFrom text k := by
  ext ⟨position, word⟩
  simp only [Option.map_eq_some_iff, findFrom_eq_some_iff, Nat.zero_le, true_and,
    standsAt_drop_iff, isLeast_add_iff, firstAt_drop]
  constructor
  · rintro ⟨hit, ⟨least, first⟩, moved⟩
    obtain ⟨rfl, rfl⟩ := Hit.mk.inj moved
    rw [Nat.add_comm]
    exact ⟨least, first⟩
  · rintro ⟨least, first⟩
    obtain ⟨q, rfl⟩ := Nat.exists_eq_add_of_le least.1.1
    exact ⟨⟨q, word⟩, ⟨least, first⟩, by rw [Nat.add_comm]⟩

theorem pendingPlace_drop {k : Nat} (h : ∀ p, ws.BeginsAt text p → k ≤ p) :
    (ws.pendingPlace (text.drop k)).map (· + k) = ws.pendingPlace text := by
  have same : {p | ws.BeginsAt text p} = {p | k ≤ p ∧ ws.BeginsAt text p} := by
    ext p
    exact ⟨fun hp => ⟨h p hp, hp⟩, fun hp => hp.2⟩
  ext p
  simp only [Option.map_eq_some_iff, (pendingPlace_leastOf ws _).eq_some_iff, beginsAt_drop_iff,
    isLeast_add_iff]
  rw [same]
  constructor
  · rintro ⟨q, least, rfl⟩
    rwa [Nat.add_comm]
  · intro least
    obtain ⟨q, rfl⟩ := Nat.exists_eq_add_of_le least.1.1
    exact ⟨q, least, Nat.add_comm q k⟩

theorem check_drop {k : Nat} (stands : ∀ p, ws.StandsAt text p → k ≤ p)
    (begins : ∀ p, ws.BeginsAt text p → k ≤ p) :
    (ws.check (text.drop k) 0).after k = ws.check text 0 := by
  rw [check_eq, check_eq, scanStart_zero, ← pendingPlace_drop begins,
    findFrom_congr fun p hp => ⟨Nat.zero_le p, stands p hp⟩, ← findFrom_drop ws text k]
  cases ws.findFrom (text.drop k) 0 with
  | some hit => rfl
  | none => cases ws.pendingPlace (text.drop k) <;> rfl

theorem BeginsAt.length_lt {p : Nat} (h : ws.BeginsAt text p) :
    p < text.length ∧ text.length < p + ws.longest := by
  obtain ⟨w, hw, inside, -, short⟩ := h
  have := length_le_longest hw
  omega

theorem Settled.checkEnd_eq (h : ws.Settled old sent) {g : Text.Growing}
    (hg : g.toList = old ++ piece) : ws.checkEnd g piece.length = ws.check (old ++ piece) 0 := by
  have size : g.size = old.length + piece.length := by
    rw [← Growing.length_toList, hg, List.length_append]
  have skipped : g.size - (g.ending (ws.longest - 1 + piece.length)).length =
      g.size - (ws.longest - 1 + piece.length) := by
    rw [Growing.ending_eq, List.length_drop, Growing.length_toList]
    omega
  rw [checkEnd, skipped, Growing.ending_eq, hg]
  refine check_drop ?_ ?_
  · rintro p ⟨w, hw, at_p⟩
    have late := (h.fresh hw at_p).2
    have short := length_le_longest hw
    omega
  · intro p begins
    have := begins.length_lt
    rw [List.length_append] at this
    omega

theorem Settled.check_stop (h : ws.Settled old sent) {hit : Hit}
    (stop : ws.check (old ++ piece) 0 = .stop hit) : sent ≤ hit.position := by
  obtain ⟨w, hw, at_hit⟩ := (findFrom_eq_some_iff.1 (check_eq_stop_iff.1 stop)).1.1.2
  exact (h.fresh hw at_hit).1

theorem standsAt_of_take {n p : Nat} (h : ws.StandsAt (text.take n) p) :
    ws.StandsAt text p ∧ p < n := by
  obtain ⟨w, hw, at_p⟩ := h
  have hne := toList_ne_nil hw
  obtain ⟨at_p, ends⟩ := (occursAt_take_iff hne).1 at_p
  have := List.length_pos_iff.2 hne
  exact ⟨⟨w, hw, at_p⟩, by omega⟩

theorem not_standsAt_take {hit : Hit} (stop : ws.check text 0 = .stop hit) (p : Nat) :
    ¬ws.StandsAt (text.take hit.position) p := by
  intro stands
  obtain ⟨in_text, before⟩ := standsAt_of_take stands
  have least := (findFrom_eq_some_iff.1 (check_eq_stop_iff.1 stop)).1.2
  exact Nat.not_le_of_lt before (least ⟨by simp, in_text⟩)

theorem not_standsAt_of_check (h : ∀ hit, ws.check text 0 ≠ .stop hit) (p : Nat) :
    ¬ws.StandsAt text p := by
  have none : ws.findFrom text (ws.scanStart 0) = none := by
    cases found : ws.findFrom text (ws.scanStart 0) with
    | none => rfl
    | some hit => exact absurd (check_eq_stop_iff.2 found) (h hit)
  exact findFrom_eq_none_iff.1 none p (by simp)

theorem Settled.append (h : ws.Settled old sent)
    (go : ∀ hit, ws.check (old ++ piece) 0 ≠ .stop hit) : ws.Settled (old ++ piece) sent where
  sent_le := h.sent_le.trans (by simp)
  absent := not_standsAt_of_check go
  unbroken := by
    rw [List.take_append_of_le_length h.sent_le]
    exact h.unbroken

theorem settled_of_clear (clear : ws.check text 0 = .clear) : ws.Settled text text.length where
  sent_le := Nat.le_refl _
  absent := not_standsAt_of_check (by simp [clear])
  unbroken := by
    rw [List.take_length]
    exact (pendingPlace_leastOf ws text).eq_none_iff.1 (check_eq_clear_iff.1 clear).2

end Completions.Stop.Words
