import Completions.Proofs.Course
import Completions.Proofs.SettledText

/-! The text of a run while it is written. As long as the run goes on its text is settled, so what the
loop finds at the end of the text is what a check of the whole text would find. Main statement:
`Course.kept`, for the text that a run leaves. -/

namespace Completions.Generation

variable {σ : Type} {ws : Stop.Words} {t : Task σ} {p q : Progress} {endToken : Option Int}
  {context : Nat} {calm : Prop} {deeds : List Deed}

/-- The run may go on from here. -/
def Progress.Settled (ws : Stop.Words) (p : Progress) : Prop := ws.Settled p.text.toList p.sent

/-- The run may end here. -/
structure Progress.Sound (ws : Stop.Words) (p : Progress) : Prop where
  sent_le : p.sent ≤ p.text.size
  absent : ∀ place, ¬ws.StandsAt p.text.toList place

theorem Progress.Settled.sound (h : p.Settled ws) : p.Sound ws where
  sent_le := by
    rw [← Text.Growing.length_toList]
    exact h.sent_le
  absent := h.absent

theorem settled_start (ws : Stop.Words) (past : Nat) :
    Progress.Settled ws { past := past } := Stop.Words.settled_nil ws

@[simp] theorem toList_extend (p : Progress) (token : Int) (piece : String) :
    (p.extend token piece).text.toList = p.text.toList ++ piece.toList :=
  Text.Growing.toList_append p.text piece.toList

theorem size_extend (p : Progress) (token : Int) (piece : String) :
    (p.extend token piece).text.size - p.text.size = piece.toList.length :=
  Nat.add_sub_cancel_left p.text.size piece.toList.length

/-- The loop looks at the end of the text only, and finds what is to be found in the whole of it. -/
theorem Progress.Settled.checkEnd_extend (h : p.Settled ws) (token : Int) (piece : String) :
    ws.checkEnd (p.extend token piece).text ((p.extend token piece).text.size - p.text.size) =
      ws.check (p.extend token piece).text.toList 0 := by
  rw [size_extend, toList_extend]
  exact Stop.Words.Settled.checkEnd_eq h (toList_extend p token piece)

theorem Progress.Settled.check_extend (h : p.Settled ws) (token : Int) (piece : String) :
    ws.check (p.extend token piece).text.toList (p.extend token piece).sent =
      ws.check (p.extend token piece).text.toList 0 := by
  rw [toList_extend]
  exact Stop.Words.Settled.check_sent h piece.toList

theorem Progress.Settled.sent_le_stop (h : p.Settled ws) {token : Int} {piece : String}
    {hit : Stop.Hit} (stop : ws.check (p.extend token piece).text.toList 0 = .stop hit) :
    p.sent ≤ hit.position := by
  rw [toList_extend] at stop
  exact Stop.Words.Settled.check_stop h stop

theorem endingAfter_ne_declined (t : Task σ) (endToken : Option Int) (context : Nat) (token : Int)
    (past : Nat) : endingAfter t endToken context token past ≠ some .declined := by
  unfold endingAfter
  split
  · simp
  · split <;> simp

structure Kept (ws : Stop.Words) (ending : Option Ending) (q : Progress) : Prop where
  sound : q.Sound ws
  settled : ending = none → q.Settled ws
  declined : ending = some .declined → q.sent = q.text.size

theorem decided_kept (hp : p.Settled t.words) {token : Int} {piece : String} {ending : Option Ending}
    (h : Decided t endToken context ((p.extend token piece).text.size - p.text.size) token
      (p.extend token piece) deeds (.ok (ending, q))) : Kept t.words ending q := by
  have whole := hp.checkEnd_extend token piece
  generalize out : Except.ok (ending, q) = outcome at h
  cases h with
  | stopped hit check =>
    obtain ⟨rfl, rfl⟩ := Prod.mk.inj (Except.ok.inj out)
    rw [whole] at check
    have before := hp.sent_le_stop check
    refine ⟨⟨?_, ?_⟩, by simp, by simp⟩
    · have inside : p.sent ≤ p.text.size := hp.sound.sent_le
      change p.sent ≤ min hit.position (p.text.size + piece.toList.length)
      omega
    · intro place
      rw [Progress.cut, Text.Growing.toList_before]
      exact Stop.Words.not_standsAt_take check place
  | held go keep =>
    obtain ⟨rfl, rfl⟩ := Prod.mk.inj (Except.ok.inj out)
    rw [whole] at go
    have settled : (p.extend token piece).Settled t.words := by
      unfold Progress.Settled
      rw [toList_extend] at go ⊢
      exact Stop.Words.Settled.append hp go
    exact ⟨settled.sound, fun _ => settled,
      fun h => absurd h (endingAfter_ne_declined t endToken context token _)⟩
  | @handed clear stream _ outcome told =>
    rw [whole] at clear
    have settled : (p.extend token piece).handed.Settled t.words := by
      unfold Progress.Settled
      rw [show (p.extend token piece).handed.sent = (p.extend token piece).text.toList.length from
        (Text.Growing.length_toList _).symm]
      exact Stop.Words.settled_of_clear clear
    rcases outcome with f | ⟨goOn, r⟩
    · cases out
    · obtain ⟨-, rfl⟩ := Prod.mk.inj (Except.ok.inj out)
      rw [told.handed]
      exact ⟨settled.sound, fun _ => settled, fun _ => rfl⟩

theorem stepped_kept (hp : p.Settled t.words) {ending : Option Ending}
    (h : Stepped t endToken context p calm deeds (.ok (ending, q))) : Kept t.words ending q := by
  generalize out : Except.ok (ending, q) = outcome at h
  cases h with
  | interrupted busy =>
    obtain ⟨rfl, rfl⟩ := Prod.mk.inj (Except.ok.inj out)
    exact ⟨hp.sound, by simp, by simp⟩
  | failed => cases out
  | decided calm advanced decided =>
    subst out
    obtain ⟨piece, rfl, -⟩ := advanced.extends
    exact decided_kept hp decided

theorem Course.kept {budget : Nat} {s : Station (σ × Journal σ)} {notes : Journal σ}
    {ending : Ending} (hp : p.Settled t.words)
    (h : Course t endToken context budget p s notes (.ok (ending, q))) :
    q.Sound t.words ∧ (ending = .declined → q.sent = q.text.size) := by
  generalize out : Except.ok (ending, q) = outcome at h
  induction h with
  | exhausted p s =>
    obtain ⟨rfl, rfl⟩ := Prod.mk.inj (Except.ok.inj out)
    exact ⟨hp.sound, by simp⟩
  | failed step => cases out
  | ended step =>
    obtain ⟨rfl, rfl⟩ := Prod.mk.inj (Except.ok.inj out)
    have kept := stepped_kept hp step
    exact ⟨kept.sound, fun h => kept.declined (congrArg some h)⟩
  | goesOn step grows rest ih => exact ih ((stepped_kept hp step).settled rfl) out

end Completions.Generation
