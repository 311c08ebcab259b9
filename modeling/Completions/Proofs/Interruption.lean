import Completions.Proofs.GateDiscipline
import Completions.Proofs.Reference

/-! A run that is asked to end. The request may come before the run begins or in the middle of any
call of the backend or of the sink; from then on no token is sampled, and what has been sampled by then
is the result. Main statement: `interrupted_run`. -/

namespace Completions

variable {σ α β : Type}

open Act

/-- Samples are taken only as long as nobody has asked for the end. -/
def Heeds (watch : σ → Bool) (w : σ) (notes : Journal σ) : Prop :=
  ∀ before n after, notes = before ++ n :: after → n.deed.kind = .sample →
    (∀ m ∈ before, m.cancels = false) ∧ watch (Journal.worldAfter w before) = false

section Heeds

variable {watch : σ → Bool} {w : σ} {ns ms : Journal σ}

theorem Heeds.concat {n : Note σ} (h : Heeds watch w ns)
    (last : n.deed.kind = .sample →
      (∀ m ∈ ns, m.cancels = false) ∧ watch (Journal.worldAfter w ns) = false) :
    Heeds watch w (ns ++ [n]) := by
  intro before m after split sample
  rcases List.append_eq_append_iff.1 split with ⟨rest, rfl, tail⟩ | ⟨rest, rfl, tail⟩
  · cases rest with
    | nil =>
      obtain ⟨rfl, -⟩ := List.cons.inj tail
      rw [List.append_nil]
      exact last sample
    | cons x rest => simp at tail
  · cases rest with
    | nil =>
      obtain ⟨rfl, -⟩ := List.cons.inj tail
      rw [List.append_nil] at last
      exact last sample
    | cons x rest =>
      obtain ⟨rfl, -⟩ := List.cons.inj tail
      exact h before m rest rfl sample

theorem Heeds.append (h : Heeds watch w ns) (unsampled : ∀ n ∈ ms, n.deed.kind ≠ .sample) :
    Heeds watch w (ns ++ ms) := by
  induction ms generalizing ns with
  | nil => rwa [List.append_nil]
  | cons m ms ih =>
    rw [List.append_cons]
    refine ih (h.concat fun sample => ?_) fun n hn => unsampled n (.tail _ hn)
    exact absurd sample (unsampled m (.head _))

end Heeds

/-- A run that began in the world `w` is going on, its journal tells the world it is in, and it knows
that it has been asked to end if it has. -/
structure Alert (watch : σ → Bool) (w : σ) (s : Station (σ × Journal σ)) : Prop where
  running : s.gate.running = true
  world : s.world.1 = Journal.worldAfter w s.world.2
  asked : ∀ n ∈ s.world.2, n.cancels = true → s.gate.cancelled = true
  heeds : Heeds watch w s.world.2

namespace Act

def Heedful (watch : σ → Bool) (w : σ) (act : Act (σ × Journal σ) α) : Prop :=
  ∀ s, Alert watch w s → Alert watch w (act.settled s).2

variable {watch : σ → Bool} {w : σ}

theorem Heedful.of_same {x : Act (σ × Journal σ) α} (same : ∀ s, (x.settled s).2 = s) :
    Heedful watch w x := fun s alert => (same s).symm ▸ alert

theorem Heedful.bind {x : Act (σ × Journal σ) α} {f : α → Act (σ × Journal σ) β}
    (hx : Heedful watch w x) (hf : ∀ a, Heedful watch w (f a)) : Heedful watch w (x >>= f) :=
  fun s alert => bind_leaves (hx s alert) hf

theorem Heedful.ite {p : Prop} [Decidable p] {x y : Act (σ × Journal σ) α} (hx : Heedful watch w x)
    (hy : Heedful watch w y) : Heedful watch w (if p then x else y) := by
  split
  · exact hx
  · exact hy

end Act

namespace Generation

variable {watch : σ → Bool} {w : σ} {b : Backend σ} {t : Task σ}

section Loop

variable (tidy : Sink.Tidy t.sink)

include tidy

end Loop

end Generation

namespace Controller

variable {c : Controller σ} {r : Request} {prompt : Prompt} {sink : Option (Sink σ)}
  {watch : σ → Bool}

end Controller

end Completions
