/-! Outcomes of steps taken one after the other: where a sequence of them fails, and when it does
not. -/

namespace Completions

theorem bind_eq_error_iff {ε α β : Type} {x : Except ε α} {f : α → Except ε β} {e : ε} :
    x >>= f = .error e ↔ x = .error e ∨ ∃ a, x = .ok a ∧ f a = .error e := by
  cases x <;> simp [bind, Except.bind]

theorem bind_eq_ok_iff {ε α β : Type} {x : Except ε α} {f : α → Except ε β} {b : β} :
    x >>= f = .ok b ↔ ∃ a, x = .ok a ∧ f a = .ok b := by
  cases x <;> simp [bind, Except.bind]

theorem check_bind_eq_ok_iff {ε β : Type} {x : Except ε Unit} {f : Unit → Except ε β} {b : β} :
    x >>= f = .ok b ↔ x = .ok () ∧ f () = .ok b :=
  bind_eq_ok_iff.trans ⟨fun ⟨(), passes, rest⟩ => ⟨passes, rest⟩, fun h => ⟨(), h⟩⟩

theorem map_ok {ε α β : Type} (f : α → β) (a : α) :
    (Except.ok a : Except ε α).map f = .ok (f a) := rfl

theorem map_eq_error_iff {ε α β : Type} {x : Except ε α} {f : α → β} {e : ε} :
    x.map f = .error e ↔ x = .error e := by
  cases x <;> simp [Except.map]

theorem map_empty_append {ε : Type} (x : Except ε String) : x.map ("" ++ ·) = x := by
  cases x with
  | error _ => rfl
  | ok s => exact congrArg Except.ok String.empty_append

theorem map_append_append {ε : Type} (x : Except ε String) (s t : String) :
    (x.map (t ++ ·)).map (s ++ ·) = x.map (s ++ t ++ ·) := by
  cases x with
  | error _ => rfl
  | ok below => exact congrArg Except.ok (String.append_assoc ..).symm

/-- The first element at which a walk fails stands after elements it passes. -/
theorem forM_eq_error_iff {ε α : Type} {f : α → Except ε Unit} {e : ε} {xs : List α} :
    xs.forM f = .error e ↔
      ∃ before x after, xs = before ++ x :: after ∧ (∀ y ∈ before, f y = .ok ()) ∧
        f x = .error e := by
  induction xs with
  | nil => simp [pure, Except.pure]
  | cons x xs ih =>
    have walk : (x :: xs).forM f = f x >>= fun _ => xs.forM f := rfl
    rw [walk, bind_eq_error_iff, ih]
    constructor
    · rintro (fails | ⟨_, passes, before, y, after, rfl, passed, fails⟩)
      · exact ⟨[], x, xs, rfl, by simp, fails⟩
      · exact ⟨x :: before, y, after, rfl, by simpa using ⟨passes, passed⟩, fails⟩
    · rintro ⟨before, y, after, split, passed, fails⟩
      cases before with
      | nil =>
        obtain ⟨rfl, rfl⟩ := List.cons.inj split
        exact .inl fails
      | cons z before =>
        obtain ⟨rfl, rfl⟩ := List.cons.inj split
        have ⟨passes, rest⟩ := List.forall_mem_cons.1 passed
        exact .inr ⟨_, passes, before, y, after, rfl, rest, fails⟩

end Completions
