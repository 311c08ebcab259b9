/-!
Texts that grow at their end. The last character is kept first, so that a piece is added and the end
of the text is looked at without going through the rest.
-/

namespace Completions.Text

structure Growing where
  /-- The characters, the last first. -/
  latest : List Char := []
  size : Nat := 0
  size_eq : size = latest.length := by rfl

namespace Growing

def toList (g : Growing) : List Char := g.latest.reverse

def append (g : Growing) (piece : List Char) : Growing where
  latest := piece.reverseAux g.latest
  size := g.size + piece.length
  size_eq := by simp [List.reverseAux_eq, g.size_eq, Nat.add_comm]

def ending (g : Growing) (n : Nat) : List Char := (g.latest.take n).reverse

def since (g : Growing) (place : Nat) : List Char := g.ending (g.size - place)

def before (g : Growing) (place : Nat) : Growing where
  latest := g.latest.drop (g.size - place)
  size := min place g.size
  size_eq := by simp [g.size_eq]; omega

@[simp] theorem length_toList (g : Growing) : g.toList.length = g.size := by
  simp [toList, g.size_eq]

@[simp] theorem toList_append (g : Growing) (piece : List Char) :
    (g.append piece).toList = g.toList ++ piece := by
  simp [toList, append, List.reverseAux_eq]

theorem ending_eq (g : Growing) (n : Nat) : g.ending n = g.toList.drop (g.size - n) := by
  simp [ending, toList, g.size_eq, List.drop_reverse, List.take_eq_take_iff]
  omega

theorem since_eq (g : Growing) (place : Nat) : g.since place = g.toList.drop place := by
  rw [since, ending_eq]
  by_cases h : place ≤ g.size
  · rw [Nat.sub_sub_self h]
  · rw [List.drop_of_length_le, List.drop_of_length_le] <;> simp <;> omega

theorem toList_before (g : Growing) (place : Nat) : (g.before place).toList = g.toList.take place := by
  simp [toList, before, List.take_reverse, g.size_eq]

end Growing

end Completions.Text
