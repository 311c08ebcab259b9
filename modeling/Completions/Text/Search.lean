/-!
Searching a text for a word: the first place where it begins, and the places of a character.
-/

namespace Completions.Text

/-- Where `word` first begins among the first `places` places of a text whose first character has
place `i`. -/
def findWithin (word : List Char) (i : Nat) : (places : Nat) → List Char → Option Nat
  | 0, _ => none
  | places + 1, t => if word.isPrefixOf t then some i else findWithin word (i + 1) places t.tail

/-- Where `word` first begins in a text whose first character has place `i`. It does not begin where
less of the text is left than the word is long. -/
def findAt (word : List Char) (i : Nat) (t : List Char) : Option Nat :=
  findWithin word i (t.length + 1 - word.length) t

def find (word t : List Char) : Option Nat := findAt word 0 t

def findFrom (word : List Char) (start : Nat) (t : List Char) : Option Nat :=
  if start ≤ t.length then findAt word start (t.drop start) else none

def occurs (word t : List Char) : Bool := (find word t).isSome

def placesAt (c : Char) (i : Nat) : List Char → List Nat
  | [] => []
  | d :: t => if d = c then i :: placesAt c (i + 1) t else placesAt c (i + 1) t

def places (c : Char) (t : List Char) : List Nat := placesAt c 0 t

/-- A place given as a number counts from the end when negative; it is never before the start. -/
def place (t : List Char) (i : Int) : Nat :=
  if i < 0 then (i + t.length).toNat else i.toNat

theorem findWithin_add (word : List Char) (i k places : Nat) (t : List Char) :
    findWithin word (i + k) places t = (findWithin word i places t).map (· + k) := by
  induction places generalizing i t with
  | zero => rfl
  | succ places ih =>
    simp only [findWithin]
    split
    · simp
    · rw [show i + k + 1 = i + 1 + k by omega, ih]

theorem findAt_add (word : List Char) (i k : Nat) (t : List Char) :
    findAt word (i + k) t = (findAt word i t).map (· + k) :=
  findWithin_add word i k _ t

theorem findAt_eq_map_find (word : List Char) (i : Nat) (t : List Char) :
    findAt word i t = (find word t).map (· + i) := by
  simpa [find] using findAt_add word 0 i t

end Completions.Text
