/-!
Classes of characters as ranges of code points; the blank ones, and texts without the blanks at their
ends.
-/

namespace Completions.Text

abbrev Range := Nat × Nat

def Range.holds (c : Char) (r : Range) : Bool :=
  decide (r.1 ≤ c.toNat) && decide (c.toNat ≤ r.2)

def blanks : List Range :=
  [(0x9, 0xd), (0x1c, 0x20), (0x85, 0x85), (0xa0, 0xa0), (0x1680, 0x1680), (0x2000, 0x200a),
   (0x2028, 0x2029), (0x202f, 0x202f), (0x205f, 0x205f), (0x3000, 0x3000)]

def isBlank (c : Char) : Bool :=
  blanks.any (Range.holds c)

def trimStart (t : List Char) : List Char := t.dropWhile isBlank

def trimEnd (t : List Char) : List Char := (t.reverse.dropWhile isBlank).reverse

def trim (t : List Char) : List Char := trimEnd (trimStart t)

def allBlank (t : List Char) : Bool := t.all isBlank

end Completions.Text

namespace Completions

def stripped (s : String) : String := String.ofList (Text.trim s.toList)

def strippedEnd (s : String) : String := String.ofList (Text.trimEnd s.toList)

end Completions
