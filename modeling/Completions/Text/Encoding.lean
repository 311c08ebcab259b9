/-!
The encodings of text in units of one, two and four bytes. A character that does not fit in two bytes
is a pair of surrogates there; half of a pair is no text.
-/

namespace Completions.Text

def isHighSurrogate (n : Nat) : Bool := decide (0xD800 ≤ n) && decide (n < 0xDC00)

def isLowSurrogate (n : Nat) : Bool := decide (0xDC00 ≤ n) && decide (n < 0xE000)

def pairChar (high low : Nat) : Char := Char.ofNat (0x10000 + (high - 0xD800) * 0x400 + (low - 0xDC00))

inductive ByteOrder where
  | big
  | little
  deriving DecidableEq, Repr

inductive Encoding where
  | utf8
  | utf16 (order : ByteOrder)
  | utf32 (order : ByteOrder)
  deriving DecidableEq, Repr

def ByteOrder.number (o : ByteOrder) (bytes : List UInt8) : Nat :=
  let highFirst := match o with
    | .big => bytes
    | .little => bytes.reverse
  highFirst.foldl (fun n b => n * 256 + b.toNat) 0

def char? (n : Nat) : Option Char := if n.isValidChar then some (Char.ofNat n) else none

def units16 (o : ByteOrder) : List UInt8 → Option (List Nat)
  | [] => some []
  | [_] => none
  | a :: b :: rest => (units16 o rest).map (o.number [a, b] :: ·)

def ofUnits16 : List Nat → Option (List Char)
  | [] => some []
  | [u] => (char? u).map ([·])
  | u :: v :: rest =>
    if isHighSurrogate u then
      if isLowSurrogate v then (ofUnits16 rest).map (pairChar u v :: ·) else none
    else (char? u).bind fun c => (ofUnits16 (v :: rest)).map (c :: ·)

def ofBytes32 (o : ByteOrder) : List UInt8 → Option (List Char)
  | [] => some []
  | a :: b :: c :: d :: rest =>
    (char? (o.number [a, b, c, d])).bind fun c => (ofBytes32 o rest).map (c :: ·)
  | _ => none

namespace Encoding

/-- The encoding of a text that begins with two characters of ASCII, none of them zero: the zeros among
its first bytes tell. A text of a single character is in units of one byte or two. -/
def ofFirstBytes : List UInt8 → Encoding
  | a :: b :: c :: d :: _ =>
    if a = 0 then if b = 0 then .utf32 .big else .utf16 .big
    else if b = 0 then if c = 0 ∧ d = 0 then .utf32 .little else .utf16 .little
    else .utf8
  | [a, b] => if a = 0 then .utf16 .big else if b = 0 then .utf16 .little else .utf8
  | _ => .utf8

/-- The characters of bytes that are also the text `s` in units of one byte. -/
def decode (e : Encoding) (s : String) : Option (List Char) :=
  match e with
  | .utf8 => some s.toList
  | .utf16 o => (units16 o s.toUTF8.toList).bind ofUnits16
  | .utf32 o => ofBytes32 o s.toUTF8.toList

end Encoding

end Completions.Text
