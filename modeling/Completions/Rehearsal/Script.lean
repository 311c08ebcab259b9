import Completions.Engine.Backend

/-!
A backend that plays a script: one token for each character of a text, and the items of the script
in place of a model's choices. It keeps a trace of what it is asked to do and fails where it is told
to.
-/

namespace Completions.Rehearsal

inductive Item where
  | piece (text : String)
  | endToken
  | token (id : Int)
  | fails (fault : Fault)
  deriving DecidableEq, Repr

inductive Method where
  | tokenize
  | decode
  | sample
  | piece
  | contextSize
  | clear
  | layout
  deriving DecidableEq, Repr

inductive Hook where
  /-- The engine is asked to end the run, where the hook can reach it. -/
  | cancel
  | setEvent
  deriving DecidableEq, Repr

/-- How conversations are laid out: not at all, or on request with or without success. -/
inductive Template where
  | absent
  | declining
  | native
  deriving DecidableEq, Repr

structure Script where
  contextSize : Int := 64
  endToken : Option Int := some 0
  endText : String := ""
  ready : Bool := true
  items : List Item := []
  /-- The text of token 1, which comes once the items are used up. -/
  filler : Option String := some "."
  failing : List Nat := []
  raising : List (Method × Fault) := []
  hooks : List (Nat × Hook) := []
  unknownToken : FaultKind := .key
  template : Template := .absent
  info : Fields := []

namespace Script

def fault? (s : Script) (m : Method) : Option Fault := s.raising.lookup m

def endOrZero (s : Script) : Int := s.endToken.getD 0

def firstPiece : Int := 2

def firstChar : Int := 1000

def tokens (text : String) : List Int := text.toList.map fun c => firstChar + (c.toNat : Int)

def tokenAt (s : Script) (place : Nat) : Except Fault Int :=
  match s.items[place]? with
  | some (.piece _) => .ok (firstPiece + place)
  | some .endToken => .ok s.endOrZero
  | some (.token id) => .ok id
  | some (.fails f) => .error f
  | none => .ok (if s.filler.isSome then 1 else s.endOrZero)

def charOf? (token : Int) : Option Char :=
  let n := (token - firstChar).toNat
  if firstChar ≤ token ∧ n.isValidChar then some (Char.ofNat n) else none

def pieceAt? (s : Script) (token : Int) : Option String :=
  if firstPiece ≤ token then
    match s.items[(token - firstPiece).toNat]? with
    | some (.piece text) => some text
    | _ => none
  else none

def pieceOf (s : Script) (token : Int) : Except Fault String :=
  if token = s.endOrZero then .ok s.endText
  else match (if token = 1 then s.filler else none) with
    | some text => .ok text
    | none =>
      match s.pieceAt? token with
      | some text => .ok text
      | none =>
        match charOf? token with
        | some c => .ok (String.singleton c)
        | none => .error ⟨s.unknownToken, toString token⟩

def textField (v : Json) (key : String) : String :=
  match v with
  | .obj fields => (Fields.get fields key).named
  | v => v.named

def layout (messages : List Json) : String :=
  "NATIVE|" ++ "|".intercalate (messages.map fun m => textField m "role" ++ ":" ++ textField m "content")
    ++ "|"

end Script

/-- What the backend was asked to do, and with what outcome where that is not given by the call. -/
inductive Entry where
  | cleared
  | tokenized (text : String)
  | decoded (tokens : List Int) (position : Nat)
  | sampled (token : Int)
  | templated (call : TemplateCall)
  | unloaded

structure Wish where
  sampling : Sampling
  grammar : Option String
  jsonSchema : Option Fields

end Completions.Rehearsal
