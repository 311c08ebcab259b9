import Completions.Text.Growing
import Completions.Text.Search

/-!
Stop words over a text that is still being written. A word may begin in one piece of the text and
end in a later one, so two questions are asked of the whole text: has a stop word occurred, and if
not, could its end still grow into one?
-/

namespace Completions.Stop

/-- Where the longest end of a text begins that begins `word`; the text's first character has
place `i`. -/
def borderAt (word : List Char) (i : Nat) : List Char → Option Nat
  | [] => none
  | c :: t => if (c :: t).isPrefixOf word then some i else borderAt word (i + 1) t

/-- Where the longest end of `text` begins that is a beginning of `word`, but not all of it. -/
def partialPlace (text word : List Char) : Option Nat :=
  let start := text.length - (word.length - 1)
  borderAt word start (text.drop start)

structure Hit where
  position : Nat
  word : String
  deriving DecidableEq, Repr

def Hit.earlier (old : Option Hit) (new : Hit) : Option Hit :=
  match old with
  | none => some new
  | some h => if new.position < h.position then some new else some h

def Hit.improve (text : List Char) (start : Nat) (best : Option Hit) (w : String) : Option Hit :=
  match Text.findFrom w.toList start text with
  | none => best
  | some p => Hit.earlier best ⟨p, w⟩

def sooner : Option Nat → Option Nat → Option Nat
  | best, none => best
  | none, some p => some p
  | some b, some p => if p < b then some p else some b

inductive Check where
  | clear
  | stop (hit : Hit)
  | pending (position : Nat)
  deriving DecidableEq, Repr

def Check.after (k : Nat) : Check → Check
  | .clear => .clear
  | .stop hit => .stop { hit with position := hit.position + k }
  | .pending position => .pending (position + k)

def keep (kept : List String) (w : String) : List String :=
  if w = "" ∨ w ∈ kept then kept else kept ++ [w]

def distinct (declared : List String) : List String := declared.foldl keep []

theorem keep_inv {kept : List String} (w : String) (h : "" ∉ kept ∧ kept.Nodup) :
    "" ∉ keep kept w ∧ (keep kept w).Nodup := by
  unfold keep
  split
  · exact h
  · next new =>
    obtain ⟨nonempty, fresh⟩ := not_or.1 new
    refine ⟨by simpa [h.1] using Ne.symm nonempty, ?_⟩
    rw [List.nodup_append]
    refine ⟨h.2, by simp, ?_⟩
    intro v old u single same
    rw [List.mem_singleton.1 single] at same
    exact fresh (same ▸ old)

theorem distinct_inv (declared : List String) :
    "" ∉ distinct declared ∧ (distinct declared).Nodup := by
  suffices ∀ kept : List String, "" ∉ kept ∧ kept.Nodup →
      "" ∉ declared.foldl keep kept ∧ (declared.foldl keep kept).Nodup from this [] (by simp)
  induction declared with
  | nil => exact fun kept h => h
  | cons w rest ih => exact fun kept h => ih (keep kept w) (keep_inv w h)

structure Words where
  list : List String
  nonempty : "" ∉ list
  nodup : list.Nodup
  deriving DecidableEq, Repr

namespace Words

def ofList (declared : List String) : Words :=
  ⟨distinct declared, (distinct_inv declared).1, (distinct_inv declared).2⟩

def isEmpty (ws : Words) : Bool := ws.list.isEmpty

def longest (ws : Words) : Nat := (ws.list.map String.length).foldl max 0

/-- A word that ends in text not yet sent may begin this far back, and no further. -/
def scanStart (ws : Words) (sent : Int) : Nat := (sent - ((ws.longest - 1 : Nat) : Int)).toNat

/-- The first occurrence of a stop word that begins at or after `start`; of two that begin there
the word declared first. -/
def findFrom (ws : Words) (text : List Char) (start : Nat) : Option Hit :=
  ws.list.foldl (Hit.improve text start) none

def pendingPlace (ws : Words) (text : List Char) : Option Nat :=
  ws.list.foldl (fun best w => sooner best (partialPlace text w.toList)) none

/-- The text up to `sent` has been handed over, and held no stop word when it was. -/
def check (ws : Words) (text : List Char) (sent : Int) : Check :=
  if ws.isEmpty then .clear
  else match ws.findFrom text (ws.scanStart sent) with
    | some hit => .stop hit
    | none => match ws.pendingPlace text with
      | some p => .pending p
      | none => .clear

/-- The check of a growing text that held no stop word before its last `fresh` characters: only so
much of its end is looked at as a word that has occurred since can reach into. -/
def checkEnd (ws : Words) (text : Text.Growing) (fresh : Nat) : Check :=
  let window := text.ending (ws.longest - 1 + fresh)
  (ws.check window 0).after (text.size - window.length)

end Words

end Completions.Stop
