import Completions.Launch.Factory
import Completions.Rehearsal.World

/-!
Scripts from JSON, and a factory of scripted backends, whose arguments are the fields of the script. A
field that is absent keeps its value, and unknown fields are passed over.
-/

namespace Completions.Rehearsal

def textOr (default : String) : Json → String
  | .str s => s
  | _ => default

def text? : Json → Option String
  | .str s => some s
  | _ => none

def integer? : Json → Option Int
  | .int n => some n
  | _ => none

def natOf (v : Json) : Nat := ((integer? v).getD 0).toNat

def itemsOf : Json → List Json
  | .arr xs => xs
  | _ => []

def faultOf (v : Json) : Fault :=
  match itemsOf v with
  | [] => ⟨.runtime, ""⟩
  | [kind] => ⟨FaultKind.ofLabel (textOr "" kind), ""⟩
  | kind :: message :: _ =>
    let kind := FaultKind.ofLabel (textOr "" kind)
    if kind = .key then Fault.missingKey (textOr "" message) else ⟨kind, textOr "" message⟩

def itemOf : Json → Item
  | .str s => .piece s
  | .int n => .token n
  | .obj fields => .fails (faultOf (Fields.get fields "raise"))
  | _ => .endToken

def methods : List (String × Method) :=
  [("tokenize", .tokenize), ("decode", .decode), ("sample", .sample), ("token_to_text", .piece),
   ("context_window_size", .contextSize), ("clear_kv_cache", .clear), ("apply_chat_template", .layout)]

def raisingOf : Json → List (Method × Fault)
  | .obj fields => fields.filterMap fun (name, v) => (methods.lookup name).map fun m => (m, faultOf v)
  | _ => []

def hookOf (v : Json) : Option (Nat × Hook) :=
  match v with
  | .arr [count, action] =>
    if action.isStr "cancel" then some (natOf count, .cancel)
    else if action.isStr "set_event" then some (natOf count, .setEvent)
    else none
  | _ => none

def templateOf : Json → Template
  | .null => .absent
  | .str "null" => .declining
  | _ => .native

def infoOf : Json → Fields
  | .obj fields => fields
  | _ => []

namespace Script

def change (s : Script) (fields : Fields) : Script :=
  let at? (key : String) := fields.get? key
  { contextSize := (at? "n_ctx").elim s.contextSize fun v => (integer? v).getD 0
    endToken := (at? "eos").elim s.endToken integer?
    endText := (at? "eos_text").elim s.endText (textOr "")
    ready := (at? "ready").elim s.ready Json.truthy
    items := (at? "script").elim s.items fun v => (itemsOf v).map itemOf
    filler := (at? "filler").elim s.filler text?
    failing := (at? "fail_decode").elim s.failing fun v => (itemsOf v).map natOf
    raising := (at? "raise_in").elim s.raising raisingOf
    hooks := (at? "after_sample").elim s.hooks fun v => (itemsOf v).filterMap hookOf
    unknownToken := (at? "unknown_token").elim s.unknownToken fun v => FaultKind.ofLabel (textOr "" v)
    template := (at? "template").elim s.template templateOf
    info := (at? "model_info").elim s.info infoOf }

def ofFields (fields : Fields) : Script := change {} fields

end Script

def factory : Launch.Member World :=
  .factory fun fields => .ok (.backend backend { script := .ofFields fields })

def modules : Launch.Modules World := [("rehearsal", [("make", factory)])]

end Completions.Rehearsal
