import Completions.Request.Basic

/-!
The conditions a request has to meet before any work is done for it. Of several that fail the first
in the order of checking is named.
-/

namespace Completions.Request

inductive Breach where
  | noPrompt
  | promptAndMessages
  | noMessages
  | promptItems
  | notNumber (name : String)
  | negative (name : String)
  | tooLarge
  | seed
  | budgetType
  | budgetRange
  | toolChoice (v : Json)

namespace Breach

def text : Breach → String
  | .noPrompt => "No prompt provided: either 'prompt' or 'messages' is required."
  | .promptAndMessages => "'prompt' and 'messages' are mutually exclusive."
  | .noMessages => "'messages' must be a non-empty list."
  | .promptItems =>
    "'prompt' must be a string, a list of token ids, or a list of mixed strings and token ids."
  | .notNumber name => "'" ++ name ++ "' must be a number."
  | .negative name => "'" ++ name ++ "' must be >= 0."
  | .tooLarge => "int too large to convert to float"
  | .seed => "'seed' must be an integer."
  | .budgetType => "'max_new_tokens' must be an integer."
  | .budgetRange => "'max_new_tokens' must be -1 (unbounded) or > 0."
  | .toolChoice v =>
    "'tool_choice' must be one of auto, none, required (got " ++ v.shown ++ ")."

def fault (b : Breach) : Fault :=
  match b with
  | .tooLarge => ⟨.overflow, b.text⟩
  | _ => ⟨.invalidParam, b.text⟩

end Breach

def isPromptItem : Json → Bool
  | .int _ => true
  | .str _ => true
  | _ => false

def checkPrompt : Prompt → Except Breach Unit
  | .text _ => .ok ()
  | .items xs => if xs.all isPromptItem then .ok () else .error .promptItems

def checkNumber (name : String) : Json → Except Breach Unit
  | .int n =>
    if Number.tooLarge n then .error .tooLarge
    else if n < 0 then .error (.negative name)
    else .ok ()
  | .float x => if x.isNaN || x < 0 then .error (.negative name) else .ok ()
  | _ => .error (.notNumber name)

def checkSampling (s : Sampling) : Except Breach Unit := do
  checkNumber "temperature" s.temperature
  checkNumber "top_p" s.topP
  checkNumber "top_k" s.topK
  checkNumber "min_p" s.minP
  match s.seed with
  | .int _ => pure ()
  | _ => .error .seed

def checkBudget : Json → Except Breach Unit
  | .int n => if n ≠ -1 ∧ n ≤ 0 then .error .budgetRange else .ok ()
  | _ => .error .budgetType

def toolChoices : List String := ["auto", "none", "required"]

def checkToolChoice (v : Json) : Except Breach Unit :=
  if toolChoices.any v.isStr then .ok () else .error (.toolChoice v)

def checkSource (r : Request) : Except Breach Unit :=
  match r.prompt, r.messages with
  | none, none => .error .noPrompt
  | some _, some _ => .error .promptAndMessages
  | none, some [] => .error .noMessages
  | none, some (_ :: _) => .ok ()
  | some p, none => checkPrompt p

def validate (r : Request) : Except Breach Unit := do
  checkSource r
  checkSampling r.sampling
  checkBudget r.maxNewTokens
  checkToolChoice r.toolChoice

end Completions.Request
