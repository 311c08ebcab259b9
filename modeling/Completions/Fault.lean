import Completions.Text.Quoted

/-!
What a failed call leaves behind: the kind of failure and its text. Backends and sinks may fail in
ways of their own, so the kinds are open; four of them are the service's own.
-/

namespace Completions

inductive ErrorKind where
  | invalidParam
  | modelNotReady
  | inferenceFailure
  | general
  | other (name : String)
  deriving DecidableEq, Repr

namespace ErrorKind

def name : ErrorKind → String
  | .invalidParam => "invalid_param"
  | .modelNotReady => "model_not_ready"
  | .inferenceFailure => "inference_failure"
  | .general => "general"
  | .other n => n

def ofName (n : String) : ErrorKind :=
  if n = "invalid_param" then .invalidParam
  else if n = "model_not_ready" then .modelNotReady
  else if n = "inference_failure" then .inferenceFailure
  else if n = "general" then .general
  else .other n

end ErrorKind

inductive FaultKind where
  | generation
  | invalidParam
  | modelNotReady
  | inferenceFailure
  | value
  | malformedCall
  | malformedJson
  | type
  | key
  | index
  | overflow
  | runtime
  | unsupported
  | other (label : String)
  deriving DecidableEq, Repr

namespace FaultKind

def label : FaultKind → String
  | .generation => "GenerationError"
  | .invalidParam => "InvalidParamError"
  | .modelNotReady => "ModelNotReadyError"
  | .inferenceFailure => "InferenceFailureError"
  | .value => "ValueError"
  | .malformedCall => "ToolCallParseError"
  | .malformedJson => "JSONDecodeError"
  | .type => "TypeError"
  | .key => "KeyError"
  | .index => "IndexError"
  | .overflow => "OverflowError"
  | .runtime => "RuntimeError"
  | .unsupported => "NotImplementedError"
  | .other l => if l = "" then "Error" else l

def named : List FaultKind :=
  [.generation, .invalidParam, .modelNotReady, .inferenceFailure, .value, .malformedCall,
   .malformedJson, .type, .key, .index, .overflow, .runtime, .unsupported]

def ofLabel (l : String) : FaultKind :=
  (named.find? fun k => k.label == l).getD (.other l)

def own? : FaultKind → Option ErrorKind
  | .generation => some .general
  | .invalidParam => some .invalidParam
  | .modelNotReady => some .modelNotReady
  | .inferenceFailure => some .inferenceFailure
  | _ => none

def errorKind (k : FaultKind) : ErrorKind := k.own?.getD .general

def isValue : FaultKind → Bool
  | .value | .malformedCall | .malformedJson | .invalidParam => true
  | _ => false

end FaultKind

structure Fault where
  kind : FaultKind
  message : String
  deriving DecidableEq, Repr

namespace Fault

/-- The message of an answer is never empty. -/
def report (f : Fault) : String := if f.message = "" then f.kind.label else f.message

def invalidParam (message : String) : Fault := ⟨.invalidParam, message⟩

/-- A missing entry is reported by its key in quotes. -/
def missingKey (key : String) : Fault := ⟨.key, quoted key⟩

end Fault

end Completions
