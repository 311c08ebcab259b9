import Completions.Fault

/-!
Why the engine ends a run without a text, or does not begin one.
-/

namespace Completions

inductive Cause where
  | batchSize
  | noPrompt
  | notReady
  | busy
  /-- A run cannot wait for the run it is part of. -/
  | waitsForItself
  | emptyPrompt
  | promptTooLong (size : Nat) (most : Int)
  | promptBeyondContext (size : Nat) (context : Int)
  | prefill (start : Nat)
  | decode
  | messagesRequired
  | grammarAndSchema
  | streamWithTools
  | noTools
  | template (text : String)
  | contentType
  | tokensType
  | unknownToken (text : String)
  deriving DecidableEq, Repr

namespace Cause

def text : Cause → String
  | .batchSize => "'prompt_batch_size' must be > 0."
  | .noPrompt => "No prompt provided."
  | .notReady => "Model not initialized."
  | .busy => "Engine is busy with another generation."
  | .waitsForItself => "Engine is busy with the generation that asks for this one."
  | .emptyPrompt => "Empty prompt."
  | .promptTooLong size most => s!"Prompt too long: {size} tokens (max={most})."
  | .promptBeyondContext size context =>
    s!"Prompt too long for context window ({size} tokens, max context is {context})."
  | .prefill start => s!"Failed to process prompt (batch starting at token {start})."
  | .decode => "Failed to decode generated token."
  | .messagesRequired => "'messages' is required for chat completions."
  | .grammarAndSchema => "'grammar' and 'json_schema' are mutually exclusive."
  | .streamWithTools => "Streaming is not supported together with 'tools'."
  | .noTools => "tool_choice='required' but no tools were supplied in the request."
  | .template t => "Failed to apply chat template: " ++ t
  | .contentType => "'content' must be a string."
  | .tokensType => "'tokens' must be a list of integers."
  | .unknownToken t => "Unknown token id: " ++ t

def kind : Cause → FaultKind
  | .batchSize => .value
  | .notReady => .modelNotReady
  | .busy | .waitsForItself => .generation
  | .prefill _ | .decode => .inferenceFailure
  | _ => .invalidParam

def fault (c : Cause) : Fault := ⟨c.kind, c.text⟩

end Cause

end Completions
