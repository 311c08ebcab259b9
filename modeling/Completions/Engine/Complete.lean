import Completions.Engine.Prompt
import Completions.Tool.Mention

/-!
The two services of the engine: to complete a text, and to answer a conversation. An answer is
searched for calls of the tools that were offered.
-/

namespace Completions.Engine

variable {σ : Type}

def withDefaults (e : Engine σ) (r : Request) : Request :=
  if r.maxNewTokens.isInt (-1) = true ∧ 0 < e.config.defaultMaxNewTokens then
    { r with maxNewTokens := .int e.config.defaultMaxNewTokens }
  else r

/-- Refuse a request that does not get as far as a run. -/
def reject (sink : Option (Sink σ)) (f : Fault) : Act σ Result := do
  Controller.finishSink sink ""
  pure (.failed f)

def run (e : Engine σ) (r : Request) (sink : Option (Sink σ)) (override : Option Prompt)
    (watch : σ → Bool) : Act σ Result := fun s =>
  let (result, s) := e.controller.run r sink override watch s
  .ok result s

/-- The prompt of messages for the completion of a text: no template of the backend, no tools. -/
def transcript (e : Engine σ) (r : Request) : Except Fault String := do
  r.validate.mapError Request.Breach.fault
  (e.dialect r).format (r.messages.getD [])

def complete (e : Engine σ) (r : Request) (sink : Option (Sink σ) := none)
    (watch : σ → Bool := fun _ => false) : Act σ Result := do
  let r := e.withDefaults r
  if r.isChat = true ∧ r.prompt.isNone = true then
    match e.transcript r with
    | .error f => reject sink f
    | .ok p => e.run r sink (some (.text p)) watch
  else e.run r sink none watch

def checkChat (r : Request) : Except Fault Unit := do
  if r.messages.isNone then .error Cause.messagesRequired.fault
  r.validate.mapError Request.Breach.fault
  if r.grammar.isSome && r.jsonSchema.isSome then .error Cause.grammarAndSchema.fault
  if !r.offeredTools.isEmpty && r.stream then .error Cause.streamWithTools.fault
  if r.toolChoice.isStr "required" && r.tools.isEmpty then .error Cause.noTools.fault

/-- The calls an answer makes: those of its list, or the single one it mentions. -/
def mentioned (stamp : Stamp) (content : String) : List Tool.Call :=
  match Tool.listed stamp content.toList with
  | [] => (Tool.single? stamp content.toList).toList
  | calls => calls

def accepted (stamp : Stamp) (tools : List Tool.Definition) (content : String) : List Tool.Call :=
  (mentioned stamp content).filter fun call => tools.any fun t => t.name == call.name

def withCalls (stamp : Stamp) (tools : List Tool.Definition) (c : Completion) : Completion :=
  match accepted stamp tools c.content with
  | [] => c
  | calls =>
    { c with
      toolCalls := calls
      finish := if c.finish = .cancelled then .cancelled else .toolCalls }

def chatReply (e : Engine σ) (stamp : Stamp) (r : Request) (c : Completion) : ChatReply where
  id := stamp.chatId
  created := stamp.seconds
  model := match r.model with
    | some m => if m = "" then e.config.modelId else m
    | none => e.config.modelId
  content := if c.toolCalls = [] then some c.content else none
  toolCalls := c.toolCalls
  finish := c.finish
  usage := c.usage

def answer (e : Engine σ) (stamp : Stamp) (r : Request) : Result → Result
  | .failed f => .failed f
  | .completed c =>
    let c := if r.offeredTools.isEmpty then c else withCalls stamp r.offeredTools c
    .completed { c with reply := some (e.chatReply stamp r c) }

def chatPrompt (e : Engine σ) (r : Request) : Act σ String := do
  Act.ofExcept (checkChat r)
  e.prompt r

def chat (e : Engine σ) (stamp : Stamp) (r : Request) (sink : Option (Sink σ) := none)
    (watch : σ → Bool := fun _ => false) : Act σ Result := fun s =>
  let r := e.withDefaults r
  match e.chatPrompt r s with
  | .error f s => reject sink f s
  | .ok p s =>
    match e.run r sink (some (.text p)) watch s with
    | .ok result s => .ok (e.answer stamp r result) s
    | .error f s => .error f s

end Completions.Engine
