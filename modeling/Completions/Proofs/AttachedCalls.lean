import Completions.Proofs.CarriedFailure
import Completions.Proofs.ClientView

/-!
What a conversation adds to the run it comes from: the calls of offered tools that its text makes,
the reason those are for its end, and the object that tells a client. The rest is the run's.

Main statement: `chat_attached`.
-/

namespace Completions

namespace Engine

open Http (fieldOf choiceOf)

variable {σ : Type} {stamp : Stamp} {tools : List Tool.Definition} {call : Tool.Call}
  {ran c : Completion}

def Offered (tools : List Tool.Definition) (call : Tool.Call) : Prop :=
  call.name ∈ tools.map Tool.Definition.name

instance (tools : List Tool.Definition) : DecidablePred (Offered tools) := fun call =>
  inferInstanceAs (Decidable (call.name ∈ tools.map Tool.Definition.name))

/-- A completion with the calls of a run's text. -/
structure Attached (stamp : Stamp) (tools : List Tool.Definition) (ran c : Completion) : Prop where
  /-- Calls in a list go before a call that stands by itself, even if none of them was offered. -/
  listed : Tool.listed stamp ran.content.toList ≠ [] →
    c.toolCalls = (Tool.listed stamp ran.content.toList).filter fun call => Offered tools call
  single : Tool.listed stamp ran.content.toList = [] →
    c.toolCalls = (Tool.single? stamp ran.content.toList).toList.filter fun call =>
      Offered tools call
  reason : c.finish = .toolCalls ↔ c.toolCalls ≠ [] ∧ ran.finish ≠ .cancelled
  otherwise : c.finish ≠ .toolCalls → c.finish = ran.finish
  kept : { ran with toolCalls := c.toolCalls, finish := c.finish, reply := c.reply } = c

structure Rendered (c : Completion) (v : Json) : Prop where
  text : c.toolCalls = [] → fieldOf (choiceOf v) "message" =
    .obj [("role", .str "assistant"), ("content", .str c.content)]
  calls : c.toolCalls ≠ [] → fieldOf (choiceOf v) "message" =
    .obj [("role", .str "assistant"), ("content", .null),
      ("tool_calls", .arr (c.toolCalls.map Tool.Call.toJson))]
  silent : fieldOf (fieldOf (choiceOf v) "message") "content" = .null ↔ c.toolCalls ≠ []
  finish : fieldOf (choiceOf v) "finish_reason" = .str c.finish.name
  usage : fieldOf v "usage" = .obj [("prompt_tokens", .int c.promptTokens),
    ("completion_tokens", .int c.tokens.length),
    ("total_tokens", .int (c.promptTokens + c.tokens.length))]

theorem offered_iff : (tools.any fun t => t.name == call.name) = true ↔ Offered tools call := by
  simp [Offered]

theorem accepted_eq (stamp : Stamp) (tools : List Tool.Definition) (content : String) :
    accepted stamp tools content =
      (mentioned stamp content).filter fun call => Offered tools call :=
  List.filter_congr fun call _ => Bool.eq_iff_iff.2 (by rw [offered_iff, decide_eq_true_iff])

theorem mentioned_listed {content : String} (found : Tool.listed stamp content.toList ≠ []) :
    mentioned stamp content = Tool.listed stamp content.toList := by
  unfold mentioned
  split
  · next absent => exact absurd absent found
  · rfl

theorem mentioned_single {content : String} (absent : Tool.listed stamp content.toList = []) :
    mentioned stamp content = (Tool.single? stamp content.toList).toList := by
  unfold mentioned
  split
  · rfl
  · next found => exact absurd absent found

theorem accepted_nil (stamp : Stamp) (content : String) : accepted stamp [] content = [] :=
  List.filter_eq_nil_iff.2 fun _ _ => Bool.false_ne_true

def endOf (calls : List Tool.Call) (reason : FinishReason) : FinishReason :=
  if calls = [] ∨ reason = .cancelled then reason else .toolCalls

theorem withCalls_eq (without : ran.toolCalls = []) : withCalls stamp tools ran =
    { ran with
      toolCalls := accepted stamp tools ran.content
      finish := endOf (accepted stamp tools ran.content) ran.finish } := by
  unfold withCalls
  cases accepted stamp tools ran.content with
  | nil =>
    cases ran
    subst without
    rfl
  | cons call calls =>
    by_cases cancelled : ran.finish = .cancelled <;> simp [endOf, cancelled]

theorem endOf_eq_toolCalls_iff {calls : List Tool.Call} {reason : FinishReason}
    (other : reason ≠ .toolCalls) :
    endOf calls reason = .toolCalls ↔ calls ≠ [] ∧ reason ≠ .cancelled := by
  by_cases none : calls = [] <;> by_cases cancelled : reason = .cancelled <;>
    simp [endOf, none, cancelled, other]

theorem endOf_of_ne {calls : List Tool.Call} {reason : FinishReason}
    (other : endOf calls reason ≠ .toolCalls) : endOf calls reason = reason := by
  unfold endOf at other ⊢
  split
  · rfl
  · next calls => exact absurd (if_neg calls) other

theorem attached_withCalls (without : ran.toolCalls = []) (other : ran.finish ≠ .toolCalls)
    (stamp : Stamp) (tools : List Tool.Definition) (reply : Option ChatReply) :
    Attached stamp tools ran { withCalls stamp tools ran with reply } := by
  rw [withCalls_eq without]
  exact {
    listed := fun found => by rw [accepted_eq, mentioned_listed found]
    single := fun absent => by rw [accepted_eq, mentioned_single absent]
    reason := endOf_eq_toolCalls_iff other
    otherwise := endOf_of_ne
    kept := rfl }

theorem withCalls_nil (stamp : Stamp) (ran : Completion) : withCalls stamp [] ran = ran := by
  unfold withCalls
  split
  · rfl
  · next found => exact absurd (accepted_nil stamp ran.content) found

theorem answer_completed (e : Engine σ) (stamp : Stamp) (r : Request) (ran : Completion) :
    e.answer stamp r (.completed ran) =
      .completed { withCalls stamp r.offeredTools ran with
        reply := some (e.chatReply stamp r (withCalls stamp r.offeredTools ran)) } := by
  have attached : (if r.offeredTools.isEmpty then ran else withCalls stamp r.offeredTools ran) =
      withCalls stamp r.offeredTools ran := by
    split
    · next unoffered => rw [List.isEmpty_iff.1 unoffered, withCalls_nil]
    · rfl
  exact congrArg (fun c : Completion => Result.completed
    { c with reply := some (e.chatReply stamp r c) }) attached

theorem offeredTools_eq_nil {r : Request}
    (unoffered : r.tools = [] ∨ r.toolChoice.isStr "none" = true) : r.offeredTools = [] := by
  obtain empty | off := unoffered
  · rw [Request.offeredTools, empty, ite_self]
  · exact if_pos off

theorem ending_finish_ne (ending : Generation.Ending) : ending.finish ≠ .toolCalls := by
  cases ending <;> exact FinishReason.noConfusion

section Object

variable {reply : ChatReply}

theorem toJson_message (reply : ChatReply) : fieldOf (choiceOf reply.toJson) "message" =
    ChatReply.messageJson reply.content reply.toolCalls := by
  simp [ChatReply.toJson, ChatReply.toFields, choiceOf, Http.itemsOf]

theorem Repeats.message_text (same : Repeats c reply) (absent : c.toolCalls = []) :
    fieldOf (choiceOf reply.toJson) "message" =
      .obj [("role", .str "assistant"), ("content", .str c.content)] := by
  rw [toJson_message, same.content, same.toolCalls, if_pos absent, absent]
  rfl

theorem Repeats.message_calls (same : Repeats c reply) (made : c.toolCalls ≠ []) :
    fieldOf (choiceOf reply.toJson) "message" =
      .obj [("role", .str "assistant"), ("content", .null),
        ("tool_calls", .arr (c.toolCalls.map Tool.Call.toJson))] := by
  rw [toJson_message, same.content, same.toolCalls, if_neg made, ChatReply.messageJson,
    if_neg made]
  rfl

theorem Repeats.rendered (same : Repeats c reply) : Rendered c reply.toJson where
  text := same.message_text
  calls := same.message_calls
  silent := by
    by_cases absent : c.toolCalls = []
    · simp [same.message_text absent, absent]
    · simp [same.message_calls absent, absent]
  finish := by simp [ChatReply.toJson, ChatReply.toFields, choiceOf, Http.itemsOf, same.finish]
  usage := by
    simp [ChatReply.toJson, ChatReply.toFields, same.usage, Completion.usage, Usage.toJson,
      Usage.total]

end Object

/-- A conversation that comes to an answer has had a prompt and a run, of which it is made. -/
theorem chat_attached {e : Engine σ} {r : Request} {sink : Option (Sink σ)} {watch : σ → Bool}
    {s t : Station σ} (done : e.chat stamp r sink watch s = .ok (.completed c) t) :
    ∃ prompt u ran,
      e.chatPrompt (e.withDefaults r) s = .ok prompt u ∧
      e.controller.run (e.withDefaults r) sink (some (.text prompt)) watch u = (.completed ran, t) ∧
      Attached stamp r.offeredTools ran c ∧
      (r.tools = [] ∨ r.toolChoice.isStr "none" = true → c.toolCalls = []) ∧
      ∃ reply, c.reply = some reply ∧ Rendered c reply.toJson := by
  rw [chat] at done
  cases laid : e.chatPrompt (e.withDefaults r) s with
  | error f u =>
    rw [laid] at done
    exact absurd done reject_not_completed
  | ok prompt u =>
    simp only [laid, run] at done
    obtain ⟨answered, left⟩ := EStateM.Result.ok.inj done
    cases result : e.controller.run (e.withDefaults r) sink (some (.text prompt)) watch u with
    | mk outcome v =>
      rw [result] at answered left
      cases outcome with
      | failed f => cases answered
      | completed ran =>
        obtain ⟨d, ended, rfl⟩ := Controller.run_completed (congrArg Prod.fst result)
        rw [answer_completed, offeredTools_withDefaults] at answered
        obtain rfl := Result.completed.inj answered
        subst left
        refine ⟨prompt, u, _, rfl, result, attached_withCalls rfl (ending_finish_ne _) _ _ _,
          fun unoffered => ?_, _, rfl, Repeats.rendered ⟨rfl, rfl, rfl, rfl⟩⟩
        rw [offeredTools_eq_nil unoffered, withCalls_nil]
        rfl

end Engine

def listingStation : Station Rehearsal.World where
  world :=
    { script :=
      { contextSize := 512, template := .native
        items := [.piece ("\x7b\"tool_calls\": [\x7b\"function\": \x7b\"name\": \"g\"\x7d\x7d, " ++
          "\x7b\"function\": \x7b\"name\": \"f\"\x7d\x7d]\x7d"), .endToken] } }

def listingRequest : Request where
  messages := some [{ role := .user, content := "hi" }]
  tools := [{ name := "f" }]

theorem listing_run : ∃ c t,
    rehearsedEngine.chat ⟨0, 0, ""⟩ listingRequest none (fun _ => false) listingStation =
      .ok (.completed c) t ∧ c.toolCalls = [{ id := "call_f_0", name := "f" }] := by
  have evaluated : Act.meets (fun c => decide (c.toolCalls = [{ id := "call_f_0", name := "f" }]))
      (rehearsedEngine.chat ⟨0, 0, ""⟩ listingRequest none (fun _ => false) listingStation) =
        true := by decide +kernel
  obtain ⟨c, t, done, calls⟩ := Act.completed_of_meets evaluated
  exact ⟨c, t, done, of_decide_eq_true calls⟩

theorem chat_attached_listing : ∃ c t prompt u ran,
    rehearsedEngine.chat ⟨0, 0, ""⟩ listingRequest none (fun _ => false) listingStation =
      .ok (.completed c) t ∧
    c.toolCalls = [{ id := "call_f_0", name := "f" }] ∧
    rehearsedEngine.chatPrompt (rehearsedEngine.withDefaults listingRequest) listingStation =
      .ok prompt u ∧
    rehearsed.run (rehearsedEngine.withDefaults listingRequest) none (some (.text prompt))
      (fun _ => false) u = (.completed ran, t) ∧
    Engine.Attached ⟨0, 0, ""⟩ listingRequest.tools ran c ∧
    ∃ reply, c.reply = some reply ∧ Engine.Rendered c reply.toJson := by
  obtain ⟨c, t, done, calls⟩ := listing_run
  obtain ⟨prompt, u, ran, laid, ended, attached, -, rendered⟩ := Engine.chat_attached done
  exact ⟨c, t, prompt, u, ran, done, calls, laid, ended, attached, rendered⟩

end Completions
