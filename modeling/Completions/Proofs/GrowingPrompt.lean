import Completions.Chat.Dialect
import Completions.Proofs.OpenReply

/-!
A prompt that waits for a reply grows by appending. Behind a turn that asks, no dialect looks back:
what it writes from there on depends on the later turns only, and it begins with the same cue whether
the reply is still to come or is already there.

Main statement: `format_grows`.
-/

namespace Completions.Chat

variable {d : Dialect} {bracketed : Bool} {ms ts more : List Message} {m a : Message}

/-- What a dialect writes behind a turn that asks: `next`, whatever stands before that turn. It begins
with the cue for the assistant, and where no turn follows the cue is all there is. -/
structure Cued (d : Dialect) (cue : String) (next : List Message → Except Fault String) : Prop where
  behind_asking : ∀ system ts m, (∀ t ∈ ts ++ [m], t.role.isKnown = true ∧ t.role ≠ .system) →
    m.role ≠ .assistant →
    ∃ before, ∀ rest, d.render system (ts ++ m :: rest) = (next rest).map (before ++ ·)
  next_nil : next [] = .ok cue
  next_reply : ∀ a more, a.role = .assistant →
    ∃ said : Except Fault String, next (a :: more) = said.map (cue ++ ·)
  next_ok : ∀ ts, (∀ t ∈ ts, t.role.isKnown = true ∧ t.role ≠ .system) → ∃ s, next ts = .ok s

theorem Brackets.cued (b : Brackets) (name : String) :
    Cued (b.dialect name) "" fun rest => .ok (b.layout none false rest) where
  behind_asking system ts m _ asks := by
    obtain ⟨before, same⟩ := b.layout_append ts system true
    obtain ⟨said, instructs⟩ := b.layout_instruction asks
      (if instructed ts then none else system) (true && !instructed ts)
    refine ⟨before ++ said, fun rest => ?_⟩
    have laid := same (m :: rest) (List.cons_ne_nil _ _)
    rw [instructs, ← String.append_assoc] at laid
    exact congrArg Except.ok laid
  next_nil := rfl
  next_reply a more _ := ⟨.ok (b.layout none false (a :: more)), by simp [map_ok]⟩
  next_ok _ _ := ⟨_, rfl⟩

theorem ChatML.layout_closed {t : Message} (closed : ¬(t.role = .assistant ∧ more = [])) :
    ChatML.layout (t :: more) = ChatML.turn t.role.name t.content ++ ChatML.layout more :=
  if_neg closed

theorem chatml_cued :
    Cued chatml "<|im_start|>assistant\n" fun rest => .ok (ChatML.layout rest) where
  behind_asking system ts m _ asks := by
    obtain ⟨before, same⟩ := ChatML.layout_append ts
    obtain ⟨heading, rendered⟩ : ∃ heading, ∀ ts,
        chatml.render system ts = .ok (heading ++ ChatML.layout ts) := ⟨_, fun _ => rfl⟩
    refine ⟨heading ++ (before ++ ChatML.turn m.role.name m.content), fun rest => ?_⟩
    rw [rendered, same _ (List.cons_ne_nil _ _), ChatML.layout_closed fun h => asks h.1, map_ok]
    simp only [String.append_assoc]
  next_nil := rfl
  next_reply a more reply := by
    by_cases last : more = []
    · have opened : ChatML.layout (a :: more) = "<|im_start|>assistant\n" ++ a.content :=
        if_pos ⟨reply, last⟩
      exact ⟨.ok a.content, by rw [opened, map_ok]⟩
    · refine ⟨.ok (a.content ++ "<|im_end|>\n" ++ ChatML.layout more), ?_⟩
      have heading : "<|im_start|>" ++ "assistant" ++ "\n" = "<|im_start|>assistant\n" := by decide
      rw [ChatML.layout_closed fun h => last h.2, map_ok, ChatML.turn, reply, Role.name, heading]
      simp only [String.append_assoc]
  next_ok _ _ := ⟨_, rfl⟩

theorem Plain.layout_ok (known : ∀ t ∈ ts, t.role.isKnown = true ∧ t.role ≠ .system) :
    ∃ s, Plain.layout ts = .ok s := by
  induction ts with
  | nil => exact ⟨_, rfl⟩
  | cons t ts ih =>
    obtain ⟨⟨known, turn⟩, rest⟩ := List.forall_mem_cons.1 known
    by_cases last : t.role = .assistant ∧ ts = []
    · exact ⟨_, if_pos last⟩
    · obtain ⟨l, labelled⟩ := Plain.label_ok known turn
      obtain ⟨below, laid⟩ := ih rest
      exact ⟨_, by rw [Plain.layout_closed labelled last, laid, map_ok]⟩

theorem plain_cued : Cued plain "Assistant: " Plain.layout where
  behind_asking system ts m known asks := by
    rw [List.forall_mem_append] at known
    obtain ⟨before, same⟩ := Plain.layout_append ts known.1
    obtain ⟨heading, rendered⟩ : ∃ heading, ∀ ts,
        plain.render system ts = (Plain.layout ts).map (heading ++ ·) := ⟨_, fun _ => rfl⟩
    have ⟨role, turn⟩ := known.2 m (List.mem_singleton_self m)
    obtain ⟨l, labelled⟩ := Plain.label_ok role turn
    refine ⟨heading ++ (before ++ (l ++ ": " ++ m.content ++ "\n")), fun rest => ?_⟩
    rw [rendered, same _ (List.cons_ne_nil _ _), Plain.layout_closed labelled fun h => asks h.1,
      map_append_append, map_append_append, String.append_assoc]
  next_nil := rfl
  next_reply a more reply := by
    by_cases last : more = []
    · have opened : Plain.layout (a :: more) = .ok ("Assistant: " ++ a.content) :=
        if_pos ⟨reply, last⟩
      exact ⟨.ok a.content, by rw [opened, map_ok]⟩
    · have labelled : Plain.label a.role = .ok "Assistant" := by rw [reply]; rfl
      refine ⟨(Plain.layout more).map (a.content ++ "\n" ++ ·), ?_⟩
      have heading : "Assistant" ++ ": " = "Assistant: " := by decide
      rw [Plain.layout_closed labelled fun h => last h.2, map_append_append, heading]
      simp only [String.append_assoc]
  next_ok _ known := Plain.layout_ok known

theorem BuiltIn.cued (builtIn : BuiltIn bracketed d) : ∃ cue next, Cued d cue next := by
  cases builtIn with
  | llama2 => exact ⟨_, _, llama2Brackets.cued "llama2"⟩
  | mistral => exact ⟨_, _, mistralBrackets.cued "mistral"⟩
  | chatml => exact ⟨_, _, chatml_cued⟩
  | plain => exact ⟨_, _, plain_cued⟩

theorem Cued.format_asking {cue : String} {next : List Message → Except Fault String}
    (cued : Cued d cue next) (known : ∀ n ∈ ms, n.role.isKnown = true)
    (last : (turns ms).getLast? = some m) (asks : m.role ≠ .assistant) :
    ∃ before, d.format ms = .ok (before ++ cue) ∧
      ∀ ext, (∀ n ∈ ext, n.role ≠ .system) →
        d.format (ms ++ ext) = (next ext).map (before ++ ·) := by
  obtain ⟨ts, split⟩ := List.getLast?_eq_some_iff.1 last
  have labelled := turns_known known
  rw [split] at labelled
  obtain ⟨before, written⟩ := cued.behind_asking (systemText ms) ts m labelled asks
  refine ⟨before, ?_, fun ext turned => ?_⟩
  · rw [Dialect.format, split, written, cued.next_nil, map_ok]
  · rw [Dialect.format, systemText_append_turns turned, turns_append_turns turned, split,
      List.append_assoc]
    exact written ext

/-- The prompt of a conversation whose last turn is a user's or a tool's is a prefix of the prompt of
every conversation that goes on from there with a reply. -/
theorem format_grows (builtIn : BuiltIn bracketed d) (known : ∀ n ∈ ms, n.role.isKnown = true)
    (last : (turns ms).getLast? = some m) (asks : m.role = .user ∨ m.role = .tool)
    (reply : a.role = .assistant) (turned : ∀ n ∈ more, n.role ≠ .system) :
    ∃ prompt, d.format ms = .ok prompt ∧
      (∀ longer, d.format (ms ++ a :: more) = .ok longer → prompt.toList <+: longer.toList) ∧
      ((∀ n ∈ more, n.role.isKnown = true) → ∃ longer, d.format (ms ++ a :: more) = .ok longer) := by
  obtain ⟨cue, next, cued⟩ := builtIn.cued
  have asks : m.role ≠ .assistant := by obtain asks | asks := asks <;> simp [asks]
  obtain ⟨before, short, continued⟩ := cued.format_asking known last asks
  have long := continued (a :: more) (List.forall_mem_cons.2 ⟨by simp [reply], turned⟩)
  refine ⟨before ++ cue, short, fun longer grown => ?_, fun known => ?_⟩
  · obtain ⟨said, behind⟩ := cued.next_reply a more reply
    rw [long, behind, map_append_append] at grown
    cases said with
    | error _ => cases grown
    | ok below =>
      obtain rfl := Except.ok.inj grown
      exact ⟨below.toList, (String.toList_append).symm⟩
  · have labelled : ∀ t ∈ a :: more, t.role.isKnown = true ∧ t.role ≠ .system :=
      List.forall_mem_cons.2 ⟨by simp [reply, Role.isKnown], fun t among =>
        ⟨known t among, turned t among⟩⟩
    obtain ⟨s, laid⟩ := cued.next_ok _ labelled
    exact ⟨before ++ s, by rw [long, laid, map_ok]⟩

theorem format_grows_mistral :
    let asked : Message := { role := .user, content := "U" }
    let ms : List Message := [asked, { role := .system, content := "S" }]
    let reply : Message := { role := .assistant, content := "Hi" }
    let more : List Message := [{ role := .tool, content := "42", name := some "calc" }]
    ((∀ n ∈ ms, n.role.isKnown = true) ∧ (turns ms).getLast? = some asked ∧
        (asked.role = .user ∨ asked.role = .tool) ∧ reply.role = .assistant ∧
        ∀ n ∈ more, n.role ≠ .system) ∧
      ∃ prompt, mistral.format ms = .ok prompt ∧
        (∀ longer, mistral.format (ms ++ reply :: more) = .ok longer →
          prompt.toList <+: longer.toList) ∧
        ((∀ n ∈ more, n.role.isKnown = true) →
          ∃ longer, mistral.format (ms ++ reply :: more) = .ok longer) := by
  intro asked ms reply more
  have known : ∀ n ∈ ms, n.role.isKnown = true := by decide
  have last : (turns ms).getLast? = some asked := by decide
  have turned : ∀ n ∈ more, n.role ≠ .system := by decide
  exact ⟨⟨known, last, .inl rfl, rfl, turned⟩,
    format_grows .mistral known last (.inl rfl) rfl turned⟩

end Completions.Chat
