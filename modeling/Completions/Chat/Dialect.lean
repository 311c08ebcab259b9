import Completions.Chat.Message
import Completions.Text.LetterCase

/-!
Dialects: how a conversation is laid out as one prompt. The first system message counts, wherever it
stands, and no other; the other turns follow in their order. The prompt ends where the assistant is
to speak: a last turn of the assistant is left open, so that it is continued. Dialects are found by
name, without the blanks around it and without regard to capitals; a name that is not listed means the
plain transcript.
-/

namespace Completions.Chat

/-- A way to lay out a conversation: its first system text, if any, and its other turns. -/
structure Dialect where
  name : String
  render : Option String → List Message → Except Fault String

def systemText : List Message → Option String
  | [] => none
  | m :: rest => if m.role = .system then some m.content else systemText rest

def turns (ms : List Message) : List Message := ms.filter fun m => m.role ≠ .system

section Conversation

variable {ms ns : List Message} {t : Message}

theorem mem_turns : t ∈ turns ms ↔ t ∈ ms ∧ t.role ≠ .system := by
  rw [turns, List.mem_filter, decide_eq_true_iff]

theorem turns_known (known : ∀ n ∈ ms, n.role.isKnown = true) :
    ∀ t ∈ turns ms, t.role.isKnown = true ∧ t.role ≠ .system := by
  intro t turn
  have ⟨among, other⟩ := mem_turns.1 turn
  exact ⟨known t among, other⟩

theorem systemText_mem {s : String} (given : systemText ms = some s) :
    ∃ m ∈ ms, m.role = .system ∧ m.content = s := by
  induction ms with
  | nil => cases given
  | cons m ms ih =>
    by_cases system : m.role = .system
    · rw [systemText, if_pos system, Option.some.injEq] at given
      exact ⟨m, by simp, system, given⟩
    · rw [systemText, if_neg system] at given
      obtain ⟨n, among, rest⟩ := ih given
      exact ⟨n, by simp [among], rest⟩

theorem systemText_append_turns (turned : ∀ n ∈ ns, n.role ≠ .system) :
    systemText (ms ++ ns) = systemText ms := by
  induction ms with
  | nil =>
    induction ns with
    | nil => rfl
    | cons n ns ih =>
      obtain ⟨turn, rest⟩ := List.forall_mem_cons.1 turned
      exact (if_neg turn).trans (ih rest)
  | cons m ms ih => rw [List.cons_append, systemText, systemText, ih]

theorem turns_append_turns (turned : ∀ n ∈ ns, n.role ≠ .system) :
    turns (ms ++ ns) = turns ms ++ ns := by
  have kept : ns.filter (fun n => n.role ≠ .system) = ns :=
    List.filter_eq_self.2 fun n among => decide_eq_true (turned n among)
  rw [turns, List.filter_append, kept, turns]

end Conversation

def Dialect.format (d : Dialect) (ms : List Message) : Except Fault String :=
  d.render (systemText ms) (turns ms)

/-- The dialects that put instructions in brackets differ in how a block opens, how a reply closes
and where the system text goes. -/
structure Brackets where
  opening : (first : Bool) → String
  closeReply : String → String
  withSystem : (system content : String) → String

namespace Brackets

def instruction (b : Brackets) (first : Bool) (content : String) : String :=
  b.opening first ++ "[INST] " ++ content ++ " [/INST]"

def instructionText (m : Message) : String :=
  if m.role = .tool then
    let label := match m.name with
      | some n => if n = "" then "[tool result]" else "[tool result: " ++ n ++ "]"
      | none => "[tool result]"
    stripped (label ++ " " ++ m.content)
  else stripped m.content

/-- The system text that still waits for an instruction; an empty one does not wait. -/
def waiting (pending : Option String) : Option String :=
  match pending with
  | some s => if s = "" then none else some s
  | none => none

def openReply (content : String) : String :=
  if stripped content = "" then "" else " " ++ stripped content

/-- The turns in order; `pending` is the system text not yet placed and `first` says that no
instruction has been written. -/
def layout (b : Brackets) (pending : Option String) (first : Bool) : List Message → String
  | [] =>
    match waiting pending with
    | some s => b.instruction first (b.withSystem (stripped s) "")
    | none => ""
  | m :: rest =>
    if m.role = .assistant then
      (if rest.isEmpty then openReply m.content else b.closeReply (stripped m.content)) ++
        layout b pending first rest
    else
      let content := match waiting pending with
        | some s => b.withSystem (stripped s) (instructionText m)
        | none => instructionText m
      b.instruction first content ++ layout b none false rest

def dialect (b : Brackets) (name : String) : Dialect where
  name
  render system turns := .ok (b.layout system true turns)

end Brackets

def llama2Brackets : Brackets where
  opening _ := "<s>"
  closeReply reply := " " ++ reply ++ " </s>"
  withSystem system content := "<<SYS>>\n" ++ system ++ "\n<</SYS>>\n\n" ++ content

def mistralBrackets : Brackets where
  opening first := if first then "<s>" else ""
  closeReply reply := " " ++ reply ++ "</s>"
  withSystem system content := if content = "" then system else system ++ "\n\n" ++ content

def llama2 : Dialect := llama2Brackets.dialect "llama2"

def mistral : Dialect := mistralBrackets.dialect "mistral"

namespace ChatML

def turn (role content : String) : String :=
  "<|im_start|>" ++ role ++ "\n" ++ content ++ "<|im_end|>\n"

/-- The last turn is left open; without one the assistant's turn is begun. -/
def layout : List Message → String
  | [] => "<|im_start|>assistant\n"
  | m :: rest =>
    if m.role = .assistant ∧ rest = [] then "<|im_start|>assistant\n" ++ m.content
    else turn m.role.name m.content ++ layout rest

end ChatML

def chatml : Dialect where
  name := "chatml"
  render system turns :=
    .ok ((match system with
      | some s => ChatML.turn "system" s
      | none => "") ++ ChatML.layout turns)

namespace Plain

def label : Role → Except Fault String
  | .user => .ok "User"
  | .assistant => .ok "Assistant"
  | .tool => .ok "Tool"
  | r => .error (Fault.missingKey r.name)

def layout : List Message → Except Fault String
  | [] => .ok "Assistant: "
  | m :: rest =>
    if m.role = .assistant ∧ rest = [] then .ok ("Assistant: " ++ m.content)
    else do
      let l ← label m.role
      let below ← layout rest
      pure (l ++ ": " ++ m.content ++ "\n" ++ below)

end Plain

def plain : Dialect where
  name := "plain"
  render system turns := do
    let below ← Plain.layout turns
    pure ((match system with
      | some s => "System: " ++ s ++ "\n\n"
      | none => "") ++ below)

abbrev Catalog := List (String × Dialect)

namespace Catalog

def key (name : String) : String := String.ofList (Text.lower (Text.trim name.toList))

def standard : Catalog :=
  [("llama2", llama2), ("llama-2", llama2), ("llama2-chat", llama2),
   ("mistral", mistral), ("mistral-v1", mistral), ("mistral-instruct", mistral),
   ("chatml", chatml), ("chat-ml", chatml), ("qwen", chatml)]

def find (c : Catalog) (name : String) : Dialect := (c.lookup (key name)).getD plain

/-- A new name goes to the end; a listed one keeps its place and gets the new dialect. -/
def insert (c : Catalog) (k : String) (d : Dialect) : Catalog :=
  match c with
  | [] => [(k, d)]
  | (l, e) :: rest => if l = k then (l, d) :: rest else (l, e) :: Catalog.insert rest k d

def register (c : Catalog) (name : String) (d : Dialect) : Catalog := c.insert (key name) d

def names (c : Catalog) : List String := c.map Prod.fst

end Catalog

end Completions.Chat
