import Completions.Chat.Dialect
import Completions.Proofs.Outcome

/-!
A layout sets down what the earlier turns say before it looks at what the later ones say, so a last
reply can be left open. In the dialects with brackets a system text may still wait when the turns
have ended, and then it is set down behind the reply.

Main statement: `reply_left_open_iff`.
-/

namespace Completions.Chat

section Turns

variable {ts rest : List Message} {m t : Message}

def instructed (ts : List Message) : Bool := ts.any fun t => t.role ≠ .assistant

theorem instructed_reply (reply : t.role = .assistant) : instructed (t :: ts) = instructed ts := by
  simp [instructed, reply]

theorem instructed_instruction (other : t.role ≠ .assistant) : instructed (t :: ts) = true := by
  simp [instructed, other]

theorem instructed_eq_false_iff : instructed ts = false ↔ ∀ t ∈ ts, t.role = .assistant := by
  simp [instructed]

namespace Brackets

variable (b : Brackets)

/-- What an instruction says, with the system text that waits for one. -/
def placed (pending : Option String) (content : String) : String :=
  match waiting pending with
  | some s => b.withSystem (stripped s) content
  | none => content

theorem layout_asking (other : t.role ≠ .assistant) (pending : Option String) (first : Bool) :
    b.layout pending first (t :: rest) =
      b.instruction first (b.placed pending (instructionText t)) ++ b.layout none false rest :=
  if_neg other

theorem layout_instruction (other : t.role ≠ .assistant) (pending : Option String) (first : Bool) :
    ∃ said, ∀ rest, b.layout pending first (t :: rest) = said ++ b.layout none false rest :=
  ⟨_, fun _ => b.layout_asking other pending first⟩

/-- Turns that others follow take part in the prompt by what they say and by whether there is an
instruction among them, which takes the system text. -/
theorem layout_append (ts : List Message) (pending : Option String) (first : Bool) :
    ∃ before, ∀ rest, rest ≠ [] → b.layout pending first (ts ++ rest) = before ++
      b.layout (if instructed ts then none else pending) (first && !instructed ts) rest := by
  induction ts generalizing pending first with
  | nil => exact ⟨"", fun rest _ => by simp [instructed]⟩
  | cons t ts ih =>
    by_cases reply : t.role = .assistant
    · obtain ⟨before, same⟩ := ih pending first
      refine ⟨b.closeReply (stripped t.content) ++ before, fun rest more => ?_⟩
      have followed : (ts ++ rest).isEmpty = false := by simp [more]
      rw [List.cons_append, layout, if_pos reply, followed, if_neg Bool.false_ne_true,
        same rest more, instructed_reply reply, String.append_assoc]
    · obtain ⟨before, same⟩ := ih none false
      obtain ⟨said, instructs⟩ := b.layout_instruction reply pending first
      refine ⟨said ++ before, fun rest more => ?_⟩
      rw [List.cons_append, instructs, same rest more, instructed_instruction reply, ite_self,
        if_pos rfl, Bool.false_and, Bool.not_true, Bool.and_false, String.append_assoc]

theorem layout_reply (reply : m.role = .assistant) (ts : List Message) (pending : Option String)
    (first : Bool) :
    ∃ before, ∀ content, b.layout pending first (ts ++ [{ m with content }]) =
      before ++ (openReply content ++
        b.layout (if instructed ts then none else pending) (first && !instructed ts) []) := by
  obtain ⟨before, same⟩ := b.layout_append ts pending first
  refine ⟨before, fun content => ?_⟩
  rw [same _ (List.cons_ne_nil _ _)]
  simp only [layout, reply, if_true, List.isEmpty_nil]

theorem layout_nil_waiting {s : String} {pending : Option String} {first : Bool}
    (waits : waiting pending = some s) :
    b.layout pending first [] = b.instruction first (b.withSystem (stripped s) "") := by
  rw [layout, waits]

theorem layout_nil_placed {pending : Option String} {first : Bool}
    (placed : waiting pending = none) : b.layout pending first [] = "" := by
  rw [layout, placed]

theorem openReply_eq (content : String) :
    ∃ gap, (gap = "" ∨ gap = " ") ∧ openReply content = gap ++ stripped content := by
  unfold openReply
  split
  · next blank => exact ⟨"", .inl rfl, by rw [blank]; rfl⟩
  · exact ⟨" ", .inr rfl, rfl⟩

end Brackets

theorem ChatML.layout_append (ts : List Message) :
    ∃ before, ∀ rest, rest ≠ [] → ChatML.layout (ts ++ rest) = before ++ ChatML.layout rest := by
  induction ts with
  | nil => exact ⟨"", fun rest _ => (String.empty_append).symm⟩
  | cons t ts ih =>
    obtain ⟨before, same⟩ := ih
    refine ⟨ChatML.turn t.role.name t.content ++ before, fun rest more => ?_⟩
    have followed : ¬(t.role = .assistant ∧ ts ++ rest = []) := by simp [more]
    rw [List.cons_append, ChatML.layout, if_neg followed, same rest more, String.append_assoc]

theorem Plain.label_ok {r : Role} (known : r.isKnown = true) (turn : r ≠ .system) :
    ∃ l, Plain.label r = .ok l := by
  cases r with
  | system => exact absurd rfl turn
  | user => exact ⟨_, rfl⟩
  | assistant => exact ⟨_, rfl⟩
  | tool => exact ⟨_, rfl⟩
  | other => cases known

theorem Plain.layout_closed {l : String} (labelled : Plain.label t.role = .ok l)
    (closed : ¬(t.role = .assistant ∧ rest = [])) :
    Plain.layout (t :: rest) =
      (Plain.layout rest).map (l ++ ": " ++ t.content ++ "\n" ++ ·) := by
  rw [Plain.layout, if_neg closed, labelled]
  cases Plain.layout rest <;> rfl

theorem Plain.layout_append (ts : List Message)
    (known : ∀ t ∈ ts, t.role.isKnown = true ∧ t.role ≠ .system) :
    ∃ before, ∀ rest, rest ≠ [] →
      Plain.layout (ts ++ rest) = (Plain.layout rest).map (before ++ ·) := by
  induction ts with
  | nil => exact ⟨"", fun rest _ => (map_empty_append _).symm⟩
  | cons t ts ih =>
    obtain ⟨⟨known, turn⟩, rest⟩ := List.forall_mem_cons.1 known
    obtain ⟨before, same⟩ := ih rest
    obtain ⟨l, labelled⟩ := Plain.label_ok known turn
    refine ⟨l ++ ": " ++ t.content ++ "\n" ++ before, fun rest more => ?_⟩
    have followed : ¬(t.role = .assistant ∧ ts ++ rest = []) := by simp [more]
    rw [List.cons_append, Plain.layout_closed labelled followed, same rest more,
      map_append_append]

end Turns

section LastReply

variable {d : Dialect} {bracketed : Bool} {front back ms : List Message} {m : Message}

theorem turns_reply (reply : m.role = .assistant) (systems : ∀ n ∈ back, n.role = .system)
    (front : List Message) : turns (front ++ m :: back) = turns front ++ [m] := by
  have none : back.filter (fun n => n.role ≠ .system) = [] :=
    List.filter_eq_nil_iff.2 fun n among => by simp [systems n among]
  have kept : m.role ≠ .system := by simp [reply]
  rw [turns, List.filter_append, List.filter_cons_of_pos (by simpa using kept), none]
  rfl

theorem systemText_reply (reply : m.role = .assistant) (front back : List Message) :
    systemText (front ++ m :: back) = systemText (front ++ back) := by
  induction front with
  | nil => exact if_neg (by simp [reply])
  | cons n front ih => rw [List.cons_append, List.cons_append, systemText, systemText, ih]

theorem format_reply (d : Dialect) (reply : m.role = .assistant)
    (systems : ∀ n ∈ back, n.role = .system) (front : List Message) :
    d.format (front ++ m :: back) = d.render (systemText (front ++ back)) (turns front ++ [m]) := by
  rw [Dialect.format, turns_reply reply systems, systemText_reply reply]

/-- The built-in dialects: the ones with brackets strip what a turn says. -/
inductive BuiltIn : (bracketed : Bool) → Dialect → Prop
  | llama2 : BuiltIn true llama2
  | mistral : BuiltIn true mistral
  | chatml : BuiltIn false chatml
  | plain : BuiltIn false plain

def written (bracketed : Bool) (content : String) : String :=
  if bracketed then stripped content else content

/-- The prompt ends with the last reply: whatever the reply says, it stands behind one and the same
text, with at most a space between, and nothing stands behind it. -/
def LeftOpen (d : Dialect) (bracketed : Bool) (front : List Message) (m : Message)
    (back : List Message) : Prop :=
  ∃ before, ∀ content, ∃ gap, (gap = "" ∨ gap = " ") ∧
    d.format (front ++ { m with content } :: back) =
      .ok (before ++ (gap ++ written bracketed content))

/-- There is a system text and no instruction to take it. -/
structure Unplaced (ms : List Message) : Prop where
  waits : ∃ s, systemText ms = some s ∧ s ≠ ""
  replies : ∀ t ∈ turns ms, t.role = .assistant

theorem unplaced_reply_iff (reply : m.role = .assistant)
    (systems : ∀ n ∈ back, n.role = .system) :
    Unplaced (front ++ m :: back) ↔
      (∃ s, Brackets.waiting (systemText (front ++ back)) = some s) ∧
        instructed (turns front) = false := by
  have waits : (∃ s, systemText (front ++ back) = some s ∧ s ≠ "") ↔
      ∃ s, Brackets.waiting (systemText (front ++ back)) = some s := by
    cases systemText (front ++ back) with
    | none => simp [Brackets.waiting]
    | some s => by_cases empty : s = "" <;> simp [Brackets.waiting, empty]
  rw [instructed_eq_false_iff, ← waits, ← systemText_reply reply front back]
  constructor
  · intro unplaced
    refine ⟨unplaced.waits, fun t among => unplaced.replies t ?_⟩
    rw [turns_reply reply systems]
    exact List.mem_append_left _ among
  · rintro ⟨waits, replies⟩
    refine ⟨waits, fun t among => ?_⟩
    rw [turns_reply reply systems, List.mem_append, List.mem_singleton] at among
    obtain among | rfl := among
    · exact replies t among
    · exact reply

theorem getLast?_append_text (s : String) {t : String} {c : Char}
    (ends : t.toList.getLast? = some c) : (s ++ t).toList.getLast? = some c := by
  rw [String.toList_append, List.getLast?_append, ends, Option.some_or]

theorem Brackets.instruction_ends (b : Brackets) (first : Bool) (content : String) :
    (b.instruction first content).toList.getLast? = some ']' :=
  getLast?_append_text _ (by decide)

theorem Brackets.leftOpen_iff (b : Brackets) (name : String) (reply : m.role = .assistant)
    (systems : ∀ n ∈ back, n.role = .system) :
    LeftOpen (b.dialect name) true front m back ↔ ¬Unplaced (front ++ m :: back) := by
  rw [unplaced_reply_iff reply systems]
  obtain ⟨before, laid⟩ := b.layout_reply reply (turns front) (systemText (front ++ back)) true
  have formatted (content : String) := (format_reply (b.dialect name) (m := { m with content })
    reply systems front).trans (congrArg Except.ok (laid content))
  constructor
  · rintro ⟨shared, ends⟩ ⟨⟨s, waits⟩, replies⟩
    obtain ⟨gap, -, same⟩ := ends "x"
    rw [replies, if_neg Bool.false_ne_true, b.layout_nil_waiting waits] at formatted
    have closes := Except.ok.inj ((formatted "x").symm.trans same)
    have bracket := getLast?_append_text before (getLast?_append_text (openReply "x")
      (b.instruction_ends (true && !false) (b.withSystem (stripped s) "")))
    have letter : (written true "x").toList.getLast? = some 'x' := by decide
    rw [closes, getLast?_append_text _ (getLast?_append_text _ letter)] at bracket
    exact absurd (Option.some.inj bracket) (by decide)
  · intro placed
    have nothing : b.layout (if instructed (turns front) then none else systemText (front ++ back))
        (true && !instructed (turns front)) [] = "" := by
      refine b.layout_nil_placed ?_
      cases among : instructed (turns front) with
      | true => rfl
      | false =>
        cases waits : waiting (systemText (front ++ back)) with
        | none => exact waits
        | some s => exact absurd ⟨⟨s, waits⟩, among⟩ placed
    refine ⟨before, fun content => ?_⟩
    obtain ⟨gap, blank, opened⟩ := openReply_eq content
    refine ⟨gap, blank, ?_⟩
    rw [formatted, nothing, opened, String.append_empty]
    rfl

theorem chatml_leftOpen (reply : m.role = .assistant) (systems : ∀ n ∈ back, n.role = .system) :
    LeftOpen chatml false front m back := by
  obtain ⟨heading, rendered⟩ : ∃ heading, ∀ ts,
      chatml.render (systemText (front ++ back)) ts = .ok (heading ++ ChatML.layout ts) :=
    ⟨_, fun _ => rfl⟩
  obtain ⟨before, laid⟩ := ChatML.layout_append (turns front)
  refine ⟨heading ++ (before ++ "<|im_start|>assistant\n"), fun content => ⟨"", .inl rfl, ?_⟩⟩
  have opened : ChatML.layout [{ m with content }] = "<|im_start|>assistant\n" ++ content :=
    if_pos ⟨reply, rfl⟩
  rw [format_reply chatml (m := { m with content }) reply systems, rendered,
    laid _ (List.cons_ne_nil _ _), opened, String.empty_append, String.append_assoc,
    String.append_assoc]
  rfl

theorem plain_leftOpen (known : ∀ n ∈ front, n.role.isKnown = true) (reply : m.role = .assistant)
    (systems : ∀ n ∈ back, n.role = .system) : LeftOpen plain false front m back := by
  obtain ⟨heading, rendered⟩ : ∃ heading, ∀ ts,
      plain.render (systemText (front ++ back)) ts = (Plain.layout ts).map (heading ++ ·) :=
    ⟨_, fun _ => rfl⟩
  have labelled : ∀ t ∈ turns front, t.role.isKnown = true ∧ t.role ≠ .system := fun t among => by
    have ⟨among, kept⟩ := List.mem_filter.1 among
    exact ⟨known t among, of_decide_eq_true kept⟩
  obtain ⟨before, laid⟩ := Plain.layout_append (turns front) labelled
  refine ⟨heading ++ (before ++ "Assistant: "), fun content => ⟨"", .inl rfl, ?_⟩⟩
  have opened : Plain.layout [{ m with content }] = .ok ("Assistant: " ++ content) :=
    if_pos ⟨reply, rfl⟩
  rw [format_reply plain (m := { m with content }) reply systems, rendered,
    laid _ (List.cons_ne_nil _ _), opened, String.empty_append, String.append_assoc,
    String.append_assoc]
  rfl

/-- A last reply is left open unless the dialect has brackets and a system text waits for an
instruction that does not come. -/
theorem reply_left_open_iff (builtIn : BuiltIn bracketed d)
    (known : ∀ n ∈ front, n.role.isKnown = true) (reply : m.role = .assistant)
    (systems : ∀ n ∈ back, n.role = .system) :
    LeftOpen d bracketed front m back ↔
      ¬(bracketed = true ∧ Unplaced (front ++ m :: back)) := by
  cases builtIn with
  | llama2 =>
    exact (llama2Brackets.leftOpen_iff _ reply systems).trans (not_congr (and_iff_right rfl).symm)
  | mistral =>
    exact (mistralBrackets.leftOpen_iff _ reply systems).trans (not_congr (and_iff_right rfl).symm)
  | chatml =>
    exact iff_of_true (chatml_leftOpen reply systems) fun unplaced => nomatch unplaced.1
  | plain =>
    exact iff_of_true (plain_leftOpen known reply systems) fun unplaced => nomatch unplaced.1

theorem reply_left_open_iff_instructed :
    let front : List Message := [{ role := .user, content := "U" }]
    let reply : Message := { role := .assistant, content := "Hi" }
    let back : List Message := [{ role := .system, content := "S" }]
    ((∀ n ∈ front, n.role.isKnown = true) ∧ reply.role = .assistant ∧
      ∀ n ∈ back, n.role = .system) ∧ LeftOpen mistral true front reply back := by
  intro front reply back
  have known : ∀ n ∈ front, n.role.isKnown = true := by decide
  have systems : ∀ n ∈ back, n.role = .system := by decide
  have taken : ¬Unplaced (front ++ reply :: back) := fun unplaced =>
    nomatch unplaced.replies { role := .user, content := "U" } (by decide)
  exact ⟨⟨known, rfl, systems⟩,
    (reply_left_open_iff .mistral known rfl systems).2 fun waits => taken waits.2⟩

theorem mistral_closes_reply :
    let ms : List Message :=
      [{ role := .system, content := "S" }, { role := .assistant, content := "Hi" }]
    ((∀ n ∈ ms, n.role.isKnown = true) ∧
        (turns ms).getLast? = some { role := .assistant, content := "Hi" }) ∧
      mistral.format ms = .ok " Hi<s>[INST] S [/INST]" ∧
      ¬∃ before, mistral.format ms = .ok (before ++ stripped "Hi") := by
  intro ms
  have laid : mistral.format ms = .ok " Hi<s>[INST] S [/INST]" := by rfl
  refine ⟨⟨by decide, by decide⟩, laid, fun ⟨before, ends⟩ => ?_⟩
  have closes := Except.ok.inj (laid.symm.trans ends)
  have letter : (stripped "Hi").toList.getLast? = some 'i' := by decide
  have last := getLast?_append_text before letter
  rw [← closes] at last
  exact absurd last (by decide)

end LastReply

end Completions.Chat
