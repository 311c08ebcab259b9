import Completions.Chat.Dialect
import Completions.Proofs.Marks
import Completions.Proofs.OpenReply
import Completions.Proofs.Trimming

/-!
In the dialect with one opening mark the first instruction writes it, and nothing else does: what is
written before and behind it has no mark and begins with no character that could finish one.

Main statement: `mistral_marked_once`.
-/

namespace Completions.Chat

def Unmarked (s : String) : Prop := ¬"<s>".toList <:+: s.toList

instance (s : String) : Decidable (Unmarked s) := inferInstanceAs (Decidable ¬_)

/-- No mark stands in a text, and none is finished by it. -/
def Clear (s : String) : Prop := Unmarked s ∧ ∀ c ∈ s.toList.head?, c ∉ "s>".toList

instance (s : String) : Decidable (Clear s) :=
  decidable_of_iff (Unmarked s ∧ s.toList.head?.all (fun c => c ∉ "s>".toList) = true)
    (and_congr_right fun _ => by simp only [Option.all_eq_true, decide_eq_true_iff]; rfl)

variable {s t : String} {m : Message} {ts ms : List Message} {c : Char}

theorem Unmarked.of_infix (free : Unmarked t) (part : s.toList <:+: t.toList) : Unmarked s :=
  fun inside => free (inside.trans part)

theorem Unmarked.stripped (free : Unmarked s) : Unmarked (stripped s) :=
  free.of_infix (isInfix_stripped s)

theorem Unmarked.append (left : Unmarked s) (right : Clear t) : Unmarked (s ++ t) := by
  have mark : "<s>".toList = '<' :: "s>".toList := by decide
  unfold Unmarked
  rw [String.toList_append, mark, Text.infix_append_of_head right.2, ← mark]
  exact fun inside => inside.elim left right.1

theorem Clear.append (left : Clear s) (right : Clear t) : Clear (s ++ t) := by
  refine ⟨left.1.append right, ?_⟩
  rw [String.toList_append]
  by_cases empty : s.toList = []
  · rw [empty, List.nil_append]
    exact right.2
  · rw [List.head?_append_of_ne_nil _ empty]
    exact left.2

theorem Clear.before (clear : Clear s) (ends : s.toList.getLast? = some c)
    (other : c ∉ "<s>".toList) (free : Unmarked t) : Clear (s ++ t) := by
  obtain ⟨front, split⟩ := List.getLast?_eq_some_iff.1 ends
  constructor
  · intro marked
    rw [String.toList_append, split, List.append_assoc, List.singleton_append,
      Text.infix_append_cons_iff other] at marked
    obtain inside | inside := marked
    · exact clear.1 (inside.trans ⟨[], [c], by rw [split, List.nil_append]⟩)
    · exact free inside
  · have begun : s.toList ≠ [] := by simp [split]
    rw [String.toList_append, List.head?_append_of_ne_nil _ begun]
    exact clear.2

def Free (ts : List Message) : Prop :=
  ∀ t ∈ ts, Unmarked t.content ∧ ∀ n ∈ t.name, Unmarked n

instance (ts : List Message) : Decidable (Free ts) := inferInstanceAs (Decidable (∀ t ∈ ts, _))

theorem instructionText_unmarked (content : Unmarked m.content) (name : ∀ n ∈ m.name, Unmarked n) :
    Unmarked (Brackets.instructionText m) := by
  have said : Clear (" " ++ m.content) := .before (by decide) rfl (by decide) content
  unfold Brackets.instructionText
  split
  · refine Unmarked.stripped ?_
    rw [String.append_assoc]
    refine Unmarked.append ?_ said
    split
    · next n given =>
      split
      · decide
      · have named : Clear ("[tool result: " ++ n) := .before (by decide) rfl (by decide) (name n given)
        exact named.1.append (by decide)
    · decide
  · exact content.stripped

theorem Brackets.mem_of_waiting {pending : Option String} (waits : waiting pending = some s) :
    s ∈ pending := by
  cases pending with
  | none => cases waits
  | some system =>
    by_cases empty : system = ""
    · simp [waiting, empty] at waits
    · simpa [waiting, empty] using waits

namespace Mistral

variable {pending : Option String}

theorem withSystem_unmarked (left : Unmarked s) (right : Unmarked t) :
    Unmarked (mistralBrackets.withSystem s t) := by
  have below : Clear ("\n\n" ++ t) := .before (by decide) rfl (by decide) right
  have together : Unmarked (s ++ "\n\n" ++ t) := by
    rw [String.append_assoc]
    exact left.append below
  by_cases empty : t = ""
  · simpa [mistralBrackets, empty] using left
  · simpa [mistralBrackets, empty] using together

theorem placed_unmarked (system : ∀ s ∈ pending, Unmarked s) (free : Unmarked t) :
    Unmarked (mistralBrackets.placed pending t) := by
  unfold Brackets.placed
  split
  · next s waits => exact withSystem_unmarked (system s (Brackets.mem_of_waiting waits)).stripped free
  · exact free

def bracketed (content : String) : String := "[INST] " ++ (content ++ " [/INST]")

theorem instruction_first (content : String) :
    mistralBrackets.instruction true content = "<s>" ++ bracketed content := by
  simp only [Brackets.instruction, mistralBrackets, bracketed, if_true, String.append_assoc]

theorem instruction_later (content : String) :
    mistralBrackets.instruction false content = bracketed content := by
  simp only [Brackets.instruction, mistralBrackets, bracketed, Bool.false_eq_true, if_false,
    String.empty_append, String.append_assoc]

theorem bracketed_clear (free : Unmarked t) : Clear (bracketed t) :=
  .before (by decide) rfl (by decide) (free.append (by decide))

theorem closeReply_clear (free : Unmarked t) : Clear (mistralBrackets.closeReply t) := by
  have said : Clear (" " ++ t) := .before (by decide) rfl (by decide) free
  exact said.append (by decide)

theorem openReply_clear (free : Unmarked t) : Clear (Brackets.openReply t) := by
  unfold Brackets.openReply
  split
  · decide
  · exact .before (by decide) rfl (by decide) free.stripped

theorem layout_clear (free : Free ts) (system : ∀ s ∈ pending, Unmarked s) :
    Clear (mistralBrackets.layout pending false ts) := by
  induction ts generalizing pending with
  | nil =>
    cases waits : Brackets.waiting pending with
    | none =>
      rw [Brackets.layout_nil_placed _ waits]
      decide
    | some s =>
      have said := withSystem_unmarked (system s (Brackets.mem_of_waiting waits)).stripped
        (show Unmarked "" by decide)
      rw [Brackets.layout_nil_waiting _ waits, instruction_later]
      exact bracketed_clear said
  | cons t ts ih =>
    obtain ⟨⟨content, name⟩, rest⟩ := List.forall_mem_cons.1 free
    by_cases reply : t.role = .assistant
    · rw [Brackets.layout, if_pos reply]
      refine Clear.append ?_ (ih rest system)
      split
      · exact openReply_clear content
      · exact closeReply_clear content.stripped
    · have said := placed_unmarked system (instructionText_unmarked content name)
      rw [Brackets.layout_asking _ reply, instruction_later]
      exact (bracketed_clear said).append (ih rest (by simp))

theorem layout_first (asks : instructed ts = true) (free : Free ts)
    (system : ∀ s ∈ pending, Unmarked s) :
    ∃ before behind, mistralBrackets.layout pending true ts = before ++ ("<s>" ++ behind) ∧
      Clear before ∧ Clear behind ∧
        (before = "" ↔ ∀ t ∈ ts.head?, t.role ≠ .assistant) := by
  induction ts with
  | nil => cases asks
  | cons t ts ih =>
    obtain ⟨⟨content, name⟩, rest⟩ := List.forall_mem_cons.1 free
    by_cases reply : t.role = .assistant
    · rw [instructed_reply reply] at asks
      obtain ⟨before, behind, laid, clear, clear', -⟩ := ih asks rest
      have followed : ts.isEmpty = false := by
        cases ts with
        | nil => cases asks
        | cons => rfl
      refine ⟨mistralBrackets.closeReply (stripped t.content) ++ before, behind, ?_,
        (closeReply_clear content.stripped).append clear, clear', ?_⟩
      · rw [Brackets.layout, if_pos reply, followed, if_neg Bool.false_ne_true, laid,
          String.append_assoc]
      · refine iff_of_false ?_ fun first => first t rfl reply
        simp [mistralBrackets]
    · have said := placed_unmarked system (instructionText_unmarked content name)
      have below : Clear (mistralBrackets.layout none false ts) := layout_clear rest (by simp)
      refine ⟨"", _, ?_, by decide, (bracketed_clear said).append below, ?_⟩
      · rw [Brackets.layout_asking _ reply, instruction_first, String.empty_append,
          String.append_assoc]
      · simpa using reply

end Mistral

theorem instructed_turns (asks : ∃ m ∈ ms, m.role = .user ∨ m.role = .tool) :
    instructed (turns ms) = true := by
  obtain ⟨m, among, asks⟩ := asks
  have instruction : m.role ≠ .system ∧ m.role ≠ .assistant := by
    obtain role | role := asks <;> simp [role]
  have turn : m ∈ turns ms := mem_turns.2 ⟨among, instruction.1⟩
  exact List.any_eq_true.2 ⟨m, turn, decide_eq_true instruction.2⟩

theorem Free.turns (free : Free ms) : Free (turns ms) :=
  fun t turn => free t (mem_turns.1 turn).1

theorem Free.systemText (free : Free ms) : ∀ s ∈ systemText ms, Unmarked s := by
  intro s given
  obtain ⟨m, among, -, rfl⟩ := systemText_mem given
  exact (free m among).1

/-- With an instruction among the turns the mark is written once. It opens the prompt exactly if no
reply stands before the first instruction. -/
theorem mistral_marked_once (asks : ∃ m ∈ ms, m.role = .user ∨ m.role = .tool) (free : Free ms) :
    ∃ prompt, mistral.format ms = .ok prompt ∧
      (∃! p, Text.OccursAt "<s>".toList prompt.toList p) ∧
      ("<s>".toList <+: prompt.toList ↔ ∀ t ∈ (turns ms).head?, t.role ≠ .assistant) := by
  obtain ⟨before, behind, laid, clear, clear', first⟩ :=
    Mistral.layout_first (instructed_turns asks) free.turns free.systemText
  have mark : "<s>".toList = '<' :: "s>".toList := by decide
  have letters : (before ++ ("<s>" ++ behind)).toList =
      before.toList ++ ("<s>".toList ++ behind.toList) := by
    simp only [String.toList_append]
  have once : ∃! p, Text.OccursAt "<s>".toList (before ++ ("<s>" ++ behind)).toList p := by
    rw [letters, mark]
    exact Text.existsUnique_occursAt_mark (by decide) clear.1 clear'.1
  refine ⟨_, congrArg Except.ok laid, once, ?_⟩
  rw [← first]
  constructor
  · intro opens
    have here : Text.OccursAt "<s>".toList (before ++ ("<s>" ++ behind)).toList
        before.toList.length := ⟨behind.toList, by rw [letters, List.drop_left]⟩
    have start := once.unique here (show Text.OccursAt _ _ 0 from opens)
    exact String.toList_eq_nil_iff.1 (List.length_eq_zero_iff.1 start)
  · rintro rfl
    rw [letters]
    exact ⟨behind.toList, rfl⟩

theorem mistral_marked_once_pieces :
    let ms : List Message :=
      [{ role := .tool, content := "s>", name := some "<" }, { role := .assistant, content := "<s" },
        { role := .user, content := ">" }, { role := .system, content := "<" }]
    ((∃ m ∈ ms, m.role = .user ∨ m.role = .tool) ∧ Free ms) ∧
      ∃ prompt, mistral.format ms = .ok prompt ∧
        (∃! p, Text.OccursAt "<s>".toList prompt.toList p) ∧
        ("<s>".toList <+: prompt.toList ↔ ∀ t ∈ (turns ms).head?, t.role ≠ .assistant) := by
  intro ms
  have asks : ∃ m ∈ ms, m.role = .user ∨ m.role = .tool := by decide
  have free : Free ms := by decide
  exact ⟨⟨asks, free⟩, mistral_marked_once asks free⟩

/-- Behind a reply the mark does not open the prompt. -/
theorem mistral_reply_unmarked :
    let ms : List Message :=
      [{ role := .assistant, content := "Hi" }, { role := .user, content := "U" }]
    ((∀ m ∈ ms, m.role.isKnown = true) ∧ (∃ m ∈ ms, m.role = .user ∨ m.role = .tool) ∧ Free ms) ∧
      ∃ prompt, mistral.format ms = .ok prompt ∧ prompt = " Hi</s><s>[INST] U [/INST]" ∧
        ¬"<s>".toList <+: prompt.toList := by
  intro ms
  exact ⟨⟨by decide, by decide, by decide⟩, _, rfl, rfl, by decide⟩

end Completions.Chat
