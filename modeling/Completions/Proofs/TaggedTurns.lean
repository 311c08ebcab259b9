import Completions.Chat.Dialect
import Completions.Proofs.GrowingPrompt
import Completions.Proofs.Marks

/-!
What the tagged dialect writes can be read back: a role ends at the line break and a content at the
closing tag, so the prompt tells the system text and every turn, up to a reply that is not begun.

Main statement: `chatml_format_eq_iff`.
-/

namespace Completions.Chat

abbrev Said := Role × String

def Message.said (m : Message) : Said := (m.role, m.content)

/-- What the turns say, with an empty reply where none is left open. -/
def completed (ts : List Message) : List Said :=
  if ts.getLast?.map Message.role = some .assistant then ts.map Message.said
  else ts.map Message.said ++ [(.assistant, "")]

section Completed

variable {ts : List Message} {m : Message}

theorem completed_reply (reply : m.role = .assistant) :
    completed [m] = [(.assistant, m.content)] := by
  simp [completed, Message.said, reply]

theorem completed_closed (closed : ¬(m.role = .assistant ∧ ts = [])) :
    completed (m :: ts) = m.said :: completed ts := by
  cases ts with
  | nil =>
    have asks : m.role ≠ .assistant := fun reply => closed ⟨reply, rfl⟩
    simp [completed, asks]
  | cons t ts =>
    by_cases reply : ((t :: ts).getLast?.map Message.role) = some .assistant
    · simp [completed, List.getLast?_cons_cons, reply]
    · simp [completed, List.getLast?_cons_cons, reply]

theorem completed_ne_nil (ts : List Message) : completed ts ≠ [] := by
  unfold completed
  split
  · next reply =>
    rintro none
    rw [List.map_eq_nil_iff] at none
    simp [none] at reply
  · simp

theorem mem_completed {s : Said} (among : s ∈ completed ts) :
    s = (.assistant, "") ∨ ∃ t ∈ ts, t.said = s := by
  unfold completed at among
  split at among
  · exact .inr (List.mem_map.1 among)
  · rw [List.mem_append, List.mem_singleton] at among
    exact among.symm.imp_right List.mem_map.1

end Completed

namespace ChatML

def heading (r : Role) : String := "<|im_start|>" ++ r.name ++ "\n"

structure Legible (s : Said) : Prop where
  known : s.1.isKnown = true
  untagged : ¬"<|im_end|>".toList <:+: s.2.toList

def transcript : List Said → String
  | [] => ""
  | [(r, content)] => heading r ++ content
  | (r, content) :: next :: rest =>
    heading r ++ (content ++ ("<|im_end|>" ++ ("\n" ++ transcript (next :: rest))))

variable {l k : List Said} {r q : Role}

theorem transcript_cons (s : Said) (more : l ≠ []) :
    transcript (s :: l) = heading s.1 ++ (s.2 ++ ("<|im_end|>" ++ ("\n" ++ transcript l))) := by
  obtain ⟨next, rest, rfl⟩ := List.exists_cons_of_ne_nil more
  rfl

theorem turn_append (r : Role) (content below : String) :
    turn r.name content ++ below =
      heading r ++ (content ++ ("<|im_end|>" ++ ("\n" ++ below))) := by
  have closing : "<|im_end|>\n" = "<|im_end|>" ++ "\n" := by decide
  simp only [turn, heading, closing, String.append_assoc]

theorem layout_eq (ts : List Message) : layout ts = transcript (completed ts) := by
  induction ts with
  | nil => decide
  | cons m ts ih =>
    by_cases last : m.role = .assistant ∧ ts = []
    · obtain ⟨reply, rfl⟩ := last
      have cue : "<|im_start|>assistant\n" = heading .assistant := by decide
      rw [completed_reply reply, layout, if_pos ⟨reply, rfl⟩, cue]
      rfl
    · rw [layout_closed last, completed_closed last, transcript_cons _ (completed_ne_nil ts), ih,
        turn_append]
      rfl

theorem heading_append_inj {content below : String} (left : r.isKnown = true)
    (right : q.isKnown = true) (same : heading r ++ content = heading q ++ below) :
    r = q ∧ content = below := by
  have ended {r : Role} (known : r.isKnown = true) : ¬['\n'] <:+: r.name.toList := by
    cases r with
    | other => cases known
    | _ => decide
  have line : "\n".toList = ['\n'] := by decide
  have same := congrArg String.toList same
  simp only [heading, String.toList_append, List.append_assoc, List.append_cancel_left_eq] at same
  rw [line] at same
  have ⟨names, rest⟩ := (Text.append_mark_inj (by simp) (ended left) (ended right)).1 same
  have named := congrArg Role.ofName (String.toList_inj.1 names)
  rw [Role.ofName_name left, Role.ofName_name right] at named
  exact ⟨named, String.toList_inj.1 rest⟩

theorem infix_closed (content below : String) :
    "<|im_end|>".toList <:+: (content ++ ("<|im_end|>" ++ below)).toList := by
  simp only [String.toList_append]
  exact List.infix_append' ..

theorem content_append_inj {c e below under : String} (left : ¬"<|im_end|>".toList <:+: c.toList)
    (right : ¬"<|im_end|>".toList <:+: e.toList)
    (same : c ++ ("<|im_end|>" ++ below) = e ++ ("<|im_end|>" ++ under)) :
    c = e ∧ below = under := by
  have tag : "<|im_end|>".toList = '<' :: "|im_end|>".toList := by decide
  have same := congrArg String.toList same
  simp only [String.toList_append] at same
  rw [tag] at left right same
  have ⟨contents, rest⟩ := (Text.append_mark_inj (by decide) left right).1 same
  exact ⟨String.toList_inj.1 contents, String.toList_inj.1 rest⟩

theorem head_eq {s t : Said} (left : Legible s) (right : Legible t)
    (same : transcript (s :: l) = transcript (t :: k)) :
    s = t ∧ (l = [] ∧ k = [] ∨ l ≠ [] ∧ k ≠ [] ∧ transcript l = transcript k) := by
  obtain ⟨r, content⟩ := s
  obtain ⟨q, content'⟩ := t
  have headed {below under : String} (same : heading r ++ below = heading q ++ under) :
      r = q ∧ below = under := heading_append_inj left.known right.known same
  -- Only the last entry is written without the closing tag, so either both are the last or neither.
  by_cases last : l = [] <;> by_cases last' : k = []
  · obtain rfl := last
    obtain rfl := last'
    obtain ⟨rfl, rfl⟩ := headed same
    exact ⟨rfl, .inl ⟨rfl, rfl⟩⟩
  · obtain rfl := last
    rw [transcript_cons _ last'] at same
    obtain ⟨-, rfl⟩ := headed same
    exact absurd (infix_closed ..) left.untagged
  · obtain rfl := last'
    rw [transcript_cons _ last] at same
    obtain ⟨-, rfl⟩ := headed same
    exact absurd (infix_closed ..) right.untagged
  · rw [transcript_cons _ last, transcript_cons _ last'] at same
    obtain ⟨rfl, said⟩ := headed same
    obtain ⟨rfl, rest⟩ := content_append_inj left.untagged right.untagged said
    exact ⟨rfl, .inr ⟨last, last', (String.append_right_inj _).1 rest⟩⟩

/-- A transcript can be read in one way only. -/
theorem transcript_inj (begun : l ≠ []) (begun' : k ≠ []) (left : ∀ s ∈ l, Legible s)
    (right : ∀ s ∈ k, Legible s) (same : transcript l = transcript k) : l = k := by
  induction l generalizing k with
  | nil => exact absurd rfl begun
  | cons s l ih =>
    obtain ⟨t, k, rfl⟩ := List.exists_cons_of_ne_nil begun'
    have ⟨head, tail⟩ := List.forall_mem_cons.1 left
    have ⟨head', tail'⟩ := List.forall_mem_cons.1 right
    obtain ⟨rfl, ⟨rfl, rfl⟩ | ⟨more, more', rest⟩⟩ := head_eq head head' same
    · rfl
    · rw [ih more more' tail tail' rest]

end ChatML

section Format

open ChatML

variable {a b ms : List Message}

/-- What the tagged dialect writes of a conversation: the system text and the completed turns. -/
def entries (ms : List Message) : List Said :=
  (systemText ms).toList.map (Role.system, ·) ++ completed (turns ms)

theorem entries_none (absent : systemText ms = none) : entries ms = completed (turns ms) := by
  rw [entries, absent]
  rfl

theorem entries_some {system : String} (given : systemText ms = some system) :
    entries ms = (.system, system) :: completed (turns ms) := by
  rw [entries, given]
  rfl

theorem chatml_format (ms : List Message) : chatml.format ms = .ok (transcript (entries ms)) := by
  rw [Dialect.format]
  cases given : systemText ms with
  | none =>
    have rendered : chatml.render none (turns ms) = .ok ("" ++ layout (turns ms)) := rfl
    rw [rendered, entries_none given, layout_eq, String.empty_append]
  | some system =>
    have rendered : chatml.render (some system) (turns ms) =
        .ok (turn Role.system.name system ++ layout (turns ms)) := rfl
    rw [rendered, entries_some given, layout_eq, turn_append,
      transcript_cons _ (completed_ne_nil (turns ms))]

theorem completed_ne_system {s : Said} (among : s ∈ completed (turns ms)) : s.1 ≠ .system := by
  obtain rfl | ⟨t, turn, rfl⟩ := mem_completed among
  · simp
  · exact (mem_turns.1 turn).2

theorem entries_ne {system : String} (absent : systemText a = none)
    (given : systemText b = some system) : entries a ≠ entries b := by
  rw [entries_none absent, entries_some given]
  intro same
  have among : (Role.system, system) ∈ completed (turns a) := same ▸ List.mem_cons_self ..
  exact completed_ne_system among rfl

theorem entries_inj : entries a = entries b ↔
    systemText a = systemText b ∧ completed (turns a) = completed (turns b) := by
  constructor
  · intro same
    cases left : systemText a with
    | none =>
      cases right : systemText b with
      | none =>
        rw [entries_none left, entries_none right] at same
        exact ⟨rfl, same⟩
      | some _ => exact absurd same (entries_ne left right)
    | some _ =>
      cases right : systemText b with
      | none => exact absurd same.symm (entries_ne right left)
      | some _ =>
        rw [entries_some left, entries_some right, List.cons.injEq, Prod.mk.injEq] at same
        exact ⟨congrArg some same.1.2, same.2⟩
  · rintro ⟨system, said⟩
    rw [entries, entries, system, said]

theorem legible_entries (known : ∀ m ∈ ms, m.role.isKnown = true)
    (untagged : ∀ m ∈ ms, ¬"<|im_end|>".toList <:+: m.content.toList) :
    ∀ s ∈ entries ms, Legible s := by
  intro s among
  rw [entries, List.mem_append] at among
  obtain heads | said := among
  · obtain ⟨_, given, rfl⟩ := List.mem_map.1 heads
    obtain ⟨m, within, -, rfl⟩ := systemText_mem (Option.mem_toList.1 given)
    exact ⟨rfl, untagged m within⟩
  · obtain rfl | ⟨t, turn, rfl⟩ := mem_completed said
    · exact ⟨rfl, by decide⟩
    · have within := (mem_turns.1 turn).1
      exact ⟨known t within, untagged t within⟩

/-- Two conversations in which no content has the closing tag have the same prompt exactly if they
have the same system text and say the same, up to a reply that is not begun. -/
theorem chatml_format_eq_iff (known : ∀ m ∈ a ++ b, m.role.isKnown = true)
    (untagged : ∀ m ∈ a ++ b, ¬"<|im_end|>".toList <:+: m.content.toList) :
    chatml.format a = chatml.format b ↔
      systemText a = systemText b ∧ completed (turns a) = completed (turns b) := by
  rw [List.forall_mem_append] at known untagged
  rw [chatml_format, chatml_format, ← entries_inj]
  constructor
  · intro same
    refine transcript_inj ?_ ?_ (legible_entries known.1 untagged.1)
      (legible_entries known.2 untagged.2) (Except.ok.inj same)
    · simp [entries, completed_ne_nil]
    · simp [entries, completed_ne_nil]
  · intro same
    rw [same]

theorem chatml_format_eq_iff_unbegun :
    let asked : Message := { role := .user, content := "<|im_end|\n<|im_start|>tool\n" }
    let system : Message := { role := .system, content := "S" }
    let a : List Message := [asked, system]
    let b : List Message := [system, asked, { role := .system }, { role := .assistant }]
    ((∀ m ∈ a ++ b, m.role.isKnown = true) ∧
        ∀ m ∈ a ++ b, ¬"<|im_end|>".toList <:+: m.content.toList) ∧
      chatml.format a = chatml.format b ∧
        systemText a = systemText b ∧ completed (turns a) = completed (turns b) := by
  intro asked system a b
  have known : ∀ m ∈ a ++ b, m.role.isKnown = true := by decide
  have untagged : ∀ m ∈ a ++ b, ¬"<|im_end|>".toList <:+: m.content.toList := by decide
  have same : chatml.format a = chatml.format b := by rfl
  exact ⟨⟨known, untagged⟩, same, (chatml_format_eq_iff known untagged).1 same⟩

end Format

end Completions.Chat
