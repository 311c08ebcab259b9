import Completions.Engine.Prompt
import Completions.Proofs.CarriedFailure
import Completions.Chat.Dialect
import Completions.Proofs.GrowingPrompt
import Completions.Proofs.Trimming

/-!
What a model is told of its tools reaches it through every built-in dialect. It is put behind the
first system text, which every dialect sets down somewhere, and at its ends there is nothing that
trimming would take away.

Main statement: `tools_told`.
-/

namespace Completions

namespace Tool

variable (tools : List Definition) (required : Bool)

theorem instruction_begins : ∃ below,
    instruction tools required = "You can call the following tools:" ++ ("\n" ++ below) := by
  rw [instruction, List.append_assoc, List.append_assoc, List.singleton_append,
    String.intercalate_cons_of_ne_nil (by simp), String.append_assoc]
  exact ⟨_, rfl⟩

theorem instruction_ends : ∃ above last,
    instruction tools required = above ++ last ∧ last.toList.getLast? = some '.' := by
  cases required with
  | false =>
    rw [instruction, if_neg Bool.false_ne_true, List.append_nil,
      String.intercalate_append_of_ne_nil (by simp) (by simp), String.intercalate_singleton]
    exact ⟨_, callForm, rfl, Chat.getLast?_append_text _ (by decide)⟩
  | true =>
    rw [instruction, if_pos rfl, String.intercalate_append_of_ne_nil (by simp) (by simp),
      String.intercalate_singleton]
    exact ⟨_, "You must call a tool for this response.", rfl, by decide⟩

theorem instruction_edged : Text.Edged (instruction tools required).toList where
  begins := by
    obtain ⟨below, text⟩ := instruction_begins tools required
    rw [text, String.toList_append]
    exact ⟨'Y', rfl, by decide⟩
  ends := by
    obtain ⟨above, last, text, stop⟩ := instruction_ends tools required
    exact ⟨'.', text ▸ Chat.getLast?_append_text above stop, by decide⟩

end Tool

namespace Chat

variable {ms ts : List Message} {instruction s : String}

def lead (system : String) : String := if stripped system = "" then "" else stripped system ++ "\n\n"

theorem merged_content (edged : Text.Edged instruction.toList) (system : String) :
    stripped (strippedEnd system ++ "\n\n" ++ instruction) = lead system ++ instruction := by
  have gap : "\n\n".toList = ['\n', '\n'] := by decide
  apply String.toList_inj.1
  rw [toList_stripped, String.toList_append, edged.trim_append, String.toList_append,
    String.toList_append, List.append_cancel_right_eq, toList_strippedEnd, gap]
  have left : Text.trimStart (Text.trimEnd system.toList) = (stripped system).toList := by
    rw [Text.trimStart_trimEnd, toList_stripped]
  have ended : Text.trimStart ['\n', '\n'] = [] := by decide
  unfold lead
  by_cases blank : stripped system = ""
  · rw [if_pos blank, Text.trimStart_append_of_blank (by rw [left, blank]; rfl), ended]
    rfl
  · have printed : Text.trimStart (Text.trimEnd system.toList) ≠ [] := by
      rw [left]
      exact fun none => blank (String.toList_eq_nil_iff.1 none)
    rw [if_neg blank, Text.trimStart_append_of_printed printed, left, String.toList_append, gap]

theorem mergeInstruction_none (absent : systemText ms = none) :
    mergeInstruction instruction ms = none := by
  induction ms with
  | nil => rfl
  | cons m ms ih =>
    by_cases system : m.role = .system
    · rw [systemText, if_pos system] at absent
      cases absent
    · rw [systemText, if_neg system] at absent
      rw [mergeInstruction, if_neg system, ih absent]
      rfl

theorem mergeInstruction_some (instruction : String) {system : String}
    (given : systemText ms = some system) :
    ∃ merged, mergeInstruction instruction ms = some merged ∧ turns merged = turns ms ∧
      systemText merged = some (stripped (strippedEnd system ++ "\n\n" ++ instruction)) := by
  induction ms with
  | nil => cases given
  | cons m ms ih =>
    by_cases role : m.role = .system
    · rw [systemText, if_pos role, Option.some.injEq] at given
      rw [mergeInstruction, if_pos role, given]
      exact ⟨_, rfl, by simp [turns, role], if_pos role⟩
    · rw [systemText, if_neg role] at given
      obtain ⟨merged, taken, same, told⟩ := ih given
      rw [mergeInstruction, if_neg role, taken]
      refine ⟨m :: merged, rfl, ?_, ?_⟩
      · simpa [turns, role] using same
      · rw [systemText, if_neg role, told]

theorem turns_instruct (instruction : String) (ms : List Message) :
    turns (instruct instruction ms) = turns ms := by
  cases given : systemText ms with
  | none =>
    rw [instruct, mergeInstruction_none given]
    simp [turns]
  | some system =>
    obtain ⟨merged, taken, same, -⟩ := mergeInstruction_some instruction given
    rw [instruct, taken]
    exact same

theorem systemText_instruct (edged : Text.Edged instruction.toList) (ms : List Message) :
    systemText (instruct instruction ms) =
      some (((systemText ms).map lead).getD "" ++ instruction) := by
  cases given : systemText ms with
  | none =>
    rw [instruct, mergeInstruction_none given]
    exact congrArg some String.empty_append.symm
  | some system =>
    obtain ⟨merged, taken, -, told⟩ := mergeInstruction_some instruction given
    rw [instruct, taken]
    exact told.trans (congrArg some (merged_content edged system))

section Laid

variable {part whole : String} {pending : Option String} {first : Bool}

theorem infix_before (inside : part.toList <:+: whole.toList) (below : String) :
    part.toList <:+: (whole ++ below).toList := by
  rw [String.toList_append]
  exact inside.trans (List.prefix_append ..).isInfix

theorem infix_behind (inside : part.toList <:+: whole.toList) (above : String) :
    part.toList <:+: (above ++ whole).toList := by
  rw [String.toList_append]
  exact inside.trans (List.suffix_append ..).isInfix

namespace Brackets

def Keeps (b : Brackets) : Prop :=
  ∀ system content, system.toList <:+: (b.withSystem system content).toList

variable {b : Brackets}

theorem instruction_holds (inside : part.toList <:+: whole.toList) :
    part.toList <:+: (b.instruction first whole).toList :=
  infix_before (infix_behind inside _) _

/-- A system text that waits is set down by the first instruction, or behind all turns. -/
theorem layout_holds (keeps : b.Keeps) (waits : waiting pending = some s) (ts : List Message)
    (first : Bool) : (stripped s).toList <:+: (b.layout pending first ts).toList := by
  induction ts generalizing first with
  | nil =>
    rw [b.layout_nil_waiting waits]
    exact instruction_holds (keeps _ _)
  | cons t ts ih =>
    by_cases reply : t.role = .assistant
    · rw [layout, if_pos reply]
      exact infix_behind (ih first) _
    · rw [b.layout_asking reply, placed, waits]
      exact infix_before (instruction_holds (keeps _ _)) _

theorem llama2_keeps : llama2Brackets.Keeps := fun _ _ =>
  infix_before (infix_before (infix_behind (List.infix_refl _) _) _) _

theorem mistral_keeps : mistralBrackets.Keeps := by
  intro system content
  by_cases empty : content = ""
  · simp [mistralBrackets, empty]
  · simp only [mistralBrackets, if_neg empty]
    exact infix_before (infix_before (List.infix_refl _) _) _

theorem render_holds (keeps : b.Keeps) (name : String) (edged : Text.Edged instruction.toList)
    (before : String) (ts : List Message) :
    ∃ prompt, (b.dialect name).render (some (before ++ instruction)) ts = .ok prompt ∧
      instruction.toList <:+: prompt.toList := by
  have text : before ++ instruction ≠ "" := by
    intro none
    have letters := congrArg String.toList none
    rw [String.toList_append] at letters
    exact edged.ne_nil (List.append_eq_nil_iff.1 letters).2
  have waits : waiting (some (before ++ instruction)) = some (before ++ instruction) := if_neg text
  have kept : instruction.toList <:+: (stripped (before ++ instruction)).toList := by
    rw [toList_stripped, String.toList_append, edged.trim_append]
    exact (List.suffix_append ..).isInfix
  exact ⟨_, rfl, kept.trans (layout_holds keeps waits ts true)⟩

end Brackets

theorem BuiltIn.render_holds {d : Dialect} {bracketed : Bool} (builtIn : BuiltIn bracketed d)
    (edged : Text.Edged instruction.toList) (before : String)
    (known : ∀ t ∈ ts, t.role.isKnown = true ∧ t.role ≠ .system) :
    ∃ prompt, d.render (some (before ++ instruction)) ts = .ok prompt ∧
      instruction.toList <:+: prompt.toList := by
  have ended : instruction.toList <:+: (before ++ instruction).toList :=
    infix_behind (List.infix_refl _) before
  cases builtIn with
  | llama2 => exact Brackets.render_holds Brackets.llama2_keeps _ edged before ts
  | mistral => exact Brackets.render_holds Brackets.mistral_keeps _ edged before ts
  | chatml => exact ⟨_, rfl, infix_before (infix_before (infix_behind ended _) _) _⟩
  | plain =>
    obtain ⟨below, laid⟩ := Plain.layout_ok known
    have rendered : Chat.plain.render (some (before ++ instruction)) ts =
        (Plain.layout ts).map ("System: " ++ (before ++ instruction) ++ "\n\n" ++ ·) := rfl
    rw [rendered, laid, map_ok]
    exact ⟨_, rfl, infix_before (infix_before (infix_behind ended _) _) _⟩

end Laid

theorem Catalog.standard_listed :
    ∀ entry ∈ Catalog.standard, ∃ bracketed, BuiltIn bracketed entry.2 := by
  simp [Catalog.standard, BuiltIn.llama2, BuiltIn.mistral, BuiltIn.chatml]

theorem Catalog.standard_builtIn (name : String) :
    ∃ bracketed, BuiltIn bracketed (Catalog.standard.find name) := by
  rw [Catalog.find]
  cases listed : Catalog.standard.lookup (Catalog.key name) with
  | none => exact ⟨_, .plain⟩
  | some d =>
    obtain ⟨before, behind, split, -⟩ := List.lookup_eq_some_iff.1 listed
    exact Catalog.standard_listed (Catalog.key name, d) (by simp [split])

end Chat

namespace Engine

variable {σ : Type} {bracketed : Bool}

/-- A conversation laid out by a built-in dialect tells of the offered tools, a line for each in their
order, in one piece. The turns are those it had, and the system text is what it was, without the
blanks around it, and then that piece. -/
theorem tools_told (e : Engine σ) (r : Request) (builtIn : Chat.BuiltIn bracketed (e.dialect r))
    (known : ∀ m ∈ r.messages.getD [], m.role.isKnown = true) (offered : r.offeredTools ≠ []) :
    let ms := r.messages.getD []
    let informed := Chat.withTools ms r.offeredTools r.toolChoice
    let told := "\n".intercalate (["You can call the following tools:"] ++
      r.offeredTools.map (fun tool => tool.toJson.text) ++
      ["To call a tool, reply with a single JSON object of the form " ++
        "\x7b\"function\": \x7b\"name\": \"<tool name>\", \"arguments\": \x7b...\x7d\x7d\x7d."] ++
      if r.toolChoice.isStr "required" then ["You must call a tool for this response."] else [])
    (∃ prompt, e.dialectLayout r = .ok prompt ∧ told.toList <:+: prompt.toList) ∧
      Chat.turns informed = Chat.turns ms ∧
      ∃ lead, Chat.systemText informed = some (lead ++ told) ∧
        ∀ system, Chat.systemText ms = some system → stripped system ≠ "" →
          lead = stripped system ++ "\n\n" := by
  intro ms informed told
  have text : told = Tool.instruction r.offeredTools (r.toolChoice.isStr "required") := rfl
  have edged : Text.Edged told.toList := text ▸ Tool.instruction_edged _ _
  have instructed : informed = Chat.instruct told ms := by
    have some : r.offeredTools.isEmpty = false := by simpa using offered
    rw [text, show informed = Chat.withTools ms r.offeredTools r.toolChoice from rfl, Chat.withTools,
      some, if_neg Bool.false_ne_true]
  have turns : Chat.turns informed = Chat.turns ms := instructed ▸ Chat.turns_instruct told ms
  have system := Chat.systemText_instruct edged ms
  rw [← instructed] at system
  refine ⟨?_, turns, _, system, fun said given printed => ?_⟩
  · have labelled := Chat.turns_known known
    rw [← turns] at labelled
    obtain ⟨prompt, laid, inside⟩ := builtIn.render_holds edged _ labelled
    refine ⟨prompt, ?_, inside⟩
    rw [dialectLayout, Chat.Dialect.format, ← laid, ← system]
  · rw [given, Option.map_some, Option.getD_some, Chat.lead, if_neg printed]

end Engine

def remindingRequest : Request where
  messages := some [{ role := .assistant, content := "Hi" }, { role := .system, content := " S " },
    { role := .system, content := "T" }]
  templateName := "Mistral"
  tools := [{ name := "f" }, { name := "g" }]
  toolChoice := .str "required"

theorem tools_told_reminding :
    let ms := remindingRequest.messages.getD []
    let told := Tool.instruction remindingRequest.tools true
    let informed := Chat.withTools ms remindingRequest.tools remindingRequest.toolChoice
    ((∀ m ∈ ms, m.role.isKnown = true) ∧ remindingRequest.offeredTools ≠ []) ∧
      (∃ prompt, rehearsedEngine.dialectLayout remindingRequest = .ok prompt ∧
        told.toList <:+: prompt.toList) ∧
      Chat.turns informed = [{ role := .assistant, content := "Hi" }] ∧
      Chat.systemText informed = some ("S\n\n" ++ told) := by
  intro ms told informed
  obtain ⟨bracketed, builtIn⟩ := Chat.Catalog.standard_builtIn
    (rehearsedEngine.templateName remindingRequest)
  have known : ∀ m ∈ ms, m.role.isKnown = true := by decide
  have offered : remindingRequest.offeredTools ≠ [] := List.cons_ne_nil _ _
  obtain ⟨prompt, turns, lead, system, kept⟩ :=
    Engine.tools_told rehearsedEngine remindingRequest builtIn known offered
  have trimmed : lead = "S\n\n" := kept " S " (by decide) (by decide)
  rw [trimmed] at system
  exact ⟨⟨known, offered⟩, prompt, turns, system⟩

end Completions
