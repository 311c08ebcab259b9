import Completions.Chat.Message
import Completions.Proofs.CallShapes

/-! Calls, tools and messages are read from several shapes and written in one. What is written for any
that was read is read as the same again, up to empty texts that a message leaves out. The arguments of
a call that are no text are written as one, which spells them. Main statements: `converters_stable`
and `parsedArguments_given`. -/

namespace Completions

theorem Stamp.callId_ne_empty (stamp : Stamp) (name : String) : stamp.callId name ≠ "" := by
  simp [callId, String.append_eq_empty_iff]

theorem Json.read_write {v : Json} (plain : v.Plain) : read v.write = .ok v := by
  have taken : (read v.write).toOption = some v := read?_write plain
  cases outcome : read v.write with
  | error flaw =>
    rw [outcome] at taken
    cases taken
  | ok w =>
    rw [outcome] at taken
    exact congrArg Except.ok (Option.some.inj taken)

namespace Tool

theorem textOf?_eq_some_iff {v : Json} {s : String} : textOf? v = some s ↔ v = .str s ∧ s ≠ "" := by
  cases v with
  | str t =>
    simp only [textOf?, Option.ite_none_left_eq_some, Option.some.injEq, Json.str.injEq]
    constructor
    · rintro ⟨filled, rfl⟩
      exact ⟨rfl, filled⟩
    · rintro ⟨rfl, filled⟩
      exact ⟨filled, rfl⟩
  | _ => simp [textOf?]

section Calls

variable {stamp : Stamp} {v : Json} {c : Call}

/-- A call as reading gives it: with an id and a name, and of the one kind there is. -/
structure Call.Sound (c : Call) : Prop where
  id : c.id ≠ ""
  name : c.name ≠ ""
  kind : c.kind = "function"

theorem Call.ofJson_eq_ok (read : ofJson stamp v = .ok c) :
    ∃ call f name, v = .obj call ∧ Fields.get call "function" = .obj f ∧
      textOf? (Fields.get f "name") = some name ∧
      c = { id := (textOf? (Fields.get call "id")).getD (stamp.callId name), name
            arguments := argumentsOf (Fields.get f "arguments") } := by
  cases v with
  | obj call =>
    rw [ofJson] at read
    split at read
    · split at read
      · next f function =>
        split at read
        · next name named => exact ⟨call, f, name, rfl, function, named, (Except.ok.inj read).symm⟩
        · cases read
      · cases read
    · cases read
  | _ => cases read

theorem Call.sound_of_ofJson (read : ofJson stamp v = .ok c) : c.Sound := by
  obtain ⟨call, f, name, -, -, named, rfl⟩ := ofJson_eq_ok read
  refine ⟨?_, (textOf?_eq_some_iff.1 named).2, rfl⟩
  cases given : textOf? (Fields.get call "id") with
  | none => exact stamp.callId_ne_empty name
  | some id => exact (textOf?_eq_some_iff.1 given).2

theorem Call.ofJson_toJson (sound : c.Sound) (stamp : Stamp) : ofJson stamp c.toJson = .ok c := by
  obtain ⟨id, name, arguments, kind⟩ := c
  have kind : kind = "function" := sound.kind
  have id := textOf?_eq_some_iff.2 ⟨rfl, sound.id⟩
  have name := textOf?_eq_some_iff.2 ⟨rfl, sound.name⟩
  subst kind
  simp [ofJson, toJson, toFields, Fields.get, Fields.get?_cons, Json.isStr, id, name, argumentsOf]

end Calls

section Arguments

theorem Call.argumentsOf_value {v : Json} (value : v ≠ .null) (noText : ∀ s, v ≠ .str s) :
    argumentsOf v = v.text := by
  cases v with
  | null => contradiction
  | str s => exact absurd rfl (noText s)
  | _ => rfl

theorem Call.parsedArguments_text {c : Call} {v : Json} (plain : v.Plain)
    (written : c.arguments = v.text) : c.parsedArguments = .ok v := by
  rw [parsedArguments, written, Json.text, String.toList_ofList, Json.read_write plain]

/-- Arguments that are given as a value, and not as its text, are parsed as that value, the fields of
its objects in their order. -/
theorem Call.parsedArguments_given {stamp : Stamp} {call f : Fields} {v : Json} {c : Call}
    (read : ofJson stamp (.obj call) = .ok c) (function : call.get "function" = .obj f)
    (given : f.get "arguments" = v) (plain : v.Plain) (value : v ≠ .null)
    (noText : ∀ s, v ≠ .str s) : c.parsedArguments = .ok v := by
  obtain ⟨call', f', name, object, function', -, rfl⟩ := ofJson_eq_ok read
  obtain rfl := Json.obj.inj object
  obtain rfl := Json.obj.inj (function.symm.trans function')
  refine parsedArguments_text plain ?_
  rw [given, argumentsOf_value value noText]

def nestedArguments : Json :=
  .obj [("z", .arr [.bool true, .int (-120000000000000000000), .arr []]),
        ("a \x22 b", .str "line\n\\\x01é"), ("", .obj [("k", .null)])]

theorem nestedArguments_plain : nestedArguments.Plain := by
  refine .obj (by decide) ?_
  simp only [List.forall_mem_cons, List.not_mem_nil, false_imp_iff, implies_true, and_true]
  refine ⟨.arr ?_, .str _, .obj (List.nodup_singleton _) ?_⟩
  · simp only [List.forall_mem_cons, List.not_mem_nil, false_imp_iff, implies_true, and_true]
    exact ⟨.bool _, .int _, .arr (List.forall_mem_nil _)⟩
  · exact List.forall_mem_singleton.2 .null

theorem Call.parsedArguments_given_nested :
    let function : Fields := [("name", .str "f"), ("arguments", nestedArguments)]
    ∃ c, ofJson ⟨0, 0, ""⟩ (.obj [("function", .obj function)]) = .ok c ∧
      function.get "arguments" = nestedArguments ∧ nestedArguments.Plain ∧
      nestedArguments ≠ .null ∧ (∀ s, nestedArguments ≠ .str s) ∧
      c.parsedArguments = .ok nestedArguments := by
  intro function
  have value : nestedArguments ≠ .null := nofun
  have noText (s : String) : nestedArguments ≠ .str s := nofun
  obtain ⟨c, read⟩ : ∃ c, ofJson ⟨0, 0, ""⟩ (.obj [("function", .obj function)]) = .ok c := ⟨_, rfl⟩
  exact ⟨c, read, rfl, nestedArguments_plain, value, noText,
    parsedArguments_given read rfl rfl nestedArguments_plain value noText⟩

end Arguments

section Definitions

variable {v : Json} {t : Definition}

theorem Definition.name_of_ofJson (read : ofJson v = .ok t) : t.name ≠ "" := by
  cases v with
  | obj tool =>
    obtain ⟨f, -, read⟩ := bind_eq_ok_iff.1 read
    split at read
    · cases read
    · next name named =>
      obtain ⟨description, -, read⟩ := bind_eq_ok_iff.1 read
      obtain ⟨parameters, -, read⟩ := bind_eq_ok_iff.1 read
      obtain rfl := Except.ok.inj read
      exact (textOf?_eq_some_iff.1 named).2
  | _ => cases read

theorem Definition.ofJson_toJson (named : t.name ≠ "") : ofJson t.toJson = .ok t := by
  have name := textOf?_eq_some_iff.2 ⟨rfl, named⟩
  simp [ofJson, toJson, body, Fields.has, Fields.get, Fields.get?_cons, Json.isStr, name,
    descriptionOf, parametersOf, bind, Except.bind, pure, Except.pure]

end Definitions

end Tool

namespace Chat

open Fields

def filled (s : Option String) : Option String := s.filter (· ≠ "")

namespace Message

/-- A message as reading gives it: its role is known, only a tool's message answers a call, and only
an assistant's makes any. -/
structure Sound (m : Message) : Prop where
  role : m.role.isKnown = true
  toolCallId : m.role ≠ .tool → m.toolCallId = none
  toolCalls : m.role ≠ .assistant → m.toolCalls = []
  calls : ∀ c ∈ m.toolCalls, c.Sound

/-- The message without texts that are empty where they could as well be absent. -/
def withoutEmpty (m : Message) : Message :=
  { m with name := filled m.name, toolCallId := filled m.toolCallId }

def answeredBy (role : Role) (v : Json) : Except MessageFlaw (Option String) :=
  if role = .tool then optionalText .toolCallId v else pure none

def calledBy (stamp : Stamp) (role : Role) (v : Json) : Except MessageFlaw (List Tool.Call) :=
  if role = .assistant then callsOf stamp v else pure []

section Reading

variable {stamp : Stamp}

theorem roleOf_known {v : Json} {role : Role} (read : roleOf v = .ok role) : role.isKnown = true := by
  cases v with
  | str n =>
    rw [roleOf] at read
    split at read
    · next known => exact Except.ok.inj read ▸ known
    · cases read
  | _ => cases read

theorem readCalls_sound {raws : List Json} {calls : List Tool.Call}
    (read : readCalls stamp raws = .ok calls) : ∀ c ∈ calls, c.Sound := by
  induction raws generalizing calls with
  | nil =>
    cases read
    exact List.forall_mem_nil _
  | cons v raws ih =>
    rw [readCalls] at read
    split at read
    · cases read
    · next c first =>
      obtain ⟨later, rest, same⟩ := bind_eq_ok_iff.1 read
      cases same
      exact List.forall_mem_cons.2 ⟨Tool.Call.sound_of_ofJson first, ih rest⟩

theorem callsOf_sound {v : Json} {calls : List Tool.Call} (read : callsOf stamp v = .ok calls) :
    ∀ c ∈ calls, c.Sound := by
  cases v with
  | null =>
    cases read
    exact List.forall_mem_nil _
  | arr raws => exact readCalls_sound read
  | _ => cases read

theorem ofJson_obj (fields : Fields) :
    ofJson stamp (.obj fields) =
      roleOf (Fields.get fields "role") >>= fun role =>
      contentOf (Fields.get fields "content") >>= fun content =>
      optionalText .name (Fields.get fields "name") >>= fun name =>
      answeredBy role (Fields.get fields "tool_call_id") >>= fun toolCallId =>
      calledBy stamp role (Fields.get fields "tool_calls") >>= fun toolCalls =>
      pure { role, content, name, toolCallId, toolCalls } := by
  rw [ofJson]
  refine bind_congr fun role => bind_congr fun content => bind_congr fun name => ?_
  by_cases tool : role = .tool <;> by_cases assistant : role = .assistant <;>
    simp [answeredBy, calledBy, tool, assistant]

theorem sound_of_ofJson {v : Json} {m : Message} (read : ofJson stamp v = .ok m) : m.Sound := by
  cases v with
  | obj fields =>
    rw [ofJson_obj] at read
    obtain ⟨role, known, read⟩ := bind_eq_ok_iff.1 read
    obtain ⟨content, -, read⟩ := bind_eq_ok_iff.1 read
    obtain ⟨name, -, read⟩ := bind_eq_ok_iff.1 read
    obtain ⟨toolCallId, answered, read⟩ := bind_eq_ok_iff.1 read
    obtain ⟨toolCalls, called, read⟩ := bind_eq_ok_iff.1 read
    obtain rfl := Except.ok.inj read
    refine ⟨roleOf_known known, fun other => ?_, fun other => ?_, ?_⟩
    · rw [answeredBy, if_neg other] at answered
      exact (Except.ok.inj answered).symm
    · rw [calledBy, if_neg other] at called
      exact (Except.ok.inj called).symm
    · rw [calledBy] at called
      split at called
      · exact callsOf_sound called
      · cases called
        exact List.forall_mem_nil _
  | _ => cases read

end Reading

section Writing

theorem textField_filled (key : String) (s : Option String) :
    textField key (filled s) = textField key s := by
  cases s with
  | none => rfl
  | some s => by_cases empty : s = "" <;> simp [filled, Option.filter_some, textField, empty]

theorem toJson_withoutEmpty (m : Message) : m.withoutEmpty.toJson = m.toJson := by
  simp only [toJson, toFields, withoutEmpty, textField_filled]
  rfl

theorem get?_textField (key : String) (s : Option String) (k : String) :
    get? (textField key s) k = if k = key then (filled s).map Json.str else none := by
  cases s with
  | none => simp [textField, filled, get?]
  | some s =>
    by_cases empty : s = ""
    · simp [textField, filled, Option.filter_some, empty, get?]
    · simp only [textField, if_neg empty, get?_cons]
      simp [filled, Option.filter_some, empty, get?]

theorem optionalText_filled (flaw : MessageFlaw) (s : Option String) :
    optionalText flaw (((filled s).map Json.str).getD .null) = .ok (filled s) := by
  cases filled s <;> rfl

theorem get_name (m : Message) :
    Fields.get m.toFields "name" = ((filled m.name).map Json.str).getD .null := by
  by_cases tool : m.role = .tool <;>
    by_cases calling : m.role = .assistant ∧ m.toolCalls ≠ [] <;>
    simp [toFields, Fields.get, get?_append, get?_cons, get?_textField, get?_nil, tool, calling]

theorem get_toolCallId {m : Message} (tool : m.role = .tool) :
    Fields.get m.toFields "tool_call_id" = ((filled m.toolCallId).map Json.str).getD .null := by
  simp [toFields, Fields.get, get?_append, get?_cons, get?_textField, tool]

theorem get_toolCalls {m : Message} (assistant : m.role = .assistant) :
    Fields.get m.toFields "tool_calls" =
      if m.toolCalls = [] then .null else .arr (m.toolCalls.map Tool.Call.toJson) := by
  by_cases none : m.toolCalls = [] <;>
    simp [toFields, Fields.get, get?_append, get?_cons, get?_textField, assistant, none]

theorem roleOf_name {role : Role} (known : role.isKnown = true) :
    roleOf (.str role.name) = .ok role := by
  rw [roleOf, Role.ofName_name known, if_pos known]

theorem readCalls_toJson (stamp : Stamp) {calls : List Tool.Call} (sound : ∀ c ∈ calls, c.Sound) :
    readCalls stamp (calls.map Tool.Call.toJson) = .ok calls := by
  induction calls with
  | nil => rfl
  | cons c calls ih =>
    obtain ⟨first, later⟩ := List.forall_mem_cons.1 sound
    rw [List.map_cons, readCalls, Tool.Call.ofJson_toJson first, ih later]
    rfl

variable {m : Message} (sound : m.Sound)
include sound

theorem answeredBy_toFields :
    answeredBy m.role (Fields.get m.toFields "tool_call_id") = .ok (filled m.toolCallId) := by
  by_cases tool : m.role = .tool
  · rw [answeredBy, if_pos tool, get_toolCallId tool, optionalText_filled]
  · rw [answeredBy, if_neg tool, sound.toolCallId tool]
    rfl

theorem calledBy_toFields (stamp : Stamp) :
    calledBy stamp m.role (Fields.get m.toFields "tool_calls") = .ok m.toolCalls := by
  by_cases assistant : m.role = .assistant
  · rw [calledBy, if_pos assistant, get_toolCalls assistant]
    by_cases none : m.toolCalls = []
    · rw [if_pos none, none]
      rfl
    · rw [if_neg none]
      exact readCalls_toJson stamp sound.calls
  · rw [calledBy, if_neg assistant, sound.toolCalls assistant]
    rfl

theorem ofJson_toJson (stamp : Stamp) : ofJson stamp m.toJson = .ok m.withoutEmpty := by
  have role : Fields.get m.toFields "role" = .str m.role.name := rfl
  have content : Fields.get m.toFields "content" = .str m.content := rfl
  rw [toJson, ofJson_obj, role, content, get_name, roleOf_name sound.role, optionalText_filled]
  simp only [contentOf, bind, Except.bind, answeredBy_toFields sound, calledBy_toFields sound]
  rfl

end Writing

end Message

end Chat

/-- What is written for a message, a tool or a call that was read is read as the same again, whenever
that is: a message without its empty texts, which writing leaves out, a tool and a call as they are,
the call with its id. -/
theorem converters_stable (stamp stamp' : Stamp) :
    (∀ v m, Chat.Message.ofJson stamp v = .ok m →
      Chat.Message.ofJson stamp' m.toJson = .ok m.withoutEmpty ∧
        m.withoutEmpty.toJson = m.toJson) ∧
    (∀ v t, Tool.Definition.ofJson v = .ok t → Tool.Definition.ofJson t.toJson = .ok t) ∧
    ∀ v c, Tool.Call.ofJson stamp v = .ok c → Tool.Call.ofJson stamp' c.toJson = .ok c := by
  refine ⟨fun v m read => ⟨?_, Chat.Message.toJson_withoutEmpty m⟩, fun v t read => ?_,
    fun v c read => ?_⟩
  · exact Chat.Message.ofJson_toJson (Chat.Message.sound_of_ofJson read) stamp'
  · exact Tool.Definition.ofJson_toJson (Tool.Definition.name_of_ofJson read)
  · exact Tool.Call.ofJson_toJson (Tool.Call.sound_of_ofJson read) stamp'

def callingMessage : Json :=
  .obj [("role", .str "assistant"), ("name", .str ""),
        ("content", .arr [.obj [("type", .str "text"), ("text", .str "a")], .null]),
        ("tool_calls", .arr [Tool.namedCall])]

def bareTool : Json :=
  .obj [("name", .str "f"), ("description", .null), ("parameters", .obj [("type", .str "object")])]

theorem converters_stable_shapes :
    (∃ m, Chat.Message.ofJson ⟨0, 0, ""⟩ callingMessage = .ok m ∧ m.name = some "" ∧
      Chat.Message.ofJson ⟨1, 1, ""⟩ m.toJson = .ok { m with name := none } ∧
      Chat.Message.toJson { m with name := none } = m.toJson) ∧
    (∃ t, Tool.Definition.ofJson bareTool = .ok t ∧ Tool.Definition.ofJson t.toJson = .ok t) ∧
    ∃ c, Tool.Call.ofJson ⟨0, 0, ""⟩ Tool.namedCall = .ok c ∧ c.id = "call_f_0" ∧
      Tool.Call.ofJson ⟨1, 1, ""⟩ c.toJson = .ok c := by
  have ⟨messages, tools, calls⟩ := converters_stable ⟨0, 0, ""⟩ ⟨1, 1, ""⟩
  obtain ⟨again, same⟩ := messages callingMessage _ rfl
  exact ⟨⟨_, rfl, rfl, again, same⟩, ⟨_, rfl, tools bareTool _ rfl⟩,
    ⟨_, rfl, rfl, calls Tool.namedCall _ rfl⟩⟩

end Completions
