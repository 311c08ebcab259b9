import Completions.Http.Server

/-! What a client reads off an answer, whether it comes whole or in pieces: the text, the calls, the
reason of the end, the usage, and the error. -/

namespace Completions.Http

def fieldOf (v : Json) (key : String) : Json :=
  match v with
  | .obj fields => Fields.get fields key
  | _ => .null

def itemsOf : Json → List Json
  | .arr items => items
  | _ => []

def text? : Json → Option String
  | .str s => some s
  | _ => none

def lettersOf (v : Json) : List Char := ((text? v).getD "").toList

def choiceOf (v : Json) : Json := (itemsOf (fieldOf v "choices")).headD .null

/-- A whole answer has a message, a piece says what it adds to one. -/
inductive Form where
  | whole
  | piece

def Form.part : Form → String
  | .whole => "message"
  | .piece => "delta"

def textIn (service : Engine.Service) (form : Form) (v : Json) : List Char :=
  match service with
  | .text => lettersOf (fieldOf (choiceOf v) "text")
  | .chat => lettersOf (fieldOf (fieldOf (choiceOf v) form.part) "content")

def callsIn (form : Form) (v : Json) : List Json :=
  itemsOf (fieldOf (fieldOf (choiceOf v) form.part) "tool_calls")

def withoutIndex : Json → Json
  | .obj fields => .obj (fields.filter fun field => field.1 != "index")
  | v => v

def finishIn (v : Json) : Option String := text? (fieldOf (choiceOf v) "finish_reason")

def usageIn (v : Json) : Json := fieldOf v "usage"

def errorIn (v : Json) : Option (String × String) :=
  match fieldOf (fieldOf v "error") "message", fieldOf (fieldOf v "error") "code" with
  | .str message, .str code => some (message, code)
  | _, _ => none

@[simp] theorem fieldOf_null (key : String) : fieldOf .null key = .null := rfl

@[simp] theorem fieldOf_nil (key : String) : fieldOf (.obj []) key = .null := rfl

@[simp] theorem fieldOf_cons (k : String) (v : Json) (rest : Fields) (key : String) :
    fieldOf (.obj ((k, v) :: rest)) key = if key = k then v else fieldOf (.obj rest) key := by
  simp only [fieldOf, Fields.get, Fields.get?_cons]
  by_cases h : key = k <;> simp [h]

section Reading

variable (h : Head) (more : Fields)

@[simp] theorem choiceOf_fields (object : String) (choice : Fields) :
    choiceOf (.obj (h.fields object choice ++ more)) = .obj choice := by
  simp [choiceOf, Head.fields, itemsOf]

theorem usageIn_fields (object : String) (choice : Fields) :
    usageIn (.obj (h.fields object choice ++ more)) = usageIn (.obj more) := by
  simp [usageIn, Head.fields]

theorem errorIn_fields (object : String) (choice : Fields) :
    errorIn (.obj (h.fields object choice ++ more)) = errorIn (.obj more) := by
  simp [errorIn, Head.fields]

@[simp] theorem finishIn_text (text : String) (finish : Option String) :
    finishIn (.obj (h.text text finish ++ more)) = finish := by
  cases finish <;> simp [finishIn, Head.text, text?, optionalText]

@[simp] theorem finishIn_chat (delta : Fields) (finish : Option String) :
    finishIn (.obj (h.chat delta finish ++ more)) = finish := by
  cases finish <;> simp [finishIn, Head.chat, text?, optionalText]

@[simp] theorem textIn_text (form : Form) (text : String) (finish : Option String) :
    textIn .text form (.obj (h.text text finish ++ more)) = text.toList := by
  simp [textIn, Head.text, lettersOf, text?]

@[simp] theorem textIn_chat (delta : Fields) (finish : Option String) :
    textIn .chat .piece (.obj (h.chat delta finish ++ more)) =
      lettersOf (fieldOf (.obj delta) "content") := by
  simp [textIn, Head.chat, Form.part]

@[simp] theorem callsIn_text (form : Form) (text : String) (finish : Option String) :
    callsIn form (.obj (h.text text finish ++ more)) = [] := by
  cases form <;> simp [callsIn, Head.text, Form.part, itemsOf]

@[simp] theorem callsIn_chat (delta : Fields) (finish : Option String) :
    callsIn .piece (.obj (h.chat delta finish ++ more)) =
      itemsOf (fieldOf (.obj delta) "tool_calls") := by
  simp [callsIn, Head.chat, Form.part]

end Reading

theorem numberedCalls_withoutIndex (i : Nat) (calls : List Tool.Call) :
    (numberedCalls i calls).map withoutIndex = calls.map Tool.Call.toJson := by
  induction calls generalizing i with
  | nil => rfl
  | cons c calls ih => simp [numberedCalls, ih, withoutIndex, Tool.Call.toFields, Tool.Call.toJson]

@[simp] theorem errorIn_errorJson (kind : ErrorKind) (message : String) :
    errorIn (errorJson kind message) = some (message, kind.name) := by
  simp [errorIn, errorJson]

@[simp] theorem finishIn_errorJson (kind : ErrorKind) (message : String) :
    finishIn (errorJson kind message) = none := by
  simp [finishIn, errorJson, choiceOf, itemsOf, text?]

theorem textJson_eq (h : Head) (c : Completion) : Server.textJson h c =
    .obj (h.text c.content (some c.finish.name) ++ (("usage", c.usage.toJson) ::
      ((c.stoppingWord.elim [] fun w => [("stopping_word", .str w)]) ++ timingField c.timing))) := rfl

theorem chatJson_eq (h : Head) {c : Completion} {reply : ChatReply} (some : c.reply = some reply) :
    Server.chatJson h c =
      .obj ((⟨reply.id, reply.created, h.model⟩ : Head).fields "chat.completion"
        [("index", .int 0), ("message", ChatReply.messageJson reply.content reply.toolCalls),
         ("finish_reason", .str reply.finish.name)] ++
        (("usage", reply.usage.toJson) :: timingField c.timing)) := by
  simp [Server.chatJson, some, ChatReply.toFields, Fields.put, Head.fields]

end Completions.Http
