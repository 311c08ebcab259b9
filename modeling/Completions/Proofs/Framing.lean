import Completions.Proofs.JsonText
import Completions.Proofs.PrintedText
import Completions.Proofs.SameOutcome
import Completions.Proofs.WriterGrammar

/-! An event stream as the client has it, one text. Cut at its blank lines it falls into the chunks
that were sent, and what is read of their data are the texts of the deltas and the message of the
error. Main statement: `framing_lossless`. -/

namespace Completions

/-- What stands between blank lines. Of more than two line feeds in a row the first two are taken for
one. -/
def cutAtBlankLines : List Char → List (List Char)
  | [] => [[]]
  | '\n' :: '\n' :: rest => [] :: cutAtBlankLines rest
  | c :: rest => (cutAtBlankLines rest).modifyHead (c :: ·)

theorem cutAtBlankLines_line {line : List Char} (unbroken : '\n' ∉ line) (rest : List Char) :
    cutAtBlankLines (line ++ '\n' :: '\n' :: rest) = line :: cutAtBlankLines rest := by
  induction line with
  | nil => rfl
  | cons c line ih =>
    obtain ⟨other, later⟩ := not_or.1 (mt List.mem_cons.2 unbroken)
    rw [List.cons_append, cutAtBlankLines, ih later]
    · rfl
    · intro _ feed
      exact absurd feed.symm other

namespace Http

namespace Chunk

theorem printed_payload (c : Chunk) : Printed c.payload.toList := by
  cases c with
  | data v => simpa [payload, Json.text] using Json.printed_write v
  | done => decide

def line (c : Chunk) : String := "data: " ++ c.payload

theorem frame_eq (c : Chunk) : c.frame.toList = c.line.toList ++ ['\n', '\n'] :=
  String.toList_append

theorem line_unbroken (c : Chunk) : '\n' ∉ c.line.toList := by
  have mark : Printed "data: ".toList := by decide
  intro feed
  rw [line, String.toList_append] at feed
  have printed := printed_append.2 ⟨mark, c.printed_payload⟩ _ feed
  revert printed
  decide

def wire (chunks : List Chunk) : List Char := chunks.flatMap fun c => c.frame.toList

theorem cutAtBlankLines_wire (chunks : List Chunk) :
    cutAtBlankLines (wire chunks) = chunks.map (fun c => c.line.toList) ++ [[]] := by
  induction chunks with
  | nil => rfl
  | cons c chunks ih =>
    have split : wire (c :: chunks) = c.line.toList ++ '\n' :: '\n' :: wire chunks := by
      rw [wire, List.flatMap_cons, frame_eq, List.append_assoc]
      rfl
    rw [split, cutAtBlankLines_line c.line_unbroken, ih]
    rfl

end Chunk

open Json Engine

section Pieces

variable (service : Service) (h : Head)

theorem plain_optionalText (s : Option String) : Plain (optionalText s) := by
  cases s with
  | none => exact .null
  | some s => exact .str s

theorem plain_fields (object : String) {choice : Fields} (plain : Plain (.obj choice)) :
    Plain (.obj (h.fields object choice)) := by
  refine .obj (by simp [Head.fields]) ?_
  simp [Head.fields, Plain.str, Plain.int, Plain.arr, plain]

theorem plain_text (t : String) (finish : Option String) : Plain (.obj (h.text t finish)) := by
  refine plain_fields h _ (.obj (by simp) ?_)
  simp [Plain.str, Plain.int, Plain.null, plain_optionalText]

theorem plain_chat {delta : Fields} (plain : Plain (.obj delta)) (finish : Option String) :
    Plain (.obj (h.chat delta finish)) := by
  refine plain_fields h _ (.obj (by simp) ?_)
  simp [Plain.int, plain, plain_optionalText]

theorem plain_said (key s : String) : Plain (.obj [(key, .str s)]) :=
  .obj (List.nodup_singleton _) (by simp [Plain.str])

structure Reads (service : Service) (v : Json) (text : List Char)
    (error : Option (String × String)) : Prop where
  keyed : Keyed v
  text : textIn service .piece v.reread = text
  error : errorIn v.reread = error

theorem reads_inner {v : Json} {t : List Char} {calls : List Json} (plain : Plain v)
    (inner : Inner service v t calls) : Reads service v t none where
  keyed := plain.keyed
  text := by rw [plain.reread, inner.text]
  error := by rw [plain.reread, inner.error]

theorem reads_opening : ∀ v ∈ opening service h, Reads service v [] none := by
  intro v first
  refine reads_inner service ?_ (inner_opening service h v first)
  cases service with
  | text => cases first
  | chat =>
    rw [List.mem_singleton.1 first]
    exact plain_chat h (plain_said "role" "assistant") none

theorem reads_fragment (t : String) : Reads service (fragment service h t) t.toList none := by
  refine reads_inner service ?_ (inner_fragment service h t)
  cases service with
  | text => exact plain_text h t none
  | chat => exact plain_chat h (plain_said "content" t) none

theorem reads_error (kind : ErrorKind) (message : String) :
    Reads service (errorJson kind message) [] (some (message, kind.name)) := by
  have plain : Plain (errorJson kind message) := by
    refine .obj (List.nodup_singleton _) ?_
    simp [Plain.obj, Plain.str, Plain.null]
  refine ⟨plain.keyed, ?_, ?_⟩
  · rw [plain.reread]
    cases service <;> simp [textIn, errorJson, choiceOf, itemsOf, lettersOf, text?]
  · rw [plain.reread, errorIn_errorJson]

theorem keyed_seconds (x : Option Float) : Keyed (Timing.secondsJson x) := by
  cases x with
  | none => exact .null
  | some x => exact .float x

theorem keyed_timing (timing : Timing) : Keyed timing.toJson := by
  refine .obj (by simp) ?_
  simp [keyed_seconds]

theorem keyed_usage (usage : Usage) : Keyed usage.toJson := by
  refine .obj (by simp) ?_
  simp [Keyed.int]

theorem keyed_behind (usage : Usage) (timing : Option Timing) :
    ∀ f ∈ usageField usage ++ timingField timing, Keyed f.2 := by
  cases timing <;> simp [usageField, timingField, keyed_usage, keyed_timing]

theorem reads_behind {front : Fields} (plain : Plain (.obj front)) (usage : Usage)
    (timing : Option Timing) (keys : front.map Prod.fst = ["id", "object", "created", "model", "choices"])
    (text : ∀ more, textIn service .piece (.obj (front ++ more)) = [])
    (error : ∀ more, errorIn (.obj (front ++ more)) = errorIn (.obj more)) :
    Reads service (.obj (front ++ (usageField usage ++ timingField timing))) [] none := by
  cases plain with
  | obj distinct plain =>
    have read : (Json.obj (front ++ (usageField usage ++ timingField timing))).reread =
        .obj (front ++ rereadFields (usageField usage ++ timingField timing)) := by
      rw [reread, rereadFields_append, rereadFields_same fun f hf => (plain f hf).reread]
    refine ⟨.obj ?_ fun f hf => ?_, ?_, ?_⟩
    · rw [List.map_append, keys]
      cases timing <;> simp [usageField, timingField]
    · obtain hf | hf := List.mem_append.1 hf
      · exact (plain f hf).keyed
      · exact keyed_behind usage timing f hf
    · rw [read, text]
    · rw [read, error]
      cases timing <;> simp [errorIn, usageField, timingField, rereadFields]

inductive Closing : Event → Prop
  | final (finish : FinishReason) (usage : Usage) (c : Completion) : Closing (.final finish usage c)
  | error (kind : ErrorKind) (message : String) : Closing (.error kind message)

theorem reads_end (texts : List String) (finish : FinishReason) (usage : Usage) (c : Completion) :
    Reads service (.obj (endPiece service h (texts.map .delta ++ [.final finish usage c]))) [] none := by
  cases service with
  | text =>
    have piece : endPiece .text h (texts.map .delta ++ [.final finish usage c]) =
        h.text "" (some finish.name) ++ (usageField usage ++ timingField none) := by
      rw [endPiece, lastFinal_concat]
      rfl
    rw [piece]
    exact reads_behind .text (plain_text h _ _) usage none rfl (fun more => textIn_text h more _ _ _)
      fun more => errorIn_fields h more _ _
  | chat =>
    have silent : Plain (.obj []) := .obj List.nodup_nil (List.forall_mem_nil _)
    rw [endPiece, lastFinal_concat]
    exact reads_behind .chat (plain_chat h silent _) usage c.timing rfl
      (fun more => textIn_chat h more _ _) fun more => errorIn_fields h more _ _

theorem pieceOf_delta (t : String) : (pieceOf service h (.delta t)).map Json.obj =
    if t = "" then none else some (fragment service h t) := by
  by_cases empty : t = "" <;> cases service <;>
    simp [pieceOf, Idiom.text, Idiom.chat, fragment, empty]

theorem pieces_deltas (texts : List String) :
    ((texts.map Event.delta).filterMap (pieceOf service h)).map Json.obj =
      (texts.filter (· ≠ "")).map (fragment service h) := by
  rw [List.map_filterMap, List.filterMap_map]
  induction texts with
  | nil => rfl
  | cons t texts ih =>
    rw [List.filterMap_cons, Function.comp_apply, pieceOf_delta, ih]
    by_cases empty : t = "" <;> simp [empty]

def sourceOf (texts : List String) (last : Event) : List Incoming :=
  (texts.map Event.delta ++ [last]).map .event

def valuesOf (service : Service) (h : Head) (texts : List String) (last : Json) : List Json :=
  opening service h ++ (texts.filter (· ≠ "")).map (fragment service h) ++ [last]

theorem chunks_valuesOf (texts : List String) {events : List Event} {fields : Fields} {close : Close}
    {last : Json} (pieces : events.filterMap (pieceOf service h) =
      (texts.map Event.delta).filterMap (pieceOf service h))
    (ends : close.chunks fields = [.data last, .done]) :
    (opening service h).map .data ++ ((events.filterMap (pieceOf service h)).map
      (fun v => .data (.obj v)) ++ close.chunks fields) =
        (valuesOf service h texts last).map .data ++ [.done] := by
  have deltas := congrArg (List.map Chunk.data) (pieces_deltas service h texts)
  rw [List.map_map] at deltas
  rw [pieces, ends, valuesOf, List.map_append, List.map_append, ← deltas]
  simp [Function.comp_def]

theorem closing_chunks (texts : List String) {last : Event} (closing : Closing last) : ∃ v,
    Reads service v [] ((refusal? last).map fun told => (told.2, told.1.name)) ∧
    (transmission service h none (sourceOf texts last)).chunks =
      (valuesOf service h texts v).map .data ++ [.done] := by
  have there (poll : Nat) : ¬GoneAt none poll := by
    intro gone
    obtain ⟨n, absent, -⟩ := gone
    cases absent
  have accepted : ∀ e ∈ texts.map Event.delta, refusal? e = none := by
    intro e he
    obtain ⟨t, -, rfl⟩ := List.mem_map.1 he
    rfl
  cases closing with
  | final finish usage c =>
    have reading : Reading none 0 (sourceOf texts (.final finish usage c))
        (texts.map .delta ++ [.final finish usage c]) .finished := by
      refine ⟨fun e he => ?_, fun i _ => there _, [], (List.append_nil _).symm, .finished⟩
      obtain he | he := List.mem_append.1 he
      · exact accepted e he
      · rw [List.mem_singleton.1 he]
        rfl
    have silent : pieceOf service h (.final finish usage c) = none := by cases service <;> rfl
    refine ⟨_, reads_end service h texts finish usage c, ?_⟩
    rw [(written_reading service h reading).chunks]
    exact chunks_valuesOf service h texts (by simp [silent]) rfl
  | error kind message =>
    have reading : Reading none 0 (sourceOf texts (.error kind message))
        (texts.map .delta) (.refused kind message) :=
      ⟨accepted, fun i _ => there _, _, List.map_append, .refused (there _)⟩
    refine ⟨_, reads_error service kind message, ?_⟩
    rw [(written_reading service h reading).chunks]
    exact chunks_valuesOf service h texts rfl rfl

section Values

variable {texts : List String} {last : Json} {error : Option (String × String)}

theorem keyed_valuesOf (ends : Reads service last [] error) :
    ∀ v ∈ valuesOf service h texts last, Keyed v := by
  intro v hv
  obtain sent | rfl := List.mem_append.1 hv |>.imp_right List.mem_singleton.1
  · obtain first | written := List.mem_append.1 sent
    · exact (reads_opening service h v first).keyed
    · obtain ⟨t, -, rfl⟩ := List.mem_map.1 written
      exact (reads_fragment service h t).keyed
  · exact ends.keyed

theorem texts_valuesOf (ends : Reads service last [] error) :
    (((valuesOf service h texts last).map reread).map (textIn service .piece)).filter (· ≠ []) =
      (texts.map String.toList).filter (· ≠ []) := by
  have first : (((opening service h).map reread).map (textIn service .piece)).filter (· ≠ []) = [] := by
    refine List.filter_eq_nil_iff.2 fun t ht => ?_
    rw [List.map_map] at ht
    obtain ⟨v, hv, rfl⟩ := List.mem_map.1 ht
    simp [(reads_opening service h v hv).text]
  have written : (((texts.filter (· ≠ "")).map (fragment service h)).map reread).map
      (textIn service .piece) = (texts.filter (· ≠ "")).map String.toList := by
    simp [(reads_fragment service h _).text]
  rw [valuesOf, List.map_append, List.map_append, List.map_append, List.map_append, written,
    List.filter_append, List.filter_append, first]
  simp [ends.text, List.filter_map, List.filter_filter, Function.comp_def]

theorem errors_valuesOf (ends : Reads service last [] error) :
    ((valuesOf service h texts last).map reread).filterMap errorIn = error.toList := by
  have first : (opening service h).filterMap (errorIn ∘ reread) = [] :=
    List.filterMap_eq_nil_iff.2 fun v hv => (reads_opening service h v hv).error
  have written : ((texts.filter (· ≠ "")).map (fragment service h)).filterMap (errorIn ∘ reread) =
      [] := by
    refine List.filterMap_eq_nil_iff.2 fun v hv => ?_
    obtain ⟨t, -, rfl⟩ := List.mem_map.1 hv
    exact (reads_fragment service h t).error
  rw [List.filterMap_map, valuesOf, List.filterMap_append, List.filterMap_append, first, written]
  cases error <;> simp [ends.error]

end Values

end Pieces

/-- Cut at its blank lines the stream of deltas and a last event falls into its chunks, each behind the
mark of data; no data has a control character, so none has a line break. The last data is the mark of
the end. All other is JSON, from which the texts of the deltas are read, but for empty ones, and the
message of an error. -/
theorem framing_lossless (service : Service) (h : Head) (texts : List String) {last : Event}
    (closing : Closing last) :
    let sent := (transmission service h none (sourceOf texts last)).chunks
    cutAtBlankLines (Chunk.wire sent) =
        sent.map (fun c => ("data: " ++ c.payload).toList) ++ [[]] ∧
      (∀ c ∈ sent, Printed c.payload.toList) ∧
      ∃ (payloads : List (List Char)) (values : List Json),
        sent.map (fun c => c.payload.toList) = payloads ++ ["[DONE]".toList] ∧
        payloads.map read? = values.map some ∧
        (values.map (textIn service .piece)).filter (· ≠ []) =
          (texts.map String.toList).filter (· ≠ []) ∧
        values.filterMap errorIn =
          ((refusal? last).map fun told => (told.2, told.1.name)).toList := by
  intro sent
  obtain ⟨v, ends, chunks⟩ := closing_chunks service h texts closing
  refine ⟨Chunk.cutAtBlankLines_wire sent, fun c _ => c.printed_payload,
    (valuesOf service h texts v).map write, (valuesOf service h texts v).map reread, ?_, ?_,
    texts_valuesOf service h ends, errors_valuesOf service h ends⟩
  · rw [show sent = _ from chunks]
    simp [Chunk.payload, Json.text, Function.comp_def]
  · rw [List.map_map, List.map_map]
    exact List.map_congr_left fun v hv => read?_write_keyed (keyed_valuesOf service h ends v hv)

theorem framing_lossless_refused : ∃ (payloads : List (List Char)) (values : List Json),
    (transmission .chat ⟨"chatcmpl-1", 7, "m"⟩ none (sourceOf ["a\n\ndata: ", "", "\"\\"]
      (.error .general "no\nmore"))).chunks.map (fun c => c.payload.toList) =
        payloads ++ ["[DONE]".toList] ∧
      payloads.map read? = values.map some ∧
      (values.map (textIn .chat .piece)).filter (· ≠ []) = ["a\n\ndata: ".toList, "\"\\".toList] ∧
      values.filterMap errorIn = [("no\nmore", "general")] := by
  obtain ⟨-, -, payloads, values, sent, read, texts, errors⟩ := framing_lossless .chat
    ⟨"chatcmpl-1", 7, "m"⟩ ["a\n\ndata: ", "", "\"\\"] (.error .general "no\nmore")
  exact ⟨payloads, values, sent, read, texts, errors⟩

end Http

end Completions
