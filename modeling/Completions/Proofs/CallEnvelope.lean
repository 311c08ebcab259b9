import Completions.Proofs.Balance
import Completions.Proofs.JsonText
import Completions.Proofs.Occurrence
import Completions.Tool.Mention
import Mathlib.Order.Bounds.Basic

/-! Which object of a text counts as its list of calls: of those around the first mention of the key
the one that begins last. Main statements: `listed_written` and `listed_ne_nil_iff`. -/

namespace Completions

namespace Text

theorem mem_placesAt {c : Char} {t : List Char} {i p : Nat} :
    p ∈ placesAt c i t ↔ ∃ q, p = i + q ∧ t[q]? = some c := by
  induction t generalizing i with
  | nil => simp [placesAt]
  | cons d t ih =>
    have split : (∃ q, p = i + q ∧ (d :: t)[q]? = some c) ↔
        (p = i ∧ d = c) ∨ ∃ q, p = i + 1 + q ∧ t[q]? = some c := by
      constructor
      · rintro ⟨_ | q, rfl, found⟩
        · exact .inl ⟨rfl, by simpa using found⟩
        · exact .inr ⟨q, by omega, by simpa using found⟩
      · rintro (⟨rfl, rfl⟩ | ⟨q, rfl, found⟩)
        · exact ⟨0, rfl, rfl⟩
        · exact ⟨q + 1, by omega, by simpa using found⟩
    rw [split, placesAt]
    by_cases here : d = c
    · simp [here, ih]
    · simp [here, ih]

theorem mem_places {c : Char} {t : List Char} {p : Nat} : p ∈ places c t ↔ t[p]? = some c := by
  simp [places, mem_placesAt]

theorem placesAt_ascending (c : Char) (i : Nat) (t : List Char) :
    (placesAt c i t).Pairwise (· < ·) := by
  induction t generalizing i with
  | nil => exact .nil
  | cons d t ih =>
    rw [placesAt]
    split
    · refine .cons (fun p hp => ?_) (ih (i + 1))
      obtain ⟨q, rfl, -⟩ := mem_placesAt.1 hp
      omega
    · exact ih (i + 1)

theorem findSome?_descending {α : Type} {l : List Nat} (falling : l.Pairwise (· > ·))
    {f : Nat → Option α} {a : α} :
    l.findSome? f = some a ↔ ∃ p, f p = some a ∧ IsGreatest {q | q ∈ l ∧ f q ≠ none} p := by
  induction falling with
  | nil => exact ⟨fun h => (by cases h), fun ⟨_, _, last⟩ => (by cases last.1.1)⟩
  | @cons n l below _ ih =>
    cases here : f n with
    | none =>
      have same : {q | q ∈ n :: l ∧ f q ≠ none} = {q | q ∈ l ∧ f q ≠ none} := by
        ext q
        refine and_congr_left fun some => ⟨fun hq => ?_, List.mem_cons_of_mem n⟩
        exact (List.mem_cons.1 hq).resolve_left fun eq => some (eq ▸ here)
      rw [List.findSome?_cons, here, same]
      exact ih
    | some b =>
      have greatest : IsGreatest {q | q ∈ n :: l ∧ f q ≠ none} n := by
        refine ⟨⟨List.mem_cons_self .., by simp [here]⟩, ?_⟩
        rintro q ⟨hq, -⟩
        rcases List.mem_cons.1 hq with rfl | hq
        · exact Nat.le_refl _
        · exact Nat.le_of_lt (below q hq)
      rw [List.findSome?_cons, here]
      constructor
      · rintro ⟨⟩
        exact ⟨n, here, greatest⟩
      · rintro ⟨p, found, last⟩
        rw [IsGreatest.unique last greatest, here] at found
        exact found

end Text

namespace Tool

structure Envelope (s : List Char) (raws : List Json) : Prop where
  opens : s.head? = some '\x7b'
  closes : s.getLast? = some '\x7d'
  read : ∃ fields, Json.read? s = some (.obj fields) ∧ Fields.get fields "tool_calls" = .arr raws

/-- An object with a list of calls stands at place `start` and reaches past place `mark`. -/
def ListsAt (text : List Char) (mark start : Nat) (raws : List Json) : Prop :=
  ∃ s, Envelope s raws ∧ Text.OccursAt s text start ∧ mark < start + s.length

/-- Of the objects with a list of calls around the first mention of the key, the one that begins
last. -/
structure Innermost (text : List Char) (mark start : Nat) (raws : List Json) : Prop where
  first : IsLeast {p | Text.OccursAt callsMark text p} mark
  lists : ListsAt text mark start raws
  last : IsGreatest {p | p < mark ∧ ∃ others, ListsAt text mark p others} start

section Blocks

variable {text s t : List Char} {mark start : Nat} {raws : List Json}

theorem closing_split {depth : Nat} {mode : Mode} (h : closing depth mode t = some s) :
    s <+: t ∧ s.getLast? = some '\x7d' := by
  induction t generalizing depth mode s with
  | nil => cases h
  | cons c t ih =>
    have later {depth : Nat} {mode : Mode} (h : (closing depth mode t).map (c :: ·) = some s) :
        s <+: c :: t ∧ s.getLast? = some '\x7d' := by
      obtain ⟨s, rest, rfl⟩ := Option.map_eq_some_iff.1 h
      obtain ⟨begins, ends⟩ := ih rest
      refine ⟨(List.prefix_cons_inj c).2 begins, ?_⟩
      rw [List.getLast?_cons, ends]
      rfl
    cases mode with
    | escaped => exact later h
    | inside =>
      rw [closing] at h
      split_ifs at h
      all_goals exact later h
    | outside =>
      rw [closing] at h
      split_ifs at h with quote opening ending shallow
      · exact later h
      · exact later h
      · obtain rfl := Option.some.inj h
        exact ⟨⟨t, rfl⟩, congrArg some ending⟩
      · exact later h
      · exact later h

theorem object?_split (h : object? t = some s) :
    s <+: t ∧ s.head? = some '\x7b' ∧ s.getLast? = some '\x7d' := by
  cases t with
  | nil => cases h
  | cons c t =>
    rw [object?] at h
    split_ifs at h with brace
    obtain ⟨s, closed, rfl⟩ := Option.map_eq_some_iff.1 h
    obtain ⟨begins, ends⟩ := closing_split closed
    refine ⟨(List.prefix_cons_inj c).2 begins, congrArg some brace, ?_⟩
    rw [List.getLast?_cons, ends]
    rfl

theorem Envelope.object? (envelope : Envelope s raws) (after : List Char) :
    object? (s ++ after) = some s := by
  obtain ⟨fields, read, -⟩ := envelope.read
  exact object?_of_read envelope.opens envelope.closes read after

theorem listAt?_eq_some_iff : listAt? text mark start = some raws ↔ ListsAt text mark start raws := by
  simp only [listAt?, Option.bind_eq_bind, Option.bind_eq_some_iff]
  constructor
  · rintro ⟨s, block, h⟩
    obtain ⟨occurs, opens, closes⟩ := object?_split block
    split_ifs at h with reaches
    split at h
    · next fields read =>
      split at h
      · next list =>
        obtain rfl := Option.some.inj h
        exact ⟨s, ⟨opens, closes, fields, read, list⟩, occurs, reaches⟩
      · cases h
    · cases h
  · rintro ⟨s, envelope, ⟨after, occurs⟩, reaches⟩
    obtain ⟨fields, read, list⟩ := envelope.read
    refine ⟨s, ?_, ?_⟩
    · rw [← occurs]
      exact envelope.object? after
    · simp only [if_pos reaches, read, list]

theorem ListsAt.brace (lists : ListsAt text mark start raws) : text[start]? = some '\x7b' := by
  obtain ⟨s, envelope, ⟨after, occurs⟩, -⟩ := lists
  obtain ⟨t, rfl⟩ := List.head?_eq_some_iff.1 envelope.opens
  have front : (text.drop start).head? = some '\x7b' := by
    rw [← occurs]
    rfl
  rwa [List.head?_drop] at front

/-- The places tried for the list of calls are those of braces before the mark; no list is missed
by that. -/
theorem candidates_eq (text : List Char) (mark : Nat) :
    {p | p ∈ (Text.places '\x7b' (text.take mark)).reverse ∧ listAt? text mark p ≠ none} =
      {p | p < mark ∧ ∃ raws, ListsAt text mark p raws} := by
  ext p
  constructor
  · rintro ⟨place, some⟩
    obtain ⟨raws, lists⟩ := Option.ne_none_iff_exists'.1 some
    have brace := Text.mem_places.1 (List.mem_reverse.1 place)
    have inside := (List.getElem?_eq_some_iff.1 brace).1
    rw [List.length_take] at inside
    exact ⟨by omega, raws, listAt?_eq_some_iff.1 lists⟩
  · rintro ⟨before, raws, lists⟩
    refine ⟨List.mem_reverse.2 (Text.mem_places.2 ?_), ?_⟩
    · rw [List.getElem?_take_of_lt before]
      exact lists.brace
    · rw [listAt?_eq_some_iff.2 lists]
      exact Option.some_ne_none raws

theorem list?_eq_some_iff :
    list? text = some raws ↔ ∃ mark start, Innermost text mark start raws := by
  have marked : callsMark ≠ [] := by decide
  have falling (mark : Nat) : (Text.places '\x7b' (text.take mark)).reverse.Pairwise (· > ·) :=
    List.pairwise_reverse.2 (Text.placesAt_ascending ..)
  simp only [list?, Option.bind_eq_bind, Option.bind_eq_some_iff, Text.find_eq_some_iff marked,
    Text.findSome?_descending (falling _), candidates_eq, listAt?_eq_some_iff]
  constructor
  · rintro ⟨mark, first, start, lists, last⟩
    exact ⟨mark, start, first, lists, last⟩
  · rintro ⟨mark, start, first, lists, last⟩
    exact ⟨mark, first, start, lists, last⟩

theorem listed_innermost (stamp : Stamp) (innermost : Innermost text mark start raws) :
    listed stamp text = raws.filterMap fun raw => (Call.ofJson stamp raw).toOption := by
  rw [listed, list?_eq_some_iff.2 ⟨mark, start, innermost⟩, Option.getD_some]

end Blocks

section Written

variable {raws : List Json}

def envelopeOf (raws : List Json) : List Char := (Json.obj [("tool_calls", .arr raws)]).write

theorem envelopeOf_eq (raws : List Json) :
    envelopeOf raws = '\x7b' :: (callsMark ++ ':' :: ' ' :: ((Json.arr raws).write ++ ['\x7d'])) := by
  have key : Json.writeString "tool_calls".toList = callsMark := by decide
  simp only [envelopeOf, Json.write, Json.writeFields, key, List.append_assoc, List.cons_append]

theorem envelopeOf_envelope (plain : ∀ raw ∈ raws, raw.Plain) : Envelope (envelopeOf raws) raws := by
  have object : Json.Plain (.obj [("tool_calls", .arr raws)]) :=
    .obj (List.nodup_singleton _) (by simpa using Json.Plain.arr plain)
  refine ⟨rfl, ?_, [("tool_calls", .arr raws)], Json.read?_write object, rfl⟩
  rw [envelopeOf, Json.write, ← List.cons_append, List.getLast?_concat]

theorem envelopeOf_first {before : List Char} (fresh : ¬callsMark <:+: before) (raws : List Json)
    (after : List Char) :
    IsLeast {p | Text.OccursAt callsMark (before ++ (envelopeOf raws ++ after)) p}
      (before.length + 1) := by
  rw [envelopeOf_eq]
  exact Text.isLeast_behind (by decide) fresh ((List.prefix_append ..).trans (List.prefix_append ..))

theorem envelopeOf_innermost {before : List Char} (fresh : ¬callsMark <:+: before)
    (plain : ∀ raw ∈ raws, raw.Plain) (after : List Char) :
    Innermost (before ++ (envelopeOf raws ++ after)) (before.length + 1) before.length raws := by
  have lists : ListsAt (before ++ (envelopeOf raws ++ after)) (before.length + 1) before.length
      raws := by
    refine ⟨envelopeOf raws, envelopeOf_envelope plain, ⟨after, ?_⟩, ?_⟩
    · rw [List.drop_left]
    · rw [envelopeOf_eq, List.length_cons, List.length_append, List.length_cons]
      omega
  exact ⟨envelopeOf_first fresh raws after, lists, ⟨Nat.lt_succ_self _, raws, lists⟩,
    fun p hp => Nat.le_of_lt_succ hp.1⟩

/-- A written list of calls is found whole where the key is not mentioned before it, whatever else
stands around it: of its entries those that can be read, in order. -/
theorem listed_written (stamp : Stamp) (before : List Char) (raws : List Json) (after : List Char)
    (fresh : ¬callsMark <:+: before) (plain : ∀ raw ∈ raws, raw.Plain) :
    listed stamp (before ++ (Json.obj [("tool_calls", .arr raws)]).write ++ after) =
      raws.filterMap fun raw => (Call.ofJson stamp raw).toOption := by
  rw [List.append_assoc]
  exact listed_innermost stamp (envelopeOf_innermost fresh plain after)

def namedCall : Json := .obj [("function", .obj [("name", .str "f")])]

theorem namedCall_plain : namedCall.Plain :=
  .obj (List.nodup_singleton _) (List.forall_mem_singleton.2
    (.obj (List.nodup_singleton _) (List.forall_mem_singleton.2 (.str "f"))))

theorem listed_written_between :
    let raws := [Json.int 3, namedCall]
    (¬callsMark <:+: ['\x7b', '"', ' ']) ∧ (∀ raw ∈ raws, raw.Plain) ∧
      listed ⟨0, 0, ""⟩
          (['\x7b', '"', ' '] ++ (Json.obj [("tool_calls", .arr raws)]).write ++ ['\x7d', '"']) =
        [{ id := "call_f_0", name := "f" }] := by
  intro raws
  have fresh : ¬callsMark <:+: ['\x7b', '"', ' '] := by decide
  have plain : ∀ raw ∈ raws, raw.Plain :=
    List.forall_mem_cons.2 ⟨.int 3, List.forall_mem_singleton.2 namedCall_plain⟩
  exact ⟨fresh, plain, listed_written ⟨0, 0, ""⟩ _ raws _ fresh plain⟩

end Written

theorem readable_iff {stamp : Stamp} {raws : List Json} :
    (raws.filterMap fun raw => (Call.ofJson stamp raw).toOption) ≠ [] ↔
      ∃ raw ∈ raws, ∃ call, Call.ofJson stamp raw = .ok call := by
  have readable (raw : Json) : (Call.ofJson stamp raw).toOption ≠ none ↔
      ∃ call, Call.ofJson stamp raw = .ok call := by
    cases Call.ofJson stamp raw with
    | error flaw => exact ⟨fun some => absurd rfl some, fun ⟨_, same⟩ => (by cases same)⟩
    | ok call => exact ⟨fun _ => ⟨call, rfl⟩, fun _ => Option.some_ne_none call⟩
  rw [Ne, List.filterMap_eq_nil_iff]
  push Not
  exact exists_congr fun raw => and_congr_right fun _ => readable raw

/-- Calls are found exactly where the innermost list around the first mention of the key has an entry
that can be read. A list elsewhere in the text is not looked for. -/
theorem listed_ne_nil_iff (stamp : Stamp) (text : List Char) :
    listed stamp text ≠ [] ↔ ∃ mark start raws, Innermost text mark start raws ∧
      ∃ raw ∈ raws, ∃ call, Call.ofJson stamp raw = .ok call := by
  constructor
  · intro found
    cases list : list? text with
    | none =>
      rw [listed, list] at found
      exact absurd rfl found
    | some raws =>
      obtain ⟨mark, start, innermost⟩ := list?_eq_some_iff.1 list
      rw [listed_innermost stamp innermost] at found
      exact ⟨mark, start, raws, innermost, readable_iff.1 found⟩
  · rintro ⟨mark, start, raws, innermost, readable⟩
    rw [listed_innermost stamp innermost]
    exact readable_iff.2 readable

def mentionedBefore : List Char :=
  callsMark ++ ' ' :: envelopeOf [namedCall]

theorem mentionedBefore_missed :
    (∃ s raws, s <:+: mentionedBefore ∧ Envelope s raws ∧
        ∃ raw ∈ raws, ∃ call, Call.ofJson ⟨0, 0, ""⟩ raw = .ok call) ∧
      listed ⟨0, 0, ""⟩ mentionedBefore = [] := by
  have within : envelopeOf [namedCall] <:+: mentionedBefore :=
    ⟨callsMark ++ [' '], [], by simp [mentionedBefore]⟩
  have readable : Call.ofJson ⟨0, 0, ""⟩ namedCall = .ok { id := "call_f_0", name := "f" } := rfl
  exact ⟨⟨_, _, within, envelopeOf_envelope (List.forall_mem_singleton.2 namedCall_plain), _,
    List.mem_singleton_self _, _, readable⟩, rfl⟩

end Tool

end Completions
