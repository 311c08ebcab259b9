import Completions.Proofs.BodyReading
import Completions.Rehearsal.Session

/-! What a null among the fields of a body says: as much as no field, except where it stands for the
switch of the template engine, which is on by default and which a null turns off. Main statement:
`nulls_neutral_iff`. -/

namespace Completions

namespace Fields

def withoutNulls (body : Fields) : Fields := body.filter fun f => !f.2.isNull

section WithoutNulls

variable {body : Fields} (distinct : (body.map Prod.fst).Nodup)
include distinct

theorem get?_withoutNulls (key : String) :
    body.withoutNulls.get? key = (body.get? key).filter (!·.isNull) := by
  induction body with
  | nil => rfl
  | cons f rest ih =>
    obtain ⟨k, v⟩ := f
    obtain ⟨absent, distinct⟩ := List.nodup_cons.1 distinct
    have later := ih distinct
    cases null : v.isNull with
    | true =>
      have dropped : withoutNulls ((k, v) :: rest) = withoutNulls rest := by
        simp [withoutNulls, null]
      rw [dropped, later, get?_cons]
      by_cases here : key = k
      · rw [if_pos here, here, get?_absent absent]
        simp [Option.filter_some, null]
      · rw [if_neg here]
    | false =>
      have kept : withoutNulls ((k, v) :: rest) = (k, v) :: withoutNulls rest := by
        simp [withoutNulls, null]
      rw [kept, get?_cons, get?_cons]
      by_cases here : key = k
      · simp [Option.filter_some, here, null]
      · rw [if_neg here, if_neg here, later]

theorem getD_withoutNulls (key : String) (default : Json) :
    (body.withoutNulls.get? key).getD default = Request.orElse (body.get key) default := by
  rw [get, get?_withoutNulls distinct]
  cases body.get? key with
  | none => rfl
  | some v => cases v <;> rfl

theorem get_withoutNulls (key : String) : body.withoutNulls.get key = body.get key := by
  rw [get, getD_withoutNulls distinct]
  cases body.get key <;> rfl

end WithoutNulls

end Fields

namespace Request

open Fields

theorem orElse_null (w : Json) : orElse .null w = w := rfl

theorem orElse_of_ne {v : Json} (value : v ≠ .null) (w : Json) : orElse v w = v := by
  cases v with
  | null => contradiction
  | _ => rfl

theorem truthy_orElse {default : Json} (off : default.truthy = false) (body : Fields) (key : String) :
    (orElse (body.get key) default).truthy = ((body.get? key).getD default).truthy := by
  rw [Fields.get]
  cases body.get? key with
  | none => rfl
  | some v =>
    cases v with
    | null => exact off
    | _ => rfl

/-- A null turns the template engine off that would be on without nulls: the first name of its switch
is null and the second is absent, null or on; or the first is absent and the second is null. -/
def NullTurnsOff (body : Fields) : Prop :=
  (body.get? "use_jinja" = some .null ∧
    (orElse (body.get "use_template_engine") (.bool true)).truthy = true) ∨
  (body.get? "use_jinja" = none ∧ body.get? "use_template_engine" = some .null)

def withEngine (r : Request) (on : Bool) : Request := { r with useTemplateEngine := on }

theorem withEngine_eq_self_iff {r : Request} {on : Bool} :
    r.withEngine on = r ↔ on = r.useTemplateEngine :=
  ⟨fun same => congrArg useTemplateEngine same, fun same => same ▸ rfl⟩

section Nulls

variable {body : Fields} (distinct : (body.map Prod.fst).Nodup)
include distinct

theorem asksEngine_withoutNulls :
    body.withoutNulls.asksEngine = body.asksEngine ↔ ¬NullTurnsOff body := by
  have given : body.withoutNulls.asksEngine = (orElse (body.get "use_jinja")
      (orElse (body.get "use_template_engine") (.bool true))).truthy := by
    rw [asksEngine, getD_withoutNulls distinct, getD_withoutNulls distinct]
  rw [given, asksEngine, NullTurnsOff, Fields.get, Fields.get]
  cases body.get? "use_jinja" with
  | none =>
    -- Only here does the second name count while the nulls are in place.
    rw [Option.getD_none, orElse_null]
    cases body.get? "use_template_engine" with
    | none => simp [orElse_null]
    | some v =>
      by_cases null : v = .null
      · simp [null, orElse_null, Json.truthy]
      · simp [null, orElse_of_ne null]
  | some u =>
    by_cases null : u = .null
    · simp [null, orElse_null, Json.truthy]
    · simp [null, orElse_of_ne null]

theorem withSwitches_withoutNulls (r : Request) : r.withSwitches body.withoutNulls =
    (r.withSwitches body).withEngine body.withoutNulls.asksEngine := by
  have off : (Json.bool false).truthy = false := rfl
  simp only [withSwitches, withEngine, asksStream, getD_withoutNulls distinct, truthy_orElse off]

/-- Without its nulls a body that has no key twice is refused with the same flaw or read as the same
request, up to the switch of the template engine; and that is the same exactly when no null turns it
off. -/
theorem nulls_neutral_iff (stamp : Stamp) :
    (∀ flaw, ofJson stamp false (.obj body.withoutNulls) = .error flaw ↔
      ofJson stamp false (.obj body) = .error flaw) ∧
    ∀ r, ofJson stamp false (.obj body) = .ok r →
      ∃ r', ofJson stamp false (.obj body.withoutNulls) = .ok r' ∧
        r'.withEngine r.useTemplateEngine = r ∧ (r' = r ↔ ¬NullTurnsOff body) := by
  have alike : AlikeBesides switches body body.withoutNulls :=
    fun key _ => (get_withoutNulls distinct key).symm
  have read := ofFields_alike alike stamp
  have own := ofFields_switched stamp body
  rw [ofJson, ofJson, read]
  cases outcome : ofFields stamp false body with
  | error flaw => exact ⟨fun _ => Iff.rfl, fun _ fails => (by cases fails)⟩
  | ok r =>
    rw [outcome] at own
    have own : r.withSwitches body = r := Except.ok.inj own
    have engine : r.useTemplateEngine = body.asksEngine :=
      (congrArg useTemplateEngine own).symm
    have turned : r.withSwitches body.withoutNulls = r.withEngine body.withoutNulls.asksEngine := by
      rw [withSwitches_withoutNulls distinct, own]
    refine ⟨fun _ => ⟨fun fails => (by cases fails), fun fails => (by cases fails)⟩, ?_⟩
    rintro _ ⟨⟩
    refine ⟨r.withEngine body.withoutNulls.asksEngine, congrArg Except.ok turned, rfl, ?_⟩
    rw [withEngine_eq_self_iff, engine, asksEngine_withoutNulls distinct]

end Nulls

def unsetFields : Fields :=
  [("prompt", .str "x"), ("temperature", .null), ("top_k", .null), ("stop", .null),
   ("use_jinja", .null), ("use_template_engine", .bool false)]

theorem nulls_neutral_iff_unset :
    (unsetFields.map Prod.fst).Nodup ∧ ∃ r,
      ofJson Rehearsal.stamp false (.obj unsetFields) = .ok r ∧
      ofJson Rehearsal.stamp false (.obj unsetFields.withoutNulls) = .ok r := by
  have distinct : (unsetFields.map Prod.fst).Nodup := by decide
  have kept : ¬NullTurnsOff unsetFields := by
    rintro (⟨-, on⟩ | ⟨absent, -⟩)
    · cases on
    · cases absent
  have sampled : samplingOf unsetFields = .ok {} := samplingOf_unset rfl rfl rfl rfl rfl
  have read : ofJson Rehearsal.stamp false (.obj unsetFields) =
      .ok { prompt := some (.text "x"), useTemplateEngine := false } := by
    rw [ofJson, ofFields, sampled]
    rfl
  obtain ⟨r, again, -, same⟩ := (nulls_neutral_iff distinct Rehearsal.stamp).2 _ read
  exact ⟨distinct, _, read, same.2 kept ▸ again⟩

/-- A null as the switch of the template engine turns it off, where no switch leaves it on. -/
theorem null_turns_engine_off :
    let body : Fields := [("prompt", .str "x"), ("use_jinja", .null)]
    (body.map Prod.fst).Nodup ∧ ∃ r r',
      ofJson Rehearsal.stamp false (.obj body) = .ok r ∧
      ofJson Rehearsal.stamp false (.obj body.withoutNulls) = .ok r' ∧
      r.useTemplateEngine = false ∧ r'.useTemplateEngine = true := by
  intro body
  have sampled : samplingOf body = .ok {} := samplingOf_unset rfl rfl rfl rfl rfl
  have sampled' : samplingOf body.withoutNulls = .ok {} := samplingOf_unset rfl rfl rfl rfl rfl
  refine ⟨by decide, { prompt := some (.text "x"), useTemplateEngine := false },
    { prompt := some (.text "x") }, ?_, ?_, rfl, rfl⟩
  · rw [ofJson, ofFields, sampled]
    rfl
  · rw [ofJson, ofFields, sampled']
    rfl

end Request

end Completions
