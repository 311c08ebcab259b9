import Completions.Proofs.RunCourse

/-! What a run takes into the context of the model. The context is a tape: it is cleared once, then
the prompt is written in slices and the sampled tokens one by one, each where the last has ended.
Main statement: `tape_discipline`. -/

namespace Completions

variable {σ α β : Type}

def Deed.ids : Deed → List Int
  | .decode ids _ _ => ids
  | _ => []

def Deed.sampled? : Deed → Option Int
  | .sample _ _ _ (.ok token) => some token
  | _ => none

def taken (ds : List Deed) : List Int := ds.flatMap Deed.ids

def sampledIn (ds : List Deed) : List Int := ds.filterMap Deed.sampled?

@[simp] theorem taken_append (ds es : List Deed) : taken (ds ++ es) = taken ds ++ taken es :=
  List.flatMap_append

@[simp] theorem sampledIn_append (ds es : List Deed) :
    sampledIn (ds ++ es) = sampledIn ds ++ sampledIn es := List.filterMap_append

theorem taken_eq_nil {ds : List Deed} (h : ∀ d ∈ ds, d.kind ≠ .decode) : taken ds = [] := by
  refine List.flatMap_eq_nil_iff.2 fun d hd => ?_
  cases d with
  | decode ids past outcome => exact absurd rfl (h _ hd)
  | _ => rfl

theorem sampledIn_eq_nil {ds : List Deed} (h : ∀ d ∈ ds, d.kind ≠ .sample) : sampledIn ds = [] := by
  refine List.filterMap_eq_nil_iff.2 fun d hd => ?_
  cases d with
  | sample params grammar schema outcome => exact absurd rfl (h _ hd)
  | _ => rfl

def Intact (ds : List Deed) : Prop :=
  ∀ ids past outcome, Deed.decode ids past outcome ∈ ds → outcome = .ok true

/-- Each of some deeds is as `P` wants it to be after the deeds before it. -/
def Each (P : List Deed → Deed → Prop) (before ds : List Deed) : Prop :=
  ∀ es d fs, ds = es ++ d :: fs → P (before ++ es) d

theorem each_nil (P : List Deed → Deed → Prop) (before : List Deed) : Each P before [] := by
  intro es d fs h
  simp at h

theorem each_cons {P : List Deed → Deed → Prop} {before ds : List Deed} {d : Deed} (hd : P before d)
    (h : Each P (before ++ [d]) ds) : Each P before (d :: ds) := by
  intro es e fs split
  cases es with
  | nil =>
    obtain ⟨rfl, -⟩ := List.cons.inj split
    rwa [List.append_nil]
  | cons d' es =>
    obtain ⟨rfl, rest⟩ := List.cons.inj split
    rw [List.append_cons]
    exact h es e fs rest

theorem Each.append {P : List Deed → Deed → Prop} {before ds es : List Deed} (h : Each P before ds)
    (h' : Each P (before ++ ds) es) : Each P before (ds ++ es) := by
  intro fs d gs split
  rcases List.append_eq_append_iff.1 split with ⟨ms, rfl, rfl⟩ | ⟨ms, rfl, tail⟩
  · rw [← List.append_assoc]
    exact h' ms d gs rfl
  · cases ms with
    | nil =>
      rw [List.append_nil] at h'
      simpa using h' [] d gs tail.symm
    | cons e ms =>
      obtain ⟨rfl, -⟩ := List.cons.inj tail
      exact h fs d ms rfl

/-- What a run is to write on its tape. -/
structure Plan where
  batch : Nat
  context : Int
  prompt : List Int

/-- The end of the tape and the prompt are those the backend has told. -/
structure Plan.Told (prompt : Prompt) (plan : Plan) (ds : List Deed) : Prop where
  context : Deed.context (.ok plan.context) ∈ ds
  prompt : Generation.PromptRead prompt (tokenizations ds) (.ok plan.prompt)

theorem Plan.Told.append {prompt : Prompt} {plan : Plan} {ds es : List Deed}
    (h : plan.Told prompt ds) (late : ∀ d ∈ es, d.kind ≠ .tokenize) : plan.Told prompt (ds ++ es) where
  context := List.mem_append_left _ h.context
  prompt := by
    rw [tokenizations_append, tokenizations_eq_nil late, List.append_nil]
    exact h.prompt

/-- Tokens are taken in where the tape has got to, within its end: those of the prompt as many at a
time as there may be, those that were sampled one at a time. -/
structure Plan.Continues (plan : Plan) (before : List Deed) (ids : List Int) (past : Nat) :
    Prop where
  intact : Intact before
  past_eq : past = (taken before).length
  next : taken before ++ ids <+: plan.prompt ++ sampledIn before
  inside : ((past + ids.length : Nat) : Int) ≤ plan.context
  slice : past < plan.prompt.length → ids = (plan.prompt.drop past).take plan.batch
  single : plan.prompt.length ≤ past → ids.length = 1

def Plan.Allows (plan : Plan) (before : List Deed) : Deed → Prop
  | .decode ids past _ => plan.Continues before ids past
  | .sample _ _ _ _ => Intact before ∧ taken before = plan.prompt ++ sampledIn before
  | _ => True

/-- A decode that has failed is what the run has failed with. -/
def Accounts (ds : List Deed) (r : Except Fault α) : Prop :=
  ∀ ids past outcome, Deed.decode ids past outcome ∈ ds → outcome ≠ .ok true →
    ∃ f, r = .error f ∧ (outcome = .ok false → f.kind = .inferenceFailure) ∧
      ∀ g, outcome = .error g → f = g

theorem Accounts.intact {ds : List Deed} {a : α} (h : Accounts ds (.ok a)) : Intact ds := by
  refine fun ids past outcome hd => Classical.byContradiction fun broken => ?_
  obtain ⟨f, none, -⟩ := h ids past outcome hd broken
  cases none

theorem Intact.accounts {ds : List Deed} (h : Intact ds) (r : Except Fault α) : Accounts ds r :=
  fun ids past outcome hd broken => absurd (h ids past outcome hd) broken

theorem Intact.append {ds es : List Deed} (h : Intact ds) (h' : Intact es) : Intact (ds ++ es) :=
  fun ids past outcome hd =>
    (List.mem_append.1 hd).elim (h ids past outcome) (h' ids past outcome)

theorem Accounts.append {ds es : List Deed} {a : α} {r : Except Fault β}
    (h : Accounts ds (.ok a)) (h' : Accounts es r) : Accounts (ds ++ es) r := by
  intro ids past outcome hd broken
  rcases List.mem_append.1 hd with hd | hd
  · exact absurd (h.intact ids past outcome hd) broken
  · exact h' ids past outcome hd broken

theorem Accounts.map {ds : List Deed} {r : Except Fault α} (h : Accounts ds r) (f : α → β) :
    Accounts ds (r.map f) := by
  intro ids past outcome hd broken
  obtain ⟨g, rfl, blamed⟩ := h ids past outcome hd broken
  exact ⟨g, rfl, blamed⟩

theorem Accounts.fault {ds : List Deed} {f : Fault} (h : Accounts ds (.error f : Except Fault α))
    (β : Type) : Accounts ds (.error f : Except Fault β) := by
  intro ids past outcome hd broken
  obtain ⟨g, same, blamed⟩ := h ids past outcome hd broken
  obtain rfl := Except.error.inj same
  exact ⟨_, rfl, blamed⟩

/-- Deeds that leave the tape alone and take no token. -/
def Neutral (ds : List Deed) : Prop := ∀ d ∈ ds, d.kind ≠ .decode ∧ d.kind ≠ .sample

namespace Neutral

variable {ds : List Deed}

theorem of_kinds {ks : List Deed.Kind} (kinds : ∀ d ∈ ds, d.kind ∈ ks) (decode : .decode ∉ ks)
    (sample : .sample ∉ ks) : Neutral ds :=
  fun d hd => ⟨kind_ne kinds decode d hd, kind_ne kinds sample d hd⟩

theorem taken_eq (h : Neutral ds) : taken ds = [] := taken_eq_nil fun d hd => (h d hd).1

theorem sampledIn_eq (h : Neutral ds) : sampledIn ds = [] := sampledIn_eq_nil fun d hd => (h d hd).2

theorem append {es : List Deed} (h : Neutral ds) (h' : Neutral es) : Neutral (ds ++ es) :=
  fun d hd => (List.mem_append.1 hd).elim (h d) (h' d)

theorem intact (h : Neutral ds) : Intact ds := fun _ _ _ hd => absurd rfl (h _ hd).1

theorem each (h : Neutral ds) (plan : Plan) (before : List Deed) : Each plan.Allows before ds := by
  rintro es d fs rfl
  have hd := h d (by simp)
  cases d with
  | decode ids past outcome => exact absurd rfl hd.1
  | sample params grammar schema outcome => exact absurd rfl hd.2
  | _ => trivial

end Neutral

structure Taped (plan : Plan) (before ds : List Deed) (r : Except Fault α) : Prop where
  each : Each plan.Allows before ds
  accounts : Accounts ds r

theorem Taped.append {plan : Plan} {before ds es : List Deed} {a : α} {r : Except Fault β}
    (h : Taped plan before ds (.ok a)) (h' : Taped plan (before ++ ds) es r) :
    Taped plan before (ds ++ es) r :=
  ⟨h.each.append h'.each, h.accounts.append h'.accounts⟩

theorem Taped.fault {plan : Plan} {before ds : List Deed} {f : Fault}
    (h : Taped plan before ds (.error f : Except Fault α)) (β : Type) :
    Taped plan before ds (.error f : Except Fault β) :=
  ⟨h.each, h.accounts.fault β⟩

theorem Neutral.taped {ds : List Deed} (h : Neutral ds) (plan : Plan) (before : List Deed)
    (r : Except Fault α) : Taped plan before ds r :=
  ⟨h.each plan before, h.intact.accounts r⟩

namespace Generation

/-- The tape holds the prompt and the tokens of `p`. -/
structure Written (plan : Plan) (before : List Deed) (p : Progress) : Prop where
  intact : Intact before
  taken : taken before = plan.prompt ++ p.tokens.reverse
  sampled : sampledIn before = p.tokens.reverse
  past : p.past = plan.prompt.length + p.tokens.length

variable {t : Task σ} {p q : Progress} {plan : Plan} {before deeds : List Deed}
  {endToken : Option Int} {calm : Prop}

theorem Written.past_eq (h : Written plan before p) : p.past = (Completions.taken before).length := by
  rw [h.past, h.taken, List.length_append, List.length_reverse]

theorem Written.neutral (h : Written plan before p) (neutral : Neutral deeds)
    (tokens : q.tokens = p.tokens) (past : q.past = p.past) : Written plan (before ++ deeds) q where
  intact := h.intact.append neutral.intact
  taken := by rw [taken_append, neutral.taken_eq, List.append_nil, tokens, h.taken]
  sampled := by rw [sampledIn_append, neutral.sampledIn_eq, List.append_nil, tokens, h.sampled]
  past := by rw [past, tokens, h.past]

theorem Written.allows_sample (h : Written plan before p) (outcome : Except Fault Int) :
    plan.Allows before (t.sampled outcome) :=
  ⟨h.intact, by rw [h.sampled, h.taken]⟩

theorem Written.allows_decode (h : Written plan before p) (room : (p.past : Int) < plan.context)
    (token : Int) (piece : Except Fault String) (outcome : Except Fault Bool) :
    plan.Allows (before ++ [t.sampled (.ok token)] ++ [.piece token piece])
      (.decode [token] p.past outcome) where
  intact := by
    refine (h.intact.append ?_).append ?_ <;> intro ids past outcome hd <;>
      cases List.mem_singleton.1 hd
  past_eq := by
    rw [h.past_eq, taken_append, taken_append]
    simp [Completions.taken, Deed.ids, Task.sampled]
  next := by
    have same : Completions.taken (before ++ [t.sampled (.ok token)] ++ [.piece token piece]) ++
        [token] = plan.prompt ++
          sampledIn (before ++ [t.sampled (.ok token)] ++ [.piece token piece]) := by
      rw [taken_append, taken_append, sampledIn_append, sampledIn_append, h.taken, h.sampled]
      simp [Completions.taken, sampledIn, Deed.ids, Deed.sampled?, Task.sampled]
    exact ⟨[], by rw [List.append_nil, same]⟩
  inside := by
    rw [List.length_singleton]
    omega
  slice early := by
    have := h.past
    omega
  single _ := rfl

theorem advanced_taped (h : Written plan before p) (room : (p.past : Int) < plan.context)
    {r : Except Fault (Int × Progress)} (advanced : Advanced t p deeds r) :
    Taped plan before deeds r := by
  have first {token : Int} {piece : Except Fault String} {rest : List Deed}
      (hr : Each plan.Allows (before ++ [t.sampled (.ok token)] ++ [.piece token piece]) rest) :
      Each plan.Allows before (t.sampled (.ok token) :: .piece token piece :: rest) :=
    each_cons (h.allows_sample _) (each_cons trivial hr)
  have third {token : Int} {piece : String} {outcome : Except Fault Bool} :
      Each plan.Allows before
        [t.sampled (.ok token), .piece token (.ok piece), .decode [token] p.past outcome] :=
    first (each_cons (h.allows_decode room token _ outcome) (each_nil _ _))
  cases advanced with
  | unsampled f =>
    refine ⟨each_cons (h.allows_sample _) (each_nil _ _), Intact.accounts ?_ _⟩
    simp [Intact, Task.sampled]
  | unread token f =>
    refine ⟨first (each_nil _ _), Intact.accounts ?_ _⟩
    simp [Intact, Task.sampled]
  | broken token piece f =>
    refine ⟨third, fun ids past outcome hd _ => ⟨f, rfl, ?_⟩⟩
    simp [Task.sampled] at hd
    simp [hd]
  | refused token piece =>
    refine ⟨third, fun ids past outcome hd _ => ⟨_, rfl, fun _ => rfl, ?_⟩⟩
    simp [Task.sampled] at hd
    simp [hd]
  | taken token piece =>
    refine ⟨third, Intact.accounts ?_ _⟩
    simp [Intact, Task.sampled]

theorem advanced_written (h : Written plan before p) {token : Int}
    (advanced : Advanced t p deeds (.ok (token, q))) : Written plan (before ++ deeds) q := by
  cases advanced with
  | taken token piece =>
    refine ⟨h.intact.append (by simp [Intact, Task.sampled]), ?_, ?_, ?_⟩
    · rw [taken_append, h.taken]
      simp [Completions.taken, Deed.ids, Task.sampled, Progress.extend]
    · rw [sampledIn_append, h.sampled]
      simp [sampledIn, Deed.sampled?, Task.sampled, Progress.extend]
    · simp only [Progress.extend, List.length_cons, h.past]
      omega

theorem tells_neutral (h : ∀ d ∈ deeds, d.kind = .tell) : Neutral deeds := fun d hd => by
  simp [h d hd]

theorem room_of_endingAfter {context token : Int} {past : Nat}
    (h : endingAfter t endToken context.toNat token past = none) : (past : Int) < context := by
  unfold endingAfter at h
  split at h
  · cases h
  · split at h
    · cases h
    · omega

theorem decided_written {fresh : Nat} {token : Int} {ending : Option Ending}
    (h : Written plan before p)
    (decided : Decided t endToken plan.context.toNat fresh token p deeds (.ok (ending, q))) :
    Written plan (before ++ deeds) q ∧ (ending = none → (q.past : Int) < plan.context) := by
  have neutral := tells_neutral decided.kinds
  generalize out : Except.ok (ending, q) = outcome at decided
  cases decided with
  | stopped hit check =>
    obtain ⟨rfl, rfl⟩ := Prod.mk.inj (Except.ok.inj out)
    exact ⟨h.neutral neutral rfl rfl, by simp⟩
  | held go keep =>
    obtain ⟨rfl, rfl⟩ := Prod.mk.inj (Except.ok.inj out)
    exact ⟨h.neutral neutral rfl rfl, room_of_endingAfter⟩
  | @handed clear stream _ outcome told =>
    rcases outcome with f | ⟨goOn, u⟩
    · cases out
    · obtain ⟨rfl, rfl⟩ := Prod.mk.inj (Except.ok.inj out)
      rw [told.handed]
      refine ⟨h.neutral neutral rfl rfl, fun none => ?_⟩
      cases goOn with
      | false => cases none
      | true => exact room_of_endingAfter none

theorem stepped_taped (h : Written plan before p) (room : (p.past : Int) < plan.context)
    {r : Except Fault (Option Ending × Progress)}
    (stepped : Stepped t endToken plan.context.toNat p calm deeds r) :
    Taped plan before deeds r := by
  cases stepped with
  | interrupted => exact Neutral.taped (List.forall_mem_nil _) plan before _
  | failed _ advanced =>
    exact (advanced_taped h room advanced).fault _
  | decided _ advanced decided =>
    exact (advanced_taped h room advanced).append
      ((tells_neutral decided.kinds).taped plan _ r)

theorem stepped_written (h : Written plan before p) {ending : Option Ending}
    (stepped : Stepped t endToken plan.context.toNat p calm deeds (.ok (ending, q))) :
    Written plan (before ++ deeds) q ∧
      (ending = none → (p.past : Int) < plan.context → (q.past : Int) < plan.context) := by
  generalize out : Except.ok (ending, q) = r at stepped
  cases stepped with
  | interrupted =>
    obtain ⟨rfl, rfl⟩ := Prod.mk.inj (Except.ok.inj out)
    exact ⟨h.neutral (List.forall_mem_nil _) rfl rfl, by simp⟩
  | failed => cases out
  | decided _ advanced decided =>
    subst out
    rw [← List.append_assoc]
    obtain ⟨written, room⟩ := decided_written (advanced_written h advanced) decided
    exact ⟨written, fun none _ => room none⟩

theorem course_taped {budget : Nat} {s : Station (σ × Journal σ)} {notes : Journal σ}
    {r : Except Fault (Ending × Progress)}
    (course : Course t endToken plan.context.toNat budget p s notes r)
    (h : Written plan before p) (room : (p.past : Int) < plan.context) :
    Taped plan before (notes.map Note.deed) r ∧
      ∀ ending q, r = .ok (ending, q) → Written plan (before ++ notes.map Note.deed) q := by
  induction course generalizing before with
  | exhausted p s =>
    refine ⟨Neutral.taped (List.forall_mem_nil _) plan before _, ?_⟩
    rintro ending q same
    obtain ⟨rfl, rfl⟩ := Prod.mk.inj (Except.ok.inj same)
    exact h.neutral (List.forall_mem_nil _) rfl rfl
  | failed step =>
    exact ⟨(stepped_taped h room step).fault _, by simp⟩
  | ended step =>
    refine ⟨⟨(stepped_taped h room step).each, ?_⟩, ?_⟩
    · exact (stepped_taped h room step).accounts.intact.accounts _
    · rintro ending q same
      obtain ⟨rfl, rfl⟩ := Prod.mk.inj (Except.ok.inj same)
      exact (stepped_written h step).1
  | goesOn step grows rest ih =>
    obtain ⟨written, next⟩ := stepped_written h step
    obtain ⟨taped, lands⟩ := ih written (next rfl room)
    rw [List.map_append]
    refine ⟨(stepped_taped h room step).append taped, fun ending q same => ?_⟩
    rw [← List.append_assoc]
    exact lands ending q same

theorem slices_nil (size : Nat) : slices size ([] : List α) = [] := by simp [slices, slicesOn]

theorem slicesOn_eq {size room : Nat} (hr : 0 < room) (slice : List α) {xs : List α}
    (hx : xs ≠ []) :
    slicesOn size slice room xs = (slice ++ xs.take room) :: slices size (xs.drop room) := by
  induction xs generalizing slice room with
  | nil => exact absurd rfl hx
  | cons x rest ih =>
    rw [slicesOn]
    split
    · obtain rfl : room = 1 := by omega
      rfl
    · obtain ⟨room, rfl⟩ : ∃ k, room = k + 1 := ⟨room - 1, by omega⟩
      rw [Nat.add_sub_cancel, List.take_succ_cons, List.drop_succ_cons]
      cases rest with
      | nil => simp [slicesOn, slices_nil]
      | cons y rest => rw [ih (by omega) (slice ++ [x]) (by simp), ← List.append_cons]

theorem slices_eq {size : Nat} (hs : 0 < size) {xs : List α} (hx : xs ≠ []) :
    slices size xs = xs.take size :: slices size (xs.drop size) := slicesOn_eq hs [] hx

theorem slices_eq_nil {size : Nat} (hs : 0 < size) {xs : List α} (h : slices size xs = []) :
    xs = [] := by
  refine Classical.byContradiction fun hx => ?_
  rw [slices_eq hs hx] at h
  cases h

theorem slices_eq_cons {size : Nat} (hs : 0 < size) {xs part : List α} {rest : List (List α)}
    (h : slices size xs = part :: rest) :
    xs ≠ [] ∧ part = xs.take size ∧ rest = slices size (xs.drop size) := by
  have more : xs ≠ [] := by
    rintro rfl
    rw [slices_nil] at h
    cases h
  rw [slices_eq hs more] at h
  obtain ⟨rfl, rfl⟩ := List.cons.inj h
  exact ⟨more, rfl, rfl⟩

theorem drop_length_take (size : Nat) (xs : List α) :
    xs.drop (xs.take size).length = xs.drop size := by
  rw [List.length_take, List.drop_eq_drop_iff]
  omega

/-- The tape holds the prompt up to `past`. -/
structure Reading (plan : Plan) (before : List Deed) (past : Nat) : Prop where
  intact : Intact before
  taken : taken before = plan.prompt.take past
  sampled : sampledIn before = []
  inside : past ≤ plan.prompt.length

theorem Reading.allows {past : Nat} (h : Reading plan before past)
    (fits : (plan.prompt.length : Int) < plan.context) (more : plan.prompt.drop past ≠ [])
    (outcome : Except Fault Bool) :
    plan.Allows before (.decode ((plan.prompt.drop past).take plan.batch) past outcome) where
  intact := h.intact
  past_eq := by
    rw [h.taken, List.length_take, Nat.min_eq_left h.inside]
  next := by
    rw [h.taken, h.sampled, List.append_nil, ← List.take_add]
    exact List.take_prefix _ _
  inside := by
    have inside := h.inside
    rw [List.length_take, List.length_drop]
    omega
  slice _ := rfl
  single late := absurd (List.drop_eq_nil_iff.2 late) more

theorem Reading.taken_in {past : Nat} (h : Reading plan before past) :
    Reading plan (before ++ [.decode ((plan.prompt.drop past).take plan.batch) past (.ok true)])
      (past + ((plan.prompt.drop past).take plan.batch).length) where
  intact := h.intact.append (by simp [Intact])
  taken := by
    rw [taken_append, h.taken, List.length_take, List.take_add]
    simp [Completions.taken, Deed.ids]
  sampled := by
    rw [sampledIn_append, h.sampled]
    simp [sampledIn, Deed.sampled?]
  inside := by
    have inside := h.inside
    rw [List.length_take, List.length_drop]
    omega

theorem ingested_taped {past : Nat} {parts : List (List Int)} {r : Except Fault Unit}
    (ingested : Ingested past parts deeds r) (positive : 0 < plan.batch)
    (fits : (plan.prompt.length : Int) < plan.context)
    (sliced : slices plan.batch (plan.prompt.drop past) = parts) (h : Reading plan before past) :
    Taped plan before deeds r ∧
      (r = .ok () → Written plan (before ++ deeds) { past := plan.prompt.length }) := by
  induction ingested generalizing before with
  | done past =>
    have all := slices_eq_nil positive sliced
    refine ⟨Neutral.taped (List.forall_mem_nil _) plan before _, fun _ => ?_⟩
    rw [List.append_nil]
    refine ⟨h.intact, ?_, h.sampled, by simp⟩
    rw [h.taken, List.take_of_length_le (List.drop_eq_nil_iff.1 all)]
    simp
  | broken past part rest f =>
    obtain ⟨more, rfl, -⟩ := slices_eq_cons positive sliced
    refine ⟨⟨each_cons (h.allows fits more _) (each_nil _ _), ?_⟩, by simp⟩
    intro ids past outcome hd _
    simp only [List.mem_singleton, Deed.decode.injEq] at hd
    exact ⟨f, rfl, by simp [hd], by simp [hd]⟩
  | refused past part rest =>
    obtain ⟨more, rfl, -⟩ := slices_eq_cons positive sliced
    refine ⟨⟨each_cons (h.allows fits more _) (each_nil _ _), ?_⟩, by simp⟩
    intro ids past outcome hd _
    simp only [List.mem_singleton, Deed.decode.injEq] at hd
    exact ⟨_, rfl, fun _ => rfl, by simp [hd]⟩
  | @taken past part rest deeds r ingested ih =>
    obtain ⟨more, rfl, rfl⟩ := slices_eq_cons positive sliced
    obtain ⟨taped, lands⟩ := ih (by rw [← List.drop_drop, drop_length_take]) h.taken_in
    have here : Taped plan before [.decode ((plan.prompt.drop past).take plan.batch) past (.ok true)]
        (.ok ()) :=
      ⟨each_cons (h.allows fits more _) (each_nil _ _), Intact.accounts (by simp [Intact]) _⟩
    refine ⟨here.append taped, fun ok => ?_⟩
    rw [List.append_cons]
    exact lands ok

end Generation

/-- The deeds of a run that was let in follow a plan: first the context is cleared, and never again;
then its size is asked for, and nothing is taken in or sampled unless the prompt was read. -/
structure Follows (prompt : Prompt) (plan : Plan) (deeds : List Deed) : Prop where
  cleared : ∃ reading outcome rest, deeds = .clock reading :: .clear outcome :: rest ∧
    ∀ d ∈ rest, d.kind ≠ .clear
  sized : ∀ n, Deed.context (.ok n) ∈ deeds → n = plan.context
  read : Neutral deeds ∨ plan.Told prompt deeds
  each : Each plan.Allows [] deeds

theorem Follows.append {prompt : Prompt} {plan : Plan} {ds es : List Deed}
    (h : Follows prompt plan ds) (each : Each plan.Allows ds es)
    (kinds : ∀ d ∈ es, d.kind ∈ [Deed.Kind.clock, .sample, .piece, .decode, .tell])
    (read : Neutral es ∨ plan.Told prompt ds) : Follows prompt plan (ds ++ es) where
  cleared := by
    obtain ⟨reading, outcome, rest, rfl, once⟩ := h.cleared
    refine ⟨reading, outcome, rest ++ es, rfl, fun d hd clear => ?_⟩
    rcases List.mem_append.1 hd with hd | hd
    · exact once d hd clear
    · simpa [clear] using kinds d hd
  sized n hn := by
    rcases List.mem_append.1 hn with hn | hn
    · exact h.sized n hn
    · simpa [Deed.kind] using kinds _ hn
  read := by
    have late := kind_ne kinds (k := .tokenize) (by decide)
    rcases h.read with neutral | told
    · exact read.imp neutral.append fun told => told.append late
    · exact .inr (told.append late)
  each := h.each.append each

theorem Follows.neutral {prompt : Prompt} {plan : Plan} {ds es : List Deed}
    (h : Follows prompt plan ds) (kinds : ∀ d ∈ es, d.kind ∈ [Deed.Kind.clock, .tell]) :
    Follows prompt plan (ds ++ es) := by
  have neutral : Neutral es := .of_kinds kinds (by decide) (by decide)
  refine h.append (neutral.each plan ds) (fun d hd => ?_) (.inl neutral)
  rcases (by simpa using kinds d hd : d.kind = .clock ∨ d.kind = .tell) with kind | kind <;>
    simp [kind]

theorem neutral_reading (reading : Float) (outcome : Except Fault Unit) {rest : List Deed}
    (kinds : ∀ d ∈ rest, d.kind ∈ [Deed.Kind.context, .tokenize]) :
    Neutral (.clock reading :: .clear outcome :: rest) := by
  intro d hd
  rcases List.mem_cons.1 hd with rfl | hd
  · simp [Deed.kind]
  · rcases List.mem_cons.1 hd with rfl | hd
    · simp [Deed.kind]
    · exact Neutral.of_kinds kinds (by decide) (by decide) d hd

theorem follows_reading {prompt : Prompt} (plan : Plan) (reading : Float)
    (outcome : Except Fault Unit) {rest : List Deed}
    (kinds : ∀ d ∈ rest, d.kind ∈ [Deed.Kind.context, .tokenize])
    (sized : ∀ n, Deed.context (.ok n) ∈ rest → n = plan.context) :
    Follows prompt plan (.clock reading :: .clear outcome :: rest) := by
  have neutral := neutral_reading reading outcome kinds
  refine ⟨⟨reading, outcome, rest, rfl, fun d hd clear => ?_⟩,
    fun n hn => sized n (by simpa using hn), .inl neutral, neutral.each plan []⟩
  simpa [clear] using kinds d hd

namespace Generation

theorem checkLength_eq_ok_iff {most : Option Int} {context : Int} {size : Nat} :
    checkLength most context size = .ok () ↔
      0 < size ∧ (∀ m, most = some m → (size : Int) ≤ m) ∧ (size : Int) < context := by
  unfold checkLength
  by_cases empty : size = 0
  · simp [empty]
  rw [if_neg empty]
  have positive : 0 < size := Nat.pos_of_ne_zero empty
  cases most with
  | none =>
    by_cases full : context ≤ size
    · simp [full]
    · simp [full, positive]
      omega
  | some m =>
    by_cases long : m < (size : Int)
    · rw [Option.filter_some, if_pos (by simpa using long)]
      simp
      omega
    · rw [Option.filter_some, if_neg (by simpa using long)]
      by_cases full : context ≤ size
      · simp [full]
      · simp [full, positive]
        omega

variable {batch : Nat} {most : Option Int} {prompt : Prompt} {deeds : List Deed}

theorem PromptRead.later {tokens : Except Fault (List Int)} (read : PromptRead prompt deeds tokens)
    (context : Int) : (∀ d ∈ .context (.ok context) :: deeds, d.kind ∈ [Deed.Kind.context, .tokenize]) ∧
      ∀ n, Deed.context (.ok n) ∈ Deed.context (.ok context) :: deeds → n = context := by
  constructor
  · intro d hd
    rcases List.mem_cons.1 hd with rfl | hd
    · exact .head _
    · simp [read.kinds d hd]
  · intro n hn
    rcases List.mem_cons.1 hn with same | hn
    · cases same
      rfl
    · cases read.kinds _ hn

theorem prefilled_follows {r : Except Fault (Int × List Int)} (positive : 0 < batch)
    (h : Prefilled batch most prompt deeds r) (began : Float) :
    ∃ plan, plan.batch = batch ∧ Follows prompt plan (.clock began :: deeds) ∧
      Accounts (.clock began :: deeds) r ∧
      ∀ context tokens, r = .ok (context, tokens) → plan = ⟨batch, context, tokens⟩ ∧
        (tokens.length : Int) < context ∧ plan.Told prompt (.clock began :: deeds) ∧
        Written plan (.clock began :: deeds) { past := tokens.length } := by
  cases h with
  | uncleared f =>
    refine ⟨⟨batch, 0, []⟩, rfl, follows_reading _ began _ (List.forall_mem_nil _) (by simp), ?_,
      fun _ _ same => by cases same⟩
    exact (neutral_reading began _ (List.forall_mem_nil _)).intact.accounts _
  | unsized f =>
    have kinds : ∀ d ∈ [Deed.context (.error f)], d.kind ∈ [Deed.Kind.context, .tokenize] := by
      simp [Deed.kind]
    refine ⟨⟨batch, 0, []⟩, rfl, follows_reading _ began _ kinds (by simp), ?_,
      fun _ _ same => by cases same⟩
    exact (neutral_reading began _ kinds).intact.accounts _
  | unread context read | unfit read length =>
    obtain ⟨kinds, sized⟩ := read.later _
    refine ⟨⟨batch, _, []⟩, rfl, follows_reading _ began _ kinds sized, ?_, fun _ _ same => by cases same⟩
    exact (neutral_reading began _ kinds).intact.accounts _
  | @fit context ds more tokens outcome read length ingested =>
    obtain ⟨kinds, sized⟩ := read.later context
    have neutral := neutral_reading began (.ok ()) kinds
    have start : Reading ⟨batch, context, tokens⟩
        (.clock began :: .clear (.ok ()) :: .context (.ok context) :: ds) 0 :=
      ⟨neutral.intact, neutral.taken_eq, neutral.sampledIn_eq, Nat.zero_le _⟩
    have fits := (checkLength_eq_ok_iff.1 length).2.2
    obtain ⟨taped, written⟩ := ingested_taped ingested positive fits rfl start
    have reads : tokenizations (.clock began :: .clear (.ok ()) :: .context (.ok context) :: ds) =
        ds := tokenizations_eq_self read.kinds
    have told : Plan.Told prompt ⟨batch, context, tokens⟩
        (.clock began :: .clear (.ok ()) :: .context (.ok context) :: ds) :=
      ⟨by simp, reads.symm ▸ read⟩
    have follows := (follows_reading ⟨batch, context, tokens⟩ began (.ok ()) kinds
      sized).append taped.each (fun d hd => by simp [ingested.kinds d hd]) (.inr told)
    have same : Deed.clock began :: ([.clear (.ok ()), .context (.ok context)] ++ ds ++ more) =
        (Deed.clock began :: .clear (.ok ()) :: .context (.ok context) :: ds) ++ more := rfl
    rw [same]
    refine ⟨_, rfl, follows, ?_, ?_⟩
    · exact ((neutral.intact.accounts (.ok ())).append taped.accounts).map fun _ => (context, tokens)
    · intro context' tokens' ok
      cases outcome with
      | error f => cases ok
      | ok u =>
        obtain ⟨rfl, rfl⟩ := Prod.mk.inj (Except.ok.inj ok)
        exact ⟨rfl, fits, told.append fun d hd => by simp [ingested.kinds d hd], written rfl⟩

variable {b : Backend σ} {maxNewTokens : Json} {t : Task σ} {s : Station (σ × Journal σ)}
  {notes : Journal σ}

theorem composed_taped {plan : Plan} {before : List Deed} {r : Except Fault (Ending × Progress)}
    (h : Composed b maxNewTokens t plan.context plan.prompt.length s notes r)
    (start : Written plan before { past := plan.prompt.length })
    (fits : (plan.prompt.length : Int) < plan.context) :
    Taped plan before (notes.map Note.deed) r ∧
      ∀ ending q, r = .ok (ending, q) → Written plan (before ++ notes.map Note.deed) q := by
  cases h with
  | broken course =>
    obtain ⟨taped, -⟩ := course_taped course start fits
    exact ⟨taped.fault _, fun _ _ same => by cases same⟩
  | @written ns ms ending p outcome course flushed =>
    obtain ⟨taped, lands⟩ := course_taped course start fits
    have neutral := tells_neutral flushed.kinds
    rw [List.map_append]
    generalize List.map Note.deed ms = ds at flushed neutral ⊢
    refine ⟨taped.append (neutral.taped plan _ _), ?_⟩
    rintro ending' q ok
    have written := lands ending p rfl
    rw [← List.append_assoc]
    cases flushed with
    | skipped =>
      obtain ⟨-, rfl⟩ := Prod.mk.inj (Except.ok.inj ok)
      exact written.neutral neutral rfl rfl
    | @flushed _ _ outcome told =>
      rcases outcome with f | ⟨goOn, u⟩
      · cases ok
      · obtain ⟨-, rfl⟩ := Prod.mk.inj (Except.ok.inj ok)
        exact written.neutral neutral (by rw [told.handed]; rfl) (by rw [told.handed]; rfl)

theorem drafted_follows {r : Except Fault Draft} (positive : 0 < batch)
    (h : Drafted b batch most maxNewTokens prompt t s notes r) :
    ∃ plan, plan.batch = batch ∧ Follows prompt plan (notes.map Note.deed) ∧
      Accounts (notes.map Note.deed) r ∧
      ∀ d, r = .ok d → plan.Told prompt (notes.map Note.deed) ∧
        taken (notes.map Note.deed) = plan.prompt ++ d.tokens := by
  cases h with
  | unread began w prefilled =>
    obtain ⟨plan, same, follows, accounts, -⟩ := prefilled_follows positive prefilled began
    exact ⟨plan, same, follows, accounts.fault _, fun _ same => by cases same⟩
  | @composed began read w w' ns ms context tokens u outcome prefilled grows composed =>
    obtain ⟨plan, -, follows, accounts, lands⟩ := prefilled_follows positive prefilled began
    obtain ⟨rfl, fits, told, written⟩ := lands context tokens rfl
    have clock : Neutral [Deed.clock read] := by simp [Neutral, Deed.kind]
    obtain ⟨taped, lands⟩ := composed_taped composed (written.neutral clock rfl rfl) fits
    have same : List.map Note.deed (⟨.clock began, w, false⟩ :: (ns ++ ⟨.clock read, w', false⟩ :: ms)) =
        (.clock began :: ns.map Note.deed) ++ ([.clock read] ++ ms.map Note.deed) := by simp
    rw [same]
    have kinds := clock_kinds composed.kinds read
    refine ⟨_, rfl, follows.append ((clock.each _ _).append taped.each) kinds (.inr told), ?_, ?_⟩
    · exact (accounts.append ((clock.intact.accounts (.ok ())).append taped.accounts)).map _
    · rintro d ok
      rcases outcome with f | ⟨ending, q⟩
      · cases ok
      · obtain rfl := Except.ok.inj ok
        refine ⟨told.append (kind_ne kinds (by decide)), ?_⟩
        rw [← List.append_assoc]
        exact (lands ending q rfl).taken

end Generation

/-- After a decode that has failed nothing is taken in and no token is sampled. -/
theorem Follows.stops {prompt : Prompt} {plan : Plan} {deeds before after : List Deed}
    {ids : List Int} {past : Nat} {outcome : Except Fault Bool} (h : Follows prompt plan deeds)
    (split : deeds = before ++ .decode ids past outcome :: after) (broken : outcome ≠ .ok true) :
    Neutral after := by
  rintro d hd
  obtain ⟨es, fs, rfl⟩ := List.append_of_mem hd
  -- What a decode or a sample asks of the deeds before it, the broken decode does not give.
  have allowed := h.each (before ++ .decode ids past outcome :: es) d fs (by simp [split])
  rw [List.nil_append] at allowed
  cases d with
  | decode ids' past' outcome' =>
    exact absurd (allowed.intact ids past outcome (by simp)) broken
  | sample params grammar schema outcome' =>
    exact absurd (allowed.1 ids past outcome (by simp)) broken
  | _ => simp [Deed.kind]

structure Kept (prompt : Prompt) (plan : Plan) (deeds : List Deed) (result : Result) : Prop where
  complete : ∀ c, result = .completed c →
    plan.Told prompt deeds ∧ taken deeds = plan.prompt ++ c.tokens
  failure : ∀ ids past outcome, Deed.decode ids past outcome ∈ deeds → outcome ≠ .ok true →
    ∃ f, result = .failed f ∧ (outcome = .ok false → f.kind = .inferenceFailure) ∧
      ∀ g, outcome = .error g → f = g

theorem Controller.Generated.follows {c : Controller σ} {r : Request} {prompt : Prompt}
    {sink : Option (Sink σ)} {watch : σ → Bool} {s : Station (σ × Journal σ)} {notes : Journal σ}
    {result : Result} (h : Generated c r prompt sink watch s notes result) :
    ∃ plan, plan.batch = c.batch ∧ Follows prompt plan (notes.map Note.deed) ∧
      Kept prompt plan (notes.map Note.deed) result := by
  cases h with
  | @failed ns ms f _ wrote told =>
    obtain ⟨plan, same, follows, accounts, -⟩ := Generation.drafted_follows c.batch_pos wrote
    have neutral := Generation.tells_neutral told.kinds
    rw [List.map_append]
    refine ⟨plan, same, follows.neutral fun d hd => by simp [told.kinds d hd],
      (fun _ ok => by cases ok), ?_⟩
    intro ids past outcome hd broken
    rcases List.mem_append.1 hd with hd | hd
    · obtain ⟨g, failed, blamed⟩ := accounts ids past outcome hd broken
      obtain rfl := Except.error.inj failed
      exact ⟨f, rfl, blamed⟩
    · exact absurd rfl (neutral _ hd).1
  | @undelivered ns ms d f wrote told =>
    obtain ⟨plan, same, follows, accounts, -⟩ := Generation.drafted_follows c.batch_pos wrote
    have neutral := Generation.tells_neutral told.kinds
    rw [List.map_append]
    refine ⟨plan, same, follows.neutral fun d hd => by simp [told.kinds d hd],
      (fun _ ok => by cases ok), ?_⟩
    intro ids past outcome hd broken
    exact absurd (accounts.intact.append neutral.intact ids past outcome hd) broken
  | @delivered ns ms d ended w wrote told =>
    obtain ⟨plan, same, follows, accounts, spelt⟩ := Generation.drafted_follows c.batch_pos wrote
    have late := told.kinds_ended ended w
    have neutral := Neutral.of_kinds late (by decide) (by decide)
    rw [List.map_append]
    refine ⟨plan, same, follows.neutral late, ?_, ?_⟩
    · rintro completion ok
      cases ok
      obtain ⟨told', spelt⟩ := spelt d rfl
      refine ⟨told'.append (kind_ne late (by decide)), ?_⟩
      rw [taken_append, neutral.taken_eq, List.append_nil]
      exact spelt
    · intro ids past outcome hd broken
      exact absurd (accounts.intact.append neutral.intact ids past outcome hd) broken

/-- The tape of a run that is let in. A token is sampled only when all tokens before it are on the
tape; a run with a text has its prompt and its tokens there, and no others; a decode that fails is the
last, and the run fails with it. -/
theorem tape_discipline (c : Controller σ) (r : Request) (sink : Option (Sink σ))
    (override : Option Prompt) (watch : σ → Bool) (s : Station σ) {prompt : Prompt}
    (received : c.receive r override s = .ok prompt) :
    let deeds := (c.journal r sink override watch s).map Note.deed
    let result := (c.run r sink override watch s).1
    ∃ plan : Plan, plan.batch = c.batch ∧ Follows prompt plan deeds ∧
      (∀ completion, result = .completed completion →
        plan.Told prompt deeds ∧ taken deeds = plan.prompt ++ completion.tokens) ∧
      ∀ before ids past outcome after, deeds = before ++ .decode ids past outcome :: after →
        outcome ≠ .ok true → (∀ d ∈ after, d.kind ≠ .decode ∧ d.kind ≠ .sample) ∧
          ∃ f, result = .failed f ∧ (outcome = .ok false → f.kind = .inferenceFailure) ∧
            ∀ g, outcome = .error g → f = g := by
  intro deeds result
  have generated := (Controller.journal_course c r override sink watch s).of_received received
  obtain ⟨plan, batch, follows, kept⟩ := generated.follows
  refine ⟨plan, batch, follows, kept.complete, ?_⟩
  intro before ids past outcome after split broken
  exact ⟨follows.stops split broken, kept.failure ids past outcome (by simp [deeds, split]) broken⟩

theorem tape_discipline_rehearsed : ∃ (plan : Plan) (completion : Completion),
    (rehearsed.run rehearsedRequest none none (fun _ => false) rehearsedStation).1 =
      .completed completion ∧
    plan = ⟨2, 8, [5, 6, 7]⟩ ∧ completion.tokens = [2, 3] ∧
    Follows (.items [.int 5, .int 6, .int 7]) plan rehearsedDeeds ∧
    plan.Told (.items [.int 5, .int 6, .int 7]) rehearsedDeeds ∧
    taken rehearsedDeeds = plan.prompt ++ completion.tokens := by
  obtain ⟨completion, result, tokens⟩ := rehearsed_completed
  have disciplined := tape_discipline rehearsed rehearsedRequest none none (fun _ => false)
    rehearsedStation rehearsed_received
  rw [rehearsed_deeds] at disciplined
  obtain ⟨⟨batch, context, prompt⟩, rfl, follows, complete, -⟩ := disciplined
  obtain ⟨told, whole⟩ := complete completion result
  have size : 8 = context := follows.sized 8 (by simp [rehearsedDeeds])
  have first : [5, 6, 7] = prompt := by
    have all : taken rehearsedDeeds = prompt ++ [2, 3] := tokens ▸ whole
    exact List.append_cancel_right all
  subst size first
  exact ⟨_, completion, result, rfl, tokens, follows, told, whole⟩

end Completions
