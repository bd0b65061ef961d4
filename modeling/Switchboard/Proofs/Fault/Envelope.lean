import Switchboard.Fault.Handler

/-
  Envelopes and the failures inside them.

  * `Json.Tells`: what a reply that reads as a failure looks like;
  * `openEnvelope?_eq_some`: an envelope is opened where a reply looks so, and
    nowhere else;
  * `openEnvelope?_envelope`: the failure that was put into an envelope is found
    in it.
-/

namespace Switchboard

/-! ## Codes -/

theorem FaultCode.lookup_names {s : String} {c : FaultCode} :
    FaultCode.names.lookup s = some c ↔ s = c.name := by
  constructor
  · intro h
    obtain ⟨l₁, l₂, hsplit, -⟩ := List.lookup_eq_some_iff.1 h
    have hmem : (s, c) ∈ FaultCode.names := by
      rw [hsplit]
      simp
    obtain ⟨c', -, heq⟩ := List.mem_map.1 hmem
    cases heq
    rfl
  · rintro rfl
    cases c <;> rfl

/-- A code is read from its name, or from an object whose only key is its name. -/
theorem FaultCode.named_names {v : Json} {c : FaultCode} :
    Json.named FaultCode.names v = .ok c ↔ v = .str c.name ∨ v = .obj [(c.name, .null)] := by
  unfold Json.named
  dsimp only
  split
  · next s =>
    simp only [Json.str.injEq, reduceCtorEq, or_false, ← FaultCode.lookup_names]
    rcases FaultCode.names.lookup s with _ | a <;> simp [Json.mismatch]
  · next s =>
    simp only [Json.obj.injEq, reduceCtorEq, false_or, List.cons.injEq, Prod.mk.injEq, and_true,
      ← FaultCode.lookup_names]
    rcases FaultCode.names.lookup s with _ | a <;> simp [Json.mismatch]
  · next ms hother =>
    constructor
    · intro h
      split at h <;> cases h
    · rintro (h | h)
      · cases h
      · obtain rfl := Json.obj.inj h
        exact absurd rfl (hother c.name)
  · next hstr _ hobj =>
    constructor
    · intro h
      cases h
    · rintro (rfl | rfl)
      · exact (hstr _ rfl).elim
      · exact (hobj _ rfl).elim

/-! ## Records -/

namespace Json

theorem get?_ofObject (ms : List (String × Json)) (key : String) :
    (Members.ofObject ms).get? key = (ms.lookup key).map fun v => ⟨key, key, v⟩ := by
  induction ms with
  | nil => rfl
  | cons m ms ih =>
    obtain ⟨k, v⟩ := m
    by_cases h : k = key
    · subst h
      simp [Members.ofObject, Members.get?]
    · have h' : (key == k) = false := by simpa using Ne.symm h
      simpa [Members.ofObject, Members.get?, List.find?_cons, List.lookup_cons, h, h'] using ih

/-- An object opens as a record if no field of the record is repeated. -/
theorem membersOf_obj {label : String} {fields : List String} {ms : List (String × Json)}
    {members : Members} :
    membersOf label fields (.obj ms) = .ok members ↔
      (∀ f ∈ fields, (ms.filter (·.1 = f)).length ≤ 1) ∧ members = .ofObject ms := by
  unfold membersOf
  dsimp only
  split
  · next f hf =>
    have hmem := List.mem_of_find?_eq_some hf
    have hmany := List.find?_some hf
    constructor
    · intro h
      cases h
    · rintro ⟨hone, -⟩
      have := hone f hmem
      simp only [decide_eq_true_eq] at hmany
      omega
  · next hnone =>
    have hone : ∀ f ∈ fields, (ms.filter (·.1 = f)).length ≤ 1 := by
      simpa [List.find?_eq_none] using hnone
    exact ⟨fun h => ⟨hone, (Except.ok.inj h).symm⟩, fun h => by rw [h.2]⟩

theorem required_ofObject {α : Type} {ms : List (String × Json)} {key : String} {shape : Shape α}
    {a : α} :
    required (.ofObject ms) key shape = .ok a ↔ ∃ v, ms.lookup key = some v ∧ shape v = .ok a := by
  rw [required, get?_ofObject]
  rcases ms.lookup key with _ | v
  · simp [mismatch]
  · rcases hv : shape v with m | b <;> simp [under, hv]

theorem optional_ofObject {α : Type} {ms : List (String × Json)} {key : String} {shape : Shape α}
    {a : Option α} :
    optional (.ofObject ms) key shape = .ok a ↔
      match ms.lookup key with
      | none => a = none
      | some v => nullable shape v = .ok a := by
  rw [optional, withDefault, get?_ofObject]
  rcases ms.lookup key with _ | v
  · simp [eq_comm]
  · rcases hv : nullable shape v with m | b <;> simp [under, hv]

end Json

/-! ## Failures -/

theorem HandlerFault.ofJson_obj {ms : List (String × Json)} {f : HandlerFault} :
    HandlerFault.ofJson (.obj ms) = .ok f ↔
      (∀ key ∈ ["message", "code"], (ms.filter (·.1 = key)).length ≤ 1) ∧
      Json.optional (.ofObject ms) "code" (Json.named FaultCode.names) = .ok f.code ∧
      Json.required (.ofObject ms) "message" Json.text = .ok f.message := by
  unfold HandlerFault.ofJson
  rcases hms : Json.membersOf "a handler fault" ["message", "code"] (.obj ms) with m | members
  · have hrepeats : ¬∀ key ∈ ["message", "code"], (ms.filter (·.1 = key)).length ≤ 1 := by
      intro hone
      rw [Json.membersOf_obj.2 ⟨hone, rfl⟩] at hms
      cases hms
    constructor
    · intro h
      cases h
    · exact fun h => absurd h.1 hrepeats
  · obtain ⟨hone, rfl⟩ := Json.membersOf_obj.1 hms
    simp only [bind, Except.bind]
    rcases Json.optional (.ofObject ms) "code" (Json.named FaultCode.names) with m | code
    · simp
    · rcases Json.required (.ofObject ms) "message" Json.text with m | message
      · simp
      · obtain ⟨message', code'⟩ := f
        simp only [pure, Except.pure, Except.ok.injEq, HandlerFault.mk.injEq]
        exact ⟨fun h => ⟨hone, h.2, h.1⟩, fun h => ⟨h.2.2, h.2.1⟩⟩

theorem FaultCode.nullable_names {v : Json} {code : Option FaultCode} :
    Json.nullable (Json.named FaultCode.names) v = .ok code ↔
      match code with
      | none => v = .null
      | some c => v = .str c.name ∨ v = .obj [(c.name, .null)] := by
  by_cases hnull : v = .null
  · subst hnull
    cases code <;> simp [Json.nullable]
  · have hnullable : Json.nullable (Json.named FaultCode.names) v =
        some <$> Json.named FaultCode.names v := by
      cases v <;> first | rfl | exact absurd rfl hnull
    rw [hnullable]
    cases code with
    | none =>
      rcases Json.named FaultCode.names v with m | c <;> simp [hnull, Functor.map, Except.map]
    | some c =>
      refine Iff.trans ?_ FaultCode.named_names
      rcases Json.named FaultCode.names v with m | c' <;> simp [Functor.map, Except.map]

/-- A reply that reads as a failure: its only key is `error`, and the object under
    it holds the text of the failure as `message`, and its code, or `null`, as
    `code`, which may be missing; neither key is repeated. -/
def Json.Tells (reply : Json) (f : HandlerFault) : Prop :=
  ∃ ms, reply = .obj [("error", .obj ms)] ∧
    (∀ key ∈ ["message", "code"], (ms.filter (·.1 = key)).length ≤ 1) ∧
    ms.lookup "message" = some (.str f.message) ∧
    match f.code with
    | none => ms.lookup "code" = none ∨ ms.lookup "code" = some .null
    | some c =>
      ms.lookup "code" = some (.str c.name) ∨ ms.lookup "code" = some (.obj [(c.name, .null)])

theorem HandlerFault.ofJson_eq_ok {ms : List (String × Json)} {f : HandlerFault} :
    HandlerFault.ofJson (.obj ms) = .ok f ↔ (Json.obj [("error", .obj ms)]).Tells f := by
  have hmessage : Json.required (.ofObject ms) "message" Json.text = .ok f.message ↔
      ms.lookup "message" = some (.str f.message) := by
    rw [Json.required_ofObject]
    constructor
    · rintro ⟨v, hv, htext⟩
      cases v <;> cases htext
      exact hv
    · exact fun h => ⟨_, h, rfl⟩
  have hcode : Json.optional (.ofObject ms) "code" (Json.named FaultCode.names) = .ok f.code ↔
      match f.code with
      | none => ms.lookup "code" = none ∨ ms.lookup "code" = some .null
      | some c =>
        ms.lookup "code" = some (.str c.name) ∨
          ms.lookup "code" = some (.obj [(c.name, .null)]) := by
    rw [Json.optional_ofObject]
    rcases ms.lookup "code" with _ | v
    · cases f.code <;> simp
    · simp only [FaultCode.nullable_names]
      cases f.code <;> simp
  rw [HandlerFault.ofJson_obj, hmessage, hcode]
  constructor
  · exact fun ⟨hone, hc, hm⟩ => ⟨ms, rfl, hone, hm, hc⟩
  · rintro ⟨ms', heq, hone, hm, hc⟩
    cases heq
    exact ⟨hone, hc, hm⟩

/-- **An envelope is opened** where a reply reads as a failure, and nowhere else. -/
theorem openEnvelope?_eq_some {reply : Json} {f : HandlerFault} :
    openEnvelope? reply = some f ↔ reply.Tells f := by
  constructor
  · intro h
    unfold openEnvelope? at h
    split at h
    · next inner =>
      split at h
      · next m hm =>
        cases inner with
        | obj ms =>
          refine HandlerFault.ofJson_eq_ok.1 ?_
          rcases hf : HandlerFault.ofJson (.obj ms) with e | f' <;> rw [hf] at h <;> cases h
          rfl
        | _ => cases hm
      · cases h
    · cases h
  · intro h
    obtain ⟨ms, rfl, -, hm, -⟩ := id h
    simp only [openEnvelope?, Json.field?, hm, HandlerFault.ofJson_eq_ok.2 h]
    rfl

/-- **A failure survives its envelope.** -/
theorem openEnvelope?_envelope (f : HandlerFault) : openEnvelope? (envelope f) = some f := by
  obtain ⟨message, _ | c⟩ := f
  · exact openEnvelope?_eq_some.2 ⟨_, rfl, by simp, by simp, by simp⟩
  · exact openEnvelope?_eq_some.2 ⟨_, rfl, by simp, by simp, Or.inl rfl⟩

end Switchboard
