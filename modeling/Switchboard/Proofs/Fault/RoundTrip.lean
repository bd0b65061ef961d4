import Switchboard.Fault.Call
import Switchboard.Message
import Switchboard.Proofs.Fault.Envelope
import Switchboard.Proofs.Table

/-
  Records that are written and read again.

  Members that are unset are left out of a record, and a member that is not there
  is read as unset.  So a record comes back as it was, as long as no member that
  is set is written like one that is unset.  The details of a failed call are the
  only member that can be: details that are `null` are written, and read as none.

  * `Json.written`: the members of a record that are written;
  * `Json.membersOf_record`, `Json.required_written`, `Json.withDefault_written`:
    what is read where a record was written;
  * `CallFault.ofJson_toJson`, `HandlerFault.ofJson_toJson`,
    `Metadata.ofJson_toJson`;
  * `faults_survive` puts these together.
-/

namespace Switchboard

/-! ## Records -/

namespace Json

/-- The members of a record that are written. -/
def written (ms : List (String × Option Json)) : List (String × Json) :=
  ms.filterMap fun (k, v) => v.map (k, ·)

theorem record_eq (ms : List (String × Option Json)) : record ms = .obj (written ms) := rfl

section Written

variable {ms : List (String × Option Json)} {key label : String} {α : Type} {shape : Shape α} {a : α}

theorem written_cons (k : String) (v : Option Json) (ms : List (String × Option Json)) :
    written ((k, v) :: ms) = (v.map (k, ·)).toList ++ written ms := by
  cases v <;> rfl

theorem mem_keys_written (h : key ∈ (written ms).map (·.1)) : key ∈ ms.map (·.1) := by
  obtain ⟨m, hm, rfl⟩ := List.mem_map.1 h
  obtain ⟨⟨k, v⟩, hmem, hv⟩ := List.mem_filterMap.1 hm
  obtain ⟨v', -, rfl⟩ := Option.map_eq_some_iff.1 hv
  exact List.mem_map_of_mem hmem

theorem nodup_keys_written (distinct : (ms.map (·.1)).Nodup) : ((written ms).map (·.1)).Nodup := by
  induction ms with
  | nil => exact List.nodup_nil
  | cons m ms ih =>
    obtain ⟨k, v⟩ := m
    obtain ⟨hk, hms⟩ := List.nodup_cons.1 distinct
    rw [written_cons]
    cases v with
    | none => exact ih hms
    | some v => exact List.nodup_cons.2 ⟨fun h => hk (mem_keys_written h), ih hms⟩

/-- A member that is set is found as it was set. -/
theorem lookup_written_some (distinct : (ms.map (·.1)).Nodup) {v : Json}
    (h : (key, some v) ∈ ms) : (written ms).lookup key = some v :=
  List.lookup_of_mem (nodup_keys_written distinct) (List.mem_filterMap.2 ⟨_, h, rfl⟩)

/-- A member that is unset is not found. -/
theorem lookup_written_none (distinct : (ms.map (·.1)).Nodup) (h : (key, none) ∈ ms) :
    (written ms).lookup key = none := by
  refine List.lookup_eq_none_iff.2 fun m hm => bne_iff_ne.2 ?_
  rintro rfl
  obtain ⟨⟨k, v⟩, hmem, hv⟩ := List.mem_filterMap.1 hm
  obtain ⟨v', rfl, rfl⟩ := Option.map_eq_some_iff.1 hv
  cases (List.lookup_of_mem distinct hmem).symm.trans (List.lookup_of_mem distinct h)

/-- What was written as a record opens as one. -/
theorem membersOf_record (distinct : (ms.map (·.1)).Nodup) (label : String)
    (fields : List String) :
    membersOf label fields (record ms) = .ok (.ofObject (written ms)) := by
  rw [record_eq, membersOf_obj]
  refine ⟨fun f _ => ?_, rfl⟩
  have hone : ((written ms).map (·.1)).count f ≤ 1 := by
    rw [(nodup_keys_written distinct).count]
    split <;> omega
  rw [List.count_eq_countP, List.countP_map, List.countP_eq_length_filter] at hone
  exact hone

theorem required_written (distinct : (ms.map (·.1)).Nodup) {v : Json} (h : (key, some v) ∈ ms)
    (hv : shape v = .ok a) : required (.ofObject (written ms)) key shape = .ok a :=
  required_ofObject.2 ⟨v, lookup_written_some distinct h, hv⟩

theorem withDefault_written (distinct : (ms.map (·.1)).Nodup) {base : α} {v : Option Json}
    (h : (key, v) ∈ ms) (hv : v.elim (.ok base) shape = .ok a) :
    withDefault (.ofObject (written ms)) key base shape = .ok a := by
  rw [withDefault, get?_ofObject]
  cases v with
  | none =>
    rw [lookup_written_none distinct h]
    exact hv
  | some v =>
    rw [lookup_written_some distinct h]
    simpa [under] using congrArg (under key) hv

theorem optional_written (distinct : (ms.map (·.1)).Nodup) {v : Option Json} {a : Option α}
    (h : (key, v) ∈ ms) (hv : v.elim (.ok none) (nullable shape) = .ok a) :
    optional (.ofObject (written ms)) key shape = .ok a :=
  withDefault_written distinct h hv

end Written

/-! ### Members -/

theorem word_nat {bits n : Nat} (h : n < Nat.pow 2 bits) : word bits (.nat n) = .ok n := by
  have hrange : (0 : Int) ≤ n ∧ (n : Int) ≤ (Nat.pow 2 bits : Nat) - 1 := by omega
  simp only [word, integer, nat, if_pos hrange]
  rfl

theorem elim_text (o : Option String) : (o.map str).elim (.ok none) (nullable text) = .ok o := by
  cases o <;> rfl

theorem elim_code (o : Option FaultCode) :
    (o.map fun c => str c.name).elim (.ok none) (nullable (named FaultCode.names)) = .ok o := by
  cases o with
  | none => rfl
  | some c =>
    change nullable (named FaultCode.names) (str c.name) = .ok (some c)
    exact FaultCode.nullable_names.2 (Or.inl rfl)

/-- An optional value that is `null` reads as none. -/
theorem elim_any (o : Option Json) :
    o.elim (.ok none) (nullable .ok) = .ok (o.filter fun v => !v.isNull) := by
  rcases o with _ | v
  · rfl
  · cases v <;> rfl

end Json

/-! ## Failures and metadata -/

namespace CallFault

/-- The members of a failed call, as they are written. -/
def members (f : CallFault) : List (String × Option Json) :=
  [("code", some (.str f.code.name)), ("message", some (.str f.message)),
   ("topic", f.topic.map .str), ("attempts", some (.nat f.attempts)),
   ("retriable", some (.bool f.retriable)), ("statusCode", some (.nat f.status)),
   ("details", f.details)]

theorem members_distinct (f : CallFault) : (f.members.map (·.1)).Nodup := by
  simp [members]

/-- **A failed call** comes back, but for details that are `null`. -/
theorem ofJson_toJson (f : CallFault) (hattempts : f.attempts < UInt32.size)
    (hstatus : f.status < UInt16.size) :
    ofJson f.toJson = .ok { f with details := f.details.filter fun v => !v.isNull } := by
  have hd := f.members_distinct
  have hjson : f.toJson = .record f.members := rfl
  rw [hjson, ofJson, Json.membersOf_record hd]
  generalize hms : Json.Members.ofObject (Json.written f.members) = ms
  have attempts : Json.withDefault ms "attempts" 0 (Json.word 32) = .ok f.attempts :=
    hms ▸ Json.withDefault_written hd (v := some (.nat f.attempts)) (by simp [members])
      (Json.word_nat hattempts)
  have code : Json.required ms "code" (Json.named FaultCode.names) = .ok f.code :=
    hms ▸ Json.required_written hd (v := .str f.code.name) (by simp [members])
      (FaultCode.named_names.2 (Or.inl rfl))
  have details : Json.optional ms "details" .ok = .ok (f.details.filter fun v => !v.isNull) :=
    hms ▸ Json.optional_written hd (by simp [members]) (Json.elim_any f.details)
  have message : Json.required ms "message" Json.text = .ok f.message :=
    hms ▸ Json.required_written hd (v := .str f.message) (by simp [members]) rfl
  have retriable : Json.required ms "retriable" Json.boolean = .ok f.retriable :=
    hms ▸ Json.required_written hd (v := .bool f.retriable) (by simp [members]) rfl
  have status : Json.required ms "statusCode" (Json.word 16) = .ok f.status :=
    hms ▸ Json.required_written hd (v := .nat f.status) (by simp [members])
      (Json.word_nat hstatus)
  have topic : Json.optional ms "topic" Json.text = .ok f.topic :=
    hms ▸ Json.optional_written hd (by simp [members]) (Json.elim_text f.topic)
  simp only [bind, Except.bind, attempts, code, details, message, retriable, status, topic]
  rfl

end CallFault

namespace HandlerFault

/-- The members of a failure of a handler, as they are written. -/
def members (f : HandlerFault) : List (String × Option Json) :=
  [("message", some (.str f.message)), ("code", f.code.map fun c => .str c.name)]

/-- **A failure of a handler** comes back. -/
theorem ofJson_toJson (f : HandlerFault) : ofJson f.toJson = .ok f := by
  have hd : (f.members.map (·.1)).Nodup := by simp [members]
  have hjson : f.toJson = .record f.members := rfl
  rw [hjson, ofJson, Json.membersOf_record hd]
  generalize hms : Json.Members.ofObject (Json.written f.members) = ms
  have code : Json.optional ms "code" (Json.named FaultCode.names) = .ok f.code :=
    hms ▸ Json.optional_written hd (by simp [members]) (Json.elim_code f.code)
  have message : Json.required ms "message" Json.text = .ok f.message :=
    hms ▸ Json.required_written hd (v := .str f.message) (by simp [members]) rfl
  simp only [bind, Except.bind, code, message]
  rfl

end HandlerFault

namespace Metadata

/-- The members of metadata, as they are written. -/
def members (m : Metadata) : List (String × Option Json) :=
  [("plugin", m.plugin.map .str), ("description", m.description.map .str),
   ("extra", if m.extra.isNull then none else some m.extra)]

/-- **Metadata** come back: an `extra` of `null` is what is read where there is none. -/
theorem ofJson_toJson (m : Metadata) : ofJson m.toJson = .ok m := by
  have hd : (m.members.map (·.1)).Nodup := by simp [members]
  have hjson : m.toJson = .record m.members := rfl
  rw [hjson, ofJson, Json.membersOf_record hd]
  generalize hms : Json.Members.ofObject (Json.written m.members) = ms
  have plugin : Json.optional ms "plugin" Json.text = .ok m.plugin :=
    hms ▸ Json.optional_written hd (by simp [members]) (Json.elim_text m.plugin)
  have description : Json.optional ms "description" Json.text = .ok m.description :=
    hms ▸ Json.optional_written hd (by simp [members]) (Json.elim_text m.description)
  have extra : Json.withDefault ms "extra" .null .ok = .ok m.extra :=
    hms ▸ Json.withDefault_written hd (v := if m.extra.isNull then none else some m.extra)
      (by simp [members]) (by cases m.extra <;> rfl)
  simp only [bind, Except.bind, plugin, description, extra]
  rfl

end Metadata

/-- **What is written is read again.**  A failed call comes back with its details
    where they are not `null`, and with none otherwise; so it comes back as it was
    unless its details are `null`.  Failures of handlers and metadata always do. -/
theorem faults_survive (f : CallFault) (e : HandlerFault) (m : Metadata)
    (hattempts : f.attempts < UInt32.size) (hstatus : f.status < UInt16.size) :
    CallFault.ofJson f.toJson =
        .ok { f with details := f.details.filter fun v => !v.isNull } ∧
      (CallFault.ofJson f.toJson = .ok f ↔ f.details ≠ some .null) ∧
      HandlerFault.ofJson e.toJson = .ok e ∧ Metadata.ofJson m.toJson = .ok m := by
  have h := f.ofJson_toJson hattempts hstatus
  refine ⟨h, ?_, e.ofJson_toJson, m.ofJson_toJson⟩
  rw [h]
  obtain ⟨code, message, topic, attempts, retriable, status, details⟩ := f
  simp only [Except.ok.injEq, CallFault.mk.injEq, true_and]
  rcases details with _ | v
  · simp
  · cases v <;> simp [Option.filter, Json.isNull]

/-- A failed call with details, a coded failure of a handler and metadata with an
    empty object beside them. -/
theorem faults_survive_detailed :
    let f : CallFault :=
      { CallFault.ofCode .notFound "no zone 7" with
        attempts := 3, details := some (.obj [("zone", .nat 7), ("unit", .null)]) }
    CallFault.ofJson f.toJson = .ok f ∧
      HandlerFault.ofJson f.toHandlerFault.toJson = .ok f.toHandlerFault ∧
      Metadata.ofJson (Metadata.toJson { extra := .obj [] }) = .ok { extra := .obj [] } := by
  intro f
  obtain ⟨-, hcall, hhandler, hmetadata⟩ :=
    faults_survive f f.toHandlerFault { extra := .obj [] } (by decide) (by decide)
  exact ⟨hcall.2 (by simp [f]), hhandler, hmetadata⟩

/-- Details that are `null` are written as such, and read as none. -/
theorem null_details_lost :
    let f : CallFault := { CallFault.ofCode .notFound "m" with details := some .null }
    f.toJson.field? "details" = some .null ∧
      CallFault.ofJson f.toJson = .ok { f with details := none } ∧
      CallFault.ofJson f.toJson ≠ .ok f := by
  intro f
  have hread : CallFault.ofJson f.toJson = .ok { f with details := none } := rfl
  refine ⟨rfl, hread, fun h => ?_⟩
  rw [hread] at h
  have hdetails : none = f.details := congrArg CallFault.details (Except.ok.inj h)
  cases hdetails

end Switchboard
