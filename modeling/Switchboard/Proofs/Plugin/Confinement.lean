import Switchboard.Proofs.Bus.Passage
import Switchboard.Proofs.Plugin.Guard

/-
  Confinement — where the messages of a plugin go, and the replies to them.

  A guard looks at the topic of a message and at nothing else; a responder sends
  its reply to the address that the message carries.

  * `Bus.Holds`: the message of an id is still the one that was published;
    `holds_of_publish`, `Holds.accounts`: so it is from then on;
  * `reply_entered`: a reply goes where the message under way wants it;
  * `publish_confined`: the topic of a message is permitted, and a reply to it
    goes to its reply address, which nobody has checked;
    `publish_unconfined_alarm` is a reply that leaves the permission.
-/

namespace Switchboard

variable {H : Type}

namespace Bus

/-- The id of a message has been handed out, and the message in flight with this
    id, if there is one, is this message. -/
structure Holds (m : Message) (b : Bus H) : Prop where
  issued : b.mint.Issued m.id
  same : ∀ m' ∈ b.flight, m'.id = m.id → m' = m

/-- **Whatever happens**, no other message takes over the id. -/
theorem Holds.accounts {m : Message} {b b' : Bus H} {t : Traffic} (h : Holds m b)
    (ha : b.Accounts t b') : Holds m b' where
  issued := ha.mint.issued h.issued
  same m' hm' hid := by
    rcases ha.mem_flight hm' with hold | hnew
    · exact h.same m' hold hid
    · exact absurd (hid ▸ h.issued) (ha.fresh m' hnew).1

/-- A message that was published is held. -/
theorem holds_of_publish {b b' : Bus H} {now : Nat} {topic : String} {payload : Json}
    {o : PublishOptions} {outcome : PublishOutcome} (hissued : ∀ m ∈ b.flight, b.mint.Issued m.id)
    (hpublish : b.publish now topic payload o = (.ok outcome, b')) :
    Holds (b.draft outcome.id topic payload o now) b' := by
  have ha := (b.publish_effect now topic payload o).toAccounts
  have hentered : (b.publishTraffic now topic payload o).entered =
      [b.draft outcome.id topic payload o now] := by
    rw [publishTraffic, hpublish]
    cases outcome <;> rfl
  rw [hpublish] at ha
  have hnew := ha.fresh _ (hentered ▸ List.mem_singleton_self _)
  refine ⟨hnew.2, ?_⟩
  intro m hm hid
  rcases ha.mem_flight hm with hold | hm
  · exact absurd (hid ▸ hissued m hold) hnew.1
  · rw [hentered] at hm
    exact List.mem_singleton.1 hm

namespace Session

theorem run_holds {m : Message} {s : Session H} (h : Holds m s.bus) {acts : List (Act H)}
    {s' : Session H} {a : Act H} (hlog : (s', a) ∈ s.trace acts) : Holds m s'.bus := by
  obtain ⟨before, after, -, rfl⟩ := mem_trace hlog
  exact h.accounts (run_accounts s before)

/-- **A reply** goes where the message under way wants it. -/
theorem reply_entered {s : Session H} {ending : Ending} {reply : Message}
    (h : reply ∈ (s.traffic (.finish ending)).entered) :
    ∃ pass, s.bus.pass? = some pass ∧ pass.parcel.message.replyTo = some reply.topic ∧
      pass.parcel.message.correlation = reply.correlation ∧ reply.correlation ≠ none := by
  have hfinish := s.bus.finish_finishes s.now ending
  change reply ∈ (s.bus.finishTraffic s.now ending).entered at h
  generalize s.bus.finishTraffic s.now ending = t at hfinish h
  generalize s.bus.finish s.now ending = b' at hfinish
  cases hfinish with
  | idle | rejected | accepted => cases h
  | answered pass sub answer hd =>
    rcases s.bus.respond_cases s.now pass.parcel.message answer with
      ⟨ht, -⟩ | ⟨replyTo, c, hreplyTo, hc, ht, -⟩
    · rw [ht] at h
      cases h
    · rw [ht] at h
      obtain ⟨id, rfl⟩ := publishTraffic_entered h
      exact ⟨pass, pass?_eq_some.2 hd, hreplyTo, hc, Option.some_ne_none c⟩

end Session

end Bus

namespace PluginContext

/-- **Confinement of messages.**  When a plugin whose permissions name topics has
    published a message, the topic of the message is permitted.  Whatever happens
    then, a reply of a responder to this message is published on the reply
    address of the message and nowhere else, and only if the message names an
    address and a correlation id; so if the reply address is permitted too, no
    reply leaves the permission. -/
theorem publish_confined {x : PluginContext} {g : Guard} {p : Permissions}
    (hg : x.guard = some g) (hp : Guard.ofPermissions x.plugin p = .ok g) (htopics : p.topics ≠ [])
    (config : BusConfig) (hosted : Bool) (before : List (Bus.Act H)) (caller : Caller)
    (denied : Nat) (topic : String) (payload : Json) (o : PublishOptions)
    (outcome : PublishOutcome) :
    let s := (Bus.Session.start config hosted).run before
    let made := x.perform { bus := s.bus, caller, denied } (.publish s.now topic payload o)
    made.1 = .ok (.published outcome) → p.Allows .publish topic ∧
      ∀ after s' ending pass, (s', .finish ending) ∈ { s with bus := made.2.2.bus }.trace after →
        s'.bus.pass? = some pass → pass.parcel.message.id = outcome.id →
        ∀ reply ∈ (s'.traffic (.finish ending)).entered,
          o.replyTo = some reply.topic ∧ o.correlation = reply.correlation ∧
          o.correlation ≠ none ∧
          ((∀ name, o.replyTo = some name → p.Allows .publish name) →
            p.Allows .publish reply.topic) := by
  intro s made hmade
  let call : PluginCall H := .publish s.now topic payload o
  have haccess : x.Access p { bus := s.bus, caller, denied } call made :=
    perform_access hg (Guard.of_ofPermissions hp) htopics _ call
  have hperforms : x.Performs { bus := s.bus, caller, denied } call made :=
    x.perform_performs _ call
  clear_value made
  obtain ⟨r, x', services⟩ := made
  obtain rfl : r = .ok (.published outcome) := hmade
  refine ⟨haccess.allows, ?_⟩
  intro after s' ending pass hlog hpass hid reply hreply
  -- what has entered is the message that the call describes
  have hholds : Bus.Holds (s.bus.draft outcome.id topic payload o s.now) services.bus :=
    Bus.holds_of_publish (Bus.Session.flight_issued config hosted before) hperforms.of_published
  have hmessage : pass.parcel.stamp = s.bus.draft outcome.id topic payload o s.now :=
    (Bus.Session.run_holds (s := { s with bus := services.bus }) hholds hlog).same _
      (Bus.Session.mem_flight_of_pass hpass) hid
  obtain ⟨pass', hpass', hreplyTo, hcorrelation, hsome⟩ := Bus.Session.reply_entered hreply
  obtain rfl : pass = pass' := Option.some.inj (hpass.symm.trans hpass')
  have haddress : o.replyTo = some reply.topic :=
    (congrArg Message.replyTo hmessage).symm.trans hreplyTo
  have hnamed : o.correlation = reply.correlation :=
    (congrArg Message.correlation hmessage).symm.trans hcorrelation
  exact ⟨haddress, hnamed, hnamed ▸ hsome, fun hpermitted => hpermitted _ haddress⟩

/-- A message of a plugin is answered within the permission. -/
theorem publish_confined_sensor :
    let p : Permissions := { capabilities := [.publish], topics := ["sensor.*"] }
    let x : PluginContext :=
      { plugin := "probe", guard := some ⟨"probe", [.publish], [.under ["sensor"]]⟩ }
    let o : PublishOptions := { replyTo := some "sensor.ack", correlation := some "c" }
    let s : Bus.Session Unit := (Bus.Session.start {} true).run [.serve "sensor.cmd" () {}]
    let made := x.perform { bus := s.bus, caller := .create {}, denied := 0 }
      (.publish s.now "sensor.cmd" .null o)
    let s' := { s with bus := made.2.2.bus }.run [.turn, .turn]
    ∃ reply ∈ (s'.traffic (.finish (.returned .null))).entered,
      reply.topic = "sensor.ack" ∧ p.Allows .publish reply.topic := by
  intro p x o s made s'
  have hreply : ∃ reply ∈ (s'.traffic (.finish (.returned .null))).entered,
      reply.topic = "sensor.ack" := ⟨_, List.mem_singleton_self _, rfl⟩
  obtain ⟨reply, hmem, htopic⟩ := hreply
  obtain ⟨pass, hpass, hid⟩ : ∃ pass, s'.bus.pass? = some pass ∧
      pass.parcel.message.id = Mint.grouped 1 1 := ⟨_, rfl, rfl⟩
  obtain ⟨-, hreplies⟩ := publish_confined (x := x) (p := p) rfl rfl (by decide) {} true
    [.serve "sensor.cmd" () {}] (.create {}) 0 "sensor.cmd" .null o
    (.queued (Mint.grouped 1 1)) rfl
  obtain ⟨-, -, -, hpermitted⟩ := hreplies [.turn, .turn, .finish (.returned .null)] s'
    (.returned .null) pass (.tail _ (.tail _ (.head _))) hpass hid reply hmem
  refine ⟨reply, hmem, htopic, hpermitted ?_⟩
  rintro name hname
  obtain rfl : "sensor.ack" = name := Option.some.inj hname
  exact ⟨by decide, "sensor.*", by decide, .under ["sensor"], rfl, by decide⟩

/-- **Reply addresses are not checked.**  A plugin that may publish below `sensor`
    only has a responder publish on `alarm.raise`. -/
theorem publish_unconfined_alarm :
    let p : Permissions := { capabilities := [.publish], topics := ["sensor.*"] }
    let g : Guard := ⟨"probe", [.publish], [.under ["sensor"]]⟩
    let x : PluginContext := { plugin := "probe", guard := some g }
    let o : PublishOptions := { replyTo := some "alarm.raise", correlation := some "c" }
    let s : Bus.Session Unit := (Bus.Session.start {} true).run [.serve "sensor.cmd" () {}]
    let made := x.perform { bus := s.bus, caller := .create {}, denied := 0 }
      (.publish s.now "sensor.cmd" .null o)
    let s' := { s with bus := made.2.2.bus }.run [.turn, .turn]
    Guard.ofPermissions x.plugin p = .ok g ∧ made.1.isOk = true ∧
      ¬ p.Allows .publish "alarm.raise" ∧
      (s'.traffic (.finish (.returned .null))).entered.map (·.topic) = ["alarm.raise"] := by
  refine ⟨rfl, rfl, ?_, rfl⟩
  rintro ⟨-, name, hname, allowed, hparse, haccepts⟩
  obtain rfl : name = "sensor.*" := List.mem_singleton.1 hname
  obtain rfl : .under ["sensor"] = allowed := Except.ok.inj hparse
  exact absurd haccepts (by decide)

end PluginContext

end Switchboard
