import Mathlib.Data.List.Perm.Basic
import Switchboard.Proofs.Bus.Desk
import Switchboard.Proofs.Mint
import Switchboard.Proofs.Queue

/-
  Traffic — the messages that enter a bus and leave it.

  A message enters when it is published and leaves with a fate; between the two
  it is in flight, in the queue or in the hands of the drainer.  One that
  leaves undelivered settles the request that waits for its answer.

  * `Fate`, `Bus.flight`, `Traffic`;
  * `Bus.verdicts` are the settlements that traffic brings about;
  * `Bus.Effect`: an operation has this traffic and makes these settlements, and
    its counters say so.  `publish_effect`, `turn_effect`, `finish_effect`,
    `sweepStale_effect` and `shutdown_effect` tell what each operation does.
-/

namespace Switchboard

variable {H : Type}

/-! ## Fates -/

/-- How a message leaves the bus for good. -/
inductive Fate where
  | expired
  | undeliverable
  | processed
  | failed
  | overflowed
  /-- it was waiting at shutdown -/
  | discarded
  deriving DecidableEq, Repr

/-- The counter of a fate. -/
def BusCounters.of (c : BusCounters) : Fate → Nat
  | .expired => c.expired
  | .undeliverable => c.undeliverable
  | .processed => c.processed
  | .failed => c.failed
  | .overflowed => c.overflowed
  | .discarded => c.discarded

/-- A message as it was published. -/
def Message.stamp (m : Message) : Message := { m with attempts := 0 }

def Parcel.stamp (p : Parcel) : Message := p.message.stamp

/-- The messages that enter a bus, and those that leave it with their fates. -/
structure Traffic where
  entered : List Message := []
  left : List (Fate × Message) := []
  /-- whether the bus is shut down -/
  shut : Bool := false

def Traffic.append (t t' : Traffic) : Traffic :=
  ⟨t.entered ++ t'.entered, t.left ++ t'.left, t.shut || t'.shut⟩

@[simp] theorem Traffic.append_empty (t : Traffic) : t.append {} = t := by
  obtain ⟨entered, left, shut⟩ := t
  simp [append]

namespace Bus

/-- The delivery that is under way. -/
def pass? (b : Bus H) : Option (Pass H) :=
  match b.drainer with
  | .delivering pass => some pass
  | _ => none

/-- The messages in flight: the one being delivered, and those in the queue. -/
def flight (b : Bus H) : List Message :=
  (b.pass?.map (·.parcel.stamp)).toList ++ b.queue.toList.map (·.stamp)

/-- What a fate means to the request behind a message. -/
def verdict? (b : Bus H) (m : Message) : Fate → Option BusFault
  | .undeliverable => some (.noSubscriber m.topic)
  | .failed => (b.pass?.bind (·.failure)).map .handler
  | .overflowed => some (.queueOverflow m.topic)
  | .expired | .processed | .discarded => none

/-- The settlements that messages bring about by leaving. -/
def verdicts (b : Bus H) (t : Traffic) : List (String × Reply) :=
  t.left.flatMap fun d => (b.verdict? d.2 d.1).toList.flatMap (orderOf d.2)

/-! ## Effects -/

/-- The books of a bus agree with its traffic. -/
structure Accounts (b : Bus H) (t : Traffic) (b' : Bus H) : Prop where
  config : b'.config = b.config
  closed : b'.closed = (b.closed || t.shut)
  published : b'.counters.published = b.counters.published + t.entered.length
  fates : ∀ f, b'.counters.of f = b.counters.of f + (t.left.map (·.1)).count f
  flight : (b.flight ++ t.entered).Perm (b'.flight ++ t.left.map (·.2))
  mint : b.mint.Reaches b'.mint
  fresh : ∀ m ∈ t.entered, ¬ b.mint.Issued m.id ∧ b'.mint.Issued m.id
  once : (t.entered.map (·.id)).Nodup

/-- What is in flight was in flight before, or has entered. -/
theorem Accounts.mem_flight {b b' : Bus H} {t : Traffic} (h : b.Accounts t b') {m : Message}
    (hm : m ∈ b'.flight) : m ∈ b.flight ∨ m ∈ t.entered :=
  List.mem_append.1 (h.flight.mem_iff.2 (List.mem_append_left _ hm))

theorem Accounts.trans {b b' b'' : Bus H} {t t' : Traffic} (h : b.Accounts t b')
    (h' : b'.Accounts t' b'') : b.Accounts (t.append t') b'' where
  config := h'.config.trans h.config
  closed := by
    rw [h'.closed, h.closed, Bool.or_assoc]
    rfl
  published := by
    rw [h'.published, h.published, Nat.add_assoc, ← List.length_append]
    rfl
  fates f := by
    rw [h'.fates, h.fates, Nat.add_assoc, ← List.count_append, ← List.map_append]
    rfl
  flight := by
    have h₁ := h.flight.append_right t'.entered
    have h₂ := h'.flight.append_right (t.left.map (·.2))
    rw [List.append_assoc, List.append_assoc] at h₁ h₂
    simp only [Traffic.append, List.map_append]
    calc List.Perm (b.flight ++ (t.entered ++ t'.entered))
          (b'.flight ++ (t.left.map (·.2) ++ t'.entered)) := h₁
      List.Perm _ (b'.flight ++ (t'.entered ++ t.left.map (·.2))) :=
        List.perm_append_comm.append_left _
      List.Perm _ (b''.flight ++ (t'.left.map (·.2) ++ t.left.map (·.2))) := h₂
      List.Perm _ (b''.flight ++ (t.left.map (·.2) ++ t'.left.map (·.2))) :=
        List.perm_append_comm.append_left _
  mint := h.mint.trans h'.mint
  fresh m hm := by
    rcases List.mem_append.1 hm with hm | hm
    · exact ⟨(h.fresh m hm).1, h'.mint.issued (h.fresh m hm).2⟩
    · exact ⟨fun hi => (h'.fresh m hm).1 (h.mint.issued hi), (h'.fresh m hm).2⟩
  once := by
    simp only [Traffic.append, List.map_append]
    refine List.Nodup.append h.once h'.once fun id hid hid' => ?_
    obtain ⟨m, hm, rfl⟩ := List.mem_map.1 hid
    obtain ⟨m', hm', heq⟩ := List.mem_map.1 hid'
    exact (h'.fresh m' hm').1 (heq ▸ (h.fresh m hm).2)

/-- What an operation did: its traffic, its settlements, and subscriptions that
    were taken out. -/
structure Effect (b : Bus H) (t : Traffic) (os : List (String × Reply)) (b' : Bus H) : Prop
    extends b.Accounts t b' where
  desk : b'.desk = b.desk.settleAll os
  index : b.index.Thins b'.index

theorem Effect.trans {b b' b'' : Bus H} {t t' : Traffic} {os os' : List (String × Reply)}
    (h : b.Effect t os b') (h' : b'.Effect t' os' b'') :
    b.Effect (t.append t') (os ++ os') b'' where
  toAccounts := h.toAccounts.trans h'.toAccounts
  desk := by rw [h'.desk, h.desk, Desk.settleAll_append]
  index := h.index.trans h'.index

/-- An operation without traffic. -/
theorem Accounts.quiet {b b' : Bus H} (hconfig : b'.config = b.config)
    (hclosed : b'.closed = b.closed) (hpublished : b'.counters.published = b.counters.published)
    (hfates : ∀ f, b'.counters.of f = b.counters.of f) (hflight : b'.flight = b.flight)
    (hmint : b.mint.Reaches b'.mint) : b.Accounts {} b' where
  config := hconfig
  closed := by rw [hclosed, Bool.or_false]
  published := hpublished
  fates := hfates
  flight := by rw [hflight]; exact List.Perm.refl _
  mint := hmint
  fresh := by simp
  once := List.nodup_nil

theorem AtDesk.accounts {b b' : Bus H} {d : Desk} (h : b.AtDesk d b') : b.Accounts {} b' :=
  .quiet h.config h.closed (by rw [h.counters]) (fun f => by rw [h.counters])
    (by simp only [flight, pass?, h.drainer, h.queue]) (by rw [h.mint]; exact .refl _)

theorem AtDesk.effect {b b' : Bus H} {os : List (String × Reply)}
    (h : b.AtDesk (b.desk.settleAll os) b') : b.Effect {} os b' where
  toAccounts := h.accounts
  desk := h.desk
  index := h.index

/-- An operation that touches neither queue, desk nor index. -/
theorem Effect.quiet {b b' : Bus H} (hconfig : b'.config = b.config)
    (hclosed : b'.closed = b.closed) (hpublished : b'.counters.published = b.counters.published)
    (hfates : ∀ f, b'.counters.of f = b.counters.of f) (hflight : b'.flight = b.flight)
    (hmint : b'.mint = b.mint) (hdesk : b'.desk = b.desk) (hindex : b'.index = b.index) :
    b.Effect {} [] b' where
  toAccounts := .quiet hconfig hclosed hpublished hfates hflight (by rw [hmint]; exact .refl _)
  desk := hdesk
  index := by rw [hindex]; exact .refl _

theorem Effect.refl (b : Bus H) : b.Effect {} [] b :=
  .quiet rfl rfl rfl (fun _ => rfl) rfl rfl rfl rfl

/-! ## The queue -/

/-- The message that has to make room for a parcel. -/
def ousted (b : Bus H) (p : Parcel) : List (Fate × Message) :=
  ((b.queue.join b.config.maxQueueDepth p).1.map fun out => (.overflowed, out.stamp)).toList

/-- What queueing a parcel does. -/
structure Joins (b : Bus H) (p : Parcel) (b' : Bus H) : Prop where
  config : b'.config = b.config
  closed : b'.closed = b.closed
  drainer : b'.drainer = b.drainer
  mint : b'.mint = b.mint
  published : b'.counters.published = b.counters.published
  fates : ∀ f, b'.counters.of f = b.counters.of f + ((b.ousted p).map (·.1)).count f
  queue : (b.queue.toList.map (·.stamp) ++ [p.stamp]).Perm
    (b'.queue.toList.map (·.stamp) ++ (b.ousted p).map (·.2))
  desk : b'.desk = b.desk.settleAll (b.verdicts { left := b.ousted p })
  index : b.index.Thins b'.index

theorem enqueue_joins (b : Bus H) (p : Parcel) : b.Joins p (b.enqueue p) := by
  have hperm := (b.queue.join_perm b.config.maxQueueDepth p).map (·.stamp)
  simp only [List.map_append] at hperm
  unfold enqueue
  rcases hjoin : b.queue.join b.config.maxQueueDepth p with ⟨out, q⟩
  rw [hjoin] at hperm
  cases out with
  | none =>
    have hnone : b.ousted p = [] := by simp [ousted, hjoin]
    exact
      { config := rfl, closed := rfl, drainer := rfl, mint := rfl, published := rfl
        fates := fun f => by rw [hnone]; rfl
        queue := by rw [hnone]; exact hperm
        desk := by rw [hnone]; rfl
        index := .refl _ }
  | some out =>
    have hsome : b.ousted p = [(.overflowed, out.stamp)] := by simp [ousted, hjoin]
    have h := settleMessage_atDesk
      ({ b with queue := q }.count fun c => { c with overflowed := c.overflowed + 1 })
      out.message (.queueOverflow out.message.topic)
    exact
      { config := h.config, closed := h.closed, drainer := h.drainer, mint := h.mint
        published := by rw [h.counters]; rfl
        fates := fun f => by rw [h.counters, hsome]; cases f <;> rfl
        queue := by rw [h.queue, hsome]; exact hperm
        desk := by
          rw [h.desk, hsome]
          simp only [verdicts, verdict?, List.flatMap_cons, List.flatMap_nil, Option.toList_some,
            List.append_nil]
          rfl
        index := h.index }

@[simp] theorem flight_wake (b : Bus H) : b.wake.flight = b.flight := by
  unfold wake
  split
  · next h => simp only [flight, pass?, h]
  · rfl

theorem wake_effect (b : Bus H) : b.Effect {} [] b.wake := by
  refine .quiet ?_ ?_ ?_ (fun f => ?_) b.flight_wake ?_ ?_ ?_ <;> (unfold wake; split <;> rfl)

/-! ## Publishing -/

/-- The reasons for which a bus does not accept a message. -/
def Refuses (b : Bus H) (topic : String) (f : BusFault) : Prop :=
  b.closed = true ∧ f = .shutdown ∨ Address.topic topic = .error f ∨
    b.hosted = false ∧ f = .noRuntime

/-- The traffic of publishing a message. -/
def publishTraffic (b : Bus H) (now : Nat) (topic : String) (payload : Json)
    (o : PublishOptions) : Traffic :=
  match (b.publish now topic payload o).1 with
  | .error _ => {}
  | .ok (.expired id) =>
    let m := b.draft id topic payload o now
    { entered := [m], left := [(.expired, m)] }
  | .ok (.queued id) =>
    let m := b.draft id topic payload o now
    { entered := [m], left := b.ousted (.fresh m) }

/-- The bus when a message is accepted. -/
def entering (b : Bus H) : Bus H :=
  { b with mint := b.mint.advance }.count fun c => { c with published := c.published + 1 }

theorem publish_cases (b : Bus H) (now : Nat) (topic : String) (payload : Json)
    (o : PublishOptions) :
    let m := b.draft b.mint.take.1 topic payload o now
    (∃ f, b.Refuses topic f ∧ b.publish now topic payload o = (.error f, b)) ∨
    (m.isExpiredAt now = true ∧ b.publish now topic payload o =
      (.ok (.expired m.id), b.entering.count fun c => { c with expired := c.expired + 1 })) ∨
    (m.isExpiredAt now = false ∧ b.publish now topic payload o =
      (.ok (.queued m.id), (b.entering.enqueue (.fresh m)).wake)) := by
  intro m
  unfold publish
  split
  · next h => exact Or.inl ⟨_, Or.inl ⟨h, rfl⟩, rfl⟩
  · split
    · next f h => exact Or.inl ⟨f, Or.inr (Or.inl h), rfl⟩
    · split
      · next h => exact Or.inl ⟨_, Or.inr (Or.inr ⟨by simpa using h, rfl⟩), rfl⟩
      · dsimp only
        split
        · next h => exact Or.inr (Or.inl ⟨h, rfl⟩)
        · next h => exact Or.inr (Or.inr ⟨Bool.eq_false_iff.2 h, rfl⟩)

/-- One message enters on an open bus with a host and on a topic, and else none. -/
theorem publishTraffic_cases (b : Bus H) (now : Nat) (topic : String) (payload : Json)
    (o : PublishOptions) :
    (b.closed = false ∧ b.hosted = true ∧ Address.topic topic = .ok () ∧
      ∃ id, (b.publishTraffic now topic payload o).entered = [b.draft id topic payload o now]) ∨
    ((b.closed = true ∨ b.hosted = false ∨ ∀ u, Address.topic topic ≠ .ok u) ∧
      (b.publishTraffic now topic payload o).entered = []) := by
  rcases hclosed : b.closed with _ | _
  · rcases htopic : Address.topic topic with f | u
    · refine Or.inr ⟨Or.inr (Or.inr nofun), ?_⟩
      simp [publishTraffic, publish, hclosed, htopic]
    · rcases hhosted : b.hosted with _ | _
      · refine Or.inr ⟨Or.inr (Or.inl rfl), ?_⟩
        simp [publishTraffic, publish, hclosed, htopic, hhosted]
      · refine Or.inl ⟨rfl, rfl, rfl, ?_⟩
        rcases b.publish_cases now topic payload o with ⟨f, hf, -⟩ | ⟨-, heq⟩ | ⟨-, heq⟩
        · simp [Refuses, hclosed, htopic, hhosted] at hf
        · exact ⟨_, by rw [publishTraffic, heq]⟩
        · exact ⟨_, by rw [publishTraffic, heq]⟩
  · refine Or.inr ⟨Or.inl rfl, ?_⟩
    simp [publishTraffic, publish, hclosed]

/-- **Publishing** accepts one message, or none. -/
theorem publish_effect (b : Bus H) (now : Nat) (topic : String) (payload : Json)
    (o : PublishOptions) :
    b.Effect (b.publishTraffic now topic payload o)
      (b.verdicts (b.publishTraffic now topic payload o)) (b.publish now topic payload o).2 := by
  have hfresh := b.mint.not_issued_take
  have hissued := b.mint.issued_take
  rcases b.publish_cases now topic payload o with ⟨f, -, h⟩ | ⟨-, h⟩ | ⟨-, h⟩
  · rw [publishTraffic, h]
    exact .refl b
  · rw [publishTraffic, h]
    exact
      { config := rfl
        closed := (Bool.or_false _).symm
        published := rfl
        fates := fun f => by cases f <;> rfl
        flight := List.Perm.refl _
        mint := b.mint.reaches_advance
        fresh := fun m hm => by obtain rfl := List.mem_singleton.1 hm; exact ⟨hfresh, hissued⟩
        once := List.nodup_singleton _
        desk := rfl
        index := .refl _ }
  · rw [publishTraffic, h]
    have hj := b.entering.enqueue_joins (.fresh (b.draft b.mint.take.1 topic payload o now))
    have hw := wake_effect (b.entering.enqueue (.fresh (b.draft b.mint.take.1 topic payload o now)))
    have hmint : b.mint.advance.Reaches _ := hj.mint ▸ hw.mint
    exact
      { config := hw.config.trans hj.config
        closed := by
          rw [hw.closed, hj.closed]
          rfl
        published := by rw [hw.published, hj.published]; rfl
        fates := fun f => by rw [hw.fates, hj.fates]; cases f <;> rfl
        flight := by
          rw [flight_wake]
          simp only [flight, pass?, hj.drainer, List.append_assoc]
          exact hj.queue.append_left _
        mint := b.mint.reaches_advance.trans hmint
        fresh := fun m hm => by
          obtain rfl := List.mem_singleton.1 hm
          exact ⟨hfresh, hmint.issued hissued⟩
        once := List.nodup_singleton _
        desk := hw.desk.trans hj.desk
        index := hj.index.trans hw.index }

end Bus

end Switchboard
