import Switchboard.Proofs.Bus.Parcels

/-
  What is done beside the drainer.

  * `withDrainer` gives a bus another drainer; the operations of the bus that are
    not the drainer's own do not see the difference, `settle_withDrainer` and the
    lemmas beside it;
  * `Drainer.roused`: all that publishing does to a drainer is to wake it, where
    a message waits;
  * `step_beside`: what an act does that is not the drainer's is the same
    whatever the drainer is at, and the drainer is at most woken.
-/

namespace Switchboard

variable {H : Type}

/-- A drainer after somebody may have woken it. -/
def Drainer.roused (d : Drainer H) (woken : Bool) : Drainer H :=
  match d, woken with
  | .idle, true => .ready
  | d, _ => d

@[simp] theorem Drainer.roused_false (d : Drainer H) : d.roused false = d := by
  cases d <;> rfl

theorem Drainer.roused_of_ne_idle {d : Drainer H} (h : d ≠ .idle) (woken : Bool) :
    d.roused woken = d := by
  cases d with
  | idle => exact absurd rfl h
  | _ => rfl

namespace Bus

theorem isDraining_iff {b : Bus H} : b.isDraining = true ↔ b.drainer ≠ .idle := by
  unfold isDraining
  split
  · next h => simp [h]
  · next h => simpa using h

/-- The bus with another drainer. -/
def withDrainer (b : Bus H) (d : Drainer H) : Bus H := { b with drainer := d }

@[simp] theorem withDrainer_drainer (b : Bus H) (d : Drainer H) :
    (b.withDrainer d).drainer = d := rfl

@[simp] theorem withDrainer_queue (b : Bus H) (d : Drainer H) :
    (b.withDrainer d).queue = b.queue := rfl

@[simp] theorem withDrainer_closed (b : Bus H) (d : Drainer H) :
    (b.withDrainer d).closed = b.closed := rfl

@[simp] theorem withDrainer_withDrainer (b : Bus H) (d d' : Drainer H) :
    (b.withDrainer d).withDrainer d' = b.withDrainer d' := rfl

@[simp] theorem withDrainer_self (b : Bus H) : b.withDrainer b.drainer = b := rfl

/-! ## Settling and subscribing -/

theorem unsubscribe_withDrainer (b : Bus H) (d : Drainer H) (id : String) :
    (b.withDrainer d).unsubscribe id =
      ((b.unsubscribe id).1, (b.unsubscribe id).2.withDrainer d) := by
  simp only [unsubscribe, withDrainer]
  split <;> rfl

theorem conclude_withDrainer (b : Bus H) (d : Drainer H) (p : Pending) (r : Reply) :
    (b.withDrainer d).conclude p r = (b.conclude p r).withDrainer d := by
  simp only [conclude, unsubscribe_withDrainer]
  rfl

theorem settle_withDrainer (b : Bus H) (d : Drainer H) (c : String) (r : Reply) :
    (b.withDrainer d).settle c r = (b.settle c r).withDrainer d := by
  rcases hp : b.pending.find? (·.correlation = c) with _ | p
  · simp only [settle, withDrainer, hp]
  · have hconclude := conclude_withDrainer
      { b with pending := b.pending.filter (·.correlation ≠ c) } d p r
    simp only [settle, withDrainer, hp] at hconclude ⊢
    exact hconclude

theorem settleMessage_withDrainer (b : Bus H) (d : Drainer H) (m : Message) (f : BusFault) :
    (b.withDrainer d).settleMessage m f = (b.settleMessage m f).withDrainer d := by
  unfold settleMessage
  split
  · exact b.settle_withDrainer d _ _
  · rfl

theorem close_withDrainer (b : Bus H) (d : Drainer H) (c : String) :
    (b.withDrainer d).close c = (b.close c).withDrainer d := by
  rcases hp : b.pending.find? (·.correlation = c) with _ | p
  · simp only [close, withDrainer, hp]
  · have hun := unsubscribe_withDrainer
      { b with pending := b.pending.filter (·.correlation ≠ c) } d p.subscription
    simp only [close, withDrainer, hp] at hun ⊢
    rw [hun]

theorem add_withDrainer (b : Bus H) (d : Drainer H) (p : Pattern) (listener : Listener H)
    (metadata : Metadata) :
    (b.withDrainer d).add p listener metadata =
      ((b.add p listener metadata).1, (b.add p listener metadata).2.withDrainer d) := by
  by_cases h : b.closed = true <;> simp [add, withDrainer, h]

theorem subscribe_withDrainer (b : Bus H) (d : Drainer H) (topic : String)
    (listener : Listener H) (metadata : Metadata) :
    (b.withDrainer d).subscribe topic listener metadata =
      ((b.subscribe topic listener metadata).1,
        (b.subscribe topic listener metadata).2.withDrainer d) := by
  unfold subscribe
  split
  · rfl
  · split
    · exact b.add_withDrainer d _ _ _
    · rfl

theorem subscribePattern_withDrainer (b : Bus H) (d : Drainer H) (pattern : String)
    (listener : Listener H) (metadata : Metadata) :
    (b.withDrainer d).subscribePattern pattern listener metadata =
      ((b.subscribePattern pattern listener metadata).1,
        (b.subscribePattern pattern listener metadata).2.withDrainer d) := by
  unfold subscribePattern
  split
  · rfl
  · split
    · exact b.add_withDrainer d _ _ _
    · rfl

/-- What does not see the drainer, done for a list of things. -/
theorem foldl_withDrainer {α : Type} {f : Bus H → α → Bus H}
    (hf : ∀ b d x, f (b.withDrainer d) x = (f b x).withDrainer d) (xs : List α) (b : Bus H)
    (d : Drainer H) : xs.foldl f (b.withDrainer d) = (xs.foldl f b).withDrainer d := by
  induction xs generalizing b with
  | nil => rfl
  | cons x xs ih => rw [List.foldl_cons, hf, ih, List.foldl_cons]

theorem sweepStale_withDrainer (b : Bus H) (d : Drainer H) (now maxAge : Nat) :
    ((b.withDrainer d).sweepStale now maxAge).2 = (b.sweepStale now maxAge).2.withDrainer d :=
  foldl_withDrainer (f := sweepOne maxAge) (fun b d p => settle_withDrainer
    (b.count fun c => { c with timeouts := c.timeouts + 1 }) d p.correlation _) _ b d

theorem shutdown_of_open {b : Bus H} (h : b.closed = false) :
    b.shutdown =
      { b.pending.foldl (fun b p => b.settle p.correlation (.error .shutdown)) b.emptied with
        index := {}, patterns := [] } := by
  simp only [shutdown, h]
  rfl

theorem shutdown_withDrainer (b : Bus H) (d : Drainer H) :
    (b.withDrainer d).shutdown = b.shutdown.withDrainer d := by
  rcases hclosed : b.closed with _ | _
  · have hfold := foldl_withDrainer
      (f := fun b (p : Pending) => b.settle p.correlation (.error .shutdown))
      (fun b d p => b.settle_withDrainer d p.correlation (.error .shutdown)) b.pending b.emptied d
    rw [shutdown_of_open hclosed, shutdown_of_open (b := b.withDrainer d) hclosed]
    change { b.pending.foldl _ (b.emptied.withDrainer d) with index := {}, patterns := [] } = _
    rw [hfold]
    rfl
  · simp only [shutdown, withDrainer, hclosed, if_true]

theorem attend_withDrainer (b : Bus H) (d : Drainer H) (now : Nat) (t : Ticket) :
    (b.withDrainer d).attend now t = ((b.attend now t).1, (b.attend now t).2.withDrainer d) := by
  have hresult : (b.withDrainer d).result? t = b.result? t := rfl
  have hpending : (b.withDrainer d).hasPending t.correlation = b.hasPending t.correlation := rfl
  have htimeOut : (b.withDrainer d).timeOut t = ((b.timeOut t).1, (b.timeOut t).2.withDrainer d) :=
    congrArg (Prod.mk _) (close_withDrainer (b.count fun c => { c with timeouts := c.timeouts + 1 })
      d t.correlation)
  unfold attend
  rw [hresult, hpending, close_withDrainer, htimeOut]
  rcases b.result? t with _ | r
  · rcases b.hasPending t.correlation with _ | _
    · rfl
    · by_cases hdeadline : t.deadline ≤ now <;> simp [hdeadline]
  · rfl

/-! ## Publishing -/

theorem enqueue_withDrainer (b : Bus H) (d : Drainer H) (p : Parcel) :
    (b.withDrainer d).enqueue p = (b.enqueue p).withDrainer d := by
  rcases hjoin : b.queue.join b.config.maxQueueDepth p with ⟨_ | out, queue⟩
  · simp only [enqueue, withDrainer, hjoin]
  · have hsettle := settleMessage_withDrainer
      ({ b with queue }.count fun c => { c with overflowed := c.overflowed + 1 }) d out.message
      (.queueOverflow out.message.topic)
    simp only [enqueue, withDrainer, hjoin] at hsettle ⊢
    exact hsettle

theorem wake_withDrainer (b : Bus H) (d : Drainer H) :
    (b.withDrainer d).wake = b.withDrainer (d.roused true) := by
  cases d <;> rfl

/-- **Publishing** answers the same, and does the same, whatever the drainer is
    at; it wakes it where a message waits. -/
theorem publish_withDrainer (b : Bus H) (now : Nat) (topic : String) (payload : Json)
    (o : PublishOptions) :
    ∃ (x : Except BusFault PublishOutcome) (r : Bus H) (woken : Bool),
      (woken = true → r.queue.toList ≠ []) ∧
        ∀ d, (b.withDrainer d).publish now topic payload o =
          (x, r.withDrainer (d.roused woken)) := by
  have hasleep {r : Bus H} : false = true → r.queue.toList ≠ [] := fun h => by cases h
  by_cases hclosed : b.closed = true
  · exact ⟨.error .shutdown, b, false, hasleep, fun d => by simp [publish, hclosed]⟩
  rcases htopic : Address.topic topic with f | ⟨⟩
  · exact ⟨.error f, b, false, hasleep, fun d => by simp [publish, hclosed, htopic]⟩
  by_cases hhosted : b.hosted = true
  · let m := b.draft b.mint.take.1 topic payload o now
    by_cases hexpired : m.isExpiredAt now = true
    · refine ⟨.ok (.expired m.id), b.entering.count fun c => { c with expired := c.expired + 1 },
        false, hasleep, fun d => ?_⟩
      rcases (b.withDrainer d).publish_cases now topic payload o with
        ⟨f, hf, -⟩ | ⟨-, h⟩ | ⟨hfresh, -⟩
      · simp [Refuses, withDrainer, hclosed, htopic, hhosted] at hf
      · rw [h, Drainer.roused_false]
        rfl
      · exact absurd (hexpired.symm.trans hfresh) (by decide)
    · refine ⟨.ok (.queued m.id), b.entering.enqueue (.fresh m), true, fun _ => ?_, fun d => ?_⟩
      · rw [enqueue_queue]
        exact Queue.toList_join_ne_nil _ _ _
      rcases (b.withDrainer d).publish_cases now topic payload o with
        ⟨f, hf, -⟩ | ⟨hexpired', -⟩ | ⟨-, h⟩
      · simp [Refuses, withDrainer, hclosed, htopic, hhosted] at hf
      · exact absurd hexpired' hexpired
      · rw [h, ← wake_withDrainer, ← enqueue_withDrainer]
        rfl
  · exact ⟨.error .noRuntime, b, false, hasleep, fun d => by
      simp [publish, withDrainer, hclosed, htopic, hhosted]⟩

theorem openRequest_withDrainer (b : Bus H) (now : Nat) (topic : String) (payload : Json)
    (o : RequestOptions) :
    ∃ (x : Except BusFault Ticket) (r : Bus H) (woken : Bool),
      (woken = true → r.queue.toList ≠ []) ∧
        ∀ d, (b.withDrainer d).openRequest now topic payload o =
          (x, r.withDrainer (d.roused woken)) := by
  have hasleep {r : Bus H} : false = true → r.queue.toList ≠ [] := fun h => by cases h
  rcases htopic : Address.topic topic with f | ⟨⟩
  · exact ⟨.error f, b, false, hasleep, fun d => by simp [openRequest, htopic]⟩
  rcases hpattern : Address.pattern b.replyTopic with f | pattern
  · refine ⟨.error f, { b with mint := b.mint.advance.advance }, false, hasleep, fun d => ?_⟩
    have hname := hpattern
    simp only [replyTopic, Mint.take, Mint.takeRun] at hname
    simp only [openRequest, withDrainer, htopic, Mint.take, Mint.takeRun, hname,
      Drainer.roused_false]
  have hopen (d : Drainer H) := openRequest_eq (b := b.withDrainer d) now payload o htopic hpattern
  by_cases hclosed : b.closed = true
  · refine ⟨.error .shutdown, { b with mint := b.mint.advance.advance }, false, hasleep, fun d => ?_⟩
    rw [Drainer.roused_false]
    exact (hopen d).trans (if_pos hclosed)
  · obtain ⟨x, r, woken, hwoken, hpublish⟩ := (b.asking now topic pattern).publish_withDrainer now topic
      payload (o.toPublish b.mint.take.1 b.replyTopic)
    have hsame (d : Drainer H) : ((b.withDrainer d).asking now topic pattern).publish now topic payload
        (o.toPublish (b.withDrainer d).mint.take.1 (b.withDrainer d).replyTopic) =
          (x, r.withDrainer (d.roused woken)) := hpublish d
    rcases x with f | outcome
    · have hqueue := (r.close_atDesk b.mint.take.1).queue
      refine ⟨.error f, r.close b.mint.take.1, woken, hqueue ▸ hwoken, fun d => ?_⟩
      refine (hopen d).trans ((if_neg hclosed).trans ?_)
      rw [hsame]
      exact congrArg (Prod.mk _) (r.close_withDrainer _ _)
    · let timeoutMs := o.timeoutMs.getD r.config.requestTimeoutMs
      refine ⟨.ok ⟨b.mint.take.1, topic, b.replyTopic, outcome.id, timeoutMs, now + timeoutMs⟩, r,
        woken, hwoken, fun d => ?_⟩
      refine (hopen d).trans ((if_neg hclosed).trans ?_)
      rw [hsame]
      rfl

end Bus

/-! ## Acts -/

namespace Bus.Session

/-- The session with another drainer. -/
def withDrainer (s : Session H) (d : Drainer H) : Session H := { s with bus := s.bus.withDrainer d }

@[simp] theorem withDrainer_bus (s : Session H) (d : Drainer H) :
    (s.withDrainer d).bus = s.bus.withDrainer d := rfl

@[simp] theorem withDrainer_withDrainer (s : Session H) (d d' : Drainer H) :
    (s.withDrainer d).withDrainer d' = s.withDrainer d' := rfl

@[simp] theorem withDrainer_self (s : Session H) : s.withDrainer s.bus.drainer = s := rfl

/-- **Beside the drainer**, an act does the same whatever the drainer is at, and
    at most wakes it, where a message waits. -/
theorem step_beside (s : Session H) {a : Act H} (hturn : a ≠ .turn)
    (hfinish : ∀ ending, a ≠ .finish ending) :
    ∃ (r : Session H) (woken : Bool), (woken = true → r.bus.queue.toList ≠ []) ∧
      ∀ d, (s.withDrainer d).step a = r.withDrainer (d.roused woken) := by
  have hblind {r : Session H} (h : ∀ d, (s.withDrainer d).step a = r.withDrainer d) :
      ∃ (r : Session H) (woken : Bool), (woken = true → r.bus.queue.toList ≠ []) ∧
        ∀ d, (s.withDrainer d).step a = r.withDrainer (d.roused woken) :=
    ⟨r, false, nofun, fun d => by rw [h, Drainer.roused_false]⟩
  cases a with
  | subscribe topic handler metadata =>
    refine hblind (r := s.step (.subscribe topic handler metadata)) fun d => ?_
    simp only [step, withDrainer, subscribe_withDrainer]
  | subscribePattern pattern handler metadata =>
    refine hblind (r := s.step (.subscribePattern pattern handler metadata)) fun d => ?_
    simp only [step, withDrainer, subscribePattern_withDrainer]
  | serve topic handler metadata =>
    refine hblind (r := s.step (.serve topic handler metadata)) fun d => ?_
    simp only [step, withDrainer, subscribe_withDrainer]
  | unsubscribe id =>
    refine hblind (r := s.step (.unsubscribe id)) fun d => ?_
    simp only [step, withDrainer, unsubscribe_withDrainer]
  | unsubscribePlugin plugin => exact hblind (r := s.step (.unsubscribePlugin plugin)) fun _ => rfl
  | publish topic payload o =>
    obtain ⟨x, r, woken, hwoken, h⟩ := s.bus.publish_withDrainer s.now topic payload o
    refine ⟨{ s with bus := r }, woken, hwoken, fun d => ?_⟩
    simp only [step, withDrainer, h]
  | request topic payload o =>
    obtain ⟨x, r, woken, hwoken, h⟩ := s.bus.openRequest_withDrainer s.now topic payload o
    rcases x with f | t
    · refine ⟨{ s with bus := r, calls := s.calls.refuse f }, woken, hwoken, fun d => ?_⟩
      simp only [step, withDrainer, h]
    · refine ⟨{ s with bus := r, calls := s.calls.begin t }, woken, hwoken, fun d => ?_⟩
      simp only [step, withDrainer, h]
  | attend n =>
    refine hblind (r := s.step (.attend n)) fun d => ?_
    rcases hn : s.calls.waiting.lookup n with _ | t
    · simp only [step, withDrainer, hn]
    · rcases ht : s.bus.attend s.now t with ⟨_ | r, b⟩ <;>
        simp only [step, withDrainer, hn, attend_withDrainer, ht]
  | drop n =>
    refine hblind (r := s.step (.drop n)) fun d => ?_
    rcases hn : s.calls.waiting.lookup n with _ | t <;>
      simp only [step, withDrainer, hn, close_withDrainer]
  | sweep maxAge =>
    refine hblind (r := s.step (.sweep maxAge)) fun d => ?_
    simp only [step, withDrainer, sweepStale_withDrainer]
  | shutdown =>
    refine hblind (r := s.step .shutdown) fun d => ?_
    simp only [step, withDrainer, shutdown_withDrainer]
  | turn => exact absurd rfl hturn
  | finish ending => exact absurd rfl (hfinish ending)
  | wait ms => exact hblind (r := s.step (.wait ms)) fun _ => rfl
  | host present => exact hblind (r := s.step (.host present)) fun _ => rfl

end Bus.Session

end Switchboard
