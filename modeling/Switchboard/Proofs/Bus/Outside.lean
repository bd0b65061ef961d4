import Switchboard.Proofs.Bus.Traffic

/-
  What is done to a bus from outside.

  * `Enrols` lists what subscribing a name can do and answer, `Subscribes` what
    is left of it for the bus, `Opens` how a request can begin, with its traffic;
  * `subscribe_enrols`, `subscribePattern_enrols` and `openRequest_opens` say that
    the lists are complete;
  * `sweepStale_effect` and `shutdown_effect` are the effects of settling
    requests from outside.
-/

namespace Switchboard.Bus

variable {H : Type}

/-! ## Subscribing -/

/-- What subscribing can do: nothing, or a new subscription is filed. -/
inductive Subscribes (b : Bus H) (listener : Listener H) : Bus H → Prop
  | refused : Subscribes b listener b
  | added (p metadata) : Pattern.Parsed p →
      Subscribes b listener
        { b with
          mint := b.mint.advance
          index := b.index.insert ⟨b.mint.take.1, p, listener, metadata⟩
          patterns := b.patterns ++ [(b.mint.take.1, p.text)] }

/-- The bus with a subscription that has taken the next id. -/
def enrol (b : Bus H) (sub : Subscription (Listener H)) : Bus H :=
  { b with
    mint := b.mint.advance
    index := b.index.insert sub
    patterns := b.patterns ++ [(sub.id, sub.pattern.text)] }

/-- What subscribing a name can do, with its answer: nothing, or a subscription is
    enrolled under the pattern that the name reads as. -/
inductive Enrols (b : Bus H) (name : String) (listener : Listener H) (metadata : Metadata) :
    Except BusFault String × Bus H → Prop
  | refused (f) : Enrols b name listener metadata (.error f, b)
  | enrolled (p) : Pattern.parse name = .ok p →
      Enrols b name listener metadata
        (.ok b.mint.take.1, b.enrol ⟨b.mint.take.1, p, listener, metadata⟩)

theorem add_enrols {b : Bus H} {name : String} {p : Pattern} (hp : Address.pattern name = .ok p)
    (listener : Listener H) (metadata : Metadata) :
    b.Enrols name listener metadata (b.add p listener metadata) := by
  unfold add
  split
  · exact .refused _
  · exact .enrolled p (parse_of_address hp)

theorem subscribe_enrols (b : Bus H) (topic : String) (listener : Listener H)
    (metadata : Metadata) :
    b.Enrols topic listener metadata (b.subscribe topic listener metadata) := by
  unfold subscribe
  split
  · exact .refused _
  · next p hp =>
    split
    · exact add_enrols hp listener metadata
    · exact .refused _

theorem subscribePattern_enrols (b : Bus H) (pattern : String) (listener : Listener H)
    (metadata : Metadata) :
    b.Enrols pattern listener metadata (b.subscribePattern pattern listener metadata) := by
  unfold subscribePattern
  split
  · exact .refused _
  · next p hp =>
    split
    · exact add_enrols hp listener metadata
    · exact .refused _

theorem Enrols.subscribes {b : Bus H} {name : String} {listener : Listener H} {metadata : Metadata}
    {r : Except BusFault String × Bus H} (h : b.Enrols name listener metadata r) :
    b.Subscribes listener r.2 := by
  cases h with
  | refused => exact .refused
  | enrolled p hp => exact .added p metadata (Pattern.parsed_of_parse hp)

theorem subscribe_subscribes (b : Bus H) (topic : String) (listener : Listener H)
    (metadata : Metadata) : b.Subscribes listener (b.subscribe topic listener metadata).2 :=
  (b.subscribe_enrols topic listener metadata).subscribes

theorem subscribePattern_subscribes (b : Bus H) (pattern : String) (listener : Listener H)
    (metadata : Metadata) :
    b.Subscribes listener (b.subscribePattern pattern listener metadata).2 :=
  (b.subscribePattern_enrols pattern listener metadata).subscribes

theorem Subscribes.accounts {b b' : Bus H} {listener : Listener H} (h : b.Subscribes listener b') :
    b.Accounts {} b' := by
  cases h with
  | refused => exact (Effect.refl b).toAccounts
  | added p metadata _ => exact .quiet rfl rfl rfl (fun _ => rfl) rfl b.mint.reaches_advance

/-! ## Requests -/

/-- Where the next request awaits its reply. -/
def replyTopic (b : Bus H) : String :=
  b.config.replyPrefix ++ "." ++ b.mint.take.1 ++ "." ++ b.mint.advance.takeRun.1

/-- The entry of the next request. -/
def entry (b : Bus H) (now : Nat) (topic : String) : Pending :=
  ⟨b.mint.take.1, topic, b.mint.advance.advance.take.1, now⟩

/-- The reply subscription of the next request. -/
def replyListener (b : Bus H) (topic : String) (pattern : Pattern) : Subscription (Listener H) :=
  ⟨b.mint.advance.advance.take.1, pattern, .reply b.mint.take.1,
    Metadata.describedAs ("reply for " ++ topic) {}⟩

/-- The bus when a request has been taken in and its message is not yet published. -/
def asking (b : Bus H) (now : Nat) (topic : String) (pattern : Pattern) : Bus H :=
  { b with
    mint := b.mint.advance.advance.advance
    index := b.index.insert (b.replyListener topic pattern)
    patterns := b.patterns ++ [(b.mint.advance.advance.take.1, pattern.text)]
    pending := b.pending ++ [b.entry now topic]
    counters := { b.counters with requests := b.counters.requests + 1 } }

theorem asking_reaches (b : Bus H) (now : Nat) (topic : String) (pattern : Pattern) :
    b.mint.Reaches (b.asking now topic pattern).mint :=
  (b.mint.reaches_advance.trans b.mint.advance.reaches_advance).trans
    b.mint.advance.advance.reaches_advance

/-- The id of a reply subscription is new, -/
theorem replyListener_not_issued (b : Bus H) (topic : String) (pattern : Pattern) :
    ¬ b.mint.Issued (b.replyListener topic pattern).id := by
  intro hissued
  have hreach := b.mint.reaches_advance.trans b.mint.advance.reaches_advance
  exact b.mint.advance.advance.not_issued_take (hreach.issued hissued)

/-- and taken when the request has been taken in. -/
theorem asking_issued (b : Bus H) (now : Nat) (topic : String) (pattern : Pattern) :
    (b.asking now topic pattern).mint.Issued (b.replyListener topic pattern).id :=
  b.mint.advance.advance.issued_take

/-- The ticket of the next request. -/
def ticket (b : Bus H) (now : Nat) (topic : String) (o : RequestOptions) : Ticket where
  correlation := b.mint.take.1
  topic := topic
  replyTopic := b.replyTopic
  message := b.mint.advance.advance.advance.take.1
  timeoutMs := o.timeoutMs.getD b.config.requestTimeoutMs
  deadline := now + o.timeoutMs.getD b.config.requestTimeoutMs

/-- The traffic of opening a request. -/
def requestTraffic (b : Bus H) (now : Nat) (topic : String) (payload : Json)
    (o : RequestOptions) : Traffic :=
  match (b.openRequest now topic payload o).1 with
  | .error _ => {}
  | .ok t =>
    let m := b.draft t.message topic payload (o.toPublish t.correlation t.replyTopic) now
    { entered := [m], left := b.ousted (.fresh m) }

/-- How a request can begin. -/
inductive Opens (b : Bus H) (now : Nat) (topic : String) (payload : Json) (o : RequestOptions) :
    Traffic → Except BusFault Ticket → Bus H → Prop
  /-- it is refused before it is taken in -/
  | refused (f mint) : Address.topic topic = .error f ∨ Address.pattern b.replyTopic = .error f ∨
      b.closed = true ∧ f = .shutdown → b.mint.Reaches mint →
      Opens b now topic payload o {} (.error f) { b with mint }
  /-- its message is refused -/
  | unpublished (pattern f) : Address.pattern b.replyTopic = .ok pattern → b.Refuses topic f →
      Opens b now topic payload o {} (.error f) ((b.asking now topic pattern).close b.mint.take.1)
  | opened (pattern) : Address.pattern b.replyTopic = .ok pattern →
      Opens b now topic payload o
        ((b.asking now topic pattern).publishTraffic now topic payload
          (o.toPublish b.mint.take.1 b.replyTopic))
        (.ok (b.ticket now topic o))
        ((b.asking now topic pattern).publish now topic payload
          (o.toPublish b.mint.take.1 b.replyTopic)).2

/-- The message of a request does not expire. -/
theorem isExpiredAt_toPublish (b : Bus H) (id topic : String) (payload : Json) (o : RequestOptions)
    (c replyTopic : String) (now : Nat) :
    (b.draft id topic payload (o.toPublish c replyTopic) now).isExpiredAt now = false := rfl

/-- A request on a topic that may be published, once its reply topic is read. -/
theorem openRequest_eq {b : Bus H} {topic : String} {pattern : Pattern} (now : Nat) (payload : Json)
    (o : RequestOptions) (htopic : Address.topic topic = .ok ())
    (hpattern : Address.pattern b.replyTopic = .ok pattern) :
    b.openRequest now topic payload o =
      if b.closed then (.error .shutdown, { b with mint := b.mint.advance.advance })
      else
        match (b.asking now topic pattern).publish now topic payload
            (o.toPublish b.mint.take.1 b.replyTopic) with
        | (.error f, b') => (.error f, b'.close b.mint.take.1)
        | (.ok outcome, b') =>
          let timeoutMs := o.timeoutMs.getD b'.config.requestTimeoutMs
          (.ok ⟨b.mint.take.1, topic, b.replyTopic, outcome.id, timeoutMs, now + timeoutMs⟩, b') := by
  have hname := hpattern
  simp only [replyTopic, Mint.take, Mint.takeRun] at hname
  simp only [openRequest, htopic, Mint.take, Mint.takeRun, hname, add]
  by_cases hclosed : b.closed = true
  · simp only [if_pos hclosed]
  · simp only [if_neg hclosed]
    rfl

theorem openRequest_opens (b : Bus H) (now : Nat) (topic : String) (payload : Json)
    (o : RequestOptions) :
    b.Opens now topic payload o (b.requestTraffic now topic payload o)
      (b.openRequest now topic payload o).1 (b.openRequest now topic payload o).2 := by
  have hreach := b.mint.reaches_advance.trans b.mint.advance.reaches_advance
  rcases htopic : Address.topic topic with f | ⟨⟩
  · simp only [requestTraffic, openRequest, htopic]
    exact .refused f b.mint (Or.inl htopic) (.refl _)
  rcases hpattern : Address.pattern b.replyTopic with f | pattern
  · have hopen : b.openRequest now topic payload o =
        (.error f, { b with mint := b.mint.advance.advance }) := by
      have hname := hpattern
      simp only [replyTopic, Mint.take, Mint.takeRun] at hname
      simp only [openRequest, htopic, Mint.take, Mint.takeRun, hname]
    simp only [requestTraffic, hopen]
    exact .refused f _ (Or.inr (Or.inl hpattern)) hreach
  have hopen := openRequest_eq now payload o htopic hpattern
  split at hopen
  · next hclosed =>
    simp only [requestTraffic, hopen]
    exact .refused _ _ (Or.inr (Or.inr ⟨hclosed, rfl⟩)) hreach
  · have hopened : b.Opens now topic payload o _ _ _ := .opened pattern hpattern
    have hconfig := ((b.asking now topic pattern).publish_effect now topic payload
      (o.toPublish b.mint.take.1 b.replyTopic)).config
    rcases (b.asking now topic pattern).publish_cases now topic payload
        (o.toPublish b.mint.take.1 b.replyTopic) with ⟨f, hf, h⟩ | ⟨he, -⟩ | ⟨-, h⟩
    · rw [h] at hopen
      simp only [requestTraffic, hopen]
      exact .unpublished pattern f hpattern hf
    · exact absurd he (by rw [isExpiredAt_toPublish]; decide)
    · rw [h] at hopen hconfig
      have htimeout := congrArg BusConfig.requestTimeoutMs hconfig
      dsimp only at hopen htimeout
      simp only [requestTraffic, hopen, htimeout]
      simp only [publishTraffic, h] at hopened
      exact hopened

theorem ticket_of_openRequest {b : Bus H} {now : Nat} {topic : String} {payload : Json}
    {o : RequestOptions} {t : Ticket} (h : (b.openRequest now topic payload o).1 = .ok t) :
    t = b.ticket now topic o := by
  have hopens := b.openRequest_opens now topic payload o
  rw [h] at hopens
  generalize b.requestTraffic now topic payload o = traffic at hopens
  generalize (b.openRequest now topic payload o).2 = b' at hopens
  cases hopens
  rfl

theorem Opens.accounts {b b' : Bus H} {now : Nat} {topic : String} {payload : Json}
    {o : RequestOptions} {t : Traffic} {r : Except BusFault Ticket}
    (h : b.Opens now topic payload o t r b') : b.Accounts t b' := by
  have hreach : b.mint.Reaches b.mint.advance.advance.advance :=
    (b.mint.reaches_advance.trans b.mint.advance.reaches_advance).trans
      b.mint.advance.advance.reaches_advance
  have hasking (pattern : Pattern) : b.Accounts {} (b.asking now topic pattern) :=
    .quiet rfl rfl rfl (fun f => by cases f <;> rfl) rfl hreach
  cases h with
  | refused f mint _ hmint => exact .quiet rfl rfl rfl (fun _ => rfl) rfl hmint
  | unpublished pattern f =>
    exact (hasking pattern).trans ((b.asking now topic pattern).close_atDesk _).accounts
  | opened pattern =>
    exact (hasking pattern).trans ((b.asking now topic pattern).publish_effect ..).toAccounts

/-- Counting a timeout touches nothing else. -/
theorem countTimeout_effect (b : Bus H) :
    b.Effect {} [] (b.count fun c => { c with timeouts := c.timeouts + 1 }) :=
  .quiet rfl rfl rfl (fun f => by cases f <;> rfl) rfl rfl rfl rfl

/-- What looking after a request can do. -/
theorem attend_cases (b : Bus H) (now : Nat) (t : Ticket) :
    (∃ r, b.result? t = some r ∧ b.attend now t = (some r, b.close t.correlation)) ∨
    (b.result? t = none ∧ b.hasPending t.correlation = false ∧
      b.attend now t = (some (.error .channelClosed), b.close t.correlation)) ∨
    (b.result? t = none ∧ b.hasPending t.correlation = true ∧ t.deadline ≤ now ∧
      b.attend now t = (some (.error (.timeout t.topic t.timeoutMs)),
        (b.count fun c => { c with timeouts := c.timeouts + 1 }).close t.correlation)) ∨
    (b.result? t = none ∧ b.hasPending t.correlation = true ∧ b.attend now t = (none, b)) := by
  unfold attend
  rcases hr : b.result? t with _ | r
  · rcases hp : b.hasPending t.correlation with _ | _
    · exact Or.inr (Or.inl ⟨rfl, rfl, rfl⟩)
    · by_cases hd : t.deadline ≤ now
      · exact Or.inr (Or.inr (Or.inl ⟨rfl, rfl, hd, by simp [hd, timeOut]⟩))
      · exact Or.inr (Or.inr (Or.inr ⟨rfl, rfl, by simp [hd]⟩))
  · exact Or.inl ⟨r, rfl, rfl⟩

theorem attend_accounts (b : Bus H) (now : Nat) (t : Ticket) : b.Accounts {} (b.attend now t).2 := by
  have hclose (b : Bus H) : b.Accounts {} (b.close t.correlation) :=
    (b.close_atDesk t.correlation).accounts
  rcases b.attend_cases now t with ⟨r, -, h⟩ | ⟨-, -, h⟩ | ⟨-, -, -, h⟩ | ⟨-, -, h⟩ <;> rw [h]
  · exact hclose b
  · exact hclose b
  · exact b.countTimeout_effect.toAccounts.trans (hclose _)
  · exact (Effect.refl b).toAccounts

/-! ## Settling from outside -/

/-- The settlements of a sweep. -/
def stale (b : Bus H) (now maxAge : Nat) : List (String × Reply) :=
  (b.pending.filter fun p => maxAge ≤ now - p.openedAt).map fun p =>
    (p.correlation, .error (.timeout p.topic maxAge))

theorem sweepStale_effect (b : Bus H) (now maxAge : Nat) :
    b.Effect {} (b.stale now maxAge) (b.sweepStale now maxAge).2 := by
  have hsweep : ∀ (ps : List Pending) (b : Bus H), b.Effect {}
      (ps.map fun p => (p.correlation, .error (.timeout p.topic maxAge)))
      (ps.foldl (sweepOne maxAge) b) := by
    intro ps
    induction ps with
    | nil => exact Effect.refl
    | cons p ps ih =>
      intro b
      have hone : b.Effect {} [(p.correlation, .error (.timeout p.topic maxAge))]
          (sweepOne maxAge b p) := b.countTimeout_effect.trans (AtDesk.effect (settle_atDesk _ _ _))
      exact hone.trans (ih _)
  exact hsweep _ b

/-- What every settlement of a sweep keeps is kept by the sweep. -/
theorem sweepStale_keeps {P : Bus H → Prop} {maxAge : Nat}
    (hone : ∀ b p, P b → P (sweepOne maxAge b p)) (now : Nat) {b : Bus H} (h : P b) :
    P (b.sweepStale now maxAge).2 := by
  have hsweep : ∀ (ps : List Pending) (b : Bus H), P b → P (ps.foldl (sweepOne maxAge) b) := by
    intro ps
    induction ps with
    | nil => exact fun _ h => h
    | cons p ps ih => exact fun b h => ih _ (hone b p h)
  exact hsweep _ b h

/-- The traffic of a shutdown. -/
def shutdownTraffic (b : Bus H) : Traffic :=
  if b.closed then {}
  else { left := b.queue.toList.map fun p => (.discarded, p.stamp), shut := true }

/-- The settlements of a shutdown. -/
def dismissed (b : Bus H) : List (String × Reply) :=
  if b.closed then [] else b.pending.map fun p => (p.correlation, .error .shutdown)

theorem foldl_settle_atDesk (ps : List Pending) (r : Reply) (b : Bus H) :
    b.AtDesk (b.desk.settleAll (ps.map fun p => (p.correlation, r)))
      (ps.foldl (fun b p => b.settle p.correlation r) b) := by
  induction ps generalizing b with
  | nil => exact .refl b
  | cons p ps ih =>
    have hs := b.settle_atDesk p.correlation r
    have hps := ih (b.settle p.correlation r)
    rw [hs.desk] at hps
    exact hs.trans hps

/-- The bus when a shutdown has dropped what was queued. -/
def emptied (b : Bus H) : Bus H :=
  { b with closed := true, queue := {} }.count fun c =>
    { c with discarded := c.discarded + b.queue.size }

theorem emptied_accounts (b : Bus H) :
    b.Accounts { left := b.queue.toList.map fun p => (.discarded, p.stamp), shut := true }
      b.emptied where
  config := rfl
  closed := (Bool.or_true _).symm
  published := rfl
  fates f := by
    have hfates : (b.queue.toList.map fun p => (Fate.discarded, p.stamp)).map (·.1) =
        List.replicate b.queue.size .discarded := by
      rw [List.map_map, ← Queue.length_toList]
      exact List.map_const' ..
    rw [hfates, List.count_replicate]
    cases f <;> rfl
  flight := by
    have hflight : b.flight = b.emptied.flight ++ b.queue.toList.map (·.stamp) := by
      simp only [flight, pass?, emptied, count]
      exact congrArg (· ++ _) (List.append_nil _).symm
    rw [hflight, List.map_map, List.append_nil]
    exact List.Perm.refl _
  mint := .refl _
  fresh := by simp
  once := List.nodup_nil

/-- **Shutting down** drops what is queued and settles every request. -/
theorem shutdown_effect (b : Bus H) : b.Effect b.shutdownTraffic b.dismissed b.shutdown := by
  unfold shutdown shutdownTraffic dismissed
  split
  · exact .refl b
  · have hs := foldl_settle_atDesk b.pending (.error .shutdown) b.emptied
    have ha := b.emptied_accounts.trans (AtDesk.effect hs).toAccounts
    rw [Traffic.append_empty] at ha
    exact { ha with desk := hs.desk, index := b.index.thins_empty }

end Switchboard.Bus
