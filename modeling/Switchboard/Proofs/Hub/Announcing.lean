import Switchboard.Proofs.Hub.Cache
import Switchboard.Proofs.Mint

/-
  What a hub announces.

  Every act announces a few events, and every counter but those of look-ups and
  of fan-outs begun grows by what these events say.  So whoever knows the events
  of a hub knows its counters.

  * `EventLog.toList_announce`, `Session.step_events`: the events are those before
    an act and those it announces, `Session.announced`;
  * `total` adds up what events say;
  * `Tallied`: the counters are what the events add up to, and `run_tallied` says
    that they always are;
  * `Session.step_mint`: an act takes identifiers and gives none back.
-/

namespace Switchboard

/-! ## Adding up -/

namespace Hub

section Total

variable {α : Type} (f : α → Nat)

/-- Adds up a quantity over a list. -/
def total : List α → Nat
  | [] => 0
  | a :: l => f a + total l

theorem total_append (l l' : List α) : total f (l ++ l') = total f l + total f l' := by
  induction l with
  | nil => simp [total]
  | cons a l ih => simp [total, ih, Nat.add_assoc]

theorem total_concat (l : List α) (a : α) : total f (l ++ [a]) = total f l + f a :=
  total_append f l [a]

end Total

end Hub

/-! ## Events -/

theorem EventLog.toList_announce (l : EventLog) (e : HubEvent) :
    (l.announce e).toList = l.toList ++ [e] := List.reverse_cons

namespace HubEvent

/-- How many subscriptions an event adds. -/
def added : HubEvent → Nat
  | .subscribed .. => 1
  | _ => 0

/-- How many subscriptions an event takes away. -/
def takenAway : HubEvent → Nat
  | .unsubscribed .. => 1
  | _ => 0

/-- How many receivers an event reports to have succeeded. -/
def delivered : HubEvent → Nat
  | .published _ _ delivered _ => delivered
  | _ => 0

/-- How many receivers an event reports to have failed. -/
def failed : HubEvent → Nat
  | .published _ _ _ failed => failed
  | _ => 0

/-- How many matches an event reports to have been evicted. -/
def evicted : HubEvent → Nat
  | .cacheEvicted removed => removed
  | _ => 0

end HubEvent

namespace Hub

variable {H : Type}

/-! ## Counters -/

/-- The counters of a hub are what its events add up to. -/
structure Tallied (h : Hub H) : Prop where
  subscriptions : h.counters.subscriptions = total HubEvent.added h.events.toList
  unsubscriptions :
    h.counters.unsubscriptions = total HubEvent.takenAway h.events.toList
  deliveries : h.counters.deliveries = total HubEvent.delivered h.events.toList
  failures : h.counters.failures = total HubEvent.failed h.events.toList
  evictions : h.counters.evictions = total HubEvent.evicted h.events.toList

namespace Tallied

variable {h h' : Hub H}

theorem create (config : HubConfig) : (Hub.create config : Hub H).Tallied :=
  ⟨rfl, rfl, rfl, rfl, rfl⟩

/-- Neither a counter nor an event is touched. -/
theorem congr (ht : h.Tallied) (hcounters : h'.counters = h.counters)
    (hevents : h'.events = h.events) : h'.Tallied := by
  obtain ⟨hs, hu, hd, hf, he⟩ := ht
  exact ⟨by rw [hcounters, hevents, hs], by rw [hcounters, hevents, hu],
    by rw [hcounters, hevents, hd], by rw [hcounters, hevents, hf],
    by rw [hcounters, hevents, he]⟩

/-- An event is announced, and counted. -/
theorem announce (ht : h.Tallied) (e : HubEvent)
    (hs : h'.counters.subscriptions = h.counters.subscriptions + e.added)
    (hu : h'.counters.unsubscriptions = h.counters.unsubscriptions + e.takenAway)
    (hd : h'.counters.deliveries = h.counters.deliveries + e.delivered)
    (hf : h'.counters.failures = h.counters.failures + e.failed)
    (he : h'.counters.evictions = h.counters.evictions + e.evicted)
    (hevents : h'.events = h.events.announce e) : h'.Tallied := by
  refine ⟨?_, ?_, ?_, ?_, ?_⟩ <;>
    rw [hevents, EventLog.toList_announce, total_concat]
  · rw [hs, ht.subscriptions]
  · rw [hu, ht.unsubscriptions]
  · rw [hd, ht.deliveries]
  · rw [hf, ht.failures]
  · rw [he, ht.evictions]

end Tallied

/-! ## Look-ups -/

/-- The events of an eviction. -/
def notices (removed : Nat) : List HubEvent := if removed = 0 then [] else [.cacheEvicted removed]

theorem total_notices (removed : Nat) :
    total HubEvent.evicted (notices removed) = removed := by
  unfold notices
  split
  · next h => exact h.symm
  · rfl

/-- What a look-up does to a hub besides its cache, when it evicts some topics. -/
structure Seeks (h h' : Hub H) (gone : List String) : Prop where
  events : h'.events.toList = h.events.toList ++ notices gone.length
  counters : ∃ hits misses, h'.counters =
    { h.counters with hits, misses, evictions := h.counters.evictions + gone.length }
  mint : h'.mint = h.mint

theorem remember_seeks (h : Hub H) (now : Nat) (topic : String) :
    Seeks h (h.remember now topic (h.index.matching topic))
      (overflow h.config.maxEntries (h.stored now topic).rows) := by
  have hfst : (evictOverflow h.config.maxEntries (h.stored now topic)).1 =
      (overflow h.config.maxEntries (h.stored now topic).rows).length := rfl
  unfold stored at hfst
  unfold remember stored
  dsimp only
  split
  · next heq =>
    rw [heq] at hfst
    rw [List.eq_nil_of_length_eq_zero hfst.symm]
    exact ⟨by simp [notices], ⟨_, _, rfl⟩, rfl⟩
  · next n cache hn heq =>
    rw [heq] at hfst
    obtain rfl : n = _ := hfst
    exact ⟨by rw [notices, if_neg hn]; exact EventLog.toList_announce _ _, ⟨_, _, rfl⟩, rfl⟩

/-- **A look-up** announces what it evicts, and counts it. -/
theorem find_seeks (h : Hub H) (now : Nat) (topic : String) :
    Seeks h (h.find now topic).2 (h.evicts now topic) := by
  rcases hcached : h.cached? now topic with _ | found
  · simp only [find, evicts, hcached]
    obtain ⟨hevents, ⟨hits, misses, hcounters⟩, hmint⟩ :=
      remember_seeks (h.count fun c => { c with misses := c.misses + 1 }) now topic
    exact ⟨hevents, ⟨hits, misses, hcounters⟩, hmint⟩
  · simp only [find, evicts, hcached]
    exact ⟨by simp [notices, count], ⟨_, _, rfl⟩, rfl⟩

theorem Seeks.tallied {h h' : Hub H} {gone : List String} (hs : Seeks h h' gone)
    (ht : h.Tallied) : h'.Tallied := by
  obtain ⟨hevents, ⟨hits, misses, hcounters⟩, -⟩ := hs
  have hquiet (f : HubEvent → Nat) (hf : ∀ n, f (.cacheEvicted n) = 0) :
      total f h'.events.toList = total f h.events.toList := by
    rw [hevents, total_append, notices]
    split
    · rfl
    · simp [total, hf]
  refine ⟨?_, ?_, ?_, ?_, ?_⟩ <;> rw [hcounters]
  · exact ht.subscriptions.trans (hquiet _ fun _ => rfl).symm
  · exact ht.unsubscriptions.trans (hquiet _ fun _ => rfl).symm
  · exact ht.deliveries.trans (hquiet _ fun _ => rfl).symm
  · exact ht.failures.trans (hquiet _ fun _ => rfl).symm
  · rw [hevents, total_append, total_notices, ← ht.evictions]

/-! ## Changes -/

/-- **A look-up of a fan-out** is a look-up like any other. -/
theorem find_count (h : Hub H) (f : HubCounters → HubCounters) (now : Nat) (topic : String) :
    ((h.count f).find now topic).1 = (h.find now topic).1 := by
  have hcached : (h.count f).cached? now topic = h.cached? now topic := rfl
  unfold find
  rw [hcached]
  cases h.cached? now topic <;> rfl

/-- A hub that has begun a fan-out. -/
def opened (h : Hub H) (now : Nat) (topic : String) : Hub H :=
  { ((h.count fun c => { c with publishes := c.publishes + 1 }).find now topic).2 with
    mint := h.mint.advance }

theorem publish_eq (h : Hub H) (now : Nat) {topic : String} (payload : Json)
    (htopic : topicDefect? topic = none) :
    ∃ id, h.publish now topic payload =
      (.ok ⟨.plain id topic payload 0, (h.find now topic).1.1⟩, h.opened now topic) := by
  have hmint := (find_seeks (h.count fun c => { c with publishes := c.publishes + 1 })
    now topic).mint
  have hfound := find_count h (fun c => { c with publishes := c.publishes + 1 }) now topic
  refine ⟨h.mint.take.1, ?_⟩
  simp only [Hub.publish, Address.topic, htopic, Mint.take, hmint, opened, ← hfound]
  rfl

theorem announceAll_effect (h : Hub H) (removed : List (Subscription H)) :
    let h' := removed.foldl (fun h s => h.announce (.unsubscribed s.id s.pattern.text)) h
    h'.events.toList =
        h.events.toList ++ removed.map (fun s => .unsubscribed s.id s.pattern.text) ∧
      h'.counters = h.counters ∧ h'.mint = h.mint := by
  induction removed generalizing h with
  | nil => exact ⟨by simp, rfl, rfl⟩
  | cons sub removed ih =>
    obtain ⟨hevents, hcounters, hmint⟩ :=
      ih (h.announce (.unsubscribed sub.id sub.pattern.text))
    refine ⟨?_, hcounters, hmint⟩
    rw [List.foldl_cons, hevents]
    simp [announce, EventLog.toList_announce]

theorem total_removals (f : HubEvent → Nat) (k : Nat) (hf : ∀ id p, f (.unsubscribed id p) = k)
    (removed : List (Subscription H)) :
    total f (removed.map fun s => .unsubscribed s.id s.pattern.text) =
      k * removed.length := by
  induction removed with
  | nil => rfl
  | cons sub removed ih =>
    rw [List.map_cons, total, hf, ih, List.length_cons, Nat.mul_succ, Nat.add_comm]

/-- Subscriptions that go together are counted first and announced one by one. -/
theorem removals_tallied {h : Hub H} (ht : h.Tallied) (index : Index H)
    (removed : List (Subscription H)) :
    (removed.foldl (fun h s => h.announce (.unsubscribed s.id s.pattern.text))
      ((h.change index).count fun c =>
        { c with unsubscriptions := c.unsubscriptions + removed.length })).Tallied := by
  obtain ⟨hevents, hcounters, -⟩ := announceAll_effect ((h.change index).count fun c =>
    { c with unsubscriptions := c.unsubscriptions + removed.length }) removed
  refine ⟨?_, ?_, ?_, ?_, ?_⟩ <;> rw [hcounters, hevents, total_append]
  · rw [total_removals _ 0 fun _ _ => rfl, Nat.zero_mul]
    exact ht.subscriptions
  · rw [total_removals _ 1 fun _ _ => rfl, Nat.one_mul]
    exact congrArg (· + removed.length) ht.unsubscriptions
  · rw [total_removals _ 0 fun _ _ => rfl, Nat.zero_mul]
    exact ht.deliveries
  · rw [total_removals _ 0 fun _ _ => rfl, Nat.zero_mul]
    exact ht.failures
  · rw [total_removals _ 0 fun _ _ => rfl, Nat.zero_mul]
    exact ht.evictions

/-! ## Acts -/

/-- What a fan-out reports: nothing as long as a receiver is at work. -/
def Fan.report (f : Fan H) : List HubEvent :=
  if f.isOver then
    [.published f.topic f.receivers.length f.delivered (f.receivers.length - f.delivered)]
  else []

namespace Session

/-- The fan-out with which a payload on a topic begins. -/
def opening (s : Session H) (topic : String) : Fan H :=
  ⟨topic, (s.hub.find s.now topic).1.1.map fun sub => (sub, none)⟩

/-- The events that an act announces. -/
def announced (s : Session H) : Act H → List HubEvent
  | .subscribe pattern _ _ =>
    match Address.pattern pattern with
    | .ok _ => [.subscribed s.hub.mint.take.1 pattern]
    | .error _ => []
  | .unsubscribe pattern id =>
    if (s.hub.index.erase pattern id).1 then [.unsubscribed id pattern] else []
  | .unsubscribePlugin plugin =>
    (s.hub.index.eraseWhere (·.isOwnedBy plugin)).1.map fun sub =>
      .unsubscribed sub.id sub.pattern.text
  | .find topic => notices (s.hub.evicts s.now topic).length
  | .publish topic _ =>
    if topicDefect? topic = none then
      notices (s.hub.evicts s.now topic).length ++ (s.opening topic).report
    else []
  | .conclude n place succeeded =>
    match s.fans.get? n with
    | some f => (f.conclude place succeeded).report
    | none => []
  | .drop _ | .cleanup | .invalidate | .shutdown | .wait _ => []

section Steps

variable {s : Session H}

theorem carry_events (s : Session H) (n : Nat) (f : Fan H) :
    (s.carry n f).hub.events.toList = s.hub.events.toList ++ f.report := by
  unfold carry Fan.report
  split
  · exact EventLog.toList_announce _ _
  · simp

theorem carry_tallied (ht : s.hub.Tallied) (n : Nat) (f : Fan H) :
    (s.carry n f).hub.Tallied := by
  unfold carry
  split
  · exact ht.announce (.published f.topic f.receivers.length f.delivered
      (f.receivers.length - f.delivered)) rfl rfl rfl rfl rfl rfl
  · exact ht

theorem carry_mint (s : Session H) (n : Nat) (f : Fan H) :
    (s.carry n f).hub.mint = s.hub.mint := by
  unfold carry
  split <;> rfl

/-- **A payload that is fanned out** is a look-up, an identifier that is taken,
    and a fan-out that begins. -/
theorem step_publish (s : Session H) {topic : String} (payload : Json)
    (htopic : topicDefect? topic = none) :
    s.step (.publish topic payload) =
      { s with hub := s.hub.opened s.now topic, begun := s.begun + 1 }.carry s.begun
        (s.opening topic) := by
  obtain ⟨id, hpublish⟩ := publish_eq s.hub s.now payload htopic
  simp only [step, hpublish]
  rfl

theorem step_publish_of_defect (s : Session H) {topic : String} (payload : Json)
    (htopic : topicDefect? topic ≠ none) : s.step (.publish topic payload) = s := by
  obtain ⟨d, hd⟩ := Option.ne_none_iff_exists'.1 htopic
  simp [step, Hub.publish, Address.topic, hd]

/-- **The events of a hub** are those before an act, and those it announces. -/
theorem step_events (s : Session H) (a : Act H) :
    (s.step a).hub.events.toList = s.hub.events.toList ++ s.announced a := by
  cases a with
  | subscribe pattern handler metadata =>
    rcases hp : Address.pattern pattern with f | p
    · simp [step, Hub.subscribe, announced, hp]
    · simp only [step, Hub.subscribe, announced, hp]
      exact EventLog.toList_announce _ _
  | unsubscribe pattern id =>
    rcases he : s.hub.index.erase pattern id with ⟨_ | _, index⟩
    · simp [step, Hub.unsubscribe, announced, he]
    · simp only [step, Hub.unsubscribe, announced, he]
      exact EventLog.toList_announce _ _
  | unsubscribePlugin plugin =>
    rcases he : s.hub.index.eraseWhere (·.isOwnedBy plugin) with ⟨_ | ⟨sub, removed⟩, index⟩
    · simp [step, Hub.unsubscribePlugin, announced, he]
    · simp only [step, Hub.unsubscribePlugin, announced, he]
      exact (announceAll_effect _ _).1
  | find topic => exact (find_seeks s.hub s.now topic).events
  | publish topic payload =>
    by_cases htopic : topicDefect? topic = none
    · rw [step_publish s payload htopic, carry_events, announced, if_pos htopic,
        ← List.append_assoc]
      exact congrArg (· ++ _) (find_seeks _ s.now topic).events
    · rw [step_publish_of_defect s payload htopic, announced, if_neg htopic, List.append_nil]
  | conclude n place succeeded =>
    simp only [step, announced]
    cases s.fans.get? n with
    | none => simp
    | some f => exact carry_events s n _
  | drop | cleanup | invalidate | shutdown | wait => exact (List.append_nil _).symm

/-- **Counters and events** agree after an act, if they did before. -/
theorem step_tallied (ht : s.hub.Tallied) (a : Act H) : (s.step a).hub.Tallied := by
  cases a with
  | subscribe pattern handler metadata =>
    rcases hp : Address.pattern pattern with f | p
    · simpa [step, Hub.subscribe, hp] using ht
    · simp only [step, Hub.subscribe, hp]
      exact ht.announce (.subscribed s.hub.mint.take.1 pattern) rfl rfl rfl rfl rfl rfl
  | unsubscribe pattern id =>
    rcases he : s.hub.index.erase pattern id with ⟨_ | _, index⟩
    · simpa [step, Hub.unsubscribe, he] using ht
    · simp only [step, Hub.unsubscribe, he]
      exact ht.announce (.unsubscribed id pattern) rfl rfl rfl rfl rfl rfl
  | unsubscribePlugin plugin =>
    rcases he : s.hub.index.eraseWhere (·.isOwnedBy plugin) with ⟨_ | ⟨sub, removed⟩, index⟩
    · simpa [step, Hub.unsubscribePlugin, he] using ht
    · simp only [step, Hub.unsubscribePlugin, he]
      exact removals_tallied ht _ _
  | find topic => exact (find_seeks s.hub s.now topic).tallied ht
  | publish topic payload =>
    by_cases htopic : topicDefect? topic = none
    · rw [step_publish s payload htopic]
      have hbegun : (s.hub.count fun c => { c with publishes := c.publishes + 1 }).Tallied :=
        ⟨ht.subscriptions, ht.unsubscriptions, ht.deliveries, ht.failures, ht.evictions⟩
      exact carry_tallied (((find_seeks _ s.now topic).tallied hbegun).congr rfl rfl) _ _
    · rw [step_publish_of_defect s payload htopic]
      exact ht
  | conclude n place succeeded =>
    simp only [step]
    cases s.fans.get? n with
    | none => exact ht
    | some f => exact carry_tallied ht n _
  | drop | cleanup | invalidate | shutdown | wait => exact ht.congr rfl rfl

/-- Identifiers are taken, and none is given back. -/
theorem step_mint (s : Session H) (a : Act H) : s.hub.mint.Reaches (s.step a).hub.mint := by
  cases a with
  | subscribe pattern handler metadata =>
    simp only [step, Hub.subscribe]
    split
    · exact .refl _
    · exact Mint.reaches_advance _
  | unsubscribe pattern id =>
    simp only [step, Hub.unsubscribe]
    split <;> exact .refl _
  | unsubscribePlugin plugin =>
    simp only [step, Hub.unsubscribePlugin]
    split
    · exact .refl _
    · rw [(announceAll_effect _ _).2.2]
      exact .refl _
  | find topic =>
    rw [step, (find_seeks s.hub s.now topic).mint]
    exact .refl _
  | publish topic payload =>
    by_cases htopic : topicDefect? topic = none
    · rw [step_publish s payload htopic, carry_mint]
      exact Mint.reaches_advance _
    · rw [step_publish_of_defect s payload htopic]
      exact .refl _
  | conclude n place succeeded =>
    simp only [step]
    cases s.fans.get? n with
    | none => exact .refl _
    | some f =>
      rw [carry_mint]
      exact .refl _
  | drop | cleanup | invalidate | shutdown | wait => exact .refl _

end Steps

theorem run_tallied (config : HubConfig) (acts : List (Act H)) :
    ((start config : Session H).run acts).hub.Tallied :=
  run_induction (P := fun _ s => s.hub.Tallied) (.create config)
    (fun _ _ a h => step_tallied h a) acts

end Session

end Hub

end Switchboard
