import Switchboard.Proofs.Plugin.Deed

/-
  What a plugin can do through its guard.

  * `PluginContext.Access` says what a call can do when permissions name topics;
    `perform_access` says that the list is complete;
  * `guarded_access`: nothing but what is permitted succeeds, and what is denied
    or malformed changes nothing.
-/

namespace Switchboard

variable {H : Type}

namespace Caller

/-- A call on a topic that may not be published ends at once and changes nothing. -/
theorem place_spec (c : Caller) (b : Bus H) (now : Nat) (draws : Nat → Nat) (topic : String)
    (payload : Json) (o : CallOptions) :
    (∃ f, c.place b now draws topic payload o = (.finished (.error f), c, b)) ∨
      Pattern.parse topic = .ok (.exact topic) := by
  unfold place
  split
  · exact Or.inl ⟨_, rfl⟩
  · next htopic => exact Or.inr (parse_of_publishable htopic)

end Caller

/-! ## What a call does -/

namespace PluginContext

/-- What a call of a plugin with some permissions can do. -/
inductive Access (x : PluginContext) (p : Permissions) (s : Services H) :
    PluginCall H → PluginResult × PluginContext × Services H → Prop
  /-- the guard refuses it -/
  | denied (call reason) :
      Access x p s call
        (.error (.permissionDenied x.plugin reason), x, { s with denied := s.denied + 1 })
  /-- the bus refuses it -/
  | refused (call fault) : Access x p s call (.error (.bus fault), x, s)
  | published (now topic payload o outcome bus) :
      Pattern.parse topic = .ok (.exact topic) → p.Allows .publish topic →
      Access x p s (.publish now topic payload o) (.ok (.published outcome), x, { s with bus })
  | subscribed (call name) (sub : Subscription (Listener H)) (bus : Bus H) :
      call.listens? = some name → Pattern.parse name = .ok sub.pattern →
      p.AllowsAll call.capability sub.pattern → bus.index = s.bus.index.insert sub →
      bus.patterns = s.bus.patterns ++ [(sub.id, sub.pattern.text)] →
      Access x p s call
        (.ok (.subscribed sub.id), { x with owned := x.owned ++ [sub.id] }, { s with bus })
  | unsubscribed (id live owned bus) : .subscribe ∈ p.capabilities →
      Access x p s (.unsubscribe id) (.ok (.unsubscribed live), { x with owned }, { s with bus })
  /-- a request that cannot be made ends at once -/
  | stillborn (now draws topic payload o fault) :
      Access x p s (.request now draws topic payload o) (.ok (.called (.finished (.error fault))), x, s)
  | called (now draws topic payload o progress bus caller) :
      Pattern.parse topic = .ok (.exact topic) → p.Allows .call topic →
      Access x p s (.request now draws topic payload o)
        (.ok (.called progress), x, { s with bus, caller })

section Guarded

variable {x : PluginContext} {g : Guard} {p : Permissions} {s : Services H}

/-- **The list is complete.** -/
theorem perform_access (hg : x.guard = some g) (h : g.Of p) (htopics : p.topics ≠ [])
    (s : Services H) (call : PluginCall H) : x.Access p s call (x.perform s call) := by
  have hperforms := x.perform_performs s call
  generalize x.perform s call = r at hperforms ⊢
  cases hperforms with
  | denied reason => exact .denied call reason
  | made _ hpasses hdeed =>
    rw [hg, Option.bind_some] at hpasses
    cases hdeed with
    | refused call fault => exact .refused call fault
    | published now topic payload o outcome bus hpublish =>
      rcases s.bus.publish_spec now topic payload o with ⟨f, hb⟩ | ⟨hparse, -⟩
      · rw [hb] at hpublish
        cases hpublish
      · exact .published now topic payload o outcome bus hparse
          (h.allowsAll htopics hpasses hparse).allows
    | subscribed call name pattern listener hname hparse =>
      rw [PluginCall.name?_of_listens hname] at hpasses
      exact .subscribed call name ⟨s.bus.mint.take.1, pattern, listener, x.metadata⟩ _ hname hparse
        (h.allowsAll htopics hpasses hparse) rfl rfl
    | unsubscribed id | foreign id =>
      exact .unsubscribed id _ _ _ (h.capabilities ▸ (Guard.refusal?_eq_none.1 hpasses).1)
    | called now draws topic payload o progress caller bus hplace =>
      rcases s.caller.place_spec s.bus now draws topic payload o with ⟨f, hb⟩ | hparse
      · rw [hb] at hplace
        cases hplace
        exact .stillborn now draws topic payload o f
      · exact .called now draws topic payload o progress bus caller hparse
          (h.allowsAll htopics hpasses hparse).allows

/-! ### What is seen of a call -/

section Seen

variable {call : PluginCall H} {r : PluginResult} {x' : PluginContext} {s' : Services H}

theorem Access.keeps (h : x.Access p s call (r, x', s')) :
    x'.guard = x.guard ∧ x'.plugin = x.plugin := by
  cases h <;> exact ⟨rfl, rfl⟩

theorem Access.denial (h : x.Access p s call (r, x', s')) (hr : r.Denied) :
    x' = x ∧ s' = { s with denied := s.denied + 1 } := by
  obtain ⟨plugin, reason, rfl⟩ := hr
  cases h
  exact ⟨rfl, rfl⟩

theorem Access.counts (h : x.Access p s call (r, x', s')) (hr : ¬ r.Denied) :
    s'.denied = s.denied := by
  cases h with
  | denied => exact absurd ⟨_, _, rfl⟩ hr
  | _ => rfl

theorem Access.failure (h : x.Access p s call (r, x', s')) {fault : PluginFault}
    (hr : r = .error fault) : x' = x ∧ s'.bus = s.bus ∧ s'.caller = s.caller := by
  subst hr
  cases h <;> exact ⟨rfl, rfl, rfl⟩

/-- A name that is no pattern is refused by the bus, if not by the guard. -/
theorem Access.malformed (h : x.Access p s call (r, x', s')) {name : String} {d : PatternDefect}
    (hname : call.name? = some name) (hparse : Pattern.parse name = .error d) :
    r.Failed ∧ x' = x ∧ s'.bus = s.bus ∧ s'.caller = s.caller := by
  cases h with
  | denied | refused | stillborn => exact ⟨trivial, rfl, rfl, rfl⟩
  | published now topic payload o outcome bus hread =>
    cases hname
    rw [hparse] at hread
    cases hread
  | subscribed call name' sub bus hname' hread =>
    have hsame := hname.symm.trans (PluginCall.name?_of_listens hname')
    obtain rfl : name = name' := Option.some.inj hsame
    rw [hparse] at hread
    cases hread
  | unsubscribed => cases hname
  | called now draws topic payload o progress bus caller hread =>
    cases hname
    rw [hparse] at hread
    cases hread

/-- A message that is accepted is on a topic that is permitted. -/
theorem Access.allows {now : Nat} {topic : String} {payload : Json} {o : PublishOptions}
    {answer : PluginAnswer}
    (h : x.Access p s (.publish now topic payload o) (.ok answer, x', s')) :
    p.Allows .publish topic := by
  cases h with
  | published _ _ _ _ _ _ _ hallows => exact hallows
  | subscribed _ _ _ _ hname => cases hname

end Seen

/-- **Guarded access.**  A plugin whose permissions name topics keeps its guard.
    A call that is denied changes nothing but the count of denied calls, which
    grows by one, and no other call changes that count.  A call that fails, as
    every call does on a name that is no pattern, leaves the bus, the caller and
    the plugin as they were.  What succeeds is permitted: a message and a request
    are on a topic that one of the plugin's patterns matches, and a subscription
    is filed under a pattern that matches only what one of them matches. -/
theorem guarded_access (hg : x.guard = some g) (hp : Guard.ofPermissions x.plugin p = .ok g)
    (htopics : p.topics ≠ []) (s : Services H) (call : PluginCall H) :
    let (r, x', s') := x.perform s call
    (x'.guard = x.guard ∧ x'.plugin = x.plugin) ∧
    (r.Denied → x' = x ∧ s' = { s with denied := s.denied + 1 }) ∧
    (¬ r.Denied → s'.denied = s.denied) ∧
    (∀ fault, r = .error fault → x' = x ∧ s'.bus = s.bus ∧ s'.caller = s.caller) ∧
    (∀ name d, call.name? = some name → Pattern.parse name = .error d →
      r.Failed ∧ x' = x ∧ s'.bus = s.bus ∧ s'.caller = s.caller) ∧
    match call with
    | .publish _ topic _ _ => ∀ answer, r = .ok answer → p.Allows .publish topic
    | .subscribe .. | .subscribePattern .. | .serve .. => ∀ answer, r = .ok answer →
      ∃ sub, answer = .subscribed sub.id ∧ s'.bus.index = s.bus.index.insert sub ∧
        s'.bus.patterns = s.bus.patterns ++ [(sub.id, sub.pattern.text)] ∧
        p.AllowsAll call.capability sub.pattern
    | .unsubscribe _ => ∀ answer, r = .ok answer → .subscribe ∈ p.capabilities
    | .request _ _ topic _ _ =>
      r.Failed ∧ s'.bus = s.bus ∧ s'.caller = s.caller ∨ p.Allows .call topic := by
  have h := perform_access hg (Guard.of_ofPermissions hp) htopics s call
  rcases hr : x.perform s call with ⟨r, x', s'⟩
  rw [hr] at h
  refine ⟨h.keeps, h.denial, h.counts, fun _ => h.failure, fun _ _ => h.malformed, ?_⟩
  cases h with
  | denied call | refused call =>
    cases call with
    | request => exact Or.inl ⟨trivial, rfl, rfl⟩
    | _ => exact fun _ hr => by cases hr
  | published _ _ _ _ _ _ _ hallows => exact fun _ _ => hallows
  | subscribed call name sub bus hname _ hallows hindex hpatterns =>
    have hfiled : ∃ sub', PluginAnswer.subscribed sub.id = .subscribed sub'.id ∧
        bus.index = s.bus.index.insert sub' ∧
        bus.patterns = s.bus.patterns ++ [(sub'.id, sub'.pattern.text)] ∧
        p.AllowsAll call.capability sub'.pattern := ⟨sub, rfl, hindex, hpatterns, hallows⟩
    cases call with
    | publish | request | unsubscribe => cases hname
    | _ =>
      intro answer hr
      cases hr
      exact hfiled
  | unsubscribed _ _ _ _ hc => exact fun _ _ => hc
  | stillborn => exact Or.inl ⟨trivial, rfl, rfl⟩
  | called _ _ _ _ _ _ _ _ _ hallows => exact Or.inr hallows

/-- A plugin that may publish below `sensor` does so there, and is denied to do so
    elsewhere. -/
theorem guarded_access_sensor :
    let p : Permissions := { capabilities := [.publish], topics := ["sensor.*"] }
    let g : Guard := ⟨"probe", [.publish], [.under ["sensor"]]⟩
    let x : PluginContext := { plugin := "probe", guard := some g }
    let s : Services Unit := { bus := .create {} true, caller := .create {}, denied := 0 }
    let r := x.perform s (.publish 0 "sensor.temp" .null {})
    let r' := x.perform s (.publish 0 "alarm.raise" .null {})
    r.1.isOk = true ∧ p.Allows .publish "sensor.temp" ∧ r'.1.Denied ∧
      r'.2.2 = { s with denied := 1 } := by
  intro p g x s r r'
  have hp : Guard.ofPermissions x.plugin p = .ok g := rfl
  have htopics : p.topics ≠ [] := by decide
  obtain ⟨answer, hanswer⟩ : ∃ answer, r.1 = .ok answer := ⟨_, rfl⟩
  have hdenied : r'.1.Denied := ⟨_, _, rfl⟩
  obtain ⟨-, -, -, -, -, hallows⟩ :=
    guarded_access rfl hp htopics s (.publish 0 "sensor.temp" .null {})
  obtain ⟨-, hdenial, -⟩ := guarded_access rfl hp htopics s (.publish 0 "alarm.raise" .null {})
  exact ⟨by rw [hanswer]; rfl, hallows answer hanswer, hdenied, (hdenial hdenied).2⟩

end Guarded

end PluginContext

end Switchboard
