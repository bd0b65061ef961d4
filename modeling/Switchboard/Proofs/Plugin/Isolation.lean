import Switchboard.Proofs.Hub.Soundness
import Switchboard.Proofs.Plugin.Handles

/-
  Isolation — what a plugin does to its own subscriptions, it does to no others.

  Neither a plugin nor its unloading picks subscriptions one by one: the bus
  unsubscribes ids, and the stores remove what a tag names.  That nothing else
  goes rests on two accounts, the ids that a context keeps and the tags that
  the stores hold.

  * `Act.Genuine`: what happens to the hub can happen to a hub;
    `Hosts`, `run_hosts`: then the hub of a registry is sound;
  * `PluginCall.Subscribes`: the calls that subscribe and unsubscribe, and
    `call_agreeOn`: what they leave alone;
  * `unsubscribe_without`: which calls take a subscription away, and that it is
    the only one;
  * `unload_loaded`: what unloading answers and leaves;
  * `isolation`: all this after every run.
-/

namespace Switchboard

variable {H : Type}

/-- A call that subscribes or unsubscribes. -/
def PluginCall.Subscribes : PluginCall H → Prop
  | .subscribe .. | .subscribePattern .. | .serve .. | .unsubscribe _ => True
  | .publish .. | .request .. => False

namespace PluginContext

/-- What unsubscribing comes to, if the guard lets it pass. -/
theorem perform_unsubscribe {x : PluginContext} {s : Services H} {id : String}
    (h : ¬ (x.perform s (.unsubscribe id)).1.Denied) :
    x.perform s (.unsubscribe id) =
      if id ∈ x.owned then
        (.ok (.unsubscribed (s.bus.unsubscribe id).1), { x with owned := x.owned.filter (· ≠ id) },
          { s with bus := (s.bus.unsubscribe id).2 })
      else (.ok (.unsubscribed false), x, s) := by
  simp only [perform, unsubscribe, guarded] at h ⊢
  rcases hr : x.guard.bind (·.refusal? .subscribe none) with _ | reason
  · simp only [List.contains_iff_mem]
    split <;> rfl
  · rw [hr] at h
    exact absurd ⟨_, _, rfl⟩ h

end PluginContext

namespace Registry

/-- What unloading a loaded plugin answers and leaves, with a hub to look after. -/
theorem unload_loaded {r : Registry} {id : String} (h : r.isLoaded id = true) (bus : Bus H)
    (hub : Hub H) :
    r.unload ⟨bus, some hub⟩ id =
      (.ok ((bus.unsubscribePlugin id).1 + (hub.unsubscribePlugin id).1),
        { r with plugins := r.plugins.erase id },
        ⟨(bus.unsubscribePlugin id).2, some (hub.unsubscribePlugin id).2⟩) := by
  unfold unload
  exact if_pos h

/-- A context that was made for a plugin by its host: no guard checks it, and
    nobody has loaded the plugin. -/
def Handle.trusted (plugin : String) : Handle :=
  ⟨.ofId plugin .everything, { plugin, guard := none }⟩

/-- What happens to the hub is what can happen to a hub, whatever the time is and
    whichever fan-outs are under way. -/
def Act.Genuine : Act H → Prop
  | .hub change => ∃ now begun fans act, ∀ hub,
      change hub = (Hub.Session.step ⟨hub, now, begun, fans⟩ act).hub
  | _ => True

namespace Session

/-- The beginning of a session with a hub, in which some plugins are trusted. -/
def startWith (config : BusConfig) (hosted : Bool) (hub : HubConfig) (caller : CallerConfig)
    (trusted : List String) : Session H :=
  { start config hosted (some (.create hub)) caller with handles := trusted.map .trusted }

/-! ## The hub -/

/-- The registry looks after a hub, and the hub is sound. -/
def Hosts (s : Session H) : Prop := ∃ hub, s.hub = some hub ∧ hub.Sound

theorem step_hosts {s : Session H} (h : s.Hosts) {a : Act H} (ha : a.Genuine) :
    (s.step a).Hosts := by
  have hsame {s' : Session H} (heq : s'.hub = s.hub) : s'.Hosts := by
    unfold Hosts
    rw [heq]
    exact h
  obtain ⟨hub, hhub, hsound⟩ := h
  have hunload (id : String) : ∃ hub, (s.registry.unload s.stores id).2.2.hub = some hub ∧
      hub.Sound :=
    unload_keeps (P := fun _ stores => ∃ hub, stores.hub = some hub ∧ hub.Sound)
      ⟨hub, hhub, hsound⟩
      ⟨(hub.unsubscribePlugin id).2, by simp [Stores.without, stores, hhub],
        hsound.unsubscribePlugin id⟩
  cases a with
  | load m =>
    refine hsame ?_
    simp only [step]
    split <;> rfl
  | unload id => exact hunload id
  | reload m =>
    obtain ⟨hub', hhub', hsound'⟩ := hunload m.id
    refine ⟨hub', ?_, hsound'⟩
    rw [← hhub']
    rcases hload : (s.registry.unload s.stores m.id).2.1.load m with ⟨f | context, registry⟩ <;>
      simp [step, reload_eq, hload, store, grant]
  | call n call =>
    refine hsame ?_
    simp only [step]
    split <;> rfl
  | poll id _ | abandon id =>
    refine hsame ?_
    simp only [step]
    split <;> rfl
  | bus act => exact hsame rfl
  | hub change =>
    obtain ⟨now, begun, fans, act, hchange⟩ := ha
    refine ⟨change hub, by simp [step, hhub], ?_⟩
    rw [hchange]
    exact Hub.Sound.step (s := ⟨hub, now, begun, fans⟩) hsound act

theorem run_hosts {s : Session H} (h : s.Hosts) {acts : List (Act H)}
    (hacts : ∀ a ∈ acts, a.Genuine) : (s.run acts).Hosts := by
  induction acts generalizing s with
  | nil => exact h
  | cons a acts ih =>
    obtain ⟨ha, hacts⟩ := List.forall_mem_cons.1 hacts
    exact ih (step_hosts h ha) hacts

/-! ## Calls -/

section Calls

variable {n : Nat} {log : List (Session H × Act H)} {s : Session H} {hd : Handle}
  {live : List (Subscription (Listener H))}

/-- What is live and kept by a context is tagged with its plugin. -/
theorem Tracked.isOwnedBy (h : Tracked n log s) (hn : s.handles[n]? = some hd)
    {sub : Subscription (Listener H)} (hsub : sub ∈ s.bus.bus.index.entries)
    (hid : sub.id ∈ hd.context.owned) : sub.isOwnedBy hd.context.plugin = true := by
  obtain ⟨hd', hn', -, htagged⟩ := h.live _ (h.returned hd hn _ hid) sub hsub rfl
  obtain rfl : hd = hd' := Option.some.inj (hn.symm.trans hn')
  exact htagged

/-- **Calls that subscribe and unsubscribe** leave the subscriptions of others
    alone. -/
theorem call_agreeOn (h : Tracked n log s) (hshelved : Bus.Shelved s.bus.bus live)
    (hn : s.handles[n]? = some hd) {call : PluginCall H} (hcall : call.Subscribes) :
    s.bus.bus.index.AgreeOn (fun sub => !sub.isOwnedBy hd.context.plugin)
      (s.step (.call n call)).bus.bus.index := by
  obtain ⟨x, services, hperforms, hbus, -⟩ := step_call hn call
  rw [hbus]
  generalize s.answer hd call = r at hperforms
  cases hperforms with
  | denied => exact .refl _ _
  | made _ _ hdeed =>
    cases hdeed with
    | refused | foreign => exact .refl _ _
    | published | called => cases hcall
    | subscribed call name p listener _ hparse =>
      refine hshelved.index.agreeOn (hshelved.index.insert (Pattern.parsed_of_parse hparse)) ?_
      simp [List.filter_append, Subscription.isOwnedBy, PluginContext.metadata, Metadata.ofPlugin]
    | unsubscribed id hid =>
      refine hshelved.index.agreeOn (hshelved.unsubscribe id).2.index ?_
      rw [List.filter_filter]
      refine List.filter_congr fun sub hsub => ?_
      by_cases heq : sub.id = id
      · have htagged := h.isOwnedBy hn (hshelved.index.entries_perm.mem_iff.2 hsub) (heq ▸ hid)
        simp [htagged]
      · simp [heq]

/-- **Unsubscribing** takes a subscription away iff its id was returned through the
    same context and it is live, and takes nothing else away. -/
theorem unsubscribe_without (h : Tracked n log s) (hshelved : Bus.Shelved s.bus.bus live)
    (hn : s.handles[n]? = some hd) {id : String}
    (hpasses : ¬ (s.answer hd (.unsubscribe id)).Denied) :
    ∃ found, s.answer hd (.unsubscribe id) = .ok (.unsubscribed found) ∧
      (found = true ↔ Returned log n id ∧ ∃ sub ∈ s.bus.bus.index.entries, sub.id = id) ∧
      s.bus.bus.index.Without (fun sub => found && sub.id == id)
        (s.step (.call n (.unsubscribe id))).bus.bus.index := by
  have hperform := PluginContext.perform_unsubscribe hpasses
  have hbus : (s.step (.call n (.unsubscribe id))).bus.bus =
      (hd.context.perform s.services (.unsubscribe id)).2.2.bus := by simp only [step, hn]
  have hmem (sub : Subscription (Listener H)) :
      sub ∈ s.bus.bus.index.entries ↔ sub ∈ live := hshelved.index.entries_perm.mem_iff
  rw [hbus, answer, hperform]
  by_cases hid : id ∈ hd.context.owned
  · -- the context keeps the id, but its subscription may have gone another way
    rw [if_pos hid]
    obtain ⟨hfound, hleft⟩ := hshelved.unsubscribe id
    refine ⟨(s.bus.bus.unsubscribe id).1, rfl, ?_, hshelved.index.without ?_⟩
    · simp only [hfound, hmem, h.returned hd hn id hid, true_and]
    · have hsame : live.filter (·.id ≠ id) =
          live.filter fun sub => !((s.bus.bus.unsubscribe id).1 && sub.id == id) := by
        refine List.filter_congr fun sub hsub => ?_
        by_cases heq : sub.id = id
        · simp [hfound.2 ⟨sub, hsub, heq⟩, heq]
        · simp [heq]
      rw [← hsame]
      exact hleft.index
  · -- what was returned and is live is kept, so this id is somebody else's, or gone
    rw [if_neg hid]
    refine ⟨false, rfl, ?_, hshelved.index.without (by simpa [services] using hshelved.index)⟩
    refine iff_of_false Bool.false_ne_true ?_
    rintro ⟨hreturned, sub, hsub, heq⟩
    obtain ⟨hd', hn', howned, -⟩ := h.live id hreturned sub hsub heq
    obtain rfl : hd = hd' := Option.some.inj (hn.symm.trans hn')
    exact hid howned

end Calls

/-! ## Isolation -/

/-- **Isolation.**  After every run of a registry with a hub, whatever contexts
    plugins were given by the registry or by their host:

    * a plugin that subscribes or unsubscribes does nothing to the hub, and on the
      bus leaves the subscriptions of others, which every topic finds in the same
      order as before;
    * when it unsubscribes an id and is not denied, a subscription goes iff the id
      was returned through this very context and is live, and then this one only;
    * a plugin that is not loaded is not unloaded, and nothing changes; unloading
      a loaded one answers how many subscriptions of the bus and of the hub are
      tagged with it, and these go: all others are still there, and every topic
      finds them in the same order, in the hub also from its cache. -/
theorem isolation (config : BusConfig) (hosted : Bool) (hubConfig : HubConfig)
    (caller : CallerConfig) (trusted : List String) {acts : List (Act H)}
    (hacts : ∀ a ∈ acts, a.Genuine) :
    let s₀ := startWith config hosted hubConfig caller trusted
    let s := s₀.run acts
    ∃ hub, s.hub = some hub ∧
      (∀ n hd call, s.handles[n]? = some hd → call.Subscribes →
        let s' := s.step (.call n call)
        s'.hub = some hub ∧ Bus.Catalogued s'.bus.bus ∧
        s.bus.bus.index.AgreeOn (fun sub => !sub.isOwnedBy hd.context.plugin)
          s'.bus.bus.index) ∧
      (∀ n hd id, s.handles[n]? = some hd → ¬ (s.answer hd (.unsubscribe id)).Denied →
        ∃ found, s.answer hd (.unsubscribe id) = .ok (.unsubscribed found) ∧
          (found = true ↔
            Returned (s₀.trace acts) n id ∧ ∃ sub ∈ s.bus.bus.index.entries, sub.id = id) ∧
          s.bus.bus.index.Without (fun sub => found && sub.id == id)
            (s.step (.call n (.unsubscribe id))).bus.bus.index) ∧
      ∀ plugin,
        (s.registry.isLoaded plugin = false →
          s.registry.unload s.stores plugin =
            (.error (.notLoaded plugin), s.registry, s.stores)) ∧
        (s.registry.isLoaded plugin = true →
          ∃ bus' hub', s.registry.unload s.stores plugin =
              (.ok ((s.bus.bus.index.entries.filter (·.isOwnedBy plugin)).length +
                  (hub.index.entries.filter (·.isOwnedBy plugin)).length),
                { s.registry with plugins := s.registry.plugins.erase plugin },
                ⟨bus', some hub'⟩) ∧
            Bus.Catalogued bus' ∧
            s.bus.bus.index.Without (·.isOwnedBy plugin) bus'.index ∧
            hub.index.Without (·.isOwnedBy plugin) hub'.index ∧
            ∀ now topic, (hub'.find now topic).1.1 =
              (hub.find now topic).1.1.filter fun sub => !sub.isOwnedBy plugin) := by
  intro s₀ s
  have hempty : Bus.Shelved s₀.bus.bus [] := Bus.Session.start_shelved config hosted
  obtain ⟨hub, hhub, hsound⟩ : s.Hosts :=
    run_hosts (s := s₀) ⟨.create hubConfig, rfl, Hub.create_sound hubConfig⟩ hacts
  have hstems := run_stems hempty.stems acts
  obtain ⟨-, live, hshelved, -⟩ := hstems
  have htracked (n : Nat) : Tracked n (s₀.trace acts) s :=
    run_tracked hempty (by simp [s₀, startWith, Handle.trusted]) n acts
  refine ⟨hub, hhub, ?_, ?_, ?_⟩
  · intro n hd call hn hcall s'
    obtain ⟨-, live', hshelved', -⟩ := step_stems hshelved.stems (.call n call)
    refine ⟨?_, hshelved'.catalogued, call_agreeOn (htracked n) hshelved hn hcall⟩
    simpa only [s', step, hn] using hhub
  · intro n hd id hn hpasses
    exact unsubscribe_without (htracked n) hshelved hn hpasses
  · intro plugin
    have hstores : s.stores = ⟨s.bus.bus, some hub⟩ := by rw [stores, hhub]
    constructor
    · intro hnot
      unfold unload
      exact if_neg (by rw [← isLoaded, hnot]; exact Bool.false_ne_true)
    · intro hloaded
      have hbus := hshelved.unsubscribePlugin plugin
      have hsound' := hsound.unsubscribePlugin plugin
      obtain ⟨hcount, hwithout⟩ := hsound.unsubscribePlugin_without plugin
      refine ⟨(s.bus.bus.unsubscribePlugin plugin).2, (hub.unsubscribePlugin plugin).2, ?_,
        hbus.catalogued, hshelved.index.without hbus.index, hwithout, fun now topic => ?_⟩
      · rw [hstores, unload_loaded hloaded, hcount]
        rfl
      · rw [hsound'.find, hsound.find, hwithout.matching]

/-- Two plugins listen on one topic, one of them on the hub too.  When the first
    unsubscribes, the second still listens; when the second is unloaded, two
    subscriptions go, and the first still listens. -/
theorem isolation_hvac :
    let onHub (owner : Metadata) : Act Unit :=
      .hub fun hub => (hub.subscribe "zone.*" () owner).2
    let acts : List (Act Unit) :=
      [.load (.ofId "hvac" .everything), .call 0 (.subscribe "zone.temp" ()),
        .call 1 (.subscribe "zone.temp" ()), onHub {}, onHub (.ofPlugin "hvac")]
    let s := (startWith {} true {} {} ["probe"]).run acts
    let left := s.step (.call 0 (.unsubscribe (Mint.grouped 1 0)))
    (left.bus.bus.index.matching "zone.temp").map (·.metadata.plugin) = [some "hvac"] ∧
      ∃ registry bus' hub',
        s.registry.unload s.stores "hvac" = (.ok 2, registry, ⟨bus', some hub'⟩) ∧
        (bus'.index.matching "zone.temp").map (·.metadata.plugin) = [some "probe"] ∧
        (hub'.find 0 "zone.temp").1.1.map (·.metadata.plugin) = [none] := by
  intro onHub acts s left
  have hacts : ∀ a ∈ acts, a.Genuine := by
    have hhub (owner : Metadata) : (onHub owner).Genuine :=
      ⟨0, 0, {}, .subscribe "zone.*" () owner, fun _ => rfl⟩
    simp only [acts, List.forall_mem_cons]
    exact ⟨trivial, trivial, trivial, hhub _, hhub _, by simp⟩
  obtain ⟨hub, hhub, -, hunsubscribe, hunload⟩ := isolation {} true {} {} ["probe"] hacts
  let probe : Handle := ⟨.ofId "probe" .everything,
    { plugin := "probe", guard := none, owned := [Mint.grouped 1 0] }⟩
  obtain ⟨found, -, hfound, hleft⟩ :=
    hunsubscribe 0 probe (Mint.grouped 1 0) rfl (by rintro ⟨_, _, h⟩; cases h)
  obtain rfl : found = true := hfound.2
    ⟨⟨_, .subscribe "zone.temp" (), .trusted "probe", .tail _ (.head _), rfl, rfl⟩,
      ⟨Mint.grouped 1 0, .exact "zone.temp", .subscriber (), .ofPlugin "probe"⟩,
      List.mem_cons_self, rfl⟩
  obtain ⟨bus', hub', hresult, -, hbus, -, hfind⟩ := (hunload "hvac").2 rfl
  cases hhub
  refine ⟨?_, _, bus', hub', hresult, ?_, ?_⟩
  · rw [hleft.matching]
    rfl
  · rw [hbus.matching]
    rfl
  · rw [hfind]
    rfl

end Session

end Registry

end Switchboard
