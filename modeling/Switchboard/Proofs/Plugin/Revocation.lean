import Switchboard.Proofs.Bus.Catalogue
import Switchboard.Proofs.Caller
import Switchboard.Proofs.Plugin.Registry
import Switchboard.Proofs.Plugin.Session

/-
  Revocation — what unloading and reloading take from a plugin, and what not.

  * `PluginCall.Permitted`: what permissions mean for a call, whether or not they
    name topics;
  * `Session.Revokes`: a plugin that is loaded is unloaded, or loaded anew;
  * `Handle.Sound`: the guard of a context is that of its manifest, whatever has
    become of the plugin;
  * `step_stems`, `step_loaded`, `entries_of_revokes`: what one act does to the
    bus and to the loaded plugins;
  * `live_since`: a subscription that is live was not revoked;
  * `revocation`: what this means for every subscription that was made through a
    context, and `stale_context_hvac`: contexts themselves are not revoked.
-/

namespace Switchboard

variable {H : Type}

/-! ## Calls -/

/-- The capability that a call needs is granted, and its name is permitted if it
    reads as a pattern. -/
def PluginCall.Permitted (p : Permissions) (call : PluginCall H) : Prop :=
  call.capability ∈ p.capabilities ∧
    ∀ name requested, call.name? = some name → Pattern.parse name = .ok requested →
      p.Permits call.capability requested

theorem Guard.Of.permitted {g : Guard} {p : Permissions} (h : g.Of p) {call : PluginCall H}
    (hpasses : g.refusal? call.capability call.name? = none) : call.Permitted p := by
  refine ⟨h.capabilities ▸ (Guard.refusal?_eq_none.1 hpasses).1, ?_⟩
  intro name requested hname hparse
  rw [hname] at hpasses
  exact h.permits hpasses hparse

namespace PluginContext

variable {x x' : PluginContext} {s s' : Services H} {call : PluginCall H} {r : PluginResult}

/-- What is on the bus afterwards was there before, or is new. -/
theorem Deed.stems {live : List (Subscription (Listener H))} {mint : Mint}
    (h : x.Deed s call (r, x', s')) (hstems : Bus.Stems live mint s.bus) :
    Bus.Stems live mint s'.bus := by
  have hlasting := Bus.Stems.lasting live mint
  cases h with
  | refused | foreign => exact hstems
  | published now topic payload o outcome bus hb =>
    have hpublish := hlasting.publish hstems now topic payload o
    rwa [hb] at hpublish
  | subscribed call name p listener _ hparse =>
    exact hstems.subscribes (.added p x.metadata (Pattern.parsed_of_parse hparse))
  | unsubscribed id => exact hstems.unsubscribe id
  | called now draws topic payload o progress caller bus hplace =>
    have hcalled := s.caller.place_keeps (P := Bus.Stems live mint)
      (fun _ _ _ _ _ h => h.openRequest ..) (fun _ _ _ h => hlasting.attend h ..) hstems
      now draws topic payload o
    rwa [hplace] at hcalled

theorem Performs.stems {live : List (Subscription (Listener H))} {mint : Mint}
    (h : x.Performs s call (r, x', s')) (hstems : Bus.Stems live mint s.bus) :
    Bus.Stems live mint s'.bus := by
  cases h with
  | denied => exact hstems
  | made _ _ hdeed => exact hdeed.stems hstems

end PluginContext

namespace Registry

/-- A context is that of its plugin, with the guard that its manifest gives. -/
structure Handle.Sound (h : Handle) : Prop where
  plugin : h.context.plugin = h.manifest.id
  guard : ∃ g, h.context.guard = some g ∧
    Guard.ofPermissions h.manifest.id h.manifest.permissions = .ok g

namespace Session

/-- A plugin that is loaded is unloaded, or loaded anew. -/
def Revokes (s : Session H) (plugin : String) : Act H → Prop
  | .unload id => id = plugin ∧ s.registry.isLoaded plugin = true
  | .reload m => m.id = plugin ∧ s.registry.isLoaded plugin = true
  | _ => False

/-! ## One act -/

theorem step_reload (s : Session H) (m : Manifest) :
    (s.step (.reload m)).registry = ((s.registry.unload s.stores m.id).2.1.load m).2 ∧
    (s.step (.reload m)).bus.bus = (s.registry.unload s.stores m.id).2.2.bus := by
  rcases hload : (s.registry.unload s.stores m.id).2.1.load m with ⟨f | context, registry⟩ <;>
    simp [step, reload_eq, hload, store, grant]

theorem step_load (s : Session H) (m : Manifest) :
    (s.step (.load m)).registry = (s.registry.load m).2 ∧ (s.step (.load m)).bus = s.bus := by
  rcases hload : s.registry.load m with ⟨f | context, registry⟩ <;> simp [step, hload, grant]

/-- A call acts on the bus and on its own context. -/
theorem step_call {s : Session H} {n : Nat} {hd : Handle} (hn : s.handles[n]? = some hd)
    (call : PluginCall H) :
    ∃ x services, hd.context.Performs s.services call (s.answer hd call, x, services) ∧
      (s.step (.call n call)).bus.bus = services.bus ∧
      (s.step (.call n call)).handles = s.handles.set n { hd with context := x } := by
  refine ⟨(hd.context.perform s.services call).2.1, (hd.context.perform s.services call).2.2,
    hd.context.perform_performs s.services call, ?_, ?_⟩
  · simp only [step, hn]
  · simp only [step, hn]

/-- What is on the bus after an act was there before, or is new. -/
theorem step_stems {live : List (Subscription (Listener H))} {mint : Mint} {s : Session H}
    (h : Bus.Stems live mint s.bus.bus) (a : Act H) :
    Bus.Stems live mint (s.step a).bus.bus := by
  have hlasting := Bus.Stems.lasting live mint
  have hunload (id : String) :
      Bus.Stems live mint (s.registry.unload s.stores id).2.2.bus :=
    unload_keeps (P := fun _ stores => Bus.Stems live mint stores.bus) h (h.unsubscribePlugin id)
  cases a with
  | load m => rwa [(s.step_load m).2]
  | unload id => exact hunload id
  | reload m =>
    rw [(s.step_reload m).2]
    exact hunload m.id
  | call n call =>
    rcases hn : s.handles[n]? with _ | hd
    · simpa only [step, hn] using h
    · obtain ⟨x, services, hperforms, hbus, -⟩ := step_call hn call
      rw [hbus]
      exact hperforms.stems h
  | poll id draws =>
    simp only [step]
    split
    · exact h
    · exact s.caller.poll_keeps (P := Bus.Stems live mint) (fun _ _ _ _ _ h => h.openRequest ..)
        (fun _ _ _ h => hlasting.attend h ..) h s.bus.now draws _
  | abandon id =>
    simp only [step]
    split
    · exact h
    · exact Caller.abandon_keeps (P := Bus.Stems live mint) (fun _ _ h => hlasting.close h _)
        s.caller h _
  | bus act => exact Bus.Session.step_stems h act
  | hub change => exact h

/-- **Who is revoked** has nothing left on the bus. -/
theorem entries_of_revokes {s : Session H} {plugin : String} {a : Act H}
    (ha : s.Revokes plugin a) :
    (s.step a).bus.bus = (s.bus.bus.unsubscribePlugin plugin).2 := by
  have hunload {id : String} (hid : id = plugin) (hloaded : s.registry.isLoaded plugin = true) :
      (s.registry.unload s.stores id).2.2.bus = (s.bus.bus.unsubscribePlugin plugin).2 := by
    subst hid
    have hunloads := s.registry.unload_unloads s.stores id
    generalize s.registry.unload s.stores id = result at hunloads ⊢
    cases hunloads with
    | unknown hnot => exact absurd hloaded (by simp [hnot])
    | unloaded n => rfl
  cases a with
  | unload id => exact hunload ha.1 ha.2
  | reload m =>
    rw [(s.step_reload m).2]
    exact hunload ha.1 ha.2
  | _ => cases ha

/-- Loading leaves a plugin that is loaded as it is. -/
theorem load_loaded {r : Registry} {plugin : String} {m : Manifest}
    (h : r.plugins.get? plugin = some m) (m' : Manifest) :
    (r.load m').2.plugins.get? plugin = some m := by
  have hloads := r.load_loads m'
  generalize r.load m' = result at hloads ⊢
  cases hloads with
  | loadedBefore | unreadable => exact h
  | loaded guard hnot =>
    have hne : m'.id ≠ plugin := by
      rintro rfl
      simp [isLoaded, Table.contains_eq, h] at hnot
    rw [Table.get?_put, if_neg hne]
    exact h

/-- **Who is not revoked** stays loaded, with the same manifest. -/
theorem step_loaded {s : Session H} {plugin : String} {m : Manifest} {a : Act H}
    (h : s.registry.plugins.get? plugin = some m) (ha : ¬ s.Revokes plugin a) :
    (s.step a).registry.plugins.get? plugin = some m := by
  have hloaded : s.registry.isLoaded plugin = true := by simp [isLoaded, Table.contains_eq, h]
  have hunload {id : String} (hne : id ≠ plugin) :
      (s.registry.unload s.stores id).2.1.plugins.get? plugin = some m := by
    refine unload_keeps (P := fun r _ => r.plugins.get? plugin = some m) h ?_
    rw [Table.get?_erase, if_neg hne]
    exact h
  cases a with
  | load m' =>
    rw [(s.step_load m').1]
    exact load_loaded h m'
  | unload id => exact hunload fun hid => ha ⟨hid, hloaded⟩
  | reload m' =>
    rw [(s.step_reload m').1]
    exact load_loaded (hunload fun hid => ha ⟨hid, hloaded⟩) m'
  | call n call =>
    simp only [step]
    split
    · exact h
    · exact h
  | poll id _ | abandon id =>
    simp only [step]
    split
    · exact h
    · exact h
  | bus | hub => exact h

theorem run_loaded {s : Session H} {plugin : String} {m : Manifest} {acts : List (Act H)}
    (h : s.registry.plugins.get? plugin = some m)
    (hacts : ∀ x ∈ s.trace acts, ¬ x.1.Revokes plugin x.2) :
    (s.run acts).registry.plugins.get? plugin = some m := by
  induction acts generalizing s with
  | nil => exact h
  | cons a acts ih =>
    obtain ⟨ha, hacts⟩ := List.forall_mem_cons.1 hacts
    exact ih (step_loaded h ha) hacts

/-! ## Contexts -/

theorem step_sound {s : Session H} (h : ∀ hd ∈ s.handles, hd.Sound) (a : Act H) :
    ∀ hd ∈ (s.step a).handles, hd.Sound := by
  have hgrant {r : Registry} {m : Manifest} {context : PluginContext}
      (hload : (r.load m).1 = .ok context) : Handle.Sound ⟨m, context⟩ := by
    have hloads := r.load_loads m
    generalize r.load m = result at hloads hload
    cases hloads with
    | loadedBefore | unreadable => cases hload
    | loaded guard _ hguard =>
      cases hload
      exact ⟨rfl, guard, rfl, hguard⟩
  have hadd {m : Manifest} {context : PluginContext} (hnew : Handle.Sound ⟨m, context⟩) :
      ∀ hd ∈ s.handles ++ [⟨m, context⟩], hd.Sound := by
    intro hd hmem
    rcases List.mem_append.1 hmem with hmem | hmem
    · exact h hd hmem
    · rw [List.mem_singleton.1 hmem]
      exact hnew
  cases a with
  | load m =>
    simp only [step]
    split
    · exact h
    · next heq => exact hadd (hgrant (congrArg Prod.fst heq))
  | reload m =>
    simp only [step]
    split
    · exact h
    · next heq => exact hadd (hgrant (congrArg Prod.fst heq))
  | call n call =>
    rcases hn : s.handles[n]? with _ | hd
    · simpa only [step, hn] using h
    · obtain ⟨x, services, hperforms, -, hhandles⟩ := step_call hn call
      have hold : hd.Sound := h hd (List.mem_of_getElem? hn)
      obtain ⟨hguard, hplugin⟩ := hperforms.keeps
      rw [hhandles]
      intro hd' hmem
      rcases List.mem_or_eq_of_mem_set hmem with hmem | rfl
      · exact h hd' hmem
      · exact ⟨hplugin.trans hold.plugin, hguard ▸ hold.guard⟩
  | poll id _ | abandon id =>
    simp only [step]
    split
    · exact h
    · exact h
  | unload | bus | hub => exact h

theorem run_sound (config : BusConfig) (hosted : Bool) (hub : Option (Hub H))
    (caller : CallerConfig) (acts : List (Act H)) :
    ∀ hd ∈ ((start config hosted hub caller).run acts).handles, hd.Sound :=
  run_induction (P := fun _ s => ∀ hd ∈ s.handles, hd.Sound) (by simp [start])
    (fun _ _ a h => step_sound h a) acts

/-- What is not denied is permitted by the manifest of the context. -/
theorem permitted_of_sound {hd : Handle} (h : hd.Sound) {s : Session H} {call : PluginCall H}
    (hcall : ¬ (s.answer hd call).Denied) : call.Permitted hd.manifest.permissions := by
  obtain ⟨g, hg, hguard⟩ := h.guard
  have hperforms := hd.context.perform_performs s.services call
  unfold answer at hcall
  generalize hd.context.perform s.services call = result at hperforms hcall
  cases hperforms with
  | denied reason => exact absurd ⟨_, _, rfl⟩ hcall
  | made _ hpasses =>
    rw [hg] at hpasses
    exact (Guard.of_ofPermissions hguard).permitted hpasses

/-- What a call has subscribed is on the bus, tagged with the plugin. -/
theorem step_subscribed {s : Session H} {n : Nat} {hd : Handle} {call : PluginCall H} {id : String}
    (hn : s.handles[n]? = some hd) (hanswer : s.answer hd call = .ok (.subscribed id)) :
    ∃ name p, ∃ listener : Listener H, call.name? = some name ∧ Pattern.parse name = .ok p ∧
      id = s.bus.bus.mint.take.1 ∧
      (s.step (.call n call)).bus.bus =
        s.bus.bus.enrol ⟨id, p, listener, hd.context.metadata⟩ := by
  obtain ⟨x, services, hperforms, hstep, -⟩ := step_call hn call
  rw [hanswer] at hperforms
  obtain ⟨name, p, listener, hname, hparse, hid, hbus⟩ := hperforms.of_subscribed
  exact ⟨name, p, listener, hname, hparse, hid, hstep.trans hbus⟩

/-! ## Runs -/

/-- An id has been handed out for this subscription; and if it is still live,
    then its plugin has not been revoked since. -/
def Unrevoked (sub : Subscription (Listener H)) (plugin : String) (log : List (Session H × Act H))
    (s : Session H) : Prop :=
  s.bus.bus.mint.Issued sub.id ∧ ∃ live, Bus.Shelved s.bus.bus live ∧
    ∀ sub' ∈ live, sub'.id = sub.id → sub' = sub ∧ ∀ x ∈ log, ¬ x.1.Revokes plugin x.2

theorem Unrevoked.step {sub : Subscription (Listener H)} {plugin : String}
    (howned : sub.isOwnedBy plugin = true) {log : List (Session H × Act H)} {s : Session H}
    (h : Unrevoked sub plugin log s) (a : Act H) :
    Unrevoked sub plugin (log ++ [(s, a)]) (s.step a) := by
  obtain ⟨hissued, live, hshelved, hlive⟩ := h
  obtain ⟨hlater, live', hshelved', hstems⟩ := step_stems hshelved.stems a
  refine ⟨hlater.issued hissued, ?_⟩
  by_cases hrevokes : s.Revokes plugin a
  · -- the subscription goes, and its id does not come back
    have hgone := hshelved.unsubscribePlugin plugin
    rw [← entries_of_revokes hrevokes] at hgone
    refine ⟨_, hgone, ?_⟩
    intro sub' hsub' hid
    obtain ⟨hsub', hother⟩ := List.mem_filter.1 hsub'
    rw [(hlive sub' hsub' hid).1, howned] at hother
    cases hother
  · refine ⟨live', hshelved', ?_⟩
    intro sub' hsub' hid
    rcases hstems sub' hsub' with hold | hnew
    · obtain ⟨heq, hlog⟩ := hlive sub' hold hid
      refine ⟨heq, ?_⟩
      intro x hx
      rcases List.mem_append.1 hx with hx | hx
      · exact hlog x hx
      · rw [List.mem_singleton.1 hx]
        exact hrevokes
    · exact absurd (hid ▸ hissued) hnew

/-- **A subscription that is live** was not revoked. -/
theorem live_since {s : Session H} {sub : Subscription (Listener H)} {plugin : String}
    {live : List (Subscription (Listener H))} (h : Bus.Shelved s.bus.bus live) (hsub : sub ∈ live)
    (howned : sub.isOwnedBy plugin = true) (acts : List (Act H)) :
    ∀ sub' ∈ (s.run acts).bus.bus.index.entries, sub'.id = sub.id →
      sub' = sub ∧ ∀ x ∈ s.trace acts, ¬ x.1.Revokes plugin x.2 := by
  have hstart : Unrevoked sub plugin [] s := by
    refine ⟨h.issued sub hsub, live, h, ?_⟩
    intro sub' hsub' hid
    exact ⟨h.eq_of_id hsub' hsub hid, by simp⟩
  obtain ⟨-, live', hshelved, hlive⟩ :=
    run_induction hstart (fun _ _ a h => Unrevoked.step howned h a) acts
  intro sub' hsub' hid
  exact hlive sub' (hshelved.index.entries_perm.mem_iff.1 hsub') hid

theorem run_stems {live : List (Subscription (Listener H))} {mint : Mint} {s : Session H}
    (h : Bus.Stems live mint s.bus.bus) (acts : List (Act H)) :
    Bus.Stems live mint (s.run acts).bus.bus :=
  run_induction (P := fun _ s => Bus.Stems live mint s.bus.bus) h (fun _ _ a h => step_stems h a)
    acts

/-- **Revocation.**  Whatever is done through a context that was handed out, at
    any time, is permitted by the manifest it was handed out with.  A plugin that
    is unloaded or reloaded has nothing left on the bus at that moment.  And a
    subscription that was made through a context and is still live is tagged with
    the plugin of the context and permitted by its manifest, and the plugin has
    not been unloaded or reloaded since; so if it was loaded with that manifest
    when the subscription was made, it is loaded with it still. -/
theorem revocation (config : BusConfig) (hosted : Bool) (hub : Option (Hub H))
    (caller : CallerConfig) (acts : List (Act H)) :
    let s₀ := start config hosted hub caller
    let s := s₀.run acts
    (∀ hd ∈ s.handles, ∀ call : PluginCall H, ¬ (s.answer hd call).Denied →
      call.Permitted hd.manifest.permissions) ∧
    (∀ plugin a, s.Revokes plugin a →
      ∀ sub ∈ (s.step a).bus.bus.index.entries, sub.isOwnedBy plugin = false) ∧
    ∀ before n call after, acts = before ++ .call n call :: after →
      ∀ hd id, (s₀.run before).handles[n]? = some hd →
      (s₀.run before).answer hd call = .ok (.subscribed id) →
      ∀ sub ∈ s.bus.bus.index.entries, sub.id = id →
        sub.isOwnedBy hd.manifest.id = true ∧
        hd.manifest.permissions.Permits call.capability sub.pattern ∧
        (∀ x ∈ (s₀.run (before ++ [.call n call])).trace after,
          ¬ x.1.Revokes hd.manifest.id x.2) ∧
        ((s₀.run before).registry.plugins.get? hd.manifest.id = some hd.manifest →
          s.registry.plugins.get? hd.manifest.id = some hd.manifest) := by
  intro s₀ s
  have hsound := run_sound config hosted hub caller (H := H)
  refine ⟨fun hd hhd call hcall => ?_, fun plugin a ha => ?_, ?_⟩
  · exact permitted_of_sound (hsound acts hd hhd) hcall
  · intro sub hsub
    rw [entries_of_revokes ha, Bus.entries_unsubscribePlugin] at hsub
    simpa using (List.mem_filter.1 hsub).2
  · rintro before n call after rfl hd id hn hanswer sub hsub hid
    have hmade := hsound before hd (List.mem_of_getElem? hn)
    obtain ⟨name, p, listener, hname, hparse, rfl, hbus⟩ := step_subscribed hn hanswer
    let made : Subscription (Listener H) :=
      ⟨(s₀.run before).bus.bus.mint.take.1, p, listener, hd.context.metadata⟩
    obtain ⟨-, live, hshelved, -⟩ :=
      run_stems (s := s₀) (Bus.Session.start_shelved config hosted).stems before
    have henrolled : Bus.Shelved (s₀.run (before ++ [.call n call])).bus.bus (live ++ [made]) := by
      rw [run_concat, hbus]
      exact hshelved.add (Pattern.parsed_of_parse hparse) (Mint.not_issued_take _) rfl rfl
        (Mint.reaches_advance _) (Mint.issued_take _)
    have howned : made.isOwnedBy hd.manifest.id = true := by
      rw [← hmade.plugin]
      exact beq_self_eq_true _
    have hrun : s = (s₀.run (before ++ [.call n call])).run after := by
      rw [← run_append, List.append_assoc]
      rfl
    rw [hrun] at hsub ⊢
    obtain ⟨rfl, hlog⟩ := live_since henrolled List.mem_concat_self howned after sub hsub hid
    have hpermitted : call.Permitted hd.manifest.permissions :=
      permitted_of_sound (s := s₀.run before) hmade fun ⟨_, _, hdenied⟩ => by
        rw [hanswer] at hdenied
        cases hdenied
    refine ⟨howned, hpermitted.2 name _ hname hparse, hlog, fun hloaded => ?_⟩
    refine run_loaded ?_ hlog
    rw [run_concat]
    exact step_loaded hloaded id

/-- A plugin that may subscribe below `zone` does so, and another is loaded: the
    subscription is permitted, and its plugin loaded. -/
theorem revocation_zone :
    let m : Manifest := .ofId "hvac" { capabilities := [.subscribe], topics := ["zone.*"] }
    let s := (start {} true none {}).run
      [.load m, .call 0 (.subscribe "zone.temp" ()), .load (.ofId "probe" {})]
    ∃ sub ∈ s.bus.bus.index.entries, sub.isOwnedBy "hvac" = true ∧
      m.permissions.Permits .subscribe sub.pattern ∧
      s.registry.plugins.get? "hvac" = some m := by
  intro m s
  let g : Guard := ⟨"hvac", [.subscribe], [.under ["zone"]]⟩
  let hd : Handle := ⟨m, { plugin := "hvac", guard := some g }⟩
  let sub : Subscription (Listener Unit) :=
    ⟨Mint.grouped 1 0, .exact "zone.temp", .subscriber (), .ofPlugin "hvac"⟩
  have hsub : sub ∈ s.bus.bus.index.entries := List.mem_singleton_self sub
  obtain ⟨-, -, hmade⟩ := revocation {} true none {}
    [.load m, .call 0 (.subscribe "zone.temp" ()), .load (.ofId "probe" {})]
  obtain ⟨howned, hpermits, -, hloaded⟩ := hmade [.load m] 0 (.subscribe "zone.temp" ())
    [.load (.ofId "probe" {})] rfl hd sub.id rfl rfl sub hsub rfl
  exact ⟨sub, hsub, howned, hpermits, hloaded rfl⟩

/-- **Contexts are not revoked.**  A plugin subscribes through a context that it
    has kept, once when it has been unloaded and once when it has been reloaded
    with a manifest that permits nothing. -/
theorem stale_context_hvac :
    let subscribe : Act Unit := .call 0 (.subscribe "zone.temp" ())
    let old : Manifest := .ofId "hvac" .everything
    let new : Manifest := .ofId "hvac" {}
    let s₁ := (start {} true none {}).run [.load old, .unload "hvac", subscribe]
    let s₂ := (start {} true none {}).run [.load old, .reload new, subscribe]
    (s₁.registry.isLoaded "hvac" = false ∧
      s₁.bus.bus.index.entries.any (·.isOwnedBy "hvac") = true) ∧
    s₂.registry.plugins.get? "hvac" = some new ∧ new.permissions.capabilities = [] ∧
      s₂.bus.bus.index.entries.any (·.isOwnedBy "hvac") = true := by
  decide +kernel

end Session

end Registry

end Switchboard
