import Switchboard.Plugin.Registry
import Switchboard.Proofs.Hub.Cache
import Switchboard.Proofs.Index.Entries
import Switchboard.Proofs.Plugin.Deed

/-
  What loading, unloading and reloading change.

  * `Stores.without`: the stores when a plugin has lost its subscriptions;
    `Withdrawn`: what is left when it is gone;
  * `Loads`, `Unloads`: what loading and unloading can do; `load_loads` and
    `unload_unloads` say that the lists are complete;
  * `refused_change`: what is refused, and what a refusal leaves behind.
-/

namespace Switchboard

variable {H : Type}

/-! ## Permissions that cannot be read -/

namespace Guard

theorem readTopics_error {names : List String} {f : BusFault} (h : readTopics names = .error f) :
    ∃ name ∈ names, Address.pattern name = .error f := by
  induction names with
  | nil => cases h
  | cons name names ih =>
    unfold readTopics at h
    rcases hp : Address.pattern name with f' | p
    · rw [hp] at h
      cases h
      exact ⟨name, List.mem_cons_self, hp⟩
    · rcases hps : readTopics names with f' | ps
      · rw [hp, hps] at h
        cases h
        obtain ⟨name', hname', hbad⟩ := ih hps
        exact ⟨name', List.mem_cons_of_mem _ hname', hbad⟩
      · rw [hp, hps] at h
        cases h

theorem ofPermissions_error {plugin : String} {p : Permissions} {f : BusFault}
    (h : ofPermissions plugin p = .error f) :
    ∃ name ∈ p.topics, Address.pattern name = .error f := by
  unfold ofPermissions at h
  rcases hps : readTopics p.topics with f' | ps
  · rw [hps] at h
    cases h
    exact readTopics_error hps
  · rw [hps] at h
    cases h

end Guard

/-! ## Subscriptions of a plugin -/

/-- The stores without the subscriptions of a plugin. -/
def Stores.without (s : Stores H) (plugin : String) : Stores H where
  bus := (s.bus.unsubscribePlugin plugin).2
  hub := s.hub.map fun h => (h.unsubscribePlugin plugin).2

/-- What others have subscribed stays where it is. -/
theorem Bus.entries_unsubscribePlugin (b : Bus H) (plugin : String) :
    (b.unsubscribePlugin plugin).2.index.entries =
      b.index.entries.filter fun sub => !sub.isOwnedBy plugin :=
  b.index.entries_eraseWhere (·.isOwnedBy plugin)

theorem Hub.entries_unsubscribePlugin (h : Hub H) (plugin : String) :
    (h.unsubscribePlugin plugin).2.index.entries =
      h.index.entries.filter fun sub => !sub.isOwnedBy plugin := by
  have herased := h.index.entries_eraseWhere (·.isOwnedBy plugin)
  rcases hresult : h.index.eraseWhere (·.isOwnedBy plugin) with ⟨_ | ⟨sub, removed⟩, index⟩
  · -- a hub from which nothing goes is not even touched
    have hnone : h.index.entries.filter (·.isOwnedBy plugin) = [] := congrArg Prod.fst hresult
    have hkeep : h.index.entries.filter (fun sub => !sub.isOwnedBy plugin) = h.index.entries := by
      refine List.filter_eq_self.2 fun sub hsub => ?_
      simpa using List.filter_eq_nil_iff.1 hnone sub hsub
    simp only [unsubscribePlugin, hresult, hkeep]
  · rw [hresult] at herased
    simp only [unsubscribePlugin, hresult]
    rw [(announceAll_frame _ _).2.2]
    exact herased

namespace Registry

/-! ## Loading and unloading -/

/-- What loading a plugin can do. -/
inductive Loads (r : Registry) (m : Manifest) :
    Except PluginFault PluginContext × Registry → Prop
  | loadedBefore : r.isLoaded m.id = true → Loads r m (.error (.alreadyLoaded m.id), r)
  /-- one of its topics is no pattern -/
  | unreadable (name f) : r.isLoaded m.id = false → name ∈ m.permissions.topics →
      Address.pattern name = .error f → Loads r m (.error (.bus f), r)
  | loaded (guard) : r.isLoaded m.id = false →
      Guard.ofPermissions m.id m.permissions = .ok guard →
      Loads r m
        (.ok { plugin := m.id, guard := some guard }, { r with plugins := r.plugins.put m.id m })

theorem load_loads (r : Registry) (m : Manifest) : r.Loads m (r.load m) := by
  unfold load
  split_ifs with hloaded
  · exact .loadedBefore hloaded
  · have hnot : r.isLoaded m.id = false := Bool.eq_false_iff.2 hloaded
    split
    · next f hguard =>
      obtain ⟨name, hname, hbad⟩ := Guard.ofPermissions_error hguard
      exact .unreadable name f hnot hname hbad
    · next guard hguard => exact .loaded guard hnot hguard

/-- What unloading a plugin can do. -/
inductive Unloads (r : Registry) (s : Stores H) (id : String) :
    Except PluginFault Nat × Registry × Stores H → Prop
  | unknown : r.isLoaded id = false → Unloads r s id (.error (.notLoaded id), r, s)
  | unloaded (n) : r.isLoaded id = true →
      Unloads r s id (.ok n, { r with plugins := r.plugins.erase id }, s.without id)

theorem unload_unloads (r : Registry) (s : Stores H) (id : String) :
    r.Unloads s id (r.unload s id) := by
  obtain ⟨bus, hub⟩ := s
  unfold unload
  split_ifs with hloaded
  · cases hub with
    | none => exact .unloaded _ hloaded
    | some hub => exact .unloaded _ hloaded
  · exact .unknown (Bool.eq_false_iff.2 hloaded)

/-- Reloading is unloading and loading. -/
theorem reload_eq (r : Registry) (s : Stores H) (m : Manifest) :
    r.reload s m = (((r.unload s m.id).2.1.load m).1, ((r.unload s m.id).2.1.load m).2,
      (r.unload s m.id).2.2) := rfl

/-- What holds of the registry and the stores when nothing is unloaded and when
    the plugin is, holds after unloading. -/
theorem unload_keeps {P : Registry → Stores H → Prop} {r : Registry} {s : Stores H} {id : String}
    (h : P r s) (hgone : P { r with plugins := r.plugins.erase id } (s.without id)) :
    P (r.unload s id).2.1 (r.unload s id).2.2 := by
  have hunloads := r.unload_unloads s id
  generalize r.unload s id = result at hunloads ⊢
  cases hunloads with
  | unknown => exact h
  | unloaded => exact hgone

theorem isLoaded_erase (r : Registry) (id : String) :
    isLoaded { r with plugins := r.plugins.erase id } id = false := by
  simp [isLoaded, Table.contains_eq, Table.get?_erase]

/-- A plugin is gone with all it had subscribed, on the bus and on the hub, and
    nothing else has changed. -/
structure Withdrawn (r : Registry) (s : Stores H) (id : String) (r' : Registry) (s' : Stores H) :
    Prop where
  plugin : r'.isLoaded id = false
  others : ∀ other, other ≠ id → r'.plugins.get? other = r.plugins.get? other
  denied : r'.denied = r.denied
  bus : s'.bus = { s.bus with index := s'.bus.index, patterns := s'.bus.patterns }
  entries : s'.bus.index.entries = s.bus.index.entries.filter fun sub => !sub.isOwnedBy id
  hub : s'.hub.map (·.index.entries) =
    s.hub.map fun h => h.index.entries.filter fun sub => !sub.isOwnedBy id

theorem withdrawn (r : Registry) (s : Stores H) (id : String) :
    Withdrawn r s id { r with plugins := r.plugins.erase id } (s.without id) where
  plugin := r.isLoaded_erase id
  others other hne := by
    rw [Table.get?_erase, if_neg (Ne.symm hne)]
  denied := rfl
  bus := rfl
  entries := s.bus.entries_unsubscribePlugin id
  hub := by
    simp only [Stores.without, Option.map_map, Function.comp_def, Hub.entries_unsubscribePlugin]

/-! ## Refusals -/

/-- One of the topics that a manifest names is no pattern, for this cause. -/
def Unreadable (m : Manifest) (f : PluginFault) : Prop :=
  ∃ name ∈ m.permissions.topics, ∃ fault, Address.pattern name = .error fault ∧ f = .bus fault

theorem load_error {r : Registry} {m : Manifest} {f : PluginFault}
    (hf : (r.load m).1 = .error f) : (r.load m).2 = r ∧
      (f = .alreadyLoaded m.id ∧ r.isLoaded m.id = true ∨
        Unreadable m f ∧ r.isLoaded m.id = false) := by
  have hloads := r.load_loads m
  rcases hresult : r.load m with ⟨result, r'⟩
  rw [hresult] at hloads hf
  cases hloads with
  | loadedBefore hloaded => exact ⟨rfl, Or.inl ⟨(Except.error.inj hf).symm, hloaded⟩⟩
  | unreadable name fault hnot hname hbad =>
    exact ⟨rfl, Or.inr ⟨⟨name, hname, fault, hbad, (Except.error.inj hf).symm⟩, hnot⟩⟩
  | loaded => cases hf

theorem unload_error {r : Registry} {s : Stores H} {id : String} {f : PluginFault}
    (hf : (r.unload s id).1 = .error f) :
    (r.unload s id).2 = (r, s) ∧ f = .notLoaded id ∧ r.isLoaded id = false := by
  have hunloads := r.unload_unloads s id
  generalize r.unload s id = result at hunloads hf
  cases hunloads with
  | unknown hnot => exact ⟨rfl, (Except.error.inj hf).symm, hnot⟩
  | unloaded => cases hf

theorem reload_error {r : Registry} {s : Stores H} {m : Manifest} {f : PluginFault}
    (hf : (r.reload s m).1 = .error f) : Unreadable m f ∧
      (r.reload s m).2 = (r.unload s m.id).2 ∧
      (r.isLoaded m.id = false → (r.reload s m).2 = (r, s)) ∧
      (r.isLoaded m.id = true → Withdrawn r s m.id (r.reload s m).2.1 (r.reload s m).2.2) := by
  have hunloads := r.unload_unloads s m.id
  rw [reload_eq] at hf ⊢
  generalize r.unload s m.id = result at hunloads hf
  obtain ⟨hsame, hcause⟩ := load_error hf
  cases hunloads with
  | unknown hnot =>
    obtain ⟨-, hloaded⟩ | ⟨hbad, -⟩ := hcause
    · exact absurd hloaded (by simp [hnot])
    · refine ⟨hbad, ?_, fun _ => ?_, fun hloaded => absurd hloaded (by simp [hnot])⟩
      · rw [hsame]
      · rw [hsame]
  | unloaded n hloaded =>
    obtain ⟨-, hstill⟩ | ⟨hbad, -⟩ := hcause
    · exact absurd hstill (by simp [isLoaded_erase])
    · refine ⟨hbad, ?_, fun hnot => absurd hloaded (by simp [hnot]), fun _ => ?_⟩
      · rw [hsame]
      · rw [hsame]
        exact r.withdrawn s m.id

/-- **Refused changes.**  A plugin is not loaded because it is loaded already, or
    because one of its topics is no pattern; it is not unloaded because it is not
    loaded; and then everything is as it was.  A plugin is not reloaded because
    one of the topics of its new manifest is no pattern.  If it was not loaded
    before, everything is as it was; if it was, then it has been unloaded and no
    more: it is gone with all it had subscribed, and nothing else has changed. -/
theorem refused_change (r : Registry) (s : Stores H) :
    (∀ m f, (r.load m).1 = .error f → (r.load m).2 = r ∧
      (f = .alreadyLoaded m.id ∧ r.isLoaded m.id = true ∨
        Unreadable m f ∧ r.isLoaded m.id = false)) ∧
    (∀ id f, (r.unload s id).1 = .error f → (r.unload s id).2 = (r, s) ∧
      f = .notLoaded id ∧ r.isLoaded id = false) ∧
    ∀ m f, (r.reload s m).1 = .error f → Unreadable m f ∧
      (r.reload s m).2 = (r.unload s m.id).2 ∧
      (r.isLoaded m.id = false → (r.reload s m).2 = (r, s)) ∧
      (r.isLoaded m.id = true → Withdrawn r s m.id (r.reload s m).2.1 (r.reload s m).2.2) := by
  refine ⟨?_, ?_, ?_⟩
  · intro m f hf
    exact load_error hf
  · intro id f hf
    exact unload_error hf
  · intro m f hf
    exact reload_error hf

/-- A plugin that is reloaded with a topic that is no pattern is withdrawn. -/
theorem refused_change_hvac :
    let r : Registry := (load {} (.ofId "hvac" .everything)).2
    let s : Stores Unit := ⟨.create {} true, none⟩
    let m : Manifest := .ofId "hvac" (Permissions.everything.allowTopic "a..b")
    ∃ f, (r.reload s m).1 = .error f ∧ Unreadable m f ∧
      Withdrawn r s "hvac" (r.reload s m).2.1 (r.reload s m).2.2 := by
  intro r s m
  obtain ⟨f, hf⟩ : ∃ f, (r.reload s m).1 = .error f := ⟨_, rfl⟩
  obtain ⟨-, -, hreload⟩ := refused_change r s
  obtain ⟨hbad, -, -, hgone⟩ := hreload m f hf
  exact ⟨f, hf, hbad, hgone rfl⟩

/-- A plugin that has subscribed is reloaded with a topic that is no pattern: it
    is not loaded any more, and its subscription is gone. -/
theorem refused_reload_hvac :
    let loaded := load {} (.ofId "hvac" .everything)
    let services : Services Unit := { bus := .create {} true, caller := .create {}, denied := 0 }
    ∃ x, loaded.1 = .ok x ∧
      let bus := (x.perform services (.subscribe "zone.temp" ())).2.2.bus
      let reloaded := loaded.2.reload ⟨bus, none⟩
        (.ofId "hvac" (Permissions.everything.allowTopic "a..b"))
      reloaded.1.isOk = false ∧
        loaded.2.isLoaded "hvac" = true ∧ bus.index.entries.length = 1 ∧
        reloaded.2.1.isLoaded "hvac" = false ∧ reloaded.2.2.bus.index.entries.length = 0 :=
  ⟨_, rfl, by decide +kernel⟩

end Registry

end Switchboard
