import Switchboard.Proofs.Hub.Cache
import Switchboard.Proofs.Index.Frame

/-
  Sound hubs — what every hub satisfies, at whatever time it is looked at.

  The clock of a hub and its fan-outs belong to whoever runs it.  So soundness
  speaks of the hub alone, and every act keeps it, whatever the time is.

  * `Hub.Sound`: the index mirrors a plain list, and the cache agrees with it;
    `Sound.find`: then a look-up answers what the index answers;
  * `Session.step_index`: an act leaves the index as it is, or makes one change;
  * `Sound.step`: every act keeps a hub sound;
  * `unsubscribePlugin_without`: what a hub loses with a plugin.
-/

namespace Switchboard.Hub

variable {H : Type}

/-- The index mirrors a plain list, and whatever is remembered for a topic is what
    the index answers. -/
structure Sound (h : Hub H) : Prop where
  index : ∃ live, h.index.Mirrors live
  cache : ∀ topic e, h.cache.get? topic = some e → e.found = h.index.matching topic

theorem create_sound (config : HubConfig) : Sound (create config : Hub H) where
  index := ⟨[], Index.mirrors_empty⟩
  cache topic e he := by cases he

/-- **A look-up** answers what the index answers, at any time. -/
theorem Sound.find {h : Hub H} (hsound : h.Sound) (now : Nat) (topic : String) :
    (h.find now topic).1.1 = h.index.matching topic := by
  rcases hcached : h.cached? now topic with _ | found
  · simp only [Hub.find, hcached]
  · obtain ⟨e, he, -, rfl⟩ := cached?_eq_some.1 hcached
    simp only [Hub.find, hcached]
    exact hsound.cache topic e he

namespace Session

variable {s : Session H}

/-- An act leaves the index as it is, or makes one change. -/
theorem step_index (s : Session H) (a : Act H) :
    (s.step a).hub.index = s.hub.index ∨
      ∃ c : Index.Change H, (s.step a).hub.index = s.hub.index.change c := by
  cases a with
  | subscribe pattern handler metadata =>
    rcases hp : Address.pattern pattern with f | p
    · exact Or.inl (by simp [step, Hub.subscribe, hp])
    · refine Or.inr ⟨.insert ⟨s.hub.mint.take.1, p, handler, metadata⟩ pattern
        (parse_of_address hp), ?_⟩
      simp only [step, Hub.subscribe, hp]
      rfl
  | unsubscribe pattern id =>
    rcases he : s.hub.index.erase pattern id with ⟨_ | _, index⟩
    · exact Or.inl (by simp [step, Hub.unsubscribe, he])
    · refine Or.inr ⟨.erase pattern id, ?_⟩
      simp only [step, Hub.unsubscribe, he]
      exact (congrArg Prod.snd he).symm
  | unsubscribePlugin plugin =>
    rcases he : s.hub.index.eraseWhere (·.isOwnedBy plugin) with ⟨_ | ⟨sub, removed⟩, index⟩
    · exact Or.inl (by simp [step, Hub.unsubscribePlugin, he])
    · refine Or.inr ⟨.eraseWhere (·.isOwnedBy plugin), ?_⟩
      simp only [step, Hub.unsubscribePlugin, he]
      exact (announceAll_frame _ _).2.2.trans (congrArg Prod.snd he).symm
  | find topic => exact Or.inl (find_frame ..).2.1
  | publish topic payload =>
    rcases hd : topicDefect? topic with _ | d
    · exact Or.inl ((step_publish_frame s payload hd).2.1.trans (find_frame ..).2.1)
    · exact Or.inl (by simp [step, Hub.publish, Address.topic, hd])
  | conclude n place succeeded =>
    simp only [step]
    split
    · exact Or.inl rfl
    · exact Or.inl (carry_frame ..).2.1
  | shutdown => exact Or.inr ⟨.clear, rfl⟩
  | drop | cleanup | invalidate | wait => exact Or.inl rfl

/-- The cache agrees with the index after an act, if it did before. -/
theorem step_agrees (h : ∀ topic e, s.hub.cache.get? topic = some e →
    e.found = s.hub.index.matching topic) (a : Act H) (topic : String) (e : CacheEntry H)
    (he : (s.step a).hub.cache.get? topic = some e) :
    e.found = (s.step a).hub.index.matching topic := by
  cases s.step_effect a with
  | quiet hindex hcache =>
    rw [hcache] at he
    rw [hindex]
    exact h topic e he
  | cleared hcache =>
    rw [hcache] at he
    cases he
  | stored sought hindex hcache =>
    rw [hcache, get?_evictOverflow, get?_stored] at he
    rw [hindex]
    split at he
    · cases he
    · split at he
      · next heq =>
        cases he
        rw [heq]
      · exact h topic e he
  | swept ha =>
    subst ha
    have hkept := (get?_cleanup s.hub s.now topic).symm.trans he
    exact h topic e (Option.filter_eq_some_iff.1 hkept).1

end Session

/-- **One act** keeps a hub sound. -/
theorem Sound.step {s : Session H} (h : s.hub.Sound) (a : Act H) : (s.step a).hub.Sound where
  index := by
    obtain ⟨live, hlive⟩ := h.index
    rcases s.step_index a with hsame | ⟨c, hchange⟩
    · exact ⟨live, hsame ▸ hlive⟩
    · exact ⟨_, hchange ▸ hlive.change c⟩
  cache topic e he := Session.step_agrees h.cache a topic e he

/-! ## Losing a plugin -/

theorem Sound.unsubscribePlugin {h : Hub H} (hsound : h.Sound) (plugin : String) :
    (h.unsubscribePlugin plugin).2.Sound :=
  Sound.step (s := ⟨h, 0, 0, {}⟩) hsound (.unsubscribePlugin plugin)

/-- **A hub loses a plugin**: it says how many subscriptions go, and nothing else
    goes with them. -/
theorem Sound.unsubscribePlugin_without {h : Hub H} (hsound : h.Sound) (plugin : String) :
    (h.unsubscribePlugin plugin).1 = (h.index.entries.filter (·.isOwnedBy plugin)).length ∧
      h.index.Without (·.isOwnedBy plugin) (h.unsubscribePlugin plugin).2.index := by
  obtain ⟨live, hlive⟩ := hsound.index
  have herased := hlive.without (hlive.filter (·.isOwnedBy plugin))
  rcases hresult : h.index.eraseWhere (·.isOwnedBy plugin) with ⟨removed, index⟩
  have hremoved : h.index.entries.filter (·.isOwnedBy plugin) = removed :=
    congrArg Prod.fst hresult
  rw [hresult] at herased
  cases removed with
  | nil =>
    -- a hub from which nothing goes is not even touched
    have hnone : ∀ sub ∈ live, sub.isOwnedBy plugin = false := by
      intro sub hsub
      simpa using List.filter_eq_nil_iff.1 hremoved sub (hlive.entries_perm.mem_iff.2 hsub)
    have hkeep : live.filter (fun sub => !sub.isOwnedBy plugin) = live :=
      List.filter_eq_self.2 fun sub hsub => by rw [hnone sub hsub]; rfl
    simp only [Hub.unsubscribePlugin, hresult, hremoved, List.length_nil, true_and]
    exact hlive.without (hkeep.symm ▸ hlive)
  | cons sub removed =>
    simp only [Hub.unsubscribePlugin, hresult, hremoved, (announceAll_frame _ _).2.2, true_and]
    exact herased

end Switchboard.Hub
