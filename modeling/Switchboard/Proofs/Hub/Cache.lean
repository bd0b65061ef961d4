import Switchboard.Proofs.Hub.Session
import Switchboard.Proofs.Table

/-
  The cache of a hub — a look-up answers what the index answers, and is a hit as
  long as nothing has made the hub forget.

  * `Hub.evicts` are the topics that a look-up pushes out of the cache,
    `Forgets` says what makes a hub forget the matches of a topic;
  * `Effect`: an act leaves the cache alone, clears it, stores a topic or sweeps
    it, and `step_effect` says that the list is complete;
  * `Remembered`: the log of a run holds a look-up that stored a topic, and
    nothing after it that made the hub forget;
  * `find_coherent`: every look-up agrees with the index, and it is a hit iff the
    topic is remembered and young enough.
-/

namespace Switchboard.Hub

variable {H : Type}

/-! ## Eviction -/

/-- The cache after the matches of a topic were stored in it, before any are
    evicted. -/
def stored (h : Hub H) (now : Nat) (topic : String) : Table String (CacheEntry H) :=
  (h.cache.erase topic).put topic ⟨h.index.matching topic, now⟩

/-- The topics that a look-up evicts. -/
def evicts (h : Hub H) (now : Nat) (topic : String) : List String :=
  match h.cached? now topic with
  | some _ => []
  | none => overflow h.config.maxEntries (h.stored now topic).rows

theorem get?_without (gone : List String) (cache : Table String (CacheEntry H)) (topic : String) :
    (without gone cache).get? topic = if topic ∈ gone then none else cache.get? topic := by
  rw [without, Table.get?_filter]
  by_cases hmem : topic ∈ gone <;> cases cache.get? topic <;> simp [Option.filter, hmem]

theorem get?_evictOverflow (bound : Nat) (cache : Table String (CacheEntry H)) (topic : String) :
    (evictOverflow bound cache).2.get? topic =
      if topic ∈ overflow bound cache.rows then none else cache.get? topic :=
  get?_without ..

theorem get?_stored (h : Hub H) (now : Nat) (topic topic' : String) :
    (h.stored now topic).get? topic' =
      if topic = topic' then some ⟨h.index.matching topic, now⟩ else h.cache.get? topic' := by
  rw [stored, Table.get?_put]
  split
  · rfl
  · next hne => rw [Table.get?_erase, if_neg hne]

/-! ## Look-ups -/

theorem cached?_eq_some {h : Hub H} {now : Nat} {topic : String} {found : List (Subscription H)} :
    h.cached? now topic = some found ↔
      ∃ e, h.cache.get? topic = some e ∧ now - e.stamp < h.config.ttlMs ∧ e.found = found := by
  unfold cached?
  cases h.cache.get? topic with
  | none => simp
  | some e => by_cases hyoung : now - e.stamp < h.config.ttlMs <;> simp [hyoung]

theorem find_hit (h : Hub H) (now : Nat) (topic : String) :
    (h.find now topic).1.2 = (h.cached? now topic).isSome := by
  unfold find
  split
  · next hcached => simp [hcached]
  · next hcached => simp [hcached]

theorem announceAll_frame (h : Hub H) (removed : List (Subscription H)) :
    (removed.foldl (fun h s => h.announce (.unsubscribed s.id s.pattern.text)) h).config =
        h.config ∧
      (removed.foldl (fun h s => h.announce (.unsubscribed s.id s.pattern.text)) h).cache =
        h.cache ∧
      (removed.foldl (fun h s => h.announce (.unsubscribed s.id s.pattern.text)) h).index =
        h.index := by
  induction removed generalizing h with
  | nil => exact ⟨rfl, rfl, rfl⟩
  | cons sub removed ih => exact ih _

theorem remember_frame (h : Hub H) (now : Nat) (topic : String) :
    (h.remember now topic (h.index.matching topic)).config = h.config ∧
      (h.remember now topic (h.index.matching topic)).index = h.index ∧
      (h.remember now topic (h.index.matching topic)).cache =
        (evictOverflow h.config.maxEntries (h.stored now topic)).2 := by
  unfold remember stored
  dsimp only
  split
  · next heq => exact ⟨rfl, rfl, by rw [heq]⟩
  · next heq => exact ⟨rfl, rfl, by rw [heq]; rfl⟩

/-- **A look-up** leaves the subscriptions alone, and the cache if it is a hit. -/
theorem find_frame (h : Hub H) (now : Nat) (topic : String) :
    (h.find now topic).2.config = h.config ∧ (h.find now topic).2.index = h.index ∧
      (h.find now topic).2.cache =
        if (h.cached? now topic).isSome then h.cache
        else (evictOverflow h.config.maxEntries (h.stored now topic)).2 := by
  unfold find
  split
  · next hcached => exact ⟨rfl, rfl, by simp [hcached, count]⟩
  · next hcached =>
    obtain ⟨hconfig, hindex, hcache⟩ :=
      remember_frame (h.count fun c => { c with misses := c.misses + 1 }) now topic
    exact ⟨hconfig, hindex, by rw [hcached]; exact hcache⟩

namespace Session

/-! ## What makes a hub forget -/

/-- An act looks up a topic that is not remembered, and stores its matches. -/
def Stores (s : Session H) (a : Act H) (topic : String) : Prop :=
  a.lookup? = some topic ∧ (s.hub.find s.now topic).1.2 = false

/-- An act makes the hub forget the matches of a topic, if they were stored at a
    time: it changes the subscriptions, clears the cache, looks up a topic for
    which this one is evicted, or sweeps this one. -/
def Forgets (s : Session H) (topic : String) (stamp : Nat) : Act H → Prop
  | .subscribe pattern handler metadata =>
    ∃ id, (s.hub.subscribe pattern handler metadata).1 = .ok id
  | .unsubscribe pattern id => (s.hub.unsubscribe pattern id).1 = true
  | .unsubscribePlugin plugin => 0 < (s.hub.unsubscribePlugin plugin).1
  | .find sought => topic ∈ s.hub.evicts s.now sought
  | .publish sought _ => topicDefect? sought = none ∧ topic ∈ s.hub.evicts s.now sought
  | .cleanup => s.hub.config.staleAfterMs ≤ s.now - stamp
  | .invalidate | .shutdown => True
  | .conclude .. | .drop _ | .wait _ => False

/-- What an act can do to what a hub remembers. -/
inductive Effect (s : Session H) (a : Act H) (h : Hub H) : Prop where
  /-- nothing is changed -/
  | quiet : h.index = s.hub.index → h.cache = s.hub.cache →
      (∀ topic, ¬ s.Stores a topic) → (∀ topic stamp, ¬ s.Forgets topic stamp a) → Effect s a h
  /-- all is forgotten -/
  | cleared : h.cache = {} → (∀ topic stamp, s.Forgets topic stamp a) → Effect s a h
  | stored (sought : String) : h.index = s.hub.index →
      h.cache = (evictOverflow s.hub.config.maxEntries (s.hub.stored s.now sought)).2 →
      (∀ topic, s.Stores a topic ↔ sought = topic) →
      (∀ topic stamp, s.Forgets topic stamp a ↔
        topic ∈ overflow s.hub.config.maxEntries (s.hub.stored s.now sought).rows) → Effect s a h
  | swept : a = .cleanup → Effect s a h

section Effects

variable {s : Session H} {a : Act H}

/-- An act that looks nothing up stores nothing. -/
theorem not_stores (hlookup : a.lookup? = none) (topic : String) : ¬ s.Stores a topic :=
  fun h => by simp [Stores, hlookup] at h

/-- Counting and announcing matter neither to the subscriptions nor to the cache. -/
theorem Effect.congr {h h' : Hub H} (hindex : h'.index = h.index) (hcache : h'.cache = h.cache)
    (heffect : s.Effect a h) : s.Effect a h' := by
  cases heffect with
  | quiet hi hc hstores hforgets =>
    exact .quiet (hindex.trans hi) (hcache.trans hc) hstores hforgets
  | cleared hc hforgets => exact .cleared (hcache.trans hc) hforgets
  | stored sought hi hc hstores hforgets =>
    exact .stored sought (hindex.trans hi) (hcache.trans hc) hstores hforgets
  | swept ha => exact .swept ha

/-- A look-up changes nothing, or stores its topic. -/
theorem find_effect {sought : String} (hlookup : a.lookup? = some sought)
    (hforgets : ∀ topic stamp, s.Forgets topic stamp a ↔ topic ∈ s.hub.evicts s.now sought) :
    s.Effect a (s.hub.find s.now sought).2 := by
  obtain ⟨-, hindex, hcache⟩ := find_frame s.hub s.now sought
  have hstores (topic : String) :
      s.Stores a topic ↔ sought = topic ∧ (s.hub.cached? s.now sought).isSome = false := by
    simp only [Stores, hlookup, find_hit, Option.some.injEq]
    exact and_congr_right fun heq => by rw [heq]
  unfold evicts at hforgets
  rcases hcached : s.hub.cached? s.now sought with _ | found
  · rw [hcached] at hcache
    exact .stored sought hindex hcache (by simp [hstores, hcached]) (by simp [hforgets, hcached])
  · rw [hcached] at hcache
    exact .quiet hindex hcache (by simp [hstores, hcached]) (by simp [hforgets, hcached])

theorem carry_frame (s : Session H) (n : Nat) (f : Fan H) :
    (s.carry n f).hub.config = s.hub.config ∧ (s.carry n f).hub.index = s.hub.index ∧
      (s.carry n f).hub.cache = s.hub.cache ∧ (s.carry n f).now = s.now := by
  unfold carry
  split <;> exact ⟨rfl, rfl, rfl, rfl⟩

theorem step_publish_frame (s : Session H) {topic : String} (payload : Json)
    (htopic : topicDefect? topic = none) :
    (s.step (.publish topic payload)).hub.config = (s.hub.find s.now topic).2.config ∧
      (s.step (.publish topic payload)).hub.index = (s.hub.find s.now topic).2.index ∧
      (s.step (.publish topic payload)).hub.cache = (s.hub.find s.now topic).2.cache ∧
      (s.step (.publish topic payload)).now = s.now := by
  obtain ⟨hconfig, hindex, hcache⟩ := find_frame s.hub s.now topic
  obtain ⟨hconfig', hindex', hcache'⟩ :=
    find_frame (s.hub.count fun c => { c with publishes := c.publishes + 1 }) s.now topic
  simp only [step, Hub.publish, Address.topic, htopic]
  exact ⟨(carry_frame ..).1.trans (hconfig'.trans hconfig.symm),
    (carry_frame ..).2.1.trans (hindex'.trans hindex.symm),
    (carry_frame ..).2.2.1.trans (hcache'.trans hcache.symm), (carry_frame ..).2.2.2⟩

theorem step_effect (s : Session H) (a : Act H) : s.Effect a (s.step a).hub := by
  cases a with
  | subscribe pattern handler metadata =>
    rcases hp : Address.pattern pattern with f | p
    · exact .quiet (by simp [step, Hub.subscribe, hp]) (by simp [step, Hub.subscribe, hp])
        (not_stores rfl) (by simp [Forgets, Hub.subscribe, hp])
    · refine .cleared ?_ (by simp [Forgets, Hub.subscribe, hp])
      simp only [step, Hub.subscribe, hp]
      rfl
  | unsubscribe pattern id =>
    rcases he : s.hub.index.erase pattern id with ⟨_ | _, index⟩
    · exact .quiet (by simp [step, Hub.unsubscribe, he]) (by simp [step, Hub.unsubscribe, he])
        (not_stores rfl) (by simp [Forgets, Hub.unsubscribe, he])
    · refine .cleared ?_ (by simp [Forgets, Hub.unsubscribe, he])
      simp only [step, Hub.unsubscribe, he]
      rfl
  | unsubscribePlugin plugin =>
    rcases he : s.hub.index.eraseWhere (·.isOwnedBy plugin) with ⟨_ | ⟨sub, removed⟩, index⟩
    · exact .quiet (by simp [step, Hub.unsubscribePlugin, he])
        (by simp [step, Hub.unsubscribePlugin, he]) (not_stores rfl)
        (by simp [Forgets, Hub.unsubscribePlugin, he])
    · refine .cleared ?_ (by simp [Forgets, Hub.unsubscribePlugin, he])
      simp only [step, Hub.unsubscribePlugin, he]
      exact (announceAll_frame _ _).2.1
  | find topic => exact find_effect rfl fun _ _ => .rfl
  | publish topic payload =>
    rcases hd : topicDefect? topic with _ | d
    · have hlookup : (Act.publish topic payload : Act H).lookup? = some topic := by
        simp [Act.lookup?, hd]
      have hfind := find_effect (s := s) hlookup (by simp [Forgets, hd])
      obtain ⟨-, hindex, hcache, -⟩ := step_publish_frame s payload hd
      exact hfind.congr hindex hcache
    · exact .quiet (by simp [step, Hub.publish, Address.topic, hd])
        (by simp [step, Hub.publish, Address.topic, hd]) (not_stores (by simp [Act.lookup?, hd]))
        (by simp [Forgets, hd])
  | conclude n place succeeded =>
    refine .quiet ?_ ?_ (not_stores rfl) (by simp [Forgets])
    · simp only [step]
      split
      · rfl
      · exact (carry_frame ..).2.1
    · simp only [step]
      split
      · rfl
      · exact (carry_frame ..).2.2.1
  | drop n => exact .quiet rfl rfl (not_stores rfl) (by simp [Forgets])
  | cleanup => exact .swept rfl
  | invalidate => exact .cleared rfl (by simp [Forgets])
  | shutdown => exact .cleared rfl (by simp [Forgets])
  | wait ms => exact .quiet rfl rfl (not_stores rfl) (by simp [Forgets])

theorem step_config (s : Session H) (a : Act H) : (s.step a).hub.config = s.hub.config := by
  cases a with
  | subscribe pattern handler metadata =>
    simp only [step, Hub.subscribe]
    split <;> rfl
  | unsubscribe pattern id =>
    simp only [step, Hub.unsubscribe]
    split <;> rfl
  | unsubscribePlugin plugin =>
    simp only [step, Hub.unsubscribePlugin]
    split
    · rfl
    · exact (announceAll_frame _ _).1
  | find topic => exact (find_frame ..).1
  | publish topic payload =>
    rcases hd : topicDefect? topic with _ | d
    · exact (step_publish_frame s payload hd).1.trans (find_frame ..).1
    · simp [step, Hub.publish, Address.topic, hd]
  | conclude n place succeeded =>
    simp only [step]
    split
    · rfl
    · exact (carry_frame ..).1
  | drop | cleanup | invalidate | shutdown | wait => rfl

/-- The clock does not go back. -/
theorem now_le_step (s : Session H) (a : Act H) : s.now ≤ (s.step a).now := by
  cases a with
  | publish topic payload =>
    rcases hd : topicDefect? topic with _ | d
    · exact Nat.le_of_eq (step_publish_frame s payload hd).2.2.2.symm
    · simp [step, Hub.publish, Address.topic, hd]
  | conclude n place succeeded =>
    simp only [step]
    split
    · exact Nat.le_refl _
    · exact Nat.le_of_eq (carry_frame ..).2.2.2.symm
  | wait ms => exact Nat.le_add_right _ _
  | _ => exact Nat.le_refl _

end Effects

/-! ## What a hub remembers -/

/-- The matches of a topic were stored at a time, and nothing has made the hub
    forget them since. -/
def Remembered (log : List (Session H × Act H)) (topic : String) (stamp : Nat) : Prop :=
  ∃ before x after, log = before ++ x :: after ∧ x.1.Stores x.2 topic ∧ x.1.now = stamp ∧
    ∀ y ∈ x :: after, ¬ y.1.Forgets topic stamp y.2

theorem remembered_concat {log : List (Session H × Act H)} {s : Session H} {a : Act H}
    {topic : String} {stamp : Nat} :
    Remembered (log ++ [(s, a)]) topic stamp ↔
      ¬ s.Forgets topic stamp a ∧
        (Remembered log topic stamp ∨ s.Stores a topic ∧ s.now = stamp) := by
  constructor
  · rintro ⟨before, x, after, hlog, hstores, hstamp, hkept⟩
    rcases List.eq_nil_or_concat after with rfl | ⟨after, y, rfl⟩
    · obtain ⟨-, hx⟩ := List.append_inj' hlog rfl
      obtain rfl : (s, a) = x := by simpa using hx
      exact ⟨hkept _ (List.mem_singleton_self _), Or.inr ⟨hstores, hstamp⟩⟩
    · rw [List.concat_eq_append] at hlog hkept
      rw [← List.cons_append, ← List.append_assoc] at hlog
      obtain ⟨rfl, hy⟩ := List.append_inj' hlog rfl
      obtain rfl : (s, a) = y := by simpa using hy
      exact ⟨hkept (s, a) (by simp), Or.inl ⟨before, x, after, rfl, hstores, hstamp,
        fun y hy => hkept y (by rw [← List.cons_append]; exact List.mem_append_left _ hy)⟩⟩
  · rintro ⟨hforgets, ⟨before, x, after, rfl, hstores, hstamp, hkept⟩ | ⟨hstores, hstamp⟩⟩
    · refine ⟨before, x, after ++ [(s, a)], by simp, hstores, hstamp, fun y hy => ?_⟩
      rw [← List.cons_append] at hy
      rcases List.mem_append.1 hy with hy | hy
      · exact hkept y hy
      · rw [List.mem_singleton.1 hy]
        exact hforgets
    · exact ⟨log, (s, a), [], rfl, hstores, hstamp, by simpa using hforgets⟩

/-- The cache agrees with the index, and holds what the log says is remembered. -/
structure Coherent (log : List (Session H × Act H)) (s : Session H) : Prop where
  agrees : ∀ topic e, s.hub.cache.get? topic = some e →
    e.found = s.hub.index.matching topic ∧ e.stamp ≤ s.now ∧ Remembered log topic e.stamp
  holds : ∀ topic stamp, Remembered log topic stamp →
    ∃ e, s.hub.cache.get? topic = some e ∧ stamp ≤ e.stamp

section Steps

variable {log : List (Session H × Act H)} {s : Session H} {a : Act H}

/-- A topic that was remembered and is not forgotten. -/
theorem Remembered.kept {topic : String} {stamp : Nat} (h : Remembered log topic stamp)
    (hkept : ¬ s.Forgets topic stamp a) : Remembered (log ++ [(s, a)]) topic stamp :=
  remembered_concat.2 ⟨hkept, Or.inl h⟩

theorem Coherent.quiet (h : Coherent log s) (hindex : (s.step a).hub.index = s.hub.index)
    (hcache : (s.step a).hub.cache = s.hub.cache) (hstores : ∀ topic, ¬ s.Stores a topic)
    (hforgets : ∀ topic stamp, ¬ s.Forgets topic stamp a) :
    Coherent (log ++ [(s, a)]) (s.step a) where
  agrees topic e he := by
    rw [hcache] at he
    obtain ⟨hfound, hstamp, hlog⟩ := h.agrees topic e he
    rw [hindex]
    exact ⟨hfound, Nat.le_trans hstamp (s.now_le_step a), hlog.kept (hforgets _ _)⟩
  holds topic stamp hlog := by
    rw [hcache]
    rcases (remembered_concat.1 hlog).2 with hlog | ⟨hnew, -⟩
    · exact h.holds topic stamp hlog
    · exact absurd hnew (hstores topic)

theorem Coherent.cleared (hcache : (s.step a).hub.cache = {})
    (hforgets : ∀ topic stamp, s.Forgets topic stamp a) :
    Coherent (log ++ [(s, a)]) (s.step a) where
  agrees topic e he := by
    rw [hcache] at he
    cases he
  holds topic stamp hlog := absurd (hforgets topic stamp) (remembered_concat.1 hlog).1

theorem Coherent.stored {sought : String} (h : Coherent log s)
    (hindex : (s.step a).hub.index = s.hub.index)
    (hcache : (s.step a).hub.cache =
      (evictOverflow s.hub.config.maxEntries (s.hub.stored s.now sought)).2)
    (hstores : ∀ topic, s.Stores a topic ↔ sought = topic)
    (hforgets : ∀ topic stamp, s.Forgets topic stamp a ↔
      topic ∈ overflow s.hub.config.maxEntries (s.hub.stored s.now sought).rows) :
    Coherent (log ++ [(s, a)]) (s.step a) := by
  have hget (topic : String) := get?_evictOverflow s.hub.config.maxEntries
    (s.hub.stored s.now sought) topic
  simp only [get?_stored] at hget
  constructor
  · intro topic e he
    rw [hcache, hget] at he
    split at he
    · cases he
    · next hevicted =>
      have hkept : ¬ s.Forgets topic e.stamp a := mt (hforgets _ _).1 hevicted
      rw [hindex]
      split at he
      · next heq =>
        cases he
        subst heq
        exact ⟨rfl, s.now_le_step a, remembered_concat.2 ⟨hkept, Or.inr ⟨(hstores _).2 rfl, rfl⟩⟩⟩
      · obtain ⟨hfound, hstamp, hlog⟩ := h.agrees topic e he
        exact ⟨hfound, Nat.le_trans hstamp (s.now_le_step a), hlog.kept hkept⟩
  · intro topic stamp hlog
    obtain ⟨hkept, hlog⟩ := remembered_concat.1 hlog
    rw [hcache, hget, if_neg (mt (hforgets _ _).2 hkept)]
    rcases hlog with hlog | ⟨hnew, rfl⟩
    · -- a topic stored anew is younger than it was
      obtain ⟨e, he, hstamp⟩ := h.holds topic stamp hlog
      split
      · exact ⟨_, rfl, Nat.le_trans hstamp (h.agrees topic e he).2.1⟩
      · exact ⟨e, he, hstamp⟩
    · rw [if_pos ((hstores _).1 hnew)]
      exact ⟨_, rfl, Nat.le_refl _⟩

theorem get?_cleanup (h : Hub H) (now : Nat) (topic : String) :
    (h.cleanup now).2.cache.get? topic =
      (h.cache.get? topic).filter fun e => decide (now - e.stamp < h.config.staleAfterMs) :=
  h.cache.get?_filter _ topic

theorem Coherent.swept (h : Coherent log s) :
    Coherent (log ++ [(s, .cleanup)]) (s.step .cleanup) where
  agrees topic e he := by
    obtain ⟨he, hyoung⟩ :=
      Option.filter_eq_some_iff.1 ((get?_cleanup s.hub s.now topic).symm.trans he)
    obtain ⟨hfound, hstamp, hlog⟩ := h.agrees topic e he
    exact ⟨hfound, hstamp, hlog.kept (by simpa [Forgets] using hyoung)⟩
  holds topic stamp hlog := by
    obtain ⟨hkept, hlog⟩ := remembered_concat.1 hlog
    have hyoung : s.now - stamp < s.hub.config.staleAfterMs := by simpa [Forgets] using hkept
    rcases hlog with hlog | ⟨hnew, -⟩
    · obtain ⟨e, he, hstamp⟩ := h.holds topic stamp hlog
      refine ⟨e, (get?_cleanup s.hub s.now topic).trans ?_, hstamp⟩
      exact Option.filter_eq_some_iff.2 ⟨he, by simp only [decide_eq_true_eq]; omega⟩
    · exact absurd hnew (not_stores rfl topic)

/-- **One act** keeps the cache coherent. -/
theorem Coherent.step (h : Coherent log s) (a : Act H) :
    Coherent (log ++ [(s, a)]) (s.step a) := by
  cases s.step_effect a with
  | quiet hindex hcache hstores hforgets => exact h.quiet hindex hcache hstores hforgets
  | cleared hcache hforgets => exact .cleared hcache hforgets
  | stored sought hindex hcache hstores hforgets => exact h.stored hindex hcache hstores hforgets
  | swept ha => exact ha ▸ h.swept

end Steps

theorem run_coherent (config : HubConfig) (acts : List (Act H)) :
    Coherent ((start config : Session H).trace acts) ((start config).run acts) :=
  run_induction (P := Coherent)
    { agrees := fun _ _ he => by cases he
      holds := fun _ _ ⟨before, _, _, hlog, _⟩ => by cases before <;> cases hlog }
    (fun _ _ a h => h.step a) acts

theorem run_config (config : HubConfig) (acts : List (Act H)) :
    ((start config : Session H).run acts).hub.config = config :=
  run_induction (P := fun _ s => s.hub.config = config) rfl
    (fun _ s a h => (s.step_config a).trans h) acts

/-- **Cache coherence.**  After every run a look-up of any topic answers what the
    index answers, in its order; and it is a hit iff an earlier look-up stored the
    topic, not longer ago than matches live, and since then nothing has made the
    hub forget it. -/
theorem find_coherent (config : HubConfig) (acts : List (Act H)) (topic : String) :
    let s := (start config).run acts
    (s.hub.find s.now topic).1.1 = s.hub.index.matching topic ∧
      ((s.hub.find s.now topic).1.2 = true ↔
        ∃ stamp, Remembered ((start config).trace acts) topic stamp ∧
          s.now - stamp < config.ttlMs) := by
  intro s
  have h : Coherent ((start config).trace acts) s := run_coherent config acts
  have hconfig : s.hub.config = config := run_config config acts
  constructor
  · rcases hcached : s.hub.cached? s.now topic with _ | found
    · simp only [find, hcached]
    · obtain ⟨e, he, -, rfl⟩ := cached?_eq_some.1 hcached
      simp only [find, hcached]
      exact (h.agrees topic e he).1
  · rw [find_hit, Option.isSome_iff_exists]
    constructor
    · rintro ⟨found, hcached⟩
      obtain ⟨e, he, hyoung, -⟩ := cached?_eq_some.1 hcached
      exact ⟨e.stamp, (h.agrees topic e he).2.2, hconfig ▸ hyoung⟩
    · rintro ⟨stamp, hlog, hyoung⟩
      obtain ⟨e, he, hstamp⟩ := h.holds topic stamp hlog
      exact ⟨e.found, cached?_eq_some.2 ⟨e, he, by rw [hconfig]; omega, rfl⟩⟩

end Session

end Switchboard.Hub
