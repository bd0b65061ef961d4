import Mathlib.Algebra.Order.Floor.Div
import Switchboard.Proofs.Hub.Announcing
import Switchboard.Proofs.Lists

/-
  The bound of the cache — what goes when it is outgrown.

  The rows of a cache have no order of their own.  Whoever looks for the oldest
  ones lists them in some order and sorts the list by age, so rows of one age may
  go or stay as they happen to be listed.  What is said here holds however the
  rows are listed, at every single look-up.

  * `Listing` is an order in which caches happen to list their rows, `evict` what
    an overgrown cache keeps then; the hub lists rows as they came
    (`evictOverflow_eq`, `Session.stepBy_plain`);
  * `Evicts`: what an overgrown cache loses and what it keeps, and
    `Listing.evicts` says that it does;
  * `Session.runBy`: a run in which the rows are listed anew for every look-up;
  * `cache_bound`: the cache never outgrows its bound, and what it loses is counted.
-/

namespace Switchboard.Hub

variable {H : Type}

/-! ## Listing rows -/

/-- An order in which caches happen to list their rows. -/
structure Listing (H : Type) where
  list : Table String (CacheEntry H) → List (String × CacheEntry H)
  perm : ∀ cache, (list cache).Perm cache.rows

namespace Listing

/-- The rows as they came. -/
def plain : Listing H := ⟨Table.rows, fun _ => .refl _⟩

variable (ℓ : Listing H) (bound : Nat) (cache : Table String (CacheEntry H))

/-- The rows by age; those of one age stay as they were listed. -/
def byAge : List (String × CacheEntry H) :=
  (ℓ.list cache).mergeSort fun a b => a.2.stamp ≤ b.2.stamp

/-- The topics whose matches go when a cache has outgrown its bound. -/
def overflow : List String := Hub.overflow bound (ℓ.list cache)

/-- What a cache keeps. -/
def evict : Table String (CacheEntry H) := without (ℓ.overflow bound cache) cache

theorem overflow_eq :
    ℓ.overflow bound cache =
      if cache.size ≤ bound then []
      else ((ℓ.byAge cache).take (evictionSize cache.size)).map (·.1) := by
  have hlength : (ℓ.list cache).length = cache.size := (ℓ.perm cache).length_eq
  rw [overflow, Hub.overflow, hlength]
  rfl

end Listing

/-- The hub lists the rows of its cache as they came. -/
theorem evictOverflow_eq (bound : Nat) (cache : Table String (CacheEntry H)) :
    evictOverflow bound cache =
      ((Listing.plain.overflow bound cache).length, Listing.plain.evict bound cache) := rfl

/-! ## What goes and what stays -/

/-- How a cache that may have outgrown its bound by one is cut back: which topics
    go, and which rows are kept. -/
structure Evicts (bound : Nat) (cache : Table String (CacheEntry H)) (gone : List String)
    (kept : Table String (CacheEntry H)) : Prop where
  bounded : kept.size ≤ bound
  /-- nothing goes from a cache that is within its bound -/
  within : cache.size ≤ bound → gone = []
  /-- a cache that is not has one row too many, and loses a fifth -/
  overgrown : ¬ cache.size ≤ bound →
    cache.size = bound + 1 ∧ gone.length = cache.size ⌈/⌉ 5 ∧ 1 ≤ gone.length ∧
      gone.length ≤ cache.size
  once : gone.Nodup
  stored : ∀ topic ∈ gone, topic ∈ cache.keys
  counted : kept.size + gone.length = cache.size
  unchanged : ∀ topic, kept.get? topic = if topic ∈ gone then none else cache.get? topic
  /-- nothing that goes is younger than anything kept -/
  oldest : ∀ r ∈ cache.rows, r.1 ∈ gone → ∀ r' ∈ kept.rows, r.2.stamp ≤ r'.2.stamp

namespace Listing

variable (ℓ : Listing H) (bound : Nat) (cache : Table String (CacheEntry H))

theorem byAge_perm : (ℓ.byAge cache).Perm cache.rows :=
  (List.mergeSort_perm _ _).trans (ℓ.perm cache)

theorem pairwise_byAge : (ℓ.byAge cache).Pairwise fun a b => a.2.stamp ≤ b.2.stamp :=
  List.pairwise_mergeSort_le (f := fun r : String × CacheEntry H => r.2.stamp) _

theorem nodup_byAge : ((ℓ.byAge cache).map (·.1)).Nodup :=
  ((ℓ.byAge_perm cache).map _).nodup_iff.2 cache.distinct

theorem length_overflow :
    (ℓ.overflow bound cache).length =
      if cache.size ≤ bound then 0 else evictionSize cache.size := by
  rw [overflow_eq]
  split
  · rfl
  · next hlarge =>
    have hlength : (ℓ.byAge cache).length = cache.size := (ℓ.byAge_perm cache).length_eq
    have hsize : evictionSize cache.size ≤ cache.size := by
      unfold evictionSize
      omega
    rw [List.length_map, List.length_take, hlength, Nat.min_eq_left hsize]

theorem overflow_eq_take :
    ℓ.overflow bound cache =
      ((ℓ.byAge cache).take (ℓ.overflow bound cache).length).map (·.1) := by
  rw [length_overflow, overflow_eq]
  split <;> simp

/-- What is kept are the rows behind those that go, by age. -/
theorem evict_perm :
    (ℓ.evict bound cache).rows.Perm
      ((ℓ.byAge cache).drop (ℓ.overflow bound cache).length) := by
  have hgone := ℓ.overflow_eq_take bound cache
  have hkept := List.filter_notMem_map_take (ℓ.nodup_byAge cache) (ℓ.overflow bound cache).length
  rw [← hgone] at hkept
  rw [← hkept]
  exact (ℓ.byAge_perm cache).symm.filter _

/-- **A cache that has outgrown its bound by one** is cut back as it should be,
    however its rows are listed. -/
theorem evicts (h : cache.size ≤ bound + 1) :
    Evicts bound cache (ℓ.overflow bound cache) (ℓ.evict bound cache) := by
  have hperm := ℓ.evict_perm bound cache
  have hgone := ℓ.overflow_eq_take bound cache
  have hlength := ℓ.length_overflow bound cache
  have hrows : (ℓ.byAge cache).length = cache.size := (ℓ.byAge_perm cache).length_eq
  have hkept : (ℓ.evict bound cache).size = cache.size - (ℓ.overflow bound cache).length := by
    rw [← hrows, ← List.length_drop]
    exact hperm.length_eq
  have hlarge : ¬ cache.size ≤ bound →
      (ℓ.overflow bound cache).length = cache.size ⌈/⌉ 5 ∧
        1 ≤ (ℓ.overflow bound cache).length ∧ (ℓ.overflow bound cache).length ≤ cache.size := by
    intro hlarge
    rw [if_neg hlarge, evictionSize] at hlength
    rw [hlength, Nat.ceilDiv_eq_add_pred_div]
    omega
  have hnone : cache.size ≤ bound → ℓ.overflow bound cache = [] := fun hle => by
    rw [overflow_eq, if_pos hle]
  have hsub := (List.take_sublist (ℓ.overflow bound cache).length (ℓ.byAge cache)).map (·.1)
  rw [← hgone] at hsub
  refine ⟨?_, hnone, fun hnot => ⟨by omega, hlarge hnot⟩, hsub.nodup (ℓ.nodup_byAge cache),
    fun topic htopic => ?_, ?_, get?_without _ _, fun r hr hmem r' hr' => ?_⟩
  · by_cases hle : cache.size ≤ bound
    · omega
    · have := hlarge hle
      omega
  · exact ((ℓ.byAge_perm cache).map (·.1)).subset (hsub.subset htopic)
  · by_cases hle : cache.size ≤ bound
    · rw [hkept, hnone hle]
      rfl
    · have := hlarge hle
      omega
  · -- under its key a row that goes stands among those that were taken
    rw [hgone] at hmem
    obtain ⟨r₀, hr₀, hkey⟩ := List.mem_map.1 hmem
    obtain rfl : r₀ = r := List.inj_on_of_nodup_map (ℓ.nodup_byAge cache)
      (List.mem_of_mem_take hr₀) ((ℓ.byAge_perm cache).mem_iff.2 hr) hkey
    have hsorted := ℓ.pairwise_byAge cache
    rw [← List.take_append_drop (ℓ.overflow bound cache).length (ℓ.byAge cache),
      List.pairwise_append] at hsorted
    exact hsorted.2.2 r₀ hr₀ r' (hperm.subset hr')

end Listing

/-! ## Look-ups -/

theorem size_erase_le (cache : Table String (CacheEntry H)) (topic : String) :
    (cache.erase topic).size ≤ cache.size := List.length_filter_le _ _

theorem size_put_le (cache : Table String (CacheEntry H)) (topic : String) (e : CacheEntry H) :
    (cache.put topic e).size ≤ cache.size + 1 := by
  unfold Table.put Table.size
  split <;> simp

theorem size_stored_le (h : Hub H) (now : Nat) (topic : String) :
    (h.stored now topic).size ≤ h.cache.size + 1 :=
  (size_put_le _ _ _).trans (Nat.succ_le_succ (size_erase_le _ _))

namespace Session

/-- The topics that an act evicts, when the cache lists its rows in an order. -/
def evictedBy (ℓ : Listing H) (s : Session H) (a : Act H) : List String :=
  match a.lookup? with
  | some topic =>
    if (s.hub.find s.now topic).1.2 then []
    else ℓ.overflow s.hub.config.maxEntries (s.hub.stored s.now topic)
  | none => []

/-- Lets something happen, when the cache lists its rows in an order. -/
def stepBy (ℓ : Listing H) (s : Session H) (a : Act H) : Session H :=
  match a.lookup? with
  | some topic =>
    if (s.hub.find s.now topic).1.2 then s.step a
    else
      let cache := ℓ.evict s.hub.config.maxEntries (s.hub.stored s.now topic)
      { s.step a with hub := { (s.step a).hub with cache } }
  | none => s.step a

section Steps

variable {s : Session H} {a : Act H}

theorem step_cache {topic : String} (hlookup : a.lookup? = some topic) :
    (s.step a).hub.cache =
      if (s.hub.find s.now topic).1.2 then s.hub.cache
      else (evictOverflow s.hub.config.maxEntries (s.hub.stored s.now topic)).2 := by
  rw [find_hit]
  cases a with
  | find sought =>
    obtain rfl : sought = topic := Option.some.inj hlookup
    exact (find_frame ..).2.2
  | publish sought payload =>
    simp only [Act.lookup?] at hlookup
    split_ifs at hlookup with hd
    obtain rfl : sought = topic := Option.some.inj hlookup
    exact (step_publish_frame s payload hd).2.2.1.trans (find_frame ..).2.2
  | _ => cases hlookup

/-- The hub itself lists the rows as they came. -/
theorem stepBy_plain (s : Session H) (a : Act H) : s.stepBy .plain a = s.step a := by
  unfold stepBy
  split
  · next topic hlookup =>
    split
    · rfl
    · next hmiss =>
      have hcache := step_cache (s := s) hlookup
      rw [if_neg hmiss, evictOverflow_eq] at hcache
      dsimp only at hcache
      simp only [← hcache]
  · rfl

/-- However the rows are listed, it matters to nothing but the cache. -/
theorem stepBy_frame (ℓ : Listing H) (s : Session H) (a : Act H) :
    (s.stepBy ℓ a).hub.config = s.hub.config ∧
      (s.stepBy ℓ a).hub.events = (s.step a).hub.events ∧
      (s.stepBy ℓ a).hub.counters = (s.step a).hub.counters := by
  have hconfig := s.step_config a
  unfold stepBy
  split
  · split <;> exact ⟨hconfig, rfl, rfl⟩
  · exact ⟨hconfig, rfl, rfl⟩

/-- The cache grows by nothing but look-ups. -/
theorem size_step_le (hlookup : a.lookup? = none) :
    (s.step a).hub.cache.size ≤ s.hub.cache.size := by
  cases s.step_effect a with
  | quiet _ hcache => rw [hcache]
  | cleared hcache =>
    rw [hcache]
    exact Nat.zero_le _
  | stored sought _ _ hstores => exact absurd ((hstores sought).2 rfl) (not_stores hlookup sought)
  | swept ha =>
    subst ha
    exact List.length_filter_le _ _

/-- What a look-up does to a cache that is within its bound: nothing if the topic
    is remembered; else it is stored, and the cache cut back. -/
structure LooksUp (s : Session H) (topic : String) (gone : List String) (s' : Session H) : Prop where
  hit : (s.hub.find s.now topic).1.2 = true → s'.hub.cache = s.hub.cache ∧ gone = []
  miss : (s.hub.find s.now topic).1.2 = false →
    Evicts s.hub.config.maxEntries (s.hub.stored s.now topic) gone s'.hub.cache
  others : ∀ other, other ≠ topic → other ∉ gone →
    s'.hub.cache.get? other = s.hub.cache.get? other
  bounded : s'.hub.cache.size ≤ s.hub.config.maxEntries

theorem stepBy_looksUp (hbound : s.hub.cache.size ≤ s.hub.config.maxEntries) (ℓ : Listing H)
    {topic : String} (hlookup : a.lookup? = some topic) :
    LooksUp s topic (s.evictedBy ℓ a) (s.stepBy ℓ a) := by
  have hstored := size_stored_le s.hub s.now topic
  have hevicts := ℓ.evicts s.hub.config.maxEntries (s.hub.stored s.now topic) (by omega)
  rcases hhit : (s.hub.find s.now topic).1.2 with _ | _
  · have hgone : s.evictedBy ℓ a =
        ℓ.overflow s.hub.config.maxEntries (s.hub.stored s.now topic) := by
      simp [evictedBy, hlookup, hhit]
    have hcache : (s.stepBy ℓ a).hub.cache =
        ℓ.evict s.hub.config.maxEntries (s.hub.stored s.now topic) := by
      simp [stepBy, hlookup, hhit]
    rw [← hgone, ← hcache] at hevicts
    refine ⟨fun h => ?_, fun _ => hevicts, fun other hne hnot => ?_, hevicts.bounded⟩
    · rw [hhit] at h
      cases h
    · rw [hevicts.unchanged, if_neg hnot, get?_stored, if_neg hne.symm]
  · have hcache : (s.stepBy ℓ a).hub.cache = s.hub.cache := by
      simp [stepBy, hlookup, hhit, step_cache hlookup]
    refine ⟨fun _ => ⟨hcache, by simp [evictedBy, hlookup, hhit]⟩, fun h => ?_, fun _ _ _ => ?_, ?_⟩
    · rw [hhit] at h
      cases h
    · rw [hcache]
    · rw [hcache]
      exact hbound

theorem stepBy_bounded (hbound : s.hub.cache.size ≤ s.hub.config.maxEntries) (ℓ : Listing H)
    (a : Act H) : (s.stepBy ℓ a).hub.cache.size ≤ s.hub.config.maxEntries := by
  rcases hlookup : a.lookup? with _ | topic
  · have hsame : s.stepBy ℓ a = s.step a := by simp [stepBy, hlookup]
    rw [hsame]
    exact (size_step_le hlookup).trans hbound
  · exact (stepBy_looksUp hbound ℓ hlookup).bounded

theorem total_evicted_report (f : Fan H) : total HubEvent.evicted f.report = 0 := by
  unfold Fan.report
  split <;> rfl

/-- An act announces as many evictions as it makes, however the rows are listed. -/
theorem total_announced (ℓ : Listing H) (s : Session H) (a : Act H) :
    total HubEvent.evicted (s.announced a) = (s.evictedBy ℓ a).length := by
  have hlookups (topic : String) : (s.hub.evicts s.now topic).length =
      (if (s.hub.find s.now topic).1.2 then []
        else ℓ.overflow s.hub.config.maxEntries (s.hub.stored s.now topic)).length := by
    rw [find_hit, evicts]
    cases s.hub.cached? s.now topic with
    | none =>
      have hplain := Listing.plain.length_overflow s.hub.config.maxEntries (s.hub.stored s.now topic)
      have hlisted := ℓ.length_overflow s.hub.config.maxEntries (s.hub.stored s.now topic)
      exact hplain.trans hlisted.symm
    | some found => rfl
  cases a with
  | subscribe pattern handler metadata =>
    simp only [announced, evictedBy, Act.lookup?]
    split <;> rfl
  | unsubscribe pattern id =>
    simp only [announced, evictedBy, Act.lookup?]
    split <;> rfl
  | unsubscribePlugin plugin =>
    simp only [announced, evictedBy, Act.lookup?]
    rw [total_removals _ 0 fun _ _ => rfl, Nat.zero_mul]
    rfl
  | find topic =>
    simp only [announced, evictedBy, Act.lookup?]
    rw [total_notices, hlookups]
  | publish topic payload =>
    by_cases hd : topicDefect? topic = none
    · simp only [announced, evictedBy, Act.lookup?, if_pos hd]
      rw [total_append, total_notices, total_evicted_report, hlookups, Nat.add_zero]
    · simp only [announced, evictedBy, Act.lookup?, if_neg hd]
      rfl
  | conclude n place succeeded =>
    simp only [announced, evictedBy, Act.lookup?]
    split
    · exact total_evicted_report _
    · rfl
  | drop | cleanup | invalidate | shutdown | wait => rfl

end Steps

/-! ## Runs -/

/-- Lets a list of things happen; for each of them the cache lists its rows in
    some order. -/
def runBy (s : Session H) : List (Act H × Listing H) → Session H
  | [] => s
  | (a, ℓ) :: acts => (s.stepBy ℓ a).runBy acts

/-- The topics that were evicted during a run. -/
def evictedIn (s : Session H) : List (Act H × Listing H) → List String
  | [] => []
  | (a, ℓ) :: acts => s.evictedBy ℓ a ++ (s.stepBy ℓ a).evictedIn acts

/-- If the rows are listed as they came, a run is a run of the hub. -/
theorem runBy_plain (s : Session H) (acts : List (Act H)) :
    s.runBy (acts.map (·, .plain)) = s.run acts := by
  induction acts generalizing s with
  | nil => rfl
  | cons a acts ih =>
    rw [List.map_cons, runBy, stepBy_plain, ih]
    rfl

theorem runBy_config (s : Session H) (acts : List (Act H × Listing H)) :
    (s.runBy acts).hub.config = s.hub.config := by
  induction acts generalizing s with
  | nil => rfl
  | cons x acts ih => rw [runBy, ih, (stepBy_frame x.2 s x.1).1]

theorem runBy_bounded {s : Session H} (h : s.hub.cache.size ≤ s.hub.config.maxEntries)
    (acts : List (Act H × Listing H)) :
    (s.runBy acts).hub.cache.size ≤ s.hub.config.maxEntries := by
  induction acts generalizing s with
  | nil => exact h
  | cons x acts ih =>
    have hconfig := (stepBy_frame x.2 s x.1).1
    have hrest := ih (s := s.stepBy x.2 x.1) (by rw [hconfig]; exact stepBy_bounded h x.2 x.1)
    rwa [hconfig] at hrest

theorem runBy_tallied {s : Session H} (h : s.hub.Tallied) (acts : List (Act H × Listing H)) :
    (s.runBy acts).hub.Tallied := by
  induction acts generalizing s with
  | nil => exact h
  | cons x acts ih =>
    obtain ⟨-, hevents, hcounters⟩ := stepBy_frame x.2 s x.1
    exact ih ((step_tallied h x.1).congr hcounters hevents)

theorem runBy_evicted (s : Session H) (acts : List (Act H × Listing H)) :
    total HubEvent.evicted (s.runBy acts).hub.events.toList =
      total HubEvent.evicted s.hub.events.toList + (s.evictedIn acts).length := by
  induction acts generalizing s with
  | nil => rfl
  | cons x acts ih =>
    obtain ⟨-, hevents, -⟩ := stepBy_frame x.2 s x.1
    rw [runBy, ih, hevents, step_events, total_append, total_announced x.2, evictedIn,
      List.length_append, Nat.add_assoc]

/-- **The bound of the cache.**  Whatever the settings, and however the rows are
    listed whenever some of them have to go: after every run the cache is within
    its bound; a look-up that comes next leaves it as it is or stores one topic,
    and if that is one too many, a fifth goes, nothing of it younger than what is
    kept, while all else is as it was; and the counter and the events of evictions
    add up to the topics that went.  The runs of the hub are those in which the rows
    are listed as they came. -/
theorem cache_bound (config : HubConfig) (acts : List (Act H × Listing H)) :
    let s := (start config).runBy acts
    s.hub.config.maxEntries = config.maxEntries ∧
      s.hub.cache.size ≤ config.maxEntries ∧
      (∀ (a : Act H) (ℓ : Listing H) (topic : String), a.lookup? = some topic →
        LooksUp s topic (s.evictedBy ℓ a) (s.stepBy ℓ a)) ∧
      s.hub.counters.evictions = ((start config).evictedIn acts).length ∧
      total HubEvent.evicted s.hub.events.toList =
        ((start config).evictedIn acts).length ∧
      ∀ ran : List (Act H), (start config).runBy (ran.map (·, .plain)) = (start config).run ran := by
  intro s
  have hconfig : s.hub.config = config := runBy_config _ acts
  have hempty : (start config : Session H).hub.cache.size ≤ config.maxEntries := Nat.zero_le _
  have hbound : s.hub.cache.size ≤ config.maxEntries := runBy_bounded hempty acts
  have hevents : total HubEvent.evicted s.hub.events.toList =
      ((start config : Session H).evictedIn acts).length :=
    (runBy_evicted _ acts).trans (Nat.zero_add _)
  have htallied : s.hub.Tallied := runBy_tallied (.create config) acts
  refine ⟨by rw [hconfig], hbound, fun a ℓ topic hlookup => ?_, ?_, hevents,
    runBy_plain _⟩
  · exact stepBy_looksUp (by rw [hconfig]; exact hbound) ℓ hlookup
  · rw [htallied.evictions, hevents]

end Session

end Switchboard.Hub
