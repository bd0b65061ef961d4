import Mathlib.Data.List.Perm.Subperm
import Switchboard.Proofs.Hub.Announcing
import Switchboard.Proofs.Index.Count

/-
  The life of a subscription — whoever follows the events of a hub knows who
  listens.

  A hub announces every subscription that is made and every one that is taken
  back, with the pattern as it was given.  Three operations announce, each on
  conditions of its own, and one of them writes the pattern anew from what is
  filed.

  * `Stocked`: what is filed in the index of a hub, and that no two subscriptions
    share an id; `Stocked.step`: every act keeps it, and `Session.Alters` says
    what the act adds, takes away and announces;
  * `HubEvent.replay`: the subscriptions that a list of events leaves over;
  * `Told`: what events may tell of one id;
  * `Followed`: the events of a hub replay to what is filed, kept by every act but
    a shutdown;
  * `lifecycle`: so it is after every run without one.
-/

namespace Switchboard

variable {H : Type}

/-- A subscription as events tell of it: its id, and its pattern as written. -/
def Subscription.entry (sub : Subscription H) : String × String := (sub.id, sub.pattern.text)

/-- What is announced of a subscription that goes. -/
def Subscription.farewell (sub : Subscription H) : HubEvent :=
  .unsubscribed sub.id sub.pattern.text

/-! ## What is filed -/

namespace Hub

/-- What is filed in the index of a hub, oldest first; ids are all different, and
    were handed out by the hub. -/
structure Stocked (h : Hub H) (live : List (Subscription H)) : Prop where
  counted : h.index.Counted live 0
  ids : (live.map (·.id)).Nodup
  issued : ∀ sub ∈ live, h.mint.Issued sub.id

namespace Stocked

variable {h h' : Hub H} {live : List (Subscription H)}

theorem create (config : HubConfig) : (Hub.create config : Hub H).Stocked [] where
  counted := ⟨Index.mirrors_empty, rfl⟩
  ids := List.nodup_nil
  issued sub hsub := by cases hsub

theorem congr (hs : h.Stocked live) (hindex : h'.index = h.index)
    (hmint : h.mint.Reaches h'.mint) : h'.Stocked live where
  counted := hindex ▸ hs.counted
  ids := hs.ids
  issued sub hsub := hmint.issued (hs.issued sub hsub)

/-- A subscription with a new id is filed. -/
theorem join (hs : h.Stocked live) {sub : Subscription H} {name : String}
    (hparse : Pattern.parse name = .ok sub.pattern) (hid : sub.id = h.mint.take.1)
    (hindex : h'.index = h.index.insert sub) (hmint : h'.mint = h.mint.advance) :
    h'.Stocked (live ++ [sub]) where
  counted := hindex ▸ hs.counted.change (.insert sub name hparse)
  ids := by
    rw [List.map_append, List.map_singleton, List.nodup_append]
    refine ⟨hs.ids, List.nodup_singleton _, ?_⟩
    intro id hlive id' hnew heq
    obtain ⟨old, hold, rfl⟩ := List.mem_map.1 hlive
    obtain rfl : id' = sub.id := List.mem_singleton.1 hnew
    exact h.mint.not_issued_take (hid ▸ heq ▸ hs.issued old hold)
  issued old hold := by
    rw [hmint]
    rcases List.mem_append.1 hold with hold | hold
    · exact (Mint.reaches_advance _).issued (hs.issued old hold)
    · rw [List.mem_singleton.1 hold, hid]
      exact h.mint.issued_take

/-- Some subscriptions are removed. -/
theorem leave (hs : h.Stocked live) {test : Subscription H → Bool}
    (hcounted : h'.index.Counted (live.filter fun sub => !test sub) 0)
    (hmint : h.mint.Reaches h'.mint) : h'.Stocked (live.filter fun sub => !test sub) where
  counted := hcounted
  ids := (List.filter_sublist.map _).nodup hs.ids
  issued sub hsub := hmint.issued (hs.issued sub (List.mem_filter.1 hsub).1)

theorem eq_of_id (hs : h.Stocked live) {sub sub' : Subscription H} (hsub : sub ∈ live)
    (hsub' : sub' ∈ live) (hid : sub.id = sub'.id) : sub = sub' :=
  List.inj_on_of_nodup_map hs.ids hsub hsub' hid

/-- A subscription is filed once, so a removal by text and id takes away one
    subscription at most. -/
theorem copies_eq (hs : h.Stocked live) {sub : Subscription H} (hsub : sub ∈ live) :
    Index.copies live sub.pattern.text sub.id = [sub] := by
  have hmem : sub ∈ Index.copies live sub.pattern.text sub.id :=
    List.mem_filter.2 ⟨hsub, by simp⟩
  have hnodup : (Index.copies live sub.pattern.text sub.id).Nodup :=
    List.Nodup.filter _ (List.Nodup.of_map _ hs.ids)
  refine List.perm_singleton.1 ((List.perm_ext_iff_of_nodup hnodup (List.nodup_singleton _)).2 ?_)
  intro sub'
  rw [List.mem_singleton]
  constructor
  · intro hsub'
    obtain ⟨hlive, htest⟩ := List.mem_filter.1 hsub'
    simp only [Bool.and_eq_true, beq_iff_eq] at htest
    exact hs.eq_of_id hlive hsub htest.2
  · rintro rfl
    exact hmem

/-- A removal by text and id that succeeds takes away one subscription. -/
theorem erase (hs : h.Stocked live) {pattern id : String}
    (hfound : (h.index.erase pattern id).1 = true) :
    ∃ sub, Index.copies live pattern id = [sub] ∧ sub.pattern.text = pattern ∧ sub.id = id ∧
      (h.index.erase pattern id).2.Counted
        (live.filter fun s => !(s.pattern.text == pattern && s.id == id)) 0 := by
  obtain ⟨sub, hsub⟩ := List.exists_mem_of_ne_nil _ ((hs.counted.erase_iff pattern id).1 hfound)
  obtain ⟨hlive, htest⟩ := List.mem_filter.1 hsub
  obtain ⟨rfl, rfl⟩ : sub.pattern.text = pattern ∧ sub.id = id := by simpa using htest
  have hcopies := hs.copies_eq hlive
  have hcounted := hs.counted.change (.erase sub.pattern.text sub.id)
  rw [Index.Change.uncounted, hcopies] at hcounted
  exact ⟨sub, hcopies, rfl, rfl, hcounted⟩

end Stocked

end Hub

/-! ## What events tell -/

namespace HubEvent

/-- The id of the subscription that an event tells of. -/
def id? : HubEvent → Option String
  | .subscribed id _ | .unsubscribed id _ => some id
  | .published .. | .cacheEvicted _ => none

/-- Reads an event: which subscriptions are left over after it. -/
def apply (left : List (String × String)) : HubEvent → List (String × String)
  | .subscribed id pattern => left ++ [(id, pattern)]
  | .unsubscribed id pattern => left.erase (id, pattern)
  | .published .. | .cacheEvicted _ => left

/-- The subscriptions that a list of events leaves over. -/
def replay (events : List HubEvent) : List (String × String) := events.foldl apply []

/-- Those of some events that tell of one id. -/
def tale (id : String) (events : List HubEvent) : List HubEvent :=
  events.filter fun e => e.id? = some id

theorem replay_append (es es' : List HubEvent) :
    replay (es ++ es') = es'.foldl apply (replay es) := List.foldl_append

theorem tale_append (id : String) (es es' : List HubEvent) :
    tale id (es ++ es') = tale id es ++ tale id es' := List.filter_append ..

section Quiet

variable {events : List HubEvent}

theorem tale_eq_nil {id : String} : tale id events = [] ↔ ∀ e ∈ events, e.id? ≠ some id := by
  simp [tale, List.filter_eq_nil_iff]

/-- Events that tell of nobody change nothing. -/
theorem foldl_apply_quiet (hquiet : ∀ e ∈ events, e.id? = none) (left : List (String × String)) :
    events.foldl apply left = left := by
  induction events generalizing left with
  | nil => rfl
  | cons e events ih =>
    have hrest := ih fun e' he' => hquiet e' (List.mem_cons_of_mem _ he')
    have he := hquiet e List.mem_cons_self
    rw [List.foldl_cons, hrest]
    cases e with
    | subscribed | unsubscribed => cases he
    | published | cacheEvicted => rfl

theorem total_quiet {f : HubEvent → Nat} (hf : ∀ e : HubEvent, e.id? = none → f e = 0)
    (hquiet : ∀ e ∈ events, e.id? = none) : Hub.total f events = 0 := by
  induction events with
  | nil => rfl
  | cons e events ih =>
    rw [Hub.total, hf e (hquiet e List.mem_cons_self),
      ih fun e' he' => hquiet e' (List.mem_cons_of_mem _ he')]

theorem added_of_id? (e : HubEvent) (he : e.id? = none) : e.added = 0 := by
  cases e with
  | subscribed => cases he
  | unsubscribed | published | cacheEvicted => rfl

theorem takenAway_of_id? (e : HubEvent) (he : e.id? = none) : e.takenAway = 0 := by
  cases e with
  | unsubscribed => cases he
  | subscribed | published | cacheEvicted => rfl

end Quiet

section Farewells

variable {gone : List (Subscription H)}

theorem foldl_apply_farewells (gone : List (Subscription H)) (left : List (String × String)) :
    (gone.map (·.farewell)).foldl apply left = left.diff (gone.map (·.entry)) := by
  induction gone generalizing left with
  | nil => rfl
  | cons sub gone ih =>
    rw [List.map_cons, List.foldl_cons, ih, List.map_cons, List.diff_cons]
    rfl

theorem tale_farewells_of_notMem {id : String} (hid : id ∉ gone.map (·.id)) :
    tale id (gone.map (·.farewell)) = [] := by
  rw [tale_eq_nil]
  intro e he heq
  obtain ⟨sub, hsub, rfl⟩ := List.mem_map.1 he
  exact hid (List.mem_map.2 ⟨sub, hsub, Option.some.inj heq⟩)

theorem tale_farewells (hids : (gone.map (·.id)).Nodup) {sub : Subscription H}
    (hsub : sub ∈ gone) : tale sub.id (gone.map (·.farewell)) = [sub.farewell] := by
  induction gone with
  | nil => cases hsub
  | cons other gone ih =>
    rw [List.map_cons, List.nodup_cons] at hids
    rw [List.map_cons, ← List.singleton_append, tale_append]
    rcases List.mem_cons.1 hsub with rfl | hsub
    · rw [tale_farewells_of_notMem hids.1]
      simp [tale, id?, Subscription.farewell]
    · have hne : other.id ≠ sub.id := fun heq => hids.1 (heq ▸ List.mem_map_of_mem hsub)
      rw [ih hids.2 hsub]
      simp [tale, id?, Subscription.farewell, hne]

end Farewells

end HubEvent

/-- What events may tell of an id, given what is live: nothing, that it
    subscribed, or that it subscribed and later unsubscribed under the same
    pattern. -/
inductive Told (id : String) (live : List (String × String)) : List HubEvent → Prop
  | never (hnone : ∀ pattern, (id, pattern) ∉ live) : Told id live []
  | joined {pattern : String} (hlive : (id, pattern) ∈ live) :
    Told id live [.subscribed id pattern]
  | gone {pattern : String} (hnone : ∀ pattern, (id, pattern) ∉ live) :
    Told id live [.subscribed id pattern, .unsubscribed id pattern]

theorem Told.congr {id : String} {live live' : List (String × String)} {tale : List HubEvent}
    (h : Told id live tale) (hsame : ∀ pattern, (id, pattern) ∈ live' ↔ (id, pattern) ∈ live) :
    Told id live' tale := by
  cases h with
  | never hnone => exact .never fun pattern => mt (hsame pattern).1 (hnone pattern)
  | joined hlive => exact .joined ((hsame _).2 hlive)
  | gone hnone => exact .gone fun pattern => mt (hsame pattern).1 (hnone pattern)

/-! ## Acts -/

namespace Hub

namespace Session

/-- What an act adds to what is filed, or takes away from it, and what it
    announces of that. -/
inductive Alters (s : Session H) (live : List (Subscription H)) (a : Act H) :
    List (Subscription H) → Prop
  | keeps (hannounced : ∀ e ∈ s.announced a, e.id? = none) : Alters s live a live
  | joins (sub : Subscription H) (hid : sub.id = s.hub.mint.take.1)
    (hmint : (s.step a).hub.mint = s.hub.mint.advance)
    (hannounced : s.announced a = [.subscribed sub.id sub.pattern.text]) :
    Alters s live a (live ++ [sub])
  | leave {test : Subscription H → Bool} {gone : List (Subscription H)}
    (hgone : gone.Perm (live.filter test))
    (hannounced : s.announced a = gone.map (·.farewell)) :
    Alters s live a (live.filter fun sub => !test sub)
  | ends (ha : a = .shutdown) : Alters s live a []

theorem id?_notices (removed : Nat) : ∀ e ∈ notices removed, e.id? = none := by
  intro e he
  unfold notices at he
  split at he
  · cases he
  · rw [List.mem_singleton.1 he]
    rfl

theorem id?_report (f : Fan H) : ∀ e ∈ f.report, e.id? = none := by
  intro e he
  unfold Fan.report at he
  split at he
  · rw [List.mem_singleton.1 he]
    rfl
  · cases he

end Session

/-- **What an act changes** is announced: a subscription that joins under a new
    id, or those that leave. -/
theorem Stocked.step {s : Session H} {live : List (Subscription H)} (hs : s.hub.Stocked live)
    (a : Act H) : ∃ live', (s.step a).hub.Stocked live' ∧ s.Alters live a live' := by
  have hmint := s.step_mint a
  have hkeeps (hindex : (s.step a).hub.index = s.hub.index)
      (hannounced : ∀ e ∈ s.announced a, e.id? = none) :
      ∃ live', (s.step a).hub.Stocked live' ∧ s.Alters live a live' :=
    ⟨live, hs.congr hindex hmint, .keeps hannounced⟩
  cases a with
  | subscribe pattern handler metadata =>
    rcases hp : Address.pattern pattern with f | p
    · exact hkeeps (by simp [Session.step, Hub.subscribe, hp]) (by simp [Session.announced, hp])
    · have hparse : Pattern.parse pattern = .ok p := parse_of_address hp
      have hnew : (s.step (.subscribe pattern handler metadata)).hub.mint = s.hub.mint.advance := by
        simp only [Session.step, Hub.subscribe, hp]
        rfl
      refine ⟨live ++ [⟨s.hub.mint.take.1, p, handler, metadata⟩], ?_, ?_⟩
      · refine hs.join hparse rfl ?_ hnew
        simp only [Session.step, Hub.subscribe, hp]
        rfl
      · refine .joins _ rfl hnew ?_
        simp only [Session.announced, hp, Pattern.text_of_parse hparse]
  | unsubscribe pattern id =>
    rcases he : s.hub.index.erase pattern id with ⟨_ | _, index⟩
    · exact hkeeps (by simp [Session.step, Hub.unsubscribe, he]) (by simp [Session.announced, he])
    · have hfound : (s.hub.index.erase pattern id).1 = true := by rw [he]
      obtain ⟨sub, hsub, rfl, rfl, hcounted⟩ := hs.erase hfound
      have hindex : (s.step (.unsubscribe sub.pattern.text sub.id)).hub.index =
          (s.hub.index.erase sub.pattern.text sub.id).2 := by
        simp only [Session.step, Hub.unsubscribe, he]
        rfl
      have hannounced : s.announced (.unsubscribe sub.pattern.text sub.id) =
          [sub].map (·.farewell) := by
        rw [Session.announced, if_pos hfound]
        rfl
      exact ⟨_, hs.leave (hindex ▸ hcounted) hmint, .leave (.of_eq hsub.symm) hannounced⟩
  | unsubscribePlugin plugin =>
    have hperm : (s.hub.index.eraseWhere (·.isOwnedBy plugin)).1.Perm
        (live.filter (·.isOwnedBy plugin)) := hs.counted.entries_perm.filter _
    have hannounced : s.announced (.unsubscribePlugin plugin) =
        (s.hub.index.eraseWhere (·.isOwnedBy plugin)).1.map (·.farewell) := rfl
    rcases he : s.hub.index.eraseWhere (·.isOwnedBy plugin) with ⟨_ | ⟨sub, gone⟩, index⟩
    · exact hkeeps (by simp [Session.step, Hub.unsubscribePlugin, he])
        (by simp [Session.announced, he])
    · refine ⟨_, hs.leave ?_ hmint, .leave hperm hannounced⟩
      have hindex : (s.step (.unsubscribePlugin plugin)).hub.index =
          (s.hub.index.eraseWhere (·.isOwnedBy plugin)).2 := by
        simp only [Session.step, Hub.unsubscribePlugin, he]
        exact (announceAll_frame _ _).2.2
      rw [hindex]
      exact hs.counted.change (.eraseWhere (·.isOwnedBy plugin))
  | find topic => exact hkeeps (find_frame ..).2.1 (Session.id?_notices _)
  | publish topic payload =>
    by_cases hd : topicDefect? topic = none
    · refine hkeeps ((Session.step_publish_frame s payload hd).2.1.trans (find_frame ..).2.1) ?_
      rw [Session.announced, if_pos hd]
      intro e he
      rcases List.mem_append.1 he with he | he
      · exact Session.id?_notices _ e he
      · exact Session.id?_report _ e he
    · exact hkeeps (by rw [Session.step_publish_of_defect s payload hd])
        (by simp [Session.announced, hd])
  | conclude n place succeeded =>
    rcases hfan : s.fans.get? n with _ | f
    · exact hkeeps (by simp only [Session.step, hfan]) (by simp [Session.announced, hfan])
    · refine hkeeps ?_ ?_
      · simp only [Session.step, hfan]
        exact (Session.carry_frame ..).2.1
      · simp only [Session.announced, hfan]
        exact Session.id?_report _
  | shutdown =>
    exact ⟨[], ⟨hs.counted.change .clear, List.nodup_nil, by simp⟩, .ends rfl⟩
  | drop | cleanup | invalidate | wait => exact hkeeps rfl (by simp [Session.announced])

theorem Session.step_stocked {s : Session H} (h : ∃ live, s.hub.Stocked live) (a : Act H) :
    ∃ live, (s.step a).hub.Stocked live := by
  obtain ⟨live, hs⟩ := h
  obtain ⟨live', hs', -⟩ := hs.step a
  exact ⟨live', hs'⟩

/-! ## What is filed and what was announced -/

/-- What the events of a hub tell is what is filed. -/
structure Followed (h : Hub H) (live : List (Subscription H)) : Prop extends h.Stocked live where
  replayed : HubEvent.replay h.events.toList = live.map (·.entry)
  told : ∀ id, Told id (live.map (·.entry)) (HubEvent.tale id h.events.toList)
  known : ∀ e ∈ h.events.toList, ∀ id, e.id? = some id → h.mint.Issued id
  balance : total HubEvent.added h.events.toList =
    total HubEvent.takenAway h.events.toList + live.length

namespace Followed

variable {h h' : Hub H} {live : List (Subscription H)}

theorem create (config : HubConfig) : (Hub.create config : Hub H).Followed [] where
  toStocked := .create config
  replayed := rfl
  told id := .never (by simp)
  known e he := by cases he
  balance := rfl

/-- What is announced tells of nobody. -/
theorem keep (hf : h.Followed live) (hstocked : h'.Stocked live) (hmint : h.mint.Reaches h'.mint)
    {events : List HubEvent} (hevents : h'.events.toList = h.events.toList ++ events)
    (hquiet : ∀ e ∈ events, e.id? = none) : h'.Followed live where
  toStocked := hstocked
  replayed := by
    rw [hevents, HubEvent.replay_append, HubEvent.foldl_apply_quiet hquiet, hf.replayed]
  told id := by
    have hnone : HubEvent.tale id events = [] := by
      rw [HubEvent.tale_eq_nil]
      intro e he
      simp [hquiet e he]
    rw [hevents, HubEvent.tale_append, hnone, List.append_nil]
    exact hf.told id
  known e he id hid := by
    rw [hevents, List.mem_append] at he
    rcases he with he | he
    · exact hmint.issued (hf.known e he id hid)
    · rw [hquiet e he] at hid
      cases hid
  balance := by
    rw [hevents, total_append, total_append,
      HubEvent.total_quiet HubEvent.added_of_id? hquiet,
      HubEvent.total_quiet HubEvent.takenAway_of_id? hquiet, Nat.add_zero, Nat.add_zero, hf.balance]

/-- A subscription with a new id is announced. -/
theorem join (hf : h.Followed live) {sub : Subscription H} (hstocked : h'.Stocked (live ++ [sub]))
    (hid : sub.id = h.mint.take.1) (hmint : h'.mint = h.mint.advance)
    (hevents : h'.events.toList = h.events.toList ++ [.subscribed sub.id sub.pattern.text]) :
    h'.Followed (live ++ [sub]) where
  toStocked := hstocked
  replayed := by
    rw [hevents, HubEvent.replay_append, hf.replayed, List.map_append]
    rfl
  told id := by
    rw [hevents, HubEvent.tale_append]
    by_cases hsame : id = sub.id
    · have hnew : HubEvent.tale id h.events.toList = [] := by
        rw [HubEvent.tale_eq_nil]
        intro e he heq
        refine h.mint.not_issued_take ?_
        rw [← hid, ← hsame]
        exact hf.known e he id heq
      have hjoined : HubEvent.tale id [.subscribed sub.id sub.pattern.text] =
          [.subscribed id sub.pattern.text] := by simp [HubEvent.tale, HubEvent.id?, hsame]
      rw [hnew, hjoined]
      exact .joined (by simp [Subscription.entry, hsame])
    · have hother : HubEvent.tale id [.subscribed sub.id sub.pattern.text] = [] := by
        simp [HubEvent.tale, HubEvent.id?, Ne.symm hsame]
      rw [hother, List.append_nil]
      exact (hf.told id).congr fun pattern => by simp [Subscription.entry, hsame]
  known e he id heq := by
    rw [hmint]
    rw [hevents, List.mem_append] at he
    rcases he with he | he
    · exact (Mint.reaches_advance _).issued (hf.known e he id heq)
    · rw [List.mem_singleton.1 he] at heq
      obtain rfl : sub.id = id := Option.some.inj heq
      rw [hid]
      exact h.mint.issued_take
  balance := by
    rw [hevents, total_concat, total_concat, hf.balance, List.length_append]
    simp only [HubEvent.added, HubEvent.takenAway, List.length_singleton]
    omega

section Leaving

variable {test : Subscription H → Bool} {gone : List (Subscription H)}

/-- Whoever shares an entry with a subscription that goes, goes. -/
theorem entry_mem_gone (hf : h.Followed live) (hgone : gone.Perm (live.filter test))
    {sub : Subscription H} (hsub : sub ∈ live) :
    sub.entry ∈ gone.map (·.entry) ↔ test sub = true := by
  rw [List.mem_map]
  constructor
  · rintro ⟨other, hother, heq⟩
    obtain ⟨hlive, htest⟩ := List.mem_filter.1 (hgone.mem_iff.1 hother)
    rw [← hf.eq_of_id hlive hsub (congrArg Prod.fst heq)]
    exact htest
  · intro htest
    exact ⟨sub, hgone.mem_iff.2 (List.mem_filter.2 ⟨hsub, htest⟩), rfl⟩

/-- Whoever goes was announced when it joined, under the same pattern. -/
theorem told_gone (hf : h.Followed live) (hgone : gone.Perm (live.filter test))
    {sub : Subscription H} (hsub : sub ∈ gone) :
    Told sub.id ((live.filter fun s => !test s).map (·.entry))
      (HubEvent.tale sub.id h.events.toList ++ [sub.farewell]) := by
  obtain ⟨hlive, htest⟩ := List.mem_filter.1 (hgone.mem_iff.1 hsub)
  have hentry : (sub.id, sub.pattern.text) ∈ live.map (·.entry) :=
    List.mem_map_of_mem (f := (·.entry)) hlive
  have hnone : ∀ pattern, (sub.id, pattern) ∉ (live.filter fun s => !test s).map (·.entry) := by
    intro pattern hmem
    obtain ⟨other, hother, heq⟩ := List.mem_map.1 hmem
    obtain ⟨hother, hkept⟩ := List.mem_filter.1 hother
    rw [hf.eq_of_id hother hlive (congrArg Prod.fst heq), htest] at hkept
    cases hkept
  have htold := hf.told sub.id
  generalize HubEvent.tale sub.id h.events.toList = tale at htold
  cases htold with
  | never hnever => exact absurd hentry (hnever _)
  | gone hnever => exact absurd hentry (hnever _)
  | @joined pattern hjoined =>
    obtain ⟨other, hother, heq⟩ := List.mem_map.1 hjoined
    obtain rfl := hf.eq_of_id hother hlive (congrArg Prod.fst heq)
    obtain rfl : other.pattern.text = pattern := congrArg Prod.snd heq
    exact .gone hnone

/-- Some subscriptions go, and each of them is announced. -/
theorem leave (hf : h.Followed live) (hgone : gone.Perm (live.filter test))
    (hstocked : h'.Stocked (live.filter fun sub => !test sub)) (hmint : h.mint.Reaches h'.mint)
    (hevents : h'.events.toList = h.events.toList ++ gone.map (·.farewell)) :
    h'.Followed (live.filter fun sub => !test sub) where
  toStocked := hstocked
  replayed := by
    have hnodup : (live.map (·.entry)).Nodup := by
      refine List.Nodup.of_map Prod.fst ?_
      rw [List.map_map]
      exact hf.ids
    rw [hevents, HubEvent.replay_append, HubEvent.foldl_apply_farewells, hf.replayed,
      hnodup.sdiff_eq_filter, List.filter_map]
    refine congrArg _ (List.filter_congr fun sub hsub => ?_)
    simp only [Function.comp_apply, hf.entry_mem_gone hgone hsub]
    cases test sub <;> rfl
  told id := by
    rw [hevents, HubEvent.tale_append]
    by_cases hid : id ∈ gone.map (·.id)
    · obtain ⟨sub, hsub, rfl⟩ := List.mem_map.1 hid
      have hids : (gone.map (·.id)).Nodup :=
        (hgone.map _).nodup_iff.2 ((List.filter_sublist.map _).nodup hf.ids)
      rw [HubEvent.tale_farewells hids hsub]
      exact hf.told_gone hgone hsub
    · rw [HubEvent.tale_farewells_of_notMem hid, List.append_nil]
      refine (hf.told id).congr fun pattern => ?_
      simp only [List.mem_map, List.mem_filter]
      constructor
      · rintro ⟨sub, ⟨hsub, -⟩, heq⟩
        exact ⟨sub, hsub, heq⟩
      · rintro ⟨sub, hsub, heq⟩
        refine ⟨sub, ⟨hsub, ?_⟩, heq⟩
        rw [Bool.not_eq_true', Bool.eq_false_iff]
        intro htest
        obtain rfl : sub.id = id := congrArg Prod.fst heq
        exact hid (List.mem_map_of_mem (hgone.mem_iff.2 (List.mem_filter.2 ⟨hsub, htest⟩)))
  known e he id heq := by
    rw [hevents, List.mem_append] at he
    rcases he with he | he
    · exact hmint.issued (hf.known e he id heq)
    · obtain ⟨sub, hsub, rfl⟩ := List.mem_map.1 he
      obtain rfl : sub.id = id := Option.some.inj heq
      exact hmint.issued (hf.issued sub (List.mem_filter.1 (hgone.mem_iff.1 hsub)).1)
  balance := by
    have hlength := List.length_eq_length_filter_add (l := live) test
    have hadded : total HubEvent.added (gone.map (·.farewell)) = 0 * gone.length :=
      total_removals _ 0 (fun _ _ => rfl) gone
    have htaken : total HubEvent.takenAway (gone.map (·.farewell)) = 1 * gone.length :=
      total_removals _ 1 (fun _ _ => rfl) gone
    rw [hevents, total_append, total_append, hf.balance, hadded, htaken,
      hgone.length_eq]
    omega

end Leaving

/-- **One act** but a shutdown: the events still tell what is filed. -/
theorem step {s : Session H} (hf : s.hub.Followed live) {a : Act H} (hopen : a ≠ .shutdown) :
    ∃ live', (s.step a).hub.Followed live' := by
  have hevents := s.step_events a
  obtain ⟨live', hstocked, halters⟩ := hf.toStocked.step a
  refine ⟨live', ?_⟩
  cases halters with
  | keeps hannounced => exact hf.keep hstocked (s.step_mint a) hevents hannounced
  | joins sub hid hmint hannounced => exact hf.join hstocked hid hmint (hannounced ▸ hevents)
  | leave hgone hannounced =>
    exact hf.leave hgone hstocked (s.step_mint a) (hannounced ▸ hevents)
  | ends ha => exact absurd ha hopen

end Followed

/-! ## Operations that come to nothing -/

section Idle

variable {h : Hub H} {live : List (Subscription H)}

theorem subscribe_of_error {pattern : String} {handler : H} {metadata : Metadata} {f : BusFault}
    (hrefused : (h.subscribe pattern handler metadata).1 = .error f) :
    (h.subscribe pattern handler metadata).2 = h := by
  rcases hp : Address.pattern pattern with f' | p
  · simp only [subscribe, hp]
  · simp only [subscribe, hp] at hrefused
    cases hrefused

/-- A pair of an id and a pattern can be taken back iff it is filed. -/
theorem Stocked.erase_iff (hs : h.Stocked live) (pattern id : String) :
    (h.index.erase pattern id).1 = true ↔ (id, pattern) ∈ h.index.entries.map (·.entry) := by
  rw [hs.counted.erase_iff, (hs.counted.entries_perm.map _).mem_iff, List.mem_map]
  constructor
  · intro hne
    obtain ⟨sub, hsub⟩ := List.exists_mem_of_ne_nil _ hne
    obtain ⟨hlive, htest⟩ := List.mem_filter.1 hsub
    obtain ⟨rfl, rfl⟩ : sub.pattern.text = pattern ∧ sub.id = id := by simpa using htest
    exact ⟨sub, hlive, rfl⟩
  · rintro ⟨sub, hlive, heq⟩
    obtain ⟨rfl, rfl⟩ := Prod.mk.inj heq
    rw [hs.copies_eq hlive]
    exact List.cons_ne_nil _ _

theorem Stocked.unsubscribe_of_notMem (hs : h.Stocked live) {pattern id : String}
    (habsent : (id, pattern) ∉ h.index.entries.map (·.entry)) :
    h.unsubscribe pattern id = (false, h) := by
  have hnot := mt (hs.erase_iff pattern id).1 habsent
  rcases he : h.index.erase pattern id with ⟨_ | _, index⟩
  · simp only [unsubscribe, he]
  · rw [he] at hnot
    exact absurd rfl hnot

theorem unsubscribePlugin_of_unowned {plugin : String}
    (hnone : ∀ sub ∈ h.index.entries, sub.isOwnedBy plugin = false) :
    h.unsubscribePlugin plugin = (0, h) := by
  have hremoved : (h.index.eraseWhere (·.isOwnedBy plugin)).1 = [] := by
    refine List.filter_eq_nil_iff.2 fun sub hsub => ?_
    rw [hnone sub hsub]
    exact Bool.false_ne_true
  rcases he : h.index.eraseWhere (·.isOwnedBy plugin) with ⟨_ | ⟨sub, removed⟩, index⟩
  · simp only [unsubscribePlugin, he]
  · rw [he] at hremoved
    cases hremoved

end Idle

/-! ## Runs -/

/-- Whoever follows the events of a hub knows who listens. -/
structure Known (h : Hub H) : Prop where
  replayed : (HubEvent.replay h.events.toList).Perm (h.index.entries.map (·.entry))
  ids : (h.index.entries.map (·.id)).Nodup
  told : ∀ id, Told id (h.index.entries.map (·.entry)) (HubEvent.tale id h.events.toList)
  unsubscriptions_le : h.counters.unsubscriptions ≤ h.counters.subscriptions
  counters : h.counters.subscriptions - h.counters.unsubscriptions = h.index.entries.length
  size : h.index.size = h.index.entries.length

/-- What comes to nothing leaves a hub as it is. -/
structure Idles (h : Hub H) : Prop where
  refused : ∀ pattern handler metadata f, (h.subscribe pattern handler metadata).1 = .error f →
    (h.subscribe pattern handler metadata).2 = h
  absent : ∀ pattern id, (id, pattern) ∉ h.index.entries.map (·.entry) →
    h.unsubscribe pattern id = (false, h)
  unowned : ∀ plugin, (∀ sub ∈ h.index.entries, sub.isOwnedBy plugin = false) →
    h.unsubscribePlugin plugin = (0, h)

theorem Stocked.idles {h : Hub H} {live : List (Subscription H)} (hs : h.Stocked live) :
    h.Idles where
  refused _ _ _ _ hrefused := subscribe_of_error hrefused
  absent _ _ habsent := hs.unsubscribe_of_notMem habsent
  unowned _ hnone := unsubscribePlugin_of_unowned hnone

theorem Followed.knows {h : Hub H} {live : List (Subscription H)} (hf : h.Followed live)
    (ht : h.Tallied) : h.Known := by
  have hperm : h.index.entries.Perm live := hf.counted.entries_perm
  have hbalance : h.counters.subscriptions =
      h.counters.unsubscriptions + h.index.entries.length := by
    rw [ht.subscriptions, ht.unsubscriptions, hperm.length_eq, hf.balance]
  constructor
  · rw [hf.replayed]
    exact (hperm.map _).symm
  · exact (hperm.map _).nodup_iff.2 hf.ids
  · intro id
    exact (hf.told id).congr fun pattern => (hperm.map _).mem_iff
  · omega
  · omega
  · rw [hperm.length_eq, hf.counted.size, Nat.add_zero]

namespace Session

theorem run_followed (config : HubConfig) {acts : List (Act H)} (hopen : .shutdown ∉ acts) :
    ∃ live, ((start config).run acts).hub.Followed live := by
  induction acts using List.reverseRecOn with
  | nil => exact ⟨[], .create config⟩
  | append_singleton acts a ih =>
    rw [List.mem_append, not_or, List.mem_singleton] at hopen
    obtain ⟨live, hf⟩ := ih hopen.1
    rw [run_concat]
    exact hf.step (Ne.symm hopen.2)

/-- What was announced stays announced. -/
theorem run_events (s : Session H) (acts : List (Act H)) :
    s.hub.events.toList <+: (s.run acts).hub.events.toList := by
  induction acts generalizing s with
  | nil => exact List.prefix_refl _
  | cons a acts ih =>
    refine List.IsPrefix.trans ?_ (ih (s.step a))
    rw [step_events]
    exact List.prefix_append _ _

/-- An id that was handed out was announced, with the pattern as it was given. -/
theorem mem_announced_of_ok {s : Session H} {pattern id : String} {handler : H}
    {metadata : Metadata} (hok : (s.hub.subscribe pattern handler metadata).1 = .ok id) :
    .subscribed id pattern ∈ s.announced (.subscribe pattern handler metadata) := by
  rcases hp : Address.pattern pattern with f | p
  · simp only [subscribe, hp] at hok
    cases hok
  · simp only [subscribe, hp] at hok
    cases hok
    simp only [announced, hp, List.mem_singleton]

/-- **The life of a subscription.**  As long as a hub is not shut down, its events
    replay to the ids and patterns that are filed; of every id they tell at most
    that it subscribed and then that it unsubscribed, under one pattern; its
    counters differ by as many subscriptions as are filed; what comes to nothing
    leaves it as it is; and whoever was handed an id was announced. -/
theorem lifecycle (config : HubConfig) {acts : List (Act H)} (hopen : .shutdown ∉ acts) :
    let s := (start config).run acts
    s.hub.Known ∧ s.hub.Idles ∧
      ∀ before pattern handler metadata after id,
        acts = before ++ .subscribe pattern handler metadata :: after →
        (((start config).run before).hub.subscribe pattern handler metadata).1 = .ok id →
        .subscribed id pattern ∈ s.hub.events.toList := by
  intro s
  obtain ⟨live, hf⟩ : ∃ live, s.hub.Followed live := run_followed config hopen
  have htallied : s.hub.Tallied := run_tallied config acts
  refine ⟨hf.knows htallied, hf.idles, ?_⟩
  rintro before pattern handler metadata after id hacts hok
  have hlater := run_events (((start config).run before).step
    (.subscribe pattern handler metadata)) after
  rw [step_events] at hlater
  have hrun : s = (((start config).run before).step
      (.subscribe pattern handler metadata)).run after := by
    simp only [s, hacts, run, List.foldl_append, List.foldl_cons]
  rw [hrun]
  exact hlater.subset (List.mem_append_right _ (mem_announced_of_ok hok))

/-- Three subscribe and a name is refused; one is taken back, though not under
    another pattern, one goes with its plugin, and one stays. -/
theorem lifecycle_three :
    let acts : List (Act Unit) :=
      [.subscribe "user.*" () {}, .subscribe "user.login" () (.ofPlugin "audit"),
        .subscribe "*" () {}, .subscribe "a.*.b" () {}, .unsubscribe "*.b" (Mint.grouped 2 2),
        .unsubscribe "a.*.b" (Mint.grouped 2 2), .unsubscribePlugin "audit"]
    let s := (start {}).run acts
    Act.shutdown ∉ acts ∧ s.hub.Known ∧ s.hub.counters.subscriptions = 3 ∧
      HubEvent.replay s.hub.events.toList = [(Mint.grouped 2 0, "user.*")] := by
  intro acts s
  have hopen : Act.shutdown ∉ acts := by simp [acts]
  exact ⟨hopen, (lifecycle {} hopen).1, by decide +kernel +zetaReduce,
    by decide +kernel +zetaReduce⟩

end Session

end Hub

end Switchboard
