import Switchboard.Proofs.Bus.Failures
import Switchboard.Proofs.Bus.Lasting
import Switchboard.Proofs.Index.Entries

/-
  The register of a bus — the live subscriptions, oldest first.

  * `Filed`: the index and the list of live ids hold the same subscriptions,
    under different ids that were handed out;
  * `Register`: moreover the reply subscriptions are those of the pending
    requests, in the same order;
  * `Paired`, `Forgotten`: what a register says of the index, the list of live
    ids and the pending entries;
  * what every operation of the bus does to the register.  Nothing but
    subscribing and requesting files anything, and a reply subscription goes
    where its pending entry goes.
-/

namespace Switchboard

variable {H : Type}

/-- The request whose reply a subscription awaits. -/
def Subscription.reply? (s : Subscription (Listener H)) : Option String :=
  match s.handler with
  | .reply c => some c
  | _ => none

namespace Bus

/-- The correlation id and the id of a reply subscription. -/
def replyRow? (s : Subscription (Listener H)) : Option (String × String) :=
  s.reply?.map fun c => (c, s.id)

/-- The index and the list of live ids hold these subscriptions. -/
structure Filed (b : Bus H) (live : List (Subscription (Listener H))) : Prop where
  index : b.index.Mirrors live
  patterns : b.patterns = live.map fun s => (s.id, s.pattern.text)
  ids : (live.map (·.id)).Nodup
  issued : ∀ s ∈ live, b.mint.Issued s.id

/-- These subscriptions are filed, and those that await replies are those of the
    pending requests. -/
structure Register (b : Bus H) (live : List (Subscription (Listener H))) : Prop
    extends Filed b live where
  replies : live.filterMap replyRow? = b.pending.map fun e => (e.correlation, e.subscription)
  correlations : (b.pending.map (·.correlation)).Nodup
  known : ∀ e ∈ b.pending, b.mint.Issued e.correlation
  /-- no plugin owns a reply subscription -/
  unowned : ∀ s ∈ live, s.reply? ≠ none → s.metadata.plugin = none

variable {b b' : Bus H} {live : List (Subscription (Listener H))}

/-! ## What is filed -/

namespace Filed

/-- Subscriptions with the same id are the same. -/
theorem eq_of_id (h : Filed b live) {s s' : Subscription (Listener H)} (hs : s ∈ live)
    (hs' : s' ∈ live) (heq : s.id = s'.id) : s = s' := List.inj_on_of_nodup_map h.ids hs hs' heq

theorem congr (h : Filed b live) (hindex : b'.index = b.index) (hpatterns : b'.patterns = b.patterns)
    (hmint : b.mint.Reaches b'.mint) : Filed b' live where
  index := hindex ▸ h.index
  patterns := hpatterns.trans h.patterns
  ids := h.ids
  issued s hs := hmint.issued (h.issued s hs)

/-- A subscription with a new id is filed. -/
theorem add (h : Filed b live) {s : Subscription (Listener H)} (hs : s.pattern.Parsed)
    (hnew : ¬ b.mint.Issued s.id) (hindex : b'.index = b.index.insert s)
    (hpatterns : b'.patterns = b.patterns ++ [(s.id, s.pattern.text)])
    (hmint : b.mint.Reaches b'.mint) (hid : b'.mint.Issued s.id) : Filed b' (live ++ [s]) where
  index := hindex ▸ h.index.insert hs
  patterns := by rw [hpatterns, h.patterns, List.map_append]; rfl
  ids := List.nodup_map_concat h.ids fun s' hs' heq => hnew (heq ▸ h.issued s' hs')
  issued s' hs' := by
    rcases List.mem_append.1 hs' with hs' | hs'
    · exact hmint.issued (h.issued s' hs')
    · rw [List.mem_singleton.1 hs']
      exact hid

theorem filter_patterns (live : List (Subscription (Listener H))) (keep : String → Bool) :
    (live.map fun s => (s.id, s.pattern.text)).filter (fun row => keep row.1) =
      (live.filter fun s => keep s.id).map fun s => (s.id, s.pattern.text) := by
  rw [List.filter_map]
  rfl

/-- **Unsubscribing** takes out the subscription with an id, if there is one. -/
theorem unsubscribe (h : Filed b live) (id : String) :
    Filed (b.unsubscribe id).2 (live.filter (·.id ≠ id)) := by
  have hrest : (live.filter (·.id ≠ id)).Sublist live := List.filter_sublist
  unfold Bus.unsubscribe
  split
  · next hnone =>
    have hkeep : live.filter (·.id ≠ id) = live := by
      refine List.filter_eq_self.2 fun s hs => ?_
      rw [h.patterns, List.lookup_eq_none_iff] at hnone
      have hne := hnone (s.id, s.pattern.text) (List.mem_map.2 ⟨s, hs, rfl⟩)
      simpa using Ne.symm (bne_iff_ne.1 hne)
    rw [hkeep]
    exact h
  · next text hsome =>
    rw [h.patterns] at hsome
    obtain ⟨s, hs, heq⟩ := List.mem_map.1 (List.mem_of_lookup hsome)
    obtain ⟨rfl, rfl⟩ := Prod.mk.inj heq
    -- the id determines the pattern
    have hsame : live.filter (fun s' => !(s'.pattern.text == s.pattern.text && s'.id == s.id)) =
        live.filter (·.id ≠ s.id) := by
      refine List.filter_congr fun s' hs' => ?_
      by_cases hid : s'.id = s.id
      · rw [h.eq_of_id hs' hs hid]
        simp
      · simp [hid]
    exact
      { index := hsame ▸ h.index.erase s.pattern.text s.id
        patterns := by
          simp only [h.patterns]
          exact filter_patterns live (· ≠ s.id)
        ids := h.ids.sublist (hrest.map _)
        issued := fun s' hs' => h.issued s' (hrest.subset hs') }

/-- Removing a plugin takes out what it owns. -/
theorem unsubscribePlugin (h : Filed b live) (plugin : String) :
    Filed (b.unsubscribePlugin plugin).2 (live.filter fun s => !s.isOwnedBy plugin) := by
  have hrest : (live.filter fun s => !s.isOwnedBy plugin).Sublist live := List.filter_sublist
  let ids := (b.index.entries.filter (·.isOwnedBy plugin)).map (·.id)
  have hremoved : ∀ s ∈ live, ids.contains s.id = s.isOwnedBy plugin := by
    intro s hs
    rw [Bool.eq_iff_iff, List.contains_iff_mem]
    constructor
    · intro hid
      obtain ⟨s', hs', heq⟩ := List.mem_map.1 hid
      obtain ⟨hs', howned⟩ := List.mem_filter.1 hs'
      rw [← h.eq_of_id (h.index.entries_perm.mem_iff.1 hs') hs heq]
      exact howned
    · intro howned
      exact List.mem_map.2
        ⟨s, List.mem_filter.2 ⟨h.index.entries_perm.mem_iff.2 hs, howned⟩, rfl⟩
  have hpatterns : b.patterns.filter (fun row => !ids.contains row.1) =
      (live.filter fun s => !s.isOwnedBy plugin).map fun s => (s.id, s.pattern.text) := by
    rw [h.patterns, filter_patterns live fun id => !ids.contains id,
      List.filter_congr fun s hs => by rw [hremoved s hs]]
  exact
    { index := h.index.filter _
      patterns := hpatterns
      ids := h.ids.sublist (hrest.map _)
      issued := fun s hs => h.issued s (hrest.subset hs) }

end Filed

/-! ## Pending requests and reply subscriptions -/

namespace Register

theorem mem_replies (h : Register b live) {c id : String} :
    (∃ s ∈ live, s.reply? = some c ∧ s.id = id) ↔
      ∃ e ∈ b.pending, e.correlation = c ∧ e.subscription = id := by
  have hrows : (c, id) ∈ live.filterMap replyRow? ↔
      (c, id) ∈ b.pending.map fun e => (e.correlation, e.subscription) := by rw [h.replies]
  simpa [replyRow?] using hrows

theorem congr (h : Register b live) (hindex : b'.index = b.index)
    (hpatterns : b'.patterns = b.patterns) (hpending : b'.pending = b.pending)
    (hmint : b.mint.Reaches b'.mint) : Register b' live where
  toFiled := h.toFiled.congr hindex hpatterns hmint
  replies := hpending ▸ h.replies
  correlations := hpending ▸ h.correlations
  known e he := hmint.issued (h.known e (hpending ▸ he))
  unowned := h.unowned

/-- A subscription of somebody else is filed. -/
theorem subscribes {listener : Listener H} (h : Register b live) (hs : b.Subscribes listener b')
    (hlistener : ∀ c, listener ≠ .reply c) :
    Register b' live ∨ ∃ s, s.id = b.mint.take.1 ∧ s.reply? = none ∧ Register b' (live ++ [s]) := by
  cases hs with
  | refused => exact Or.inl h
  | added p metadata hp =>
    let s : Subscription (Listener H) := ⟨b.mint.take.1, p, listener, metadata⟩
    have hreach := b.mint.reaches_advance
    have hreply : s.reply? = none := by
      cases listener with
      | reply c => exact absurd rfl (hlistener c)
      | _ => rfl
    exact Or.inr ⟨s, rfl, hreply,
      { toFiled := h.toFiled.add hp b.mint.not_issued_take rfl rfl hreach b.mint.issued_take
        replies := by
          rw [List.filterMap_append, h.replies]
          simp [replyRow?, hreply]
        correlations := h.correlations
        known := fun e he => hreach.issued (h.known e he)
        unowned := fun s' hs' => by
          rcases List.mem_append.1 hs' with hs' | hs'
          · exact h.unowned s' hs'
          · rw [List.mem_singleton.1 hs']
            exact fun hne => absurd hreply hne }⟩

/-- A request files its entry together with its reply subscription. -/
theorem asking (h : Register b live) (now : Nat) (topic : String) {pattern : Pattern}
    (hp : pattern.Parsed) :
    Register (b.asking now topic pattern) (live ++ [b.replyListener topic pattern]) := by
  have hreach := b.asking_reaches now topic pattern
  have hnew := b.replyListener_not_issued topic pattern
  have hknown : b.mint.advance.advance.advance.Issued b.mint.take.1 :=
    (b.mint.advance.reaches_advance.trans b.mint.advance.advance.reaches_advance).issued
      b.mint.issued_take
  exact
    { toFiled := h.toFiled.add hp hnew rfl rfl hreach (b.asking_issued now topic pattern)
      replies := by
        rw [List.filterMap_append, h.replies]
        simp [replyRow?, Subscription.reply?, replyListener, Bus.asking, entry]
      correlations := List.nodup_map_concat h.correlations fun e he heq => by
        have hc : e.correlation = b.mint.take.1 := heq
        exact b.mint.not_issued_take (hc ▸ h.known e he)
      known := fun e he => by
        rcases List.mem_append.1 he with he | he
        · exact hreach.issued (h.known e he)
        · rw [List.mem_singleton.1 he]
          exact hknown
      unowned := fun s hs => by
        rcases List.mem_append.1 hs with hs | hs
        · exact h.unowned s hs
        · rw [List.mem_singleton.1 hs]
          exact fun _ => rfl }

/-! ### Taking subscriptions out -/

/-- Reply subscriptions stay where others are taken out. -/
theorem thin (h : Register b live) {keep : Subscription (Listener H) → Bool}
    (hfiled : Filed b' (live.filter keep)) (hpending : b'.pending = b.pending)
    (hmint : b.mint.Reaches b'.mint) (hkeep : ∀ s ∈ live, s.reply? ≠ none → keep s = true) :
    Register b' (live.filter keep) where
  toFiled := hfiled
  replies := by
    have hsame : ∀ s ∈ live, (if keep s = true then replyRow? s else none) = replyRow? s := by
      intro s hs
      split
      · rfl
      · next hout =>
        have hnone := Classical.not_not.1 fun hne => hout (hkeep s hs hne)
        simp [replyRow?, hnone]
    rw [hpending, ← h.replies, List.filterMap_filter]
    exact List.filterMap_congr hsame
  correlations := hpending ▸ h.correlations
  known e he := hmint.issued (h.known e (hpending ▸ he))
  unowned s hs := h.unowned s (List.mem_filter.1 hs).1

theorem unsubscribe (h : Register b live) {id : String}
    (hid : ∀ s ∈ live, s.id = id → s.reply? = none) :
    Register (b.unsubscribe id).2 (live.filter (·.id ≠ id)) := by
  have hdesk := b.unsubscribe_atDesk id
  refine h.thin (h.toFiled.unsubscribe id) (congrArg Desk.pending hdesk.desk)
    (hdesk.mint ▸ .refl _) fun s hs hne => ?_
  exact decide_eq_true fun heq => hne (hid s hs heq)

theorem unsubscribePlugin (h : Register b live) (plugin : String) :
    Register (b.unsubscribePlugin plugin).2 (live.filter fun s => !s.isOwnedBy plugin) := by
  refine h.thin (h.toFiled.unsubscribePlugin plugin) rfl (.refl _) fun s hs hne => ?_
  simp [Subscription.isOwnedBy, h.unowned s hs hne]

/-- **An entry and its reply subscription** go together. -/
theorem withdraw (h : Register b live) {e : Pending} (he : e ∈ b.pending) :
    Register ({ b with pending := b.pending.filter (·.correlation ≠ e.correlation) }.unsubscribe
      e.subscription).2 (live.filter (·.reply? ≠ some e.correlation)) := by
  let b₁ : Bus H := { b with pending := b.pending.filter (·.correlation ≠ e.correlation) }
  have hsame : live.filter (·.id ≠ e.subscription) =
      live.filter (·.reply? ≠ some e.correlation) := by
    obtain ⟨s', hs', hreply, hid⟩ := h.mem_replies.2 ⟨e, he, rfl, rfl⟩
    refine List.filter_congr fun s hs => decide_eq_decide.2 (not_congr ⟨fun heq => ?_, fun heq => ?_⟩)
    · rw [h.eq_of_id hs hs' (heq.trans hid.symm)]
      exact hreply
    · obtain ⟨e', he', hc, hid'⟩ := h.mem_replies.1 ⟨s, hs, heq, rfl⟩
      rw [← hid', List.inj_on_of_nodup_map h.correlations he' he hc]
  have hfiled : Filed b₁ live := h.toFiled.congr rfl rfl (.refl _)
  have hdesk := b₁.unsubscribe_atDesk e.subscription
  have hpending : (b₁.unsubscribe e.subscription).2.pending =
      b.pending.filter (·.correlation ≠ e.correlation) := congrArg Desk.pending hdesk.desk
  have hmint : (b₁.unsubscribe e.subscription).2.mint = b.mint := hdesk.mint
  rw [← hsame]
  exact
    { toFiled := hfiled.unsubscribe e.subscription
      replies := by
        have hrows := congrArg (List.filter (·.1 ≠ e.correlation)) h.replies
        rw [List.filter_map, List.filter_filterMap] at hrows
        rw [hpending, hsame, List.filterMap_filter]
        refine Eq.trans (List.filterMap_congr fun s _ => ?_) hrows
        rcases hs : s.reply? with _ | c
        · simp [replyRow?, hs]
        · by_cases hc : c = e.correlation <;> simp [replyRow?, hs, hc, Option.filter]
      correlations := by
        rw [hpending]
        exact h.correlations.sublist (List.filter_sublist.map _)
      known := fun e' he' => by
        rw [hpending] at he'
        rw [hmint]
        exact h.known e' (List.mem_filter.1 he').1
      unowned := fun s hs => h.unowned s (List.mem_filter.1 hs).1 }

/-- A request that is not pending has no reply subscription. -/
theorem filter_of_not_pending (h : Register b live) {c : String}
    (hc : ∀ e ∈ b.pending, e.correlation ≠ c) : live.filter (·.reply? ≠ some c) = live := by
  refine List.filter_eq_self.2 fun s hs => decide_eq_true fun hreply => ?_
  obtain ⟨e, he, hec, -⟩ := h.mem_replies.1 ⟨s, hs, hreply, rfl⟩
  exact hc e he hec

theorem settle (h : Register b live) (c : String) (r : Reply) :
    Register (b.settle c r) (live.filter (·.reply? ≠ some c)) := by
  unfold Bus.settle
  split
  · next hnone =>
    rw [h.filter_of_not_pending (by simpa using hnone)]
    exact h
  · next e hsome =>
    obtain rfl : e.correlation = c := by simpa using List.find?_some hsome
    exact (h.withdraw (List.mem_of_find?_eq_some hsome)).congr rfl rfl rfl (.refl _)

theorem close (h : Register b live) (c : String) :
    Register (b.close c) (live.filter (·.reply? ≠ some c)) := by
  unfold Bus.close
  split
  · next hnone =>
    rw [h.filter_of_not_pending (by simpa using hnone)]
    exact h.congr rfl rfl rfl (.refl _)
  · next e hsome =>
    obtain rfl : e.correlation = c := by simpa using List.find?_some hsome
    exact (h.withdraw (List.mem_of_find?_eq_some hsome)).congr rfl rfl rfl (.refl _)

end Register

/-! ## What the register says of the bus -/

/-- Pending entries and reply subscriptions correspond to each other, one to
    one, and the list of live ids agrees with the index. -/
structure Paired (b : Bus H) : Prop where
  bijection : Set.BijOn Pending.subscription {e | e ∈ b.pending}
    {id | ∃ sub ∈ b.index.entries, sub.id = id ∧ sub.reply? ≠ none}
  reply : ∀ e ∈ b.pending, ∀ sub ∈ b.index.entries, sub.id = e.subscription →
    sub.reply? = some e.correlation
  entries : b.pending.Nodup
  subscriptions : (b.index.entries.map (·.id)).Nodup
  listed : b.patterns.Perm (b.index.entries.map fun sub => (sub.id, sub.pattern.text))

theorem Register.paired (h : Register b live) : Paired b where
  bijection := by
    have hperm := h.index.entries_perm
    refine ⟨fun e he => ?_, fun e he e' he' heq => ?_, fun id hid => ?_⟩
    · obtain ⟨sub, hsub, hreply, hid⟩ := h.mem_replies.2 ⟨e, he, rfl, rfl⟩
      exact ⟨sub, hperm.mem_iff.2 hsub, hid, by simp [hreply]⟩
    · obtain ⟨sub, hsub, hreply, hid⟩ := h.mem_replies.2 ⟨e, he, rfl, rfl⟩
      obtain ⟨sub', hsub', hreply', hid'⟩ := h.mem_replies.2 ⟨e', he', rfl, rfl⟩
      have hsame := h.eq_of_id hsub hsub' (hid.trans (heq.trans hid'.symm))
      rw [hsame] at hreply
      exact List.inj_on_of_nodup_map h.correlations he he'
        (Option.some.inj (hreply.symm.trans hreply'))
    · obtain ⟨sub, hsub, rfl, hreply⟩ := hid
      obtain ⟨c, hc⟩ := Option.ne_none_iff_exists'.1 hreply
      obtain ⟨e, he, -, hid⟩ := h.mem_replies.1 ⟨sub, hperm.mem_iff.1 hsub, hc, rfl⟩
      exact ⟨e, he, hid⟩
  reply e he sub hsub hid := by
    obtain ⟨sub', hsub', hreply, hid'⟩ := h.mem_replies.2 ⟨e, he, rfl, rfl⟩
    rw [h.eq_of_id (h.index.entries_perm.mem_iff.1 hsub) hsub' (hid.trans hid'.symm)]
    exact hreply
  entries := h.correlations.of_map
  subscriptions := (h.index.entries_perm.map _).nodup_iff.2 h.ids
  listed := by
    rw [h.patterns]
    exact (h.index.entries_perm.map _).symm

/-- Nothing is left of a request with this correlation id and this reply
    subscription. -/
structure Forgotten (b : Bus H) (correlation id : String) : Prop where
  pending : ∀ e ∈ b.pending, e.correlation ≠ correlation ∧ e.subscription ≠ id
  index : ∀ sub ∈ b.index.entries, sub.reply? ≠ some correlation ∧ sub.id ≠ id
  listed : ∀ row ∈ b.patterns, row.1 ≠ id

/-- A request that is not pending has left nothing behind. -/
theorem Register.forgotten (h : Register b live) {c id : String}
    (hc : ∀ e ∈ b.pending, e.correlation ≠ c)
    (hid : ∀ sub ∈ live, sub.id = id → sub.reply? = some c) : Forgotten b c id := by
  have hreply : ∀ sub ∈ live, sub.reply? ≠ some c := by
    intro sub hsub heq
    obtain ⟨e, he, hec, -⟩ := h.mem_replies.1 ⟨sub, hsub, heq, rfl⟩
    exact hc e he hec
  have hne : ∀ sub ∈ live, sub.id ≠ id := fun sub hsub heq => hreply sub hsub (hid sub hsub heq)
  refine ⟨fun e he => ⟨hc e he, fun heq => ?_⟩, fun sub hsub => ?_, fun row hrow => ?_⟩
  · obtain ⟨sub, hsub, -, hsid⟩ := h.mem_replies.2 ⟨e, he, rfl, rfl⟩
    exact hne sub hsub (hsid.trans heq)
  · have hsub' := h.index.entries_perm.mem_iff.1 hsub
    exact ⟨hreply sub hsub', hne sub hsub'⟩
  · rw [h.patterns] at hrow
    obtain ⟨sub, hsub, rfl⟩ := List.mem_map.1 hrow
    exact hne sub hsub

/-! ## What operations leave on the register -/

/-- Some of these subscriptions are left on the register. -/
def Retains (live : List (Subscription (Listener H))) (b : Bus H) : Prop :=
  ∃ live', live'.Sublist live ∧ Register b live'

theorem Register.retains (h : Register b live) : Retains live b := ⟨live, .refl _, h⟩

/-- What requests leave is left by whatever follows from them. -/
theorem lasting_retains (live : List (Subscription (Listener H))) : Lasting (Retains live) where
  congr h hindex hpatterns hpending hmint := by
    obtain ⟨live', hsub, hr⟩ := h
    exact ⟨live', hsub, hr.congr hindex hpatterns hpending hmint⟩
  settle h c r := by
    obtain ⟨live', hsub, hr⟩ := h
    exact ⟨_, List.filter_sublist.trans hsub, hr.settle c r⟩
  close h c := by
    obtain ⟨live', hsub, hr⟩ := h
    exact ⟨_, List.filter_sublist.trans hsub, hr.close c⟩

/-- A bus on which nothing is filed and nothing is pending. -/
theorem register_nil (hindex : b.index = {}) (hpatterns : b.patterns = [])
    (hpending : b.pending = []) : Register b [] where
  index := hindex ▸ Index.mirrors_empty
  patterns := hpatterns
  ids := List.nodup_nil
  issued := by simp
  replies := by rw [hpending]; rfl
  correlations := by rw [hpending]; exact List.nodup_nil
  known := by simp [hpending]
  unowned := by simp

/-- Whatever was pending at a shutdown has been settled. -/
theorem pending_shutdown (b : Bus H) (hclosed : b.closed = false) : b.shutdown.pending = [] := by
  have hnot := Session.not_pending_of_shutdown (s := { bus := b }) hclosed
  refine List.eq_nil_iff_forall_not_mem.2 fun e he => ?_
  have hwaits : b.shutdown.desk.waits e.correlation = true := Desk.waits_iff.2 ⟨e, he, rfl⟩
  exact absurd ((hnot e.correlation).symm.trans hwaits) (by decide)

theorem Retains.shutdown (h : Retains live b) : Retains live b.shutdown := by
  rcases hclosed : b.closed with _ | _
  · refine ⟨[], List.nil_sublist _, register_nil ?_ ?_ (b.pending_shutdown hclosed)⟩ <;>
      simp [Bus.shutdown, hclosed]
  · have hsame : b.shutdown = b := by simp [Bus.shutdown, hclosed]
    rw [hsame]
    exact h

/-! ## Opening a request -/

/-- A request that is refused changes nothing that is filed or pending. -/
theorem Opens.register_of_error {now : Nat} {topic : String} {payload : Json} {o : RequestOptions}
    {t : Traffic} {f : BusFault} (ho : b.Opens now topic payload o t (.error f) b')
    (h : Register b live) : Register b' live ∧ b'.pending = b.pending := by
  cases ho with
  | refused f mint _ hmint => exact ⟨h.congr rfl rfl rfl hmint, rfl⟩
  | unpublished pattern f hpattern =>
    have hp := Pattern.parsed_of_parse (parse_of_address hpattern)
    have hnew : ∀ e ∈ b.pending, e.correlation ≠ b.mint.take.1 := fun e he heq =>
      b.mint.not_issued_take (heq ▸ h.known e he)
    have hreply : (b.replyListener topic pattern).reply? = some b.mint.take.1 := rfl
    have hlive : (live ++ [b.replyListener topic pattern]).filter
        (·.reply? ≠ some b.mint.take.1) = live := by
      rw [List.filter_append, h.filter_of_not_pending hnew]
      simp [hreply]
    refine ⟨hlive ▸ (h.asking now topic hp).close b.mint.take.1, ?_⟩
    have hdesk := congrArg Desk.pending
      ((b.asking now topic pattern).close_atDesk b.mint.take.1).desk
    refine hdesk.trans ?_
    simp only [Desk.close, Bus.desk, Bus.asking, List.filter_append]
    rw [List.filter_eq_self.2 fun e he => decide_eq_true (hnew e he)]
    simp [entry]

/-- A request that is opened files its reply subscription. -/
theorem Opens.register_of_ok {now : Nat} {topic : String} {payload : Json} {o : RequestOptions}
    {t : Traffic} {ticket : Ticket} (ho : b.Opens now topic payload o t (.ok ticket) b')
    (h : Register b live) :
    ∃ pattern, Retains (live ++ [b.replyListener topic pattern]) b' := by
  cases ho with
  | opened pattern hpattern =>
    have hp := Pattern.parsed_of_parse (parse_of_address hpattern)
    exact ⟨pattern, (lasting_retains _).publish (h.asking now topic hp).retains ..⟩

end Bus

end Switchboard
