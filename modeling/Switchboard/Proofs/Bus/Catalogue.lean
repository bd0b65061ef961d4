import Switchboard.Bus.Stats
import Switchboard.Proofs.Bus.Leaks

/-
  The catalogue of a bus — the list of live ids and the index, in step.

  * `Shelved`: the list and the index hold the same subscriptions, and the index
    counts them;
  * `Stems`: what is on a bus now was there at an earlier time, or has an id that
    was new then;
  * `step_stems`: so it is after every act, whoever unsubscribes what;
  * `Catalogued` says what this means for somebody who looks at the bus;
  * `catalogue`: so it is after every run, and an id is unsubscribed once.
-/

namespace Switchboard.Bus

variable {H : Type}

/-- These subscriptions are filed, and the index counts them. -/
structure Shelved (b : Bus H) (live : List (Subscription (Listener H))) : Prop
    extends Filed b live where
  size : b.index.size = live.length

variable {b b' : Bus H} {live : List (Subscription (Listener H))}

/-! ## What is on the shelf -/

namespace Shelved

theorem congr (h : Shelved b live) (hindex : b'.index = b.index)
    (hpatterns : b'.patterns = b.patterns) (hmint : b.mint.Reaches b'.mint) :
    Shelved b' live where
  toFiled := h.toFiled.congr hindex hpatterns hmint
  size := hindex ▸ h.size

theorem nil (hindex : b.index = {}) (hpatterns : b.patterns = []) : Shelved b [] where
  index := hindex ▸ Index.mirrors_empty
  patterns := hpatterns
  ids := List.nodup_nil
  issued := by simp
  size := by rw [hindex]; rfl

theorem add (h : Shelved b live) {s : Subscription (Listener H)} (hs : s.pattern.Parsed)
    (hnew : ¬ b.mint.Issued s.id) (hindex : b'.index = b.index.insert s)
    (hpatterns : b'.patterns = b.patterns ++ [(s.id, s.pattern.text)])
    (hmint : b.mint.Reaches b'.mint) (hid : b'.mint.Issued s.id) : Shelved b' (live ++ [s]) where
  toFiled := h.toFiled.add hs hnew hindex hpatterns hmint hid
  size := by rw [hindex, Index.size_insert, h.size, List.length_append, List.length_singleton]

/-- Without the subscription of an id there is one less. -/
theorem length_without (h : Shelved b live) {s : Subscription (Listener H)} (hs : s ∈ live) :
    (live.filter (·.id ≠ s.id)).length = live.length - 1 := by
  have hone : live.filter (fun s' => !decide (s'.id ≠ s.id)) = [s] := by
    have hnodup : (live.filter fun s' => !decide (s'.id ≠ s.id)).Nodup := h.ids.of_map.filter _
    refine List.perm_singleton.1 ((List.perm_ext_iff_of_nodup hnodup (List.nodup_singleton s)).2 ?_)
    intro s'
    simp only [List.mem_filter, ne_eq, decide_not, Bool.not_not, decide_eq_true_eq,
      List.mem_singleton]
    constructor
    · rintro ⟨hs', hid⟩
      exact h.eq_of_id hs' hs hid
    · rintro rfl
      exact ⟨hs, rfl⟩
  have hsplit := List.length_eq_length_filter_add (l := live) fun s' => decide (s'.id ≠ s.id)
  rw [hone, List.length_singleton] at hsplit
  omega

/-- **Unsubscribing** finds an id if it is live, and takes it out. -/
theorem unsubscribe (h : Shelved b live) (id : String) :
    ((b.unsubscribe id).1 = true ↔ ∃ s ∈ live, s.id = id) ∧
      Shelved (b.unsubscribe id).2 (live.filter (·.id ≠ id)) := by
  have hfiled := h.toFiled.unsubscribe id
  rcases hlookup : b.patterns.lookup id with _ | text
  · have hnone : ∀ s ∈ live, s.id ≠ id := by
      rw [h.patterns, List.lookup_eq_none_iff] at hlookup
      intro s hs heq
      have hne := hlookup (s.id, s.pattern.text) (List.mem_map_of_mem hs)
      simp [heq] at hne
    have hsame : b.unsubscribe id = (false, b) := by simp only [Bus.unsubscribe, hlookup]
    have hkeep : live.filter (·.id ≠ id) = live :=
      List.filter_eq_self.2 fun s hs => decide_eq_true (hnone s hs)
    rw [hsame, hkeep]
    refine ⟨⟨Bool.noConfusion, ?_⟩, h⟩
    rintro ⟨s, hs, heq⟩
    exact absurd heq (hnone s hs)
  · have hrow := List.mem_of_lookup hlookup
    rw [h.patterns] at hrow
    obtain ⟨s, hs, heq⟩ := List.mem_map.1 hrow
    obtain ⟨rfl, rfl⟩ := Prod.mk.inj heq
    obtain ⟨hfound, hsize⟩ := h.index.erase_of_mem hs
    have hresult : (b.unsubscribe s.id).1 = (b.index.erase s.pattern.text s.id).1 ∧
        (b.unsubscribe s.id).2.index = (b.index.erase s.pattern.text s.id).2 := by
      simp only [Bus.unsubscribe, hlookup, and_self]
    refine ⟨⟨fun _ => ⟨s, hs, rfl⟩, fun _ => hresult.1.trans hfound⟩, ⟨hfiled, ?_⟩⟩
    rw [hresult.2, hsize, h.size, h.length_without hs]

/-- **Removing a plugin** takes out what it owns. -/
theorem unsubscribePlugin (h : Shelved b live) (plugin : String) :
    Shelved (b.unsubscribePlugin plugin).2 (live.filter fun s => !s.isOwnedBy plugin) where
  toFiled := h.toFiled.unsubscribePlugin plugin
  size := by
    have hsize : (b.unsubscribePlugin plugin).2.index.size =
        b.index.size - (b.index.entries.filter (·.isOwnedBy plugin)).length := rfl
    have hremoved := (h.index.entries_perm.filter (·.isOwnedBy plugin)).length_eq
    have hsplit := List.length_eq_length_filter_add (l := live) (·.isOwnedBy plugin)
    rw [hsize, hremoved, h.size]
    omega

end Shelved

/-! ## What came later -/

/-- What is on the bus was among these subscriptions, or has an id that the mint
    had not handed out. -/
structure Stems (live : List (Subscription (Listener H))) (mint : Mint) (b : Bus H) : Prop where
  later : mint.Reaches b.mint
  shelved : ∃ live', Shelved b live' ∧ ∀ s ∈ live', s ∈ live ∨ ¬ mint.Issued s.id

theorem Shelved.stems (h : Shelved b live) : Stems live b.mint b :=
  ⟨.refl _, live, h, fun _ hs => Or.inl hs⟩

namespace Stems

variable {mint : Mint}

theorem congr (h : Stems live mint b) (hindex : b'.index = b.index)
    (hpatterns : b'.patterns = b.patterns) (hmint : b.mint.Reaches b'.mint) :
    Stems live mint b' := by
  obtain ⟨hlater, live', hshelved, hstems⟩ := h
  exact ⟨hlater.trans hmint, live', hshelved.congr hindex hpatterns hmint, hstems⟩

/-- A subscription with a new id is filed. -/
theorem add (h : Stems live mint b) {s : Subscription (Listener H)} (hs : s.pattern.Parsed)
    (hnew : ¬ b.mint.Issued s.id) (hindex : b'.index = b.index.insert s)
    (hpatterns : b'.patterns = b.patterns ++ [(s.id, s.pattern.text)])
    (hmint : b.mint.Reaches b'.mint) (hid : b'.mint.Issued s.id) : Stems live mint b' := by
  obtain ⟨hlater, live', hshelved, hstems⟩ := h
  refine ⟨hlater.trans hmint, _, hshelved.add hs hnew hindex hpatterns hmint hid, ?_⟩
  intro s' hs'
  rcases List.mem_append.1 hs' with hs' | hs'
  · exact hstems s' hs'
  · rw [List.mem_singleton.1 hs']
    exact Or.inr fun hissued => hnew (hlater.issued hissued)

theorem subscribes {listener : Listener H} (h : Stems live mint b)
    (hs : b.Subscribes listener b') : Stems live mint b' := by
  cases hs with
  | refused => exact h
  | added p metadata hp =>
    exact h.add (s := ⟨b.mint.take.1, p, listener, metadata⟩) hp b.mint.not_issued_take rfl rfl
      b.mint.reaches_advance b.mint.issued_take

theorem unsubscribe (h : Stems live mint b) (id : String) :
    Stems live mint (b.unsubscribe id).2 := by
  obtain ⟨hlater, live', hshelved, hstems⟩ := h
  have hmint : (b.unsubscribe id).2.mint = b.mint := (b.unsubscribe_atDesk id).mint
  refine ⟨hmint ▸ hlater, _, (hshelved.unsubscribe id).2, ?_⟩
  exact fun s hs => hstems s (List.mem_filter.1 hs).1

theorem unsubscribePlugin (h : Stems live mint b) (plugin : String) :
    Stems live mint (b.unsubscribePlugin plugin).2 := by
  obtain ⟨hlater, live', hshelved, hstems⟩ := h
  refine ⟨hlater, _, hshelved.unsubscribePlugin plugin, ?_⟩
  exact fun s hs => hstems s (List.mem_filter.1 hs).1

/-- What becomes of requests leaves nothing that was not there before. -/
theorem lasting (live : List (Subscription (Listener H))) (mint : Mint) :
    Lasting (Stems live mint) where
  congr h hindex hpatterns _ hmint := h.congr hindex hpatterns hmint
  settle {b} h c r := by
    unfold Bus.settle
    split
    · exact h
    · next e _ =>
      have hrest : Stems live mint { b with pending := b.pending.filter (·.correlation ≠ c) } :=
        h.congr rfl rfl (.refl _)
      exact (hrest.unsubscribe e.subscription).congr rfl rfl (.refl _)
  close {b} h c := by
    unfold Bus.close
    split
    · exact h.congr rfl rfl (.refl _)
    · next e _ =>
      have hrest : Stems live mint { b with pending := b.pending.filter (·.correlation ≠ c) } :=
        h.congr rfl rfl (.refl _)
      exact (hrest.unsubscribe e.subscription).congr rfl rfl (.refl _)

/-- A request files its reply subscription, or nothing. -/
theorem openRequest (h : Stems live mint b) (now : Nat) (topic : String) (payload : Json)
    (o : RequestOptions) : Stems live mint (b.openRequest now topic payload o).2 := by
  have hopens := b.openRequest_opens now topic payload o
  have hasking {pattern : Pattern} (hpattern : Address.pattern b.replyTopic = .ok pattern) :
      Stems live mint (b.asking now topic pattern) := by
    have hp := Pattern.parsed_of_parse (parse_of_address hpattern)
    exact h.add (s := b.replyListener topic pattern) hp (b.replyListener_not_issued topic pattern)
      rfl rfl (b.asking_reaches now topic pattern) (b.asking_issued now topic pattern)
  generalize b.requestTraffic now topic payload o = t at hopens
  generalize (b.openRequest now topic payload o).1 = r at hopens
  generalize (b.openRequest now topic payload o).2 = b' at hopens ⊢
  cases hopens with
  | refused f mint' _ hmint => exact h.congr rfl rfl hmint
  | unpublished pattern f hpattern => exact (lasting live mint).close (hasking hpattern) _
  | opened pattern hpattern => exact (lasting live mint).publish (hasking hpattern) ..

/-- Nothing is filed after a shutdown. -/
theorem shutdown (h : Stems live mint b) : Stems live mint b.shutdown := by
  rcases hclosed : b.closed with _ | _
  · have hlater := h.later.trans b.shutdown_effect.mint
    refine ⟨hlater, [], .nil ?_ ?_, by simp⟩ <;> simp [Bus.shutdown, hclosed]
  · have hsame : b.shutdown = b := by simp [Bus.shutdown, hclosed]
    rw [hsame]
    exact h

end Stems

/-- **One act**: what is on the bus afterwards was there before, or is new. -/
theorem Session.step_stems {s : Session H} {mint : Mint} (h : Stems live mint s.bus) (a : Act H) :
    Stems live mint (s.step a).bus := by
  cases a with
  | subscribe topic handler metadata => exact h.subscribes (s.bus.subscribe_subscribes ..)
  | subscribePattern pattern handler metadata =>
    exact h.subscribes (s.bus.subscribePattern_subscribes ..)
  | serve topic handler metadata => exact h.subscribes (s.bus.subscribe_subscribes ..)
  | unsubscribe id => exact h.unsubscribe id
  | unsubscribePlugin plugin => exact h.unsubscribePlugin plugin
  | request topic payload o =>
    rw [step_request_bus]
    exact h.openRequest ..
  | shutdown => exact h.shutdown
  | _ => exact (Stems.lasting live mint).step h rfl

theorem Session.run_stems {s : Session H} {mint : Mint} (h : Stems live mint s.bus)
    (acts : List (Act H)) : Stems live mint (s.run acts).bus := by
  induction acts generalizing s with
  | nil => exact h
  | cons a acts ih => exact ih (step_stems h a)

/-! ## What is seen from outside -/

/-- The list of live ids and the index agree: the same ids, each once, each with
    the pattern under which the index finds it; and all figures are the number of
    subscriptions. -/
structure Catalogued (b : Bus H) : Prop where
  listed : b.patterns.Perm (b.index.entries.map fun sub => (sub.id, sub.pattern.text))
  ids : (b.index.entries.map (·.id)).Nodup
  found : ∀ sub ∈ b.index.entries, b.index.find? sub.pattern.text sub.id = some sub
  count : b.subscriptionCount = b.index.entries.length
  stats : b.index.stats.subscriptions = b.index.entries.length
  shown : b.statsJson.field? "subscriptions" = some (.nat b.index.entries.length) ∧
    (b.statsJson.field? "trie").bind (·.field? "subscription_count") =
      some (.nat b.index.entries.length)

theorem Shelved.catalogued (h : Shelved b live) : Catalogued b := by
  have hperm := h.index.entries_perm
  have hcount : b.subscriptionCount = b.index.entries.length := by
    rw [subscriptionCount, h.patterns, List.length_map, hperm.length_eq]
  have hstats : b.index.stats.subscriptions = b.index.entries.length :=
    h.size.trans hperm.length_eq.symm
  have hshown : b.statsJson.field? "subscriptions" = some (.nat b.subscriptionCount) ∧
      (b.statsJson.field? "trie").bind (·.field? "subscription_count") =
        some (.nat b.index.stats.subscriptions) := ⟨rfl, rfl⟩
  rw [hcount, hstats] at hshown
  constructor
  · rw [h.patterns]
    exact (hperm.map _).symm
  · exact (hperm.map _).nodup_iff.2 h.ids
  · intro sub hsub
    exact h.index.find?_eq h.ids (hperm.mem_iff.1 hsub)
  · exact hcount
  · exact hstats
  · exact hshown

namespace Session

/-- Nothing is on a new bus. -/
theorem start_shelved (config : BusConfig) (hosted : Bool) :
    Shelved (start (H := H) config hosted).bus [] := .nil rfl rfl

/-- An id that was handed out and is not live is not live again. -/
theorem run_not_live {s : Session H} {id : String} (h : Shelved s.bus live)
    (hissued : s.bus.mint.Issued id) (hid : ∀ sub ∈ live, sub.id ≠ id) (acts : List (Act H)) :
    ((s.run acts).bus.unsubscribe id).1 = false := by
  obtain ⟨-, live', hshelved, hstems⟩ := run_stems h.stems acts
  refine Bool.eq_false_iff.2 fun hfound => ?_
  obtain ⟨sub, hsub, rfl⟩ := (hshelved.unsubscribe id).1.1 hfound
  rcases hstems sub hsub with hold | hnew
  · exact hid sub hold rfl
  · exact hnew hissued

/-- **The catalogue.**  After every run the list of live ids and the index hold
    the same subscriptions, reply subscriptions among them, and every figure
    counts them.  Unsubscribing an id answers whether it is live, takes out the
    subscription of that id and no other, and leaves the two in step.  It finds
    nothing when it is done again, at once or, for an id that was live, after
    whatever else has happened. -/
theorem catalogue (config : BusConfig) (hosted : Bool) (acts : List (Act H)) :
    let s := (start config hosted).run acts
    Catalogued s.bus ∧ ∀ id,
      let gone := s.step (.unsubscribe id)
      ((s.bus.unsubscribe id).1 = true ↔ ∃ sub ∈ s.bus.index.entries, sub.id = id) ∧
      Catalogued gone.bus ∧
      gone.bus.index.entries.Perm (s.bus.index.entries.filter (·.id ≠ id)) ∧
      gone.bus.patterns = s.bus.patterns.filter (·.1 ≠ id) ∧
      (gone.bus.unsubscribe id).1 = false ∧
      ∀ later, (s.bus.unsubscribe id).1 = true → ((gone.run later).bus.unsubscribe id).1 = false := by
  intro s
  obtain ⟨-, live, hshelved, -⟩ := run_stems (start_shelved config hosted).stems acts
  have hperm := hshelved.index.entries_perm
  refine ⟨hshelved.catalogued, fun id => ?_⟩
  intro gone
  obtain ⟨hfound, hgone⟩ := hshelved.unsubscribe id
  have hnone : ∀ sub ∈ live.filter (·.id ≠ id), sub.id ≠ id := by
    intro sub hsub
    simpa using (List.mem_filter.1 hsub).2
  refine ⟨?_, hgone.catalogued, ?_, ?_, ?_, ?_⟩
  · rw [hfound]
    exact exists_congr fun sub => and_congr_left' hperm.mem_iff.symm
  · exact hgone.index.entries_perm.trans (hperm.filter _).symm
  · have hrows := Filed.filter_patterns live (· ≠ id)
    rw [← hgone.patterns, ← hshelved.patterns] at hrows
    exact hrows.symm
  · refine Bool.eq_false_iff.2 fun hagain => ?_
    obtain ⟨sub, hsub, heq⟩ := (hgone.unsubscribe id).1.1 hagain
    exact hnone sub hsub heq
  · intro later hlive
    obtain ⟨sub, hsub, rfl⟩ := hfound.1 hlive
    have hmint : gone.bus.mint = s.bus.mint := (s.bus.unsubscribe_atDesk sub.id).mint
    exact run_not_live hgone (hmint ▸ hshelved.issued sub hsub) hnone later

end Session

end Switchboard.Bus
