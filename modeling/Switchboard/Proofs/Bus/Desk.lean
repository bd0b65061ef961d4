import Switchboard.Bus.Delivery
import Switchboard.Proofs.Index.Matching

/-
  The desk of a bus — the requests that are pending, and the results that wait
  to be fetched.

  * `Desk.enter`, `settle` and `close` are what happens at a desk;
  * `Desk.keys` are the requests it knows of.  Settling keeps them, so that a
    request loses its entry only by getting a result;
  * `Bus.AtDesk`: what settling and ending requests leaves alone.
-/

namespace Switchboard

variable {H : Type}

/-- What a bus knows of its requests. -/
structure Desk where
  pending : List Pending
  settled : List (String × Reply)

namespace Desk

/-- Whether a request has no result yet. -/
def waits (d : Desk) (c : String) : Bool := d.pending.any (·.correlation = c)

/-- Gives a request its result, if it has none yet. -/
def settle (d : Desk) (o : String × Reply) : Desk :=
  if d.waits o.1 then ⟨d.pending.filter (·.correlation ≠ o.1), d.settled ++ [o]⟩ else d

def settleAll (d : Desk) (os : List (String × Reply)) : Desk := os.foldl settle d

/-- Takes in a request. -/
def enter (d : Desk) (e : Pending) : Desk := ⟨d.pending ++ [e], d.settled⟩

/-- Forgets a request. -/
def close (d : Desk) (c : String) : Desk :=
  ⟨d.pending.filter (·.correlation ≠ c), d.settled.filter (·.1 ≠ c)⟩

/-- The requests known at a desk. -/
def keys (d : Desk) : List String := d.pending.map (·.correlation) ++ d.settled.map (·.1)

/-! ## What settling does -/

theorem waits_iff {d : Desk} {c : String} : d.waits c = true ↔ ∃ e ∈ d.pending, e.correlation = c := by
  simp [waits]

@[simp] theorem settleAll_nil (d : Desk) : d.settleAll [] = d := rfl

@[simp] theorem settleAll_cons (d : Desk) (o : String × Reply) (os : List (String × Reply)) :
    d.settleAll (o :: os) = (d.settle o).settleAll os := rfl

theorem settleAll_append (d : Desk) (os os' : List (String × Reply)) :
    d.settleAll (os ++ os') = (d.settleAll os).settleAll os' := List.foldl_append

theorem pending_settle_subset (d : Desk) (o : String × Reply) :
    (d.settle o).pending ⊆ d.pending := by
  unfold settle
  split
  · exact List.filter_subset_self _
  · exact List.Subset.refl _

theorem pending_settleAll_subset (d : Desk) (os : List (String × Reply)) :
    (d.settleAll os).pending ⊆ d.pending := by
  induction os generalizing d with
  | nil => exact List.Subset.refl _
  | cons o os ih => exact List.Subset.trans (ih (d.settle o)) (pending_settle_subset d o)

theorem waits_of_subset {d d' : Desk} (h : d'.pending ⊆ d.pending) {c : String}
    (hc : d'.waits c = true) : d.waits c = true := by
  obtain ⟨e, he, hec⟩ := waits_iff.1 hc
  exact waits_iff.2 ⟨e, h he, hec⟩

/-- A request that is settled is no longer pending. -/
theorem not_waits_settle (d : Desk) (o : String × Reply) : (d.settle o).waits o.1 = false := by
  unfold settle
  split
  · simp [waits]
  · next h => exact Bool.eq_false_iff.2 h

theorem not_waits_settleAll (d : Desk) {os : List (String × Reply)} {o : String × Reply}
    (h : o ∈ os) : (d.settleAll os).waits o.1 = false := by
  obtain ⟨before, after, rfl⟩ := List.append_of_mem h
  rw [settleAll_append, settleAll_cons]
  refine Bool.eq_false_iff.2 fun hw => ?_
  have := waits_of_subset (pending_settleAll_subset _ after) hw
  rw [not_waits_settle] at this
  exact absurd this (by decide)

theorem settled_settle_of_waits {d : Desk} {o : String × Reply} (h : d.waits o.1 = true) :
    o ∈ (d.settle o).settled := by simp [settle, h]

/-- A new result belongs to a request that was pending. -/
theorem mem_settled_settle {d : Desk} {o x : String × Reply} (h : x ∈ (d.settle o).settled) :
    x ∈ d.settled ∨ x = o ∧ d.waits x.1 = true := by
  unfold settle at h
  split at h
  · next hw =>
    rcases List.mem_append.1 h with h | h
    · exact Or.inl h
    · obtain rfl := List.mem_singleton.1 h
      exact Or.inr ⟨rfl, hw⟩
  · exact Or.inl h

theorem mem_settled_settleAll {d : Desk} {os : List (String × Reply)} {x : String × Reply}
    (h : x ∈ (d.settleAll os).settled) : x ∈ d.settled ∨ x ∈ os ∧ d.waits x.1 = true := by
  induction os generalizing d with
  | nil => exact Or.inl h
  | cons o os ih =>
    rcases ih h with h | ⟨hx, hw⟩
    · rcases mem_settled_settle h with h | ⟨rfl, hw⟩
      · exact Or.inl h
      · exact Or.inr ⟨List.mem_cons_self, hw⟩
    · exact Or.inr ⟨List.mem_cons_of_mem _ hx, waits_of_subset (pending_settle_subset d o) hw⟩

/-! ## The requests known -/

theorem map_correlation_filter (l : List Pending) (c : String) :
    (l.filter (·.correlation ≠ c)).map (·.correlation) =
      (l.map (·.correlation)).filter (· ≠ c) := by
  rw [List.filter_map]
  rfl

/-- **Settling keeps the requests known.**  An entry goes only where a result
    comes. -/
theorem keys_settle {d : Desk} (h : d.keys.Nodup) (o : String × Reply) :
    (d.settle o).keys.Perm d.keys := by
  unfold settle
  split
  · next hw =>
    obtain ⟨e, he, hec⟩ := waits_iff.1 hw
    have hmem : o.1 ∈ d.pending.map (·.correlation) := hec ▸ List.mem_map_of_mem he
    have hperm : (d.pending.map (·.correlation)).Perm
        (o.1 :: (d.pending.map (·.correlation)).filter (· ≠ o.1)) := by
      have := List.perm_cons_erase hmem
      rw [h.of_append_left.erase_eq_filter] at this
      refine this.trans (List.Perm.of_eq (congrArg _ (List.filter_congr fun x _ => ?_)))
      rw [Bool.eq_iff_iff]
      simp
    simp only [keys, List.map_append, List.map_cons, List.map_nil, map_correlation_filter]
    rw [← List.append_assoc]
    exact (List.perm_append_singleton _ _).trans (hperm.symm.append_right _)
  · exact List.Perm.refl _

theorem keys_settleAll {d : Desk} (h : d.keys.Nodup) (os : List (String × Reply)) :
    (d.settleAll os).keys.Perm d.keys := by
  induction os generalizing d with
  | nil => exact List.Perm.refl _
  | cons o os ih =>
    have ho := keys_settle h o
    exact (ih (ho.nodup_iff.2 h)).trans ho

theorem keys_enter (d : Desk) (e : Pending) : (d.enter e).keys.Perm (d.keys ++ [e.correlation]) := by
  simp only [enter, keys, List.map_append, List.map_cons, List.map_nil, List.append_assoc]
  exact List.Perm.append_left _ List.perm_append_comm

theorem keys_close (d : Desk) (c : String) : (d.close c).keys = d.keys.filter (· ≠ c) := by
  simp only [close, keys, List.filter_append, map_correlation_filter]
  rw [List.filter_map (f := Prod.fst)]
  rfl

theorem close_of_notMem {d : Desk} {c : String} (h : c ∉ d.keys) : d.close c = d := by
  simp only [keys, List.mem_append, List.mem_map, not_or, not_exists, not_and] at h
  simp only [close]
  rw [List.filter_eq_self.2 fun e he => by simpa using h.1 e he,
    List.filter_eq_self.2 fun x hx => by simpa using h.2 x hx]

theorem close_enter (d : Desk) (e : Pending) :
    (d.enter e).close e.correlation = d.close e.correlation := by
  simp [close, enter, List.filter_append]

end Desk

/-! ## Taking subscriptions out -/

/-- An index from which subscriptions were at most taken out. -/
def Index.Thins (x x' : Index H) : Prop :=
  ∀ live, x.Mirrors live → ∃ live', live'.Sublist live ∧ x'.Mirrors live'

theorem Index.Thins.refl (x : Index H) : x.Thins x := fun live h => ⟨live, List.Sublist.refl _, h⟩

theorem Index.Thins.trans {x x' x'' : Index H} (h : x.Thins x') (h' : x'.Thins x'') :
    x.Thins x'' := by
  intro live hlive
  obtain ⟨live', hsub, hlive'⟩ := h live hlive
  obtain ⟨live'', hsub', hlive''⟩ := h' live' hlive'
  exact ⟨live'', hsub'.trans hsub, hlive''⟩

theorem Index.thins_erase (x : Index H) (name id : String) : x.Thins (x.erase name id).2 :=
  fun _ h => ⟨_, List.filter_sublist, h.erase name id⟩

theorem Index.thins_eraseWhere (x : Index H) (test : Subscription H → Bool) :
    x.Thins (x.eraseWhere test).2 :=
  fun _ h => ⟨_, List.filter_sublist, h.filter test⟩

theorem Index.thins_empty (x : Index H) : x.Thins {} :=
  fun live _ => ⟨[], List.nil_sublist live, mirrors_empty⟩

/-! ## The desk of a bus -/

namespace Bus

/-- The desk of a bus. -/
def desk (b : Bus H) : Desk := ⟨b.pending, b.settled⟩

@[simp] theorem desk_waits (b : Bus H) (c : String) : b.desk.waits c = b.hasPending c := rfl

/-- `b'` is `b` with the desk `d`, and nothing else but that subscriptions were
    taken out. -/
structure AtDesk (b : Bus H) (d : Desk) (b' : Bus H) : Prop where
  config : b'.config = b.config
  hosted : b'.hosted = b.hosted
  queue : b'.queue = b.queue
  drainer : b'.drainer = b.drainer
  closed : b'.closed = b.closed
  counters : b'.counters = b.counters
  mint : b'.mint = b.mint
  desk : b'.desk = d
  index : b.index.Thins b'.index

namespace AtDesk

theorem refl (b : Bus H) : b.AtDesk b.desk b := ⟨rfl, rfl, rfl, rfl, rfl, rfl, rfl, rfl, .refl _⟩

theorem trans {b b' b'' : Bus H} {d d' : Desk} (h : b.AtDesk d b') (h' : b'.AtDesk d' b'') :
    b.AtDesk d' b'' where
  config := h'.config.trans h.config
  hosted := h'.hosted.trans h.hosted
  queue := h'.queue.trans h.queue
  drainer := h'.drainer.trans h.drainer
  closed := h'.closed.trans h.closed
  counters := h'.counters.trans h.counters
  mint := h'.mint.trans h.mint
  desk := h'.desk
  index := h.index.trans h'.index

end AtDesk

theorem unsubscribe_atDesk (b : Bus H) (id : String) : b.AtDesk b.desk (b.unsubscribe id).2 := by
  unfold unsubscribe
  split
  · exact .refl b
  · exact ⟨rfl, rfl, rfl, rfl, rfl, rfl, rfl, rfl, b.index.thins_erase _ _⟩

theorem unsubscribePlugin_atDesk (b : Bus H) (plugin : String) :
    b.AtDesk b.desk (b.unsubscribePlugin plugin).2 :=
  ⟨rfl, rfl, rfl, rfl, rfl, rfl, rfl, rfl, b.index.thins_eraseWhere _⟩

/-- **Settling** is done at the desk. -/
theorem settle_atDesk (b : Bus H) (c : String) (r : Reply) :
    b.AtDesk (b.desk.settle (c, r)) (b.settle c r) := by
  unfold settle
  split
  · next h =>
    have hw : b.desk.waits c = false := by simpa [Desk.waits, Bus.desk] using h
    have hdesk : b.desk = b.desk.settle (c, r) := by simp [Desk.settle, hw]
    exact { AtDesk.refl b with desk := hdesk }
  · next p h =>
    have hpc : p.correlation = c := by simpa using List.find?_some h
    have hw : b.desk.waits c = true := Desk.waits_iff.2 ⟨p, List.mem_of_find?_eq_some h, hpc⟩
    have hun := unsubscribe_atDesk { b with pending := b.pending.filter (·.correlation ≠ c) }
      p.subscription
    obtain ⟨hpending, hsettled⟩ := Desk.mk.inj hun.desk
    refine ⟨hun.config, hun.hosted, hun.queue, hun.drainer, hun.closed, hun.counters, hun.mint,
      ?_, hun.index⟩
    rw [Desk.settle, if_pos hw]
    simp only [Bus.desk, conclude, hpending, hsettled, hpc]

/-- The settlement that a message brings about when delivery fails. -/
def orderOf (m : Message) (f : BusFault) : List (String × Reply) :=
  (m.awaited?.map fun c => (c, .error f)).toList

theorem settleMessage_atDesk (b : Bus H) (m : Message) (f : BusFault) :
    b.AtDesk (b.desk.settleAll (orderOf m f)) (b.settleMessage m f) := by
  unfold settleMessage orderOf
  split
  · next c hc => simpa [hc] using b.settle_atDesk c (.error f)
  · next hc => simpa [hc] using AtDesk.refl b

/-- Ending a request takes it off the desk. -/
theorem close_atDesk (b : Bus H) (c : String) : b.AtDesk (b.desk.close c) (b.close c) := by
  unfold close
  split
  · next h =>
    have hkeep : b.pending.filter (·.correlation ≠ c) = b.pending := by
      simpa [List.filter_eq_self] using h
    have hdesk : b.desk.close c = ⟨b.pending, b.settled.filter (·.1 ≠ c)⟩ := by
      simp only [Desk.close, Bus.desk, hkeep]
    rw [hdesk]
    exact { AtDesk.refl b with desk := rfl }
  · next p h =>
    have hun := unsubscribe_atDesk { b with pending := b.pending.filter (·.correlation ≠ c) }
      p.subscription
    obtain ⟨hpending, hsettled⟩ := Desk.mk.inj hun.desk
    refine ⟨hun.config, hun.hosted, hun.queue, hun.drainer, hun.closed, hun.counters, hun.mint,
      ?_, hun.index⟩
    simp only [Bus.desk, Desk.close, hpending, hsettled]

end Bus

end Switchboard
