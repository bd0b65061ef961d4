import Switchboard.Proofs.Bus.Ledger
import Switchboard.Proofs.Lists

/-
  The requests of a session.

  * `Session.orders` are the settlements of an act;
  * `CallStep` lists what an act can do to the requests, `callStep` says that
    the list is complete;
  * `InOrder`: no number and no identifier is used twice, no request is answered
    twice, and the desk knows exactly the requests that wait.  It holds after
    every run, `run_inOrder`.
-/

namespace Switchboard.Bus

variable {H : Type}

/-! ## What happens at the desk -/

theorem Subscribes.desk {b b' : Bus H} {listener : Listener H} (h : b.Subscribes listener b') :
    b'.desk = b.desk := by
  cases h <;> rfl

namespace Session

/-- The settlements of an act. -/
def orders (s : Session H) : Act H → List (String × Reply)
  | .turn => s.bus.handedOver ++ s.bus.verdicts (s.traffic .turn)
  | .sweep maxAge => s.bus.stale s.now maxAge
  | .shutdown => s.bus.dismissed
  | a => s.bus.verdicts (s.traffic a)

/-- What an act can do to the requests. -/
inductive CallStep (s : Session H) : Act H → Session H → Prop
  | settled (a s') : s'.calls = s.calls → s'.bus.desk = s.bus.desk.settleAll (s.orders a) →
      CallStep s a s'
  | begun (topic payload o s') :
      (s.bus.openRequest s.now topic payload o).1 = .ok (s.bus.ticket s.now topic o) →
      s'.calls = s.calls.begin (s.bus.ticket s.now topic o) →
      s'.bus.desk = (s.bus.desk.enter (s.bus.entry s.now topic)).settleAll
        (s.orders (.request topic payload o)) →
      s.bus.mint.advance.Reaches s'.bus.mint → CallStep s (.request topic payload o) s'
  | refused (topic payload o f s') : (s.bus.openRequest s.now topic payload o).1 = .error f →
      s'.calls = s.calls.refuse f →
      s'.bus.desk = s.bus.desk ∨ s'.bus.desk = s.bus.desk.close s.bus.mint.take.1 →
      CallStep s (.request topic payload o) s'
  | answered (n t r s') : s.calls.waiting.lookup n = some t →
      (s.bus.attend s.now t).1 = some r → s'.calls = s.calls.answer n r →
      s'.bus.desk = s.bus.desk.close t.correlation → CallStep s (.attend n) s'
  | dropped (n t s') : s.calls.waiting.lookup n = some t → s'.calls = s.calls.drop n →
      s'.bus.desk = s.bus.desk.close t.correlation → CallStep s (.drop n) s'

theorem callStep_request (s : Session H) (topic : String) (payload : Json) (o : RequestOptions) :
    CallStep s (.request topic payload o) (s.step (.request topic payload o)) := by
  have h := s.bus.openRequest_opens s.now topic payload o
  rcases hopen : s.bus.openRequest s.now topic payload o with ⟨r, b⟩
  rw [hopen] at h
  generalize ht : s.bus.requestTraffic s.now topic payload o = t at h
  cases h with
  | refused f mint =>
    exact .refused topic payload o f _ (by rw [hopen]) (by simp only [step, hopen])
      (Or.inl (by simp only [step, hopen]; rfl))
  | unpublished pattern f =>
    refine .refused topic payload o f _ (by rw [hopen]) (by simp only [step, hopen]) (Or.inr ?_)
    have hclose := (s.bus.asking s.now topic pattern).close_atDesk s.bus.mint.take.1
    simp only [step, hopen]
    exact hclose.desk.trans (Desk.close_enter s.bus.desk (s.bus.entry s.now topic))
  | opened pattern =>
    have he := (s.bus.asking s.now topic pattern).publish_effect s.now topic payload
      (o.toPublish s.bus.mint.take.1 s.bus.replyTopic)
    refine .begun topic payload o _ (by rw [hopen]) (by simp only [step, hopen]) ?_ ?_
    · simp only [step, hopen]
      refine he.desk.trans ?_
      change _ = Desk.settleAll _ (s.bus.verdicts (s.bus.requestTraffic s.now topic payload o))
      rw [ht]
      rfl
    · simp only [step, hopen]
      have hreach := s.bus.mint.advance.reaches_advance.trans
        s.bus.mint.advance.advance.reaches_advance
      exact hreach.trans he.mint

theorem callStep_attend (s : Session H) (n : Nat) : CallStep s (.attend n) (s.step (.attend n)) := by
  rcases hn : s.calls.waiting.lookup n with _ | t
  · have hstep : s.step (.attend n) = s := by simp only [step, hn]
    rw [hstep]
    exact .settled _ _ rfl rfl
  rcases ht : s.bus.attend s.now t with ⟨_ | r, b⟩
  · have hb : b = s.bus := by
      rcases s.bus.attend_cases s.now t with ⟨r, -, h⟩ | ⟨-, -, h⟩ | ⟨-, -, -, h⟩ | ⟨-, -, h⟩ <;>
        rw [h] at ht <;> cases ht
      rfl
    have hstep : s.step (.attend n) = s := by simp only [step, hn, ht, hb]
    rw [hstep]
    exact .settled _ _ rfl rfl
  · have hdesk : b.desk = s.bus.desk.close t.correlation := by
      rcases s.bus.attend_cases s.now t with ⟨r, -, h⟩ | ⟨-, -, h⟩ | ⟨-, -, -, h⟩ | ⟨-, -, h⟩ <;>
        rw [h] at ht <;> cases ht
      · exact (s.bus.close_atDesk _).desk
      · exact (s.bus.close_atDesk _).desk
      · exact (close_atDesk _ _).desk
    exact .answered n t r _ hn (by rw [ht]) (by simp only [step, hn, ht])
      (by simp only [step, hn, ht]; exact hdesk)

theorem callStep (s : Session H) (a : Act H) : CallStep s a (s.step a) := by
  cases a with
  | subscribe topic handler metadata =>
    exact .settled _ _ rfl (s.bus.subscribe_subscribes ..).desk
  | subscribePattern pattern handler metadata =>
    exact .settled _ _ rfl (s.bus.subscribePattern_subscribes ..).desk
  | serve topic handler metadata => exact .settled _ _ rfl (s.bus.subscribe_subscribes ..).desk
  | unsubscribe id => exact .settled _ _ rfl (s.bus.unsubscribe_atDesk id).desk
  | unsubscribePlugin plugin => exact .settled _ _ rfl (s.bus.unsubscribePlugin_atDesk plugin).desk
  | publish topic payload o => exact .settled _ _ rfl (s.bus.publish_effect ..).desk
  | request topic payload o => exact callStep_request s topic payload o
  | attend n => exact callStep_attend s n
  | drop n =>
    rcases hn : s.calls.waiting.lookup n with _ | t
    · have hstep : s.step (.drop n) = s := by simp only [step, hn]
      rw [hstep]
      exact .settled _ _ rfl rfl
    · exact .dropped n t _ hn (by simp only [step, hn])
        (by simp only [step, hn]; exact (s.bus.close_atDesk _).desk)
  | sweep maxAge => exact .settled _ _ rfl (s.bus.sweepStale_effect s.now maxAge).desk
  | shutdown => exact .settled _ _ rfl s.bus.shutdown_effect.desk
  | turn =>
    refine .settled _ _ ?_ ?_
    · rcases h : s.bus.drainer with _ | _ | pass <;> simp only [step, h]
    · rw [step_turn_bus]
      exact (s.bus.turn_turns s.now).effect.desk
  | finish ending => exact .settled _ _ rfl (s.bus.finish_finishes s.now ending).effect.desk
  | wait ms => exact .settled _ _ rfl rfl
  | host present => exact .settled _ _ rfl rfl

/-! ## Requests in order -/

/-- No number and no identifier is used twice, no request is answered twice,
    and the desk knows exactly the requests that wait. -/
structure InOrder (k : Calls) (d : Desk) (mint : Mint) : Prop where
  numbers : (k.opened.map (·.1)).Nodup
  made : ∀ x ∈ k.opened, x.1 < k.made
  correlations : (k.opened.map (·.2.correlation)).Nodup
  messages : (k.opened.map (·.2.message)).Nodup
  issued : ∀ x ∈ k.opened, mint.Issued x.2.correlation ∧ mint.Issued x.2.message
  waiting : k.waiting.Sublist k.opened
  answered : ∀ x ∈ k.answers, x.1 < k.made ∧ ∀ y ∈ k.waiting, x.1 ≠ y.1
  once : (k.answers.map (·.1)).Nodup
  keys : d.keys.Perm (k.waiting.map (·.2.correlation))

namespace InOrder

variable {k : Calls} {d : Desk} {mint mint' : Mint}

theorem nodup_waiting (h : InOrder k d mint) : (k.waiting.map (·.2.correlation)).Nodup :=
  h.correlations.sublist (h.waiting.map _)

theorem nodup_keys (h : InOrder k d mint) : d.keys.Nodup := h.keys.nodup_iff.2 h.nodup_waiting

/-- Requests with the same correlation id are the same. -/
theorem eq_of_correlation (h : InOrder k d mint) {x y : Nat × Ticket} (hx : x ∈ k.opened)
    (hy : y ∈ k.opened) (hxy : x.2.correlation = y.2.correlation) : x = y :=
  List.inj_on_of_nodup_map h.correlations hx hy hxy

theorem eq_of_number (h : InOrder k d mint) {x y : Nat × Ticket} (hx : x ∈ k.opened)
    (hy : y ∈ k.opened) (hxy : x.1 = y.1) : x = y :=
  List.inj_on_of_nodup_map h.numbers hx hy hxy

theorem reaches (h : InOrder k d mint) (hm : mint.Reaches mint') : InOrder k d mint' :=
  { h with issued := fun x hx => ⟨hm.issued (h.issued x hx).1, hm.issued (h.issued x hx).2⟩ }

theorem settleAll (h : InOrder k d mint) (os : List (String × Reply)) :
    InOrder k (d.settleAll os) mint :=
  { h with keys := (Desk.keys_settleAll h.nodup_keys os).trans h.keys }

/-- A request that is known is one that was opened. -/
theorem issued_of_mem_keys (h : InOrder k d mint) {c : String} (hc : c ∈ d.keys) :
    mint.Issued c := by
  obtain ⟨x, hx, rfl⟩ := List.mem_map.1 (h.keys.mem_iff.1 hc)
  exact (h.issued x (h.waiting.subset hx)).1

/-- A request with new identifiers is opened. -/
theorem begin (h : InOrder k d mint) {t : Ticket} {e : Pending} (he : e.correlation = t.correlation)
    (hc : ¬ mint.Issued t.correlation) (hm : ¬ mint.Issued t.message)
    (hreach : mint.Reaches mint') (hc' : mint'.Issued t.correlation)
    (hm' : mint'.Issued t.message) : InOrder (k.begin t) (d.enter e) mint' where
  numbers := List.nodup_map_concat h.numbers fun x hx => Nat.ne_of_lt (h.made x hx)
  made x hx := by
    rcases List.mem_append.1 hx with hx | hx
    · exact Nat.lt_succ_of_lt (h.made x hx)
    · rw [List.mem_singleton.1 hx]
      exact Nat.lt_succ_self _
  correlations := List.nodup_map_concat h.correlations fun x hx heq => hc (heq ▸ (h.issued x hx).1)
  messages := List.nodup_map_concat h.messages fun x hx heq => hm (heq ▸ (h.issued x hx).2)
  issued x hx := by
    rcases List.mem_append.1 hx with hx | hx
    · exact ⟨hreach.issued (h.issued x hx).1, hreach.issued (h.issued x hx).2⟩
    · rw [List.mem_singleton.1 hx]
      exact ⟨hc', hm'⟩
  waiting := h.waiting.append (List.Sublist.refl _)
  answered x hx := by
    obtain ⟨hlt, hne⟩ := h.answered x hx
    refine ⟨Nat.lt_succ_of_lt hlt, fun y hy => ?_⟩
    rcases List.mem_append.1 hy with hy | hy
    · exact hne y hy
    · rw [List.mem_singleton.1 hy]
      exact Nat.ne_of_lt hlt
  once := h.once
  keys := by
    refine (Desk.keys_enter d e).trans ?_
    simp only [Calls.begin, List.map_append, List.map_cons, List.map_nil, he]
    exact h.keys.append_right _

/-- A request is refused. -/
theorem refuse (h : InOrder k d mint) (f : BusFault) : InOrder (k.refuse f) d mint :=
  { h with
    made := fun x hx => Nat.lt_succ_of_lt (h.made x hx)
    answered := fun x hx => by
      rcases List.mem_append.1 hx with hx | hx
      · exact ⟨Nat.lt_succ_of_lt (h.answered x hx).1, (h.answered x hx).2⟩
      · rw [List.mem_singleton.1 hx]
        exact ⟨Nat.lt_succ_self _, fun y hy => (Nat.ne_of_lt (h.made y (h.waiting.subset hy))).symm⟩
    once := List.nodup_map_concat h.once fun x hx => Nat.ne_of_lt (h.answered x hx).1 }

/-- A request is given up. -/
theorem drop (h : InOrder k d mint) {n : Nat} {t : Ticket} (hn : (n, t) ∈ k.waiting) :
    InOrder (k.drop n) (d.close t.correlation) mint :=
  { h with
    waiting := List.filter_sublist.trans h.waiting
    answered := fun x hx => ⟨(h.answered x hx).1, fun y hy =>
      (h.answered x hx).2 y (List.mem_filter.1 hy).1⟩
    keys := by
      have hopened := h.waiting.subset hn
      have hsame : k.waiting.filter (·.2.correlation ≠ t.correlation) =
          k.waiting.filter (·.1 ≠ n) := by
        refine List.filter_congr fun x hx => ?_
        have hx' := h.waiting.subset hx
        simp only [decide_eq_decide, not_iff_not, ne_eq]
        constructor
        · intro heq
          rw [h.eq_of_correlation hx' hopened heq]
        · intro heq
          rw [h.eq_of_number hx' hopened heq]
      rw [Desk.keys_close, Calls.drop, ← hsame]
      have hfilter := h.keys.filter (· ≠ t.correlation)
      rw [List.filter_map] at hfilter
      exact hfilter }

/-- A request that waits gets its result. -/
theorem answer (h : InOrder k d mint) {n : Nat} {t : Ticket} (hn : (n, t) ∈ k.waiting) (r : Reply) :
    InOrder (k.answer n r) (d.close t.correlation) mint :=
  { h.drop hn with
    answered := fun x hx => by
      rcases List.mem_append.1 hx with hx | hx
      · exact (h.drop hn).answered x hx
      · rw [List.mem_singleton.1 hx]
        refine ⟨h.made _ (h.waiting.subset hn), fun y hy => ?_⟩
        exact fun heq => by simpa [← heq] using (List.mem_filter.1 hy).2
    once := List.nodup_map_concat h.once fun x hx => (h.answered x hx).2 _ hn }

end InOrder

/-- The message of a request that is opened. -/
theorem request_entered {s : Session H} {topic : String} {payload : Json} {o : RequestOptions}
    {t : Ticket} (h : (s.bus.openRequest s.now topic payload o).1 = .ok t) :
    (s.traffic (.request topic payload o)).entered =
      [s.bus.draft t.message topic payload (o.toPublish t.correlation t.replyTopic) s.now] := by
  simp only [traffic, requestTraffic, h]

/-- **One act** keeps the requests in order. -/
theorem step_inOrder {s : Session H} (h : InOrder s.calls s.bus.desk s.bus.mint) (a : Act H) :
    InOrder (s.step a).calls (s.step a).bus.desk (s.step a).bus.mint := by
  have haccounts := s.step_accounts a
  have hstep := callStep s a
  generalize s.step a = s' at haccounts hstep
  cases hstep with
  | settled a s' hcalls hdesk =>
    rw [hcalls, hdesk]
    exact (h.settleAll _).reaches haccounts.mint
  | begun topic payload o s' hopen hcalls hdesk hreach =>
    have hfresh := haccounts.fresh _ (request_entered hopen ▸ List.mem_singleton_self _)
    rw [hcalls, hdesk]
    exact (h.begin (e := s.bus.entry s.now topic) rfl s.bus.mint.not_issued_take hfresh.1
      haccounts.mint (hreach.issued s.bus.mint.issued_take) hfresh.2).settleAll _
  | refused topic payload o f s' _ hcalls hdesk =>
    have hclose : s.bus.desk.close s.bus.mint.take.1 = s.bus.desk :=
      Desk.close_of_notMem fun hc => s.bus.mint.not_issued_take (h.issued_of_mem_keys hc)
    rw [hclose, or_self] at hdesk
    rw [hcalls, hdesk]
    exact (h.refuse f).reaches haccounts.mint
  | answered n t r s' hn _ hcalls hdesk =>
    rw [hcalls, hdesk]
    exact (h.answer (List.mem_of_lookup hn) r).reaches haccounts.mint
  | dropped n t s' hn hcalls hdesk =>
    rw [hcalls, hdesk]
    exact (h.drop (List.mem_of_lookup hn)).reaches haccounts.mint

theorem start_inOrder (config : BusConfig) (hosted : Bool) :
    InOrder (start config hosted : Session H).calls (start config hosted : Session H).bus.desk
      (start config hosted : Session H).bus.mint where
  numbers := List.nodup_nil
  made := by simp [start]
  correlations := List.nodup_nil
  messages := List.nodup_nil
  issued := by simp [start]
  waiting := List.Sublist.refl _
  answered := by simp [start]
  once := List.nodup_nil
  keys := List.Perm.refl _

theorem run_inOrder (config : BusConfig) (hosted : Bool) (acts : List (Act H)) :
    InOrder ((start config hosted).run acts).calls ((start config hosted).run acts).bus.desk
      ((start config hosted).run acts).bus.mint :=
  run_induction (P := fun _ s => InOrder s.calls s.bus.desk s.bus.mint) (start_inOrder config hosted)
    (fun _ a h => step_inOrder h a) acts

end Session

end Switchboard.Bus
