import Switchboard.Proofs.Plugin.Revocation

/-
  Contexts, and the subscriptions that were made through them.

  A context keeps the ids of its subscriptions, the bus tags them with the name
  of the plugin, and neither knows of the other: a subscription can go without
  the context, and an id can be unsubscribed after its subscription has gone.
  What holds is that the two accounts never contradict each other.

  * `Becomes`: what an act makes of a context, and `step_becomes` says that the
    list is complete;
  * `Returned`: a call through a context was answered with an id;
  * `Tracked`: a context keeps nothing but such ids, and all of those whose
    subscriptions are live, which are tagged with its plugin;
  * `Tracked.step`, `run_tracked`: so it is for every context, after every run.
-/

namespace Switchboard.Registry.Session

variable {H : Type}

/-! ## One act -/

/-- What an act makes of the `n`-th context. -/
inductive Becomes (s : Session H) (n : Nat) (a : Act H) : Option Handle → Prop
  /-- no call is made through it -/
  | same : (∀ call hd, a = .call n call → s.handles[n]? ≠ some hd) → Becomes s n a s.handles[n]?
  /-- it is handed out -/
  | granted (hd) : s.handles[n]? = none → hd.context.owned = [] → Becomes s n a (some hd)
  | called (call hd x services) : a = .call n call → s.handles[n]? = some hd →
      hd.context.Performs s.services call (s.answer hd call, x, services) →
      (s.step a).bus.bus = services.bus → Becomes s n a (some { hd with context := x })

/-- A context is handed out behind the others. -/
theorem grant_becomes (s : Session H) (n : Nat) {a : Act H} {hd : Handle}
    (hcall : ∀ call, a ≠ .call n call) (howned : hd.context.owned = []) :
    s.Becomes n a (s.handles ++ [hd])[n]? := by
  rcases Nat.lt_trichotomy n s.handles.length with hlt | rfl | hgt
  · rw [List.getElem?_append_left hlt]
    exact .same fun call _ ha => absurd ha (hcall call)
  · rw [List.getElem?_concat_length]
    exact .granted hd (List.getElem?_eq_none (Nat.le_refl _)) howned
  · have hnone : (s.handles ++ [hd])[n]? = s.handles[n]? := by
      rw [List.getElem?_append_right (Nat.le_of_lt hgt), List.getElem?_eq_none (Nat.le_of_lt hgt)]
      exact List.getElem?_eq_none (Nat.sub_pos_of_lt hgt)
    rw [hnone]
    exact .same fun call _ ha => absurd ha (hcall call)

/-- A context that is handed out has no subscriptions yet. -/
theorem owned_of_load {r : Registry} {m : Manifest} {context : PluginContext}
    (h : (r.load m).1 = .ok context) : context.owned = [] := by
  have hloads := r.load_loads m
  generalize r.load m = result at hloads h
  cases hloads with
  | loadedBefore | unreadable => cases h
  | loaded guard =>
    cases h
    rfl

theorem step_becomes (s : Session H) (n : Nat) (a : Act H) :
    s.Becomes n a (s.step a).handles[n]? := by
  have hsame {a : Act H} (hcall : ∀ call, a ≠ .call n call) : s.Becomes n a s.handles[n]? :=
    .same fun call _ ha => absurd ha (hcall call)
  cases a with
  | load m =>
    simp only [step]
    split
    · exact hsame (by simp)
    · next heq =>
      exact s.grant_becomes n (by simp) (owned_of_load (congrArg Prod.fst heq))
  | reload m =>
    simp only [step]
    split
    · exact hsame (by simp)
    · next heq =>
      exact s.grant_becomes n (by simp) (owned_of_load (congrArg Prod.fst heq))
  | call m call =>
    rcases hm : s.handles[m]? with _ | hd
    · have hstep : (s.step (.call m call)).handles = s.handles := by simp only [step, hm]
      rw [hstep]
      refine .same fun call' hd' ha => ?_
      obtain ⟨rfl, -⟩ := Act.call.inj ha
      simp [hm]
    · obtain ⟨x, services, hperforms, hbus, hhandles⟩ := step_call hm call
      rw [hhandles]
      by_cases hmn : m = n
      · subst hmn
        obtain ⟨hlt, -⟩ := List.getElem?_eq_some_iff.1 hm
        rw [List.getElem?_set_self hlt]
        exact .called call hd x services rfl hm hperforms hbus
      · rw [List.getElem?_set_ne hmn]
        exact .same fun call' hd' ha => absurd (Act.call.inj ha).1 hmn
  | poll id _ | abandon id =>
    simp only [step]
    split
    · exact hsame (by simp)
    · exact hsame (by simp)
  | unload | bus | hub => exact hsame (by simp)

/-! ## Ids -/

/-- A call through the `n`-th context was answered with the id of a new
    subscription. -/
def Returned (log : List (Session H × Act H)) (n : Nat) (id : String) : Prop :=
  ∃ s call hd, (s, .call n call) ∈ log ∧ s.handles[n]? = some hd ∧
    s.answer hd call = .ok (.subscribed id)

theorem returned_concat {log : List (Session H × Act H)} {s : Session H} {a : Act H} {n : Nat}
    {id : String} : Returned (log ++ [(s, a)]) n id ↔
      Returned log n id ∨ ∃ call hd, a = .call n call ∧ s.handles[n]? = some hd ∧
        s.answer hd call = .ok (.subscribed id) := by
  constructor
  · rintro ⟨s', call, hd, hmem, hn, hanswer⟩
    rcases List.mem_append.1 hmem with hmem | hmem
    · exact Or.inl ⟨s', call, hd, hmem, hn, hanswer⟩
    · obtain ⟨rfl, rfl⟩ := Prod.mk.inj (List.mem_singleton.1 hmem)
      exact Or.inr ⟨call, hd, rfl, hn, hanswer⟩
  · rintro (⟨s', call, hd, hmem, hn, hanswer⟩ | ⟨call, hd, rfl, hn, hanswer⟩)
    · exact ⟨s', call, hd, List.mem_append_left _ hmem, hn, hanswer⟩
    · exact ⟨s, call, hd, List.mem_concat_self, hn, hanswer⟩

/-- What a context keeps are ids that were returned through it; and what was
    returned through it and is live, it keeps, and the subscription is tagged with
    its plugin. -/
structure Tracked (n : Nat) (log : List (Session H × Act H)) (s : Session H) : Prop where
  returned : ∀ hd, s.handles[n]? = some hd → ∀ id ∈ hd.context.owned, Returned log n id
  issued : ∀ id, Returned log n id → s.bus.bus.mint.Issued id
  live : ∀ id, Returned log n id → ∀ sub ∈ s.bus.bus.index.entries, sub.id = id →
    ∃ hd, s.handles[n]? = some hd ∧ id ∈ hd.context.owned ∧
      sub.isOwnedBy hd.context.plugin = true

section Steps

variable {n : Nat} {log : List (Session H × Act H)} {s : Session H} {a : Act H}
  {live : List (Subscription (Listener H))}

/-- What a context keeps after a call, it has kept before, or it is the answer. -/
theorem owned_of_performs {x x' : PluginContext} {services services' : Services H}
    {call : PluginCall H} {r : PluginResult} (h : x.Performs services call (r, x', services'))
    {id : String} (hid : id ∈ x'.owned) : id ∈ x.owned ∨ r = .ok (.subscribed id) := by
  cases h with
  | denied => exact Or.inl hid
  | made _ _ hdeed =>
    cases hdeed with
    | refused | published | foreign | called => exact Or.inl hid
    | subscribed =>
      refine (List.mem_append.1 hid).imp_right fun hnew => ?_
      rw [List.mem_singleton.1 hnew]
    | unsubscribed id' => exact Or.inl (List.mem_filter.1 hid).1

/-- A context forgets an id when its subscription has gone. -/
theorem performs_owned {x x' : PluginContext} {services services' : Services H}
    {call : PluginCall H} {r : PluginResult} (h : x.Performs services call (r, x', services'))
    (hshelved : Bus.Shelved services.bus live) {sub : Subscription (Listener H)}
    (hsub : sub ∈ services'.bus.index.entries) (hid : sub.id ∈ x.owned) : sub.id ∈ x'.owned := by
  cases h with
  | denied => exact hid
  | made _ _ hdeed =>
    cases hdeed with
    | refused | published | foreign | called => exact hid
    | subscribed => exact List.mem_append_left _ hid
    | unsubscribed id' =>
      have hleft := (hshelved.unsubscribe id').2.index.entries_perm.mem_iff.1 hsub
      exact List.mem_filter.2 ⟨hid, (List.mem_filter.1 hleft).2⟩

/-- What a call answers is kept, is tagged, and has taken a new id. -/
theorem performs_subscribed {x x' : PluginContext} {services services' : Services H}
    {call : PluginCall H} {id : String}
    (h : x.Performs services call (.ok (.subscribed id), x', services'))
    (hshelved : Bus.Shelved services.bus live) :
    id ∈ x'.owned ∧ services'.bus.mint.Issued id ∧
      ∀ sub ∈ services'.bus.index.entries, sub.id = id → sub.isOwnedBy x.plugin = true := by
  cases h with
  | made _ _ hdeed =>
    cases hdeed with
    | subscribed call name p listener hname hparse =>
      let made : Subscription (Listener H) := ⟨services.bus.mint.take.1, p, listener, x.metadata⟩
      have henrolled : Bus.Shelved (services.bus.enrol made) (live ++ [made]) :=
        hshelved.add (Pattern.parsed_of_parse hparse) (Mint.not_issued_take _) rfl rfl
          (Mint.reaches_advance _) (Mint.issued_take _)
      refine ⟨List.mem_concat_self, Mint.issued_take _, ?_⟩
      intro sub hsub hid
      have hlive := henrolled.index.entries_perm.mem_iff.1 hsub
      rw [henrolled.eq_of_id hlive List.mem_concat_self hid]
      exact beq_self_eq_true _

/-- A subscription whose id had been handed out before an act was there before. -/
theorem mem_of_issued (hshelved : Bus.Shelved s.bus.bus live)
    {sub : Subscription (Listener H)} (hsub : sub ∈ (s.step a).bus.bus.index.entries)
    (hissued : s.bus.bus.mint.Issued sub.id) : sub ∈ s.bus.bus.index.entries := by
  obtain ⟨-, live', hshelved', hstems⟩ := step_stems hshelved.stems a
  rcases hstems sub (hshelved'.index.entries_perm.mem_iff.1 hsub) with hlive | hnew
  · exact hshelved.index.entries_perm.mem_iff.2 hlive
  · exact absurd hissued hnew

/-- What a context keeps after an act was returned through it. -/
theorem Tracked.step_returned (h : Tracked n log s) {hd : Handle}
    (hn : (s.step a).handles[n]? = some hd) {id : String} (hid : id ∈ hd.context.owned) :
    Returned (log ++ [(s, a)]) n id := by
  have hbecomes := s.step_becomes n a
  rw [hn] at hbecomes
  generalize hnext : some hd = next at hbecomes
  cases hbecomes with
  | same => exact returned_concat.2 (Or.inl (h.returned hd hnext.symm id hid))
  | granted _ _ howned =>
    cases hnext
    simp [howned] at hid
  | called call hd' x services ha hn' hperforms =>
    cases hnext
    rcases owned_of_performs hperforms hid with hid | hanswer
    · exact returned_concat.2 (Or.inl (h.returned hd' hn' id hid))
    · exact returned_concat.2 (Or.inr ⟨call, hd', ha, hn', hanswer⟩)

/-- A context goes on keeping what is live, and goes on being that of its plugin. -/
theorem step_keeps (hshelved : Bus.Shelved s.bus.bus live) {hd : Handle}
    (hn : s.handles[n]? = some hd) {sub : Subscription (Listener H)}
    (hsub : sub ∈ (s.step a).bus.bus.index.entries) (hid : sub.id ∈ hd.context.owned) :
    ∃ hd', (s.step a).handles[n]? = some hd' ∧ sub.id ∈ hd'.context.owned ∧
      hd'.context.plugin = hd.context.plugin := by
  have hbecomes := s.step_becomes n a
  generalize (s.step a).handles[n]? = next at hbecomes
  cases hbecomes with
  | same => exact ⟨hd, hn, hid, rfl⟩
  | granted hd' hnone =>
    rw [hnone] at hn
    cases hn
  | called call hd' x services ha hn' hperforms hbus =>
    obtain rfl : hd' = hd := Option.some.inj (hn'.symm.trans hn)
    rw [hbus] at hsub
    exact ⟨_, rfl, performs_owned hperforms hshelved hsub hid, hperforms.keeps.2⟩

/-- **One act** keeps the accounts of a context. -/
theorem Tracked.step (h : Tracked n log s) (hshelved : Bus.Shelved s.bus.bus live) (a : Act H) :
    Tracked n (log ++ [(s, a)]) (s.step a) where
  returned hd hn id hid := h.step_returned hn hid
  issued id hid := by
    rcases returned_concat.1 hid with hid | ⟨call, hd, rfl, hn, hanswer⟩
    · exact (step_stems hshelved.stems a).later.issued (h.issued id hid)
    · obtain ⟨x, services, hperforms, hbus, -⟩ := step_call hn call
      rw [hanswer] at hperforms
      rw [hbus]
      exact (performs_subscribed hperforms hshelved).2.1
  live id hid sub hsub heq := by
    subst heq
    rcases returned_concat.1 hid with hid | ⟨call, hd, rfl, hn, hanswer⟩
    · -- the id is old, so the subscription was there before the act
      obtain ⟨hd, hn, howned, htagged⟩ :=
        h.live _ hid sub (mem_of_issued hshelved hsub (h.issued _ hid)) rfl
      obtain ⟨hd', hn', howned', hplugin⟩ := step_keeps hshelved hn hsub howned
      exact ⟨hd', hn', howned', hplugin ▸ htagged⟩
    · obtain ⟨x, services, hperforms, hbus, hhandles⟩ := step_call hn call
      obtain ⟨hlt, -⟩ := List.getElem?_eq_some_iff.1 hn
      rw [hanswer] at hperforms
      rw [hbus] at hsub
      obtain ⟨howned, -, htagged⟩ := performs_subscribed hperforms hshelved
      refine ⟨{ hd with context := x }, by rw [hhandles, List.getElem?_set_self hlt], howned, ?_⟩
      rw [hperforms.keeps.2]
      exact htagged sub hsub rfl

end Steps

/-! ## Runs -/

/-- **The accounts of every context** are in order after every run, if the
    contexts had no subscriptions at the beginning. -/
theorem run_tracked {s : Session H} (hempty : Bus.Shelved s.bus.bus [])
    (howned : ∀ hd ∈ s.handles, hd.context.owned = []) (n : Nat) (acts : List (Act H)) :
    Tracked n (s.trace acts) (s.run acts) := by
  have hstart : Tracked n [] s ∧ Bus.Stems [] s.bus.bus.mint s.bus.bus := by
    refine ⟨⟨?_, ?_, ?_⟩, hempty.stems⟩
    · intro hd hn id hid
      simp [howned hd (List.mem_of_getElem? hn)] at hid
    · rintro id ⟨_, _, _, hmem, -⟩
      cases hmem
    · rintro id ⟨_, _, _, hmem, -⟩
      cases hmem
  refine (run_induction (P := fun log s' => Tracked n log s' ∧
    Bus.Stems [] s.bus.bus.mint s'.bus.bus) hstart (fun log s' a h => ?_) acts).1
  obtain ⟨htracked, hstems⟩ := h
  obtain ⟨live, hshelved, -⟩ := hstems.shelved
  exact ⟨htracked.step hshelved a, step_stems hstems a⟩

end Switchboard.Registry.Session
