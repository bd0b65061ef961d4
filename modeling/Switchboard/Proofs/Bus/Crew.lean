import Switchboard.Proofs.Bus.Beside
import Switchboard.Proofs.Bus.Effort
import Switchboard.Proofs.Bus.Order

/-
  The crew of a bus — the tasks that empty its queue, and the flag that keeps
  them apart.

  Whoever has queued a message asks for a task: unless the flag is up, it is
  raised and a task is started.  A task takes one message after the other; when
  the queue is empty it lowers the flag, looks once more, and goes on only if it
  sees a message and is the one to raise the flag again.

  * `Stage` is where a task stands, `Crew` holds any number of tasks beside the
    flag, and `Motion` lists what can happen, one access to flag or queue at a
    time, in any order;
  * `Sound`: the flag is up exactly while one task owns it, and a queue that is
    not empty has somebody who will see to it; `run_sound`;
  * `Shows`: the drainer of a session is the crew whose tasks are not interrupted
    between two such accesses; `run_shows`;
  * `one_drainer` says what follows where every task has come to a halt.
-/

namespace Switchboard.Bus

variable {H : Type}

/-! ## Tasks -/

/-- Where a task stands. -/
inductive Stage (H : Type) where
  /-- it was started and has not run yet -/
  | spawned
  /-- it is to take the next message -/
  | taking
  | delivering (pass : Pass H)
  /-- it has found the queue empty, and is to lower the flag -/
  | leaving
  /-- it has lowered the flag, and is to look at the queue once more -/
  | looking
  /-- it has seen a message there, and is to raise the flag -/
  | returning

namespace Stage

/-- The drainer that a task is while it works. -/
def drainer? : Stage H → Option (Drainer H)
  | spawned | taking => some .ready
  | delivering pass => some (.delivering pass)
  | leaving | looking | returning => none

/-- Where a task stands after a step of its work. -/
def ofDrainer : Drainer H → Stage H
  | .idle => leaving
  | .ready => taking
  | .delivering pass => delivering pass

/-- Whether the flag is up because of the task. -/
def owns : Stage H → Bool
  | looking | returning => false
  | _ => true

def delivers : Stage H → Bool
  | delivering _ => true
  | _ => false

/-- Whether a task stands where others may run: it has not begun, or waits for a
    handler. -/
def halts : Stage H → Bool
  | spawned => true
  | delivering pass => pass.running.isSome
  | _ => false

theorem owns_of_drainer? {t : Stage H} {d : Drainer H} (h : t.drainer? = some d) :
    t.owns = true := by
  cases t with
  | looking => cases h
  | returning => cases h
  | _ => rfl

@[simp] theorem owns_ofDrainer (d : Drainer H) : (ofDrainer d).owns = true := by
  cases d <;> rfl

theorem owns_of_delivers {t : Stage H} (h : t.delivers = true) : t.owns = true := by
  cases t with
  | delivering => rfl
  | _ => cases h

theorem owns_of_halts {t : Stage H} (h : t.halts = true) : t.owns = true := by
  cases t with
  | spawned => rfl
  | delivering => rfl
  | _ => cases h

end Stage

/-! ## The crew -/

/-- A bus with its flag and its tasks.  Its own drainer is idle: tasks take its
    place while they work. -/
structure Crew (H : Type) where
  session : Session H
  /-- whether the queue is owned by a task -/
  flag : Bool := false
  tasks : List (Stage H) := []
  /-- those who have queued a message and are still to ask for a task -/
  askers : Nat := 0

/-- What can happen to a crew. -/
inductive Motion (H : Type) where
  /-- an act that is not a task's -/
  | act (a : Act H)
  /-- one of those who have queued a message asks for a task -/
  | ask
  /-- a task takes a message, or goes on with a delivery -/
  | turn (task : Nat)
  /-- the handler ends that a task waits for -/
  | finish (task : Nat) (ending : Ending)
  /-- a task that has found the queue empty lowers the flag, looks again or
      returns -/
  | leave (task : Nat)

namespace Crew

/-- The crew at the beginning. -/
def start (config : BusConfig) (hosted : Bool) : Crew H := { session := .start config hosted }

/-- The crew with a task in another stage, or without it. -/
def put (c : Crew H) (i : Nat) (t : Option (Stage H)) : Crew H :=
  { c with tasks := c.tasks.take i ++ t.toList ++ c.tasks.drop (i + 1) }

def act (c : Crew H) (a : Act H) : Crew H :=
  let s := c.session.step a
  { c with session := s.withDrainer .idle, askers := c.askers + s.bus.isDraining.toNat }

def ask (c : Crew H) : Crew H :=
  match c.askers with
  | 0 => c
  | n + 1 =>
    if c.flag then { c with askers := n }
    else { c with askers := n, flag := true, tasks := c.tasks ++ [.spawned] }

/-- A task does a step of its work.  The answer of a responder is published like
    any other message. -/
def work (c : Crew H) (i : Nat) (a : Act H) : Crew H :=
  match c.tasks[i]?.bind Stage.drainer? with
  | none => c
  | some d =>
    let s := c.session.withDrainer d
    let s' := s.step a
    { c.put i (some (.ofDrainer s'.bus.drainer)) with
      session := s'.withDrainer .idle
      askers := c.askers + (!(s.traffic a).entered.isEmpty).toNat }

/-- The handler ends that a task waits for. -/
def finish (c : Crew H) (i : Nat) (ending : Ending) : Crew H :=
  if c.tasks[i]?.any Stage.delivers then c.work i (.finish ending) else c

def leave (c : Crew H) (i : Nat) : Crew H :=
  match c.tasks[i]? with
  | some .leaving => { c.put i (some .looking) with flag := false }
  | some .looking => c.put i (if c.session.bus.queue.isEmpty then none else some .returning)
  | some .returning =>
    if c.flag then c.put i none else { c.put i (some .taking) with flag := true }
  | _ => c

/-- Lets something happen. -/
def step (c : Crew H) : Motion H → Crew H
  | .act a => c.act a
  | .ask => c.ask
  | .turn i => c.work i .turn
  | .finish i ending => c.finish i ending
  | .leave i => c.leave i

/-- Lets a list of things happen. -/
def run (c : Crew H) (ms : List (Motion H)) : Crew H := ms.foldl step c

/-- Whether nothing is queued or being delivered, as the bus tells it. -/
def isIdle (c : Crew H) : Bool := !c.flag && c.session.bus.queue.isEmpty

theorem run_concat (c : Crew H) (ms : List (Motion H)) (m : Motion H) :
    c.run (ms ++ [m]) = (c.run ms).step m := by
  rw [run, List.foldl_concat]
  rfl

theorem run_append (c : Crew H) (ms ms' : List (Motion H)) :
    c.run (ms ++ ms') = (c.run ms).run ms' := List.foldl_append

/-! ## Who owns the flag -/

theorem tasks_eq {c : Crew H} {i : Nat} {t : Stage H} (h : c.tasks[i]? = some t) :
    c.tasks = c.tasks.take i ++ t :: c.tasks.drop (i + 1) := by
  obtain ⟨hlt, ht⟩ := List.getElem?_eq_some_iff.1 h
  rw [← ht, ← List.drop_eq_getElem_cons hlt, List.take_append_drop]

theorem countP_put {c : Crew H} {i : Nat} {t : Stage H} (h : c.tasks[i]? = some t)
    (t' : Option (Stage H)) (test : Stage H → Bool) :
    (c.put i t').tasks.countP test + [t].countP test =
      c.tasks.countP test + t'.toList.countP test := by
  have htasks := congrArg (List.countP test) (tasks_eq h)
  rw [List.countP_append, List.countP_cons] at htasks
  rw [put, htasks]
  simp only [List.countP_append, List.countP_singleton]
  omega

theorem mem_put (c : Crew H) (i : Nat) (t : Stage H) : t ∈ (c.put i (some t)).tasks :=
  List.mem_append_left _ (List.mem_append_right _ (List.mem_singleton_self t))

/-- The flag is up exactly while one task owns it, and where a message waits, the
    flag is up, or somebody will ask for a task, or look again. -/
structure Sound (c : Crew H) : Prop where
  off : c.session.bus.drainer = .idle
  owners : c.tasks.countP Stage.owns = c.flag.toNat
  heard : c.session.bus.queue.toList ≠ [] →
    c.flag = true ∨ 0 < c.askers ∨ ∃ t ∈ c.tasks, t.owns = false

theorem Sound.flag_of_owns {c : Crew H} (h : c.Sound) {i : Nat} {t : Stage H}
    (ht : c.tasks[i]? = some t) (howns : t.owns = true) : c.flag = true := by
  have hpos : 0 < c.tasks.countP Stage.owns :=
    List.countP_pos_iff.2 ⟨t, List.mem_of_getElem? ht, howns⟩
  rw [h.owners] at hpos
  cases hflag : c.flag with
  | true => rfl
  | false =>
    rw [hflag] at hpos
    exact absurd hpos (by decide)

/-- An act that queues a message leaves somebody behind who will ask. -/
theorem act_sound {c : Crew H} (h : c.Sound) (a : Act H) : (c.act a).Sound where
  off := rfl
  owners := h.owners
  heard hqueue := by
    by_cases hbefore : c.session.bus.queue.toList = []
    · have hawake : c.session.bus.Awake := fun _ => hbefore
      have hdraining : (c.session.step a).bus.drainer ≠ .idle := fun hidle =>
        hqueue (Session.step_awake hawake a hidle)
      refine Or.inr (Or.inl ?_)
      have hone : (c.session.step a).bus.isDraining = true := isDraining_iff.2 hdraining
      simp only [act, hone]
      exact Nat.succ_pos _
    · rcases h.heard hbefore with hflag | haskers | hlooks
      · exact Or.inl hflag
      · exact Or.inr (Or.inl (Nat.add_pos_left haskers _))
      · exact Or.inr (Or.inr hlooks)

theorem ask_sound {c : Crew H} (h : c.Sound) : c.ask.Sound := by
  unfold ask
  split
  · exact h
  · by_cases hflag : c.flag = true
    · rw [if_pos hflag]
      exact ⟨h.off, h.owners, fun _ => Or.inl hflag⟩
    · rw [if_neg hflag]
      refine ⟨h.off, ?_, fun _ => Or.inl rfl⟩
      have howners := h.owners
      rw [Bool.eq_false_iff.2 hflag] at howners
      simp only [List.countP_append, howners]
      rfl

/-- A task that works owns the flag, and keeps it. -/
theorem work_sound {c : Crew H} (h : c.Sound) (i : Nat) (a : Act H) : (c.work i a).Sound := by
  unfold work
  split
  · exact h
  · next d hd =>
    obtain ⟨t, ht, hdrainer⟩ := Option.bind_eq_some_iff.1 hd
    have howns := Stage.owns_of_drainer? hdrainer
    refine ⟨rfl, ?_, fun _ => Or.inl (h.flag_of_owns ht howns)⟩
    have hcount := countP_put ht
      (some (.ofDrainer ((c.session.withDrainer d).step a).bus.drainer)) Stage.owns
    simp only [Option.toList_some, List.countP_singleton, howns, Stage.owns_ofDrainer, if_true]
      at hcount
    exact (Nat.add_right_cancel hcount).trans h.owners

theorem finish_sound {c : Crew H} (h : c.Sound) (i : Nat) (ending : Ending) :
    (c.finish i ending).Sound := by
  unfold finish
  split
  · exact work_sound h i (.finish ending)
  · exact h

/-- A task that leaves gives up the flag, or leaves it to another. -/
theorem leave_sound {c : Crew H} (h : c.Sound) (i : Nat) : (c.leave i).Sound := by
  unfold leave
  split
  · next ht =>
    have hcount := countP_put ht (some .looking) Stage.owns
    have hflag := h.flag_of_owns ht rfl
    refine ⟨h.off, ?_, fun _ => Or.inr (Or.inr ⟨.looking, c.mem_put i _, rfl⟩)⟩
    rw [h.owners, hflag] at hcount
    exact Nat.add_right_cancel hcount
  · next ht =>
    split
    · next hempty =>
      have hcount := countP_put ht none Stage.owns
      exact ⟨h.off, hcount.trans h.owners,
        fun hqueue => absurd (Queue.isEmpty_iff.1 hempty) hqueue⟩
    · have hcount := countP_put ht (some .returning) Stage.owns
      exact ⟨h.off, hcount.trans h.owners,
        fun _ => Or.inr (Or.inr ⟨.returning, c.mem_put i _, rfl⟩)⟩
  · next ht =>
    split
    · next hflag =>
      have hcount := countP_put ht none Stage.owns
      exact ⟨h.off, hcount.trans h.owners, fun _ => Or.inl hflag⟩
    · next hflag =>
      have hcount := countP_put ht (some .taking) Stage.owns
      rw [h.owners, Bool.eq_false_iff.2 hflag] at hcount
      exact ⟨h.off, hcount, fun _ => Or.inl rfl⟩
  · exact h

theorem step_sound {c : Crew H} (h : c.Sound) (m : Motion H) : (c.step m).Sound := by
  cases m with
  | act a => exact act_sound h a
  | ask => exact ask_sound h
  | turn i => exact work_sound h i .turn
  | finish i ending => exact finish_sound h i ending
  | leave i => exact leave_sound h i

/-- **One owner, and nobody overheard**, after every run. -/
theorem run_sound (config : BusConfig) (hosted : Bool) (ms : List (Motion H)) :
    ((start config hosted).run ms).Sound := by
  induction ms using List.reverseRecOn with
  | nil => exact ⟨rfl, rfl, fun hqueue => absurd rfl hqueue⟩
  | append_singleton ms m ih =>
    rw [run_concat]
    exact step_sound ih m

/-- Two messages are never being delivered at the same time. -/
theorem Sound.delivers {c : Crew H} (h : c.Sound) : c.tasks.countP Stage.delivers ≤ 1 :=
  calc c.tasks.countP Stage.delivers
      ≤ c.tasks.countP Stage.owns := List.countP_mono_left fun _ _ => Stage.owns_of_delivers
    _ = c.flag.toNat := h.owners
    _ ≤ 1 := Bool.toNat_le _

/-! ## Between two scheduled steps -/

/-- Whether control is between two scheduled steps: nobody is still to ask, and
    every task has come to a halt. -/
def settled (c : Crew H) : Bool := c.askers == 0 && c.tasks.all Stage.halts

theorem Sound.length_of_settled {c : Crew H} (h : c.Sound) (hsettled : c.settled = true) :
    c.tasks.length = c.flag.toNat := by
  rw [settled, Bool.and_eq_true, List.all_eq_true] at hsettled
  rw [← h.owners, eq_comm, List.countP_eq_length]
  exact fun t ht => Stage.owns_of_halts (hsettled.2 t ht)

theorem Sound.flag_of_settled {c : Crew H} (h : c.Sound) (hsettled : c.settled = true)
    (hqueue : c.session.bus.queue.toList ≠ []) : c.flag = true := by
  rw [settled, Bool.and_eq_true, List.all_eq_true, beq_iff_eq] at hsettled
  rcases h.heard hqueue with hflag | haskers | ⟨t, ht, howns⟩
  · exact hflag
  · exact absurd haskers (by rw [hsettled.1]; decide)
  · exact absurd (Stage.owns_of_halts (hsettled.2 t ht)) (by rw [howns]; decide)

/-! ## The drainer of a session -/

/-- The tasks that stand for a drainer. -/
inductive Mans : Drainer H → List (Stage H) → Prop
  | idle : Mans .idle []
  | spawned : Mans .ready [.spawned]
  | taking : Mans .ready [.taking]
  | delivering (pass : Pass H) : Mans (.delivering pass) [.delivering pass]

theorem Mans.task {d : Drainer H} {ts : List (Stage H)} (h : Mans d ts) (hd : d ≠ .idle) :
    ∃ t, ts = [t] ∧ t.drainer? = some d := by
  cases h with
  | idle => exact absurd rfl hd
  | spawned => exact ⟨_, rfl, rfl⟩
  | taking => exact ⟨_, rfl, rfl⟩
  | delivering pass => exact ⟨_, rfl, rfl⟩

/-- **The crew of a session**: its flag is up while the drainer is at work, its
    tasks stand for the drainer, and nothing else is different.  A task that has
    not run yet has a message to take, unless the bus was shut down. -/
structure Shows (c : Crew H) (s : Session H) : Prop where
  session : c.session = s.withDrainer .idle
  flag : c.flag = s.bus.isDraining
  askers : c.askers = 0
  tasks : Mans s.bus.drainer c.tasks
  fresh : c.tasks = [.spawned] → s.bus.queue.toList ≠ [] ∨ s.bus.closed = true

/-- The motions of an act where no task is interrupted between two accesses to
    flag and queue, and whoever has queued a message asks at once. -/
def scheduled : Act H → List (Motion H)
  | .turn => [.turn 0, .leave 0, .leave 0]
  | .finish ending => [.finish 0 ending, .ask]
  | a => [.act a, .ask]

theorem ask_of_none {c : Crew H} (h : c.askers = 0) : c.ask = c := by
  simp only [ask, h]

/-- Whoever asks while the flag is up is content. -/
theorem ask_of_flag {c : Crew H} (h : c.flag = true) {n : Bool} (hn : c.askers = n.toNat) :
    c.ask = { c with askers := 0 } := by
  obtain ⟨session, flag, tasks, askers⟩ := c
  dsimp only at h hn
  subst h hn
  cases n <;> rfl

/-- A task that stands for the drainer of a session does what the drainer does. -/
theorem work_of_shows {c : Crew H} {s : Session H} (h : Shows c s) (hd : s.bus.drainer ≠ .idle)
    (a : Act H) :
    c.work 0 a =
      { session := (s.step a).withDrainer .idle
        flag := true
        tasks := [.ofDrainer (s.step a).bus.drainer]
        askers := (!(s.traffic a).entered.isEmpty).toNat } := by
  obtain ⟨t, ht, hdrainer⟩ := h.tasks.task hd
  have hflag : c.flag = true := h.flag.trans (isDraining_iff.2 hd)
  obtain ⟨session, flag, tasks, askers⟩ := c
  obtain ⟨rfl, -, rfl, -, -⟩ := h
  dsimp only at ht hflag
  subst ht hflag
  simp only [work, List.getElem?_cons_zero, Option.bind_some, hdrainer, put, Session.withDrainer_withDrainer,
    Session.withDrainer_self, Nat.zero_add]
  rfl

theorem entered_of_turn (s : Session H) : (s.traffic .turn).entered = [] := by
  have hturn := s.bus.turn_turns s.now
  change (s.bus.turnTraffic s.now).entered = []
  generalize s.bus.turnTraffic s.now = t at hturn
  generalize s.bus.handedOver = os at hturn
  generalize (s.bus.turn s.now).1 = b at hturn
  cases hturn <;> rfl

/-- What a task does that stands for the drainer, until it takes the next message
    or has left. -/
theorem leave_of_drained {s : Session H} (hqueue : s.bus.drainer = .idle → s.bus.queue.toList = []) :
    Shows
      ((({ session := s.withDrainer .idle, flag := true, tasks := [.ofDrainer s.bus.drainer] } :
        Crew H).leave 0).leave 0) s := by
  rcases hd : s.bus.drainer with _ | _ | pass
  · have hempty : s.bus.queue.isEmpty = true := Queue.isEmpty_iff.2 (hqueue hd)
    simp only [Stage.ofDrainer, leave, put, List.getElem?_cons_zero, Session.withDrainer_bus,
      withDrainer_queue, hempty, if_true, List.take_zero, Option.toList_some, List.nil_append,
      List.drop_succ_cons, List.drop_zero, List.append_nil, Option.toList_none]
    exact ⟨rfl, by simp only [isDraining, hd], rfl, hd ▸ .idle, nofun⟩
  · exact ⟨rfl, by simp only [isDraining, hd]; rfl, rfl, by rw [hd]; exact .taking, nofun⟩
  · exact ⟨rfl, by simp only [isDraining, hd]; rfl, rfl, by rw [hd]; exact .delivering pass, nofun⟩

theorem turn_shows {c : Crew H} {s : Session H} (h : Shows c s) :
    Shows (((c.work 0 .turn).leave 0).leave 0) (s.step .turn) := by
  by_cases hd : s.bus.drainer = .idle
  · have htasks := h.tasks
    rw [hd] at htasks
    generalize hts : c.tasks = ts at htasks
    cases htasks
    have hwork : c.work 0 .turn = c := by simp only [work, hts, List.getElem?_nil, Option.bind_none]
    have hleave : c.leave 0 = c := by simp only [leave, hts, List.getElem?_nil]
    have hstep : s.step .turn = s := by simp only [Session.step, turn, hd]
    rw [hwork, hleave, hleave, hstep]
    exact h
  · rw [work_of_shows h hd, entered_of_turn]
    have hawake : s.bus.Awake := fun hidle => absurd hidle hd
    exact leave_of_drained fun hidle => Session.step_awake hawake .turn hidle

theorem finish_shows {c : Crew H} {s : Session H} (h : Shows c s) (ending : Ending) :
    Shows (c.finish 0 ending).ask (s.step (.finish ending)) := by
  by_cases hd : ∃ pass, s.bus.drainer = .delivering pass
  · obtain ⟨pass, hd⟩ := hd
    have htasks := h.tasks
    rw [hd] at htasks
    generalize hts : c.tasks = ts at htasks
    cases htasks
    have hwork : c.finish 0 ending = c.work 0 (.finish ending) := by
      simp only [finish, hts, List.getElem?_cons_zero, Option.any_some, Stage.delivers, if_true]
    have hafter : ∃ pass', (s.step (.finish ending)).bus.drainer = .delivering pass' := by
      have hfinish := s.bus.finish_finishes s.now ending
      change ∃ pass', (s.bus.finish s.now ending).drainer = .delivering pass'
      generalize s.bus.finishTraffic s.now ending = t at hfinish
      generalize s.bus.finish s.now ending = b at hfinish
      cases hfinish with
      | idle => exact ⟨pass, hd⟩
      | rejected => exact ⟨_, rfl⟩
      | accepted => exact ⟨_, rfl⟩
      | answered => exact ⟨_, rfl⟩
    obtain ⟨pass', hafter⟩ := hafter
    rw [hwork, work_of_shows h (by rw [hd]; nofun), ask_of_flag rfl rfl, hafter]
    exact ⟨rfl, by simp only [isDraining, hafter], rfl, by rw [hafter]; exact .delivering pass',
      nofun⟩
  · have hnone : c.finish 0 ending = c := by
      have htasks := h.tasks
      generalize hts : c.tasks = ts at htasks
      generalize s.bus.drainer = d at htasks hd
      cases htasks with
      | delivering pass => exact absurd ⟨pass, rfl⟩ hd
      | _ => simp [finish, hts, Stage.delivers]
    have hstep : s.step (.finish ending) = s := by
      rcases hdrainer : s.bus.drainer with _ | _ | pass
      · simp [Session.step, Bus.finish, faultBy, running?, hdrainer]
      · simp [Session.step, Bus.finish, faultBy, running?, hdrainer]
      · exact absurd ⟨pass, hdrainer⟩ hd
    rw [hnone, ask_of_none h.askers, hstep]
    exact h

theorem entryFlow_served (b : Bus H) (now : Nat) (t : Traffic) : (b.entryFlow now t).served = [] := by
  unfold entryFlow
  split
  · split <;> rfl
  · rfl

/-- A message that waits keeps waiting until the drainer takes a step, or a
    shutdown drops it. -/
theorem step_waiting {s : Session H} {a : Act H} (hturn : a ≠ .turn)
    (h : s.bus.queue.toList ≠ [] ∨ s.bus.closed = true) :
    (s.step a).bus.queue.toList ≠ [] ∨ (s.step a).bus.closed = true := by
  have hclosed := (s.step_accounts a).closed
  rcases h with hqueue | hclosed'
  · have hflows := s.step_flows a
    have hserved : (s.flow a).served = [] := by
      cases a with
      | turn => exact absurd rfl hturn
      | shutdown =>
        simp only [Session.flow]
        split <;> rfl
      | _ => exact entryFlow_served ..
    generalize s.flow a = f at hflows hserved
    generalize hq : (s.step a).bus.queue = q at hflows
    cases hflows with
    | quiet => exact Or.inl hqueue
    | joined p => exact Or.inl (Queue.toList_join_ne_nil _ _ p)
    | served p => cases hserved
    | emptied hshut => exact Or.inr (by rw [hclosed, hshut, Bool.or_true])
  · exact Or.inr (by rw [hclosed, hclosed', Bool.true_or])

theorem act_shows {c : Crew H} {s : Session H} (h : Shows c s) {a : Act H} (hturn : a ≠ .turn)
    (hfinish : ∀ ending, a ≠ .finish ending) : Shows (c.act a).ask (s.step a) := by
  obtain ⟨r, woken, hwoken, hstep⟩ := s.step_beside hturn hfinish
  have hs : s.step a = r.withDrainer (s.bus.drainer.roused woken) := hstep s.bus.drainer
  have hact : c.act a = { c with session := r.withDrainer .idle, askers := woken.toNat } := by
    simp only [act, h.session, hstep, h.askers, Nat.zero_add]
    cases woken <;> rfl
  have hflag := h.flag
  have htasks := h.tasks
  have hfresh := h.fresh
  have hwaiting := step_waiting (s := s) hturn
  rw [hact, hs]
  rw [hs] at hwaiting
  cases woken with
  | false =>
    rw [Drainer.roused_false] at hwaiting ⊢
    rw [ask_of_none rfl]
    exact ⟨rfl, hflag, rfl, htasks, fun ht => hwaiting (hfresh ht)⟩
  | true =>
    by_cases hd : s.bus.drainer = .idle
    · rw [hd] at htasks
      generalize hts : c.tasks = ts at htasks
      cases htasks
      have hdown : c.flag = false := by rw [hflag]; simp only [isDraining, hd]
      simp only [hd, ask, Bool.toNat_true, hdown]
      exact ⟨rfl, rfl, rfl, .spawned, fun _ => Or.inl (hwoken rfl)⟩
    · have hup : c.flag = true := hflag.trans (isDraining_iff.2 hd)
      rw [Drainer.roused_of_ne_idle hd] at hwaiting ⊢
      rw [ask_of_flag (c := { c with session := r.withDrainer .idle, askers := true.toNat })
        (n := true) hup rfl]
      exact ⟨rfl, hflag, rfl, htasks, fun ht => hwaiting (hfresh ht)⟩

/-- **The drainer is the crew** whose tasks are not interrupted. -/
theorem run_shows (config : BusConfig) (hosted : Bool) (acts : List (Act H)) :
    Shows ((start config hosted).run (acts.flatMap scheduled))
      ((Session.start config hosted).run acts) := by
  induction acts using List.reverseRecOn with
  | nil => exact ⟨rfl, rfl, rfl, .idle, nofun⟩
  | append_singleton acts a ih =>
    rw [List.flatMap_append, run_append, Session.run_concat]
    generalize (start config hosted).run (acts.flatMap scheduled) = c at ih
    generalize (Session.start config hosted).run acts = s at ih
    rw [List.flatMap_cons, List.flatMap_nil, List.append_nil]
    cases a with
    | turn => exact turn_shows ih
    | finish ending => exact finish_shows ih ending
    | _ => exact act_shows ih nofun nofun

/-- Where every task has come to a halt and the bus was not shut down, the bus tells
    that it is idle exactly if nothing is queued and no delivery is under way. -/
theorem Shows.isIdle_iff {c : Crew H} {s : Session H} (h : Shows c s) (hsettled : c.settled = true)
    (hopen : s.bus.closed = false) :
    s.bus.isIdle = true ↔ s.bus.queue.toList = [] ∧ s.bus.pass? = none := by
  rw [Bus.isIdle, Bool.and_eq_true, Queue.isEmpty_iff]
  constructor
  · rintro ⟨hflag, hempty⟩
    refine ⟨hempty, ?_⟩
    have hd : s.bus.drainer = .idle := by
      by_contra hd
      rw [isDraining_iff.2 hd] at hflag
      cases hflag
    simp only [pass?, hd]
  · rintro ⟨hempty, hpass⟩
    refine ⟨?_, hempty⟩
    have htasks := h.tasks
    have hfresh := h.fresh
    rw [settled, Bool.and_eq_true, List.all_eq_true] at hsettled
    generalize c.tasks = ts at htasks hfresh hsettled
    cases hd : s.bus.drainer with
    | idle => simp only [isDraining, hd]; rfl
    | ready =>
      -- a task that is to run has been started for a message that still waits
      rw [hd] at htasks
      cases htasks with
      | spawned =>
        rcases hfresh rfl with hwaits | hclosed
        · exact absurd hempty hwaits
        · exact absurd (hopen.symm.trans hclosed) (by decide)
      | taking => cases hsettled.2 _ (List.mem_singleton_self _)
    | delivering pass =>
      simp only [pass?, hd] at hpass
      cases hpass

/-! ## One drainer -/

/-- **One drainer.**  Whatever happens, in whatever order: the flag is up exactly
    while one task owns it, no two messages are being delivered at the same time,
    and where a message waits the flag is up, or somebody is still to ask for a
    task or to look again.  Where control is between two scheduled steps:

    * the flag is up exactly while there is one task, and there are never two;
    * where a message waits, the flag is up;
    * the bus tells that it is idle exactly if nothing is queued and there is no
      task.

    The drainer of a session is such a crew: it is at work exactly while the flag
    is up, it is the one task, and unless the bus was shut down, the bus tells that
    it is idle exactly if nothing is queued and no delivery is under way. -/
theorem one_drainer (config : BusConfig) (hosted : Bool) :
    (∀ ms : List (Motion H),
      let c := (start config hosted).run ms
      c.tasks.countP Stage.owns = c.flag.toNat ∧
        c.tasks.countP Stage.delivers ≤ 1 ∧
        (c.session.bus.queue.toList ≠ [] →
          c.flag = true ∨ 0 < c.askers ∨ ∃ t ∈ c.tasks, t.owns = false) ∧
        (c.settled = true →
          (c.flag = true ↔ c.tasks.length = 1) ∧ c.tasks.length ≤ 1 ∧
            (c.session.bus.queue.toList ≠ [] → c.flag = true) ∧
            (c.isIdle = true ↔ c.session.bus.queue.toList = [] ∧ c.tasks = []))) ∧
      ∀ acts : List (Act H),
        let c := (start config hosted).run (acts.flatMap scheduled)
        let s := (Session.start config hosted).run acts
        c.session = s.withDrainer .idle ∧ c.flag = s.bus.isDraining ∧
          Mans s.bus.drainer c.tasks ∧ c.isIdle = s.bus.isIdle ∧
          (c.settled = true → s.bus.closed = false →
            (s.bus.isIdle = true ↔ s.bus.queue.toList = [] ∧ s.bus.pass? = none)) := by
  refine ⟨fun ms => ?_, fun acts => ?_⟩
  · intro c
    have hsound : c.Sound := run_sound config hosted ms
    refine ⟨hsound.owners, hsound.delivers, hsound.heard, fun hsettled => ?_⟩
    have hlength := hsound.length_of_settled hsettled
    refine ⟨?_, ?_, hsound.flag_of_settled hsettled, ?_⟩
    · rw [hlength]
      cases c.flag <;> decide
    · rw [hlength]
      exact Bool.toNat_le _
    · have hnone : c.tasks = [] ↔ (!c.flag) = true := by
        rw [← List.length_eq_zero_iff, hlength]
        cases c.flag <;> decide
      rw [isIdle, Bool.and_eq_true, Queue.isEmpty_iff, hnone, and_comm]
  · intro c s
    have hshows : Shows c s := run_shows config hosted acts
    have hqueue : c.session.bus.queue = s.bus.queue := by rw [hshows.session]; rfl
    have hidle : c.isIdle = s.bus.isIdle := by
      rw [isIdle, hshows.flag, hqueue]
      rfl
    exact ⟨hshows.session, hshows.flag, hshows.tasks, hidle, hshows.isIdle_iff⟩

/-- A message is published and the bus is shut down before the task has run that
    was started for it: nothing is queued or being delivered, but there is a task,
    and the bus is not idle. -/
theorem not_idle_when_shut :
    let acts : List (Act Unit) := [.publish "a" .null {}, .shutdown]
    let c := (start {} true).run (acts.flatMap scheduled)
    let b := ((Session.start {} true).run acts).bus
    c.settled = true ∧ c.tasks.length = 1 ∧
      ¬(b.isIdle = true ↔ b.queue.toList = [] ∧ b.pass? = none) := by
  intro acts c b
  have hqueue : b.queue.toList = [] := List.isEmpty_iff.1 (by decide +kernel)
  have hpass : b.pass? = none := Option.isNone_iff_eq_none.1 (by decide +kernel)
  have hbusy : b.isIdle = false := by decide +kernel
  refine ⟨by decide +kernel, by decide +kernel, fun h => ?_⟩
  exact absurd (h.2 ⟨hqueue, hpass⟩) (by rw [hbusy]; decide)

end Crew

end Switchboard.Bus
