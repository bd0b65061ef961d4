import Mathlib.Data.List.Induction
import Switchboard.Index.Stats
import Switchboard.Proofs.Index.Entries

/-
  The counter of an index.

  An index counts its subscriptions beside its tables.  Filing counts one up
  and removing by a test counts down by what was removed.  Removing by text and
  id counts down by one, however many copies of the subscription there were.

  * `copies`: what a removal by text and id takes away;
  * `uncounted`: how many copies went without being counted, since the index
    was last cleared;
  * `Counted`: the counter is what is stored and what went uncounted, kept by
    every change;
  * `size_run`: the counter after any history, and that it never runs below
    zero; it is exact where no removal meets a second copy.
-/

namespace Switchboard.Index

variable {H : Type} {x : Index H} {held : List (Subscription H)}

/-! ## Removals -/

/-- The copies of a subscription that are filed under the text of a pattern. -/
def copies (held : List (Subscription H)) (name id : String) : List (Subscription H) :=
  held.filter fun s => s.pattern.text == name && s.id == id

theorem size_erase (x : Index H) (name id : String) :
    (x.erase name id).2.size = if (x.erase name id).1 then x.size - 1 else x.size := by
  unfold erase
  split
  · rfl
  · split <;> rfl

/-- A removal by text and id answers whether there was a copy. -/
theorem Mirrors.erase_iff (h : x.Mirrors held) (name id : String) :
    (x.erase name id).1 = true ↔ copies held name id ≠ [] := by
  constructor
  · intro herase
    unfold Index.erase at herase
    split at herase
    · cases herase
    · next p hparse =>
      split_ifs at herase with hany
      obtain ⟨s, hs, hid⟩ := List.any_eq_true.1 hany
      rw [h.entriesAt, List.mem_filter, decide_eq_true_eq] at hs
      refine List.ne_nil_of_mem (List.mem_filter.2 ⟨hs.1, ?_⟩)
      simpa [hs.2, Pattern.text_of_parse hparse] using hid
  · intro hne
    obtain ⟨s, hs⟩ := List.exists_mem_of_ne_nil _ hne
    obtain ⟨hlive, hs⟩ := List.mem_filter.1 hs
    obtain ⟨rfl, rfl⟩ : s.pattern.text = name ∧ s.id = id := by simpa using hs
    exact (h.erase_of_mem hlive).1

theorem length_onList_erase (held : List (Subscription H)) (name id : String) :
    ((Change.erase name id).onList held).length + (copies held name id).length = held.length := by
  have hlength := List.length_eq_length_filter_add (l := held) fun s =>
    s.pattern.text == name && s.id == id
  rw [Nat.add_comm]
  exact hlength.symm

/-- A removal by a test answers as many subscriptions as it takes away. -/
theorem Mirrors.length_eraseWhere (h : x.Mirrors held) (test : Subscription H → Bool) :
    (x.eraseWhere test).1.length = (held.filter test).length :=
  (h.entries_perm.filter test).length_eq

/-! ## The counter -/

/-- The copies gone uncounted after a change: a removal by text and id counts
    one of those it takes away. -/
def Change.uncounted (held : List (Subscription H)) (n : Nat) : Change H → Nat
  | .erase name id => n + ((copies held name id).length - 1)
  | .clear => 0
  | .add .. | .insert .. | .eraseWhere _ => n

/-- The copies that went uncounted in a history, since the index was last
    cleared. -/
def uncounted (cs : List (Change H)) : Nat :=
  (cs.foldl (fun (held, n) c => (c.onList held, c.uncounted held n)) ([], 0)).2

/-- The counter of an index is the number of its entries and of the copies that
    went uncounted. -/
structure Counted (x : Index H) (held : List (Subscription H)) (n : Nat) : Prop extends
    x.Mirrors held where
  size : x.size = held.length + n

theorem Counted.change {n : Nat} (h : x.Counted held n) (c : Change H) :
    (x.change c).Counted (c.onList held) (c.uncounted held n) where
  toMirrors := h.toMirrors.change c
  size := by
    have hsize := h.size
    cases c with
    | add name id handler metadata =>
      simp only [Index.change, Change.onList, Change.uncounted]
      split
      · rw [size_insert, hsize, List.length_append, List.length_singleton]
        omega
      · exact hsize
    | insert s name parsed =>
      simp only [Index.change, Change.onList, Change.uncounted]
      rw [size_insert, hsize, List.length_append, List.length_singleton]
      omega
    | erase name id =>
      have hlength := length_onList_erase held name id
      simp only [Index.change, Change.uncounted, size_erase, h.erase_iff]
      split_ifs with hne
      · have hpos := List.length_pos_iff.2 hne
        omega
      · rw [not_not.1 hne] at hlength ⊢
        simp only [List.length_nil] at hlength ⊢
        omega
    | eraseWhere test =>
      have hlength := List.length_eq_length_filter_add (l := held) test
      have hremoved := h.length_eraseWhere test
      have hdown : (x.eraseWhere test).2.size = x.size - (x.eraseWhere test).1.length := rfl
      simp only [Index.change, Change.onList, Change.uncounted]
      omega
    | clear => rfl

theorem counted_run (cs : List (Change H)) : (run cs).Counted (live cs) (uncounted cs) := by
  have hrun : ∀ (x : Index H) (l : List (Subscription H)) (n : Nat), x.Counted l n →
      (cs.foldl change x).Counted (cs.foldl Change.onList l)
        (cs.foldl (fun (l, n) c => (Change.onList l c, Change.uncounted l n c)) (l, n)).2 := by
    induction cs with
    | nil => exact fun _ _ _ h => h
    | cons c cs ih => exact fun x l n h => ih _ _ _ (h.change c)
  exact hrun _ _ _ ⟨mirrors_empty, by rfl⟩

theorem live_append (cs : List (Change H)) (c : Change H) :
    live (cs ++ [c]) = c.onList (live cs) := by
  simp [live]

theorem uncounted_append (cs : List (Change H)) (c : Change H) :
    uncounted (cs ++ [c]) = c.uncounted (live cs) (uncounted cs) := by
  have hlive : ∀ (l : List (Subscription H)) (n : Nat),
      (cs.foldl (fun (l, n) c => (Change.onList l c, Change.uncounted l n c)) (l, n)).1 =
        cs.foldl Change.onList l := by
    induction cs with
    | nil => exact fun _ _ => rfl
    | cons c cs ih => exact fun l n => ih _ _
  rw [uncounted, List.foldl_append, live, ← hlive [] 0]
  rfl

/-! ## Histories without copies -/

/-- No removal by text and id meets more than one copy. -/
def Lone (cs : List (Change H)) : Prop :=
  ∀ before name id, before ++ [Change.erase name id] <+: cs →
    (copies (live before) name id).length ≤ 1

theorem Lone.uncounted {cs : List (Change H)} (h : Lone cs) : uncounted cs = 0 := by
  induction cs using List.reverseRecOn with
  | nil => rfl
  | append_singleton cs c ih =>
    have hbefore := ih fun before name id hle =>
      h before name id (hle.trans (List.prefix_append cs [c]))
    rw [uncounted_append, hbefore]
    cases c with
    | erase name id =>
      have hlone := h cs name id (List.prefix_refl _)
      simp only [Change.uncounted]
      omega
    | add | insert | eraseWhere | clear => rfl

/-- **The counter of an index** after any history is the number of its entries
    and of the copies that went uncounted, it is what the figures show, and
    whatever is counted down was counted up before.  It is exact where no
    removal by text and id meets a second copy. -/
theorem size_run (cs : List (Change H)) :
    (run cs).size = (run cs).entries.length + uncounted cs ∧
      (run cs).stats.subscriptions = (run cs).size ∧
      (∀ name id, ((run cs).erase name id).1 = true → 1 ≤ (run cs).size) ∧
      (∀ test, ((run cs).eraseWhere test).1.length ≤ (run cs).size) ∧
      (Lone cs → (run cs).size = (run cs).entries.length ∧
        ((run cs).size = 0 ↔ (run cs).entries = [])) := by
  have hrun := counted_run cs
  have hsize : (run cs).size = (run cs).entries.length + uncounted cs := by
    rw [hrun.entries_perm.length_eq]
    exact hrun.size
  refine ⟨hsize, rfl, fun name id herase => ?_, fun test => ?_, fun hlone => ?_⟩
  · have hlength := length_onList_erase (live cs) name id
    have hpos := List.length_pos_iff.2 ((hrun.erase_iff name id).1 herase)
    have := hrun.size
    omega
  · have hle : ((run cs).eraseWhere test).1.length ≤ (run cs).entries.length :=
      List.length_filter_le _ _
    omega
  · rw [hlone.uncounted] at hsize
    exact ⟨hsize, by rw [hsize]; exact List.length_eq_zero_iff⟩

/-- A subscription that is filed twice is counted twice, and counted down once
    when both copies go. -/
theorem not_size_eq_length : ¬∀ cs : List (Change Unit),
    (run cs).size = (run cs).entries.length ∧ ((run cs).size = 0 ↔ (run cs).entries = []) := by
  intro h
  have hcs := h [.add "a" "s" () {}, .insert ⟨"s", .exact "a", (), {}⟩ "a" rfl, .erase "a" "s"]
  exact absurd hcs.1 (by decide +kernel)

end Switchboard.Index
