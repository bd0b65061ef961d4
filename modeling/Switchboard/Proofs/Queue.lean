import Mathlib.Data.List.Perm.Basic
import Switchboard.Queue

/-
  What the queue holds, and in what order it gives it away.

  * `toList_push`, `toList_pop`, `toList_evict`: what each operation does to the
    parcels that wait;
  * `join_perm`: a parcel that joins is added, one that makes room is taken
    out, and all others stay;
  * `toList_join_ne_nil`: a queue that a parcel has joined is not empty;
  * `Filed`: every parcel waits in the line of its priority; `Filed.pop` and
    `Filed.evict`: what is served is the first of the highest line, what makes
    room is the first of the lowest;
  * `size_join`: a queue that keeps its bound keeps it when a parcel joins.
-/

namespace Switchboard.Queue

theorem toList_push (q : Queue) (p : Parcel) : (q.push p).toList.Perm (q.toList ++ [p]) := by
  unfold push toList
  split
  · simp only [List.append_assoc]
    rw [← List.append_assoc q.normal]
    exact List.Perm.append_left _ List.perm_append_comm
  · simp only [List.append_assoc]
    exact List.Perm.append_left _ (List.Perm.append_left _ List.perm_append_comm)
  · simp only [List.append_assoc]
    exact List.Perm.refl _

/-- What is served next stands first. -/
theorem toList_pop {q q' : Queue} {p : Parcel} (h : q.pop? = some (p, q')) :
    q.toList = p :: q'.toList := by
  unfold pop? at h
  unfold toList
  split at h
  · next hhigh => cases h; rw [hhigh]; rfl
  · next hhigh hnormal => cases h; rw [hhigh, hnormal]; rfl
  · next hhigh hnormal hlow => cases h; rw [hhigh, hnormal, hlow]; rfl
  · cases h

theorem toList_eq_nil {q : Queue} (h : q.pop? = none) : q.toList = [] := by
  unfold pop? at h
  unfold toList
  split at h
  · cases h
  · cases h
  · cases h
  · next hhigh hnormal hlow => rw [hhigh, hnormal, hlow]; rfl

theorem toList_evict {q q' : Queue} {p : Parcel} (h : q.evict? = some (p, q')) :
    q.toList.Perm (q'.toList ++ [p]) := by
  unfold evict? at h
  unfold toList
  split at h
  · next r hlow =>
    cases h
    rw [hlow, List.append_assoc _ r]
    exact List.Perm.append_left _ (List.perm_append_singleton p r).symm
  · next r hlow hnormal =>
    cases h
    rw [hlow, hnormal]
    simp only [List.append_nil, List.append_assoc]
    exact List.Perm.append_left _ (List.perm_append_singleton p r).symm
  · next r hlow hnormal hhigh =>
    cases h
    rw [hlow, hnormal, hhigh]
    simp only [List.append_nil]
    exact (List.perm_append_singleton p r).symm
  · cases h

/-- **One in, at most one out.**  Nobody else enters or leaves the queue when a
    parcel joins it. -/
theorem join_perm (q : Queue) (bound : Nat) (p : Parcel) :
    (q.toList ++ [p]).Perm ((q.join bound p).2.toList ++ (q.join bound p).1.toList) := by
  have hpush := (q.toList_push p).symm
  unfold join
  dsimp only
  split
  · split
    · next out q' h => exact hpush.trans (toList_evict h)
    · simpa using hpush
  · simpa using hpush

theorem join_cases (q : Queue) (bound : Nat) (p : Parcel) :
    q.join bound p = (none, q.push p) ∧ ¬(0 < bound ∧ bound < (q.push p).size) ∨
      ∃ out q', (q.push p).evict? = some (out, q') ∧ q.join bound p = (some out, q') := by
  unfold join
  dsimp only
  split
  · next h =>
    rcases he : (q.push p).evict? with _ | ⟨out, q'⟩
    · refine absurd h fun h => ?_
      unfold evict? at he
      split at he <;> simp_all [size]
    · exact Or.inr ⟨out, q', rfl, rfl⟩
  · next h => exact Or.inl ⟨rfl, by simpa using h⟩

theorem isEmpty_iff {q : Queue} : q.isEmpty = true ↔ q.toList = [] := by
  simp only [isEmpty, toList, Bool.and_eq_true, List.isEmpty_iff, List.append_eq_nil_iff]

/-- Where a parcel has joined, somebody waits: whoever makes room leaves others
    behind. -/
theorem toList_join_ne_nil (q : Queue) (bound : Nat) (p : Parcel) :
    (q.join bound p).2.toList ≠ [] := by
  have hpush : (q.push p).toList ≠ [] := by
    intro hnil
    have hperm := q.toList_push p
    rw [hnil] at hperm
    exact List.append_ne_nil_of_right_ne_nil _ (List.cons_ne_nil _ _) hperm.nil_eq.symm
  unfold join
  dsimp only
  split
  · next hfull =>
    rw [Bool.and_eq_true, decide_eq_true_eq, decide_eq_true_eq] at hfull
    rcases he : (q.push p).evict? with _ | ⟨out, q'⟩
    · exact hpush
    · intro hnil
      have hlength := (toList_evict he).length_eq
      rw [length_toList, List.length_append] at hlength
      rw [show q'.toList = [] from hnil] at hlength
      simp only [List.length_nil, List.length_singleton] at hlength
      omega
  · exact hpush

/-! ## Lines -/

theorem mem_toList {q : Queue} {p : Parcel} : p ∈ q.toList ↔ ∃ r, p ∈ q.line r := by
  constructor
  · intro hp
    rcases List.mem_append.1 hp with hp | hp
    · rcases List.mem_append.1 hp with hp | hp
      · exact ⟨.high, hp⟩
      · exact ⟨.normal, hp⟩
    · exact ⟨.low, hp⟩
  · rintro ⟨_ | _ | _, hp⟩ <;> simp_all [toList, line]

/-- The parcels of a priority. -/
def ofPriority (r : Priority) (ps : List Parcel) : List Parcel :=
  ps.filter (·.message.priority = r)

theorem ofPriority_append (r : Priority) (ps ps' : List Parcel) :
    ofPriority r (ps ++ ps') = ofPriority r ps ++ ofPriority r ps' := List.filter_append ps ps'

theorem line_push (q : Queue) (p : Parcel) (r : Priority) :
    (q.push p).line r = q.line r ++ ofPriority r [p] := by
  unfold push
  split <;> next h => cases r <;> simp [line, ofPriority, h]

/-- Every parcel waits in the line of its priority. -/
def Filed (q : Queue) : Prop := ∀ r, ∀ p ∈ q.line r, p.message.priority = r

theorem Filed.ofPriority_toList {q : Queue} (h : q.Filed) (r : Priority) :
    ofPriority r q.toList = q.line r := by
  have hline (r' : Priority) : ofPriority r (q.line r') = if r' = r then q.line r' else [] := by
    split
    · next hr => exact List.filter_eq_self.2 fun p hp => by simpa [hr] using h r' p hp
    · next hr =>
      refine List.filter_eq_nil_iff.2 fun p hp => ?_
      simpa [h r' p hp] using hr
  have hhigh := hline .high
  have hnormal := hline .normal
  have hlow := hline .low
  simp only [line] at hhigh hnormal hlow
  rw [toList, ofPriority_append, ofPriority_append, hhigh, hnormal, hlow]
  cases r <;> simp [line]

/-- A parcel is taken from the front of its line. -/
structure Takes (q : Queue) (p : Parcel) (q' : Queue) : Prop where
  front : q.line p.message.priority = p :: q'.line p.message.priority
  others : ∀ r, r ≠ p.message.priority → q'.line r = q.line r

theorem Takes.line {q q' : Queue} {p : Parcel} (h : q.Takes p q') (r : Priority) :
    q.line r = ofPriority r [p] ++ q'.line r := by
  by_cases hr : r = p.message.priority
  · subst hr
    simpa [ofPriority] using h.front
  · have hp : ofPriority r [p] = [] := by simpa [ofPriority] using Ne.symm hr
    rw [hp, h.others r hr]
    rfl

theorem Filed.push {q : Queue} (h : q.Filed) (p : Parcel) : (q.push p).Filed := by
  intro r p' hp'
  rw [line_push] at hp'
  rcases List.mem_append.1 hp' with hp' | hp'
  · exact h r p' hp'
  · simpa using (List.mem_filter.1 hp').2

theorem Takes.filed {q q' : Queue} {p : Parcel} (h : q.Takes p q') (hfiled : q.Filed) : q'.Filed :=
  fun r p' hp' => hfiled r p' (by rw [h.line r]; exact List.mem_append_right _ hp')

/-- A parcel that stands first in its line, when the lines beyond are empty. -/
theorem Filed.first {q q' : Queue} {p : Parcel} {r : Priority} (hfiled : q.Filed)
    (beyond : Priority → Priority → Prop) (front : q.line r = p :: q'.line r)
    (others : ∀ r', r' ≠ r → q'.line r' = q.line r')
    (empty : ∀ r', beyond r' r → q.line r' = []) :
    q.Takes p q' ∧ ∀ r', beyond r' p.message.priority → q.line r' = [] := by
  have hp : p.message.priority = r := hfiled r p (by rw [front]; exact List.mem_cons_self)
  subst hp
  exact ⟨⟨front, others⟩, empty⟩

/-- **What is served** is the first of the highest line that is not empty. -/
theorem Filed.pop {q q' : Queue} {p : Parcel} (hfiled : q.Filed) (h : q.pop? = some (p, q')) :
    q.Takes p q' ∧ ∀ r, r.tier < p.message.priority.tier → q.line r = [] := by
  unfold pop? at h
  split at h
  · next hhigh =>
    cases h
    refine hfiled.first (r := .high) (fun r' r => r'.tier < r.tier) hhigh ?_ ?_ <;>
      rintro (_ | _ | _) <;> simp [line, Priority.tier]
  · next hhigh hnormal =>
    cases h
    refine hfiled.first (r := .normal) (fun r' r => r'.tier < r.tier) hnormal ?_ ?_ <;>
      rintro (_ | _ | _) <;> simp [line, Priority.tier, hhigh]
  · next hhigh hnormal hlow =>
    cases h
    refine hfiled.first (r := .low) (fun r' r => r'.tier < r.tier) hlow ?_ ?_ <;>
      rintro (_ | _ | _) <;> simp [line, Priority.tier, hhigh, hnormal]
  · cases h

/-- **What makes room** is the first of the lowest line that is not empty. -/
theorem Filed.evict {q q' : Queue} {p : Parcel} (hfiled : q.Filed)
    (h : q.evict? = some (p, q')) :
    q.Takes p q' ∧ ∀ r, p.message.priority.tier < r.tier → q.line r = [] := by
  unfold evict? at h
  split at h
  · next hlow =>
    cases h
    refine hfiled.first (r := .low) (fun r' r => r.tier < r'.tier) hlow ?_ ?_ <;>
      rintro (_ | _ | _) <;> simp [line, Priority.tier]
  · next hlow hnormal =>
    cases h
    refine hfiled.first (r := .normal) (fun r' r => r.tier < r'.tier) hnormal ?_ ?_ <;>
      rintro (_ | _ | _) <;> simp [line, Priority.tier, hlow]
  · next hlow hnormal hhigh =>
    cases h
    refine hfiled.first (r := .high) (fun r' r => r.tier < r'.tier) hhigh ?_ ?_ <;>
      rintro (_ | _ | _) <;> simp [line, Priority.tier, hlow, hnormal]
  · cases h

theorem Filed.join {q : Queue} (h : q.Filed) (bound : Nat) (p : Parcel) :
    (q.join bound p).2.Filed := by
  rcases q.join_cases bound p with ⟨hjoin, -⟩ | ⟨out, q', he, hjoin⟩
  · rw [hjoin]
    exact h.push p
  · rw [hjoin]
    exact ((h.push p).evict he).1.filed (h.push p)

/-! ## The bound -/

theorem size_push (q : Queue) (p : Parcel) : (q.push p).size = q.size + 1 := by
  have hlength := (q.toList_push p).length_eq
  rwa [List.length_append, length_toList, length_toList] at hlength

/-- A queue keeps its bound. -/
theorem size_join {q : Queue} {bound : Nat} (hbound : 0 < bound) (h : q.size ≤ bound)
    (p : Parcel) : (q.join bound p).2.size ≤ bound := by
  have hpush := q.size_push p
  rcases q.join_cases bound p with ⟨hjoin, hroom⟩ | ⟨out, q', he, hjoin⟩
  · rw [hjoin]
    dsimp only
    omega
  · have hevict := (toList_evict he).length_eq
    rw [List.length_append, length_toList, length_toList, List.length_singleton] at hevict
    rw [hjoin]
    dsimp only
    omega

end Switchboard.Queue
