import Switchboard.Proofs.Lists
import Switchboard.Table

/-
  What a table answers.

  * `get?_put`, `get?_erase`: what a look-up finds after a change, under the key
    that was changed and under every other;
  * `put_of_get?`: giving a key the value it has changes nothing;
  * `get?_filter`: what it finds of the rows that are kept;
  * `get?_eq_some`, `mem_sortedRows`: what is found are the rows, in whatever order;
  * `contains_eq`: a table contains the keys under which something is found.
-/

namespace Switchboard.Table

variable {κ α : Type} [DecidableEq κ]

theorem lookup_map_replace (rows : List (κ × α)) (k k' : κ) (a : α) :
    (rows.map fun r => if r.1 = k then (k, a) else r).lookup k' =
      if k = k' ∧ k ∈ rows.map (·.1) then some a else rows.lookup k' := by
  induction rows with
  | nil => simp
  | cons r rows ih =>
    obtain ⟨x, y⟩ := r
    simp only [List.map_cons, List.mem_cons]
    by_cases hk : x = k
    · subst hk
      by_cases hk' : x = k'
      · subst hk'
        simp
      · have hne : (k' == x) = false := beq_eq_false_iff_ne.2 (Ne.symm hk')
        simp [List.lookup_cons, hne, ih, hk']
    · by_cases hk' : k' = x
      · subst hk'
        simp [hk, Ne.symm hk]
      · have hne : (k' == x) = false := beq_eq_false_iff_ne.2 hk'
        have hxk : ¬k = x := fun h => hk h.symm
        simp only [List.lookup_cons, if_neg hk, hne, ih, hxk, false_or]

theorem get?_put (t : Table κ α) (k k' : κ) (a : α) :
    (t.put k a).get? k' = if k = k' then some a else t.get? k' := by
  unfold put get?
  split
  · next hk => simp [lookup_map_replace, hk]
  · next hk =>
    have hnone : t.rows.lookup k = none := by
      rw [List.lookup_eq_none_iff]
      intro r hr
      refine bne_iff_ne.2 fun heq => hk ?_
      rw [heq]
      exact List.mem_map_of_mem hr
    by_cases hk' : k = k'
    · subst hk'
      simp [List.lookup_append, hnone]
    · simp [List.lookup_append, List.lookup_cons, hk', beq_eq_false_iff_ne.2 (Ne.symm hk')]

theorem get?_eq_some {t : Table κ α} {k : κ} {a : α} : t.get? k = some a ↔ (k, a) ∈ t.rows := by
  refine ⟨fun h => ?_, List.lookup_of_mem t.distinct⟩
  obtain ⟨before, after, hrows, -⟩ := List.lookup_eq_some_iff.1 h
  simp [hrows]

theorem mem_sortedRows {t : Table String α} {k : String} {a : α} :
    (k, a) ∈ t.sortedRows ↔ t.get? k = some a :=
  List.mem_mergeSort.trans get?_eq_some.symm

theorem put_of_get? {t : Table κ α} {k : κ} {a : α} (h : t.get? k = some a) : t.put k a = t := by
  have hmem : k ∈ t.rows.map (·.1) := by
    refine Decidable.byContradiction fun hk => ?_
    have hnone : t.get? k = none := List.lookup_eq_none_iff.2 fun r hr =>
      bne_iff_ne.2 fun heq => hk (List.mem_map.2 ⟨r, hr, heq.symm⟩)
    rw [hnone] at h
    cases h
  have hrows : (t.rows.map fun r => if r.1 = k then (k, a) else r) = t.rows := by
    refine (List.map_congr_left fun r hr => ?_).trans (List.map_id t.rows)
    by_cases hk : r.1 = k
    · have hr2 : t.rows.lookup k = some r.2 := List.lookup_of_mem t.distinct (hk ▸ hr)
      rw [if_pos hk]
      exact Prod.ext hk.symm (Option.some.inj (h.symm.trans hr2))
    · rw [if_neg hk]
      rfl
  unfold put
  rw [dif_pos hmem]
  congr

theorem get?_erase (t : Table κ α) (k k' : κ) :
    (t.erase k).get? k' = if k = k' then none else t.get? k' := by
  unfold erase filter get?
  dsimp only
  induction t.rows with
  | nil => simp
  | cons r rows ih =>
    obtain ⟨x, y⟩ := r
    by_cases hx : x = k
    · subst hx
      by_cases hk' : x = k'
      · simpa [hk'] using ih
      · simpa [List.lookup_cons, hk', beq_eq_false_iff_ne.2 (Ne.symm hk')] using ih
    · by_cases hk' : k' = x
      · subst hk'
        simp [hx, Ne.symm hx]
      · simpa [List.lookup_cons, hx, beq_eq_false_iff_ne.2 hk'] using ih

theorem contains_eq (t : Table κ α) (k : κ) : t.contains k = (t.get? k).isSome := by
  unfold contains get?
  induction t.rows with
  | nil => rfl
  | cons r rows ih =>
    obtain ⟨x, y⟩ := r
    by_cases hx : x = k
    · subst hx
      simp
    · simp [List.lookup_cons, hx, ih, beq_eq_false_iff_ne.2 (Ne.symm hx)]

theorem get?_filter (t : Table κ α) (keep : κ × α → Bool) (k : κ) :
    (t.filter keep).get? k = (t.get? k).filter fun a => keep (k, a) :=
  List.lookup_filter t.distinct keep k

end Switchboard.Table
