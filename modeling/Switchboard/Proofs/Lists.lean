import Mathlib.Data.List.Dedup
import Mathlib.Data.List.Induction
import Mathlib.Data.List.Perm.Basic
import Mathlib.Order.Lattice

/-
  Lists — lemmas on them that the library does not have.

  * what stands last in a list, or once in it: `nodup_map_concat`,
    `filterMap_concat`, `ne_of_split`;
  * rows with keys: `mem_of_lookup`, `lookup_of_mem`, `lookup_filter`,
    `filter_notMem_map_take`;
  * one place changed: `map_set_of_eq`, `filterMap_set_of_eq`, `modify_map`,
    `filterMap_set_perm`;
  * ends and bounds: `prefix_dropLast_iff`, `insertIdx_length_append`,
    `foldl_max_le`;
  * elements by key: `eq_of_filter_eq`, `filter_mergeSort`, `perm_flatMap_filter`.
-/

namespace List

/-! ## Where an element stands -/

theorem nodup_map_concat {α β : Type} {f : α → β} {l : List α} {a : α} (hl : (l.map f).Nodup)
    (ha : ∀ x ∈ l, f x ≠ f a) : ((l ++ [a]).map f).Nodup := by
  rw [map_append]
  refine hl.append (nodup_singleton _) fun y hy hy' => ?_
  obtain ⟨x, hx, rfl⟩ := mem_map.1 hy
  exact ha x hx (mem_singleton.1 hy')

/-- What is read off the last element stands at the end. -/
theorem filterMap_concat {α β : Type} (g : α → Option β) (l : List α) (x : α) :
    (l ++ [x]).filterMap g = l.filterMap g ++ (g x).toList := by
  rw [filterMap_append]
  rcases h : g x with _ | y <;> simp [h]

theorem count_filterMap_singleton {α β : Type} [BEq β] [LawfulBEq β] [DecidableEq β]
    (g : α → Option β) (x : α) (y : β) :
    ([x].filterMap g).count y = if g x = some y then 1 else 0 := by
  rcases h : g x with _ | z
  · simp [h]
  · by_cases hz : z = y <;> simp [h, hz]

/-- Where nothing is repeated, an element is not among the others. -/
theorem ne_of_split {α : Type} {l before after : List α} {a : α} (h : l = before ++ a :: after)
    (hl : l.Nodup) : (∀ x ∈ before, a ≠ x) ∧ ∀ x ∈ after, a ≠ x := by
  rw [h, nodup_append] at hl
  obtain ⟨-, hnext, hdisjoint⟩ := hl
  refine ⟨fun x hx heq => hdisjoint x hx a mem_cons_self heq.symm, fun x hx heq => ?_⟩
  exact (nodup_cons.1 hnext).1 (heq ▸ hx)

/-- What fails at first and then succeeds has succeeded once, if tried often
    enough. -/
theorem countP_isNone {α : Type} {l : List (Option α)} {m : Nat}
    (h : ∀ k r, l[k]? = some r → (r = none ↔ m ≤ k)) (hlength : l.length ≤ m + 1) :
    l.countP (·.isNone) = if m < l.length then 1 else 0 := by
  induction l using reverseRecOn with
  | nil => simp
  | append_singleton l r ih =>
    have hle : l.length ≤ m := by simpa using hlength
    have hl := ih (fun k r' hk => h k r' (getElem?_append_left
      (getElem?_eq_some_iff.1 hk).1 ▸ hk)) (Nat.le_succ_of_le hle)
    have hr : r = none ↔ m ≤ l.length := h l.length r (by simp)
    rw [if_neg (Nat.not_lt.2 hle)] at hl
    rw [countP_append, hl, Nat.zero_add, length_append, length_singleton]
    rcases r with _ | r
    · simp [Nat.lt_succ_of_le (hr.1 rfl)]
    · have hlt : ¬ m < l.length + 1 := fun hm => by cases hr.2 (Nat.le_of_lt_succ hm)
      rw [if_neg hlt]
      rfl

/-! ## Rows with keys -/

section Rows

variable {κ α : Type} [DecidableEq κ]

theorem mem_of_lookup {rows : List (κ × α)} {k : κ} {a : α} (h : rows.lookup k = some a) :
    (k, a) ∈ rows := by
  obtain ⟨before, after, rfl, -⟩ := lookup_eq_some_iff.1 h
  simp

/-- Under distinct keys a row is what is found under its key. -/
theorem lookup_of_mem {rows : List (κ × α)} (distinct : (rows.map (·.1)).Nodup) {k : κ} {a : α}
    (h : (k, a) ∈ rows) : rows.lookup k = some a := by
  induction rows with
  | nil => cases h
  | cons r rows ih =>
    obtain ⟨hr, hrows⟩ := nodup_cons.1 distinct
    rcases mem_cons.1 h with rfl | h
    · exact lookup_cons_self
    · have hne : k ≠ r.1 := fun heq => hr (mem_map.2 ⟨(k, a), h, heq⟩)
      rw [lookup_cons, beq_eq_false_iff_ne.2 hne]
      exact ih hrows h

theorem lookup_filter {rows : List (κ × α)} (distinct : (rows.map (·.1)).Nodup)
    (keep : κ × α → Bool) (k : κ) :
    (rows.filter keep).lookup k = (rows.lookup k).filter fun a => keep (k, a) := by
  induction rows with
  | nil => rfl
  | cons r rows ih =>
    obtain ⟨x, y⟩ := r
    obtain ⟨hx, hrows⟩ := nodup_cons.1 distinct
    have hrest := ih hrows
    by_cases hk : k = x
    · subst hk
      have hnone : rows.lookup k = none :=
        lookup_eq_none_iff.2 fun r hr =>
          bne_iff_ne.2 fun heq => hx (mem_map.2 ⟨r, hr, heq.symm⟩)
      rw [hnone] at hrest
      by_cases hkeep : keep (k, y) = true
      · simp [hkeep, Option.filter]
      · rw [filter_cons_of_neg hkeep, hrest]
        simp [hkeep, Option.filter]
    · by_cases hkeep : keep (x, y) = true <;>
        simp [lookup_cons, hkeep, beq_eq_false_iff_ne.2 hk, hrest]

/-- Of a list whose keys differ, the part behind its beginning is what has none of
    the keys of the beginning. -/
theorem filter_notMem_map_take {f : α → κ} {l : List α} (h : (l.map f).Nodup) (n : Nat) :
    (l.filter fun a => !((l.take n).map f).contains (f a)) = l.drop n := by
  suffices hsplit : ∀ front back : List α, ((front ++ back).map f).Nodup →
      ((front ++ back).filter fun a => !(front.map f).contains (f a)) = back by
    have := hsplit (l.take n) (l.drop n)
    rw [take_append_drop] at this
    exact this h
  intro front back hnodup
  rw [map_append, nodup_append] at hnodup
  have hfront : front.filter (fun a => !(front.map f).contains (f a)) = [] := by
    rw [filter_eq_nil_iff]
    intro a ha
    simpa using ⟨a, ha, rfl⟩
  have hback : back.filter (fun a => !(front.map f).contains (f a)) = back := by
    rw [filter_eq_self]
    intro a ha
    have hnot : f a ∉ front.map f := fun hmem =>
      hnodup.2.2 _ hmem _ (mem_map_of_mem ha) rfl
    simpa using hnot
  rw [filter_append, hfront, hback, nil_append]

end Rows

/-! ## Changing one place -/

section Places

variable {α β : Type} {l : List α} {i : Nat} {x y : α}

theorem map_set_of_eq {f : α → β} (hx : l[i]? = some x) (hf : f y = f x) :
    (l.set i y).map f = l.map f := by
  obtain ⟨hi, rfl⟩ := getElem?_eq_some_iff.1 hx
  have hi' : i < (l.map f).length := by simpa using hi
  rw [map_set, hf, ← getElem_map f (h := hi'), set_getElem_self]

theorem filterMap_set_of_eq {f : α → Option β} (hx : l[i]? = some x) (hf : f y = f x) :
    (l.set i y).filterMap f = l.filterMap f := by
  have hmap (l : List α) : l.filterMap f = (l.map f).filterMap id := by
    rw [filterMap_map]
    rfl
  rw [hmap, map_set_of_eq hx hf, ← hmap]

theorem modify_map {f : α → β} {g : β → β} (hx : l[i]? = some x) (hg : g (f x) = f y) :
    (l.map f).modify i g = (l.set i y).map f := by
  rw [map_set, modify_eq_set_getElem?, getElem?_map, hx]
  simp [hg]

/-- A place that answered nothing is given something to answer. -/
theorem filterMap_set_perm {f : α → Option β} (hx : l[i]? = some x) (hnone : f x = none) :
    ((l.set i y).filterMap f).Perm (l.filterMap f ++ (f y).toList) := by
  induction l generalizing i with
  | nil => cases hx
  | cons a l ih =>
    cases i with
    | zero =>
      obtain rfl : a = x := Option.some.inj hx
      rw [set_cons_zero, filterMap_cons_none hnone]
      cases hy : f y with
      | none => simp [filterMap_cons_none hy]
      | some b => simpa [filterMap_cons_some hy] using (perm_append_singleton b _).symm
    | succ i =>
      have hrest := ih (i := i) hx
      rw [set_cons_succ]
      cases ha : f a with
      | none => simpa [filterMap_cons_none ha] using hrest
      | some b => simpa [filterMap_cons_some ha] using hrest

end Places

/-! ## Ends and bounds -/

theorem prefix_dropLast_iff {α : Type} {q ts : List α} (h : ts ≠ []) :
    q <+: ts.dropLast ↔ q.length < ts.length ∧ q <+: ts := by
  have hpos := length_pos_iff.2 h
  rw [dropLast_eq_take, prefix_take_iff, and_comm]
  exact and_congr_left fun _ => by omega

theorem insertIdx_length_append {α : Type} (before after : List α) (x : α) :
    (before ++ after).insertIdx before.length x = before ++ x :: after := by
  induction before with
  | nil => simp
  | cons y before ih => simp [ih]

theorem foldl_max_le {ns : List Nat} {m b : Nat} :
    ns.foldl max m ≤ b ↔ m ≤ b ∧ ∀ n ∈ ns, n ≤ b := by
  induction ns generalizing m with
  | nil => simp
  | cons n ns ih => simp [ih, and_assoc]

/-! ## Elements by key -/

section Sorting

variable {α κ : Type} [LinearOrder κ] {f : α → κ}

/-- A list sorted by a key is determined by what it has under each key. -/
theorem eq_of_filter_eq {l₁ l₂ : List α} (h₁ : l₁.Pairwise (f · ≤ f ·))
    (h₂ : l₂.Pairwise (f · ≤ f ·))
    (h : ∀ k, l₁.filter (f · = k) = l₂.filter (f · = k)) : l₁ = l₂ := by
  induction l₁ generalizing l₂ with
  | nil =>
    cases l₂ with
    | nil => rfl
    | cons b l₂ => simpa using h (f b)
  | cons a l₁ ih =>
    cases l₂ with
    | nil => simpa using h (f a)
    | cons b l₂ =>
      have hab : f a ≤ f b := by
        have hb : b ∈ (a :: l₁).filter (f · = f b) := by rw [h]; simp
        rcases mem_cons.1 (mem_filter.1 hb).1 with rfl | hb
        · exact le_rfl
        · exact rel_of_pairwise_cons h₁ hb
      have hba : f b ≤ f a := by
        have ha : a ∈ (b :: l₂).filter (f · = f a) := by rw [← h]; simp
        rcases mem_cons.1 (mem_filter.1 ha).1 with rfl | ha
        · exact le_rfl
        · exact rel_of_pairwise_cons h₂ ha
      have hk := le_antisymm hab hba
      have heq : a = b := by
        have := h (f a)
        simp only [filter_cons, hk] at this
        simpa using congrArg head? this
      subst heq
      refine congrArg _ (ih h₁.of_cons h₂.of_cons fun k => ?_)
      have := h k
      simp only [filter_cons] at this
      split_ifs at this
      · exact (cons.inj this).2
      · exact this

theorem pairwise_mergeSort_le (l : List α) :
    (l.mergeSort fun a b => f a ≤ f b).Pairwise (f · ≤ f ·) := by
  have := @pairwise_mergeSort α (fun a b => decide (f a ≤ f b))
    (by simpa using fun a b c => le_trans) (by simpa using fun a b => le_total _ _) l
  simpa using this

/-- Sorting keeps what is under each key, in the same order. -/
theorem filter_mergeSort (l : List α) (k : κ) :
    (l.mergeSort fun a b => f a ≤ f b).filter (f · = k) = l.filter (f · = k) := by
  have hsub : (l.filter (f · = k)).Sublist (l.mergeSort fun a b => f a ≤ f b) := by
    refine sublist_mergeSort (by simpa using fun a b c => le_trans)
      (by simpa using fun a b => le_total _ _) ?_ filter_sublist
    refine pairwise_of_forall_mem_list fun a ha b hb => ?_
    simp only [mem_filter, decide_eq_true_eq] at ha hb
    simp [ha.2, hb.2]
  have hsub' := hsub.filter (f · = k)
  rw [filter_filter] at hsub'
  simp only [Bool.and_self] at hsub'
  refine (hsub'.eq_of_length ?_).symm
  exact ((mergeSort_perm l _).filter _).length_eq.symm

end Sorting

/-- A search of which only one part finds anything. -/
theorem flatMap_eq_of_unique {α β : Type} {g : α → List β} {l : List α} (hl : l.Nodup) {a : α}
    (ha : a ∈ l) (h : ∀ b ∈ l, b ≠ a → g b = []) : l.flatMap g = g a := by
  induction l with
  | nil => simp at ha
  | cons b l ih =>
    obtain ⟨hb, hl⟩ := nodup_cons.1 hl
    rw [flatMap_cons]
    rcases mem_cons.1 ha with rfl | ha
    · have : l.flatMap g = [] := by
        rw [flatMap_eq_nil_iff]
        intro c hc
        exact h c (mem_cons_of_mem _ hc) (ne_of_mem_of_not_mem hc hb)
      rw [this, append_nil]
    · rw [h b mem_cons_self (ne_of_mem_of_not_mem ha hb).symm, nil_append]
      exact ih hl ha fun c hc => h c (mem_cons_of_mem _ hc)

/-- A list is put together from what it has under each of different keys, if
    everything is under one of them. -/
theorem perm_flatMap_filter {α κ : Type} [DecidableEq κ] {f : α → κ} {ks : List κ}
    (hks : ks.Nodup) {l : List α} (h : ∀ a ∈ l, f a ∈ ks) :
    (ks.flatMap fun k => l.filter (f · = k)).Perm l := by
  induction ks generalizing l with
  | nil =>
    have hnil : l = [] := eq_nil_iff_forall_not_mem.2 fun a ha => by cases h a ha
    simp [hnil]
  | cons k ks ih =>
    obtain ⟨hk, hks⟩ := nodup_cons.1 hks
    have hrest : ∀ a ∈ l.filter (fun a => !decide (f a = k)), f a ∈ ks := fun a ha => by
      obtain ⟨hal, hne⟩ := mem_filter.1 ha
      exact (mem_cons.1 (h a hal)).resolve_left (by simpa using hne)
    have hsame : ∀ k' ∈ ks, (l.filter fun a => !decide (f a = k)).filter (f · = k') =
        l.filter (f · = k') := fun k' hk' => by
      rw [filter_filter]
      refine filter_congr fun a _ => ?_
      by_cases ha : f a = k'
      · simp [ha, ne_of_mem_of_not_mem hk' hk]
      · simp [ha]
    have hperm := ih hks hrest
    rw [flatMap_congr hsame] at hperm
    exact (hperm.append_left _).trans (filter_append_perm (fun a => decide (f a = k)) l)

end List
