import Mathlib.Data.List.Nodup
import Switchboard.Index

/-
  Shelves and forests as tables.

  What matters about a shelf or a forest is which entries it has under a key or
  a path.  Every change is described by one equation for `entriesAt`.  Removing
  needs keys that differ: otherwise a branch that is dropped uncovers another
  one with the same key.

  * `Shelf.Distinct`, `Forest.Distinct`: no key occurs twice in a row;
  * `entriesAt_insert`, `entriesAt_eraseAt`, `entriesAt_filter` for both;
  * `Forest.along_eq`: a search along a path collects the entries under its
    beginnings.
-/

namespace Switchboard

/-! ## Shelves -/

namespace Shelf

variable {κ α : Type}

def keys (s : Shelf κ α) : List κ := s.map (·.1)

/-- No key occurs twice. -/
def Distinct (s : Shelf κ α) : Prop := s.keys.Nodup

theorem filter_cons (keep : α → Bool) (k : κ) (es : List α) (r : Shelf κ α) :
    filter keep ((k, es) :: r) =
      if (es.filter keep).isEmpty then filter keep r else (k, es.filter keep) :: filter keep r := by
  simp only [filter, List.filterMap_cons]
  split_ifs <;> rfl

theorem keys_filter_sublist (keep : α → Bool) (s : Shelf κ α) :
    (filter keep s).keys.Sublist s.keys := by
  induction s with
  | nil => exact List.Sublist.refl _
  | cons row r ih =>
    obtain ⟨k, es⟩ := row
    rw [filter_cons]
    split_ifs
    · exact ih.cons _
    · exact ih.cons_cons _

theorem Distinct.filter {s : Shelf κ α} (h : s.Distinct) (keep : α → Bool) :
    (Shelf.filter keep s).Distinct := h.sublist (keys_filter_sublist keep s)

variable [DecidableEq κ]

theorem entriesAt_of_notMem {k : κ} {s : Shelf κ α} (h : k ∉ s.keys) : entriesAt k s = [] := by
  induction s with
  | nil => rfl
  | cons row r ih =>
    obtain ⟨k', es⟩ := row
    simp only [keys, List.map_cons, List.mem_cons, not_or] at h
    rw [entriesAt, if_neg (Ne.symm h.1)]
    exact ih h.2

theorem keys_insert (k : κ) (a : α) (s : Shelf κ α) :
    (insert k a s).keys = if k ∈ s.keys then s.keys else s.keys ++ [k] := by
  induction s with
  | nil => simp [insert, keys]
  | cons row r ih =>
    obtain ⟨k', es⟩ := row
    by_cases h : k' = k
    · simp [insert, keys, h]
    · simp only [keys, List.map_cons, insert, if_neg h, List.mem_cons, Ne.symm h, false_or,
        List.cons_append] at ih ⊢
      rw [ih]; split_ifs with hk <;> simp only [if_pos, if_neg, hk, not_false_eq_true]

theorem Distinct.insert {s : Shelf κ α} (h : s.Distinct) (k : κ) (a : α) :
    (Shelf.insert k a s).Distinct := by
  unfold Distinct
  rw [keys_insert]
  split_ifs with hk
  · exact h
  · exact List.nodup_append.2 ⟨h, by simp, fun x hx y hy => by
      rw [List.mem_singleton.1 hy]; rintro rfl; exact hk hx⟩

theorem entriesAt_insert (k k' : κ) (a : α) (s : Shelf κ α) :
    entriesAt k' (insert k a s) = if k = k' then entriesAt k s ++ [a] else entriesAt k' s := by
  induction s with
  | nil => by_cases h : k = k' <;> simp [insert, entriesAt, h]
  | cons row r ih =>
    obtain ⟨k₀, es⟩ := row
    by_cases h₀ : k₀ = k
    · subst h₀; by_cases h : k₀ = k' <;> simp [insert, entriesAt, h]
    · by_cases h₁ : k₀ = k'
      · subst h₁; simp [insert, entriesAt, h₀, Ne.symm h₀]
      · simp [insert, entriesAt, h₀, h₁, ih]

theorem keys_eraseAt_sublist (keep : α → Bool) (k : κ) (s : Shelf κ α) :
    (eraseAt keep k s).keys.Sublist s.keys := by
  induction s with
  | nil => exact List.Sublist.refl _
  | cons row r ih =>
    obtain ⟨k₀, es⟩ := row
    simp only [eraseAt]
    split_ifs
    · exact (List.Sublist.refl _).cons _
    · exact List.Sublist.refl _
    · exact ih.cons_cons _

theorem Distinct.eraseAt {s : Shelf κ α} (h : s.Distinct) (keep : α → Bool) (k : κ) :
    (Shelf.eraseAt keep k s).Distinct := h.sublist (keys_eraseAt_sublist keep k s)

theorem entriesAt_filter {s : Shelf κ α} (h : s.Distinct) (keep : α → Bool) (k : κ) :
    entriesAt k (filter keep s) = (entriesAt k s).filter keep := by
  induction s with
  | nil => rfl
  | cons row r ih =>
    obtain ⟨k₀, es⟩ := row
    obtain ⟨hk₀, hr⟩ := List.nodup_cons.1 h
    rw [filter_cons]
    split_ifs with he
    · rw [ih hr]
      by_cases hk : k₀ = k
      · subst hk
        rw [entriesAt_of_notMem hk₀, entriesAt, if_pos rfl, List.isEmpty_iff.1 he]; rfl
      · rw [entriesAt, if_neg hk]
    · by_cases hk : k₀ = k
      · simp [entriesAt, hk]
      · simpa [entriesAt, hk] using ih hr

theorem entriesAt_eraseAt {s : Shelf κ α} (h : s.Distinct) (keep : α → Bool) (k k' : κ) :
    entriesAt k' (eraseAt keep k s) =
      if k = k' then (entriesAt k s).filter keep else entriesAt k' s := by
  induction s with
  | nil => simp [eraseAt, entriesAt]
  | cons row r ih =>
    obtain ⟨k₀, es⟩ := row
    obtain ⟨hk₀, hr⟩ := List.nodup_cons.1 h
    by_cases h₀ : k₀ = k
    · subst h₀
      simp only [eraseAt, if_true, entriesAt]
      by_cases he : (es.filter keep).isEmpty = true
      · rw [if_pos he]
        by_cases hk : k₀ = k'
        · subst hk; rw [if_pos rfl, entriesAt_of_notMem hk₀, List.isEmpty_iff.1 he]
        · rw [if_neg hk, if_neg hk]
      · rw [if_neg he, entriesAt]; split_ifs <;> rfl
    · by_cases h₁ : k₀ = k'
      · subst h₁; simp [eraseAt, entriesAt, h₀, Ne.symm h₀]
      · simp [eraseAt, entriesAt, h₀, h₁, ih hr]

end Shelf

/-! ## Forests -/

namespace Forest

variable {α : Type}

/-- The segments of the branches in a row. -/
def keys : Forest α → List String
  | .empty => []
  | .branch k _ _ next => k :: next.keys

/-- No segment occurs twice in a row of branches. -/
def Distinct : Forest α → Prop
  | .empty => True
  | .branch k _ below next => k ∉ next.keys ∧ below.Distinct ∧ next.Distinct

@[simp] theorem entriesAt_nil (f : Forest α) : f.entriesAt [] = [] := by cases f <;> rfl

@[simp] theorem isEmpty_iff {f : Forest α} : f.isEmpty = true ↔ f = .empty := by
  cases f <;> simp [isEmpty]

theorem entriesAt_of_notMem {s : String} {f : Forest α} (h : s ∉ f.keys) (r : List String) :
    f.entriesAt (s :: r) = [] := by
  induction f with
  | empty => rfl
  | branch k es below next _ ih =>
    simp only [keys, List.mem_cons, not_or] at h
    rw [entriesAt, if_neg (Ne.symm h.1), ih h.2]

/-! ### Filing -/

theorem entriesAt_chain (a : α) {path : List String} (h : path ≠ []) (path' : List String) :
    (chain a path).entriesAt path' = if path = path' then [a] else [] := by
  induction path generalizing path' with
  | nil => exact absurd rfl h
  | cons s r ih =>
    cases path' with
    | nil => simp
    | cons s' r' =>
      cases r with
      | nil => by_cases hs : s = s' <;> cases r' <;> simp [chain, entriesAt, hs]
      | cons t r =>
        rw [show chain a (s :: t :: r) = .branch s [] (chain a (t :: r)) .empty from rfl]
        by_cases hs : s = s'
        · cases r' with
          | nil => simp [entriesAt, hs]
          | cons t' r' => simp [entriesAt, hs, ih (by simp)]
        · simp [entriesAt, hs]

theorem entriesAt_insert (a : α) (f : Forest α) {path : List String} (h : path ≠ [])
    (path' : List String) :
    (f.insert a path).entriesAt path' =
      if path = path' then f.entriesAt path ++ [a] else f.entriesAt path' := by
  induction f generalizing path path' with
  | empty => rw [insert, entriesAt_chain a h]; simp [entriesAt]
  | branch k es below next ihb ihn =>
    cases path with
    | nil => exact absurd rfl h
    | cons s r =>
      cases path' with
      | nil => simp
      | cons s' r' =>
        simp only [insert]
        by_cases hks : k = s
        · subst hks
          rw [if_pos rfl]
          cases r with
          | nil => cases r' <;> by_cases hs : k = s' <;> simp [entriesAt, hs]
          | cons t r =>
            by_cases hs : k = s'
            · cases r' with
              | nil => simp [entriesAt, hs]
              | cons t' r' => simp [entriesAt, hs, ihb]
            · simp [entriesAt, hs]
        · rw [if_neg hks]
          by_cases hs : k = s'
          · subst hs; simp [entriesAt, Ne.symm hks]
          · simp [entriesAt, hs, hks, ihn]

theorem keys_chain_subset (a : α) (path : List String) {s : String} (h : s ∈ (chain a path).keys) :
    path.head? = some s := by
  match path with
  | [] => simp [chain, keys] at h
  | [t] => simpa [chain, keys, eq_comm] using h
  | t :: u :: r => simpa [chain, keys, eq_comm] using h

theorem keys_insert_subset (a : α) (f : Forest α) (path : List String) {s : String}
    (h : s ∈ (f.insert a path).keys) : s ∈ f.keys ∨ path.head? = some s := by
  induction f generalizing path with
  | empty => exact Or.inr (keys_chain_subset a path h)
  | branch k es below next _ ih =>
    match path with
    | [] => exact Or.inl h
    | t :: r =>
      simp only [insert] at h
      split_ifs at h
      · exact Or.inl h
      · exact Or.inl h
      · simp only [keys, List.mem_cons] at h ⊢
        rcases h with h | h
        · exact Or.inl (Or.inl h)
        · exact (ih (t :: r) h).imp_left Or.inr

theorem distinct_chain (a : α) (path : List String) : (chain a path).Distinct := by
  induction path with
  | nil => trivial
  | cons s r ih =>
    cases r with
    | nil => simp [chain, Distinct, keys]
    | cons t r => exact ⟨by simp [keys], ih, trivial⟩

theorem Distinct.insert {f : Forest α} (h : f.Distinct) (a : α) (path : List String) :
    (f.insert a path).Distinct := by
  induction f generalizing path with
  | empty => exact distinct_chain a path
  | branch k es below next ihb ihn =>
    obtain ⟨hk, hb, hn⟩ := h
    match path with
    | [] => exact ⟨hk, hb, hn⟩
    | s :: r =>
      simp only [Forest.insert]
      split_ifs with hks
      · exact ⟨hk, hb, hn⟩
      · exact ⟨hk, ihb hb r, hn⟩
      · refine ⟨fun hmem => ?_, hb, ihn hn (s :: r)⟩
        rcases keys_insert_subset a next (s :: r) hmem with hmem | hmem
        · exact hk hmem
        · exact hks (Option.some.inj hmem).symm

/-! ### Removing -/

theorem keys_grow_subset (k : String) (es : List α) (below next : Forest α) :
    (grow k es below next).keys ⊆ k :: next.keys := by
  unfold grow
  split_ifs
  · exact List.subset_cons_self _ _
  · exact List.Subset.refl _

theorem Distinct.grow {k : String} {next : Forest α} (hk : k ∉ next.keys) (hn : next.Distinct)
    (es : List α) {below : Forest α} (hb : below.Distinct) :
    (Forest.grow k es below next).Distinct := by
  unfold Forest.grow
  split_ifs
  · exact hn
  · exact ⟨hk, hb, hn⟩

/-- Cutting off a branch that holds nothing changes no entries. -/
theorem entriesAt_grow {k : String} {next : Forest α} (hk : k ∉ next.keys) (es : List α)
    (below : Forest α) (path : List String) :
    (grow k es below next).entriesAt path = (branch k es below next).entriesAt path := by
  unfold grow
  split_ifs with h
  · rw [Bool.and_eq_true, List.isEmpty_iff, isEmpty_iff] at h
    obtain ⟨rfl, rfl⟩ := h
    cases path with
    | nil => simp
    | cons s r =>
      by_cases hs : k = s
      · subst hs; rw [entriesAt_of_notMem hk]; simp [entriesAt]
      · simp [entriesAt, hs]
  · rfl

theorem keys_filter_subset (keep : α → Bool) (f : Forest α) : (f.filter keep).keys ⊆ f.keys := by
  induction f with
  | empty => exact List.Subset.refl _
  | branch k es below next _ ih =>
    exact List.Subset.trans (keys_grow_subset k _ _ _) (List.cons_subset_cons k ih)

theorem Distinct.filter {f : Forest α} (h : f.Distinct) (keep : α → Bool) :
    (f.filter keep).Distinct := by
  induction f with
  | empty => trivial
  | branch k es below next ihb ihn =>
    obtain ⟨hk, hb, hn⟩ := h
    exact .grow (fun hmem => hk (keys_filter_subset keep next hmem)) (ihn hn) _ (ihb hb)

theorem entriesAt_filter {f : Forest α} (h : f.Distinct) (keep : α → Bool) (path : List String) :
    (f.filter keep).entriesAt path = (f.entriesAt path).filter keep := by
  induction f generalizing path with
  | empty => rfl
  | branch k es below next ihb ihn =>
    obtain ⟨hk, hb, hn⟩ := h
    rw [Forest.filter, entriesAt_grow fun hmem => hk (keys_filter_subset keep next hmem)]
    cases path with
    | nil => simp
    | cons s r =>
      simp only [entriesAt]
      split_ifs
      · rfl
      · exact ihb hb r
      · exact ihn hn (s :: r)

theorem keys_eraseAt_subset (keep : α → Bool) (f : Forest α) (path : List String) :
    (f.eraseAt keep path).keys ⊆ f.keys := by
  induction f generalizing path with
  | empty => exact List.Subset.refl _
  | branch k es below next _ ih =>
    match path with
    | [] => exact List.Subset.refl _
    | s :: r =>
      simp only [eraseAt]
      split_ifs
      · exact keys_grow_subset k _ _ _
      · exact keys_grow_subset k _ _ _
      · exact List.cons_subset_cons k (ih (s :: r))

theorem Distinct.eraseAt {f : Forest α} (h : f.Distinct) (keep : α → Bool) (path : List String) :
    (f.eraseAt keep path).Distinct := by
  induction f generalizing path with
  | empty => trivial
  | branch k es below next ihb ihn =>
    obtain ⟨hk, hb, hn⟩ := h
    match path with
    | [] => exact ⟨hk, hb, hn⟩
    | s :: r =>
      simp only [Forest.eraseAt]
      split_ifs
      · exact .grow hk hn _ hb
      · exact .grow hk hn _ (ihb hb r)
      · exact ⟨fun hmem => hk (keys_eraseAt_subset keep next _ hmem), hb, ihn hn (s :: r)⟩

theorem entriesAt_eraseAt {f : Forest α} (h : f.Distinct) (keep : α → Bool)
    (path path' : List String) :
    (f.eraseAt keep path).entriesAt path' =
      if path = path' then (f.entriesAt path).filter keep else f.entriesAt path' := by
  induction f generalizing path path' with
  | empty => simp [eraseAt, entriesAt]
  | branch k es below next ihb ihn =>
    obtain ⟨hk, hb, hn⟩ := h
    match path, path' with
    | [], [] => simp
    | [], s' :: r' => simp [eraseAt]
    | s :: r, [] => simp
    | s :: r, s' :: r' =>
      simp only [eraseAt]
      by_cases hks : k = s
      · subst hks
        rw [if_pos rfl]
        cases r with
        | nil =>
          rw [List.isEmpty_nil, if_pos rfl, entriesAt_grow hk]
          cases r' <;> by_cases hs : k = s' <;> simp [entriesAt, hs]
        | cons t r =>
          rw [if_neg (by simp), entriesAt_grow hk]
          by_cases hs : k = s'
          · cases r' with
            | nil => simp [entriesAt, hs]
            | cons t' r' => simp [entriesAt, hs, ihb hb]
          · simp [entriesAt, hs]
      · rw [if_neg hks]
        by_cases hs : k = s'
        · subst hs; simp [entriesAt, Ne.symm hks]
        · simp [entriesAt, hs, hks, ihn hn]

/-! ### Searching -/

/-- The beginnings of a path, shortest first. -/
def heads (path : List String) : List (List String) :=
  (List.range path.length).map fun i => path.take (i + 1)

theorem heads_cons (s : String) (r : List String) : heads (s :: r) = [s] :: (heads r).map (s :: ·) := by
  simp [heads, List.range_succ_eq_map, Function.comp_def]

/-- **A search along a path collects the entries under its beginnings.** -/
theorem along_eq (f : Forest α) (path : List String) :
    f.along path = (heads path).flatMap f.entriesAt := by
  induction f generalizing path with
  | empty => simp [along, entriesAt]
  | branch k es below next ihb ihn =>
    match path with
    | [] => rfl
    | s :: r =>
      simp only [along]
      by_cases hks : k = s
      · subst hks
        rw [if_pos rfl, heads_cons, List.flatMap_cons, List.flatMap_map, ihb]
        have hbelow : ∀ q ∈ heads r,
            (branch k es below next).entriesAt (k :: q) = below.entriesAt q := by
          intro q hq
          obtain ⟨i, hi, rfl⟩ := List.mem_map.1 hq
          rw [List.mem_range] at hi
          rw [entriesAt, if_pos rfl, if_neg]
          simp only [List.isEmpty_iff, List.take_eq_nil_iff]
          rintro (h | rfl)
          · omega
          · simp at hi
        rw [List.flatMap_congr hbelow]
        simp [entriesAt]
      · rw [if_neg hks, ihn]
        refine List.flatMap_congr fun q hq => ?_
        obtain ⟨i, -, rfl⟩ := List.mem_map.1 hq
        simp [entriesAt, hks]

end Forest

end Switchboard
