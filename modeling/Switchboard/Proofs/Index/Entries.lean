import Switchboard.Proofs.Index.Matching

/-
  Everything an index stores.

  * `Forest.paths` are the paths of the branches of a forest, `toList_eq` lists
    its entries path by path;
  * `Index.shelfmarks` are the patterns under which an index can have entries;
  * `Mirrors.entries_perm`: what an index stores is what it mirrors;
  * `entries_eraseWhere`: what is stored after a removal, in the same order;
  * `Mirrors.find?_eq`, `Mirrors.erase_of_mem`: whatever is stored is found, and
    removed, by the text of its pattern and its id.
-/

namespace Switchboard

/-! ## Shelves and forests -/

namespace Shelf

variable {κ α : Type} [DecidableEq κ]

theorem toList_eq {s : Shelf κ α} (h : s.Distinct) :
    toList s = s.keys.flatMap (entriesAt · s) := by
  induction s with
  | nil => rfl
  | cons row r ih =>
    obtain ⟨k, es⟩ := row
    obtain ⟨hk, hr⟩ := List.nodup_cons.1 h
    have hother : ∀ k' ∈ keys r, entriesAt k' ((k, es) :: r) = entriesAt k' r := fun k' hk' => by
      have hne : k ≠ k' := fun heq => hk (heq ▸ hk')
      simp [entriesAt, hne]
    calc toList ((k, es) :: r) = es ++ toList r := rfl
      _ = es ++ (keys r).flatMap (entriesAt · ((k, es) :: r)) := by
        rw [ih hr, List.flatMap_congr hother]
      _ = (keys ((k, es) :: r)).flatMap (entriesAt · ((k, es) :: r)) := by
        simp [keys, entriesAt]

omit [DecidableEq κ] in
theorem toList_filter (keep : α → Bool) (s : Shelf κ α) :
    toList (filter keep s) = (toList s).filter keep := by
  induction s with
  | nil => rfl
  | cons row r ih =>
    obtain ⟨k, es⟩ := row
    have hrow : toList ((k, es) :: r) = es ++ toList r := rfl
    rw [filter_cons, hrow, List.filter_append, ← ih]
    split_ifs with hes
    · rw [List.isEmpty_iff.1 hes, List.nil_append]
    · rfl

end Shelf

namespace Forest

variable {α : Type}

theorem toList_grow (k : String) (es : List α) (below next : Forest α) :
    (grow k es below next).toList = es ++ below.toList ++ next.toList := by
  unfold grow
  split_ifs with h
  · obtain ⟨hes, hbelow⟩ := Bool.and_eq_true_iff.1 h
    cases below with
    | empty => simp [List.isEmpty_iff.1 hes, toList]
    | branch => cases hbelow
  · rfl

theorem toList_filter (keep : α → Bool) (f : Forest α) :
    (f.filter keep).toList = f.toList.filter keep := by
  induction f with
  | empty => rfl
  | branch k es below next ihb ihn =>
    rw [filter, toList_grow, ihb, ihn, toList, List.filter_append, List.filter_append]

/-- The paths of the branches. -/
def paths : Forest α → List (List String)
  | .empty => []
  | .branch k _ below next => [k] :: below.paths.map (k :: ·) ++ next.paths

theorem paths_ne_nil {f : Forest α} {q : List String} (h : q ∈ f.paths) : q ≠ [] := by
  induction f with
  | empty => cases h
  | branch k es below next _ ih =>
    simp only [paths, List.cons_append, List.mem_cons, List.mem_append, List.mem_map] at h
    rcases h with rfl | ⟨r, -, rfl⟩ | h
    · exact List.cons_ne_nil _ _
    · exact List.cons_ne_nil _ _
    · exact ih h

/-- A path begins with the segment of a branch of the first row. -/
theorem head_of_mem_paths {f : Forest α} {s : String} {r : List String} (h : s :: r ∈ f.paths) :
    s ∈ f.keys := by
  induction f with
  | empty => cases h
  | branch k es below next _ ih =>
    simp only [paths, List.cons_append, List.mem_cons, List.mem_append, List.mem_map,
      List.cons.injEq] at h
    rcases h with ⟨rfl, -⟩ | ⟨q, -, rfl, -⟩ | h
    · exact List.mem_cons_self
    · exact List.mem_cons_self
    · exact List.mem_cons_of_mem _ (ih h)

theorem nodup_paths {f : Forest α} (h : f.Distinct) : f.paths.Nodup := by
  induction f with
  | empty => exact List.nodup_nil
  | branch k es below next ihb ihn =>
    obtain ⟨hk, hb, hn⟩ := h
    have hbelow : (below.paths.map (k :: ·)).Nodup :=
      (ihb hb).map fun _ _ heq => (List.cons.inj heq).2
    have hfirst : ([k] :: below.paths.map (k :: ·)).Nodup := by
      refine List.nodup_cons.2 ⟨fun hmem => ?_, hbelow⟩
      obtain ⟨q, hq, heq⟩ := List.mem_map.1 hmem
      exact paths_ne_nil hq (List.cons.inj heq).2
    refine hfirst.append (ihn hn) fun q hq hq' => ?_
    have hhead : ∃ r, q = k :: r := by
      rcases List.mem_cons.1 hq with rfl | hq
      · exact ⟨[], rfl⟩
      · obtain ⟨r, -, rfl⟩ := List.mem_map.1 hq
        exact ⟨r, rfl⟩
    obtain ⟨r, rfl⟩ := hhead
    exact hk (head_of_mem_paths hq')

theorem toList_eq {f : Forest α} (h : f.Distinct) : f.toList = f.paths.flatMap f.entriesAt := by
  induction f with
  | empty => rfl
  | branch k es below next ihb ihn =>
    obtain ⟨hk, hb, hn⟩ := h
    have hbelow : ∀ q ∈ below.paths,
        (branch k es below next).entriesAt (k :: q) = below.entriesAt q := fun q hq => by
      simp [entriesAt, paths_ne_nil hq]
    have hnext : ∀ q ∈ next.paths,
        (branch k es below next).entriesAt q = next.entriesAt q := fun q hq => by
      obtain ⟨s, r, rfl⟩ := List.exists_cons_of_ne_nil (paths_ne_nil hq)
      have hne : k ≠ s := fun heq => hk (heq ▸ head_of_mem_paths hq)
      simp [entriesAt, hne]
    rw [toList, ihb hb, ihn hn, paths, List.flatMap_append, List.flatMap_cons, List.flatMap_map,
      List.flatMap_congr hbelow, List.flatMap_congr hnext]
    simp [entriesAt]

/-- What is stored is stored under the path of a branch. -/
theorem mem_paths_of_entriesAt {f : Forest α} {q : List String} (h : f.entriesAt q ≠ []) :
    q ∈ f.paths := by
  induction f generalizing q with
  | empty => exact absurd rfl h
  | branch k es below next ihb ihn =>
    rcases q with _ | ⟨s, r⟩
    · exact absurd rfl h
    rw [entriesAt] at h
    simp only [paths, List.cons_append, List.mem_cons, List.mem_append, List.mem_map,
      List.cons.injEq]
    split_ifs at h with hs hr
    · exact Or.inl ⟨hs.symm, List.isEmpty_iff.1 hr⟩
    · exact Or.inr (Or.inl ⟨r, ihb h, hs, rfl⟩)
    · exact Or.inr (Or.inr (ihn h))

end Forest

/-! ## The index -/

namespace Index

variable {H : Type}

theorem size_insert (x : Index H) (s : Subscription H) : (x.insert s).size = x.size + 1 := by
  unfold insert
  cases s.pattern <;> rfl

/-- **Removing what satisfies a test** leaves everything else, in its order. -/
theorem entries_eraseWhere (x : Index H) (test : Subscription H → Bool) :
    (x.eraseWhere test).2.entries = x.entries.filter fun s => !test s := by
  simp only [eraseWhere, entries, Shelf.toList_filter, Forest.toList_filter, List.filter_append]

/-- The patterns under which there can be entries. -/
def shelfmarks (x : Index H) : List Pattern :=
  x.exact.keys.map .exact ++ x.under.paths.map .under ++
    x.ending.paths.map (fun q => .ending q.reverse) ++
    x.between.keys.map fun k => .between k.1 k.2

namespace Mirrors

variable {x : Index H} {live : List (Subscription H)}

theorem nodup_shelfmarks (h : x.Mirrors live) : x.shelfmarks.Nodup := by
  have hexact : (x.exact.keys.map Pattern.exact).Nodup := h.exact.map fun _ _ => Pattern.exact.inj
  have hunder : (x.under.paths.map Pattern.under).Nodup :=
    (Forest.nodup_paths h.under).map fun _ _ => Pattern.under.inj
  have hending : (x.ending.paths.map fun q => Pattern.ending q.reverse).Nodup :=
    (Forest.nodup_paths h.ending).map fun _ _ heq =>
      List.reverse_injective (Pattern.ending.inj heq)
  have hbetween : (x.between.keys.map fun k => Pattern.between k.1 k.2).Nodup :=
    h.between.map fun _ _ heq => Prod.ext (Pattern.between.inj heq).1 (Pattern.between.inj heq).2
  refine ((hexact.append hunder ?_).append hending ?_).append hbetween ?_
  all_goals
    intro p hp hp'
    obtain ⟨_, -, rfl⟩ := List.mem_map.1 hp'
    simp at hp

theorem entries_eq (h : x.Mirrors live) : x.entries = x.shelfmarks.flatMap x.entriesAt := by
  simp only [entries, shelfmarks, Shelf.toList_eq h.exact, Shelf.toList_eq h.between,
    Forest.toList_eq h.under, Forest.toList_eq h.ending, List.flatMap_append, List.flatMap_map,
    Index.entriesAt, List.reverse_reverse]

theorem mem_shelfmarks {p : Pattern} (hp : x.entriesAt p ≠ []) : p ∈ x.shelfmarks := by
  simp only [shelfmarks, List.mem_append, List.mem_map]
  cases p with
  | exact t =>
    exact Or.inl (Or.inl (Or.inl
      ⟨t, Classical.byContradiction fun ht => hp (Shelf.entriesAt_of_notMem ht), rfl⟩))
  | under fixed => exact Or.inl (Or.inl (Or.inr ⟨fixed, Forest.mem_paths_of_entriesAt hp, rfl⟩))
  | ending fixed =>
    exact Or.inl (Or.inr
      ⟨fixed.reverse, Forest.mem_paths_of_entriesAt hp, congrArg _ (List.reverse_reverse _)⟩)
  | between before after =>
    exact Or.inr
      ⟨(before, after), Classical.byContradiction fun hk => hp (Shelf.entriesAt_of_notMem hk), rfl⟩

/-- **What an index stores** is the list it mirrors, in some order. -/
theorem entries_perm (h : x.Mirrors live) : x.entries.Perm live := by
  rw [h.entries_eq, List.flatMap_congr fun p _ => h.entriesAt p]
  refine List.perm_flatMap_filter h.nodup_shelfmarks fun s hs => mem_shelfmarks ?_
  rw [h.entriesAt]
  exact List.ne_nil_of_mem (List.mem_filter.2 ⟨hs, by simp⟩)

/-- **Whatever is stored is found** under the text of its pattern. -/
theorem find?_eq (h : x.Mirrors live) (hids : (live.map (·.id)).Nodup) {s : Subscription H}
    (hs : s ∈ live) : x.find? s.pattern.text s.id = some s := by
  have hparse : Pattern.parse s.pattern.text = .ok s.pattern := h.parsed s hs
  have hmem : s ∈ live.filter (·.pattern = s.pattern) := List.mem_filter.2 ⟨hs, by simp⟩
  simp only [find?, hparse, h.entriesAt]
  rcases hfound : (live.filter (·.pattern = s.pattern)).find? (·.id = s.id) with _ | s'
  · exact absurd (List.find?_eq_none.1 hfound s hmem) (by simp)
  · have hs' := (List.mem_filter.1 (List.mem_of_find?_eq_some hfound)).1
    have hid : s'.id = s.id := by simpa using List.find?_some hfound
    rw [hfound, List.inj_on_of_nodup_map hids hs' hs hid]

/-- Whatever is stored is removed by the text of its pattern, and counted out. -/
theorem erase_of_mem (h : x.Mirrors live) {s : Subscription H} (hs : s ∈ live) :
    (x.erase s.pattern.text s.id).1 = true ∧
      (x.erase s.pattern.text s.id).2.size = x.size - 1 := by
  have hparse : Pattern.parse s.pattern.text = .ok s.pattern := h.parsed s hs
  have hany : (x.entriesAt s.pattern).any (·.id = s.id) = true := by
    rw [h.entriesAt, List.any_eq_true]
    exact ⟨s, List.mem_filter.2 ⟨hs, by simp⟩, by simp⟩
  simp [Index.erase, hparse, hany]

end Mirrors

end Index

end Switchboard
