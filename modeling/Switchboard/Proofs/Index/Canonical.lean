import Switchboard.Proofs.Index.Entries

/-
  Nothing empty is kept.

  A removal drops a key without entries and cuts off a branch that holds
  nothing, so the shape of an index says no more than its entries do.

  * `Shelf.Full`, `Forest.Full`, `Index.Full`: every key has entries, every
    branch has some at its path or below;
  * `Forest.mem_paths_iff`: the branches of a full forest are the beginnings of
    the paths that have entries;
  * `Forest.rows_eq`: the branches in their order, each with what is above it;
  * `Index.full_run`: an index is full after any history.
-/

namespace Switchboard

/-! ## Shelves -/

namespace Shelf

variable {κ α : Type}

/-- Every key has entries. -/
def Full (s : Shelf κ α) : Prop := ∀ row ∈ s, row.2 ≠ []

theorem full_filter (keep : α → Bool) (s : Shelf κ α) : (filter keep s).Full := by
  intro row hrow
  obtain ⟨⟨k, es⟩, -, hkept⟩ := List.mem_filterMap.1 hrow
  dsimp only at hkept
  split_ifs at hkept with hes
  cases hkept
  exact fun hnil => hes (List.isEmpty_iff.2 hnil)

variable [DecidableEq κ]

theorem Full.insert {s : Shelf κ α} (h : s.Full) (k : κ) (a : α) : (Shelf.insert k a s).Full := by
  induction s with
  | nil => simp [Shelf.insert, Full]
  | cons row r ih =>
    obtain ⟨k', es⟩ := row
    obtain ⟨hes, hr⟩ := List.forall_mem_cons.1 h
    rw [Shelf.insert]
    split_ifs
    · exact List.forall_mem_cons.2 ⟨List.append_ne_nil_of_right_ne_nil _ (List.cons_ne_nil _ _), hr⟩
    · exact List.forall_mem_cons.2 ⟨hes, ih hr⟩

theorem Full.eraseAt {s : Shelf κ α} (h : s.Full) (keep : α → Bool) (k : κ) :
    (Shelf.eraseAt keep k s).Full := by
  induction s with
  | nil => exact h
  | cons row r ih =>
    obtain ⟨k', es⟩ := row
    obtain ⟨hes, hr⟩ := List.forall_mem_cons.1 h
    rw [Shelf.eraseAt]
    dsimp only
    split_ifs with hk hkept
    · exact hr
    · exact List.forall_mem_cons.2 ⟨fun hnil => hkept (List.isEmpty_iff.2 hnil), hr⟩
    · exact List.forall_mem_cons.2 ⟨hes, ih hr⟩

theorem Full.entriesAt_ne_nil {s : Shelf κ α} (h : s.Full) {k : κ} (hk : k ∈ s.keys) :
    entriesAt k s ≠ [] := by
  induction s with
  | nil => cases hk
  | cons row r ih =>
    obtain ⟨k', es⟩ := row
    obtain ⟨hes, hr⟩ := List.forall_mem_cons.1 h
    rw [entriesAt]
    split_ifs with hkk
    · exact hes
    · exact ih hr ((List.mem_cons.1 hk).resolve_left (Ne.symm hkk))

end Shelf

/-! ## Forests -/

namespace Forest

variable {α : Type}

/-- Every branch has entries, at its path or below. -/
def Full : Forest α → Prop
  | .empty => True
  | .branch _ es below next => (es ≠ [] ∨ below ≠ .empty) ∧ below.Full ∧ next.Full

theorem full_chain (a : α) (path : List String) : (chain a path).Full := by
  induction path with
  | nil => trivial
  | cons s r ih =>
    cases r with
    | nil => exact ⟨Or.inl (List.cons_ne_nil _ _), trivial, trivial⟩
    | cons t r =>
      refine ⟨Or.inr ?_, ih, trivial⟩
      cases r <;> simp [chain]

theorem insert_ne_empty (a : α) {f : Forest α} (h : f ≠ .empty) (path : List String) :
    f.insert a path ≠ .empty := by
  cases f with
  | empty => exact absurd rfl h
  | branch k es below next =>
    cases path with
    | nil => exact h
    | cons s r =>
      rw [insert]
      split_ifs <;> simp

theorem Full.insert {f : Forest α} (h : f.Full) (a : α) (path : List String) :
    (f.insert a path).Full := by
  induction f generalizing path with
  | empty => exact full_chain a path
  | branch k es below next ihb ihn =>
    obtain ⟨hes, hb, hn⟩ := h
    cases path with
    | nil => exact ⟨hes, hb, hn⟩
    | cons s r =>
      rw [Forest.insert]
      split_ifs
      · exact ⟨Or.inl (List.append_ne_nil_of_right_ne_nil _ (List.cons_ne_nil _ _)), hb, hn⟩
      · exact ⟨hes.imp_right fun hne => insert_ne_empty a hne r, ihb hb r, hn⟩
      · exact ⟨hes, hb, ihn hn (s :: r)⟩

/-- A branch is kept only if it holds something. -/
theorem full_grow (k : String) (es : List α) {below next : Forest α} (hb : below.Full)
    (hn : next.Full) : (grow k es below next).Full := by
  unfold grow
  split_ifs with h
  · exact hn
  · refine ⟨?_, hb, hn⟩
    rwa [Bool.and_eq_true, List.isEmpty_iff, isEmpty_iff, not_and_or] at h

theorem full_filter (keep : α → Bool) (f : Forest α) : (f.filter keep).Full := by
  induction f with
  | empty => trivial
  | branch k es below next ihb ihn => exact full_grow k _ ihb ihn

theorem Full.eraseAt {f : Forest α} (h : f.Full) (keep : α → Bool) (path : List String) :
    (f.eraseAt keep path).Full := by
  induction f generalizing path with
  | empty => trivial
  | branch k es below next ihb ihn =>
    obtain ⟨hes, hb, hn⟩ := h
    cases path with
    | nil => exact ⟨hes, hb, hn⟩
    | cons s r =>
      rw [Forest.eraseAt]
      split_ifs
      · exact full_grow k _ hb hn
      · exact full_grow k _ (ihb hb r) hn
      · exact ⟨hes, hb, ihn hn (s :: r)⟩

/-! ### Branches and entries -/

theorem mem_paths_of_append {f : Forest α} {q r : List String} (hq : q ≠ [])
    (h : q ++ r ∈ f.paths) : q ∈ f.paths := by
  induction f generalizing q with
  | empty => cases h
  | branch k es below next ihb ihn =>
    obtain ⟨s, q, rfl⟩ := List.exists_cons_of_ne_nil hq
    simp only [paths, List.cons_append, List.mem_cons, List.mem_append, List.mem_map,
      List.cons.injEq] at h ⊢
    rcases h with ⟨rfl, hnil⟩ | ⟨p, hp, rfl, rfl⟩ | h
    · exact Or.inl ⟨rfl, (List.append_eq_nil_iff.1 hnil).1⟩
    · by_cases hqnil : q = []
      · exact Or.inl ⟨rfl, hqnil⟩
      · exact Or.inr (Or.inl ⟨q, ihb hqnil hp, rfl, rfl⟩)
    · exact Or.inr (Or.inr (ihn (List.cons_ne_nil s q) h))

/-- At the end of every path of a full forest, or further on, there are
    entries. -/
theorem Full.exists_entries {f : Forest α} (hd : f.Distinct) (hf : f.Full) {q : List String}
    (h : q ∈ f.paths) : ∃ p, q <+: p ∧ f.entriesAt p ≠ [] := by
  induction f generalizing q with
  | empty => cases h
  | branch k es below next ihb ihn =>
    obtain ⟨hk, hdb, hdn⟩ := hd
    obtain ⟨hes, hfb, hfn⟩ := hf
    have hdown : ∀ q ∈ below.paths,
        ∃ p, k :: q <+: p ∧ (branch k es below next).entriesAt p ≠ [] := by
      intro q hq
      obtain ⟨p, hpre, hp⟩ := ihb hdb hfb hq
      have hpnil : p ≠ [] := by
        rintro rfl
        exact paths_ne_nil hq (List.prefix_nil.1 hpre)
      exact ⟨k :: p, List.cons_prefix_cons.2 ⟨rfl, hpre⟩, by simpa [entriesAt, hpnil] using hp⟩
    simp only [paths, List.cons_append, List.mem_cons, List.mem_append, List.mem_map] at h
    rcases h with rfl | ⟨r, hr, rfl⟩ | h
    · rcases hes with hes | hbelow
      · exact ⟨[k], List.prefix_refl _, by simpa [entriesAt] using hes⟩
      · cases hb : below with
        | empty => exact absurd hb hbelow
        | branch k' es' below' next' =>
          obtain ⟨p, hpre, hp⟩ := hdown [k'] (by simp [hb, paths])
          exact ⟨p, (List.prefix_append [k] [k']).trans hpre, hb ▸ hp⟩
    · exact hdown r hr
    · obtain ⟨p, hpre, hp⟩ := ihn hdn hfn h
      obtain ⟨s, r, rfl⟩ := List.exists_cons_of_ne_nil (paths_ne_nil h)
      obtain ⟨t, rfl⟩ := hpre
      have hne : k ≠ s := fun heq => hk (heq ▸ head_of_mem_paths h)
      exact ⟨s :: r ++ t, List.prefix_append _ _, by simpa [entriesAt, hne] using hp⟩

/-- **The branches of a full forest** are the beginnings of the paths that have
    entries. -/
theorem mem_paths_iff {f : Forest α} (hd : f.Distinct) (hf : f.Full) {q : List String} :
    q ∈ f.paths ↔ q ≠ [] ∧ ∃ p, q <+: p ∧ f.entriesAt p ≠ [] := by
  constructor
  · exact fun h => ⟨paths_ne_nil h, hf.exists_entries hd h⟩
  · rintro ⟨hq, p, ⟨r, rfl⟩, hp⟩
    exact mem_paths_of_append hq (mem_paths_of_entriesAt hp)

/-! ### Branches in their order -/

/-- The branches, each with the number of segments above it, its segment and
    its entries. -/
def rows : Nat → Forest α → List (Nat × String × List α)
  | _, .empty => []
  | depth, .branch k es below next => (depth, k, es) :: rows (depth + 1) below ++ rows depth next

/-- The segment at the end of a path. -/
def lastOf (path : List String) : String := path.getLast?.getD ""

theorem lastOf_cons (k : String) {q : List String} (hq : q ≠ []) : lastOf (k :: q) = lastOf q := by
  rw [lastOf, lastOf, List.getLast?_cons_of_ne_nil hq]

theorem rows_eq {f : Forest α} (hd : f.Distinct) (depth : Nat) :
    rows depth f = f.paths.map fun q => (depth + (q.length - 1), lastOf q, f.entriesAt q) := by
  induction f generalizing depth with
  | empty => rfl
  | branch k es below next ihb ihn =>
    obtain ⟨hk, hdb, hdn⟩ := hd
    have hbelow : ∀ q ∈ below.paths,
        (depth + 1 + (q.length - 1), lastOf q, below.entriesAt q) =
          (depth + ((k :: q).length - 1), lastOf (k :: q),
            (branch k es below next).entriesAt (k :: q)) := by
      intro q hq
      have hqnil := paths_ne_nil hq
      have hpos := List.length_pos_iff.2 hqnil
      have hdepth : depth + 1 + (q.length - 1) = depth + ((k :: q).length - 1) := by
        rw [List.length_cons]
        omega
      simp [hdepth, lastOf_cons k hqnil, entriesAt, hqnil]
    have hnext : ∀ q ∈ next.paths,
        (depth + (q.length - 1), lastOf q, next.entriesAt q) =
          (depth + (q.length - 1), lastOf q, (branch k es below next).entriesAt q) := by
      intro q hq
      obtain ⟨s, r, rfl⟩ := List.exists_cons_of_ne_nil (paths_ne_nil hq)
      have hne : k ≠ s := fun heq => hk (heq ▸ head_of_mem_paths hq)
      simp [entriesAt, hne]
    rw [rows, ihb hdb, ihn hdn, List.map_congr_left hbelow, List.map_congr_left hnext]
    simp [paths, lastOf, entriesAt, Function.comp_def]

end Forest

/-! ## The index -/

namespace Index

variable {H : Type} {x : Index H}

/-- No table keeps anything empty. -/
structure Full (x : Index H) : Prop where
  exact : x.exact.Full
  under : x.under.Full
  ending : x.ending.Full
  between : x.between.Full

theorem full_empty : ({} : Index H).Full :=
  ⟨List.forall_mem_nil _, trivial, trivial, List.forall_mem_nil _⟩

theorem Full.insert (h : x.Full) (s : Subscription H) : (x.insert s).Full := by
  unfold Index.insert
  cases s.pattern
  · exact ⟨h.exact.insert _ _, h.under, h.ending, h.between⟩
  · exact ⟨h.exact, h.under.insert _ _, h.ending, h.between⟩
  · exact ⟨h.exact, h.under, h.ending.insert _ _, h.between⟩
  · exact ⟨h.exact, h.under, h.ending, h.between.insert _ _⟩

theorem Full.eraseAt (h : x.Full) (keep : Subscription H → Bool) (p : Pattern) :
    (x.eraseAt keep p).Full := by
  cases p
  · exact ⟨h.exact.eraseAt _ _, h.under, h.ending, h.between⟩
  · exact ⟨h.exact, h.under.eraseAt _ _, h.ending, h.between⟩
  · exact ⟨h.exact, h.under, h.ending.eraseAt _ _, h.between⟩
  · exact ⟨h.exact, h.under, h.ending, h.between.eraseAt _ _⟩

theorem Full.erase (h : x.Full) (name id : String) : (x.erase name id).2.Full := by
  unfold Index.erase
  split
  · exact h
  · next p _ =>
    split
    · have herased := h.eraseAt (·.id ≠ id) p
      exact ⟨herased.exact, herased.under, herased.ending, herased.between⟩
    · exact h

theorem full_eraseWhere (x : Index H) (test : Subscription H → Bool) :
    (x.eraseWhere test).2.Full :=
  ⟨Shelf.full_filter _ _, Forest.full_filter _ _, Forest.full_filter _ _, Shelf.full_filter _ _⟩

theorem Full.change (h : x.Full) (c : Change H) : (x.change c).Full := by
  cases c with
  | add name id handler metadata =>
    simp only [Index.change]
    split
    · exact h.insert _
    · exact h
  | insert s name parsed => exact h.insert s
  | erase name id => exact h.erase name id
  | eraseWhere test => exact full_eraseWhere x test
  | clear => exact full_empty

/-- **Nothing empty is kept**, whatever was added, removed or cleared. -/
theorem full_run (cs : List (Change H)) : (run cs).Full := by
  have hrun : ∀ x : Index H, x.Full → (cs.foldl Index.change x).Full := by
    induction cs with
    | nil => exact fun _ h => h
    | cons c cs ih => exact fun x h => ih _ (h.change c)
  exact hrun _ full_empty

end Index

end Switchboard
