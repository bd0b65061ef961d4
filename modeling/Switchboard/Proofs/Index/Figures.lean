import Mathlib.Data.List.Dedup
import Mathlib.Data.List.Perm.Basic
import Switchboard.Proofs.Index.Canonical
import Switchboard.Proofs.Index.Count

/-
  The figures of an index, read off the live subscriptions.

  * `patterns` are the different patterns of a list of subscriptions, `branches`
    the different beginnings of some paths, `figures` what an index that holds
    the list has to show;
  * `occupied`: the patterns that have entries, form by form;
  * `stats_eq`: an index in which nothing empty is kept shows the figures of
    what it holds;
  * `without`: a history without some subscriptions, `live_without`: what it
    leaves is what the whole history leaves of the others;
  * `stats_run`: the figures after any history in which no id is used twice.
-/

namespace Switchboard.Index

variable {H : Type}

/-! ## What the figures ought to be -/

/-- The different patterns of subscriptions. -/
def patterns (held : List (Subscription H)) : List Pattern := (held.map (·.pattern)).dedup

def ofKind (kind : PatternKind) (ps : List Pattern) : List Pattern := ps.filter (·.kind = kind)

/-- The fixed segments of the patterns that end with the wildcard. -/
def underPaths (ps : List Pattern) : List (List String) :=
  ps.filterMap fun
    | .under fixed => some fixed
    | _ => none

/-- The fixed segments, last one first, of the patterns that begin with the
    wildcard. -/
def endingPaths (ps : List Pattern) : List (List String) :=
  ps.filterMap fun
    | .ending fixed => some fixed.reverse
    | _ => none

/-- The different non-empty beginnings of some paths. -/
def branches (paths : List (List String)) : List (List String) :=
  (paths.flatMap Forest.heads).dedup

/-- The keys of the nodes under which patterns are filed. -/
def nodeKeys (ps : List Pattern) : List String :=
  (ofKind .exact ps).map Pattern.text ++ (branches (underPaths ps)).map Forest.lastOf ++
    (branches (endingPaths ps)).map Forest.lastOf ++ (ofKind .between ps).map Pattern.text

/-- The figures of an index that holds some subscriptions and nothing else. -/
def figures (held : List (Subscription H)) : IndexStats :=
  let ps := patterns held
  { nodes := (ofKind .exact ps).length + (ofKind .between ps).length +
      (branches (underPaths ps)).length + (branches (endingPaths ps)).length
    subscriptions := held.length
    exact := (ofKind .exact ps).length
    under := (ofKind .under ps).length
    ending := (ofKind .ending ps).length
    between := (ofKind .between ps).length
    maxDepth := (ps.map Pattern.depth).foldl max 0
    depthSum := addUp (ps.map Pattern.depth)
    memory := addUp ((nodeKeys ps).map fun key => nodeCost + key.utf8ByteSize) + cost held }

theorem mem_patterns {held : List (Subscription H)} {p : Pattern} :
    p ∈ patterns held ↔ ∃ s ∈ held, s.pattern = p := by
  rw [patterns, List.mem_dedup, List.mem_map]

/-! ## Sums and maxima -/

@[simp] theorem addUp_nil : addUp [] = 0 := rfl

@[simp] theorem addUp_cons (n : Nat) (ns : List Nat) : addUp (n :: ns) = n + addUp ns := rfl

@[simp] theorem addUp_append (l r : List Nat) : addUp (l ++ r) = addUp l + addUp r := by
  induction l with
  | nil => simp
  | cons n l ih => simp [ih, Nat.add_assoc]

theorem addUp_perm {l r : List Nat} (h : l.Perm r) : addUp l = addUp r := by
  induction h with
  | nil => rfl
  | cons n _ ih => simp [ih]
  | swap m n l => simp [Nat.add_left_comm]
  | trans _ _ ih₁ ih₂ => exact ih₁.trans ih₂

/-- A quantity that some elements do not have is summed over the others. -/
theorem addUp_map_ite {α : Type} (none : α → Bool) (f : α → Nat) (l : List α) :
    addUp (l.map fun a => if none a then 0 else f a) = addUp ((l.filter (!none ·)).map f) := by
  induction l with
  | nil => rfl
  | cons a l ih => cases h : none a <;> simp [h, ih]

theorem addUp_map_one {α : Type} (l : List α) : addUp (l.map fun _ => 1) = l.length := by
  induction l with
  | nil => rfl
  | cons a l ih => rw [List.map_cons, addUp_cons, ih, List.length_cons, Nat.add_comm]

theorem cost_append (l r : List (Subscription H)) : cost (l ++ r) = cost l + cost r := by
  simp [cost]

theorem cost_perm {l r : List (Subscription H)} (h : l.Perm r) : cost l = cost r :=
  addUp_perm (h.map _)

/-! ## Figures of a table -/

theorem total_eq_rows {α : Type} (f : Nat → String → List α → Nat) (depth : Nat) (t : Forest α) :
    t.total f depth = addUp ((t.rows depth).map fun (d, k, es) => f d k es) := by
  induction t generalizing depth with
  | empty => rfl
  | branch k es below next ihb ihn =>
    simp [Forest.total, Forest.rows, ihb, ihn, Nat.add_assoc]

theorem greatest_le_iff {α : Type} (f : Nat → List α → Nat) (depth : Nat) (t : Forest α) {b : Nat} :
    t.greatest f depth ≤ b ↔ ∀ row ∈ t.rows depth, f row.1 row.2.2 ≤ b := by
  induction t generalizing depth with
  | empty => simp [Forest.greatest, Forest.rows]
  | branch k es below next ihb ihn =>
    simp [Forest.greatest, Forest.rows, ihb, ihn, or_imp, forall_and]

theorem total_one {α : Type} (t : Forest α) (depth : Nat) :
    t.total (fun _ _ _ => 1) depth = t.paths.length := by
  induction t generalizing depth with
  | empty => rfl
  | branch k es below next ihb ihn =>
    simp [Forest.total, Forest.paths, ihb, ihn]
    omega

/-- The memory of a forest is that of its branches and of its entries. -/
theorem total_memory (t : Forest (Subscription H)) (depth : Nat) :
    t.total (fun _ k es => nodeCost + k.utf8ByteSize + cost es) depth =
      addUp (t.paths.map fun q => nodeCost + (Forest.lastOf q).utf8ByteSize) + cost t.toList := by
  induction t generalizing depth with
  | empty => rfl
  | branch k es below next ihb ihn =>
    have hbelow : below.paths.map (fun q => nodeCost + (Forest.lastOf (k :: q)).utf8ByteSize) =
        below.paths.map fun q => nodeCost + (Forest.lastOf q).utf8ByteSize :=
      List.map_congr_left fun q hq => by rw [Forest.lastOf_cons k (Forest.paths_ne_nil hq)]
    have hfirst : Forest.lastOf [k] = k := rfl
    simp only [Forest.total, Forest.paths, Forest.toList, List.cons_append, List.map_cons,
      List.map_append, List.map_map, Function.comp_def, addUp_cons, addUp_append, cost_append, ihb,
      ihn, hbelow, hfirst]
    omega

theorem shelf_memory {κ : Type} (f : κ → Nat) (s : Shelf κ (Subscription H)) :
    addUp (s.map fun row => f row.1 + cost row.2) = addUp (s.keys.map f) + cost (Shelf.toList s) := by
  induction s with
  | nil => rfl
  | cons row r ih =>
    obtain ⟨k, es⟩ := row
    have hlist : Shelf.toList ((k, es) :: r) = es ++ Shelf.toList r := rfl
    simp only [Shelf.keys] at ih
    simp only [Shelf.keys, List.map_cons, addUp_cons, ih, hlist, cost_append]
    omega

/-- The paths that have entries. -/
def ends (t : Forest (Subscription H)) : List (List String) :=
  t.paths.filter fun q => !(t.entriesAt q).isEmpty

theorem patternsIn_eq {t : Forest (Subscription H)} (h : t.Distinct) :
    patternsIn t = (ends t).length := by
  rw [patternsIn, total_eq_rows, Forest.rows_eq h, List.map_map, ends, ← addUp_map_one]
  exact addUp_map_ite (fun q => (t.entriesAt q).isEmpty) (fun _ => 1) t.paths

theorem depths_eq {t : Forest (Subscription H)} (h : t.Distinct) :
    t.total (fun d _ es => branchDepth d es) 0 = addUp ((ends t).map (·.length + 1)) := by
  rw [total_eq_rows, Forest.rows_eq h, List.map_map, ends, ← addUp_map_ite]
  refine congrArg addUp (List.map_congr_left fun q hq => ?_)
  have hpos := List.length_pos_iff.2 (Forest.paths_ne_nil hq)
  simp only [Function.comp_def, branchDepth]
  split_ifs
  · rfl
  · omega

theorem greatest_le {t : Forest (Subscription H)} (h : t.Distinct) {b : Nat} :
    t.greatest branchDepth 0 ≤ b ↔ ∀ q ∈ ends t, q.length + 1 ≤ b := by
  rw [greatest_le_iff, Forest.rows_eq h, List.forall_mem_map]
  simp only [ends, List.mem_filter, Bool.not_eq_true', and_imp]
  refine forall₂_congr fun q hq => ?_
  have hpos := List.length_pos_iff.2 (Forest.paths_ne_nil hq)
  rw [branchDepth]
  split_ifs with hes
  · simp [hes]
  · simp only [Bool.not_eq_true _ ▸ hes, forall_const]
    omega

/-! ## Patterns that have entries -/

/-- The patterns that have entries, form by form. -/
def occupied (x : Index H) : List Pattern :=
  x.exact.keys.map .exact ++ (ends x.under).map .under ++
    (ends x.ending).map (fun q => .ending q.reverse) ++
    x.between.keys.map fun k => .between k.1 k.2

variable {x : Index H} {held : List (Subscription H)}

theorem occupied_eq (h : x.Full) :
    x.occupied = x.shelfmarks.filter fun p => !(x.entriesAt p).isEmpty := by
  have hexact : x.exact.keys.filter (fun t => !(Shelf.entriesAt t x.exact).isEmpty) =
      x.exact.keys := List.filter_eq_self.2 fun t ht => by simpa using h.exact.entriesAt_ne_nil ht
  have hbetween : x.between.keys.filter (fun k => !(Shelf.entriesAt k x.between).isEmpty) =
      x.between.keys :=
    List.filter_eq_self.2 fun k hk => by simpa using h.between.entriesAt_ne_nil hk
  simp only [occupied, shelfmarks, ends, List.filter_append, List.filter_map, Function.comp_def,
    Index.entriesAt, List.reverse_reverse, hexact, hbetween, Prod.mk.eta]

theorem Mirrors.entriesAt_ne_nil (h : x.Mirrors held) {p : Pattern} :
    x.entriesAt p ≠ [] ↔ p ∈ patterns held := by
  rw [h.entriesAt, mem_patterns, Ne, List.filter_eq_nil_iff]
  simp

/-- The patterns that have entries are those of the subscriptions held. -/
theorem Mirrors.occupied_perm (h : x.Mirrors held) (hf : x.Full) :
    x.occupied.Perm (patterns held) := by
  rw [occupied_eq hf]
  refine (List.perm_ext_iff_of_nodup (h.nodup_shelfmarks.filter _) (List.nodup_dedup _)).2
    fun p => ?_
  rw [List.mem_filter, ← patterns, ← h.entriesAt_ne_nil]
  exact ⟨fun hp => by simpa using hp.2, fun hp => ⟨mem_shelfmarks hp, by simpa using hp⟩⟩

theorem ofKind_exact (x : Index H) : ofKind .exact x.occupied = x.exact.keys.map .exact := by
  simp [ofKind, occupied, List.filter_map, Function.comp_def, Pattern.kind]

theorem ofKind_under (x : Index H) : ofKind .under x.occupied = (ends x.under).map .under := by
  simp [ofKind, occupied, List.filter_map, Function.comp_def, Pattern.kind]

theorem ofKind_ending (x : Index H) :
    ofKind .ending x.occupied = (ends x.ending).map fun q => .ending q.reverse := by
  simp [ofKind, occupied, List.filter_map, Function.comp_def, Pattern.kind]

theorem ofKind_between (x : Index H) :
    ofKind .between x.occupied = x.between.keys.map fun k => .between k.1 k.2 := by
  simp [ofKind, occupied, List.filter_map, Function.comp_def, Pattern.kind]

theorem mem_branches {paths : List (List String)} {q : List String} :
    q ∈ branches paths ↔ q ≠ [] ∧ ∃ p ∈ paths, q <+: p := by
  simp only [branches, List.mem_dedup, List.mem_flatMap, Pattern.mem_heads]
  constructor
  · rintro ⟨p, hp, hq, hpre⟩
    exact ⟨hq, p, hp, hpre⟩
  · rintro ⟨hq, p, hp, hpre⟩
    exact ⟨p, hp, hq, hpre⟩

theorem mem_underPaths {ps : List Pattern} {p : List String} :
    p ∈ underPaths ps ↔ .under p ∈ ps := by
  simp only [underPaths, List.mem_filterMap]
  constructor
  · rintro ⟨q, hq, hsome⟩
    split at hsome
    · cases hsome
      exact hq
    · cases hsome
  · exact fun hp => ⟨_, hp, rfl⟩

theorem mem_endingPaths {ps : List Pattern} {p : List String} :
    p ∈ endingPaths ps ↔ .ending p.reverse ∈ ps := by
  simp only [endingPaths, List.mem_filterMap]
  constructor
  · rintro ⟨q, hq, hsome⟩
    split at hsome
    · cases hsome
      rwa [List.reverse_reverse]
    · cases hsome
  · exact fun hp => ⟨_, hp, congrArg some (List.reverse_reverse p)⟩

/-- The branches of a forest are those its live paths need. -/
theorem Mirrors.under_paths (h : x.Mirrors held) (hf : x.Full) :
    x.under.paths.Perm (branches (underPaths (patterns held))) := by
  refine (List.perm_ext_iff_of_nodup (Forest.nodup_paths h.under) (List.nodup_dedup _)).2
    fun q => ?_
  rw [← branches, Forest.mem_paths_iff h.under hf.under, mem_branches]
  refine and_congr_right fun _ => exists_congr fun p => ?_
  rw [mem_underPaths, ← h.entriesAt_ne_nil, and_comm, Index.entriesAt]

theorem Mirrors.ending_paths (h : x.Mirrors held) (hf : x.Full) :
    x.ending.paths.Perm (branches (endingPaths (patterns held))) := by
  refine (List.perm_ext_iff_of_nodup (Forest.nodup_paths h.ending) (List.nodup_dedup _)).2
    fun q => ?_
  rw [← branches, Forest.mem_paths_iff h.ending hf.ending, mem_branches]
  refine and_congr_right fun _ => exists_congr fun p => ?_
  rw [mem_endingPaths, ← h.entriesAt_ne_nil, and_comm, Index.entriesAt, List.reverse_reverse]

/-! ## The figures -/

/-- The keys of the nodes of an index are those its patterns need. -/
theorem Mirrors.nodeKeys_perm (h : x.Mirrors held) (hf : x.Full) :
    (x.exact.keys ++ x.under.paths.map Forest.lastOf ++ x.ending.paths.map Forest.lastOf ++
      x.between.keys.map fun k => (Pattern.between k.1 k.2).text).Perm
        (nodeKeys (patterns held)) := by
  have hkind := fun kind => (h.occupied_perm hf).filter fun p => p.kind = kind
  have hexact : x.exact.keys.Perm ((ofKind .exact (patterns held)).map Pattern.text) := by
    have hperm := (hkind .exact).map Pattern.text
    rw [← ofKind, ofKind_exact, List.map_map] at hperm
    simpa [ofKind, Function.comp_def, Pattern.text] using hperm
  have hbetween : (x.between.keys.map fun k => (Pattern.between k.1 k.2).text).Perm
      ((ofKind .between (patterns held)).map Pattern.text) := by
    have hperm := (hkind .between).map Pattern.text
    rwa [← ofKind, ofKind_between, List.map_map] at hperm
  exact ((hexact.append ((h.under_paths hf).map _)).append ((h.ending_paths hf).map _)).append
    hbetween

theorem depths_occupied (x : Index H) :
    x.occupied.map Pattern.depth =
      x.exact.map (fun (t, _) => (segments t).length) ++ (ends x.under).map (·.length + 1) ++
        (ends x.ending).map (·.length + 1) ++
        x.between.map fun ((before, after), _) => before.length + 1 + after.length := by
  simp [occupied, Shelf.keys, Function.comp_def, Pattern.depth, Pattern.parts, Nat.add_assoc,
    Nat.add_comm 1]

namespace Mirrors

theorem terminals_eq (h : x.Mirrors held) (hf : x.Full) :
    x.exact.length = (figures held).exact ∧ patternsIn x.under = (figures held).under ∧
      patternsIn x.ending = (figures held).ending ∧
      x.between.length = (figures held).between := by
  have hkind : ∀ kind, (ofKind kind (patterns held)).length = (ofKind kind x.occupied).length :=
    fun kind => ((h.occupied_perm hf).filter _).length_eq.symm
  simp only [figures, hkind, ofKind_exact, ofKind_under, ofKind_ending, ofKind_between,
    List.length_map, Shelf.keys, patternsIn_eq h.under, patternsIn_eq h.ending, and_self]

theorem maxDepth_eq (h : x.Mirrors held) (hf : x.Full) :
    x.stats.maxDepth = (figures held).maxDepth := by
  have hmem : ∀ n, n ∈ (patterns held).map Pattern.depth ↔ n ∈ x.occupied.map Pattern.depth :=
    fun n => ((h.occupied_perm hf).map Pattern.depth).mem_iff.symm
  refine eq_of_forall_ge_iff fun b => ?_
  simp only [stats, figures, List.map_cons, List.map_nil, List.foldl_max_le, hmem, depths_occupied,
    List.forall_mem_append, List.forall_mem_cons, List.forall_mem_map, List.not_mem_nil,
    IsEmpty.forall_iff, implies_true, true_and, greatest_le h.under, greatest_le h.ending, and_assoc]

theorem depthSum_eq (h : x.Mirrors held) (hf : x.Full) :
    x.stats.depthSum = (figures held).depthSum := by
  have hdepths := addUp_perm ((h.occupied_perm hf).map Pattern.depth)
  simp only [depths_occupied, addUp_append] at hdepths
  simp only [stats, figures, List.map_cons, List.map_nil, addUp_cons, addUp_nil,
    depths_eq h.under, depths_eq h.ending]
  omega

theorem memory_eq (h : x.Mirrors held) (hf : x.Full) :
    x.stats.memory = (figures held).memory := by
  have hkeys := addUp_perm ((h.nodeKeys_perm hf).map fun key => nodeCost + key.utf8ByteSize)
  have hentries := cost_perm h.entries_perm
  have hexact := shelf_memory (fun t => nodeCost + t.utf8ByteSize) x.exact
  have hbetween :=
    shelf_memory (fun k => nodeCost + (Pattern.between k.1 k.2).text.utf8ByteSize) x.between
  have hrows : (x.between.map fun ((before, after), es) =>
      nodeCost + (Pattern.between before after).text.utf8ByteSize + cost es) =
        x.between.map fun row =>
          nodeCost + (Pattern.between row.1.1 row.1.2).text.utf8ByteSize + cost row.2 :=
    List.map_congr_left fun ⟨⟨_, _⟩, _⟩ _ => rfl
  simp only [List.map_append, List.map_map, Function.comp_def, addUp_append] at hkeys
  simp only [entries, cost_append] at hentries
  rw [stats, hrows]
  simp only [figures, List.map_cons, List.map_nil, addUp_cons, addUp_nil, total_memory]
  omega

end Mirrors

/-- **What an index shows** are the figures of what it holds, if nothing empty
    is kept. -/
theorem stats_eq (h : x.Mirrors held) (hf : x.Full) :
    x.stats = { figures held with subscriptions := x.size } := by
  obtain ⟨hexact, hunder, hending, hbetween⟩ := h.terminals_eq hf
  have hnodes : x.stats.nodes = (figures held).nodes := by
    have hunderPaths := (h.under_paths hf).length_eq
    have hendingPaths := (h.ending_paths hf).length_eq
    simp only [figures] at hexact hbetween
    simp only [stats, figures, List.map_cons, List.map_nil, addUp_cons, addUp_nil, total_one]
    omega
  calc x.stats = ⟨x.stats.nodes, x.size, x.exact.length, patternsIn x.under, patternsIn x.ending,
        x.between.length, x.stats.maxDepth, x.stats.depthSum, x.stats.memory⟩ := rfl
    _ = { figures held with subscriptions := x.size } := by
      rw [hnodes, hexact, hunder, hending, hbetween, h.maxDepth_eq hf, h.depthSum_eq hf,
        h.memory_eq hf]

/-! ## Averages -/

theorem length_ofKind (ps : List Pattern) :
    (ofKind .exact ps).length + (ofKind .under ps).length + (ofKind .ending ps).length +
      (ofKind .between ps).length = ps.length := by
  induction ps with
  | nil => rfl
  | cons p ps ih =>
    cases p <;> simp only [ofKind, List.filter_cons, Pattern.kind, decide_true, reduceCtorEq,
      decide_false, if_true, List.length_cons, Bool.false_eq_true, if_false] at ih ⊢ <;> omega

/-- The mean depth of patterns, zero if there are none. -/
def meanDepth (ps : List Pattern) : Binary64 :=
  if ps = [] then .zero false
  else (Binary64.ofRatio? false (addUp (ps.map Pattern.depth)) ps.length).getD (.zero false)

theorem terminals_figures (held : List (Subscription H)) :
    (figures held).terminals = (patterns held).length := length_ofKind (patterns held)

theorem averageDepth_figures (held : List (Subscription H)) :
    (figures held).averageDepth = meanDepth (patterns held) := by
  rw [IndexStats.averageDepth, terminals_figures, meanDepth]
  simp only [List.length_eq_zero_iff]
  rfl

/-! ## Histories -/

/-- The id that a change gives to a subscription. -/
def Change.newId? : Change H → Option String
  | .add _ id _ _ => some id
  | .insert s _ _ => some s.id
  | .erase .. | .eraseWhere _ | .clear => none

/-- No id is given twice. -/
def Fresh (cs : List (Change H)) : Prop := (cs.filterMap Change.newId?).Nodup

instance (cs : List (Change H)) : Decidable (Fresh cs) :=
  inferInstanceAs (Decidable (cs.filterMap Change.newId?).Nodup)

theorem ids_sublist (cs : List (Change H)) :
    ((live cs).map (·.id)).Sublist (cs.filterMap Change.newId?) := by
  induction cs using List.reverseRecOn with
  | nil => exact List.Sublist.refl _
  | append_singleton cs c ih =>
    rw [live_append, List.filterMap_append]
    cases c with
    | add name id handler metadata =>
      simp only [Change.onList]
      split
      · rw [List.map_append]
        exact ih.append (List.Sublist.refl _)
      · exact ih.trans (List.sublist_append_left _ _)
    | insert s name parsed =>
      simp only [Change.onList, List.map_append]
      exact ih.append (List.Sublist.refl _)
    | erase name id =>
      exact ((List.filter_sublist.map _).trans ih).trans (List.sublist_append_left _ _)
    | eraseWhere test =>
      exact ((List.filter_sublist.map _).trans ih).trans (List.sublist_append_left _ _)
    | clear => exact List.nil_sublist _

/-- Where no id is given twice, no removal meets a second copy. -/
theorem Fresh.lone {cs : List (Change H)} (h : Fresh cs) : Lone cs := by
  rintro before name id ⟨after, rfl⟩
  have hsub : ((copies (live before) name id).map (·.id)).Sublist
      ((before ++ [Change.erase name id] ++ after).filterMap Change.newId?) := by
    rw [List.append_assoc, List.filterMap_append]
    exact ((List.filter_sublist.map _).trans (ids_sublist before)).trans
      (List.sublist_append_left _ _)
  have hsame : (copies (live before) name id).map (·.id) =
      List.replicate (copies (live before) name id).length id := by
    refine List.eq_replicate_iff.2 ⟨List.length_map _, fun i hi => ?_⟩
    obtain ⟨s, hs, rfl⟩ := List.mem_map.1 hi
    simpa using (Bool.and_eq_true_iff.1 (List.mem_filter.1 hs).2).2
  exact List.nodup_replicate.1 (hsame ▸ hsub.nodup h)

/-- Whether a change is about one of some subscriptions. -/
def Change.concerns (gone : String → Bool) : Change H → Bool
  | .add _ id _ _ | .erase _ id => gone id
  | .insert s _ _ => gone s.id
  | .eraseWhere _ | .clear => false

/-- A history without the changes that are about some subscriptions. -/
def without (gone : String → Bool) (cs : List (Change H)) : List (Change H) :=
  cs.filter (!·.concerns gone)

theorem Fresh.without {cs : List (Change H)} (h : Fresh cs) (gone : String → Bool) :
    Fresh (without gone cs) := (List.filter_sublist.filterMap _).nodup h

theorem filter_comm (p q : Subscription H → Bool) (held : List (Subscription H)) :
    (held.filter p).filter q = (held.filter q).filter p := by
  rw [List.filter_filter, List.filter_filter]
  exact List.filter_congr fun s _ => Bool.and_comm _ _

/-- A change that is about some subscriptions does nothing to the others. -/
theorem filter_onList_of_concerns {gone : String → Bool} {c : Change H} (h : c.concerns gone = true)
    (held : List (Subscription H)) :
    (c.onList held).filter (!gone ·.id) = held.filter (!gone ·.id) := by
  cases c with
  | add name id handler metadata =>
    have hgone : gone id = true := h
    simp only [Change.onList]
    split <;> simp [hgone]
  | insert s name parsed =>
    have hgone : gone s.id = true := h
    simp [Change.onList, hgone]
  | erase name id =>
    have hgone : gone id = true := h
    rw [Change.onList, List.filter_filter]
    refine List.filter_congr fun s _ => ?_
    by_cases hid : s.id = id
    · simp [hid, hgone]
    · simp [hid]
  | eraseWhere test => cases h
  | clear => cases h

/-- Any other change does to the others what it does. -/
theorem filter_onList {gone : String → Bool} {c : Change H} (h : c.concerns gone = false)
    (held : List (Subscription H)) :
    (c.onList held).filter (!gone ·.id) = c.onList (held.filter (!gone ·.id)) := by
  cases c with
  | add name id handler metadata =>
    have hgone : gone id = false := h
    simp only [Change.onList]
    split <;> simp [hgone]
  | insert s name parsed =>
    have hgone : gone s.id = false := h
    simp [Change.onList, hgone]
  | erase name id => exact filter_comm _ _ held
  | eraseWhere test => exact filter_comm _ _ held
  | clear => rfl

/-- **A history without some subscriptions** leaves what the whole history
    leaves of the others. -/
theorem live_without (gone : String → Bool) (cs : List (Change H)) :
    live (without gone cs) = (live cs).filter (!gone ·.id) := by
  induction cs using List.reverseRecOn with
  | nil => rfl
  | append_singleton cs c ih =>
    rw [live_append, without, List.filter_append, ← without]
    cases hc : c.concerns gone with
    | false =>
      rw [filter_onList hc, ← ih, List.filter_singleton, hc]
      exact live_append (without gone cs) c
    | true =>
      rw [filter_onList_of_concerns hc, ← ih, List.filter_singleton, hc]
      exact congrArg live (List.append_nil _)

/-- **The figures of an index** after any history in which no id is given twice
    are those of the live subscriptions.  Subscriptions that are gone in the
    end leave no trace in the figures or in what is matched, wherever in the
    history they came and went. -/
theorem stats_run (cs : List (Change H)) (h : Fresh cs) :
    (run cs).stats = figures (live cs) ∧
      (run cs).stats.terminals = (patterns (live cs)).length ∧
      (run cs).stats.averageDepth = meanDepth (patterns (live cs)) ∧
      ∀ gone : String → Bool, (∀ s ∈ live cs, gone s.id = false) →
        (run (without gone cs)).stats = (run cs).stats ∧
          ∀ topic, (run (without gone cs)).matching topic = (run cs).matching topic := by
  have hstats : ∀ cs : List (Change H), Fresh cs → (run cs).stats = figures (live cs) := by
    intro cs h
    have hsize : (run cs).size = (live cs).length := by
      rw [(counted_run cs).size, h.lone.uncounted, Nat.add_zero]
    rw [stats_eq (mirrors_run cs) (full_run cs), hsize]
    rfl
  refine ⟨hstats cs h, ?_, ?_, fun gone hgone => ?_⟩
  · rw [hstats cs h, terminals_figures]
  · rw [hstats cs h, averageDepth_figures]
  · have hlive : live (without gone cs) = live cs := by
      rw [live_without, List.filter_eq_self]
      exact fun s hs => by simp [hgone s hs]
    refine ⟨?_, fun topic => ?_⟩
    · rw [hstats _ (h.without gone), hstats cs h, hlive]
    · rw [(mirrors_run _).matching_eq, (mirrors_run cs).matching_eq, hlive]

/-- Two subscriptions, of which the first is removed again while the second
    shares its branch, leave the figures of the second. -/
theorem stats_run_shared_branch :
    (run [.add "a.b.*" "s" () {}, .add "a.b.c.*" "t" () {}, .erase "a.b.*" "s"]).stats =
        (run [.add "a.b.c.*" "t" () {}]).stats ∧
      (run [.add "a.b.c.*" "t" () {}]).stats.nodes = 3 :=
  ⟨((stats_run [.add "a.b.*" "s" () {}, .add "a.b.c.*" "t" () {}, .erase "a.b.*" "s"]
    (by decide +kernel)).2.2.2 (· == "s") (by decide +kernel)).1.symm, by decide +kernel⟩

end Switchboard.Index
