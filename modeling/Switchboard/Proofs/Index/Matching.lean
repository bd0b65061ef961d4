import Mathlib.Data.Prod.Lex
import Switchboard.Proofs.Index.Filing
import Switchboard.Proofs.Lists
import Switchboard.Proofs.Pattern

/-
  The index as a plain list of subscriptions.

  Whatever is done to an index, it answers a topic like the list of live
  subscriptions, oldest first, would: those whose pattern accepts the topic,
  exact patterns first, then `under` patterns by depth, `ending` patterns by
  length and `between` patterns by the place of their wildcard.

  * `Change` is one change, `Index.run` and `live` do a list of them to the
    index and to the plain list;
  * `Index.Mirrors` relates the two, `mirrors_run` says it always holds;
  * `matching_run`: both give the same answer to every topic.
-/

namespace Switchboard

variable {H : Type}

/-! ## The order of answers -/

/-- The place of a pattern in an answer: its form, then its size. -/
def Pattern.rank : Pattern → Nat ×ₗ Nat
  | .exact _ => toLex (0, 0)
  | .under fixed => toLex (1, fixed.length)
  | .ending fixed => toLex (2, fixed.length)
  | .between before _ => toLex (3, before.length)

/-! ## Candidates -/

namespace Pattern

/-- The patterns that accept a topic, in the order of answers. -/
def candidates (topic : String) : List Pattern :=
  let parts := segments topic
  .exact topic :: (Forest.heads parts.dropLast).map .under ++
    (Forest.heads parts.tail.reverse).map (fun q => .ending q.reverse) ++
    (Index.replacements parts).map fun k => .between k.1 k.2

theorem pairwise_heads {R : List String → List String → Prop} {path : List String}
    (h : ∀ p q : List String, p.length < q.length → R p q) : (Forest.heads path).Pairwise R := by
  rw [Forest.heads, List.pairwise_map]
  refine List.Pairwise.imp_of_mem (fun {i j} hi hj hij => h _ _ ?_) List.pairwise_lt_range
  rw [List.mem_range] at hi hj
  simp only [List.length_take]
  omega

theorem pairwise_candidates (topic : String) :
    (candidates topic).Pairwise (rank · < rank ·) := by
  simp only [candidates, List.cons_append, List.pairwise_cons, List.pairwise_append,
    List.mem_append, List.mem_map, List.pairwise_map]
  refine ⟨?_, ⟨?_, ?_, ?_⟩, ?_, ?_⟩
  · rintro q ((⟨a, -, rfl⟩ | ⟨a, -, rfl⟩) | ⟨a, -, rfl⟩) <;> simp [rank, Prod.Lex.toLex_lt_toLex]
  · exact pairwise_heads fun p q h => by simpa [rank, Prod.Lex.toLex_lt_toLex] using h
  · exact pairwise_heads fun p q h => by simpa [rank, Prod.Lex.toLex_lt_toLex] using h
  · rintro _ ⟨a, -, rfl⟩ _ ⟨b, -, rfl⟩; simp [rank, Prod.Lex.toLex_lt_toLex]
  · rw [Index.replacements, List.pairwise_map]
    refine List.Pairwise.imp_of_mem (fun {i j} hi hj hij => ?_) List.pairwise_lt_range
    rw [List.mem_range] at hi hj
    refine Prod.Lex.toLex_lt_toLex.2 (Or.inr ⟨rfl, ?_⟩)
    simp only [List.length_take]
    omega
  · rintro _ (⟨a, -, rfl⟩ | ⟨a, -, rfl⟩) _ ⟨b, -, rfl⟩ <;> simp [rank, Prod.Lex.toLex_lt_toLex]

theorem mem_heads {q path : List String} : q ∈ Forest.heads path ↔ q ≠ [] ∧ q <+: path := by
  simp only [Forest.heads, List.mem_map, List.mem_range]
  constructor
  · rintro ⟨i, hi, rfl⟩
    refine ⟨fun h => ?_, List.take_prefix _ _⟩
    rcases List.take_eq_nil_iff.1 h with h | h
    · omega
    · simp [h] at hi
  · rintro ⟨hne, hq⟩
    have hlen := hq.length_le
    have hpos := List.length_pos_iff.2 hne
    refine ⟨q.length - 1, by omega, ?_⟩
    rw [Nat.sub_add_cancel hpos]
    exact (List.prefix_iff_eq_take.1 hq).symm

theorem mem_replacements {before after parts : List String} :
    (before, after) ∈ Index.replacements parts ↔
      before ≠ [] ∧ after ≠ [] ∧ parts.length = before.length + 1 + after.length ∧
        before <+: parts ∧ after <:+ parts := by
  simp only [Index.replacements, List.mem_map, List.mem_range, Prod.mk.injEq]
  constructor
  · rintro ⟨i, hi, rfl, rfl⟩
    refine ⟨?_, ?_, ?_, List.take_prefix _ _, List.drop_suffix _ _⟩
    · rw [← List.length_pos_iff, List.length_take]; omega
    · rw [← List.length_pos_iff, List.length_drop]; omega
    · rw [List.length_take, List.length_drop]; omega
  · rintro ⟨hb, ha, hlen, hpre, hsuf⟩
    rw [← List.length_pos_iff] at hb ha
    refine ⟨before.length - 1, by omega, ?_, ?_⟩
    · rw [Nat.sub_add_cancel hb]; exact (List.prefix_iff_eq_take.1 hpre).symm
    · rw [List.suffix_iff_eq_drop.1 hsuf]; congr 1; omega

/-- The candidates of a topic are the patterns that accept it. -/
theorem mem_candidates {p : Pattern} (hp : p.Proper) (topic : String) :
    p ∈ candidates topic ↔ p.accepts topic = true := by
  have hne := segments_ne_nil topic
  cases p with
  | exact t => simp [candidates, accepts]
  | under fixed =>
    have : fixed ∈ Forest.heads (segments topic).dropLast ↔
        fixed.length < (segments topic).length ∧ fixed <+: segments topic := by
      rw [mem_heads, List.prefix_dropLast_iff hne]
      exact and_iff_right hp
    simpa [candidates, accepts, acceptsParts] using this
  | ending fixed =>
    have : fixed.reverse ∈ Forest.heads (segments topic).tail.reverse ↔
        fixed.length < (segments topic).length ∧ fixed <:+ segments topic := by
      rw [mem_heads, ← List.dropLast_reverse, List.prefix_dropLast_iff (by simpa using hne),
        List.reverse_prefix, List.length_reverse, List.length_reverse]
      exact and_iff_right (by simpa [Proper] using hp)
    simpa [candidates, accepts, acceptsParts, List.reverse_eq_iff] using this
  | between before after =>
    have : (before, after) ∈ Index.replacements (segments topic) ↔
        (segments topic).length = before.length + 1 + after.length ∧
          before <+: segments topic ∧ after <:+ segments topic := by
      rw [mem_replacements]
      exact (and_iff_right hp.1).trans (and_iff_right hp.2)
    simpa [candidates, accepts, acceptsParts, and_assoc] using this

end Pattern

/-! ## One change -/

namespace Index

/-- What an index has and what a plain list has under every pattern. -/
structure Mirrors (x : Index H) (live : List (Subscription H)) : Prop where
  exact : x.exact.Distinct
  under : x.under.Distinct
  ending : x.ending.Distinct
  between : x.between.Distinct
  parsed : ∀ s ∈ live, s.pattern.Parsed
  entriesAt : ∀ p, x.entriesAt p = live.filter (·.pattern = p)

theorem mirrors_empty : ({} : Index H).Mirrors [] where
  exact := List.nodup_nil
  under := trivial
  ending := trivial
  between := List.nodup_nil
  parsed := by simp
  entriesAt p := by cases p <;> rfl

theorem entriesAt_insert (x : Index H) {s : Subscription H} (h : s.pattern.Proper) (p : Pattern) :
    (x.insert s).entriesAt p = if s.pattern = p then x.entriesAt p ++ [s] else x.entriesAt p := by
  obtain ⟨id, q, handler, metadata⟩ := s
  cases q <;> cases p <;>
    simp only [insert, Index.entriesAt, Shelf.entriesAt_insert, reduceCtorEq, if_false,
      Pattern.exact.injEq, Pattern.under.injEq, Pattern.ending.injEq, Pattern.between.injEq]
  · split_ifs with ht
    · rw [ht]
    · rfl
  · rw [Forest.entriesAt_insert _ _ h]
    split_ifs with ht
    · rw [ht]
    · rfl
  · rw [Forest.entriesAt_insert _ _ (by simpa [Pattern.Proper] using h)]
    simp only [List.reverse_inj]
    split_ifs with ht
    · rw [ht]
    · rfl
  · simp only [Prod.mk.injEq]
    split_ifs with ht
    · rw [ht.1, ht.2]
    · rfl

theorem entriesAt_eraseAt {x : Index H} {live : List (Subscription H)} (h : x.Mirrors live)
    (keep : Subscription H → Bool) (q p : Pattern) :
    (x.eraseAt keep q).entriesAt p =
      if q = p then (x.entriesAt p).filter keep else x.entriesAt p := by
  cases q <;> cases p <;>
    simp only [eraseAt, Index.entriesAt, Shelf.entriesAt_eraseAt h.exact,
      Shelf.entriesAt_eraseAt h.between, Forest.entriesAt_eraseAt h.under,
      Forest.entriesAt_eraseAt h.ending, reduceCtorEq, if_false, List.reverse_inj, Prod.mk.injEq,
      Pattern.exact.injEq, Pattern.under.injEq, Pattern.ending.injEq, Pattern.between.injEq]
  all_goals
    split_ifs with ht
    · simp only [ht]
    · rfl

theorem Mirrors.insert {x : Index H} {live : List (Subscription H)} (h : x.Mirrors live)
    {s : Subscription H} (hs : s.pattern.Parsed) : (x.insert s).Mirrors (live ++ [s]) := by
  have hrows : (x.insert s).exact.Distinct ∧ (x.insert s).under.Distinct ∧
      (x.insert s).ending.Distinct ∧ (x.insert s).between.Distinct := by
    unfold Index.insert
    cases s.pattern
    · exact ⟨h.exact.insert _ _, h.under, h.ending, h.between⟩
    · exact ⟨h.exact, h.under.insert _ _, h.ending, h.between⟩
    · exact ⟨h.exact, h.under, h.ending.insert _ _, h.between⟩
    · exact ⟨h.exact, h.under, h.ending, h.between.insert _ _⟩
  obtain ⟨h₁, h₂, h₃, h₄⟩ := hrows
  refine ⟨h₁, h₂, h₃, h₄, ?_, fun p => ?_⟩
  · intro t ht
    rcases List.mem_append.1 ht with ht | ht
    · exact h.parsed t ht
    · rw [List.mem_singleton.1 ht]; exact hs
  · rw [entriesAt_insert x hs.proper, h.entriesAt, List.filter_append]
    split_ifs with hp <;> simp [hp]

theorem Mirrors.eraseAt {x : Index H} {live : List (Subscription H)} (h : x.Mirrors live)
    (keep : Subscription H → Bool) (q : Pattern) :
    (x.eraseAt keep q).Mirrors (live.filter fun s => s.pattern ≠ q || keep s) := by
  have hrows : (x.eraseAt keep q).exact.Distinct ∧ (x.eraseAt keep q).under.Distinct ∧
      (x.eraseAt keep q).ending.Distinct ∧ (x.eraseAt keep q).between.Distinct := by
    cases q
    · exact ⟨h.exact.eraseAt _ _, h.under, h.ending, h.between⟩
    · exact ⟨h.exact, h.under.eraseAt _ _, h.ending, h.between⟩
    · exact ⟨h.exact, h.under, h.ending.eraseAt _ _, h.between⟩
    · exact ⟨h.exact, h.under, h.ending, h.between.eraseAt _ _⟩
  obtain ⟨h₁, h₂, h₃, h₄⟩ := hrows
  refine ⟨h₁, h₂, h₃, h₄, fun t ht => h.parsed t (List.mem_filter.1 ht).1, fun p => ?_⟩
  rw [entriesAt_eraseAt h, h.entriesAt]
  split_ifs with hp
  · subst hp
    rw [List.filter_filter, List.filter_filter]
    refine List.filter_congr fun s _ => ?_
    by_cases hs : s.pattern = q <;> simp [hs]
  · rw [List.filter_filter]
    refine List.filter_congr fun s _ => ?_
    by_cases hs : s.pattern = p <;> simp [hs, Ne.symm hp]

theorem Mirrors.filter {x : Index H} {live : List (Subscription H)} (h : x.Mirrors live)
    (test : Subscription H → Bool) :
    (x.eraseWhere test).2.Mirrors (live.filter fun s => !test s) := by
  refine ⟨h.exact.filter _, h.under.filter _, h.ending.filter _, h.between.filter _,
    fun t ht => h.parsed t (List.mem_filter.1 ht).1, fun p => ?_⟩
  have hcomm : live.filter (fun s => decide (s.pattern = p) && !test s) =
      live.filter fun s => !test s && decide (s.pattern = p) :=
    List.filter_congr fun s _ => Bool.and_comm _ _
  rw [List.filter_filter, hcomm, ← List.filter_filter, ← h.entriesAt]
  cases p
  · exact Shelf.entriesAt_filter h.exact _ _
  · exact Forest.entriesAt_filter h.under _ _
  · exact Forest.entriesAt_filter h.ending _ _
  · exact Shelf.entriesAt_filter h.between _ _

/-- The size of an index plays no part in what it answers. -/
theorem Mirrors.resize {x : Index H} {live : List (Subscription H)} (h : x.Mirrors live) (n : Nat) :
    ({ x with size := n } : Index H).Mirrors live :=
  ⟨h.exact, h.under, h.ending, h.between, h.parsed, fun p => by rw [← h.entriesAt]; cases p <;> rfl⟩

/-- Removing by text and id takes away exactly the entries with both. -/
theorem Mirrors.erase {x : Index H} {live : List (Subscription H)} (h : x.Mirrors live)
    (name id : String) :
    (x.erase name id).2.Mirrors (live.filter fun s => !(s.pattern.text == name && s.id == id)) := by
  unfold Index.erase
  split
  · next hparse =>
    have : live.filter (fun s => !(s.pattern.text == name && s.id == id)) = live := by
      refine List.filter_eq_self.2 fun s hs => ?_
      have hne : s.pattern.text ≠ name := by
        rintro rfl
        rw [show Pattern.parse s.pattern.text = .ok s.pattern from h.parsed s hs] at hparse
        cases hparse
      simp [hne]
    rw [this]
    exact h
  · next p hparse =>
    have htext : ∀ s ∈ live, s.pattern.text = name ↔ s.pattern = p := by
      intro s hs
      refine ⟨fun e => ?_, fun e => by rw [e, Pattern.text_of_parse hparse]⟩
      have := h.parsed s hs
      rw [Pattern.Parsed, e, hparse] at this
      exact (Except.ok.inj this).symm
    have hkeep : live.filter (fun s => !(s.pattern.text == name && s.id == id)) =
        live.filter fun s => decide (s.pattern ≠ p) || decide (s.id ≠ id) := by
      refine List.filter_congr fun s hs => ?_
      by_cases hp : s.pattern = p
      · simp [hp, Pattern.text_of_parse hparse, beq_eq_decide]
      · simp [hp, (htext s hs).not.2 hp]
    rw [hkeep]
    split_ifs with hany
    · exact (h.eraseAt _ p).resize _
    · have : live.filter (fun s => decide (s.pattern ≠ p) || decide (s.id ≠ id)) = live := by
        refine List.filter_eq_self.2 fun s hs => ?_
        by_contra hs'
        simp only [ne_eq, decide_not, Bool.or_eq_true, Bool.not_eq_true', decide_eq_false_iff_not,
          not_or, not_not] at hs'
        refine hany (List.any_eq_true.2 ⟨s, ?_, by simpa using hs'.2⟩)
        rw [h.entriesAt, List.mem_filter]
        exact ⟨hs, by simpa using hs'.1⟩
      rw [this]
      exact h

/-! ## One answer -/

theorem matching_eq_flatMap (x : Index H) (topic : String) :
    x.matching topic = (Pattern.candidates topic).flatMap x.entriesAt := by
  simp [matching, Pattern.candidates, Forest.along_eq, List.flatMap_append, List.flatMap_map,
    Index.entriesAt]

/-- An index answers a topic like the plain list it mirrors. -/
theorem Mirrors.matching_eq {x : Index H} {live : List (Subscription H)} (h : x.Mirrors live)
    (topic : String) :
    x.matching topic = (live.filter (·.pattern.accepts topic)).mergeSort
      fun s t => s.pattern.rank ≤ t.pattern.rank := by
  have hcand := Pattern.pairwise_candidates topic
  rw [matching_eq_flatMap, List.flatMap_congr fun p _ => h.entriesAt p]
  refine List.eq_of_filter_eq ?_ (List.pairwise_mergeSort_le _) fun k => ?_
  · rw [List.pairwise_flatMap]
    refine ⟨fun p _ => ?_, hcand.imp fun {p q} hpq s hs t ht => ?_⟩
    · refine List.pairwise_of_forall_mem_list fun s hs t ht => ?_
      simp only [List.mem_filter, decide_eq_true_eq] at hs ht
      rw [hs.2, ht.2]
    · simp only [List.mem_filter, decide_eq_true_eq] at hs ht
      rw [hs.2, ht.2]; exact hpq.le
  · rw [List.filter_mergeSort, List.filter_filter, List.filter_flatMap]
    have hmem : ∀ s ∈ live, s.pattern ∈ Pattern.candidates topic ↔ s.pattern.accepts topic = true :=
      fun s hs => Pattern.mem_candidates (h.parsed s hs).proper topic
    have hrank : ((Pattern.candidates topic).map Pattern.rank).Nodup :=
      (List.pairwise_map.2 hcand).imp ne_of_lt
    by_cases hk : ∃ p ∈ Pattern.candidates topic, p.rank = k
    · obtain ⟨p, hp, rfl⟩ := hk
      have huniq : ∀ q ∈ Pattern.candidates topic, q.rank = p.rank → q = p :=
        fun q hq hr => List.inj_on_of_nodup_map hrank hq hp hr
      rw [List.flatMap_eq_of_unique hrank.of_map hp, List.filter_filter]
      · refine List.filter_congr fun s hs => ?_
        rw [Bool.eq_iff_iff]
        simp only [Bool.and_eq_true, decide_eq_true_eq]
        constructor
        · rintro ⟨-, rfl⟩; exact ⟨rfl, (hmem s hs).1 hp⟩
        · rintro ⟨hr, ha⟩; exact ⟨hr, huniq _ ((hmem s hs).2 ha) hr⟩
      · intro q hq hne
        rw [List.filter_filter, List.filter_eq_nil_iff]
        intro s _
        simp only [Bool.and_eq_true, decide_eq_true_eq, not_and]
        rintro hr rfl
        exact hne (huniq _ hq hr)
    · rw [List.filter_eq_nil_iff.2, List.flatMap_eq_nil_iff.2]
      · intro p hp
        rw [List.filter_filter, List.filter_eq_nil_iff]
        intro s _
        simp only [Bool.and_eq_true, decide_eq_true_eq, not_and]
        rintro hr rfl
        exact hk ⟨_, hp, hr⟩
      · intro s hs
        simp only [Bool.and_eq_true, decide_eq_true_eq, not_and]
        exact fun hr ha => hk ⟨_, (hmem s hs).2 ha, hr⟩

/-! ## Histories -/

/-- A change of an index. -/
inductive Change (H : Type) where
  /-- files a new subscription under a name, unless the name is no pattern -/
  | add (name id : String) (handler : H) (metadata : Metadata)
  /-- files a subscription whose pattern was read from a name -/
  | insert (s : Subscription H) (name : String) (parsed : Pattern.parse name = .ok s.pattern)
  | erase (name id : String)
  | eraseWhere (test : Subscription H → Bool)
  | clear

/-- Does a change. -/
def change (x : Index H) : Change H → Index H
  | .add name id handler metadata =>
    match Pattern.parse name with
    | .ok p => x.insert ⟨id, p, handler, metadata⟩
    | .error _ => x
  | .insert s _ _ => x.insert s
  | .erase name id => (x.erase name id).2
  | .eraseWhere test => (x.eraseWhere test).2
  | .clear => {}

/-- What a change does to the plain list of subscriptions. -/
def Change.onList (live : List (Subscription H)) : Change H → List (Subscription H)
  | .add name id handler metadata =>
    match Pattern.parse name with
    | .ok p => live ++ [⟨id, p, handler, metadata⟩]
    | .error _ => live
  | .insert s _ _ => live ++ [s]
  | .erase name id => live.filter fun s => !(s.pattern.text == name && s.id == id)
  | .eraseWhere test => live.filter fun s => !test s
  | .clear => []

/-- The index after a history. -/
def run (cs : List (Change H)) : Index H := cs.foldl change {}

/-- The live subscriptions after a history, oldest first. -/
def live (cs : List (Change H)) : List (Subscription H) := cs.foldl Change.onList []

theorem Mirrors.change {x : Index H} {live : List (Subscription H)} (h : x.Mirrors live)
    (c : Change H) : (x.change c).Mirrors (c.onList live) := by
  cases c with
  | add name id handler metadata =>
    simp only [Index.change, Change.onList]
    split
    · next p hp => exact h.insert (Pattern.parsed_of_parse hp)
    · exact h
  | insert s name parsed => exact h.insert (Pattern.parsed_of_parse parsed)
  | erase name id => exact h.erase name id
  | eraseWhere test => exact h.filter test
  | clear => exact mirrors_empty

theorem mirrors_run (cs : List (Change H)) : (run cs).Mirrors (live cs) := by
  have : ∀ (x : Index H) (l : List (Subscription H)), x.Mirrors l →
      (cs.foldl change x).Mirrors (cs.foldl Change.onList l) := by
    induction cs with
    | nil => exact fun _ _ h => h
    | cons c cs ih => exact fun x l h => ih _ _ (h.change c)
  exact this _ _ mirrors_empty

/-- **An index answers like the plain list of live subscriptions**: whatever was
    added, removed or cleared, and whatever the topic. -/
theorem matching_run (cs : List (Change H)) (topic : String) :
    (run cs).matching topic = ((live cs).filter (·.pattern.accepts topic)).mergeSort
      fun s t => s.pattern.rank ≤ t.pattern.rank :=
  (mirrors_run cs).matching_eq topic

end Index

end Switchboard
