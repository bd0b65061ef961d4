import Mathlib.Data.List.TakeDrop
import Switchboard.Address

/-
  Names and their segments.

  * `segments_dotted`: segments without dots are the segments of the name they
    are joined to;
  * `segments_append_dot`: two names joined by a dot have the segments of both;
  * `Plain` is what a segment of a topic is, `topicDefect?_eq_none` says that a
    topic is a row of plain segments, `topic_dotted` that every such row is one.
-/

namespace Switchboard

/-! ## Cutting what was joined -/

theorem cut_append_dot (l r : List Char) : cut (l ++ '.' :: r) = cut l ++ cut r := by
  induction l with
  | nil => simp [cut]
  | cons c l ih =>
    rw [List.cons_append, cut, cut, ih]
    split
    · rfl
    · rcases h : cut l with _ | ⟨p, ps⟩
      · exact absurd h (cut_ne_nil l)
      · rfl

theorem cut_of_dotless {t : List Char} (h : '.' ∉ t) : cut t = [t] := by
  induction t with
  | nil => rfl
  | cons c r ih =>
    have hc : c ≠ '.' := fun hc => h (hc ▸ List.mem_cons_self)
    rw [cut, if_neg hc, ih (fun hr => h (List.mem_cons_of_mem _ hr)), List.modifyHead_cons]

theorem cut_glue {pieces : List (List Char)} (hne : pieces ≠ []) (h : ∀ p ∈ pieces, '.' ∉ p) :
    cut (glue pieces) = pieces := by
  induction pieces with
  | nil => exact absurd rfl hne
  | cons p ps ih =>
    have hp := cut_of_dotless (h p List.mem_cons_self)
    rcases ps with _ | ⟨q, qs⟩
    · exact hp
    · rw [glue, cut_append_dot, hp,
        ih (List.cons_ne_nil q qs) fun r hr => h r (List.mem_cons_of_mem _ hr)]
      rfl

theorem dotless_of_mem_cut {t piece : List Char} (h : piece ∈ cut t) : '.' ∉ piece := by
  induction t generalizing piece with
  | nil =>
    obtain rfl : piece = [] := by simpa [cut] using h
    exact List.not_mem_nil
  | cons c r ih =>
    rw [cut] at h
    split at h
    · rcases List.mem_cons.1 h with rfl | h
      · exact List.not_mem_nil
      · exact ih h
    · next hc =>
      rcases hcut : cut r with _ | ⟨p, ps⟩
      · exact absurd hcut (cut_ne_nil r)
      · rw [hcut, List.modifyHead_cons] at h
        rcases List.mem_cons.1 h with rfl | h
        · rintro hdot
          rcases List.mem_cons.1 hdot with hdot | hdot
          · exact hc hdot.symm
          · exact ih (hcut ▸ List.mem_cons_self) hdot
        · exact ih (hcut ▸ List.mem_cons_of_mem _ h)

/-! ## Characters of a name -/

theorem mem_glue {c : Char} {piece : List Char} {ps : List (List Char)} (hc : c ∈ piece)
    (hp : piece ∈ ps) : c ∈ glue ps := by
  induction ps with
  | nil => cases hp
  | cons q qs ih =>
    cases qs with
    | nil => exact List.mem_singleton.1 hp ▸ hc
    | cons r rs =>
      rcases List.mem_cons.1 hp with rfl | hp
      · exact List.mem_append_left _ hc
      · exact List.mem_append_right _ (List.mem_cons_of_mem _ (ih hp))

/-- What stands in a joined name stands in one of its pieces, or joins two. -/
theorem exists_of_mem_glue {c : Char} {ps : List (List Char)} (h : c ∈ glue ps) :
    c = '.' ∨ ∃ piece ∈ ps, c ∈ piece := by
  induction ps with
  | nil => cases h
  | cons q qs ih =>
    cases qs with
    | nil => exact Or.inr ⟨q, List.mem_cons_self, h⟩
    | cons r rs =>
      rw [glue] at h
      rcases List.mem_append.1 h with h | h
      · exact Or.inr ⟨q, List.mem_cons_self, h⟩
      · rcases List.mem_cons.1 h with h | h
        · exact Or.inl h
        · rcases ih h with h | ⟨piece, hpiece, hc⟩
          · exact Or.inl h
          · exact Or.inr ⟨piece, List.mem_cons_of_mem _ hpiece, hc⟩

theorem mem_of_mem_segments {name piece : String} {c : Char} (hpiece : piece ∈ segments name)
    (hc : c ∈ piece.toList) : c ∈ name.toList := by
  rw [← dotted_segments name, dotted, String.toList_ofList]
  exact mem_glue hc (List.mem_map_of_mem hpiece)

theorem hasStar_of_mem_segments {name piece : String} (hstar : hasStar name = false)
    (hpiece : piece ∈ segments name) : hasStar piece = false := by
  simp only [hasStar, List.contains_eq_mem, decide_eq_false_iff_not] at hstar ⊢
  exact fun hc => hstar (mem_of_mem_segments hpiece hc)

theorem dotless_of_mem_segments {name piece : String} (h : piece ∈ segments name) :
    '.' ∉ piece.toList := by
  obtain ⟨p, hp, rfl⟩ := List.mem_map.1 h
  rw [String.toList_ofList]
  exact dotless_of_mem_cut hp

/-- **Cutting a joined name** gives its segments back. -/
theorem segments_dotted {parts : List String} (hne : parts ≠ [])
    (h : ∀ s ∈ parts, '.' ∉ s.toList) : segments (dotted parts) = parts := by
  rw [segments, dotted, String.toList_ofList, cut_glue (by simpa using hne)]
  · simp [List.map_map, Function.comp_def]
  · simpa using h

theorem segments_append_dot (a b : String) :
    segments (a ++ "." ++ b) = segments a ++ segments b := by
  have hdot : ("." : String).toList = ['.'] := by decide
  simp only [segments, String.toList_append, hdot, List.append_assoc, List.singleton_append,
    cut_append_dot, List.map_append]

theorem segments_of_dotless {s : String} (h : '.' ∉ s.toList) : segments s = [s] := by
  simp [segments, cut_of_dotless h]

/-! ## Plain segments -/

/-- A segment as topics have them. -/
structure Plain (s : String) : Prop where
  nonempty : s ≠ ""
  dotless : '.' ∉ s.toList
  starless : '*' ∉ s.toList

theorem Plain.ne_wildcard {s : String} (h : Plain s) : s ≠ wildcard := by
  rintro rfl
  exact h.starless (by decide)

/-- **A topic is a row of plain segments.** -/
theorem topicDefect?_eq_none {name : String} :
    topicDefect? name = none ↔ ∀ piece ∈ segments name, Plain piece := by
  constructor
  · intro h piece hpiece
    unfold topicDefect? at h
    split_ifs at h with hempty hstar hsegment
    refine ⟨?_, dotless_of_mem_segments hpiece, ?_⟩
    · rintro rfl
      exact hsegment (List.any_eq_true.2 ⟨"", hpiece, by decide⟩)
    · simpa [hasStar] using hasStar_of_mem_segments (Bool.eq_false_iff.2 hstar) hpiece
  · intro h
    have hempty : name ≠ "" := by
      rintro rfl
      exact (h "" (by decide)).nonempty rfl
    have hstar : ¬hasStar name = true := by
      simp only [hasStar, List.contains_eq_mem, decide_eq_true_eq]
      intro hmem
      rw [← dotted_segments name, dotted, String.toList_ofList] at hmem
      rcases exists_of_mem_glue hmem with hdot | ⟨p, hp, hmem⟩
      · exact absurd hdot (by decide)
      · obtain ⟨piece, hpiece, rfl⟩ := List.mem_map.1 hp
        exact (h piece hpiece).starless hmem
    have hsegment : ¬(segments name).any (· = "") = true := by
      simpa using fun hmem => (h "" hmem).nonempty rfl
    rw [topicDefect?, if_neg hempty, if_neg hstar, if_neg hsegment]

theorem topic_eq_ok {name : String} {u : Unit} :
    Address.topic name = .ok u ↔ topicDefect? name = none := by
  unfold Address.topic
  split <;> simp_all

/-- Plain segments, at least one, make a topic. -/
theorem topic_dotted {parts : List String} (hne : parts ≠ []) (h : ∀ s ∈ parts, Plain s) :
    Address.topic (dotted parts) = .ok () := by
  rw [topic_eq_ok, topicDefect?_eq_none, segments_dotted hne fun s hs => (h s hs).dotless]
  exact h

end Switchboard
