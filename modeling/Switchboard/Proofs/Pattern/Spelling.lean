import Mathlib.Data.List.Basic
import Switchboard.Proofs.Pattern

/-
  The topics of a pattern, told by their characters.

  A pattern compares the segments of a topic with its own.  Whoever writes the
  pattern thinks of the text instead: `user.*` are the texts that begin with
  `user.`, whatever comes then.  Both say the same, of every text there is,
  whether it is a topic or not.

  * `dotted_append`: the name of two rows of segments is their names with a dot
    between;
  * `begins_iff`, `ends_iff`, `surrounds_iff`: what comparing segments means for
    the texts;
  * `Spelling`: what a pattern accepts, form by form, and which segments its
    wildcard stands for;
  * `Pattern.accepts_spelled`: every pattern that reads accepts what it spells.
-/

namespace Switchboard

/-! ## Rows of segments and their names -/

theorem glue_append {ps qs : List (List Char)} (hps : ps ≠ []) (hqs : qs ≠ []) :
    glue (ps ++ qs) = glue ps ++ '.' :: glue qs := by
  induction ps with
  | nil => exact absurd rfl hps
  | cons p ps ih =>
    cases ps with
    | nil =>
      obtain ⟨q, qs, rfl⟩ := List.exists_cons_of_ne_nil hqs
      rfl
    | cons p' ps =>
      show p ++ '.' :: glue (p' :: ps ++ qs) = _
      rw [ih (List.cons_ne_nil p' ps), glue, List.append_assoc, List.cons_append]

theorem dotted_append {front back : List String} (hfront : front ≠ []) (hback : back ≠ []) :
    dotted (front ++ back) = dotted front ++ "." ++ dotted back := by
  have hdot : ("." : String).toList = ['.'] := by decide
  apply String.toList_injective
  simp only [dotted, String.toList_ofList, String.toList_append, hdot, List.map_append]
  rw [glue_append (by simpa using hfront) (by simpa using hback)]
  simp

theorem dotted_singleton (s : String) : dotted [s] = s := by
  simp [dotted, glue]

/-! ## Comparing segments -/

section Comparing

variable (front back t : String)

/-- The segments of a name are the first of a longer text if and only if the
    text begins with the name and a dot. -/
theorem begins_iff :
    (∃ rest, rest ≠ [] ∧ segments t = segments front ++ rest) ↔
      ∃ rest, t = front ++ "." ++ rest := by
  constructor
  · rintro ⟨rest, hrest, ht⟩
    refine ⟨dotted rest, ?_⟩
    rw [← dotted_segments t, ht, dotted_append (segments_ne_nil front) hrest, dotted_segments]
  · rintro ⟨rest, rfl⟩
    exact ⟨segments rest, segments_ne_nil rest, segments_append_dot front rest⟩

theorem ends_iff :
    (∃ rest, rest ≠ [] ∧ segments t = rest ++ segments back) ↔
      ∃ rest, t = rest ++ "." ++ back := by
  constructor
  · rintro ⟨rest, hrest, ht⟩
    refine ⟨dotted rest, ?_⟩
    rw [← dotted_segments t, ht, dotted_append hrest (segments_ne_nil back), dotted_segments]
  · rintro ⟨rest, rfl⟩
    exact ⟨segments rest, segments_ne_nil rest, segments_append_dot rest back⟩

/-- One segment stands between those of two names if and only if the text has
    something without a dot between the names. -/
theorem surrounds_iff :
    (∃ s, segments t = segments front ++ s :: segments back) ↔
      ∃ x : String, '.' ∉ x.toList ∧ t = front ++ "." ++ x ++ "." ++ back := by
  constructor
  · rintro ⟨s, ht⟩
    have hs : s ∈ segments t := by simp [ht]
    refine ⟨s, dotless_of_mem_segments hs, ?_⟩
    have happ : segments front ++ s :: segments back = segments front ++ [s] ++ segments back := by
      simp
    rw [← dotted_segments t, ht, happ, dotted_append (by simp) (segments_ne_nil back),
      dotted_append (segments_ne_nil front) (List.cons_ne_nil s []), dotted_segments,
      dotted_singleton, dotted_segments]
  · rintro ⟨x, hx, rfl⟩
    refine ⟨x, ?_⟩
    rw [segments_append_dot, segments_append_dot, segments_of_dotless hx, List.append_assoc,
      List.singleton_append]

end Comparing

namespace Pattern

/-! ## Forms -/

theorem accepts_under {fixed : List String} {t : String} :
    (under fixed).accepts t = true ↔ ∃ rest, rest ≠ [] ∧ segments t = fixed ++ rest := by
  simp only [accepts, acceptsParts, Bool.and_eq_true, decide_eq_true_eq,
    List.isPrefixOf_iff_prefix]
  constructor
  · rintro ⟨hlength, rest, ht⟩
    refine ⟨rest, ?_, ht.symm⟩
    rintro rfl
    simp [← ht] at hlength
  · rintro ⟨rest, hrest, ht⟩
    have hpos := List.length_pos_iff.2 hrest
    rw [ht, List.length_append]
    exact ⟨by omega, List.prefix_append fixed rest⟩

theorem accepts_ending {fixed : List String} {t : String} :
    (ending fixed).accepts t = true ↔ ∃ rest, rest ≠ [] ∧ segments t = rest ++ fixed := by
  simp only [accepts, acceptsParts, Bool.and_eq_true, decide_eq_true_eq,
    List.isSuffixOf_iff_suffix]
  constructor
  · rintro ⟨hlength, rest, ht⟩
    refine ⟨rest, ?_, ht.symm⟩
    rintro rfl
    simp [← ht] at hlength
  · rintro ⟨rest, hrest, ht⟩
    have hpos := List.length_pos_iff.2 hrest
    rw [ht, List.length_append]
    exact ⟨by omega, List.suffix_append rest fixed⟩

theorem accepts_between {before after : List String} {t : String} :
    (between before after).accepts t = true ↔ ∃ s, segments t = before ++ s :: after := by
  simp only [accepts, acceptsParts, Bool.and_eq_true, beq_iff_eq, List.isPrefixOf_iff_prefix,
    List.isSuffixOf_iff_suffix]
  constructor
  · rintro ⟨⟨hlength, rest, ht⟩, hafter⟩
    -- what follows the first segments is one longer than the last ones, which end it
    have hrest : rest.length = after.length + 1 := by
      rw [← ht, List.length_append] at hlength
      omega
    have hend : after <:+ rest := by
      rw [← ht] at hafter
      exact List.suffix_of_suffix_length_le hafter (List.suffix_append before rest) (by omega)
    obtain ⟨first, rfl⟩ := hend
    obtain ⟨s, rfl⟩ : ∃ s, first = [s] := by
      rw [← List.length_eq_one_iff]
      rw [List.length_append] at hrest
      omega
    exact ⟨s, by rw [← ht, List.singleton_append]⟩
  · rintro ⟨s, ht⟩
    refine ⟨⟨?_, s :: after, ht.symm⟩, before ++ [s], by simp [ht]⟩
    rw [ht, List.length_append, List.length_cons]
    omega

/-! ## Names with a wildcard -/

/-- A name with a wildcard among its segments reads as the pattern around it. -/
theorem eq_around_of_parse {name : String} {p : Pattern} {before after : List String}
    (h : parse name = .ok p) (hs : segments name = before ++ wildcard :: after) :
    p = around before after := by
  rcases parse_cases h with ⟨-, hnone⟩ | ⟨before', after', -, hnone, hs', rfl⟩
  · exact absurd (by simp [hs]) hnone
  · rw [List.mem_append, not_or] at hnone
    rw [hs'] at hs
    obtain ⟨rfl, -, rfl⟩ := (List.append_cons_inj_of_notMem hnone.1 hnone.2).1 hs
    rfl

theorem segments_wildcard_last (front : String) :
    segments (front ++ ".*") = segments front ++ [wildcard] := by
  have hname : front ++ ".*" = front ++ "." ++ wildcard := by rw [String.append_assoc]; rfl
  rw [hname, segments_append_dot]
  rfl

theorem segments_wildcard_first (back : String) :
    segments ("*." ++ back) = wildcard :: segments back := by
  have hname : "*." ++ back = wildcard ++ "." ++ back := rfl
  rw [hname, segments_append_dot]
  rfl

theorem segments_wildcard_inside (front back : String) :
    segments (front ++ ".*." ++ back) = segments front ++ wildcard :: segments back := by
  have hname : front ++ ".*." ++ back = front ++ "." ++ wildcard ++ "." ++ back := by
    simp only [String.append_assoc]
    rfl
  rw [hname, segments_append_dot, segments_append_dot, List.append_assoc]
  rfl

theorem around_nil (before : List String) : around before [] = under before := by
  cases before <;> rfl

theorem around_first {after : List String} (h : after ≠ []) : around [] after = ending after := by
  obtain ⟨s, after, rfl⟩ := List.exists_cons_of_ne_nil h
  rfl

theorem around_inside {before after : List String} (hbefore : before ≠ []) (hafter : after ≠ []) :
    around before after = between before after := by
  obtain ⟨s, before, rfl⟩ := List.exists_cons_of_ne_nil hbefore
  obtain ⟨s', after, rfl⟩ := List.exists_cons_of_ne_nil hafter
  rfl

/-! ## What a pattern spells -/

/-- What the pattern with a name accepts, told by the characters of the name. -/
structure Spelling (name : String) (p : Pattern) : Prop where
  exact : p.kind = .exact → ∀ t, p.accepts t = true ↔ t = name
  under : ∀ front, name = front ++ ".*" →
    ∀ t, p.accepts t = true ↔ ∃ rest, t = front ++ "." ++ rest
  ending : ∀ back, name = "*." ++ back →
    ∀ t, p.accepts t = true ↔ ∃ rest, t = rest ++ "." ++ back
  between : ∀ front back, name = front ++ ".*." ++ back →
    ∀ t, p.accepts t = true ↔
      ∃ x : String, '.' ∉ x.toList ∧ t = front ++ "." ++ x ++ "." ++ back
  /-- there are no other names -/
  form :
    p.kind = .exact ∧ wildcard ∉ segments name ∨
      p.kind = .under ∧ (∃ front, name = front ++ ".*") ∨
      p.kind = .ending ∧ (∃ back, name = "*." ++ back) ∨
      p.kind = .between ∧ ∃ front back, name = front ++ ".*." ++ back
  /-- no segment is split: the wildcard stands for segments, the rest for itself -/
  whole : ∀ t, p.accepts t = true →
    segments t = segments name ∨
      ∃ before stood after, segments name = before ++ wildcard :: after ∧ stood ≠ [] ∧
        segments t = before ++ stood ++ after

section Reading

variable {name : String} {p : Pattern}

theorem eq_under_of_parse (h : parse name = .ok p) {front : String} (hname : name = front ++ ".*") :
    p = under (segments front) := by
  rw [← around_nil]
  exact eq_around_of_parse h (hname ▸ segments_wildcard_last front)

theorem eq_ending_of_parse (h : parse name = .ok p) {back : String} (hname : name = "*." ++ back) :
    p = ending (segments back) := by
  rw [← around_first (segments_ne_nil back)]
  exact eq_around_of_parse h (hname ▸ segments_wildcard_first back)

theorem eq_between_of_parse (h : parse name = .ok p) {front back : String}
    (hname : name = front ++ ".*." ++ back) : p = between (segments front) (segments back) := by
  rw [← around_inside (segments_ne_nil front) (segments_ne_nil back)]
  exact eq_around_of_parse h (hname ▸ segments_wildcard_inside front back)

/-- A name with a wildcard segment has it last, first or inside. -/
theorem form_of_segments {before after : List String} (hne : before ≠ [] ∨ after ≠ [])
    (hs : segments name = before ++ wildcard :: after) :
    (around before after).kind = .under ∧ (∃ front, name = front ++ ".*") ∨
      (around before after).kind = .ending ∧ (∃ back, name = "*." ++ back) ∨
      (around before after).kind = .between ∧ ∃ front back, name = front ++ ".*." ++ back := by
  have hdotted : name = dotted (before ++ wildcard :: after) := by rw [← hs, dotted_segments]
  by_cases hafter : after = []
  · subst hafter
    refine Or.inl ⟨by rw [around_nil]; rfl, dotted before, ?_⟩
    rw [hdotted, dotted_append (hne.resolve_right (not_not_intro rfl)) (List.cons_ne_nil _ _),
      dotted_singleton, String.append_assoc]
    rfl
  by_cases hbefore : before = []
  · subst hbefore
    refine Or.inr (Or.inl ⟨by rw [around_first hafter]; rfl, dotted after, ?_⟩)
    have happ : [] ++ wildcard :: after = [wildcard] ++ after := rfl
    rw [hdotted, happ, dotted_append (List.cons_ne_nil _ _) hafter, dotted_singleton]
    rfl
  · refine Or.inr (Or.inr ⟨by rw [around_inside hbefore hafter]; rfl, dotted before,
      dotted after, ?_⟩)
    have happ : before ++ wildcard :: after = before ++ [wildcard] ++ after := by simp
    rw [hdotted, happ, dotted_append (by simp) hafter,
      dotted_append hbefore (List.cons_ne_nil _ _), dotted_singleton]
    simp only [String.append_assoc]
    rfl

theorem whole_of_around {before after : List String} {t : String}
    (h : (around before after).accepts t = true) :
    ∃ stood, stood ≠ [] ∧ segments t = before ++ stood ++ after := by
  unfold around at h
  split at h
  · obtain ⟨rest, hrest, ht⟩ := accepts_under.1 h
    exact ⟨rest, hrest, by simpa using ht⟩
  · obtain ⟨rest, hrest, ht⟩ := accepts_ending.1 h
    exact ⟨rest, hrest, ht⟩
  · obtain ⟨s, ht⟩ := accepts_between.1 h
    exact ⟨[s], List.cons_ne_nil s [], by simpa using ht⟩

/-- **Matching segments is matching texts.**  A pattern accepts exactly the texts
    that its name spells: itself, what begins with `P.`, what ends with `.S`, or
    what has one more segment between `L.` and `.R`. -/
theorem accepts_spelled (h : parse name = .ok p) : Spelling name p where
  exact hkind t := by
    rcases parse_cases h with ⟨rfl, -⟩ | ⟨before, after, hne, -, hs, rfl⟩
    · show (name == t) = true ↔ t = name
      rw [beq_iff_eq, eq_comm]
    · rcases form_of_segments hne hs with ⟨hk, -⟩ | ⟨hk, -⟩ | ⟨hk, -⟩ <;> rw [hk] at hkind <;>
        cases hkind
  under front hname t := by
    rw [eq_under_of_parse h hname, accepts_under]
    exact begins_iff front t
  ending back hname t := by
    rw [eq_ending_of_parse h hname, accepts_ending]
    exact ends_iff back t
  between front back hname t := by
    rw [eq_between_of_parse h hname, accepts_between]
    exact surrounds_iff front back t
  form := by
    rcases parse_cases h with ⟨rfl, hnone⟩ | ⟨before, after, hne, -, hs, rfl⟩
    · exact Or.inl ⟨rfl, hnone⟩
    · exact Or.inr (form_of_segments hne hs)
  whole t ht := by
    rcases parse_cases h with ⟨rfl, -⟩ | ⟨before, after, -, -, hs, rfl⟩
    · obtain rfl : name = t := by simpa [accepts] using ht
      exact Or.inl rfl
    · obtain ⟨stood, hstood, hsegments⟩ := whole_of_around ht
      exact Or.inr ⟨before, stood, after, hs, hstood, hsegments⟩

end Reading

/-- The first and the last segment of a topic of `a.*.a` are not the same one. -/
theorem accepts_spelled_between :
    parse "a.*.a" = .ok (.between ["a"] ["a"]) ∧
      (∀ t, (between ["a"] ["a"]).accepts t = true ↔
        ∃ x : String, '.' ∉ x.toList ∧ t = "a" ++ "." ++ x ++ "." ++ "a") ∧
      (between ["a"] ["a"]).accepts "a..a" = true ∧ (between ["a"] ["a"]).accepts "a.a" = false :=
  have h : parse "a.*.a" = .ok (.between ["a"] ["a"]) := by decide
  ⟨h, (accepts_spelled h).between "a" "a" (by decide), by decide, by decide⟩

end Pattern

end Switchboard
