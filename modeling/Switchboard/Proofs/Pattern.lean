import Mathlib.Data.List.TakeWhile
import Switchboard.Proofs.Topic

/-
  Patterns and the names they are read from.

  * `Pattern.Proper`: a wildcard never stands alone;
  * `Pattern.parse_cases`: what a name that reads as a pattern looks like;
  * `Pattern.text_of_parse`: a pattern is written as it was read;
  * `Pattern.plain_of_parse`: around its wildcard a pattern has plain segments;
  * `Pattern.eq_exact_of_parse`: a name without wildcard is read literally;
  * `Pattern.parse_eq_exact`: what reads literally is what may be published;
  * `parse_of_address`: an address that is accepted as a pattern reads as one.
-/

namespace Switchboard.Pattern

/-- A wildcard that stands at an end has fixed segments on its other side, one
    that stands inside has them on both sides. -/
def Proper : Pattern → Prop
  | .exact _ => True
  | .under fixed => fixed ≠ []
  | .ending fixed => fixed ≠ []
  | .between before after => before ≠ [] ∧ after ≠ []

theorem proper_around {before after : List String} (h : before ≠ [] ∨ after ≠ []) :
    (around before after).Proper := by
  unfold around
  split
  · rcases h with h | h
    · exact h
    · exact absurd rfl h
  · next hafter => exact hafter
  · next hbefore hafter => exact ⟨hbefore, hafter⟩

theorem parts_around (before after : List String) :
    (around before after).parts = before ++ wildcard :: after := by
  unfold around
  split <;> simp [parts]

theorem text_around (before after : List String) :
    (around before after).text = dotted (before ++ wildcard :: after) := by
  rw [← parts_around]
  unfold around
  split <;> rfl

theorem dotted_wildcard : dotted [wildcard] = wildcard := by decide

/-- A name that reads as a pattern has no wildcard segment, or one that is not
    its only segment. -/
theorem parse_cases {name : String} {p : Pattern} (h : parse name = .ok p) :
    p = .exact name ∧ wildcard ∉ segments name ∨
      ∃ before after, (before ≠ [] ∨ after ≠ []) ∧ wildcard ∉ before ++ after ∧
        segments name = before ++ wildcard :: after ∧ p = around before after := by
  unfold parse at h
  split_ifs at h with h₁ h₂
  dsimp only at h
  split_ifs at h
  rw [List.span_eq_takeWhile_dropWhile] at h
  have hsplit := List.takeWhile_append_dropWhile (p := fun s => decide (s ≠ wildcard))
    (l := segments name)
  have hbefore : wildcard ∉ (segments name).takeWhile (fun s => decide (s ≠ wildcard)) :=
    fun hmem => by simpa using List.mem_takeWhile_imp hmem
  split at h
  · next before hspan =>
    obtain ⟨-, ha⟩ := Prod.mk.inj hspan
    rw [ha, List.append_nil] at hsplit
    cases h
    exact Or.inl ⟨rfl, hsplit ▸ hbefore⟩
  · next before w after hspan =>
    obtain ⟨hb, ha⟩ := Prod.mk.inj hspan
    split_ifs at h with hafter
    cases h
    have hw : w = wildcard := by
      have := List.head?_dropWhile_not (fun s => decide (s ≠ wildcard)) (segments name)
      rw [ha] at this
      simpa using this
    rw [hb, ha, hw] at hsplit
    rw [hb] at hbefore
    have hnone : wildcard ∉ before ++ after := by
      rw [List.mem_append]
      rintro (hmem | hmem)
      · exact hbefore hmem
      · exact hafter (by simpa using hmem)
    refine Or.inr ⟨before, after, ?_, hnone, hsplit.symm, rfl⟩
    by_contra hnil
    simp only [not_or, not_not] at hnil
    obtain ⟨rfl, rfl⟩ := hnil
    apply h₂
    rw [← dotted_segments name, ← hsplit]
    exact dotted_wildcard

/-- Each segment of a pattern is its wildcard, or plain. -/
theorem wildcard_or_plain_of_parse {name : String} {p : Pattern} (h : parse name = .ok p)
    {piece : String} (hpiece : piece ∈ segments name) : piece = wildcard ∨ Plain piece := by
  unfold parse at h
  split_ifs at h
  dsimp only at h
  split_ifs at h with hsegment hpartial
  by_cases hw : piece = wildcard
  · exact Or.inl hw
  · refine Or.inr ⟨?_, dotless_of_mem_segments hpiece, ?_⟩
    · rintro rfl
      exact hsegment (List.any_eq_true.2 ⟨"", hpiece, by decide⟩)
    · intro hstar
      exact hpartial (List.any_eq_true.2 ⟨piece, hpiece, by simp [hasStar, hstar, hw]⟩)

theorem proper_of_parse {name : String} {p : Pattern} (h : parse name = .ok p) : p.Proper := by
  rcases parse_cases h with ⟨rfl, -⟩ | ⟨before, after, hne, -, -, rfl⟩
  · trivial
  · exact proper_around hne

/-- **A pattern is written as it was read.** -/
theorem text_of_parse {name : String} {p : Pattern} (h : parse name = .ok p) : p.text = name := by
  rcases parse_cases h with ⟨rfl, -⟩ | ⟨before, after, -, -, hs, rfl⟩
  · rfl
  · rw [text_around, ← hs, dotted_segments]

/-- The segments of a pattern around its wildcard. -/
def fixed : Pattern → List String
  | .exact t => segments t
  | .under fixed | .ending fixed => fixed
  | .between before after => before ++ after

theorem fixed_around (before after : List String) :
    (around before after).fixed = before ++ after := by
  unfold around
  split <;> simp [fixed]

/-- **Around its wildcard a pattern has plain segments.** -/
theorem plain_of_parse {name : String} {p : Pattern} (h : parse name = .ok p) :
    ∀ piece ∈ p.fixed, Plain piece := by
  intro piece hpiece
  rcases parse_cases h with ⟨rfl, hnone⟩ | ⟨before, after, -, hnone, hs, rfl⟩
  · rcases wildcard_or_plain_of_parse h hpiece with rfl | hplain
    · exact absurd hpiece hnone
    · exact hplain
  · rw [fixed_around] at hpiece
    have hmem : piece ∈ segments name := by
      rw [hs, List.mem_append, List.mem_cons]
      rcases List.mem_append.1 hpiece with hpiece | hpiece
      · exact Or.inl hpiece
      · exact Or.inr (Or.inr hpiece)
    rcases wildcard_or_plain_of_parse h hmem with rfl | hplain
    · exact absurd hpiece hnone
    · exact hplain

/-- A name without the wildcard character reads as an exact pattern. -/
theorem eq_exact_of_parse {name : String} {p : Pattern} (h : parse name = .ok p)
    (hstar : hasStar name = false) : p = .exact name := by
  rcases parse_cases h with ⟨rfl, -⟩ | ⟨before, after, -, -, hs, -⟩
  · rfl
  · have hmem : wildcard ∈ segments name := by simp [hs]
    exact absurd (hasStar_of_mem_segments hstar hmem) (by decide)

theorem parse_of_plain {name : String} (h : ∀ piece ∈ segments name, Plain piece) :
    parse name = .ok (.exact name) := by
  have hempty : name ≠ "" := by
    rintro rfl
    exact (h "" (by decide)).nonempty rfl
  have hbare : name ≠ wildcard := by
    rintro rfl
    exact (h wildcard (by decide)).ne_wildcard rfl
  have hsegment : ¬(segments name).any (· = "") = true := by
    simpa using fun hmem => (h "" hmem).nonempty rfl
  have hpartial : ¬(segments name).any (fun s => hasStar s && s ≠ wildcard) = true := by
    simp only [List.any_eq_true, not_exists, not_and]
    intro piece hpiece
    simp [hasStar, (h piece hpiece).starless]
  have hspan : (segments name).span (· ≠ wildcard) = (segments name, []) := by
    have hall : ∀ piece ∈ segments name, decide (piece ≠ wildcard) = true :=
      fun piece hpiece => decide_eq_true (h piece hpiece).ne_wildcard
    rw [List.span_eq_takeWhile_dropWhile, List.takeWhile_eq_self_iff.2 hall,
      List.dropWhile_eq_nil_iff.2 hall]
  simp only [parse, if_neg hempty, if_neg hbare, if_neg hsegment, if_neg hpartial, hspan]

/-- **What reads literally is what may be published.** -/
theorem parse_eq_exact {name t : String} :
    parse name = .ok (.exact t) ↔ t = name ∧ topicDefect? name = none := by
  constructor
  · intro h
    have hplain := plain_of_parse h
    obtain rfl : t = name := text_of_parse h
    exact ⟨rfl, topicDefect?_eq_none.2 hplain⟩
  · rintro ⟨rfl, h⟩
    exact parse_of_plain (topicDefect?_eq_none.1 h)

/-- Whether a pattern can be read. -/
def Parsed (p : Pattern) : Prop := parse p.text = .ok p

theorem parsed_of_parse {name : String} {p : Pattern} (h : parse name = .ok p) : p.Parsed := by
  rw [Parsed, text_of_parse h, h]

theorem Parsed.proper {p : Pattern} (h : p.Parsed) : p.Proper := proper_of_parse h

end Switchboard.Pattern

namespace Switchboard

theorem parse_of_address {name : String} {p : Pattern} (h : Address.pattern name = .ok p) :
    Pattern.parse name = .ok p := by
  unfold Address.pattern at h
  split at h
  · next hp => cases h; exact hp
  · cases h

theorem parse_of_publishable {name : String} {u : Unit} (h : Address.topic name = .ok u) :
    Pattern.parse name = .ok (.exact name) :=
  Pattern.parse_eq_exact.2 ⟨rfl, topic_eq_ok.1 h⟩

end Switchboard
