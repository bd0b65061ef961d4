import Switchboard.Proofs.Lists
import Switchboard.Proofs.Pattern

/-
  The grammar of patterns.

  A pattern is written as a row of segments; at most one of them is the
  wildcard and it is not the only one.  `Pattern.parse` looks for defects one
  after the other instead, and publishing has checks of its own in another order.

  * `Grammatical`: what a name has to look like, said of its segments;
  * `Pattern.parse_around`: a row of plain segments with one wildcard reads;
  * `Pattern.parse_iff_grammatical`: the defects leave exactly the grammar;
  * `Reading`: how a pattern answers to the name it was read from;
  * `Pattern.grammar`: the language, its readings and its topics.
-/

namespace Switchboard

/-! ## The language -/

/-- What the name of a pattern looks like, segment by segment. -/
structure Grammatical (name : String) : Prop where
  notBare : name ≠ wildcard
  segment : ∀ piece ∈ segments name, piece ≠ "" ∧ (piece = wildcard ∨ '*' ∉ piece.toList)
  once : (segments name).count wildcard ≤ 1

instance (name : String) : Decidable (Grammatical name) :=
  decidable_of_iff
    (name ≠ wildcard ∧
      (∀ piece ∈ segments name, piece ≠ "" ∧ (piece = wildcard ∨ '*' ∉ piece.toList)) ∧
      (segments name).count wildcard ≤ 1)
    ⟨fun ⟨notBare, segment, once⟩ => ⟨notBare, segment, once⟩,
      fun ⟨notBare, segment, once⟩ => ⟨notBare, segment, once⟩⟩

theorem Grammatical.plain {name : String} (h : Grammatical name) {piece : String}
    (hpiece : piece ∈ segments name) (hw : piece ≠ wildcard) : Plain piece :=
  have hsegment := h.segment piece hpiece
  ⟨hsegment.1, dotless_of_mem_segments hpiece, hsegment.2.resolve_left hw⟩

namespace Pattern

/-- A row of plain segments with a wildcard among them reads as the pattern
    around that wildcard. -/
theorem parse_around {name : String} {before after : List String}
    (hs : segments name = before ++ wildcard :: after) (hne : before ≠ [] ∨ after ≠ [])
    (hplain : ∀ piece ∈ before ++ after, Plain piece) :
    parse name = .ok (around before after) := by
  have hlong : 1 < (segments name).length := by
    rw [hs, List.length_append, List.length_cons]
    rcases hne with h | h <;> have := List.length_pos_iff.2 h <;> omega
  have hpiece : ∀ piece ∈ segments name, piece = wildcard ∨ Plain piece := by
    intro piece hmem
    rw [hs, List.mem_append, List.mem_cons] at hmem
    rcases hmem with hmem | rfl | hmem
    · exact Or.inr (hplain piece (List.mem_append_left _ hmem))
    · exact Or.inl rfl
    · exact Or.inr (hplain piece (List.mem_append_right _ hmem))
  have hempty : name ≠ "" := by
    rintro rfl
    exact absurd hlong (by decide)
  have hbare : name ≠ wildcard := by
    rintro rfl
    exact absurd hlong (by decide)
  have hsegment : ¬(segments name).any (· = "") = true := by
    simp only [List.any_eq_true, decide_eq_true_eq, not_exists, not_and]
    rintro piece hmem rfl
    rcases hpiece "" hmem with h | h
    · exact absurd h (by decide)
    · exact h.nonempty rfl
  have hpartial : ¬(segments name).any (fun s => hasStar s && s ≠ wildcard) = true := by
    simp only [List.any_eq_true, not_exists, not_and]
    intro piece hmem
    rcases hpiece piece hmem with rfl | h
    · simp
    · simp [hasStar, h.starless]
  have hspan : (segments name).span (· ≠ wildcard) = (before, wildcard :: after) := by
    have hbefore : ∀ piece ∈ before, decide (piece ≠ wildcard) = true := fun piece hmem =>
      decide_eq_true (hplain piece (List.mem_append_left _ hmem)).ne_wildcard
    rw [List.span_eq_takeWhile_dropWhile, hs, List.takeWhile_append_of_pos hbefore,
      List.dropWhile_append_of_pos hbefore]
    simp
  have hafter : ¬after.contains wildcard = true := by
    rw [List.contains_eq_mem, decide_eq_true_eq]
    exact fun hmem => (hplain wildcard (List.mem_append_right _ hmem)).ne_wildcard rfl
  simp only [parse, if_neg hempty, if_neg hbare, if_neg hsegment, if_neg hpartial, hspan,
    if_neg hafter]

theorem grammatical_of_parse {name : String} {p : Pattern} (h : parse name = .ok p) :
    Grammatical name := by
  refine ⟨?_, fun piece hpiece => ?_, ?_⟩
  · rintro rfl
    cases h
  · rcases wildcard_or_plain_of_parse h hpiece with rfl | hplain
    · exact ⟨by decide, Or.inl rfl⟩
    · exact ⟨hplain.nonempty, Or.inr hplain.starless⟩
  · rcases parse_cases h with ⟨-, hnone⟩ | ⟨before, after, -, hnone, hs, -⟩
    · rw [List.count_eq_zero.2 hnone]
      exact Nat.zero_le 1
    · rw [List.mem_append, not_or] at hnone
      rw [hs, List.count_append, List.count_cons_self, List.count_eq_zero.2 hnone.1,
        List.count_eq_zero.2 hnone.2]

theorem parse_of_grammatical {name : String} (h : Grammatical name) :
    ∃ p, parse name = .ok p := by
  by_cases hmem : wildcard ∈ segments name
  · obtain ⟨before, after, hs⟩ := List.append_of_mem hmem
    have hnone : wildcard ∉ before ++ after := by
      have hcount := h.once
      rw [hs, List.count_append, List.count_cons_self] at hcount
      rw [← List.count_eq_zero, List.count_append]
      omega
    refine ⟨_, parse_around hs ?_ fun piece hpiece => h.plain ?_ fun hw => hnone (hw ▸ hpiece)⟩
    · by_contra hnil
      simp only [not_or, not_not] at hnil
      obtain ⟨rfl, rfl⟩ := hnil
      apply h.notBare
      rw [← dotted_segments name, hs]
      exact dotted_wildcard
    · rw [hs, List.mem_append, List.mem_cons]
      exact (List.mem_append.1 hpiece).imp_right Or.inr
  · exact ⟨_, parse_of_plain fun piece hpiece => h.plain hpiece fun hw => hmem (hw ▸ hpiece)⟩

/-- The defects that reading looks for leave exactly the grammar. -/
theorem parse_iff_grammatical {name : String} : (∃ p, parse name = .ok p) ↔ Grammatical name :=
  ⟨fun ⟨_, h⟩ => grammatical_of_parse h, parse_of_grammatical⟩

/-! ## What a pattern says of its name -/

/-- The place of the wildcard among the segments. -/
def wildcardAt? : Pattern → Option Nat
  | .exact _ => none
  | .under fixed => some fixed.length
  | .ending _ => some 0
  | .between before _ => some before.length

/-- The segments of a pattern, put together from its fixed segments and the
    place of its wildcard. -/
def rebuilt (p : Pattern) : List String :=
  match p.wildcardAt? with
  | none => p.fixed
  | some place => p.fixed.insertIdx place wildcard

theorem rebuilt_eq_parts (p : Pattern) : p.rebuilt = p.parts := by
  cases p with
  | exact t => rfl
  | under fixed => simp [rebuilt, wildcardAt?, Pattern.fixed, parts]
  | ending fixed => simp [rebuilt, wildcardAt?, Pattern.fixed, parts]
  | between before after => exact List.insertIdx_length_append before after wildcard

theorem parts_of_parse {name : String} {p : Pattern} (h : parse name = .ok p) :
    p.parts = segments name := by
  rcases parse_cases h with ⟨rfl, -⟩ | ⟨before, after, -, -, hs, rfl⟩
  · rfl
  · rw [parts_around, hs]

/-! ## The form -/

/-- The form of a row of segments: without wildcard, with the wildcard last,
    with the wildcard first, or with the wildcard inside. -/
def formOf (pieces : List String) : PatternKind :=
  if wildcard ∉ pieces then .exact
  else if pieces.getLast? = some wildcard then .under
  else if pieces.head? = some wildcard then .ending
  else .between

theorem kind_around {before after : List String} (hnone : wildcard ∉ before ++ after) :
    (around before after).kind = formOf (before ++ wildcard :: after) := by
  have hmem : wildcard ∈ before ++ wildcard :: after := by simp
  rw [List.mem_append, not_or] at hnone
  rw [formOf, if_neg (not_not_intro hmem)]
  unfold around
  split
  · rw [if_pos (by simp)]
    rfl
  · next hafter =>
    rw [if_neg, if_pos (by rfl)]
    · rfl
    · intro hlast
      refine hnone.2 (List.mem_of_getLast? ?_)
      rwa [List.nil_append, List.getLast?_cons_of_ne_nil hafter] at hlast
  · next hbefore hafter =>
    rw [if_neg, if_neg]
    · rfl
    · intro hhead
      obtain ⟨first, rest, rfl⟩ := List.exists_cons_of_ne_nil hbefore
      exact hnone.1 (List.mem_of_head? hhead)
    · intro hlast
      refine hnone.2 (List.mem_of_getLast? ?_)
      rwa [List.getLast?_append_of_ne_nil _ (List.cons_ne_nil _ _),
        List.getLast?_cons_of_ne_nil hafter] at hlast

theorem kind_of_parse {name : String} {p : Pattern} (h : parse name = .ok p) :
    p.kind = formOf (segments name) := by
  rcases parse_cases h with ⟨rfl, hnone⟩ | ⟨before, after, -, hnone, hs, rfl⟩
  · rw [formOf, if_pos hnone]
    rfl
  · rw [hs, kind_around hnone]

/-! ## The grammar -/

/-- How a pattern answers to the name it was read from. -/
structure Reading (name : String) (p : Pattern) : Prop where
  form : p.kind = formOf (segments name)
  /-- The fixed segments and the place of the wildcard give the name back. -/
  rebuilds : dotted p.rebuilt = name
  written : p.text = name
  again : parse p.text = .ok p
  depth : p.depth = (segments name).length

theorem reading_of_parse {name : String} {p : Pattern} (h : parse name = .ok p) :
    Reading name p where
  form := kind_of_parse h
  rebuilds := by rw [rebuilt_eq_parts, parts_of_parse h, dotted_segments]
  written := text_of_parse h
  again := parsed_of_parse h
  depth := congrArg List.length (parts_of_parse h)

/-- A name may be published if and only if it reads as an exact pattern. -/
theorem topic_iff_exact {name : String} :
    Address.topic name = .ok () ↔ ∃ p, parse name = .ok p ∧ p.kind = .exact := by
  constructor
  · exact fun h => ⟨.exact name, parse_of_publishable h, rfl⟩
  · rintro ⟨p, hp, hkind⟩
    cases p with
    | exact t => exact topic_eq_ok.2 (parse_eq_exact.1 hp).2
    | under fixed => cases hkind
    | ending fixed => cases hkind
    | between before after => cases hkind

/-- **The grammar of patterns.**  A name reads as a pattern if and only if it
    is grammatical, what it reads as answers to the name, and the names that
    read as exact patterns are the topics. -/
theorem grammar (name : String) :
    ((∃ p, parse name = .ok p) ↔ Grammatical name) ∧
      (∀ p, parse name = .ok p → Reading name p) ∧
      (Address.topic name = .ok () ↔ ∃ p, parse name = .ok p ∧ p.kind = .exact) :=
  ⟨parse_iff_grammatical, fun _ => reading_of_parse, topic_iff_exact⟩

example : ["user.*", "*.update", "user.*.update"].all (Grammatical ·) ∧
    ["", "*", "user..*", "user.*x", "*.user.*"].all (¬Grammatical ·) := by decide

end Pattern

end Switchboard
