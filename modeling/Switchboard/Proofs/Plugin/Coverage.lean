import Switchboard.Proofs.Plugin.Permission

/-
  Covering decides inclusion of topics.

  * `Pattern.Admits`: every topic that one pattern matches is matched by
    another;
  * `Pattern.probe` is a topic below fixed segments; what an `under` pattern
    matches is told by its probes, `admits_probe`;
  * `Pattern.covers_spec`: covering is sound for patterns of every form, and
    complete for those that a subscription can have, exact ones and `under`
    ones.
-/

namespace Switchboard.Pattern

/-- Every topic that may be published and is matched by the requested pattern
    is matched by the allowed one. -/
def Admits (allowed requested : Pattern) : Prop :=
  ∀ topic, Address.topic topic = .ok () → requested.accepts topic = true →
    allowed.accepts topic = true

/-! ## Probes -/

/-- A topic below fixed segments. -/
def probe (fixed more : List String) : String := dotted (fixed ++ more)

section
variable {fixed more : List String}

theorem segments_probe (hfixed : ∀ s ∈ fixed, Plain s) (hmore : ∀ s ∈ more, Plain s)
    (hne : more ≠ []) : segments (probe fixed more) = fixed ++ more := by
  refine segments_dotted (by simp [hne]) fun s hs => ?_
  rcases List.mem_append.1 hs with hs | hs
  · exact (hfixed s hs).dotless
  · exact (hmore s hs).dotless

theorem topic_probe (hfixed : ∀ s ∈ fixed, Plain s) (hmore : ∀ s ∈ more, Plain s)
    (hne : more ≠ []) : Address.topic (probe fixed more) = .ok () :=
  topic_dotted (by simp [hne]) fun s hs => (List.mem_append.1 hs).elim (hfixed s) (hmore s)

/-- What admits an `under` pattern matches every probe of it. -/
theorem Admits.probe {allowed : Pattern} (h : allowed.Admits (.under fixed))
    (hfixed : ∀ s ∈ fixed, Plain s) (hmore : ∀ s ∈ more, Plain s) (hne : more ≠ []) :
    allowed.accepts (Pattern.probe fixed more) = true := by
  refine h _ (topic_probe hfixed hmore hne) ?_
  have hlen : 0 < more.length := List.length_pos_iff.2 hne
  simp [accepts, acceptsParts, segments_probe hfixed hmore hne, hlen]

end

theorem plain_a : Plain "a" := ⟨by decide, by decide, by decide⟩

theorem plain_b : Plain "b" := ⟨by decide, by decide, by decide⟩

/-- **Only an `under` pattern above admits an `under` pattern.** -/
theorem Admits.prefix {allowed : Pattern} {fixed : List String}
    (h : allowed.Admits (.under fixed)) (hfixed : ∀ s ∈ fixed, Plain s) (hproper : allowed.Proper) :
    ∃ permitted, allowed = .under permitted ∧ permitted <+: fixed := by
  have ha : ∀ s ∈ ["a"], Plain s := by simpa using plain_a
  have hb : ∀ s ∈ ["b"], Plain s := by simpa using plain_b
  have haa : ∀ s ∈ ["a", "a"], Plain s := by simpa using plain_a
  have hpa := h.probe hfixed ha (by simp)
  have hpb := h.probe hfixed hb (by simp)
  have hpaa := h.probe hfixed haa (by simp)
  have hsa := segments_probe hfixed ha (by simp)
  have hsb := segments_probe hfixed hb (by simp)
  have hsaa := segments_probe hfixed haa (by simp)
  cases allowed with
  | exact t =>
    -- two probes that differ in their last segment are two topics
    simp only [accepts, beq_iff_eq] at hpa hpb
    rw [← hpa] at hsa
    rw [← hpb, hsa] at hsb
    simp at hsb
  | under permitted =>
    simp only [accepts, acceptsParts, hsa, Bool.and_eq_true, decide_eq_true_eq,
      List.isPrefixOf_iff_prefix, List.length_append, List.length_singleton] at hpa
    exact ⟨permitted, rfl, List.prefix_of_prefix_length_le hpa.2 (List.prefix_append _ _)
      (by omega)⟩
  | ending after =>
    simp only [accepts, acceptsParts, hsa, hsb, Bool.and_eq_true, List.isSuffixOf_iff_suffix]
      at hpa hpb
    have hlast : after.getLast hproper = "a" := by simpa using hpa.2.getLast hproper
    have hlast' : after.getLast hproper = "b" := by simpa using hpb.2.getLast hproper
    rw [hlast] at hlast'
    simp at hlast'
  | between before after =>
    -- two probes of different lengths
    simp only [accepts, acceptsParts, hsa, hsaa, Bool.and_eq_true, beq_iff_eq, List.length_append,
      List.length_cons, List.length_nil] at hpa hpaa
    omega

/-! ## Covering -/

/-- **Covering decides inclusion of topics.**  What is covered is admitted,
    whatever the forms of the two patterns; and an exact pattern or an `under`
    pattern is covered wherever it is admitted. -/
theorem covers_spec {name name' : String} {allowed requested : Pattern}
    (hallowed : parse name = .ok allowed) (hrequested : parse name' = .ok requested) :
    (allowed.covers requested = true → allowed.Admits requested) ∧
      (requested.kind = .exact ∨ requested.kind = .under →
        allowed.Admits requested → allowed.covers requested = true) := by
  refine ⟨fun h topic _ => covers_within h topic, fun hkind h => ?_⟩
  cases requested with
  | exact t =>
    have htopic : Address.topic t = .ok () := by
      obtain ⟨rfl, hdefect⟩ := parse_eq_exact.1 hrequested
      exact topic_eq_ok.2 hdefect
    exact h t htopic (by simp [accepts])
  | under fixed =>
    obtain ⟨permitted, rfl, hprefix⟩ := h.prefix (plain_of_parse hrequested)
      (proper_of_parse hallowed)
    simp [covers, hprefix]
  | ending fixed => simp [kind] at hkind
  | between before after => simp [kind] at hkind

theorem covers_spec_of_sensors :
    (covers (.under ["sensor"]) (.under ["sensor", "temp"]) = true ∧
      Admits (.under ["sensor"]) (.under ["sensor", "temp"])) ∧
    (covers (.under ["sensor", "temp"]) (.under ["sensor"]) = false ∧
      ¬Admits (.under ["sensor", "temp"]) (.under ["sensor"])) := by
  have hall : parse "sensor.*" = .ok (.under ["sensor"]) := by decide
  have htemp : parse "sensor.temp.*" = .ok (.under ["sensor", "temp"]) := by decide
  have hbelow : covers (.under ["sensor"]) (.under ["sensor", "temp"]) = true := by decide
  have habove : covers (.under ["sensor", "temp"]) (.under ["sensor"]) = false := by decide
  refine ⟨⟨hbelow, (covers_spec hall htemp).1 hbelow⟩, habove, fun h => ?_⟩
  have hcovers := (covers_spec htemp hall).2 (Or.inr rfl) h
  rw [habove] at hcovers
  cases hcovers

end Switchboard.Pattern
