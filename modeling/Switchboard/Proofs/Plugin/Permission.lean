import Switchboard.Proofs.Pattern
import Switchboard.Plugin.Guard

/-
  What a plugin is permitted, and what its guard lets through.

  * `Pattern.Within`: one pattern matches whatever another one matches;
    `covers_within`: a pattern that covers another permits it entirely;
  * `Permissions.Allows` and `AllowsAll` are what permissions mean that name
    topics, for a topic and for a pattern; `Permits` is what any permissions mean;
  * `Guard.Of.allowsAll`, `Guard.Of.permits`: what passes a guard is permitted.
-/

namespace Switchboard

/-! ## Patterns within patterns -/

/-- Whatever a pattern matches is matched by the other. -/
def Pattern.Within (p allowed : Pattern) : Prop :=
  ∀ topic, p.accepts topic = true → allowed.accepts topic = true

/-- **Covering is sound.** -/
theorem Pattern.covers_within {allowed requested : Pattern}
    (h : allowed.covers requested = true) : requested.Within allowed := by
  intro topic haccepts
  cases requested with
  | exact t =>
    obtain rfl : t = topic := by simpa [accepts] using haccepts
    exact h
  | under fixed =>
    cases allowed with
    | under permitted =>
      have hbelow : permitted <+: fixed := by
        rcases (by simpa [covers] using h : permitted = fixed ∨ permitted <+: fixed) with rfl | h
        · exact List.prefix_refl permitted
        · exact h
      simp only [accepts, acceptsParts, Bool.and_eq_true, decide_eq_true_eq,
        List.isPrefixOf_iff_prefix] at haccepts ⊢
      exact ⟨Nat.lt_of_le_of_lt hbelow.length_le haccepts.1, hbelow.trans haccepts.2⟩
    | _ => simp [covers] at h
  | ending fixed =>
    obtain rfl : allowed = .ending fixed := by simpa [covers] using h
    exact haccepts
  | between before after =>
    obtain rfl : allowed = .between before after := by simpa [covers] using h
    exact haccepts

/-! ## Permissions -/

namespace Permissions

/-- A capability is granted, and one of the patterns matches the topic. -/
def Allows (p : Permissions) (c : Capability) (topic : String) : Prop :=
  c ∈ p.capabilities ∧
    ∃ name ∈ p.topics, ∃ allowed, Pattern.parse name = .ok allowed ∧ allowed.accepts topic = true

/-- A capability is granted, and one of the patterns matches whatever the
    requested pattern matches. -/
def AllowsAll (p : Permissions) (c : Capability) (requested : Pattern) : Prop :=
  c ∈ p.capabilities ∧
    ∃ name ∈ p.topics, ∃ allowed, Pattern.parse name = .ok allowed ∧ requested.Within allowed

/-- A capability is granted and, where topics are named at all, one of them
    matches whatever the requested pattern matches. -/
def Permits (p : Permissions) (c : Capability) (requested : Pattern) : Prop :=
  c ∈ p.capabilities ∧
    (p.topics = [] ∨
      ∃ name ∈ p.topics, ∃ allowed, Pattern.parse name = .ok allowed ∧ requested.Within allowed)

theorem AllowsAll.allows {p : Permissions} {c : Capability} {topic : String}
    (h : p.AllowsAll c (.exact topic)) : p.Allows c topic := by
  obtain ⟨hc, name, hname, allowed, hparse, hwithin⟩ := h
  exact ⟨hc, name, hname, allowed, hparse, hwithin topic (by simp [Pattern.accepts])⟩

end Permissions

/-! ## Guards -/

namespace Guard

/-- A guard that was made from permissions. -/
structure Of (g : Guard) (p : Permissions) : Prop where
  capabilities : g.capabilities = p.capabilities
  nonempty : p.topics ≠ [] → g.topics ≠ []
  read : ∀ allowed ∈ g.topics, ∃ name ∈ p.topics, Pattern.parse name = .ok allowed

theorem readTopics_spec {names : List String} {ps : List Pattern}
    (h : readTopics names = .ok ps) :
    (names ≠ [] → ps ≠ []) ∧ ∀ p ∈ ps, ∃ name ∈ names, Pattern.parse name = .ok p := by
  induction names generalizing ps with
  | nil =>
    cases h
    exact ⟨fun hne => absurd rfl hne, by simp⟩
  | cons name names ih =>
    unfold readTopics at h
    rcases hp : Address.pattern name with f | p
    · rw [hp] at h
      cases h
    rcases hps : readTopics names with f | ps'
    · rw [hp, hps] at h
      cases h
    rw [hp, hps] at h
    cases h
    refine ⟨by simp, fun p' hp' => ?_⟩
    rcases List.mem_cons.1 hp' with rfl | hp'
    · exact ⟨name, List.mem_cons_self, parse_of_address hp⟩
    · obtain ⟨name', hname', hparse⟩ := (ih hps).2 p' hp'
      exact ⟨name', List.mem_cons_of_mem _ hname', hparse⟩

theorem of_ofPermissions {g : Guard} {plugin : String} {p : Permissions}
    (h : ofPermissions plugin p = .ok g) : g.Of p := by
  unfold ofPermissions at h
  rcases hps : readTopics p.topics with f | ps
  · rw [hps] at h
    cases h
  · rw [hps] at h
    cases h
    exact ⟨rfl, (readTopics_spec hps).1, (readTopics_spec hps).2⟩

/-- A call that passes its guard has the capability, and a name that reads as a
    pattern is covered by one that the guard allows. -/
theorem refusal?_eq_none {g : Guard} {c : Capability} {name : Option String} :
    g.refusal? c name = none ↔ c ∈ g.capabilities ∧
      (g.topics = [] ∨ ∀ n, name = some n → ∀ requested, Pattern.parse n = .ok requested →
        ∃ allowed ∈ g.topics, allowed.covers requested = true) := by
  unfold refusal?
  split
  · next h => simp_all
  · next h =>
    have hc : c ∈ g.capabilities := by simpa using h
    rcases name with _ | name
    · simp [hc]
    · by_cases hnil : g.topics = []
      · simp [hc, hnil]
      · rcases hparse : Pattern.parse name with d | requested
        · simp [hc, hnil, hparse]
        · simp [hc, hnil, hparse]

/-- **What passes a guard is permitted.** -/
theorem Of.allowsAll {g : Guard} {p : Permissions} (h : g.Of p) (htopics : p.topics ≠ [])
    {c : Capability} {name : String} {requested : Pattern}
    (hpasses : g.refusal? c (some name) = none) (hparse : Pattern.parse name = .ok requested) :
    p.AllowsAll c requested := by
  obtain ⟨hc, hnil | hcovered⟩ := refusal?_eq_none.1 hpasses
  · exact absurd hnil (h.nonempty htopics)
  · obtain ⟨allowed, hmem, hcovers⟩ := hcovered name rfl requested hparse
    obtain ⟨name', hname', hparse'⟩ := h.read allowed hmem
    exact ⟨h.capabilities ▸ hc, name', hname', allowed, hparse', Pattern.covers_within hcovers⟩

/-- **A request that passes a guard** is permitted, whether or not topics are named. -/
theorem Of.permits {g : Guard} {p : Permissions} (h : g.Of p) {c : Capability} {name : String}
    (hpasses : g.refusal? c (some name) = none) {requested : Pattern}
    (hparse : Pattern.parse name = .ok requested) : p.Permits c requested := by
  refine ⟨h.capabilities ▸ (refusal?_eq_none.1 hpasses).1, ?_⟩
  by_cases htopics : p.topics = []
  · exact Or.inl htopics
  · exact Or.inr (h.allowsAll htopics hpasses hparse).2

end Guard

end Switchboard
