import Mathlib.Algebra.Order.Ring.Nat
import Mathlib.Order.Monotone.Basic
import Switchboard.Caller.Config

/-
  The length of a pause — doubling in the range of words.

  The pause before a retry is computed in three steps, each of which may stop at
  the largest word: the doubling, the product with the first pause, and the cap.
  Together they come to the doubled pause, cut off once.

  * `CallerConfig.cap` is the longest pause that the settings allow;
  * `backoffMs_eq`: the pause is `base * 2 ^ n`, or the cap if that is less;
  * `pauseMs_range`: what a pause may be when it is drawn;
  * `backoff_exact` puts these together.
-/

namespace Switchboard.CallerConfig

variable {c : CallerConfig}

/-- The longest pause: the bound of the settings, or the largest word. -/
def cap (c : CallerConfig) : Nat := if 0 < c.maxDelayMs then c.maxDelayMs else 2 ^ 64 - 1

theorem largestWord_eq : largestWord = 2 ^ 64 - 1 := rfl

theorem cap_le (hword : c.maxDelayMs < 2 ^ 64) : c.cap ≤ largestWord := by
  rw [largestWord_eq, cap]
  split <;> omega

theorem backoffMs_eq_min_cap (hword : c.maxDelayMs < 2 ^ 64) (n : Nat) :
    c.backoffMs n = min (c.baseDelayMs * growth n) c.cap := by
  have hlargest : largestWord = 2 ^ 64 - 1 := largestWord_eq
  unfold backoffMs cap
  dsimp only
  split <;> omega

/-- From 64 doublings on, any first pause but `0` has left the range of words, by
    the growth that is used as well as by the true one. -/
theorem largestWord_le_mul {base n : Nat} (hbase : 0 < base) (hn : 64 ≤ n) :
    largestWord ≤ base * largestWord ∧ largestWord ≤ base * 2 ^ n := by
  have hpow : 2 ^ 64 ≤ 2 ^ n := Nat.pow_le_pow_right (by decide) hn
  have hlargest : largestWord ≤ 2 ^ n := by
    rw [largestWord_eq]
    exact (Nat.sub_le _ 1).trans hpow
  exact ⟨Nat.le_mul_of_pos_left _ hbase, hlargest.trans (Nat.le_mul_of_pos_left _ hbase)⟩

/-- **The pause before a retry** is the first one, doubled, up to the cap. -/
theorem backoffMs_eq (hword : c.maxDelayMs < 2 ^ 64) (n : Nat) :
    c.backoffMs n = min (c.baseDelayMs * 2 ^ n) c.cap := by
  rw [backoffMs_eq_min_cap hword]
  by_cases hn : n < 64
  · have hgrowth : growth n = 2 ^ n := if_pos hn
    rw [hgrowth]
  · have hgrowth : growth n = largestWord := if_neg hn
    rw [hgrowth]
    rcases Nat.eq_zero_or_pos c.baseDelayMs with hbase | hbase
    · rw [hbase, Nat.zero_mul, Nat.zero_mul]
    · obtain ⟨hused, htrue⟩ := largestWord_le_mul hbase (Nat.le_of_not_lt hn)
      have hcap := cap_le hword
      rw [Nat.min_eq_right (hcap.trans hused), Nat.min_eq_right (hcap.trans htrue)]

theorem backoffMs_mono (hword : c.maxDelayMs < 2 ^ 64) : Monotone c.backoffMs := by
  intro m n hmn
  rw [backoffMs_eq hword, backoffMs_eq hword]
  have hpow : 2 ^ m ≤ 2 ^ n := Nat.pow_le_pow_right (by decide) hmn
  exact min_le_min_right _ (Nat.mul_le_mul_left _ hpow)

theorem pauseMs_le (draw retry : Nat) : c.pauseMs draw retry ≤ c.backoffMs retry := by
  unfold pauseMs
  split
  · exact Nat.min_le_left ..
  · exact Nat.le_refl _

theorem pauseMs_steady (h : c.jitter = false) (draw retry : Nat) :
    c.pauseMs draw retry = c.backoffMs retry := by
  simp [pauseMs, h]

/-- A pause that is drawn may be anything up to the full one. -/
theorem pauseMs_range (n v : Nat) :
    (∃ draw, c.pauseMs draw n = v) ↔
      if c.jitter then v ≤ c.backoffMs n else v = c.backoffMs n := by
  split
  · next hjitter =>
    have hpause (draw : Nat) : c.pauseMs draw n = min (c.backoffMs n) draw := if_pos hjitter
    simp only [hpause]
    constructor
    · rintro ⟨draw, rfl⟩
      exact Nat.min_le_left ..
    · exact fun hv => ⟨v, Nat.min_eq_right hv⟩
  · next hjitter =>
    simp only [pauseMs_steady (Bool.eq_false_iff.2 hjitter)]
    exact ⟨fun ⟨_, h⟩ => h.symm, fun h => ⟨0, h.symm⟩⟩

/-- **Pauses are exact at every size.**  The pause before a retry is the first one,
    doubled once for each retry before, or the cap if this is less; so it stays in
    the range of words, keeps to the bound of the settings and never gets shorter.
    One that is drawn may be anything up to it. -/
theorem backoff_exact (c : CallerConfig) (hword : c.maxDelayMs < 2 ^ 64) :
    (∀ n, c.backoffMs n =
      min (c.baseDelayMs * 2 ^ n) (if 0 < c.maxDelayMs then c.maxDelayMs else 2 ^ 64 - 1)) ∧
    (∀ n, c.backoffMs n < 2 ^ 64) ∧
    (∀ n, 0 < c.maxDelayMs → c.backoffMs n ≤ c.maxDelayMs) ∧
    Monotone c.backoffMs ∧
    (∀ n v, (∃ draw, c.pauseMs draw n = v) ↔
      if c.jitter then v ≤ c.backoffMs n else v = c.backoffMs n) := by
  refine ⟨backoffMs_eq hword, fun n => ?_, fun n hpos => ?_, backoffMs_mono hword, pauseMs_range⟩
  · have hlargest : largestWord = 2 ^ 64 - 1 := largestWord_eq
    have hcap : c.backoffMs n ≤ largestWord := by
      rw [backoffMs_eq hword]
      exact (Nat.min_le_right ..).trans (cap_le hword)
    omega
  · rw [backoffMs_eq hword, cap, if_pos hpos]
    exact Nat.min_le_right ..

/-- A first pause of `3` without a bound: the 62nd doubling is the last that fits
    into a word, and all after it are cut off there. -/
theorem backoff_exact_unbounded :
    let c : CallerConfig := { baseDelayMs := 3, maxDelayMs := 0, jitter := true }
    c.backoffMs 62 = 3 * 2 ^ 62 ∧ c.backoffMs 63 = 2 ^ 64 - 1 ∧ c.backoffMs 4294967295 < 2 ^ 64 ∧
      c.backoffMs 63 ≤ c.backoffMs 4294967295 ∧ ∃ draw, c.pauseMs draw 62 = 7 := by
  intro c
  obtain ⟨hexact, hrange, -, hmono, hdrawn⟩ := backoff_exact c (by decide)
  refine ⟨?_, ?_, hrange _, hmono (by decide), (hdrawn 62 7).2 ?_⟩
  · rw [hexact]
    decide
  · rw [hexact]
    decide
  · decide

end Switchboard.CallerConfig
