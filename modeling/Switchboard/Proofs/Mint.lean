import Switchboard.Mint

/-
  Identifiers are new.

  * `Mint.grouped_inj`: the texts of different numbers differ;
  * `Mint.Issued`: the identifiers a mint has handed out so far;
  * `Mint.Reaches`: a later state of the same mint;
  * `not_issued_take`, `issued_take`: what is handed out was not handed out
    before, and is from then on;
  * `star_notMem_take`: no wildcard character occurs in it.
-/

namespace Switchboard

/-! ## Hexadecimal digits -/

/-- The number that a hexadecimal digit stands for. -/
def hexValue (c : Char) : Nat := if c.isDigit then c.toNat - 48 else c.toNat - 87

theorem hexValue_digitChar : ∀ d < 16, hexValue d.digitChar = d := by decide

/-- The number that a row of hexadecimal digits stands for. -/
def readHex (cs : List Char) : Nat := cs.foldl (fun v c => 16 * v + hexValue c) 0

theorem readHex_append_singleton (cs : List Char) (c : Char) :
    readHex (cs ++ [c]) = 16 * readHex cs + hexValue c := by simp [readHex]

theorem readHex_toDigits (n : Nat) : readHex (Nat.toDigits 16 n) = n := by
  induction n using Nat.strongRecOn with
  | _ n ih =>
    rw [Nat.toDigits_eq_if (by decide)]
    split
    · next h =>
      rw [show [n.digitChar] = [] ++ [n.digitChar] from rfl, readHex_append_singleton,
        hexValue_digitChar n h]
      simp [readHex]
    · next h =>
      rw [readHex_append_singleton, ih _ (by omega), hexValue_digitChar _ (by omega)]
      omega

theorem readHex_hexPadded (width n : Nat) : readHex (hexPadded width n) = n := by
  have hzeros : ∀ k (cs : List Char), readHex (List.replicate k '0' ++ cs) = readHex cs := by
    intro k cs
    induction k with
    | zero => rfl
    | succ k ih => rw [← ih]; rfl
  rw [hexPadded, hzeros, readHex_toDigits]

theorem hexPadded_inj {width m n : Nat} (h : hexPadded width m = hexPadded width n) : m = n := by
  rw [← readHex_hexPadded width m, h, readHex_hexPadded]

theorem mem_toDigits {c : Char} {n : Nat} (h : c ∈ Nat.toDigits 16 n) : ∃ d < 16, c = d.digitChar := by
  induction n using Nat.strongRecOn with
  | _ n ih =>
    rw [Nat.toDigits_eq_if (by decide)] at h
    split at h
    · next hn => exact ⟨n, hn, List.mem_singleton.1 h⟩
    · next hn =>
      rcases List.mem_append.1 h with h | h
      · exact ih _ (by omega) h
      · exact ⟨n % 16, by omega, List.mem_singleton.1 h⟩

theorem mem_hexPadded {c : Char} {width n : Nat} (h : c ∈ hexPadded width n) :
    ∃ d < 16, c = d.digitChar := by
  rcases List.mem_append.1 h with h | h
  · exact ⟨0, by decide, (List.mem_replicate.1 h).2⟩
  · exact mem_toDigits h

theorem digitChar_ne_star : ∀ d < 16, d.digitChar ≠ '*' := by decide

/-! ## Mints -/

namespace Mint

theorem grouped_inj {series m n : Nat} (h : grouped series m = grouped series n) : m = n :=
  hexPadded_inj (List.append_cancel_left (String.ofList_injective h))

/-- The identifiers handed out so far. -/
def Issued (m : Mint) (id : String) : Prop := ∃ k < m.next, id = grouped m.series k

/-- A later state of a mint. -/
def Reaches (m m' : Mint) : Prop := m'.series = m.series ∧ m.next ≤ m'.next

theorem Reaches.refl (m : Mint) : m.Reaches m := ⟨rfl, Nat.le_refl _⟩

theorem Reaches.trans {m₁ m₂ m₃ : Mint} (h : m₁.Reaches m₂) (h' : m₂.Reaches m₃) :
    m₁.Reaches m₃ := ⟨h'.1.trans h.1, Nat.le_trans h.2 h'.2⟩

theorem reaches_advance (m : Mint) : m.Reaches m.advance := ⟨rfl, Nat.le_succ _⟩

theorem Reaches.issued {m m' : Mint} (h : m.Reaches m') {id : String} (hid : m.Issued id) :
    m'.Issued id := by
  obtain ⟨k, hk, rfl⟩ := hid
  exact ⟨k, Nat.lt_of_lt_of_le hk h.2, by rw [h.1]⟩

/-- What is handed out has not been handed out before. -/
theorem not_issued_take (m : Mint) : ¬ m.Issued m.take.1 := by
  rintro ⟨k, hk, h⟩
  rw [← grouped_inj h] at hk
  exact Nat.lt_irrefl _ hk

theorem issued_take (m : Mint) : m.advance.Issued m.take.1 := ⟨m.next, Nat.lt_succ_self _, rfl⟩

/-! ## Identifiers in names -/

theorem star_notMem_hexPadded (width n : Nat) : '*' ∉ hexPadded width n := by
  intro h
  obtain ⟨d, hd, heq⟩ := mem_hexPadded h
  exact digitChar_ne_star d hd heq.symm

/-- The wildcard character does not occur in an identifier. -/
theorem star_notMem_take (m : Mint) : '*' ∉ m.take.1.toList := by
  have hmiddle : '*' ∉ "-b05e-4000-a000-".toList := by decide
  simp only [take, grouped, String.toList_ofList, List.mem_append, not_or]
  exact ⟨⟨star_notMem_hexPadded _ _, hmiddle⟩, star_notMem_hexPadded _ _⟩

theorem star_notMem_takeRun (m : Mint) : '*' ∉ m.takeRun.1.toList := by
  simp only [takeRun, run, String.toList_ofList, List.mem_append, not_or]
  exact ⟨star_notMem_hexPadded _ _, star_notMem_hexPadded _ _⟩

end Mint

end Switchboard
