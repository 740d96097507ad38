import NodeLedger.Text.Blank
import NodeLedger.Text.Digit

/-!
# Digits as numbers

Digits are told by the numbers of their characters.

Main results:

- Theorem `Text.le_iff_toNat_le`: characters are in the order of their numbers.
- Theorem `Text.toNat_of_hexDigit`: where the hexadecimal digits stand.
- Theorem `Text.hexDigit?_eq_some_iff`: for which values they are written.
- Theorem `Text.asciiDigit?_of_isDigit`: the value of a decimal digit.
-/

namespace NodeLedger.Text

theorem le_iff_toNat_le {c d : Char} : c ≤ d ↔ c.toNat ≤ d.toNat := by
  rw [Char.le_def, UInt32.le_iff_toNat_le]
  rfl

/-! ## Hexadecimal digits -/

/-- Hexadecimal digits stand behind the blanks and are ASCII. -/
theorem toNat_of_hexDigit {c : Char} (h : (hexDigit? c).isSome) :
    48 ≤ c.toNat ∧ c.toNat < 128 := by
  unfold hexDigit? at h
  simp only [le_iff_toNat_le, Char.reduceToNat] at h
  by_cases hdecimal : 48 ≤ c.toNat ∧ c.toNat ≤ 57
  · omega
  · by_cases hlower : 97 ≤ c.toNat ∧ c.toNat ≤ 102
    · omega
    · by_cases hupper : 65 ≤ c.toNat ∧ c.toNat ≤ 70
      · omega
      · simp [hdecimal, hlower, hupper] at h

theorem toNat_toLower (c : Char) :
    c.toLower.toNat = if 65 ≤ c.toNat ∧ c.toNat ≤ 90 then c.toNat + 32 else c.toNat := by
  have hrange : (c.val ≥ 'A'.val ∧ c.val ≤ 'Z'.val) ↔ 65 ≤ c.toNat ∧ c.toNat ≤ 90 := by
    simp only [ge_iff_le, UInt32.le_iff_toNat_le]
    rfl
  unfold Char.toLower
  by_cases hupper : 65 ≤ c.toNat ∧ c.toNat ≤ 90
  · rw [dif_pos (hrange.mpr hupper), if_pos hupper]
    have hsum : (c.val + ('a'.val - 'A'.val)).toNat = (c.toNat + 32) % 2 ^ 32 :=
      UInt32.toNat_add _ _
    have hsmall : c.toNat + 32 < 2 ^ 32 := by omega
    exact hsum.trans (Nat.mod_eq_of_lt hsmall)
  · rw [dif_neg (mt hrange.mp hupper), if_neg hupper]

theorem toNat_digitChar {d : Nat} (h : d < 16) :
    (Nat.digitChar d).toNat = if d < 10 then d + 48 else d + 87 := by
  decide +revert

/-- A hexadecimal digit has the value for which it is written in lower case. -/
theorem hexDigit?_eq_some_iff {c : Char} {d : Nat} :
    hexDigit? c = some d ↔ d < 16 ∧ c.toLower = Nat.digitChar d := by
  have hwritten : d < 16 → (c.toLower = Nat.digitChar d ↔
      (if 65 ≤ c.toNat ∧ c.toNat ≤ 90 then c.toNat + 32 else c.toNat) =
        if d < 10 then d + 48 else d + 87) := by
    intro h
    rw [← Char.toNat_inj, toNat_toLower, toNat_digitChar h]
  unfold hexDigit?
  simp only [le_iff_toNat_le, Char.reduceToNat]
  constructor
  · intro h
    have hsmall : d < 16 := by grind
    refine ⟨hsmall, (hwritten hsmall).mpr ?_⟩
    grind
  · rintro ⟨hsmall, hlower⟩
    have hnumber := (hwritten hsmall).mp hlower
    grind

/-! ## Decimal digits -/

variable {c : Char}

theorem toNat_of_isDigit (h : c.isDigit = true) : 48 ≤ c.toNat ∧ c.toNat ≤ 57 := by
  simp only [Char.isDigit, Bool.and_eq_true, decide_eq_true_eq] at h
  obtain ⟨hlow, hhigh⟩ := h
  exact ⟨le_iff_toNat_le.mp hlow, le_iff_toNat_le.mp hhigh⟩

/-- A decimal digit has the value that it stands for. -/
theorem asciiDigit?_of_isDigit (h : c.isDigit = true) : asciiDigit? c = some (c.toNat - 48) := by
  have hrange := toNat_of_isDigit h
  unfold asciiDigit?
  simp only [le_iff_toNat_le, Char.reduceToNat]
  rw [if_pos hrange]

/-- What stands neither among the blanks nor beyond ASCII is no blank around a number. -/
theorem isNumeralBlank_eq_false (hlow : 33 ≤ c.toNat) (hhigh : c.toNat < 127) :
    isNumeralBlank c = false := by
  simp only [isNumeralBlank, isBlank, Bool.and_eq_false_iff, Bool.or_eq_false_iff,
    decide_eq_false_iff_not, beq_eq_false_iff_ne]
  omega

end NodeLedger.Text
