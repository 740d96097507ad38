import NodeLedger.Numeral.Integer
import NodeLedger.Proofs.Text.Digit

/-!
# Hexadecimal numerals

A text of hexadecimal digits is a numeral, however long it is: none of them is a blank, a sign, an
underscore or the mark that may stand in front of such a numeral.

Main results:

- Theorem `Numeral.exists_digitRun_of_hexDigit`: a run of hexadecimal digits is read to its end.
- Theorem `Numeral.exists_readInteger_of_hexDigit`: a text of hexadecimal digits reads as an
  integer.
-/

namespace NodeLedger.Numeral

open NodeLedger.Text

/-- What is no hexadecimal digit differs from every one. -/
theorem ne_of_hexDigit {c other : Char} (h : (hexDigit? c).isSome = true)
    (hother : hexDigit? other = none) : c ≠ other := by
  rintro rfl
  rw [hother] at h
  cases h

/-- Hexadecimal digits stand for themselves and are no blanks. -/
theorem plain_of_hexDigit {c : Char} (h : (hexDigit? c).isSome = true) :
    plain c = c ∧ isNumeralBlank c = false := by
  have hrange := toNat_of_hexDigit h
  have hdelete : c.toNat ≠ 127 := by
    intro hnumber
    refine ne_of_hexDigit h (by decide : hexDigit? (Char.ofNat 127) = none) ?_
    rw [← hnumber, Char.ofNat_toNat]
  refine ⟨?_, isNumeralBlank_eq_false (by omega) (by omega)⟩
  unfold plain
  rw [if_pos (by omega)]

/-- A run of hexadecimal digits is read to its end. -/
theorem exists_digitRun_of_hexDigit {cs : List Char}
    (h : ∀ c ∈ cs, (hexDigit? c).isSome = true) (value count : Nat) :
    ∃ read, digitRun .hexadecimal value count cs = some ⟨read, count + cs.length, []⟩ := by
  induction cs generalizing value count with
  | nil => exact ⟨value, rfl⟩
  | cons c rest ih =>
    rw [List.forall_mem_cons] at h
    obtain ⟨digit, hdigit⟩ := Option.isSome_iff_exists.mp h.1
    obtain ⟨read, hread⟩ := ih h.2 (value * 16 + digit) (count + 1)
    refine ⟨read, ?_⟩
    rw [digitRun]
    · simp only [Base.digit?, hdigit, Base.size, hread, List.length_cons]
      congr 2
      omega
    · exact ne_of_hexDigit h.1 (by decide)

theorem exists_unsigned_of_hexDigit {cs : List Char}
    (h : ∀ c ∈ cs, (hexDigit? c).isSome = true) (hne : cs ≠ []) :
    ∃ read count, unsigned .hexadecimal cs = some ⟨read, count, []⟩ := by
  obtain ⟨c, rest, rfl⟩ := List.exists_cons_of_ne_nil hne
  rw [List.forall_mem_cons] at h
  obtain ⟨digit, hdigit⟩ := Option.isSome_iff_exists.mp h.1
  obtain ⟨read, hread⟩ := exists_digitRun_of_hexDigit h.2 digit 1
  refine ⟨read, 1 + rest.length, ?_⟩
  simp only [unsigned, Base.digit?, hdigit]
  exact hread

/-- No mark stands in front of hexadecimal digits. -/
theorem afterMark_of_hexDigit {cs : List Char} (h : ∀ c ∈ cs, (hexDigit? c).isSome = true) :
    afterMark .hexadecimal cs = cs := by
  unfold afterMark
  split
  · next x rest _ =>
    have hx : (hexDigit? x).isSome = true := h x (by simp)
    have hlower := ne_of_hexDigit hx (by decide : hexDigit? 'x' = none)
    have hupper := ne_of_hexDigit hx (by decide : hexDigit? 'X' = none)
    simp [hlower, hupper]
  · rfl

/-- Nor does a sign. -/
theorem splitSign_of_hexDigit {cs : List Char} (h : ∀ c ∈ cs, (hexDigit? c).isSome = true) :
    splitSign cs = (false, cs) := by
  unfold splitSign
  split
  · exact absurd (h '-' List.mem_cons_self) (by decide)
  · exact absurd (h '+' List.mem_cons_self) (by decide)
  · rfl

/-- A text of hexadecimal digits reads as an integer. -/
theorem exists_readInteger_of_hexDigit {s : String}
    (h : ∀ c ∈ s.toList, (hexDigit? c).isSome = true) (hne : s.toList ≠ []) :
    ∃ n, readInteger .hexadecimal s = .ok n := by
  obtain ⟨read, count, hread⟩ := exists_unsigned_of_hexDigit h hne
  have hplain : s.toList.map plain = s.toList := by
    rw [List.map_congr_left (g := id), List.map_id]
    exact fun c hc => (plain_of_hexDigit (h c hc)).1
  have hblank : s.toList.dropWhile isNumeralBlank = s.toList := by
    obtain ⟨c, rest, hcons⟩ := List.exists_cons_of_ne_nil hne
    have hfirst : isNumeralBlank c = false := (plain_of_hexDigit (h c (by simp [hcons]))).2
    rw [hcons]
    exact List.dropWhile_cons_of_neg (by simp [hfirst])
  unfold readInteger
  rw [hplain, hblank, splitSign_of_hexDigit h]
  dsimp only
  rw [afterMark_of_hexDigit h, hread]
  exact ⟨read, rfl⟩

end NodeLedger.Numeral
