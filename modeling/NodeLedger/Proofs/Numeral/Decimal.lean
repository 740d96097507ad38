import NodeLedger.Amount
import NodeLedger.Proofs.Text.Digit

/-!
# Integers that are written and read back

The decimal numeral of an integer reads as that integer, as long as it has no more digits than a
numeral may have.

Main results:

- Theorem `Numeral.digitRun_of_isDigit`: a run of digits is read to its end.
- Theorem `Numeral.readInteger_toString`: the numeral of an integer reads as the integer.
- Theorem `Numeral.eq_of_numeral_append`: a numeral in front of a colon is told apart from others.
-/

namespace NodeLedger.Numeral

open List NodeLedger.Text

/-- A run of digits is read to its end, and has the value of its digits. -/
theorem digitRun_of_isDigit {cs : List Char} (h : ∀ c ∈ cs, c.isDigit = true)
    (value count : Nat) :
    digitRun .decimal value count cs =
      some ⟨Nat.ofDigitChars 10 cs value, count + cs.length, []⟩ := by
  induction cs generalizing value count with
  | nil => simp [digitRun]
  | cons c rest ih =>
    rw [List.forall_mem_cons] at h
    have hdigit : Base.decimal.digit? c = some (c.toNat - 48) := asciiDigit?_of_isDigit h.1
    have hmark : c ≠ '_' := by
      rintro rfl
      exact absurd h.1 (by decide)
    rw [digitRun, hdigit]
    · dsimp only
      rw [ih h.2, Nat.ofDigitChars_cons]
      simp [Base.size, Nat.mul_comm, Nat.add_assoc, Nat.add_comm 1]
    · exact fun hmarked => hmark hmarked

/-- A numeral of digits only has the value of its digits. -/
theorem unsigned_of_isDigit {cs : List Char} (h : ∀ c ∈ cs, c.isDigit = true) (hne : cs ≠ []) :
    unsigned .decimal cs = some ⟨Nat.ofDigitChars 10 cs 0, cs.length, []⟩ := by
  cases cs with
  | nil => exact absurd rfl hne
  | cons c rest =>
    rw [List.forall_mem_cons] at h
    have hdigit : Base.decimal.digit? c = some (c.toNat - 48) := asciiDigit?_of_isDigit h.1
    rw [unsigned, hdigit]
    dsimp only
    rw [digitRun_of_isDigit h.2, Nat.ofDigitChars_cons]
    simp [Nat.add_comm 1]

/-- The digits of a natural. -/
theorem isDigit_of_mem_toDigits {n : Nat} {c : Char} (h : c ∈ Nat.toDigits 10 n) :
    c.isDigit = true :=
  Nat.isDigit_of_mem_toDigits (by decide) (by decide) h

/-- The characters of the numeral of an integer. -/
theorem toList_toString (n : Int) :
    (toString n).toList = (if 0 ≤ n then [] else ['-']) ++ Nat.toDigits 10 n.natAbs := by
  rw [Int.toString_eq_repr, Int.repr_eq_if]
  by_cases hn : 0 ≤ n
  · have habs : n.toNat = n.natAbs := by omega
    simp [hn, habs]
  · have habs : (-n).toNat = n.natAbs := by omega
    simp [hn, habs]

/-- An integer is written without a colon. -/
theorem colon_not_mem_toString (n : Int) : ':' ∉ (toString n).toList := by
  have hdigits : ':' ∉ Nat.toDigits 10 n.natAbs := by
    intro hmem
    exact absurd (isDigit_of_mem_toDigits hmem) (by decide)
  rw [toList_toString, List.mem_append, not_or]
  refine ⟨?_, hdigits⟩
  split <;> simp

/-- Different integers have different numerals. -/
theorem toString_injective : Function.Injective (toString : Int → String) := by
  have hdigits : ∀ {k l : Nat}, Nat.toDigits 10 k = Nat.toDigits 10 l → k = l := by
    intro k l hsame
    rw [← Nat.ofDigitChars_ten_toDigits (n := k), hsame, Nat.ofDigitChars_ten_toDigits]
  have hminus : ∀ k l : Nat, '-' :: Nat.toDigits 10 k ≠ Nat.toDigits 10 l := by
    intro k l hsame
    have hmem : '-' ∈ Nat.toDigits 10 l := by
      rw [← hsame]
      exact List.mem_cons_self
    exact absurd (isDigit_of_mem_toDigits hmem) (by decide)
  intro m n h
  have hlists := congrArg String.toList h
  rw [toList_toString, toList_toString] at hlists
  by_cases hm : 0 ≤ m
  · by_cases hn : 0 ≤ n
    · rw [if_pos hm, if_pos hn] at hlists
      have := hdigits hlists
      omega
    · rw [if_pos hm, if_neg hn] at hlists
      exact absurd hlists.symm (hminus _ _)
  · by_cases hn : 0 ≤ n
    · rw [if_neg hm, if_pos hn] at hlists
      exact absurd hlists (hminus _ _)
    · rw [if_neg hm, if_neg hn] at hlists
      have := hdigits (List.append_cancel_left hlists)
      omega

/-- A numeral ends at the first colon behind it. -/
theorem eq_of_numeral_append {m n : Int} {a b : String}
    (h : toString m ++ ":" ++ a = toString n ++ ":" ++ b) : m = n := by
  have htake : ∀ (k : Int) (c : String),
      (toString k ++ ":" ++ c).toList.takeWhile (· ≠ ':') = (toString k).toList := by
    intro k c
    have hnumeral : ∀ d ∈ (toString k).toList, (decide (d ≠ ':')) = true := by
      intro d hd
      refine decide_eq_true ?_
      rintro rfl
      exact colon_not_mem_toString k hd
    rw [String.append_assoc, String.toList_append, List.takeWhile_append_of_pos hnumeral,
      String.toList_append]
    simp
  have hlists : (toString m).toList = (toString n).toList := by
    rw [← htake m a, h, htake n b]
  exact toString_injective (String.toList_injective hlists)

/-- Digits stand for themselves. -/
theorem map_plain_of_isDigit {cs : List Char} (h : ∀ c ∈ cs, c.isDigit = true) :
    cs.map plain = cs := by
  rw [List.map_congr_left (g := id), List.map_id]
  intro c hc
  have hrange := toNat_of_isDigit (h c hc)
  unfold plain
  rw [if_pos (by omega)]
  rfl

/-- Digits have no sign. -/
theorem splitSign_of_isDigit {cs : List Char} (h : ∀ c ∈ cs, c.isDigit = true) :
    splitSign cs = (false, cs) := by
  unfold splitSign
  split
  · exact absurd (h '-' List.mem_cons_self) (by decide)
  · exact absurd (h '+' List.mem_cons_self) (by decide)
  · rfl

/-- There is no blank in front of digits. -/
theorem dropWhile_of_isDigit {cs : List Char} (h : ∀ c ∈ cs, c.isDigit = true) :
    cs.dropWhile isNumeralBlank = cs := by
  cases cs with
  | nil => rfl
  | cons c rest =>
    have hrange := toNat_of_isDigit (h c List.mem_cons_self)
    exact List.dropWhile_cons_of_neg
      (by rw [isNumeralBlank_eq_false (by omega) (by omega)]; simp)

/-- The numeral of an integer reads as the integer, unless it is too long. -/
theorem readInteger_toString {n : Int} (h : (Nat.toDigits 10 n.natAbs).length ≤ 4300) :
    readInteger .decimal (toString n) = .ok n := by
  have hdigits : ∀ c ∈ Nat.toDigits 10 n.natAbs, c.isDigit = true :=
    fun c => isDigit_of_mem_toDigits
  have hsign : splitSign (((toString n).toList.map plain).dropWhile isNumeralBlank) =
      (decide (n < 0), Nat.toDigits 10 n.natAbs) := by
    rw [toList_toString, List.map_append, map_plain_of_isDigit hdigits]
    by_cases hn : 0 ≤ n
    · have hpositive : ¬ n < 0 := by omega
      simp [hn, hpositive, dropWhile_of_isDigit hdigits, splitSign_of_isDigit hdigits]
    · have hminus : isNumeralBlank (plain '-') = false := by decide
      have hnegative : n < 0 := by omega
      rw [if_neg hn, List.map_cons, List.map_nil, List.singleton_append,
        List.dropWhile_cons_of_neg (by rw [hminus]; simp), decide_eq_true hnegative]
      rfl
  have hrun := unsigned_of_isDigit hdigits Nat.toDigits_ne_nil
  rw [Nat.ofDigitChars_ten_toDigits] at hrun
  unfold readInteger
  rw [hsign]
  have hshort : Base.decimal.tooLong (Nat.toDigits 10 n.natAbs).length = false :=
    decide_eq_false (by omega)
  simp only [afterMark, hrun, hshort]
  by_cases hn : n < 0
  · have hvalue : -(n.natAbs : Int) = n := by omega
    simp only [hn, decide_true, if_true, hvalue]
    rfl
  · have hvalue : (n.natAbs : Int) = n := by omega
    simp only [hn, decide_false, Bool.false_eq_true, if_false, hvalue]
    rfl

end NodeLedger.Numeral
