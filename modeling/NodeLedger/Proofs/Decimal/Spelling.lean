import NodeLedger.Decimal.Printer
import NodeLedger.Decimal.Reader
import NodeLedger.Proofs.Numeral.Decimal

/-!
# Decimals that are written and read back

A finite decimal is written with all its digits, and every digit counts when it is read.  So it
reads as the decimal that it is, with the same coefficient and the same exponent, unless its
exponents leave the range in which decimals are read.

Main results:

- Structure `Decimal.Spells`: digits around a point and an exponent that make up a number.
- Theorem `Decimal.exists_spells`: what is written of a finite number.
- Theorem `Decimal.finiteNumeral_of_spells`: what is read from that.
- Theorem `Decimal.read_text`: both together.
-/

namespace NodeLedger.Decimal

open List NodeLedger.Text NodeLedger.Numeral

/-! ## Digits around a point -/

/-- The digits behind a point, and the point if there are any. -/
def fraction : List Char → List Char
  | [] => []
  | places => '.' :: places

/-- Digits before and behind a point, together with an exponent, make up a number. -/
structure Spells (whole places : List Char) (written : Int) (c : Nat) (e : Int) : Prop where
  isDigit_whole : ∀ ch ∈ whole, ch.isDigit = true
  isDigit_places : ∀ ch ∈ places, ch.isDigit = true
  whole_ne_nil : whole ≠ []
  value : Nat.ofDigitChars 10 (whole ++ places) 0 = c
  exponent : written - places.length = e

theorem fraction_of_ne_nil {places : List Char} (h : places ≠ []) :
    fraction places = '.' :: places := by
  obtain ⟨ch, rest, rfl⟩ := List.exists_cons_of_ne_nil h
  rfl

section Point

variable {digits : List Char} {c : Nat} (hdigits : ∀ ch ∈ digits, ch.isDigit = true)
  (hvalue : Nat.ofDigitChars 10 digits 0 = c) (e : Int)

include hdigits hvalue

/-- The point may stand in front of the digits of a number, with zeros between. -/
theorem spells_zeros (count : Nat) :
    Spells ['0'] (List.replicate count '0' ++ digits) (e + digits.length + count) c e where
  isDigit_whole := by simp
  isDigit_places ch hch := by
    rcases List.mem_append.mp hch with hzero | hdigit
    · rw [List.eq_of_mem_replicate hzero]
      rfl
    · exact hdigits ch hdigit
  whole_ne_nil := by simp
  value := by
    rw [Nat.ofDigitChars_append, Nat.ofDigitChars_append, Nat.ofDigitChars_replicate_zero]
    simpa [Nat.ofDigitChars_cons] using hvalue
  exponent := by
    rw [List.length_append, List.length_replicate]
    omega

/-- It may stand among them or at their end. -/
theorem spells_take {point : Nat} (hne : digits ≠ []) (hpos : 0 < point)
    (hpoint : point ≤ digits.length) :
    Spells (digits.take point) (digits.drop point) (e + digits.length - point) c e where
  isDigit_whole ch hch := hdigits ch (List.mem_of_mem_take hch)
  isDigit_places ch hch := hdigits ch (List.mem_of_mem_drop hch)
  whole_ne_nil hnil := by
    rcases List.take_eq_nil_iff.mp hnil with hzero | hnone
    · omega
    · exact hne hnone
  value := by
    rw [List.take_append_drop]
    exact hvalue
  exponent := by
    rw [List.length_drop]
    omega

end Point

/-- The digits of a number, with the point somewhere among them or in front of them. -/
theorem exists_pointed (c : Nat) (e : Int) {point : Int}
    (hpoint : point ≤ (Nat.toDigits 10 c).length) :
    ∃ whole places, pointed (Nat.toDigits 10 c) point = whole ++ fraction places ∧
      Spells whole places (e + (Nat.toDigits 10 c).length - point) c e := by
  have hvalue : Nat.ofDigitChars 10 (Nat.toDigits 10 c) 0 = c := Nat.ofDigitChars_ten_toDigits
  have hdigits : ∀ ch ∈ Nat.toDigits 10 c, ch.isDigit = true := fun ch => isDigit_of_mem_toDigits
  have hne : Nat.toDigits 10 c ≠ [] := Nat.toDigits_ne_nil
  generalize Nat.toDigits 10 c = digits at hpoint hvalue hdigits hne
  unfold pointed
  by_cases hbefore : point ≤ 0
  · rw [if_pos hbefore]
    refine ⟨['0'], List.replicate point.natAbs '0' ++ digits, ?_, ?_⟩
    · rw [fraction_of_ne_nil (List.append_ne_nil_of_right_ne_nil _ hne)]
      rfl
    · have hcount : e + digits.length - point = e + digits.length + point.natAbs := by omega
      rw [hcount]
      exact spells_zeros hdigits hvalue e point.natAbs
  · rw [if_neg hbefore]
    obtain ⟨count, rfl⟩ : ∃ count : Nat, point = count := ⟨point.toNat, by omega⟩
    refine ⟨digits.take count, digits.drop count, ?_,
      spells_take hdigits hvalue e hne (by omega) (by omega)⟩
    by_cases hend : (digits.length : Int) ≤ count
    · have hall : count = digits.length := by omega
      simp [hall, fraction]
    · rw [if_neg hend, fraction_of_ne_nil (by simp; omega)]
      rfl

/-- What is written of a finite number. -/
theorem exists_spells (c : Nat) (e : Int) :
    ∃ whole places written, finiteText c e = whole ++ fraction places ++ exponentText written ∧
      Spells whole places written c e := by
  have hpos : 0 < (Nat.toDigits 10 c).length := Nat.length_toDigits_pos
  unfold finiteText
  extract_lets digits left point
  have hpoint : point ≤ digits.length := by
    unfold point
    split
    · next h =>
      have := h.1
      unfold left digits
      omega
    · unfold digits
      omega
  obtain ⟨whole, places, htext, hspells⟩ := exists_pointed c e hpoint
  exact ⟨whole, places, left - point, congrArg (· ++ exponentText (left - point)) htext, hspells⟩

/-! ## Reading digits -/

theorem isAsciiDigit_of_isDigit {ch : Char} (h : ch.isDigit = true) : isAsciiDigit ch = true := by
  rw [isAsciiDigit, asciiDigit?_of_isDigit h]
  rfl

/-- The value of digits, and how many they are. -/
theorem digitsValue_eq (cs : List Char) :
    digitsValue cs = (Nat.ofDigitChars 10 cs 0, cs.length) := by
  have hfrom : ∀ value count,
      cs.foldl (fun read c => (read.1 * 10 + (c.toNat - 48), read.2 + 1)) (value, count) =
        (Nat.ofDigitChars 10 cs value, count + cs.length) := by
    induction cs with
    | nil => simp
    | cons c rest ih =>
      intro value count
      rw [List.foldl_cons, ih, Nat.ofDigitChars_cons]
      simp [Nat.mul_comm, Nat.add_assoc, Nat.add_comm 1]
  exact (hfrom 0 0).trans (by rw [Nat.zero_add])

theorem wholeNumber?_toDigits (n : Nat) : wholeNumber? (Nat.toDigits 10 n) = some n := by
  have hall : (Nat.toDigits 10 n).all isAsciiDigit = true :=
    List.all_eq_true.mpr fun c hc => isAsciiDigit_of_isDigit (isDigit_of_mem_toDigits hc)
  have hne : (Nat.toDigits 10 n).isEmpty = false :=
    List.isEmpty_eq_false_iff.mpr Nat.toDigits_ne_nil
  unfold wholeNumber?
  rw [hall, hne, digitsValue_eq, Nat.ofDigitChars_ten_toDigits]
  rfl

/-- Digits are read as far as they go. -/
theorem span_isAsciiDigit {digits rest : List Char} (h : ∀ c ∈ digits, c.isDigit = true)
    (hrest : ∀ c ∈ rest.head?, isAsciiDigit c = false) :
    (digits ++ rest).takeWhile isAsciiDigit = digits ∧
      (digits ++ rest).dropWhile isAsciiDigit = rest := by
  have hdigits : ∀ c ∈ digits, isAsciiDigit c = true := fun c hc => isAsciiDigit_of_isDigit (h c hc)
  rw [List.takeWhile_append_of_pos hdigits, List.dropWhile_append_of_pos hdigits]
  cases rest with
  | nil => simp
  | cons c rest =>
    have hc : isAsciiDigit c = false := hrest c (by simp)
    simp [hc]

/-! ## Characters of numerals -/

/-- Digits stand for themselves. -/
theorem numeralChar_of_isDigit {c : Char} (h : c.isDigit = true) : numeralChar c = c := by
  have hrange := toNat_of_isDigit h
  have hvalue : digitValue? c = some (c.toNat - 48) := by
    unfold digitValue? digitZeros
    rw [List.find?_cons_of_pos (by simp; omega)]
    rfl
  unfold numeralChar
  rw [hvalue]
  dsimp only
  rw [Nat.add_sub_cancel' hrange.1]
  exact Char.ofNat_toNat c

theorem map_numeralChar_of_isDigit {cs : List Char} (h : ∀ c ∈ cs, c.isDigit = true) :
    cs.map numeralChar = cs := by
  rw [List.map_congr_left (g := id), List.map_id]
  exact fun c hc => numeralChar_of_isDigit (h c hc)

/-- The characters of which numbers are written. -/
def IsMark (c : Char) : Prop :=
  c.isDigit = true ∨ c ∈ ['.', 'E', '+', '-']

/-- They are neither blanks nor underscores. -/
theorem IsMark.counts {c : Char} (h : IsMark c) : isBlank c = false ∧ c ≠ '_' := by
  rcases h with hdigit | hmark
  · have hrange := toNat_of_isDigit hdigit
    refine ⟨?_, ?_⟩
    · simp only [isBlank, Bool.or_eq_false_iff, decide_eq_false_iff_not, beq_eq_false_iff_ne,
        Bool.and_eq_false_iff]
      omega
    · rintro rfl
      simp at hrange
  · simp only [List.mem_cons, List.not_mem_nil, or_false] at hmark
    rcases hmark with rfl | rfl | rfl | rfl <;> decide

/-- A text without blanks loses nothing where blanks are taken away. -/
theorem trim_eq_self {drop : Char → Bool} {cs : List Char} (h : ∀ c ∈ cs, drop c = false) :
    trim drop cs = cs := by
  have hdrop : ∀ {ds : List Char}, (∀ c ∈ ds, drop c = false) → ds.dropWhile drop = ds := by
    intro ds hds
    cases ds with
    | nil => rfl
    | cons d rest => exact List.dropWhile_cons_of_neg (by simp [hds d List.mem_cons_self])
  unfold trim
  rw [hdrop h, hdrop fun c hc => h c (List.mem_reverse.mp hc), List.reverse_reverse]

/-! ## Reading what is written -/

/-- The exponent as it is read, with its letter in lower case. -/
theorem exponent?_exponentText (e : Int) :
    exponent? ((exponentText e).map numeralChar) = some e := by
  have hdigits : ∀ c ∈ Nat.toDigits 10 e.natAbs, c.isDigit = true :=
    fun c => isDigit_of_mem_toDigits
  have hletter : numeralChar 'E' = 'e' := by decide
  have hminus : numeralChar '-' = '-' := by decide
  have hplus : numeralChar '+' = '+' := by decide
  unfold exponentText
  by_cases hzero : e = 0
  · rw [if_pos hzero, hzero]
    rfl
  · rw [if_neg hzero, List.map_cons, List.map_cons, map_numeralChar_of_isDigit hdigits, hletter]
    by_cases hneg : e < 0
    · have hvalue : -(e.natAbs : Int) = e := by omega
      generalize e.natAbs = size at hdigits hvalue ⊢
      simp [hneg, hminus, exponent?, splitSign, wholeNumber?_toDigits, hvalue]
    · have hvalue : (e.natAbs : Int) = e := by omega
      generalize e.natAbs = size at hdigits hvalue ⊢
      simp [hneg, hplus, exponent?, splitSign, wholeNumber?_toDigits, hvalue]

/-- An exponent begins with its letter, if it is there. -/
theorem head?_of_exponent? {cs : List Char} {e : Int} (h : exponent? cs = some e) :
    cs = [] ∨ ∃ rest, cs = 'e' :: rest := by
  unfold exponent? at h
  split at h
  · exact .inl rfl
  · exact .inr ⟨_, rfl⟩
  · cases h

/-- What is read of digits around a point and an exponent. -/
theorem finiteNumeral_of_spells {whole places tail : List Char} {written : Int} {c : Nat} {e : Int}
    (h : Spells whole places written c e) (hexponent : exponent? tail = some written)
    (negative : Bool) :
    finiteNumeral negative (whole ++ fraction places ++ tail) = representable negative c e := by
  have hcount : (whole ++ places).length ≠ 0 := by simp [h.whole_ne_nil]
  have htail : ∀ ch ∈ tail.head?, isAsciiDigit ch = false := by
    rcases head?_of_exponent? hexponent with rfl | ⟨rest, rfl⟩
    · simp
    · simpa using (by decide : isAsciiDigit 'e' = false)
  have hrest : ∀ ch ∈ (fraction places ++ tail).head?, isAsciiDigit ch = false := by
    cases places with
    | nil => exact htail
    | cons ch rest => simpa [fraction] using (by decide : isAsciiDigit '.' = false)
  obtain ⟨htake, hdrop⟩ := span_isAsciiDigit h.isDigit_whole hrest
  obtain ⟨htakePlaces, hdropPlaces⟩ := span_isAsciiDigit h.isDigit_places htail
  unfold finiteNumeral
  rw [List.append_assoc, htake, hdrop]
  have hvalue := h.value
  have hwritten := h.exponent
  cases places with
  | nil =>
    rw [List.append_nil] at hvalue hcount
    rcases head?_of_exponent? hexponent with rfl | ⟨rest, rfl⟩
    all_goals simp_all [fraction, digitsValue_eq]
  | cons ch rest =>
    rw [List.cons_append] at htakePlaces hdropPlaces
    simp only [fraction, List.cons_append, htakePlaces, hdropPlaces, digitsValue_eq, hexponent,
      hvalue, if_neg hcount, hwritten]

/-! ## Whole texts -/

theorem isMark_of_mem_exponentText {e : Int} {ch : Char} (h : ch ∈ exponentText e) : IsMark ch := by
  unfold exponentText at h
  split at h
  · cases h
  · simp only [List.mem_cons] at h
    rcases h with rfl | hsign | hdigit
    · exact .inr (by decide)
    · split at hsign
      · exact .inr (by simp [hsign])
      · exact .inr (by simp [hsign])
    · exact .inl (isDigit_of_mem_toDigits hdigit)

theorem Spells.isMark {whole places : List Char} {written : Int} {c : Nat} {e : Int}
    (h : Spells whole places written c e) {ch : Char}
    (hmem : ch ∈ whole ++ fraction places ++ exponentText written) : IsMark ch := by
  rcases List.mem_append.mp hmem with hmem | hmem
  · rcases List.mem_append.mp hmem with hmem | hmem
    · exact .inl (h.isDigit_whole ch hmem)
    · unfold fraction at hmem
      split at hmem
      · cases hmem
      · rcases List.mem_cons.mp hmem with rfl | hmem
        · exact .inr (by decide)
        · exact .inl (h.isDigit_places ch hmem)
  · exact isMark_of_mem_exponentText hmem

section FirstDigit

variable {ch : Char} (h : ch.isDigit = true) (rest : List Char) (negative : Bool)

include h

theorem ne_of_isDigit {letter : Char} (hletter : letter.isDigit = false) : ch ≠ letter := by
  rintro rfl
  rw [hletter] at h
  cases h

/-- A sign in front of a digit is told from it. -/
theorem splitSign_of_first :
    splitSign (if negative then '-' :: ch :: rest else ch :: rest) = (negative, ch :: rest) := by
  cases negative with
  | true => rfl
  | false =>
    rw [if_neg (by simp)]
    unfold splitSign
    split
    · next hminus => exact absurd (List.cons.inj hminus).1 (ne_of_isDigit h (by decide))
    · next hplus => exact absurd (List.cons.inj hplus).1 (ne_of_isDigit h (by decide))
    · rfl

/-- A number that begins with a digit is read as a finite one. -/
theorem readUnsigned_of_first :
    readUnsigned negative (ch :: rest) = finiteNumeral negative (ch :: rest) := by
  unfold readUnsigned
  split
  · next hname => exact absurd (List.cons.inj hname).1 (ne_of_isDigit h (by decide))
  · next hname => exact absurd (List.cons.inj hname).1 (ne_of_isDigit h (by decide))
  · rw [if_neg]
    rintro (hname | hname)
    · exact absurd (List.cons.inj hname).1 (ne_of_isDigit h (by decide))
    · exact absurd (List.cons.inj hname).1 (ne_of_isDigit h (by decide))

end FirstDigit

/-- The characters of a numeral that count are all that is written. -/
theorem toList_text (negative : Bool) (c : Nat) (e : Int) :
    ((trim isBlank (text (.finite negative c e)).toList).filter (· != '_')).map numeralChar =
      if negative then '-' :: (finiteText c e).map numeralChar
      else (finiteText c e).map numeralChar := by
  obtain ⟨whole, places, written, htext, hspells⟩ := exists_spells c e
  have hbody : ∀ ch ∈ finiteText c e, IsMark ch := by
    rw [htext]
    exact fun ch hch => hspells.isMark hch
  have hmark : ∀ ch ∈ (text (.finite negative c e)).toList, IsMark ch := by
    unfold text signed
    rw [String.toList_ofList]
    split
    · rw [List.forall_mem_cons]
      exact ⟨.inr (by decide), hbody⟩
    · exact hbody
  rw [trim_eq_self fun ch hch => (hmark ch hch).counts.1,
    List.filter_eq_self.mpr fun ch hch => bne_iff_ne.mpr (hmark ch hch).counts.2]
  unfold text signed
  rw [String.toList_ofList]
  split
  · rfl
  · rfl

/-- A finite number that is written reads as itself, if it is one that can be read. -/
theorem read_text (negative : Bool) (c : Nat) (e : Int) :
    read (text (.finite negative c e)) = representable negative c e := by
  obtain ⟨whole, places, written, htext, hspells⟩ := exists_spells c e
  have hplaces : (fraction places).map numeralChar = fraction places := by
    have hpoint : numeralChar '.' = '.' := by decide
    unfold fraction
    split
    · rfl
    · rw [List.map_cons, hpoint, map_numeralChar_of_isDigit hspells.isDigit_places]
  have hbody : (finiteText c e).map numeralChar =
      whole ++ fraction places ++ (exponentText written).map numeralChar := by
    rw [htext, List.map_append, List.map_append, hplaces,
      map_numeralChar_of_isDigit hspells.isDigit_whole]
  have hnumeral := finiteNumeral_of_spells hspells (exponent?_exponentText written) negative
  rw [← hbody] at hnumeral
  obtain ⟨ch, rest, hwhole⟩ := List.exists_cons_of_ne_nil hspells.whole_ne_nil
  have hfirst : ch.isDigit = true := hspells.isDigit_whole ch (by simp [hwhole])
  rw [hwhole, List.cons_append, List.cons_append] at hbody
  unfold read
  rw [toList_text, hbody]
  dsimp only
  rw [splitSign_of_first hfirst]
  dsimp only
  rw [readUnsigned_of_first hfirst, ← hbody, hnumeral]

end NodeLedger.Decimal
