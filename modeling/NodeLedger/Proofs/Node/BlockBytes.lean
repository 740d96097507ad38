import Mathlib.Data.List.Basic
import Mathlib.Data.List.TakeWhile
import Mathlib.Data.Nat.Digits.Defs
import NodeLedger.Node.Block
import NodeLedger.Proofs.Text.Digit

/-!
# Bytes of blocks

A block is written in hexadecimal digits, two for each byte, in letters of either case; between
bytes there may be blanks.  The time of a block is the number of the bytes that are spelled where
its time stands, the least significant one first.  How many bytes these are is not looked at.

Main results:

- Type `Block.Spells`: characters that spell bytes, and definition `Block.hexText`: bytes that are
  written.
- Theorem `Block.hexBytes_eq_ok_iff`: bytes are read just from characters that spell them.
- Theorem `Block.headerTime_eq_ok_iff`: which time is read.
- Theorem `Block.spells_timeDigits`: what is written in four bytes behind 68 others is spelled where
  the time stands.
-/

namespace NodeLedger.Block

open List NodeLedger.Text

/-! ## Bytes in hexadecimal digits -/

/-- The two digits of a byte, the high one first. -/
def digitsOf (byte : UInt8) : List Char :=
  [Nat.digitChar (byte.toNat / 16), Nat.digitChar (byte.toNat % 16)]

/-- Bytes written in hexadecimal digits. -/
def hexText (bytes : List UInt8) : List Char :=
  bytes.flatMap digitsOf

/-- Characters spell bytes: each is written as its two digits in letters of either case, and there
may be blanks around it. -/
inductive Spells : List Char → List UInt8 → Prop
  | nil : Spells [] []
  | blank {c : Char} {cs : List Char} {bytes : List UInt8} (hblank : isSpacing c = true)
      (rest : Spells cs bytes) : Spells (c :: cs) bytes
  | byte {high low : Char} {cs : List Char} {byte : UInt8} {bytes : List UInt8}
      (hdigits : [high, low].map Char.toLower = digitsOf byte) (rest : Spells cs bytes) :
      Spells (high :: low :: cs) (byte :: bytes)

/-- Two digits are those of a byte just if their values are its high and its low half. -/
theorem eq_digitsOf_iff {high low : Char} {byte : UInt8} :
    [high, low].map Char.toLower = digitsOf byte ↔
      hexDigit? high = some (byte.toNat / 16) ∧ hexDigit? low = some (byte.toNat % 16) := by
  have hhigh : byte.toNat / 16 < 16 := by
    have := byte.toNat_lt
    omega
  have hlow : byte.toNat % 16 < 16 := Nat.mod_lt _ (by decide)
  rw [hexDigit?_eq_some_iff, hexDigit?_eq_some_iff]
  simp [digitsOf, hhigh, hlow]

/-- Two digits are those of some byte. -/
theorem exists_eq_digitsOf {high low : Char} {h l : Nat} (hhigh : hexDigit? high = some h)
    (hlow : hexDigit? low = some l) :
    ∃ byte : UInt8, [high, low].map Char.toLower = digitsOf byte ∧ byte.toNat = 16 * h + l := by
  have hh : h < 16 := (hexDigit?_eq_some_iff.mp hhigh).1
  have hl : l < 16 := (hexDigit?_eq_some_iff.mp hlow).1
  have hvalue : (UInt8.ofNat (16 * h + l)).toNat = 16 * h + l :=
    UInt8.toNat_ofNat_of_lt' (by show _ < 256; omega)
  refine ⟨UInt8.ofNat (16 * h + l), eq_digitsOf_iff.mpr ?_, hvalue⟩
  rw [hvalue, hhigh, hlow]
  constructor
  · congr 1; omega
  · congr 1; omega

/-! ## Reading bytes -/

/-- Hexadecimal digits are no blanks. -/
theorem isSpacing_of_hexDigit {c : Char} (h : (hexDigit? c).isSome) : isSpacing c = false := by
  have hrange := toNat_of_hexDigit h
  have hspace : c ≠ ' ' := by
    rintro rfl
    simp at hrange
  have hcontrol : ¬ c ≤ '\r' := by
    simp only [le_iff_toNat_le, Char.reduceToNat]
    omega
  simp [isSpacing, hspace, hcontrol]

theorem bytesFrom_blank {c : Char} (h : isSpacing c = true) (position : Nat) (cs : List Char) :
    bytesFrom position (c :: cs) = bytesFrom (position + 1) cs := by
  cases cs with
  | nil => simp [bytesFrom, h]
  | cons d rest => simp [bytesFrom, h]

theorem bytesFrom_byte {high low : Char} {h l : Nat} (hhigh : hexDigit? high = some h)
    (hlow : hexDigit? low = some l) (position : Nat) (cs : List Char) :
    bytesFrom position (high :: low :: cs) =
      (bytesFrom (position + 2) cs).map ((16 * h + l) :: ·) := by
  have hblank : isSpacing high = false := isSpacing_of_hexDigit (by simp [hhigh])
  rw [bytesFrom, if_neg (by simp [hblank]), hhigh, hlow]
  rfl

/-- What is spelled is read. -/
theorem bytesFrom_of_spells {cs : List Char} {bytes : List UInt8} (h : Spells cs bytes)
    (position : Nat) : bytesFrom position cs = .ok (bytes.map UInt8.toNat) := by
  induction h generalizing position with
  | nil => rfl
  | blank hblank _ ih => rw [bytesFrom_blank hblank, ih]
  | @byte high low cs byte bytes hdigits _ ih =>
    obtain ⟨hhigh, hlow⟩ := eq_digitsOf_iff.mp hdigits
    have hvalue : 16 * (byte.toNat / 16) + byte.toNat % 16 = byte.toNat := Nat.div_add_mod _ _
    rw [bytesFrom_byte hhigh hlow, ih, hvalue]
    rfl

/-- What is read is spelled. -/
theorem exists_spells_of_bytesFrom {position : Nat} {cs : List Char} {found : List Nat}
    (h : bytesFrom position cs = .ok found) :
    ∃ bytes : List UInt8, Spells cs bytes ∧ found = bytes.map UInt8.toNat := by
  fun_induction bytesFrom position cs generalizing found with
  | case1 position =>
    cases h
    exact ⟨[], .nil, rfl⟩
  | case2 position c hblank =>
    cases h
    exact ⟨[], .blank hblank .nil, rfl⟩
  | case5 position c d rest hblank ih =>
    obtain ⟨bytes, hspells, hfound⟩ := ih h
    exact ⟨bytes, .blank hblank hspells, hfound⟩
  | case6 position c d rest _ high low hlow hhigh ih =>
    cases hrest : bytesFrom (position + 2) rest with
    | error fault =>
      rw [hrest] at h
      cases h
    | ok values =>
      rw [hrest] at h
      cases h
      obtain ⟨bytes, hspells, rfl⟩ := ih hrest
      obtain ⟨byte, hdigits, hvalue⟩ := exists_eq_digitsOf hhigh hlow
      exact ⟨byte :: bytes, .byte hdigits hspells, by rw [List.map_cons, hvalue]⟩
  -- The other cases are half a byte and characters that are no digits.
  | case3 | case4 | case7 | case8 => cases h

theorem toNat_lt_of_spells {cs : List Char} {bytes : List UInt8} (h : Spells cs bytes) :
    ∀ c ∈ cs, c.toNat < 128 := by
  induction h with
  | nil => simp
  | @blank c cs bytes hblank _ ih =>
    refine List.forall_mem_cons.mpr ⟨?_, ih⟩
    simp only [isSpacing, Bool.or_eq_true, beq_iff_eq, Bool.and_eq_true, decide_eq_true_eq,
      le_iff_toNat_le, Char.reduceToNat] at hblank
    rcases hblank with rfl | hblank
    · decide
    · omega
  | byte hdigits _ ih =>
    obtain ⟨hhigh, hlow⟩ := eq_digitsOf_iff.mp hdigits
    exact List.forall_mem_cons.mpr ⟨(toNat_of_hexDigit (by simp [hhigh])).2,
      List.forall_mem_cons.mpr ⟨(toNat_of_hexDigit (by simp [hlow])).2, ih⟩⟩

/-- Bytes are read just from characters that spell them. -/
theorem hexBytes_eq_ok_iff {cs : List Char} {found : List Nat} :
    hexBytes cs = .ok found ↔
      ∃ bytes : List UInt8, Spells cs bytes ∧ found = bytes.map UInt8.toNat := by
  unfold hexBytes
  dsimp only
  constructor
  · intro h
    split at h
    · cases h
    · exact exists_spells_of_bytesFrom h
  · rintro ⟨bytes, hspells, rfl⟩
    have hplain : cs.takeWhile (fun c => decide (c.toNat < 128)) = cs :=
      List.takeWhile_eq_self_iff.mpr fun c hc => decide_eq_true (toNat_lt_of_spells hspells c hc)
    rw [hplain, if_neg (lt_irrefl _)]
    exact bytesFrom_of_spells hspells 0

/-! ## The time in a header -/

/-- The bytes of a time in a header, the least significant one first. -/
def timeBytes (time : UInt32) : List UInt8 :=
  [time.toUInt8, (time >>> 8).toUInt8, (time >>> 16).toUInt8, (time >>> 24).toUInt8]

/-- The number that bytes give is theirs in base 256. -/
theorem littleEndian_eq (bytes : List Nat) : littleEndian bytes = Nat.ofDigits 256 bytes := by
  rw [Nat.ofDigits_eq_foldr]
  rfl

theorem ofDigits_timeBytes (time : UInt32) :
    Nat.ofDigits 256 ((timeBytes time).map UInt8.toNat) = time.toNat := by
  have hsmall : time.toNat < 2 ^ 32 := time.toNat_lt
  simp [timeBytes, Nat.ofDigits_cons, Nat.shiftRight_eq_div_pow]
  omega

/-- The characters of a block in which its time stands. -/
def timeDigits (text : String) : List Char :=
  (text.toList.drop 136).take 8

/-- The time of a block is the number of the bytes that are spelled where it stands, however many
these are. -/
theorem headerTime_eq_ok_iff {text : String} {found : Nat} :
    headerTime text = .ok found ↔ ∃ bytes : List UInt8, Spells (timeDigits text) bytes ∧
      found = Nat.ofDigits 256 (bytes.map UInt8.toNat) := by
  have hdigits : (text.toList.drop timeStart).take timeLength = timeDigits text := rfl
  unfold headerTime
  rw [hdigits]
  constructor
  · intro h
    cases hread : hexBytes (timeDigits text) with
    | error fault =>
      rw [hread] at h
      cases h
    | ok values =>
      obtain ⟨bytes, hspells, rfl⟩ := hexBytes_eq_ok_iff.mp hread
      rw [hread] at h
      cases h
      exact ⟨bytes, hspells, littleEndian_eq _⟩
  · rintro ⟨bytes, hspells, rfl⟩
    rw [hexBytes_eq_ok_iff.mpr ⟨bytes, hspells, rfl⟩, ← littleEndian_eq]
    rfl

/-- A byte is spelled by two characters or more. -/
theorem length_le_of_spells {cs : List Char} {bytes : List UInt8} (h : Spells cs bytes) :
    2 * bytes.length ≤ cs.length := by
  induction h with
  | nil => simp
  | blank _ _ ih =>
    rw [List.length_cons]
    omega
  | byte _ _ ih =>
    simp only [List.length_cons]
    omega

/-- Where a block ends before its time does, fewer bytes than four are spelled. -/
theorem length_lt_of_spells {text : String} {bytes : List UInt8} (hshort : text.length < 144)
    (h : Spells (timeDigits text) bytes) : bytes.length < 4 := by
  have hlength := length_le_of_spells h
  rw [timeDigits, List.length_take, List.length_drop, String.length_toList] at hlength
  omega

/-! ## Blocks that are written -/

theorem length_hexText (bytes : List UInt8) : (hexText bytes).length = 2 * bytes.length := by
  unfold hexText
  induction bytes with
  | nil => rfl
  | cons byte rest ih =>
    rw [List.flatMap_cons, List.length_append, ih, List.length_cons]
    have htwo : (digitsOf byte).length = 2 := rfl
    omega

/-- Bytes that are written are spelled by what is written, in letters of either case. -/
theorem spells_of_hexText {cs : List Char} {bytes : List UInt8}
    (h : cs.map Char.toLower = hexText bytes) : Spells cs bytes := by
  induction bytes generalizing cs with
  | nil =>
    rw [List.map_eq_nil_iff.mp h]
    exact .nil
  | cons byte rest ih =>
    have hsplit : cs.map Char.toLower = digitsOf byte ++ hexText rest := h
    obtain ⟨digits, others, rfl, hdigits, hothers⟩ := List.map_eq_append_iff.mp hsplit
    have htwo : digits.length = 2 := by
      rw [← List.length_map, hdigits]
      rfl
    obtain ⟨high, low, rfl⟩ := List.length_eq_two.mp htwo
    exact .byte hdigits (ih hothers)

/-- The bytes of a block that stand behind 68 others are spelled where the time stands. -/
theorem spells_timeDigits {text : String} {before time behind : List UInt8}
    (hbefore : before.length = 68) (htime : time.length = 4)
    (h : hexText (before ++ time ++ behind) <+: text.toList.map Char.toLower) :
    Spells (timeDigits text) time := by
  obtain ⟨rest, hrest⟩ := h
  have hlower : text.toList.map Char.toLower =
      hexText before ++ (hexText time ++ (hexText behind ++ rest)) := by
    rw [← hrest]
    simp [hexText]
  refine spells_of_hexText ?_
  rw [timeDigits, List.map_take, List.map_drop, hlower,
    List.drop_left' (by rw [length_hexText, hbefore]),
    List.take_left' (by rw [length_hexText, htime])]

/-- Hexadecimal digits, two for each byte, spell bytes. -/
theorem exists_spells : ∀ {digits : List Char}, (∀ c ∈ digits, (hexDigit? c).isSome) →
    digits.length % 2 = 0 → ∃ bytes, Spells digits bytes
  | [], _, _ => ⟨[], .nil⟩
  | [_], _, heven => absurd heven (by simp)
  | c :: d :: rest, hhex, heven => by
    rw [List.forall_mem_cons, List.forall_mem_cons] at hhex
    obtain ⟨hc, hd, hrest⟩ := hhex
    obtain ⟨high, hhigh⟩ := Option.isSome_iff_exists.mp hc
    obtain ⟨low, hlow⟩ := Option.isSome_iff_exists.mp hd
    have hlength : rest.length % 2 = 0 := by
      simp only [List.length_cons] at heven
      omega
    obtain ⟨bytes, hspells⟩ := exists_spells hrest hlength
    obtain ⟨byte, hdigits, -⟩ := exists_eq_digitsOf hhigh hlow
    exact ⟨byte :: bytes, .byte hdigits hspells⟩

/-- The time of a block that is written in hexadecimal digits can be read. -/
theorem exists_headerTime {digits : String} (hhex : ∀ c ∈ digits.toList, (hexDigit? c).isSome)
    (heven : digits.toList.length % 2 = 0) : ∃ time, headerTime digits = .ok time := by
  have hpart : ∀ c ∈ timeDigits digits, (hexDigit? c).isSome :=
    fun c hc => hhex c (List.mem_of_mem_drop (List.mem_of_mem_take hc))
  have hlength : (timeDigits digits).length % 2 = 0 := by
    rw [timeDigits, List.length_take, List.length_drop]
    omega
  obtain ⟨bytes, hspells⟩ := exists_spells hpart hlength
  exact ⟨_, headerTime_eq_ok_iff.mpr ⟨bytes, hspells, rfl⟩⟩

end NodeLedger.Block
