import NodeLedger.Proofs.Node.Caching

/-!
# Times of blocks

A node is asked for a block whose time is not remembered.  If the block begins with a whole header,
its time is the one with which the header was written; if there is no block, the time is refused and
nothing is remembered.  But a block that ends before its time does is not always refused: if it ends
between two bytes, those that are there are taken for the time.

Main results:

- Definitions `Block.IsRead` and `Block.IsRefused`: what becomes of a time that is asked for.
- Theorem `Block.outcome_time`: the two ways in which asking for a time ends.
- Theorem `Block.time_of_answer`: which time is read from which answer, and when it is refused.
- Theorem `Block.time_of_cutHeader`: a header that ends inside its time, of which a time is read.
-/

namespace NodeLedger.Block

open List NodeLedger.Action

/-! ## Asking for a block -/

variable {s : Session} {height : Int}

/-- The node gives a text as the block at a height. -/
def GivesText (node : String → Value → Except Value Value) (height : Int) (text : String) : Prop :=
  ∃ answer, node "getrawblockbyheight" (.object [("height", .int height)]) = .ok answer ∧
    answer.field "block" = .ok (.text text)

/-- A session in which the block at a height has been asked for. -/
def asked (height : Int) (s : Session) : Session :=
  { s with calls := s.calls ++ [⟨"getrawblockbyheight", .object [("height", .int height)]⟩] }

/-- A session in which its time is remembered besides. -/
def remembering (height time : Int) (s : Session) : Session :=
  { asked height s with
    cache := { s.cache with blockTimes := s.cache.blockTimes ++ [(height, time)] } }

/-- A block that is not remembered is asked for.  Its time is remembered if it can be read. -/
theorem outcome_time (hnew : s.cache.blockTimes.lookup height = none) :
    (time height).outcome s = match listed s.node height with
      | .ok found => (.ok found, remembering height found s)
      | .error failure => (.error failure, asked height s) := by
  have hlisted : Rpc.reading s.node (CachePart.block height).call
      (fun result => result.field "block" >>= readBlock height) = listed s.node height := rfl
  rw [outcome_time_of_none hnew, outcome_fetchTime, Rpc.outcome_fetching, hlisted]
  cases listed s.node height <;> rfl

/-- What is read of a block that is given as a text. -/
theorem listed_of_givesText {text : String} (h : GivesText s.node height text) (hne : text ≠ "") :
    listed s.node height = match headerTime text with
      | .ok found => .ok found
      | .error fault => .error (.value fault) := by
  obtain ⟨answer, hanswer, hblock⟩ := h
  have htruthy : (Value.text text).truthy = true := by simp [Value.truthy, hne]
  unfold listed Rpc.given
  rw [hanswer]
  cases htime : headerTime text <;> simp [bind, Except.bind, hblock, readBlock, htruthy, htime]

/-- Nothing is read where no text is given. -/
theorem exists_failure_of_listed (h : ∀ text, GivesText s.node height text → text = "") :
    ∃ failure, listed s.node height = .error failure := by
  unfold listed Rpc.given
  cases hanswer : s.node "getrawblockbyheight" (.object [("height", .int height)]) with
  | error error => exact ⟨_, rfl⟩
  | ok answer =>
    cases hblock : answer.field "block" with
    | error failure => exact ⟨failure, by simp [bind, Except.bind, hblock]⟩
    | ok block =>
      simp only [bind, Except.bind, hblock]
      unfold readBlock
      cases htruthy : block.truthy with
      | false => exact ⟨_, rfl⟩
      | true =>
        cases block with
        | text digits =>
          rw [h digits ⟨answer, hanswer, hblock⟩] at htruthy
          cases htruthy
        | _ => exact ⟨_, rfl⟩

/-! ## Times that are read and refused -/

/-- The time of a block is read: the block is asked for, and the time is remembered, so that it is
told from then on without asking. -/
def IsRead (height : Int) (s : Session) (found : Nat) : Prop :=
  Ends (time height) s found (remembering height found s) ∧
    Ends (time height) (remembering height found s) found (remembering height found s)

/-- The time of a block is refused: the block is asked for, and nothing is remembered. -/
def IsRefused (height : Int) (s : Session) : Prop :=
  ∃ failure, (time height).outcome s = (.error failure, asked height s)

/-- A time that can be read is remembered. -/
theorem isRead_of_listed (hnew : s.cache.blockTimes.lookup height = none) {found : Nat}
    (hlisted : listed s.node height = .ok (found : Int)) : IsRead height s found := by
  have hknown : (remembering height found s).cache.blockTimes.lookup height =
      some (found : Int) := by
    simp [remembering, List.lookup_append, hnew]
  constructor
  · unfold Ends
    rw [outcome_time hnew, hlisted]
  · exact outcome_time_of_some hknown

theorem isRefused_of_listed (hnew : s.cache.blockTimes.lookup height = none) {failure : Failure}
    (hlisted : listed s.node height = .error failure) : IsRefused height s := by
  refine ⟨failure, ?_⟩
  rw [outcome_time hnew, hlisted]

/-- What is spelled where the time of a block stands is its time. -/
theorem isRead_of_spells (hnew : s.cache.blockTimes.lookup height = none) {text : String}
    (hgives : GivesText s.node height text) (hne : text ≠ "") {bytes : List UInt8}
    (hspells : Spells (timeDigits text) bytes) :
    IsRead height s (Nat.ofDigits 256 (bytes.map UInt8.toNat)) := by
  refine isRead_of_listed hnew ?_
  rw [listed_of_givesText hgives hne, headerTime_eq_ok_iff.mpr ⟨bytes, hspells, rfl⟩]

/-- Four bytes that are written behind 68 others are read as the time. -/
theorem isRead_of_hexText (hnew : s.cache.blockTimes.lookup height = none) {text : String}
    {before found behind : List UInt8} (hgives : GivesText s.node height text)
    (hbegins : hexText (before ++ found ++ behind) <+: text.toList.map Char.toLower)
    (hbefore : before.length = 68) (hfound : found.length = 4) :
    IsRead height s (Nat.ofDigits 256 (found.map UInt8.toNat)) := by
  have hne : text ≠ "" := by
    rintro rfl
    have hlength := hbegins.length_le
    rw [length_hexText, List.length_append, List.length_append, hbefore] at hlength
    simp at hlength
  exact isRead_of_spells hnew hgives hne (spells_timeDigits hbefore hfound hbegins)

/-- If what stands there is no spelling of bytes, the time is refused. -/
theorem isRefused_of_not_spells (hnew : s.cache.blockTimes.lookup height = none) {text : String}
    (hgives : GivesText s.node height text) (hne : text ≠ "")
    (hspells : ∀ bytes, ¬ Spells (timeDigits text) bytes) : IsRefused height s := by
  cases htime : headerTime text with
  | ok found =>
    obtain ⟨bytes, h, -⟩ := headerTime_eq_ok_iff.mp htime
    exact absurd h (hspells bytes)
  | error fault =>
    have hlisted : listed s.node height = .error (.value fault) := by
      rw [listed_of_givesText hgives hne, htime]
    exact isRefused_of_listed hnew hlisted

/-- The time of a block is read from its bytes 68 to 71, or it is refused.

If what is given begins with 72 bytes or more, the time is the number of those four, the least
significant one first.  So a header gives back the time with which it was written.  If nothing is
given the time is refused, and nothing is remembered.

In any other text the characters behind the first 136 decide, eight at the most.  If they spell
bytes, the number of these is the time, and otherwise it is refused.  A text that ends before the
time does spells fewer than four bytes there, or none, and these are taken for the whole time. -/
theorem time_of_answer (hnew : s.cache.blockTimes.lookup height = none) :
    (∀ text bytes, GivesText s.node height text →
      hexText bytes <+: text.toList.map Char.toLower → 72 ≤ bytes.length →
        IsRead height s (Nat.ofDigits 256 (((bytes.drop 68).take 4).map UInt8.toNat))) ∧
    (∀ text before written behind, GivesText s.node height text →
      hexText (before ++ timeBytes written ++ behind) <+: text.toList.map Char.toLower →
        before.length = 68 → IsRead height s written.toNat) ∧
    ((∀ text, GivesText s.node height text → text = "") → IsRefused height s) ∧
    ∀ text, GivesText s.node height text → text ≠ "" →
      (∀ bytes, Spells (timeDigits text) bytes →
        IsRead height s (Nat.ofDigits 256 (bytes.map UInt8.toNat)) ∧
          (text.length < 144 → bytes.length < 4)) ∧
      ((∀ bytes, ¬ Spells (timeDigits text) bytes) → IsRefused height s) := by
  refine ⟨fun text bytes hgives hbegins hlong => ?_,
    fun text before written behind hgives hbegins hbefore => ?_, fun hnone => ?_,
    fun text hgives hne => ⟨fun bytes hspells => ?_, isRefused_of_not_spells hnew hgives hne⟩⟩
  · have hparts : bytes = bytes.take 68 ++ (bytes.drop 68).take 4 ++ (bytes.drop 68).drop 4 := by
      rw [List.append_assoc, List.take_append_drop, List.take_append_drop]
    rw [hparts] at hbegins
    refine isRead_of_hexText hnew hgives hbegins ?_ ?_
    · rw [List.length_take]
      omega
    · rw [List.length_take, List.length_drop]
      omega
  · rw [← ofDigits_timeBytes]
    exact isRead_of_hexText hnew hgives hbegins hbefore rfl
  · obtain ⟨failure, hfailure⟩ := exists_failure_of_listed hnone
    exact isRefused_of_listed hnew hfailure
  · exact ⟨isRead_of_spells hnew hgives hne hspells,
      fun hshort => length_lt_of_spells hshort hspells⟩

/-! ## A header that is cut -/

/-- The bytes of a header in front of its time: version, previous block and the root of its
transactions. -/
def headerStart : List UInt8 :=
  [1, 0, 0, 0] ++ List.replicate 32 0 ++
    [0x3b, 0xa3, 0xed, 0xfd, 0x7a, 0x7b, 0x12, 0xb2, 0x7a, 0xc7, 0x2c, 0x3e, 0x67, 0x76, 0x8f,
      0x61, 0x7f, 0xc8, 0x1b, 0xc3, 0x88, 0x8a, 0x51, 0x32, 0x3a, 0x9f, 0xb8, 0xaa, 0x4b, 0x1e,
      0x5e, 0x4a]

/-- The bytes behind it: the target and the nonce. -/
def headerEnd : List UInt8 :=
  [0xff, 0xff, 0, 0x1d, 0x1d, 0xac, 0x2b, 0x7c]

/-- A header that was written at 1231006505, in hexadecimal digits. -/
def headerDigits : List Char :=
  hexText (headerStart ++ timeBytes 1231006505 ++ headerEnd)

/-- A node that gives as many digits of the header as the height of the block says. -/
def cuttingNode (_method : String) (payload : Value) : Except Value Value :=
  match payload with
  | .object [("height", .int height)] =>
    .ok (.object [("block", .text (String.ofList (headerDigits.take height.toNat)))])
  | _ => .error (.text "unknown command")

theorem givesText_cuttingNode (height : Int) :
    GivesText cuttingNode height (String.ofList (headerDigits.take height.toNat)) :=
  ⟨_, rfl, rfl⟩

/-- What stands in the place of the time if so many digits are given. -/
theorem timeDigits_take (count : Nat) :
    timeDigits (String.ofList (headerDigits.take count)) =
      ((headerDigits.take count).drop 136).take 8 := by
  rw [timeDigits, String.toList_ofList]

/-- If 140 digits are given, these are two bytes. -/
theorem spells_cutHeader :
    Spells (timeDigits (String.ofList (headerDigits.take 140))) [0x29, 0xab] := by
  have hdigits : ((headerDigits.take 140).drop 136).take 8 = ['2', '9', 'a', 'b'] := by
    decide +kernel
  rw [timeDigits_take, hdigits]
  exact .byte (by decide) (.byte (by decide) .nil)

/-- If 139 digits are given, the last of them is half a byte. -/
theorem not_spells_cutByte (bytes : List UInt8) :
    ¬ Spells (timeDigits (String.ofList (headerDigits.take 139))) bytes := by
  have hdigits : ((headerDigits.take 139).drop 136).take 8 = ['2', '9', 'a'] := by decide +kernel
  rw [timeDigits_take, hdigits]
  intro h
  cases h with
  | blank hblank _ => exact absurd hblank (by decide)
  | byte _ hrest =>
    cases hrest with
    | blank hblank _ => exact absurd hblank (by decide)

/-- The whole header gives its time, and no digits give none.  If the time is cut inside a byte it
is refused; if it is cut between two bytes, those in front are taken for it. -/
theorem time_of_answer_cuttingNode :
    let s : Session := { node := cuttingNode }
    (∀ height, s.cache.blockTimes.lookup height = none ∧
      GivesText s.node height (String.ofList (headerDigits.take height.toNat))) ∧
    IsRead 160 s 1231006505 ∧ IsRefused 0 s ∧ IsRefused 139 s ∧ IsRead 140 s 43817 := by
  intro s
  have hwhole : IsRead 160 s 1231006505 := by
    obtain ⟨-, hwritten, -⟩ := @time_of_answer s 160 rfl
    refine hwritten _ headerStart 1231006505 headerEnd (givesText_cuttingNode 160) ?_ rfl
    rw [String.toList_ofList]
    decide +kernel
  have hnothing : IsRefused 0 s := by
    obtain ⟨-, -, hnone, -⟩ := @time_of_answer s 0 rfl
    refine hnone ?_
    rintro text ⟨answer, hanswer, hblock⟩
    cases hanswer
    cases hblock
    rfl
  have hinside : IsRefused 139 s := by
    obtain ⟨-, -, -, hother⟩ := @time_of_answer s 139 rfl
    refine (hother _ (givesText_cuttingNode 139) (by decide +kernel)).2 fun bytes => ?_
    exact not_spells_cutByte bytes
  have hbetween : IsRead 140 s 43817 := by
    obtain ⟨-, -, -, hother⟩ := @time_of_answer s 140 rfl
    exact ((hother _ (givesText_cuttingNode 140) (by decide +kernel)).1 _ spells_cutHeader).1
  exact ⟨fun height => ⟨rfl, givesText_cuttingNode height⟩, hwhole, hnothing, hinside, hbetween⟩

/-- A block that ends before its time does is not refused: two bytes are read as the time, and it is
remembered. -/
theorem time_of_cutHeader :
    let s : Session := { node := cuttingNode }
    (∃ text, GivesText s.node 140 text ∧ text.length < 144) ∧ ¬ Fails (time 140) s ∧
      IsRead 140 s 43817 := by
  intro s
  have hread : IsRead 140 s 43817 :=
    isRead_of_spells rfl (givesText_cuttingNode 140) (by decide +kernel) spells_cutHeader
  refine ⟨⟨_, givesText_cuttingNode 140, by decide +kernel⟩, ?_, hread⟩
  rw [fails_iff, not_not]
  exact ⟨_, _, hread.1⟩

end NodeLedger.Block
