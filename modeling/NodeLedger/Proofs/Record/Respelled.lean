import NodeLedger.Node.History
import NodeLedger.Node.Payment
import NodeLedger.Proofs.Numeral.Decimal
import NodeLedger.Proofs.Session.Mirror
import NodeLedger.Proofs.Table

/-!
# Amounts written in another way

A node writes an amount as an integer, as a numeral, or as a numeral with its unit.  Records that
differ in how their amounts are written read alike, because amounts are read by `Amount.field` only,
and all else is read of fields that are no amounts.  Fields that are not read at all may differ as
they like.

Main results:

- Type `Amount.Respelled` and theorem `Amount.ofValue_eq_of_respelled`: another way to write an
  amount gives the same amount.
- Types `Value.Fieldwise` and `Value.Itemwise`: objects and lists that are related part by part.
  Definition `Value.RecordAlike`: records that differ in how their amounts are written.
- Theorem `Channel.readOpen_congr` and those beside it: such records read alike.
-/

namespace NodeLedger

open List NodeLedger.Numeral

/-! ## Amounts -/

namespace Amount

/-- A value, and the same value or another way to write it: an integer of not too many digits may
become its numeral, with or without the unit. -/
inductive Respelled : Value → Value → Prop where
  | same (v : Value) : Respelled v v
  | numeral (n : Int) (h : (Nat.toDigits 10 n.natAbs).length ≤ 4300) :
      Respelled (.int n) (.text (toString n))
  | withUnit (n : Int) (h : (Nat.toDigits 10 n.natAbs).length ≤ 4300) :
      Respelled (.int n) (.text (toString n ++ "msat"))

/-- A numeral has no unit at its end. -/
theorem withoutUnit_toString (n : Int) : withoutUnit (toString n).toList = (toString n).toList := by
  unfold withoutUnit
  rw [if_neg]
  intro hsuffix
  have hunit : 't' ∈ (toString n).toList :=
    (List.isSuffixOf_iff_suffix.mp hsuffix).subset (by decide)
  rw [toList_toString, List.mem_append] at hunit
  rcases hunit with hsign | hdigit
  · split at hsign <;> simp at hsign
  · exact absurd (isDigit_of_mem_toDigits hdigit) (by decide)

/-- The unit is taken off. -/
theorem withoutUnit_append (s : String) :
    withoutUnit (s ++ "msat").toList = s.toList := by
  unfold withoutUnit
  rw [String.toList_append, if_pos (List.isSuffixOf_iff_suffix.mpr (List.suffix_append _ _))]
  simp

/-- An amount is the same however it is written. -/
theorem ofValue_eq_of_respelled {v w : Value} (h : Respelled v w) : ofValue v = ofValue w := by
  cases h with
  | same => rfl
  | numeral n hshort =>
    unfold ofValue
    dsimp only
    rw [withoutUnit_toString, String.ofList_toList, readInteger_toString hshort]
  | withUnit n hshort =>
    unfold ofValue
    dsimp only
    rw [withoutUnit_append, String.ofList_toList, readInteger_toString hshort]

/-- Integers of not too many digits, written with their unit. -/
def spelled : Value → Value
  | .int n =>
    if (Nat.toDigits 10 n.natAbs).length ≤ 4300 then .text (toString n ++ "msat") else .int n
  | v => v

/-- In particular, it may be written as a numeral with its unit. -/
theorem respelled_spelled (v : Value) : Respelled v (spelled v) := by
  cases v with
  | int n =>
    simp only [spelled]
    split
    · next hshort => exact .withUnit n hshort
    · exact .same _
  | _ => exact .same _

end Amount

/-! ## Values that are related part by part -/

namespace Value

/-- The same value, or objects with the same names in one order, the fields of which are related. -/
inductive Fieldwise (R : String → Value → Value → Prop) : Value → Value → Prop where
  | same (v : Value) : Fieldwise R v v
  | object {fields others : Table String Value} (h : Table.Related R fields others) :
      Fieldwise R (.object fields) (.object others)

/-- The same value, or lists of items that are related one by one. -/
inductive Itemwise (R : Value → Value → Prop) : Value → Value → Prop where
  | same (v : Value) : Itemwise R v v
  | list {items others : List Value} (h : Forall₂ R items others) :
      Itemwise R (.list items) (.list others)

/-- Whether a field holds an amount. -/
def isAmountName (name : String) : Bool :=
  "_msat".toList.isSuffixOf name.toList

/-- The names of the fields that are read as they stand. -/
def plainNames : List String :=
  -- channels
  ["funding_txid", "funding_outnum", "short_channel_id", "channel_id", "peer_id", "opener",
    "closer", "last_commitment_txid", "close_cause",
    -- events
    "account", "type", "tag", "txid", "spending_txid", "outpoint", "origin", "timestamp",
    "blockheight", "description",
    -- transactions and outputs
    "hash", "inputs", "index", "output",
    -- invoices, payments and forwards
    "status", "label", "bolt11", "bolt12", "payment_hash", "payment_preimage", "paid_at",
    "destination", "id", "groupid", "created_at", "completed_at", "received_time", "resolved_time",
    "in_channel", "out_channel"]

/-- Records that differ in how their amounts are written, and in fields that are not read. -/
def RecordAlike : Value → Value → Prop :=
  Fieldwise fun name v w =>
    if isAmountName name then Amount.Respelled v w else name ∈ plainNames → v = w

/-- Objects that differ in the items of one field, and in fields that are not read. -/
def ListedAlike (name : String) (R : Value → Value → Prop) : Value → Value → Prop :=
  Fieldwise fun other v w => if other = name then Itemwise R v w else other ∈ plainNames → v = w

/-- Transactions that differ in how the amounts of their outputs are written. -/
def TransactionAlike : Value → Value → Prop :=
  ListedAlike "outputs" RecordAlike

section Fieldwise

variable {R : String → Value → Value → Prop} {v w : Value} {name : String}

/-- A field is read of both or of none. -/
theorem Fieldwise.field?_matches (h : Fieldwise R v w) (hrefl : ∀ v, R name v v) :
    Matches (Option.Rel (R name)) (v.field? name) (w.field? name) := by
  cases h with
  | same v =>
    refine (matches_self _).imp ?_
    rintro (_ | x) _ rfl
    · exact .none
    · exact .some (hrefl x)
  | object h => exact .ok (h.get? name)

/-- A field, or a substitute if it is not there. -/
theorem Fieldwise.fieldD_matches (h : Fieldwise R v w) (hrefl : ∀ v, R name v v)
    (substitute : Value) :
    Matches (R name) (v.fieldD name substitute) (w.fieldD name substitute) := by
  unfold fieldD
  refine (h.field?_matches hrefl).bind fun x y hxy => ?_
  cases hxy with
  | some hxy => exact .ok hxy
  | none => exact .ok (hrefl substitute)

/-- What may not differ is the same. -/
theorem eq_of_optionRel {x y : Option Value} (h : Option.Rel Eq x y) : x = y := by
  cases h with
  | some h => rw [h]
  | none => rfl

/-! A field that may not differ is read alike. -/

variable (h : Fieldwise R v w) (hsame : R name = Eq)

include h hsame

/-- A field that is equal in both objects is found in both or in none. -/
theorem Fieldwise.field?_eq : v.field? name = w.field? name := by
  have hmatches := h.field?_matches (fun v => hsame ▸ rfl)
  rw [hsame] at hmatches
  exact matches_eq_iff.mp (hmatches.imp fun x y => eq_of_optionRel)

theorem Fieldwise.field_eq : v.field name = w.field name := by
  unfold field
  rw [h.field?_eq hsame]

theorem Fieldwise.fieldD_eq (substitute : Value) :
    v.fieldD name substitute = w.fieldD name substitute := by
  unfold fieldD
  rw [h.field?_eq hsame]

/-- If it is required, both objects have it or neither has. -/
theorem Fieldwise.required_eq : v.required name = w.required name := by
  cases h with
  | same => rfl
  | object h =>
    have hfield := h.get? name
    rw [hsame] at hfield
    simp only [required, eq_of_optionRel hfield]

end Fieldwise

/-! ## Records -/

/-- A record with its amounts written in another way. -/
def rewritten (write : Value → Value) : Value → Value
  | .object fields =>
    .object (fields.map fun field =>
      (field.1, if isAmountName field.1 then write field.2 else field.2))
  | v => v

/-- Two ways to write amounts give records that are alike. -/
theorem recordAlike_rewritten {write write' : Value → Value}
    (h : ∀ v, Amount.Respelled (write v) (write' v)) (v : Value) :
    RecordAlike (rewritten write v) (rewritten write' v) := by
  cases v with
  | object fields =>
    refine .object (forall₂_map_left_iff.mpr (forall₂_map_right_iff.mpr
      (forall₂_same.mpr fun field _ => ⟨rfl, ?_⟩)))
    dsimp only
    split
    · exact h field.2
    · exact fun _ => rfl
  | _ => exact .same _

section RecordAlike

variable {v w : Value} {name : String}

/-- An amount is not read as it stands. -/
theorem isAmountName_of_plain : ∀ name ∈ plainNames, isAmountName name = false := by
  decide

/-- A record is like itself. -/
theorem recordAlike_self (v : Value) : RecordAlike v v :=
  .same v

variable (h : RecordAlike v w)

include h

/-- What is read as it stands is the same. -/
theorem RecordAlike.field_eq (hname : name ∈ plainNames) : v.field name = w.field name :=
  Fieldwise.field_eq h (by simp [isAmountName_of_plain name hname, hname])

/-- The same holds with a substitute for a field that is missing. -/
theorem RecordAlike.fieldD_eq (hname : name ∈ plainNames) (substitute : Value) :
    v.fieldD name substitute = w.fieldD name substitute :=
  Fieldwise.fieldD_eq h (by simp [isAmountName_of_plain name hname, hname]) substitute

/-- The same holds for a field that is required. -/
theorem RecordAlike.required_eq (hname : name ∈ plainNames) :
    v.required name = w.required name :=
  Fieldwise.required_eq h (by simp [isAmountName_of_plain name hname, hname])

/-- An amount may be written in another way. -/
theorem RecordAlike.field?_matches (hname : isAmountName name = true) :
    Matches (Option.Rel Amount.Respelled) (v.field? name) (w.field? name) := by
  have hfield : Matches (Option.Rel _) (v.field? name) (w.field? name) :=
    Fieldwise.field?_matches h fun v => by rw [if_pos hname]; exact .same v
  simpa only [if_pos hname] using hfield

/-- So every amount is the same. -/
theorem RecordAlike.amount_eq (hname : isAmountName name = true) :
    Amount.field v name = Amount.field w name := by
  refine matches_eq_iff.mp ?_
  unfold Amount.field fieldD
  have hgiven : Matches Amount.Respelled (do return (← v.field? name).getD (.int 0))
      (do return (← w.field? name).getD (.int 0)) := by
    refine (h.field?_matches hname).bind ?_
    rintro _ _ (⟨hxy⟩ | _)
    · exact .ok hxy
    · exact .ok (.same _)
  exact hgiven.bind fun x y hxy => .ok (Amount.ofValue_eq_of_respelled hxy)

end RecordAlike

/-! ## Lists of records -/

section ListedAlike

variable {R : Value → Value → Prop} {v w : Value} {name : String}

/-- A listing is like itself if its records are. -/
theorem listedAlike_self (v : Value) : ListedAlike name R v v :=
  .same v

/-- Lists that are related item by item have related parts; other values have the same. -/
theorem Itemwise.parts_matches (h : Itemwise R v w) (hrefl : ∀ v, R v v) :
    Matches (Forall₂ R) v.parts w.parts := by
  cases h with
  | same v =>
    refine (matches_self _).imp ?_
    rintro items _ rfl
    exact forall₂_same.mpr fun item _ => hrefl item
  | list h => exact .ok h

/-- Nor do their numbers of parts differ. -/
theorem Itemwise.size_eq (h : Itemwise R v w) : v.size = w.size := by
  cases h with
  | same v => rfl
  | list h => simp only [size, h.length_eq]

variable (h : ListedAlike name R v w)

include h

/-- The field in which they differ. -/
theorem ListedAlike.fieldD_matches (substitute : Value) :
    Matches (Itemwise R) (v.fieldD name substitute) (w.fieldD name substitute) := by
  have hfield : Matches _ (v.fieldD name substitute) (w.fieldD name substitute) :=
    Fieldwise.fieldD_matches h (fun v => by rw [if_pos rfl]; exact .same v) substitute
  simpa only [if_pos] using hfield

/-- The items of two such listings are alike one by one. -/
theorem ListedAlike.itemsOf_matches (hrefl : ∀ v, R v v) :
    Matches (Forall₂ R) (Wallet.itemsOf v name) (Wallet.itemsOf w name) :=
  (h.fieldD_matches (.list [])).bind fun _ _ hxy => hxy.parts_matches hrefl

/-- Other fields that are read are the same. -/
theorem ListedAlike.field_eq {other : String} (hother : other ≠ name)
    (hplain : other ∈ plainNames) : v.field other = w.field other :=
  Fieldwise.field_eq h (by simp [hother, hplain])

/-- With a substitute, any other field is the same too. -/
theorem ListedAlike.fieldD_eq {other : String} (hother : other ≠ name)
    (hplain : other ∈ plainNames) (substitute : Value) :
    v.fieldD other substitute = w.fieldD other substitute :=
  Fieldwise.fieldD_eq h (by simp [hother, hplain]) substitute

/-- So is one that is required. -/
theorem ListedAlike.required_eq {other : String} (hother : other ≠ name)
    (hplain : other ∈ plainNames) : v.required other = w.required other :=
  Fieldwise.required_eq h (by simp [hother, hplain])

end ListedAlike

end Value

open Value

variable {v w : Value}

/-- If records that are alike are read alike, so are lists of them. -/
theorem mapM_eq_of_alike {β : Type} {read : Value → Except Failure β}
    (hread : ∀ v w, RecordAlike v w → read v = read w) {items others : List Value}
    (h : Forall₂ RecordAlike items others) : items.mapM read = others.mapM read :=
  mapM_eq_of_forall₂ hread h

/-! ## Channels and events -/

namespace Channel

/-- What funds a channel is no amount. -/
theorem fundingOutpoint_congr (h : RecordAlike v w) : fundingOutpoint v = fundingOutpoint w := by
  simp (disch := decide) only [fundingOutpoint, h.field_eq, h.fieldD_eq]

/-- Nor is the id of a channel. -/
theorem channelId_congr (h : RecordAlike v w) : channelId v = channelId w := by
  simp (disch := decide) only [channelId, h.field_eq, h.fieldD_eq]

/-- An open channel reads alike however its capacity is written. -/
theorem readOpen_congr (h : RecordAlike v w) : readOpen v = readOpen w := by
  simp (disch := decide) only [readOpen, fundingOutpoint_congr h, channelId_congr h, peerOf,
    satsField, h.amount_eq, h.field_eq, h.fieldD_eq]

/-- So does a closed channel, however its settled balance is written. -/
theorem readClosed_congr (h : RecordAlike v w) (channelPoint : String) (closing : Value) :
    readClosed v channelPoint closing = readClosed w channelPoint closing := by
  simp (disch := decide) only [readClosed, channelId_congr h, closeType, peerOf, satsField,
    initiator, h.amount_eq, h.field_eq, h.fieldD_eq]

/-- It is found or left out alike, with the same line in the log. -/
theorem findClosed_congr (h : RecordAlike v w) (closings : Table Key Value) :
    findClosed closings v = findClosed closings w := by
  simp only [findClosed, fundingOutpoint_congr h, channelId_congr h, readClosed_congr h]

end Channel

namespace Bookkeeper

/-- What an event changes is the same however its two amounts are written. -/
theorem net_congr (h : RecordAlike v w) : net v = net w := by
  simp (disch := decide) only [net, h.amount_eq]

/-- The transaction of an event is no amount. -/
theorem eventTxid_congr (h : RecordAlike v w) : eventTxid v = eventTxid w := by
  simp (disch := decide) only [eventTxid, h.field_eq]

/-- An event of the wallet reads alike, as only its net amount is an amount. -/
theorem readWalletEvent_congr (h : RecordAlike v w) : readWalletEvent v = readWalletEvent w := by
  simp (disch := decide) only [readWalletEvent, readEffect, net_congr h, eventTxid_congr h,
    h.field_eq, h.fieldD_eq]

/-- A deposit is a sweep whatever its amount. -/
theorem readSweep_congr (h : RecordAlike v w) : readSweep v = readSweep w := by
  simp (disch := decide) only [readSweep, eventTxid_congr h, h.field_eq]

/-- A fee is the same however it is written. -/
theorem readFee_congr (h : RecordAlike v w) (txid : Value) : readFee txid v = readFee txid w := by
  simp (disch := decide) only [readFee, net_congr h, h.field_eq]

/-- What closed a channel is found without amounts. -/
theorem readClosing_congr (h : RecordAlike v w) : readClosing v = readClosing w := by
  simp (disch := decide) only [readClosing, h.field_eq]

end Bookkeeper

/-! ## Transactions and outputs of the wallet -/

/-- Transactions of the wallet that differ in how the amounts of their outputs are written. -/
structure WalletTransaction.Alike (tx other : WalletTransaction) : Prop where
  hash_eq : tx.hash = other.hash
  content : TransactionAlike tx.content other.content

/-- Tables of such transactions. -/
def TransactionsAlike (txs others : Table Key WalletTransaction) : Prop :=
  Table.Related (fun _ tx other => tx.Alike other) txs others

namespace Wallet

/-- Inputs hold no amounts, so they are the same. -/
theorem inputsOf_congr (h : TransactionAlike v w) : inputsOf v = inputsOf w := by
  unfold inputsOf itemsOf
  rw [ListedAlike.fieldD_eq h (by decide) (by decide)]

/-- The outputs of such transactions are alike. -/
theorem outputsOf_matches (h : TransactionAlike v w) :
    Matches (Forall₂ RecordAlike) (itemsOf v "outputs") (itemsOf w "outputs") :=
  ListedAlike.itemsOf_matches h recordAlike_self

/-- The place of an output is no amount. -/
theorem indexOf_congr (h : RecordAlike v w) : indexOf v = indexOf w := by
  simp (disch := decide) only [indexOf, h.fieldD_eq]

/-- Nor is its outpoint. -/
theorem outpointOf_congr (h : RecordAlike v w) (txid : Value) :
    outpointOf txid v = outpointOf txid w := by
  simp only [outpointOf, indexOf_congr h]

/-- An output of the wallet reads alike however its amount is written. -/
theorem readOutput_congr (h : RecordAlike v w) : readOutput v = readOutput w := by
  simp (disch := decide) only [readOutput, h.required_eq, h.amount_eq]

/-- Its value in bitcoin is the same as well. -/
theorem decodedOutput_congr (h : RecordAlike v w) : decodedOutput v = decodedOutput w := by
  simp (disch := decide) only [decodedOutput, indexOf_congr h, h.amount_eq]

/-- A transaction is put into both tables under one hash. -/
theorem addTransaction_matches {txs others : Table Key WalletTransaction}
    (htxs : TransactionsAlike txs others) (h : TransactionAlike v w) :
    Matches TransactionsAlike (addTransaction txs v) (addTransaction others w) := by
  unfold addTransaction
  rw [ListedAlike.required_eq h (by decide) (by decide)]
  refine (matches_self _).bind ?_
  rintro hash _ rfl
  refine (matches_self _).bind ?_
  rintro key _ rfl
  refine .ok (Table.Related.alter htxs ?_)
  rintro _ _ (⟨hbefore⟩ | _)
  · exact ⟨by simp [hbefore.hash_eq], h⟩
  · exact ⟨rfl, h⟩

/-- Listings that are alike give transactions that are alike under the same hashes. -/
theorem readTransactions_matches (h : ListedAlike "transactions" TransactionAlike v w) :
    Matches TransactionsAlike (readTransactions v) (readTransactions w) :=
  (h.itemsOf_matches listedAlike_self).bind fun _ _ hitems =>
    Matches.foldlM hitems .nil fun _ _ _ _ htxs h => addTransaction_matches htxs h

/-- Listings of outputs that are alike give the same amounts under the same outpoints. -/
theorem readOutputs_congr (h : ListedAlike "outputs" RecordAlike v w) :
    readOutputs v = readOutputs w := by
  refine matches_eq_iff.mp ((h.itemsOf_matches recordAlike_self).bind fun _ _ hitems => ?_)
  rw [mapM_eq_of_alike (fun _ _ h => readOutput_congr h) hitems]
  exact matches_self _

/-! ### Decoded transactions -/

/-- An output is put in its place among outputs that are alike. -/
theorem place_matches {placed placed' : List (Value × Value)} {new new' : Value × Value}
    (hplaced : Forall₂ (fun old old' => old.1 = old'.1 ∧ RecordAlike old.2 old'.2) placed placed')
    (hnew : new.1 = new'.1 ∧ RecordAlike new.2 new'.2) :
    Matches (Forall₂ fun old old' => old.1 = old'.1 ∧ RecordAlike old.2 old'.2)
      (place placed new) (place placed' new') := by
  induction hplaced with
  | nil => exact .ok (.cons hnew .nil)
  | cons hold hrest ih =>
    unfold place
    rw [hold.1, hnew.1]
    refine (matches_self _).bind ?_
    rintro before _ rfl
    split
    · exact .ok (.cons hnew (.cons hold hrest))
    · exact ih.bind fun _ _ hplaced => .ok (.cons hold hplaced)

/-- Outputs that are alike come in the same order, since their places are the same. -/
theorem inOrder_matches {outputs others : List Value} (h : Forall₂ RecordAlike outputs others) :
    Matches (Forall₂ RecordAlike) (inOrder outputs) (inOrder others) := by
  unfold inOrder arranged
  have hkeyed : ∀ v w, RecordAlike v w →
      Matches (fun old old' : Value × Value => old.1 = old'.1 ∧ RecordAlike old.2 old'.2)
        (do return (← indexOf v, v)) (do return (← indexOf w, w)) := by
    intro v w hvw
    rw [indexOf_congr hvw]
    refine (matches_self _).bind ?_
    rintro index _ rfl
    exact .ok ⟨rfl, hvw⟩
  refine (Matches.mapM hkeyed h).bind fun keyed keyed' hlists => ?_
  have hplaces := Matches.foldlM (f := place) (g := place) hlists .nil fun _ _ _ _ hplaced h =>
    place_matches hplaced h
  refine hplaces.bind fun _ _ hplaced => ?_
  exact .ok (forall₂_map_left_iff.mpr (forall₂_map_right_iff.mpr (hplaced.imp fun _ _ h => h.2)))

/-- A transaction decodes to the same inputs and outputs. -/
theorem decoded_congr (h : TransactionAlike v w) (txid : Value) :
    decoded txid v = decoded txid w := by
  refine matches_eq_iff.mp ?_
  unfold decoded
  rw [inputsOf_congr h]
  refine (outputsOf_matches h).bind fun outputs others houtputs => ?_
  refine (inOrder_matches houtputs).bind fun outputs others houtputs => ?_
  rw [mapM_eq_of_alike (fun _ _ h => decodedOutput_congr h) houtputs]
  exact matches_self _

end Wallet

/-! ## What is rebuilt from the wallet -/

namespace History

/-- The transactions that closed channels are found without amounts. -/
theorem closesOf_congr {channels others : List Value} (h : Forall₂ RecordAlike channels others)
    (closings : Table Key Value) : closesOf closings channels = closesOf closings others := by
  simp only [closesOf, mapM_eq_of_alike (fun _ _ h => Channel.fundingOutpoint_congr h) h]

variable {tx other : WalletTransaction}

/-- Whether a transaction pays the wallet depends on its outpoints only. -/
theorem paysWallet_congr (h : tx.Alike other) (outputs : Table String Int) :
    paysWallet outputs tx = paysWallet outputs other := by
  refine matches_eq_iff.mp ((Wallet.outputsOf_matches h.content).bind fun _ _ hitems => ?_)
  refine matches_eq_iff.mpr (anyM_eq_of_forall₂ (fun v w hvw => ?_) hitems)
  rw [Wallet.outpointOf_congr hvw, h.hash_eq]

/-- So does whether it is a sweep. -/
theorem isSweep_congr (h : tx.Alike other) (closes : List Key) (outputs : Table String Int)
    (key : Key) : isSweep closes outputs (key, tx) = isSweep closes outputs (key, other) := by
  simp only [isSweep, spendsFrom, Wallet.inputsOf_congr h.content, paysWallet_congr h]

/-- Of transactions that are alike the same ones are sweeps. -/
theorem sweepsAmong_matches {txs others : Table Key WalletTransaction}
    (h : TransactionsAlike txs others) (closes : List Key) (outputs : Table String Int) :
    Matches TransactionsAlike (sweepsAmong closes outputs txs)
      (sweepsAmong closes outputs others) := by
  refine Matches.filterM ?_ h
  rintro ⟨key, tx⟩ ⟨_, other⟩ ⟨rfl, htx⟩
  exact isSweep_congr htx closes outputs key

/-- What a transaction pays to the wallet is counted with the amounts of the wallet, not with its
own. -/
theorem received_congr (h : tx.Alike other) (outputs : Table String Int) :
    received outputs tx = received outputs other := by
  refine matches_eq_iff.mp ((Wallet.outputsOf_matches h.content).bind fun _ _ hitems => ?_)
  rw [h.hash_eq, mapM_eq_of_alike (fun v w hvw => ?_) hitems]
  · exact matches_self _
  · rw [Wallet.outpointOf_congr hvw]

/-- The same holds for what it spends. -/
theorem spent_congr (h : tx.Alike other) (outputs : Table String Int) :
    spent outputs tx = spent outputs other := by
  simp only [spent, Wallet.inputsOf_congr h.content]

/-- The height of a block is no amount. -/
theorem heightOf_congr (h : TransactionAlike v w) : heightOf v = heightOf w := by
  unfold heightOf
  rw [ListedAlike.field_eq h (by decide) (by decide)]

end History

/-! ## Payments, invoices and forwards -/

/-- A payment request is no amount. -/
theorem Invoice.requestOf_congr (h : RecordAlike v w) :
    Invoice.requestOf v = Invoice.requestOf w := by
  simp (disch := decide) only [Invoice.requestOf, h.field_eq, h.fieldD_eq]

/-- What is asked for is the amount, or what was received if there is none. -/
theorem Invoice.asked_congr (h : RecordAlike v w) (received : Amount) :
    Invoice.asked v received = Invoice.asked w received := by
  refine matches_eq_iff.mp ?_
  unfold Invoice.asked
  refine (h.field?_matches (by decide)).bind ?_
  rintro _ _ (⟨hamount⟩ | _)
  · exact .ok (Amount.ofValue_eq_of_respelled hamount)
  · exact .ok rfl

/-- An invoice reads alike however its two amounts are written. -/
theorem Invoice.readListed_congr (h : RecordAlike v w) :
    Invoice.readListed v = Invoice.readListed w := by
  simp (disch := decide) only [Invoice.readListed, Invoice.asked_congr h, Invoice.requestOf_congr h,
    h.amount_eq, h.field_eq, h.fieldD_eq]

/-- So does a forward with its three amounts. -/
theorem Forward.readListed_congr (h : RecordAlike v w) (period : Period) :
    Forward.readListed period v = Forward.readListed period w := by
  simp (disch := decide) only [Forward.readListed, Forward.timeOf, h.amount_eq, h.field_eq,
    h.fieldD_eq]

namespace Payment

/-- So does a part of a payment with its two. -/
theorem readPart_congr (h : RecordAlike v w) : readPart v = readPart w := by
  simp (disch := decide) only [readPart, h.amount_eq, h.field_eq, h.fieldD_eq]

/-- The id of a part is no amount. -/
theorem readId_congr (h : RecordAlike v w) : readId v = readId w := by
  simp (disch := decide) only [readId, h.fieldD_eq]

/-- Groups of one hash, the parts of which are alike. -/
structure PartGroup.Alike (group other : PartGroup) : Prop where
  hash_eq : group.hash = other.hash
  parts : Forall₂ RecordAlike group.parts other.parts

/-- Parts that are alike go to the same group, as neither hash nor group is an amount. -/
theorem addPart_matches {groups others : Table GroupKey PartGroup}
    (hgroups : Table.Related (fun _ group other => group.Alike other) groups others)
    (h : RecordAlike v w) :
    Matches (Table.Related fun _ group other => group.Alike other)
      (addPart groups v) (addPart others w) := by
  unfold addPart
  rw [h.fieldD_eq (by decide), h.fieldD_eq (by decide)]
  refine (matches_self _).bind ?_
  rintro hash _ rfl
  refine (matches_self _).bind ?_
  rintro group _ rfl
  refine (matches_self _).bind ?_
  rintro hashKey _ rfl
  refine (matches_self _).bind ?_
  rintro groupKey _ rfl
  refine .ok (hgroups.alter ?_)
  rintro _ _ (⟨hbefore⟩ | _)
  · exact ⟨hbefore.hash_eq, rel_append hbefore.parts (.cons h .nil)⟩
  · exact ⟨rfl, .cons h .nil⟩

/-- A payment of parts that are alike is the same. -/
theorem ofParts_congr {parts others : List Value} (h : Forall₂ RecordAlike parts others)
    (hash : Value) : ofParts hash parts = ofParts hash others := by
  have hfirst : RecordAlike (parts.headD (.object [])) (others.headD (.object [])) := by
    cases h with
    | nil => exact recordAlike_self _
    | cons hpart _ => exact hpart
  simp only [ofParts, mapM_eq_of_alike (fun _ _ h => readPart_congr h) h,
    mapM_eq_of_alike (fun _ _ h => readId_congr h) h, Invoice.requestOf_congr hfirst]

/-- Listings of payments that are alike give the same payments. -/
theorem readAll_congr (h : ListedAlike "payments" RecordAlike v w) : readAll v = readAll w := by
  refine matches_eq_iff.mp ?_
  unfold readAll grouped
  refine (h.itemsOf_matches recordAlike_self).bind fun parts others hparts => ?_
  have hgrouped := Matches.foldlM (f := addPart) (g := addPart) hparts .nil
    fun _ _ _ _ hgroups h => addPart_matches hgroups h
  refine hgrouped.bind fun groups others hgroups => ?_
  refine matches_eq_iff.mpr (mapM_eq_of_forall₂ ?_ hgroups)
  rintro ⟨key, group⟩ ⟨_, other⟩ ⟨rfl, hgroup⟩
  dsimp only
  rw [hgroup.hash_eq]
  exact ofParts_congr hgroup.parts _

end Payment

/-- The invoices of an answer. -/
theorem Invoice.readAll_congr (h : ListedAlike "invoices" RecordAlike v w) :
    Invoice.readAll v = Invoice.readAll w := by
  refine matches_eq_iff.mp ((h.itemsOf_matches recordAlike_self).bind fun _ _ hitems => ?_)
  exact matches_eq_iff.mpr (mapM_eq_of_alike (fun _ _ h => Invoice.readListed_congr h) hitems)

/-- The forwards of an answer. -/
theorem Forward.readAll_congr (h : ListedAlike "forwards" RecordAlike v w) (period : Period) :
    Forward.readAll period v = Forward.readAll period w := by
  refine matches_eq_iff.mp ((h.itemsOf_matches recordAlike_self).bind fun _ _ hitems => ?_)
  rw [mapM_eq_of_alike (fun _ _ h => Forward.readListed_congr h period) hitems]
  exact matches_self _

/-- The open channels of an answer. -/
theorem Channel.readOpenChannels_congr (h : ListedAlike "channels" RecordAlike v w) :
    Channel.readOpenChannels v = Channel.readOpenChannels w := by
  refine matches_eq_iff.mp ((h.itemsOf_matches recordAlike_self).bind fun _ _ hitems => ?_)
  rw [mapM_eq_of_alike (fun _ _ h => readOpen_congr h) hitems]
  exact matches_self _

end NodeLedger
