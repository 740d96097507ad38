import NodeLedger.Proofs.Node.Memory
import NodeLedger.Proofs.Node.Payments

/-!
# Events of the bookkeeper

An event tells the account and the type of what has happened, what it credits and debits, and the
transaction to which it belongs: the one that spends an output or, if none is named, the one that is
named by its own id or by an outpoint.

Here an event is taken for what stands in its fields, without reading it step by step, and both are
shown to be the same.

Main results:

- Structure `Bookkeeper.Sound`: what an event has to be if it is to be read.
- Theorem `Bookkeeper.readWalletEvent_eq_ok_iff`: just the sound events are read, and give what
  they tell.
- Theorem `Bookkeeper.transactions_eq_ok_iff`: just of sound events the transactions can be told.
- Theorem `Bookkeeper.fee_eq_ok_iff`: the fee of a transaction is what its fee events change.
-/

namespace NodeLedger

open List NodeLedger.Action

/-! ## Objects -/

namespace Value

/-- A value that has fields. -/
def IsObject (v : Value) : Prop :=
  ∃ fields, v = .object fields

variable {record v : Value} {key : String}

theorem isObject_of_field (h : record.field key = .ok v) : record.IsObject := by
  cases record with
  | object fields => exact ⟨fields, rfl⟩
  | _ => cases h

theorem IsObject.fieldD_eq (h : record.IsObject) (key : String) (substitute : Value) :
    record.fieldD key substitute = .ok (record.fieldOr key substitute) := by
  obtain ⟨fields, rfl⟩ := h
  rfl

theorem IsObject.field_eq (h : record.IsObject) (key : String) :
    record.field key = .ok (record.fieldOr key .null) :=
  h.fieldD_eq key .null

theorem IsObject.count_eq (h : record.IsObject) (key : String) :
    Amount.field record key = .ok (Amount.ofValue (record.fieldOr key (.int 0))) := by
  unfold Amount.field
  rw [h.fieldD_eq]
  rfl

end Value

namespace Bookkeeper

/-! ## What an event tells -/

/-- Whether an event is one of the wallet. -/
def isOfWallet (event : Value) : Bool :=
  (event.fieldOr "account" .null).isText walletAccount

/-- Whether an event is a change by a transaction. -/
def isChain (event : Value) : Bool :=
  (event.fieldOr "type" .null).isText "chain"

/-- Whether an event is a fee. -/
def isFee (event : Value) : Bool :=
  (event.fieldOr "type" .null).isText "onchain_fee"

/-- What an event credits less what it debits. -/
def change (event : Value) : Int :=
  event.msat "credit_msat" - event.msat "debit_msat"

/-- The time of an event in whole seconds. -/
def timeOf (event : Value) : Int :=
  (event.fieldOr "timestamp" (.int 0)).seconds

/-- Whether an event stands in a block. -/
def isInBlock (event : Value) : Bool :=
  (event.fieldOr "blockheight" .null).truthy

/-- The label that an event gives to its transaction. -/
def labelOf (event : Value) : Value :=
  (event.fieldOr "description" .null).orElse (.text "")

/-- The id of the transaction to which an event belongs: of the one that spends an output, or else
the one that is named by its own id, or else by an outpoint. -/
def idOf (event : Value) : Value :=
  let outpoint := event.fieldOr "outpoint" .null
  ((event.fieldOr "spending_txid" .null).orElse (event.fieldOr "txid" .null)).orElse
    (if outpoint.truthy then (beforeColon outpoint).toOption.getD .null else .text "")

/-- The key of the transaction to which an event belongs, none if no id is given. -/
def keyOf (event : Value) : Option Key :=
  if (idOf event).truthy then (idOf event).key? else none

/-- What an event records. -/
def effectOf (event : Value) : Effect :=
  if isFee event then .fee (-(change event))
  else if isChain event then
    .chain (change event) (timeOf event) (isInBlock event) (labelOf event)
  else .other

/-- What an event of the wallet tells of a transaction, if it belongs to one. -/
def walletEvent? (event : Value) : Option WalletEvent :=
  if isOfWallet event then
    (keyOf event).map fun key => ⟨key, idOf event, effectOf event⟩
  else none

/-- An outpoint is written as a text, if there is one. -/
def NamesOutpoint (event : Value) : Prop :=
  (event.fieldOr "outpoint" .null).truthy = true →
    ∃ text, event.fieldOr "outpoint" .null = .text text

/-- An event can be read.  It has fields.  If it is one of the wallet, the transaction to which it
belongs can be told, and the time of a change by a transaction is a number. -/
structure Sound (event : Value) : Prop where
  isObject : event.IsObject
  named : isOfWallet event = true → (event.fieldOr "spending_txid" .null).truthy = false →
    (event.fieldOr "txid" .null).truthy = false → NamesOutpoint event
  keyed : isOfWallet event = true → (idOf event).truthy = true → ∃ key, (idOf event).key? = some key
  timed : isOfWallet event = true → (idOf event).truthy = true → isChain event = true →
    ∃ time, (event.fieldOr "timestamp" (.int 0)).toInteger = .ok time

variable {event : Value}

/-! ## Reading an event -/

theorem net_eq (h : event.IsObject) : net event = .ok (change event) := by
  unfold net
  rw [h.count_eq, h.count_eq]
  rfl

theorem beforeColon_eq_ok_iff {outpoint id : Value} :
    beforeColon outpoint = .ok id ↔
      (∃ text, outpoint = .text text) ∧ id = (beforeColon outpoint).toOption.getD .null := by
  cases outpoint with
  | text s => simp [beforeColon, Except.toOption, eq_comm]
  | _ => simp [beforeColon]

/-- The transaction to which an event belongs can be told unless its outpoint is asked for and
cannot be read. -/
theorem eventTxid_eq_ok_iff (h : event.IsObject) {id : Value} :
    eventTxid event = .ok id ↔
      ((event.fieldOr "spending_txid" .null).truthy = false →
        (event.fieldOr "txid" .null).truthy = false → NamesOutpoint event) ∧ id = idOf event := by
  have hpure {v : Value} : (pure v : Except Failure Value) = .ok id ↔ id = v :=
    ⟨fun h => (Except.ok.inj h).symm, fun h => h ▸ rfl⟩
  unfold eventTxid idOf NamesOutpoint
  rw [h.field_eq, h.field_eq, h.field_eq]
  generalize event.fieldOr "spending_txid" .null = spending
  generalize event.fieldOr "txid" .null = txid
  generalize event.fieldOr "outpoint" .null = outpoint
  by_cases hspending : spending.truthy = true
  · simp [Value.orElse, hspending, bind, Except.bind, hpure]
  · by_cases htxid : txid.truthy = true
    · simp [Value.orElse, hspending, htxid, bind, Except.bind, hpure]
    · by_cases houtpoint : outpoint.truthy = true
      · simp [Value.orElse, hspending, htxid, houtpoint, bind, Except.bind, beforeColon_eq_ok_iff]
      · simp [Value.orElse, hspending, htxid, houtpoint, bind, Except.bind, hpure]

theorem readEffect_eq_ok_iff (h : event.IsObject) {effect : Effect} :
    readEffect event = .ok effect ↔
      (isChain event = true → ∃ time, (event.fieldOr "timestamp" (.int 0)).toInteger = .ok time) ∧
        effect = effectOf event := by
  unfold readEffect effectOf isFee isChain timeOf isInBlock labelOf
  rw [net_eq h, h.field_eq, h.fieldD_eq, h.field_eq, h.field_eq]
  generalize event.fieldOr "type" .null = type
  generalize event.fieldOr "timestamp" (.int 0) = timestamp
  by_cases hfee : type.isText "onchain_fee" = true
  · have hchain : type.isText "chain" = false := by
      cases type with
      | text s =>
        simp only [Value.isText, beq_iff_eq] at hfee
        simp [Value.isText, hfee]
      | _ => rfl
    simp [hfee, hchain, bind, Except.bind, pure, Except.pure, eq_comm]
  · by_cases hchain : type.isText "chain" = true
    · cases htime : timestamp.toInteger with
      | error failure => simp [hfee, hchain, htime, bind, Except.bind]
      | ok time =>
        simp [hfee, hchain, htime, Value.seconds, Except.toOption, bind, Except.bind, pure,
          Except.pure, eq_comm]
    · simp [hfee, hchain, bind, Except.bind, pure, Except.pure, eq_comm]

theorem isObject_of_readWalletEvent {read : Option WalletEvent}
    (h : readWalletEvent event = .ok read) : event.IsObject := by
  obtain ⟨account, haccount, -⟩ := bind_eq_ok_iff.mp h
  exact Value.isObject_of_field haccount

/-- An event of another account tells nothing of the wallet. -/
theorem readWalletEvent_of_foreign (h : event.IsObject) (hforeign : isOfWallet event = false) :
    readWalletEvent event = .ok none := by
  unfold isOfWallet at hforeign
  unfold readWalletEvent
  rw [h.field_eq]
  simp [hforeign, bind, Except.bind, pure, Except.pure]

/-- An event of the wallet is read by what it belongs to and by what it records. -/
theorem readWalletEvent_of_wallet (h : event.IsObject) (hwallet : isOfWallet event = true) :
    readWalletEvent event = (do
      let txid ← eventTxid event
      if !txid.truthy then return none
      let key ← txid.key
      return some ⟨key, txid, ← readEffect event⟩) := by
  unfold isOfWallet at hwallet
  unfold readWalletEvent
  rw [h.field_eq]
  simp [hwallet, bind, Except.bind, pure, Except.pure]

/-- Just the sound events are read, and give what they tell. -/
theorem readWalletEvent_eq_ok_iff {read : Option WalletEvent} :
    readWalletEvent event = .ok read ↔ Sound event ∧ read = walletEvent? event := by
  by_cases hobject : event.IsObject
  case neg =>
    exact ⟨fun h => absurd (isObject_of_readWalletEvent h) hobject,
      fun h => absurd h.1.isObject hobject⟩
  unfold walletEvent?
  cases hwallet : isOfWallet event with
  | false =>
    rw [readWalletEvent_of_foreign hobject hwallet]
    have hsound : Sound event := by constructor <;> simp [hobject, hwallet]
    simp [hsound, eq_comm]
  | true =>
    rw [readWalletEvent_of_wallet hobject hwallet, bind_eq_ok_iff]
    simp only [eventTxid_eq_ok_iff hobject]
    constructor
    · rintro ⟨id, ⟨hnamed, rfl⟩, h⟩
      by_cases hid : (idOf event).truthy = true
      · simp only [hid, Bool.not_true, Bool.false_eq_true, if_false] at h
        obtain ⟨key, hkey, h⟩ := bind_eq_ok_iff.mp h
        obtain ⟨effect, heffect, h⟩ := bind_eq_ok_iff.mp h
        cases h
        obtain ⟨htimed, rfl⟩ := (readEffect_eq_ok_iff hobject).mp heffect
        have hkey := Value.key_eq_ok_iff.mp hkey
        refine ⟨⟨hobject, fun _ => hnamed, fun _ _ => ⟨key, hkey⟩, fun _ _ => htimed⟩, ?_⟩
        simp [keyOf, hid, hkey]
      · simp only [hid] at h
        cases h
        refine ⟨⟨hobject, fun _ => hnamed, fun _ h => absurd h hid, fun _ h => absurd h hid⟩, ?_⟩
        simp [keyOf, hid]
    · rintro ⟨hsound, rfl⟩
      refine ⟨idOf event, ⟨hsound.named hwallet, rfl⟩, ?_⟩
      by_cases hid : (idOf event).truthy = true
      · obtain ⟨key, hkey⟩ := hsound.keyed hwallet hid
        have heffect := (readEffect_eq_ok_iff hobject).mpr ⟨hsound.timed hwallet hid, rfl⟩
        simp [keyOf, hid, hkey, Value.key_eq_ok_iff.mpr hkey, heffect, bind, Except.bind, pure,
          Except.pure]
      · simp [keyOf, hid, pure, Except.pure]

/-- Whether an event records a fee of a transaction, by the id that it gives itself. -/
def isFeeOf (txid event : Value) : Bool :=
  isFee event && (event.fieldOr "txid" .null).same txid

/-- What an event records of the fee of a transaction is what it changes, if it is one of its fee
events. -/
theorem readFee_eq_ok_iff {txid : Value} {read : Option Int} :
    readFee txid event = .ok read ↔
      event.IsObject ∧ read = if isFeeOf txid event then some (change event) else none := by
  by_cases hobject : event.IsObject
  · unfold readFee isFeeOf isFee
    rw [hobject.field_eq, hobject.field_eq, net_eq hobject]
    cases hfee : (event.fieldOr "type" .null).isText "onchain_fee" <;>
      cases hid : (event.fieldOr "txid" .null).same txid <;>
      simp [hobject, hfee, hid, bind, Except.bind, pure, Except.pure, eq_comm]
  · refine ⟨fun h => ?_, fun h => absurd h.1 hobject⟩
    obtain ⟨type, htype, -⟩ := bind_eq_ok_iff.mp h
    exact absurd (Value.isObject_of_field htype) hobject

/-! ## Reading events -/

variable {events : List Value}

/-- What the events of the wallet tell of its transactions. -/
def told (events : List Value) : List WalletEvent :=
  events.filterMap walletEvent?

/-- Just of sound events the transactions can be told. -/
theorem transactions_eq_ok_iff {txs : List Transaction} :
    transactions events = .ok txs ↔ (∀ event ∈ events, Sound event) ∧
      txs = ((told events).map (·.key)).eraseDups.filterMap
        (WalletEvent.transaction? (told events)) := by
  unfold transactions told
  rw [bind_eq_ok_iff]
  simp only [mapM_eq_ok_iff_forall fun _ _ => readWalletEvent_eq_ok_iff]
  constructor
  · rintro ⟨_, ⟨hsound, rfl⟩, h⟩
    rw [List.filterMap_map] at h
    exact ⟨hsound, (Except.ok.inj h).symm⟩
  · rintro ⟨hsound, rfl⟩
    refine ⟨_, ⟨hsound, rfl⟩, ?_⟩
    rw [List.filterMap_map]
    rfl

/-- The fee of a transaction is what its fee events change. -/
theorem fee_eq_ok_iff {txid : Value} {fee : Int} :
    Bookkeeper.fee txid events = .ok fee ↔ (∀ event ∈ events, event.IsObject) ∧
      fee = ((events.filter (isFeeOf txid)).map change).sum.natAbs / 1000 := by
  have hfees : (events.map fun event =>
      if isFeeOf txid event then some (change event) else none).filterMap id =
        (events.filter (isFeeOf txid)).map change := by
    rw [List.filterMap_map, ← List.filterMap_eq_map, ← List.filterMap_eq_filter,
      List.filterMap_filterMap]
    congr
    funext event
    cases h : isFeeOf txid event <;> simp [Option.guard, h]
  unfold Bookkeeper.fee
  rw [bind_eq_ok_iff]
  simp only [mapM_eq_ok_iff_forall fun _ _ => readFee_eq_ok_iff]
  constructor
  · rintro ⟨_, ⟨hobject, rfl⟩, h⟩
    rw [hfees] at h
    exact ⟨hobject, (Except.ok.inj h).symm⟩
  · rintro ⟨hobject, rfl⟩
    refine ⟨_, ⟨hobject, rfl⟩, ?_⟩
    rw [hfees]
    rfl

/-! ## Asking for events -/

variable {node : String → Value → Except Value Value} {now : Int}

/-- Where events are listed the bookkeeper answers. -/
theorem answers_of_listedEvents (h : listedEvents node = .ok events) :
    answers node = .ok true := by
  obtain ⟨given, hgiven, -⟩ := bind_eq_ok_iff.mp h
  obtain ⟨result, hresult, -⟩ := bind_eq_ok_iff.mp hgiven
  unfold answers
  rw [Rpc.node_of_given hresult]
  exact bind_eq_ok_iff.mpr ⟨given, hgiven, rfl⟩

/-- Where events are listed the transactions are those that they tell. -/
theorem reads_transactions (h : listedEvents node = .ok events) :
    Reads (.ofNode node now) History.transactions (transactions events) := by
  refine reads_of_answers (answers_of_listedEvents h) ?_
  have hreads : Reads (.ofNode node now) (do liftM (transactions (← Bookkeeper.events)))
      (listedEvents node >>= transactions) :=
    reads_events.bind fun listed _ => reads_lift (transactions listed)
  rw [h] at hreads
  exact hreads

end Bookkeeper
end NodeLedger
