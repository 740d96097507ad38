import NodeLedger.Node.Source
import NodeLedger.Proofs.Record.Cause

/-!
# Causes for which the node's records cannot be had

Asking the node fails because the node refuses a call, or because what it answers cannot be read.
No price is asked for on the way, so no price can be missing.

Main results:

- Theorem `Rpc.coversRun_call`: a call fails only because the node refuses it.
- Theorems `Bookkeeper.coversRun_available`, `Wallet.coversRun_fee` and `Channel.coversRun_closings`
  for what is asked of the node on the way.
- Structures `OnChainSource.CoveredBy` and `OffChainSource.CoveredBy`: sources that fail for some
  causes only.  Theorems `Node.coveredBy_onChain` and `Node.coveredBy_offChain`: the records of the
  node are such.
-/

namespace NodeLedger

open NodeLedger.Action NodeLedger.Causes

variable {causes : Causes} {s : Session}

/-! ## Calls and memory -/

/-- What is remembered can be read without failing. -/
@[simp] theorem NodeCache.coversRun_current : causes.CoversRun NodeCache.current s := by
  simp [NodeCache.current]

@[simp] theorem NodeCache.coversRun_update (change : NodeCache → NodeCache) :
    causes.CoversRun (NodeCache.update change) s := by
  simp [NodeCache.update]

/-- To note a call is no cause of failure. -/
@[simp] theorem Rpc.coversRun_note (method : String) (payload : Value) :
    causes.CoversRun (note method payload) s := by
  simp [note]

variable [causes.OfAnswers]

namespace Rpc

variable (method : String) (payload : Value)

/-- A call is answered, or the node refuses it. -/
@[simp] theorem coversRun_answer : causes.CoversRun (answer method payload) s := by
  unfold answer
  rw [coversRun_bind]
  refine ⟨by simp, fun session t _ => ?_⟩
  split <;> simp

/-- A call fails only because the node refuses it. -/
@[simp] theorem coversRun_call : causes.CoversRun (call method payload) s := by
  simp [call]

/-- The same holds for a call of a method that takes nothing. -/
@[simp] theorem coversRun_ask : causes.CoversRun (ask method) s :=
  coversRun_call method _

end Rpc

/-! ## Blocks -/

namespace Block

/-- A block gives no time only because it is missing or cannot be read. -/
@[simp] theorem covers_readBlock (height : Int) (block : Value) :
    causes.Covers (readBlock height block) := by
  unfold readBlock
  cases block with
  | text digits => cases htime : headerTime digits <;> simp [htime]
  | _ => simp

/-- The time of a block cannot be had only because the node refuses the block, has none at that
height, or gives one that cannot be read. -/
@[simp] theorem coversRun_time (height : Int) : causes.CoversRun (time height) s := by
  unfold time fetchTime
  rw [coversRun_bind]
  refine ⟨by simp, fun cache t _ => ?_⟩
  split <;> simp

end Block

/-! ## The bookkeeper -/

namespace Bookkeeper

/-- The events cannot be had only because the bookkeeper does not give them. -/
@[simp] theorem coversRun_given : causes.CoversRun given s := by
  unfold given fetch
  rw [coversRun_bind]
  refine ⟨by simp, fun cache t _ => ?_⟩
  split <;> simp

/-- Nor can they be taken one by one for any other cause than that they are no list. -/
@[simp] theorem coversRun_events : causes.CoversRun events s := by
  simp [events]

/-- If the bookkeeper does not answer, its refusal is noted; for other causes the report fails. -/
@[simp] theorem coversRun_probe : causes.CoversRun probe s := by
  unfold probe
  rw [coversRun_bind]
  refine ⟨by simp, fun result t hresult => ?_⟩
  split
  · simp
  · simp
  · have hgiven : causes.CoversRun given s := coversRun_given
    exact coversRun_throw.mpr (hgiven.includes_of_attempt hresult)

/-- Whether the bookkeeper answers fails to be known only as asking it fails. -/
@[simp] theorem coversRun_available : causes.CoversRun available s := by
  unfold available
  rw [coversRun_bind]
  refine ⟨by simp, fun cache t _ => ?_⟩
  split <;> simp

/-- The transaction of an event is read from the first of three fields that names one. -/
@[simp] theorem covers_eventTxid (event : Value) : causes.Covers (eventTxid event) := by
  have hcolon : ∀ outpoint, causes.Covers (beforeColon outpoint) := by
    intro outpoint
    unfold beforeColon
    split <;> simp
  simp [eventTxid, hcolon]

/-- What an event changes is read from its two amounts. -/
@[simp] theorem covers_net (event : Value) : causes.Covers (net event) := by
  simp [net]

/-- An event of the wallet cannot be read only because one of its fields cannot. -/
@[simp] theorem covers_readWalletEvent (event : Value) :
    causes.Covers (readWalletEvent event) := by
  simp [readWalletEvent, readEffect]

/-- The bookkeeper gives no transactions only because some event cannot be read. -/
@[simp] theorem covers_transactions (events : List Value) :
    causes.Covers (transactions events) := by
  simp [transactions]

/-- The same holds for the sweeps among its events. -/
@[simp] theorem covers_sweeps (events : List Value) : causes.Covers (sweeps events) := by
  simp [sweeps, readSweep]

/-- The same holds for a fee, whatever transaction it is asked for. -/
@[simp] theorem covers_fee (txid : Value) (events : List Value) :
    causes.Covers (fee txid events) := by
  simp [fee, readFee]

/-- The same holds for the closings among its events. -/
@[simp] theorem covers_closings (events : List Value) : causes.Covers (closings events) := by
  simp [closings, readClosing]

end Bookkeeper

/-! ## The wallet -/

namespace Wallet

/-- The items in a field cannot be had only because the field holds no list. -/
@[simp] theorem covers_itemsOf (v : Value) (name : String) : causes.Covers (itemsOf v name) := by
  simp [itemsOf]

/-- In particular, the inputs of a transaction cannot be had for no other cause. -/
@[simp] theorem covers_inputsOf (tx : Value) : causes.Covers (inputsOf tx) := by
  simp [inputsOf]

/-- The transactions of the wallet cannot be had only because the node refuses to list them, or
lists what cannot be read. -/
@[simp] theorem coversRun_transactions : causes.CoversRun transactions s := by
  unfold transactions fetchTransactions
  rw [coversRun_bind]
  refine ⟨by simp, fun cache t _ => ?_⟩
  split <;> simp [readTransactions, addTransaction]

/-- The same holds for the outputs of the wallet. -/
@[simp] theorem coversRun_outputs : causes.CoversRun outputs s := by
  unfold outputs fetchOutputs
  rw [coversRun_bind]
  refine ⟨by simp, fun cache t _ => ?_⟩
  split <;> simp [readOutputs, readOutput]

/-- What an input spends is read from two fields, and both are required. -/
@[simp] theorem covers_spentOutpoint (input : Value) : causes.Covers (spentOutpoint input) := by
  simp [spentOutpoint]

@[simp] theorem covers_indexOf (output : Value) : causes.Covers (indexOf output) := by
  simp [indexOf]

/-- The outpoint of an output is read from the place it gives. -/
@[simp] theorem covers_outpointOf (txid output : Value) :
    causes.Covers (outpointOf txid output) := by
  simp [outpointOf]

omit [causes.OfAnswers] in
mutual

/-- Two places cannot be compared only because they are of different kinds. -/
@[simp] theorem covers_precedes [causes.OfReadings] (a b : Value) :
    causes.Covers (precedes a b) := by
  unfold precedes
  split
  · exact covers_itemsPrecede _ _
  · split <;> simp

/-- The same holds for two lists, whose items are compared one after the other. -/
theorem covers_itemsPrecede [causes.OfReadings] (items others : List Value) :
    causes.Covers (itemsPrecede items others) := by
  unfold itemsPrecede
  split
  · simp
  · simp
  · split
    · exact covers_itemsPrecede _ _
    · exact covers_precedes _ _

end

/-- An output cannot be put in its place only because two places cannot be compared. -/
@[simp] theorem covers_place (placed : List (Value × Value)) (new : Value × Value) :
    causes.Covers (place placed new) := by
  induction placed with
  | nil => simp [place]
  | cons old rest ih => simp [place, ih]

/-- Outputs cannot be put in order for that cause, or because a place cannot be read. -/
@[simp] theorem covers_inOrder (outputs : List Value) : causes.Covers (inOrder outputs) := by
  simp [inOrder, arranged]

/-- An output cannot be decoded because its amount cannot be read or divided. -/
@[simp] theorem covers_decodedOutput (output : Value) :
    causes.Covers (decodedOutput output) := by
  unfold decodedOutput
  rw [covers_bind]
  refine ⟨by simp, fun amount _ => ?_⟩
  split <;> simp

/-- A transaction cannot be decoded only because an input or an output cannot. -/
@[simp] theorem covers_decoded (txid tx : Value) : causes.Covers (decoded txid tx) := by
  simp [decoded, decodedInput]

/-- The details of a transaction cannot be had only because the wallet does not know it, or because
what it knows of it cannot be read. -/
@[simp] theorem coversRun_details (txid : Value) : causes.CoversRun (details txid) s := by
  unfold details
  rw [coversRun_bind]
  refine ⟨by simp, fun txs t _ => ?_⟩
  rw [coversRun_bind]
  refine ⟨by simp, fun key u _ => ?_⟩
  split <;> simp

/-- What an input spends is looked up in the transaction that it names, which fails for the same
causes. -/
@[simp] theorem coversRun_spent (input : Value) :
    causes.CoversRun (Fee.spent (fun txid => details (.text txid)) input) s := by
  simp [Fee.spent]

/-- The fee of a transaction cannot be had only because of what is recorded of transactions. -/
@[simp] theorem coversRun_fee (txid : Value) : causes.CoversRun (fee txid) s := by
  simp [fee, Fee.ofTransaction]

end Wallet

/-! ## Channels -/

namespace Channel

/-- What funds a channel is read from two of its fields. -/
@[simp] theorem covers_fundingOutpoint (channel : Value) :
    causes.Covers (fundingOutpoint channel) := by
  simp [fundingOutpoint]

@[simp] theorem covers_channelId (channel : Value) : causes.Covers (channelId channel) := by
  simp [channelId]

/-- An amount in satoshis is worked out from what a field holds. -/
@[simp] theorem covers_satsField (channel : Value) (name : String) :
    causes.Covers (satsField channel name) := by
  simp [satsField]

/-- Who began something with a channel is not known only if what is given is no key. -/
@[simp] theorem covers_initiator (channel : Value) (name : String) :
    causes.Covers (initiator channel name) := by
  unfold initiator
  rw [covers_bind]
  refine ⟨by simp, fun given _ => ?_⟩
  rw [covers_bind]
  refine ⟨by simp, fun key _ => ?_⟩
  split <;> simp

/-- An open channel cannot be read only because one of its fields cannot. -/
@[simp] theorem covers_readOpen (channel : Value) : causes.Covers (readOpen channel) := by
  unfold readOpen
  rw [covers_bind]
  refine ⟨by simp, fun found _ => ?_⟩
  cases found <;> simp [peerOf]

/-- The open channels cannot be had only because the node refuses to list them, or lists one that
cannot be read. -/
@[simp] theorem coversRun_openChannels : causes.CoversRun openChannels s := by
  simp [openChannels, readOpenChannels]

/-- What closed a channel is found from the inputs of transactions, all of which are read. -/
@[simp] theorem covers_walletClosings (txs : List WalletTransaction) :
    causes.Covers (walletClosings txs) := by
  simp [walletClosings, spendings]

/-- The closings can be had unless the bookkeeper or the wallet fails to answer. -/
@[simp] theorem coversRun_closings : causes.CoversRun closings s := by
  simp [closings]

/-- What the node lists of closed channels cannot be had only because it refuses. -/
@[simp] theorem coversRun_closed : causes.CoversRun closed s := by
  unfold closed fetchClosed
  rw [coversRun_bind]
  refine ⟨by simp, fun cache t _ => ?_⟩
  split <;> simp

/-- A closed channel cannot be read only because one of its fields cannot. -/
@[simp] theorem covers_readClosed (channel : Value) (channelPoint : String) (closing : Value) :
    causes.Covers (readClosed channel channelPoint closing) := by
  simp [readClosed, closeType, peerOf]

/-- That the closing of a channel is unknown is no cause of failure, since the channel is left out.
-/
@[simp] theorem coversRun_findClosed (closings : Table Key Value) (channel : Value) :
    causes.CoversRun (findClosed closings channel) s := by
  unfold findClosed
  rw [coversRun_bind]
  refine ⟨by simp, fun found t _ => ?_⟩
  cases found <;> simp

/-- The closed channels can be had unless their closings cannot, or a channel cannot be read. -/
@[simp] theorem coversRun_closedChannels : causes.CoversRun closedChannels s := by
  simp [closedChannels]

end Channel

/-! ## Transactions -/

namespace History

/-- The transactions that close channels cannot be had only because a channel cannot be read or a
closing is no key. -/
@[simp] theorem covers_closesOf (closings : Table Key Value) (channels : List Value) :
    causes.Covers (closesOf closings channels) := by
  simp [closesOf]

/-- Which transactions are sweeps cannot be told only because an input or output cannot be read. -/
@[simp] theorem covers_sweepsAmong (closes : List Key) (outputs : Table String Int)
    (txs : Table Key WalletTransaction) : causes.Covers (sweepsAmong closes outputs txs) := by
  simp [sweepsAmong, isSweep, spendsFrom, paysWallet]

/-- The sweeps that the wallet knows are found among what it lists. -/
@[simp] theorem coversRun_walletSweeps : causes.CoversRun walletSweeps s := by
  simp [walletSweeps]

/-- The same holds for the sweeps of the node, whichever of the two answers. -/
@[simp] theorem coversRun_sweeps : causes.CoversRun sweeps s := by
  simp [sweeps]

/-- A transaction is rebuilt unless its fee, its block or what is listed of it cannot be had. -/
@[simp] theorem coversRun_rebuild (outputs : Table String Int)
    (sweeps : Table Key WalletTransaction) (entry : Key × WalletTransaction) :
    causes.CoversRun (rebuild outputs sweeps entry) s := by
  simp [rebuild, received, spent, heightOf]

/-- The same holds for the transactions of the node. -/
@[simp] theorem coversRun_transactions : causes.CoversRun transactions s := by
  simp [transactions, walletTransactions]

/-- Nor does either way to look up fees fail for other causes. -/
theorem coversRun_of_feeLookup {t : Session} {feeOf : Value → Action Int}
    (h : Ends feeLookup s (some feeOf) t) (txid : Value) (u : Session) :
    causes.CoversRun (feeOf txid) u := by
  obtain ⟨answers, _, -, h⟩ := ends_bind.mp h
  cases answers with
  | true =>
    obtain ⟨hfeeOf, -⟩ := ends_pure.mp h
    cases hfeeOf
    simp [recordedFee]
  | false =>
    obtain ⟨hfeeOf, -⟩ := ends_pure.mp h
    cases hfeeOf
    simp

end History

/-! ## Invoices, payments and forwards -/

namespace Invoice

/-- The state of an invoice is known unless what is given is no key. -/
@[simp] theorem covers_stateOf (status : Value) : causes.Covers (stateOf status) := by
  unfold stateOf
  rw [covers_bind]
  refine ⟨by simp, fun key _ => ?_⟩
  split <;> simp

/-- A label can be read only if it is a text. -/
@[simp] theorem covers_isKeysendLabel (label : Value) : causes.Covers (isKeysendLabel label) := by
  unfold isKeysendLabel
  split <;> simp

/-- The payment request is read from one of two fields. -/
@[simp] theorem covers_requestOf (v : Value) : causes.Covers (requestOf v) := by
  simp [requestOf]

/-- What an invoice asks for is read from its amount, if it has one. -/
@[simp] theorem covers_asked (invoice : Value) (received : Amount) :
    causes.Covers (asked invoice received) := by
  unfold asked
  rw [covers_bind]
  refine ⟨by simp, fun given _ => ?_⟩
  cases given <;> simp

/-- The invoices of an answer cannot be had only because one of them cannot be read. -/
@[simp] theorem covers_readAll (result : Value) : causes.Covers (readAll result) := by
  simp [readAll, readListed]

end Invoice

namespace Payment

/-- How a part went is known unless what is given is no key. -/
@[simp] theorem covers_partStatus (status : Value) : causes.Covers (partStatus status) := by
  unfold partStatus
  rw [covers_bind]
  refine ⟨by simp, fun key _ => ?_⟩
  split <;> simp

/-- A part of a payment cannot be read only because one of its fields cannot. -/
@[simp] theorem covers_readPart (part : Value) : causes.Covers (readPart part) := by
  simp [readPart]

@[simp] theorem covers_readId (part : Value) : causes.Covers (readId part) := by
  simp [readId]

/-- A payment cannot be put together only because one of its parts cannot be read. -/
@[simp] theorem covers_ofParts (hash : Value) (parts : List Value) :
    causes.Covers (ofParts hash parts) := by
  simp [ofParts]

/-- The payments of an answer cannot be had only because a part of one cannot be read. -/
@[simp] theorem covers_readAll (result : Value) : causes.Covers (readAll result) := by
  simp [readAll, grouped, addPart]

end Payment

/-- What a payment request says is read from the fields of the answer. -/
@[simp] theorem PaymentRequest.covers_ofDecoded (decoded : Value) :
    causes.Covers (ofDecoded decoded) := by
  simp [ofDecoded]

/-- The forwards of an answer cannot be had only because one of them cannot be read. -/
@[simp] theorem Forward.covers_readAll (period : Period) (result : Value) :
    causes.Covers (readAll period result) := by
  simp [readAll, readListed, timeOf]

/-! ## Sources -/

/-- The records on chain cannot be had for some causes only, and the same holds for the fees that
can be looked up. -/
structure OnChainSource.CoveredBy (causes : Causes) (source : OnChainSource) : Prop where
  transactions : ∀ s, causes.CoversRun source.transactions s
  sweeps : ∀ s, causes.CoversRun source.sweeps s
  openChannels : ∀ s, causes.CoversRun source.openChannels s
  closedChannels : ∀ s, causes.CoversRun source.closedChannels s
  feeLookup : ∀ s, causes.CoversRun source.feeLookup s
  feeOf : ∀ s t feeOf, Ends source.feeLookup s (some feeOf) t →
    ∀ txid u, causes.CoversRun (feeOf txid) u

/-- The records off chain cannot be had for some causes only. -/
structure OffChainSource.CoveredBy (causes : Causes) (source : OffChainSource) : Prop where
  ownPubkey : ∀ s, causes.CoversRun source.ownPubkey s
  invoices : ∀ s, causes.CoversRun source.invoices s
  payments : ∀ s, causes.CoversRun source.payments s
  forwards : ∀ period s, causes.CoversRun (source.forwards period) s
  decode : ∀ request s, causes.CoversRun (source.decode request) s

namespace Node

/-- The key of the node cannot be had only because the node refuses it or gives what cannot be read.
-/
@[simp] theorem coversRun_pubkey : causes.CoversRun pubkey s := by
  unfold pubkey fetchPubkey
  rw [coversRun_bind]
  refine ⟨by simp, fun cache t _ => ?_⟩
  split <;> simp

/-- What happened on chain cannot be had only because of what the node answers. -/
theorem coveredBy_onChain : onChain.CoveredBy causes where
  transactions _ := History.coversRun_transactions
  sweeps _ := History.coversRun_sweeps
  openChannels _ := Channel.coversRun_openChannels
  closedChannels _ := Channel.coversRun_closedChannels
  feeLookup _ := by simp [onChain, History.feeLookup]
  feeOf _ _ _ := History.coversRun_of_feeLookup

/-- Nor can what happened off chain. -/
theorem coveredBy_offChain : offChain.CoveredBy causes where
  ownPubkey _ := coversRun_pubkey
  invoices _ := by simp [offChain, invoices]
  payments _ := by simp [offChain, payments]
  forwards _ _ := by simp [offChain, forwards]
  decode _ _ := by simp [offChain, decode]

end Node

end NodeLedger
