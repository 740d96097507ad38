import NodeLedger.Node.Source
import NodeLedger.Proofs.Session.Frame

/-!
# The node inside a session

Whatever is asked of the node stays inside the session: the answers depend on the node, on what is
remembered of it and on nothing else, and no price service hears of it.

Main results:

- Structures `OnChainSource.Inward` and `OffChainSource.Inward`: sources that stay inside.
- Theorems `Node.inward_onChain` and `Node.inward_offChain`: the records of the node are such.
-/

namespace NodeLedger

open NodeLedger.Action

variable {α : Type}

/-! ## Calls and memory -/

/-- What is remembered of the node is a part of the inside of a session. -/
theorem NodeCache.inward_current : Inward NodeCache.current where
  keeps := keeps_get.bind fun s => keeps_pure s.cache
  same _ _ h := ⟨congrArg Except.ok (Session.cache_eq_of_inside h), h⟩

/-- So is what it becomes by a change. -/
theorem NodeCache.inward_update (change : NodeCache → NodeCache) :
    Inward (NodeCache.update change) where
  keeps := keeps_modify fun _ => rfl
  same s t h := by
    have hnow := Session.now_eq_of_inside h
    have hnode := Session.node_eq_of_inside h
    have hcache := Session.cache_eq_of_inside h
    refine ⟨rfl, ?_⟩
    simp only [NodeCache.update, outcome_modify, Session.inside, hnow, hnode, hcache]

namespace Rpc

/-- A call that is noted is known inside a session only. -/
theorem inward_note (method : String) (payload : Value) : Inward (note method payload) where
  keeps := keeps_modify fun _ => rfl
  same _ _ h := ⟨rfl, h⟩

/-- What the node answers does not change the session. -/
theorem outcome_answer (method : String) (payload : Value) (s : Session) :
    (answer method payload).outcome s =
      match s.node method payload with
      | .ok result => (.ok result, s)
      | .error error => (.error (.rpc ⟨method, payload, error⟩), s) := by
  unfold answer
  rw [outcome_bind, outcome_get]
  dsimp only
  cases s.node method payload with
  | ok result => rfl
  | error error => rfl

/-- The answer depends on the node alone. -/
theorem inward_answer (method : String) (payload : Value) : Inward (answer method payload) where
  keeps s := by
    rw [outcome_answer]
    cases s.node method payload <;> rfl
  same s t h := by
    rw [outcome_answer, outcome_answer, Session.node_eq_of_inside h]
    cases t.node method payload <;> exact ⟨rfl, h⟩

/-- A call is noted and answered, so it stays inside. -/
theorem inward_call (method : String) (payload : Value) : Inward (call method payload) := by
  unfold call
  exact (inward_note method payload).bind fun _ => inward_answer method payload

theorem inward_ask (method : String) : Inward (ask method) :=
  inward_call method _

end Rpc

/-! ## The bookkeeper -/

namespace Bookkeeper

/-- The events of the bookkeeper are asked of the node, remembered and counted. -/
theorem inward_fetch : Inward fetch := by
  unfold fetch
  apply (Rpc.inward_ask _).bind
  intro result
  apply (inward_lift _).bind
  intro events
  apply (NodeCache.inward_update _).bind
  intro _
  apply (inward_lift _).bind
  intro count
  exact (inward_log _ _).bind fun _ => inward_pure events

/-- They are taken from memory or asked of the node, and both stay inside. -/
theorem inward_given : Inward given := by
  unfold given
  apply NodeCache.inward_current.bind
  intro cache
  split
  · exact inward_pure _
  · exact inward_fetch

theorem inward_events : Inward events := by
  unfold events
  exact inward_given.bind fun _ => inward_lift _

/-- That the bookkeeper does not answer is noted in the log, which is inside as well. -/
theorem inward_probe : Inward probe := by
  unfold probe
  apply inward_given.attempt.bind
  intro result
  split
  · exact inward_pure true
  · exact (inward_log _ _).bind fun _ => inward_pure false
  · exact inward_throw _

/-- Whether it answers is found out once and remembered. -/
theorem inward_available : Inward available := by
  unfold available
  apply NodeCache.inward_current.bind
  intro cache
  split
  · exact inward_pure _
  · apply inward_probe.bind
    intro answer
    exact (NodeCache.inward_update _).bind fun _ => inward_pure answer

end Bookkeeper

/-! ## Blocks -/

namespace Block

/-- The time of a block is read from what the node gives, and remembered. -/
theorem inward_fetchTime (height : Int) : Inward (fetchTime height) := by
  unfold fetchTime
  apply (Rpc.inward_call _ _).bind
  intro result
  apply (inward_lift _).bind
  intro block
  apply (inward_lift _).bind
  intro time
  exact (NodeCache.inward_update _).bind fun _ => inward_pure time

/-- Nor does a time that is remembered leave the session. -/
theorem inward_time (height : Int) : Inward (time height) := by
  unfold time
  apply NodeCache.inward_current.bind
  intro cache
  split
  · exact inward_pure _
  · exact inward_fetchTime height

end Block

/-! ## The wallet -/

namespace Wallet

/-- The transactions of the wallet are listed by the node, and remembered. -/
theorem inward_fetchTransactions : Inward fetchTransactions := by
  unfold fetchTransactions
  apply (Rpc.inward_ask _).bind
  intro result
  apply (inward_lift _).bind
  intro txs
  exact (NodeCache.inward_update _).bind fun _ => inward_pure txs

/-- They are listed at most once; a transaction that is remembered is inside already. -/
theorem inward_transactions : Inward transactions := by
  unfold transactions
  apply NodeCache.inward_current.bind
  intro cache
  split
  · exact inward_pure _
  · exact inward_fetchTransactions

/-- The outputs of the wallet are listed by the node, and remembered. -/
theorem inward_fetchOutputs : Inward fetchOutputs := by
  unfold fetchOutputs
  apply (Rpc.inward_call _ _).bind
  intro result
  apply (inward_lift _).bind
  intro outputs
  exact (NodeCache.inward_update _).bind fun _ => inward_pure outputs

/-- They are listed at most once. -/
theorem inward_outputs : Inward outputs := by
  unfold outputs
  apply NodeCache.inward_current.bind
  intro cache
  split
  · exact inward_pure _
  · exact inward_fetchOutputs

/-- A transaction is decoded from what the wallet knows of it. -/
theorem inward_details (txid : Value) : Inward (details txid) := by
  unfold details
  apply inward_transactions.bind
  intro txs
  apply (inward_lift _).bind
  intro key
  split
  · exact inward_lift _
  · exact inward_throw _

/-- A result that an action continues with does not leave the session. -/
theorem inward_feeLift (result : Except Failure α) : Inward (Fee.lift result : Action α) := by
  cases result with
  | ok a => exact inward_pure a
  | error failure => exact inward_throw failure

/-- What an input spends stays inside if the look-up of transactions does. -/
theorem inward_spent {lookup : String → Action Value} (h : ∀ txid, Inward (lookup txid))
    (input : Value) : Inward (Fee.spent lookup input) := by
  unfold Fee.spent
  apply (inward_feeLift _).bind
  intro txid
  apply (h txid).bind
  intro source
  exact inward_feeLift _

/-- The fee of a transaction is made of what its inputs spend and of what it pays. -/
theorem inward_fee (txid : Value) : Inward (fee txid) := by
  unfold fee Fee.ofTransaction
  apply (inward_feeLift _).bind
  intro txid
  apply (inward_details _).bind
  intro tx
  apply (inward_feeLift _).bind
  intro inputs
  apply (Inward.mapM (inward_spent fun _ => inward_details _) inputs).bind
  intro received
  exact (inward_feeLift _).bind fun paid => inward_pure _

end Wallet

/-! ## Channels -/

namespace Channel

theorem inward_openChannels : Inward openChannels := by
  unfold openChannels
  exact (Rpc.inward_ask _).bind fun _ => inward_lift _

/-- What closed the channels is found among events or transactions, and both stay inside. -/
theorem inward_closings : Inward closings := by
  unfold closings
  apply Bookkeeper.inward_available.bind
  intro answers
  split
  · exact Bookkeeper.inward_events.bind fun _ => inward_lift _
  · exact Wallet.inward_transactions.bind fun _ => inward_lift _

/-- The closed channels are listed by the node, and remembered. -/
theorem inward_fetchClosed : Inward fetchClosed := by
  unfold fetchClosed
  apply (Rpc.inward_ask _).bind
  intro result
  apply (inward_lift _).bind
  intro channels
  exact (NodeCache.inward_update _).bind fun _ => inward_pure channels

theorem inward_closed : Inward closed := by
  unfold closed
  apply NodeCache.inward_current.bind
  intro cache
  split
  · exact inward_lift _
  · exact inward_fetchClosed.bind fun _ => inward_lift _

/-- That a closing is unknown is noted in the log. -/
theorem inward_findClosed (closings : Table Key Value) (channel : Value) :
    Inward (findClosed closings channel) := by
  unfold findClosed
  apply (inward_lift _).bind
  intro outpoint
  split
  · exact inward_pure none
  · dsimp only
    split
    · apply (inward_lift _).bind
      intro id
      exact (inward_log _ _).bind fun _ => inward_pure none
    · exact (inward_lift _).bind fun found => inward_pure (some found)

/-- The closed channels are found one by one, each of them inside. -/
theorem inward_closedChannels : Inward closedChannels := by
  unfold closedChannels
  apply inward_closings.bind
  intro closings
  apply inward_closed.bind
  intro channels
  exact (Inward.mapM (inward_findClosed closings) channels).bind fun found => inward_pure _

end Channel

/-! ## Transactions -/

namespace History

/-- The sweeps are selected from what is listed of channels, outputs and transactions. -/
theorem inward_walletSweeps : Inward walletSweeps := by
  unfold walletSweeps
  apply Channel.inward_closings.bind
  intro closings
  apply Wallet.inward_outputs.bind
  intro outputs
  apply Channel.inward_closed.bind
  intro channels
  apply (inward_lift _).bind
  intro closes
  exact Wallet.inward_transactions.bind fun _ => inward_lift _

theorem inward_sweeps : Inward sweeps := by
  unfold sweeps
  apply Bookkeeper.inward_available.bind
  intro answers
  split
  · exact Bookkeeper.inward_events.bind fun _ => inward_lift _
  · exact inward_walletSweeps.bind fun _ => inward_pure _

/-- A transaction is rebuilt with its fee and the time of its block, and both stay inside. -/
theorem inward_rebuild (outputs : Table String Int) (sweeps : Table Key WalletTransaction)
    (entry : Key × WalletTransaction) : Inward (rebuild outputs sweeps entry) := by
  unfold rebuild
  apply (inward_lift _).bind
  intro received
  apply (inward_lift _).bind
  intro spent
  extract_lets rest
  have hrest : ∀ fee, Inward (rest fee) := by
    intro fee
    apply (inward_lift _).bind
    intro height
    dsimp only
    split
    · exact (inward_pure 0).bind fun timestamp => inward_pure _
    · exact (Block.inward_time height).bind fun timestamp => inward_pure _
  split
  · exact (Wallet.inward_fee _).bind hrest
  · exact (inward_pure 0).bind hrest

/-- All of them are rebuilt one by one. -/
theorem inward_walletTransactions : Inward walletTransactions := by
  unfold walletTransactions
  apply Wallet.inward_outputs.bind
  intro outputs
  apply inward_walletSweeps.bind
  intro sweeps
  apply Wallet.inward_transactions.bind
  intro txs
  apply (Inward.mapM (inward_rebuild outputs sweeps) txs).bind
  intro rebuilt
  exact (inward_log _ _).bind fun _ => inward_pure rebuilt

/-- The transactions of a report come from the bookkeeper or from the wallet. -/
theorem inward_transactions : Inward transactions := by
  unfold transactions
  apply Bookkeeper.inward_available.bind
  intro answers
  split
  · exact Bookkeeper.inward_events.bind fun _ => inward_lift _
  · exact inward_walletTransactions

/-- A recorded fee is read from the events of the bookkeeper. -/
theorem inward_recordedFee (txid : Value) : Inward (recordedFee txid) := by
  unfold recordedFee
  exact Bookkeeper.inward_events.bind fun _ => inward_lift _

/-- Whatever way to look up fees is given stays inside too. -/
theorem inward_feeLookup :
    Inward feeLookup ∧
      ∀ s t feeOf, Ends feeLookup s (some feeOf) t → ∀ txid, Inward (feeOf txid) := by
  unfold feeLookup
  constructor
  · apply Bookkeeper.inward_available.bind
    intro answers
    split
    · exact inward_pure _
    · exact inward_pure _
  · intro s t feeOf h
    obtain ⟨answers, u, -, h⟩ := ends_bind.mp h
    cases answers with
    | true =>
      obtain ⟨hfeeOf, -⟩ := ends_pure.mp h
      cases hfeeOf
      exact inward_recordedFee
    | false =>
      obtain ⟨hfeeOf, -⟩ := ends_pure.mp h
      cases hfeeOf
      exact Wallet.inward_fee

end History

/-! ## Payments -/

namespace ResolvedPayment

/-- The destination of a payment stays inside if payment requests are decoded inside. -/
theorem inward_resolve {decode : Value → Action PaymentRequest}
    (h : ∀ request, Inward (decode request)) (payment : Payment) :
    Inward (resolve decode payment) := by
  unfold resolve requestDetails
  refine Inward.bind ?_ fun _ => inward_pure _
  split
  · exact (h _).map _
  · exact inward_pure _

/-- A payment to an unknown destination is noted in the log; one that goes both ways is refused. -/
theorem inward_addDirection (own : Value) (directions : Table Key Direction)
    (resolved : ResolvedPayment) : Inward (addDirection own directions resolved) := by
  unfold addDirection
  cases resolved.destination.kept with
  | none => exact (inward_log _ _).bind fun _ => inward_pure _
  | some destination =>
    apply (inward_lift _).bind
    intro key
    cases Table.get? directions key with
    | none => exact inward_pure _
    | some before =>
      dsimp only
      split
      · exact inward_pure _
      · exact inward_throw _

/-- The payments are recognised one after the other, each of them inside. -/
theorem inward_circular (own : Value) (payments : List ResolvedPayment) :
    Inward (circular own payments) := by
  unfold circular
  exact (Inward.foldlM (inward_addDirection own) payments []).bind fun _ => inward_pure _

end ResolvedPayment

/-! ## Sources -/

/-- The records on chain stay inside a session, and so do the fees that can be looked up. -/
structure OnChainSource.Inward (source : OnChainSource) : Prop where
  transactions : Action.Inward source.transactions
  sweeps : Action.Inward source.sweeps
  openChannels : Action.Inward source.openChannels
  closedChannels : Action.Inward source.closedChannels
  feeLookup : Action.Inward source.feeLookup
  feeOf : ∀ s t feeOf, Ends source.feeLookup s (some feeOf) t → ∀ txid, Action.Inward (feeOf txid)

/-- The records off chain stay inside a session. -/
structure OffChainSource.Inward (source : OffChainSource) : Prop where
  ownPubkey : Action.Inward source.ownPubkey
  invoices : Action.Inward source.invoices
  payments : Action.Inward source.payments
  forwards : ∀ period, Action.Inward (source.forwards period)
  decode : ∀ request, Action.Inward (source.decode request)

namespace Node

/-- The key of the node is asked of it, and remembered. -/
theorem inward_fetchPubkey : Action.Inward fetchPubkey := by
  unfold fetchPubkey
  apply (Rpc.inward_ask _).bind
  intro info
  apply (inward_lift _).bind
  intro pubkey
  exact (NodeCache.inward_update _).bind fun _ => inward_pure pubkey

theorem inward_pubkey : Action.Inward pubkey := by
  unfold pubkey
  apply NodeCache.inward_current.bind
  intro cache
  split
  · exact inward_pure _
  · exact inward_fetchPubkey

/-- What the node has recorded on chain stays inside a session. -/
theorem inward_onChain : onChain.Inward where
  transactions := History.inward_transactions
  sweeps := History.inward_sweeps
  openChannels := Channel.inward_openChannels
  closedChannels := Channel.inward_closedChannels
  feeLookup := History.inward_feeLookup.1
  feeOf := History.inward_feeLookup.2

/-- So does what it has recorded off chain, and what it decodes. -/
theorem inward_offChain : offChain.Inward where
  ownPubkey := inward_pubkey
  invoices := (Rpc.inward_ask _).bind fun _ => inward_lift _
  payments := (Rpc.inward_ask _).bind fun _ => inward_lift _
  forwards _ := (Rpc.inward_call _ _).bind fun _ => inward_lift _
  decode _ := (Rpc.inward_call _ _).bind fun _ => inward_lift _

end Node

end NodeLedger
