import NodeLedger.Proofs.Node.Sweeps
import NodeLedger.Proofs.Report.Cause

/-!
# Receives with a fee

A report refuses a transaction that receives something and yet has a fee, unless it sweeps an output
of a channel.  The sweeps are asked for once more then, and are the same as when the fees were told.

Main results:

- Theorem `Causes.covers_withoutFee`: when a transaction is refused.
- Theorem `History.coversRun_selection`: without a bookkeeper only transactions that spend outputs
  of the wallet are.
- Theorem `History.sweeps_consistent`: sweeps, closings and fees of a node without a bookkeeper.
-/

namespace NodeLedger

open List NodeLedger.Action

/-! ## What is refused -/

/-- Neither the prices nor the fees of a context are refused as a receive with a fee is. -/
structure EntryContext.RefusesNoReceive (context : EntryContext) : Prop where
  priceAt : ∀ time id, context.priceAt time ≠ .error (.data (.receiveWithFee id))
  feeOf : ∀ feeOf, context.feeOf = some feeOf →
    ∀ txid s id, ((feeOf txid).outcome s).1 ≠ .error (.data (.receiveWithFee id))

namespace Causes

variable {α : Type} {allowed : String → Prop}

/-- What is not refused as a receive with a fee is covered, whatever receives are. -/
theorem covers_receivesWithFee {r : Except Failure α}
    (h : ∀ id, r ≠ .error (.data (.receiveWithFee id))) :
    (receivesWithFee allowed).Covers r := by
  rintro failure rfl
  cases failure with
  | data fault =>
    cases fault with
    | receiveWithFee id => exact absurd rfl (h id)
    | _ => trivial
  | _ => trivial

/-- A transaction is refused as a receive with a fee if it has one and is no sweep. -/
theorem covers_withoutFee {sweeps : List Key} {tx : Transaction}
    (h : tx.fee ≠ 0 → (∀ key ∈ sweeps, tx.txid.key? ≠ some key) → allowed tx.txid.display) :
    (receivesWithFee allowed).Covers (tx.withoutFee sweeps) := by
  unfold Transaction.withoutFee
  simp only [covers_ite, covers_pure, covers_bind, covers_throw, Value.covers_key, implies_true,
    true_and]
  intro _ hmoved key hkey hother
  refine h (fun hzero => hmoved (.inr hzero)) fun swept hswept hsame => hother ?_
  have hown := Value.key_eq_ok_iff.mp hkey
  rw [Option.some.inj (hown.symm.trans hsame)]
  exact hswept

end Causes

/-- A transaction that belongs to a period is one of those listed, at a time that counts for it. -/
theorem Transaction.exists_of_mem_during {period : Period} {unconfirmedAt : Option Int}
    {txs : List Transaction} {tx : Transaction} (h : tx ∈ during period unconfirmedAt txs) :
    ∃ listed ∈ txs, tx.txid = listed.txid ∧ tx.fee = listed.fee := by
  obtain ⟨hmem, -⟩ := List.mem_filter.mp h
  obtain ⟨listed, hlisted, hdated⟩ := List.mem_filterMap.mp hmem
  refine ⟨listed, hlisted, ?_⟩
  unfold dated? at hdated
  split at hdated
  · obtain ⟨now, -, rfl⟩ := Option.map_eq_some_iff.mp hdated
    exact ⟨rfl, rfl⟩
  · cases hdated
    exact ⟨rfl, rfl⟩

namespace History

open Causes

variable {node : String → Value → Except Value Value}

/-- A transaction of the wallet that is written in a way spends outputs of the wallet. -/
def SpendsOwnAs (node : String → Value → Except Value Value) (id : String) : Prop :=
  ∃ table, Wallet.listed node = .ok table ∧
    ∃ entry ∈ table, entry.2.hash.display = id ∧ entry.2.SpendsOwn node

/-- The transactions of a report are refused as receives with a fee only if they spend outputs of
the wallet: for all others a fee is told only if they are sweeps, and the same sweeps are known to
the report. -/
theorem coversRun_selection (hanswers : Bookkeeper.answers node = .ok false) {s : Session}
    (hs : Knows node s) (unconfirmedAsNow : Bool) (period : Period) :
    (receivesWithFee (SpendsOwnAs node)).CoversRun
      (Node.onChain.selection unconfirmedAsNow period) s := by
  have hholds : (Situation.ofNode node s.now).holds s := ⟨rfl, hs⟩
  unfold OnChainSource.selection
  rw [coversRun_bind]
  refine ⟨coversRun_transactions, fun txs t htxs => ?_⟩
  have ht := steady_transactions.holds hholds htxs
  rw [coversRun_bind]
  refine ⟨coversRun_sweeps, fun found u hfound => ?_⟩
  obtain ⟨table, htable, hspends⟩ := spends_or_sweeps hanswers hs htxs
  rw [coversRun_bind]
  refine ⟨by simp, fun keys v hkeys => ?_⟩
  have hrelated := mapM_eq_ok_iff.mp (ends_mapM_lift.mp hkeys).1
  simp only [coversRun_bind, coversRun_now, coversRun_lift, coversRun_log, coversRun_pure,
    implies_true, and_true, true_and]
  intro now w _
  refine covers_mapM fun tx htx => covers_withoutFee fun hfee hother => ?_
  obtain ⟨listed, hlisted, hid, hsame⟩ := Transaction.exists_of_mem_during htx
  obtain ⟨entry, hentry, hhash, hcases⟩ := hspends listed hlisted
  rcases hcases (hsame ▸ hfee) with hspends | hsweep
  · exact ⟨table, htable, entry, hentry, by rw [hhash, hid], hspends⟩
  · obtain ⟨found', x, hfound', hmem⟩ := hsweep t ht.2
    obtain ⟨rfl, -⟩ := Ends.unique hfound hfound'
    obtain ⟨key, hkey, hread⟩ := exists_of_mem_left hrelated hmem
    refine absurd ?_ (hother key (List.mem_eraseDups.mpr hkey))
    rw [hid]
    exact Value.key_eq_ok_iff.mp hread

/-- Without a bookkeeper sweeps, closings of channels and fees fit together, if transactions have
hashes.  Sweeps differ from each other and from the closings, and each spends an output of a closing
and pays to the wallet.  A fee is told only of a transaction that spends outputs of the wallet or
that is a sweep.  So a report refuses only transactions that spend outputs of the wallet for being
receives with a fee. -/
theorem sweeps_consistent {error : Value}
    (hsilent : node "bkpr-listaccountevents" (.object []) = .error error)
    (hhashes : ∀ tx ∈ Node.listedTransactions node, (Wallet.hashOf tx).truthy = true) :
    (∀ s found t, Knows node s → Ends sweeps s found t →
      (found.map Value.key?).Nodup ∧
      (∀ u channels v, Knows node u → Ends Channel.closedChannels u channels v →
        ∀ channel ∈ channels, ∀ sweep ∈ found, channel.closingTxid.key? ≠ sweep.key?) ∧
      ∃ table, Wallet.listed node = .ok table ∧ ∀ sweep ∈ found, ∃ entry ∈ table,
        entry.2.hash = sweep ∧ entry.2.PaysOwn node ∧
        ∃ closing ∈ table, closing.2.ClosesChannel node ∧ entry.2.SpendsFrom closing.1 ∧
          ∀ u channels v, Knows node u → Ends Channel.closedChannels u channels v →
            closing.2.hash ∈ channels.map (·.closingTxid)) ∧
    (∀ s txs t, Knows node s → Ends transactions s txs t →
      ∃ table, Wallet.listed node = .ok table ∧ ∀ tx ∈ txs, ∃ entry ∈ table,
        entry.2.hash = tx.txid ∧ (tx.fee ≠ 0 → entry.2.SpendsOwn node ∨
          ∀ u, Knows node u → ∃ found v, Ends sweeps u found v ∧ tx.txid ∈ found)) ∧
    (∀ s unconfirmedAsNow period context id, Knows node s → context.RefusesNoReceive →
      ((Node.onChain.report unconfirmedAsNow period context).outcome s).1 =
        .error (.data (.receiveWithFee id)) →
      ∃ table, Wallet.listed node = .ok table ∧
        ∃ entry ∈ table, entry.2.hash.display = id ∧ entry.2.SpendsOwn node) := by
  have hanswers := Bookkeeper.answers_of_error hsilent
  refine ⟨fun s found t hs h => sweeps_apart hanswers hhashes hs h,
    fun s txs t hs h => spends_or_sweeps hanswers hs h, ?_⟩
  intro s unconfirmedAsNow period context id hs hcontext hrefused
  have hcovered : context.CoveredBy (receivesWithFee (SpendsOwnAs node)) period :=
    ⟨fun time _ => covers_receivesWithFee (hcontext.priceAt time),
      fun feeOf hfeeOf txid s => covers_receivesWithFee (hcontext.feeOf feeOf hfeeOf txid s)⟩
  exact Node.coveredBy_onChain.coversRun_report_of_selection hcovered
    (coversRun_selection hanswers hs unconfirmedAsNow period) _ hrefused

/-- The id of the transaction that closes the channel of the sample below. -/
def closingId : String :=
  String.ofList (List.replicate 64 'c')

/-- The id of the transaction that sweeps an output of it. -/
def sweepingId : String :=
  String.ofList (List.replicate 64 'd')

/-- A node without a bookkeeper.  One of its channels was closed, and an output of the closing is
swept.  Its wallet has also spent an output together with somebody else, and received more than
that. -/
def sweepingNode (method : String) (_payload : Value) : Except Value Value :=
  let input (id : String) (index : Int) : Value :=
    .object [("txid", .text id), ("index", .int index)]
  let tx (id : String) (inputs : List Value) (amounts : List (Int × Int)) : Value :=
    .object [("hash", .text id), ("blockheight", .int 7), ("inputs", .list inputs),
      ("outputs", .list (amounts.map fun (index, amount) =>
        .object [("index", .int index), ("amount_msat", .int amount)]))]
  match method with
  | "bkpr-listaccountevents" => .error (.text "unknown command")
  | "listtransactions" => .ok (.object [("transactions", .list [
      tx payingId [input "outside" 3] [(0, 5000000), (1, 3000000)],
      tx spendingId [input payingId 0, input payingId 1] [(0, 7900000)],
      tx closingId [input "funding" 1] [(0, 600000)],
      tx sweepingId [input closingId 0] [(0, 590000)]])])
  | "listfunds" => .ok (.object [("outputs", .list [
      .object [("txid", .text payingId), ("output", .int 0), ("amount_msat", .int 5000000)],
      .object [("txid", .text spendingId), ("output", .int 0), ("amount_msat", .int 7900000)],
      .object [("txid", .text sweepingId), ("output", .int 0), ("amount_msat", .int 590000)]])])
  | "listclosedchannels" => .ok (.object [("closedchannels", .list [
      .object [("funding_txid", .text "funding"), ("funding_outnum", .int 1)]])])
  | "getrawblockbyheight" => .ok (.object [("block", .text
      (String.ofList (List.replicate 136 '0') ++ "64000000"))])
  | _ => .ok (.object [])

/-- The id of the transaction that is refused for being a receive with a fee. -/
def refused? {α : Type} : Except Failure α → Option String
  | .error (.data (.receiveWithFee id)) => some id
  | _ => none

theorem eq_of_refused? {α : Type} {r : Except Failure α} {id : String} (h : refused? r = some id) :
    r = .error (.data (.receiveWithFee id)) := by
  unfold refused? at h
  split at h
  · rw [Option.some.inj h]
  · cases h

/-- The sweep is found, apart from the closing of the channel.  It pays a fee, as does what was
spent together with somebody else, and for that the report is refused. -/
theorem sweeps_consistent_sweepingNode :
    let s : Session := { node := sweepingNode }
    let context : EntryContext := { priceAt := fun _ => .ok (Price.nothing none) }
    (∃ found t, Ends sweeps s found t ∧ found.map Value.key? = [some (.text sweepingId)] ∧
      ∃ channels v, Ends Channel.closedChannels s channels v ∧
        channels.map (·.closingTxid.key?) = [some (.text closingId)] ∧
        ∀ channel ∈ channels, ∀ sweep ∈ found, channel.closingTxid.key? ≠ sweep.key?) ∧
    (∃ txs t, Ends transactions s txs t ∧ txs.map (·.fee) = [0, 100, 0, 10]) ∧
    ((Node.onChain.report false ⟨0, 200⟩ context).outcome s).1 =
      .error (.data (.receiveWithFee spendingId)) ∧
    ∃ table, Wallet.listed sweepingNode = .ok table ∧
      ∃ entry ∈ table, entry.2.hash.display = spendingId ∧ entry.2.SpendsOwn sweepingNode := by
  intro s context
  have hs : Knows sweepingNode s := ⟨rfl, NodeCache.agrees_empty⟩
  have hhashes : ∀ tx ∈ Node.listedTransactions sweepingNode,
      (Wallet.hashOf tx).truthy = true := by
    decide +kernel
  obtain ⟨hsweeps, -, hreceives⟩ := sweeps_consistent
    (rfl : sweepingNode "bkpr-listaccountevents" (.object []) = .error (.text "unknown command"))
    hhashes
  obtain ⟨found, hfound, hkeys⟩ : ∃ found, Ends sweeps s found (sweeps.outcome s).2 ∧
      found.map Value.key? = [some (.text sweepingId)] :=
    exists_ends_of_outcome (by decide +kernel)
  obtain ⟨channels, hchannels, hclosings⟩ : ∃ channels,
      Ends Channel.closedChannels s channels (Channel.closedChannels.outcome s).2 ∧
      channels.map (·.closingTxid.key?) = [some (.text closingId)] :=
    exists_ends_of_outcome (by decide +kernel)
  obtain ⟨txs, htxs, hfees⟩ : ∃ txs, Ends transactions s txs (transactions.outcome s).2 ∧
      txs.map (·.fee) = [0, 100, 0, 10] :=
    exists_ends_of_outcome (by decide +kernel)
  have hrefused : ((Node.onChain.report false ⟨0, 200⟩ context).outcome s).1 =
      .error (.data (.receiveWithFee spendingId)) :=
    eq_of_refused? (by decide +kernel)
  have hcontext : context.RefusesNoReceive := by constructor <;> simp [context]
  exact ⟨⟨found, _, hfound, hkeys, channels, _, hchannels, hclosings,
      (hsweeps s found _ hs hfound).2.1 s channels _ hs hchannels⟩, ⟨txs, _, htxs, hfees⟩,
    hrefused, hreceives s false ⟨0, 200⟩ context spendingId hs hcontext hrefused⟩

end History
end NodeLedger
