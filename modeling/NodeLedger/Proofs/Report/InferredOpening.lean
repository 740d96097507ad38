import NodeLedger.Proofs.Record.Selection
import NodeLedger.Proofs.Report.Block
import NodeLedger.Report.Records

/-!
# Channels whose opener is not recorded

Where it is not recorded who has opened a channel, the transaction that funded it tells: only a
channel that the node has opened takes something out of its wallet.  What is looked at is the amount
of the transaction after its fee has been taken out of it.  A payment of nothing but its fee moves
nothing any more, so that the channel counts as opened by the peer and the fee is not recorded at
all.

Main results:

- Definition `Entry.OpensBy`: what a block records of the opening of a channel.
- Theorem `ClosedChannel.openedByUs_of_unknown`: who counts as the opener.
- Theorem `OnChainSource.report_infers_opener`: what a report records of every payment that has
  funded such a channel.
- Theorem `OnChainSource.report_infers_peer_feeWallet`: a payment that disappears.
-/

namespace NodeLedger

open List NodeLedger.Action

/-! ## Openings -/

/-- A payment moves its amount less the fee that is contained in it. -/
theorem Transaction.moved_of_payment {tx : Transaction} (hamount : tx.amount < 0)
    (hfee : 0 ≤ tx.fee) : tx.moved = tx.amount + tx.fee := by
  unfold moved
  rw [if_pos hamount, Int.natAbs_of_nonneg hfee]

/-- A block records the opening of a channel, by the node or by its peer, with a transaction whose
fee has been taken out. -/
def Entry.OpensBy (byUs : Bool) (priceAt : Int → Except Failure Price) (channel : ClosedChannel)
    (tx : Transaction) (block : List Entry) : Prop :=
  ∃ category, Forall₂ (Draft.Becomes priceAt)
    (openDrafts category channel.channelId channel.remotePubkey channel.capacity byUs
      { tx with amount := tx.moved }) block

namespace Entry.OpensBy

variable {priceAt : Int → Except Failure Price} {channel : ClosedChannel} {tx : Transaction}
  {block : List Entry}

/-- The node pays for a channel that it opens, and for the fee.  Both together are what the wallet
has recorded. -/
theorem by_us (h : OpensBy true priceAt channel tx block) (hamount : tx.amount < 0)
    (hfee : 0 ≤ tx.fee) :
    block.map (·.kind) = [.localChannelOpen, .channelOpenFee] ∧
      block.map Entry.signedAmount = [1000 * (tx.amount + tx.fee), -(1000 * tx.fee)] ∧
      Amount.total (block.map Entry.signedAmount) = 1000 * tx.amount := by
  obtain ⟨category, h⟩ := h
  have hmoved := Transaction.moved_of_payment hamount hfee
  have hamounts : block.map Entry.signedAmount =
      [1000 * (tx.amount + tx.fee), -(1000 * tx.fee)] := by
    rw [Draft.map_signedAmount_eq h]
    show [Amount.ofSats tx.moved, Amount.ofSpentSats tx.fee] = _
    rw [hmoved, Amount.ofSats, Amount.ofSpentSats, mul_comm, mul_neg, mul_comm tx.fee]
  refine ⟨Draft.map_kind_eq h, hamounts, ?_⟩
  rw [hamounts]
  simp only [Amount.total, List.foldr_cons, List.foldr_nil]
  omega

/-- What the peer opens costs the node nothing. -/
theorem by_peer (h : OpensBy false priceAt channel tx block) :
    block.map (·.kind) = [.remoteChannelOpen] ∧ block.map Entry.signedAmount = [0] := by
  obtain ⟨category, h⟩ := h
  exact ⟨Draft.map_kind_eq h, Draft.map_signedAmount_eq h⟩

end Entry.OpensBy

/-! ## Inferred openers -/

/-- It is not recorded that the node, or that its peer, has opened a channel. -/
def ClosedChannel.OpenerUnknown (channel : ClosedChannel) : Prop :=
  channel.openInitiator ≠ .us ∧ channel.openInitiator ≠ .peer

/-- The node counts as the opener of such a channel just if the transaction, without its fee, still
takes something out of the wallet. -/
theorem ClosedChannel.openedByUs_of_unknown {channel : ClosedChannel} (h : channel.OpenerUnknown)
    {tx : Transaction} (hamount : tx.amount < 0) (hfee : 0 ≤ tx.fee) :
    channel.openedByUs { tx with amount := tx.moved } = decide (tx.amount + tx.fee < 0) := by
  have hmoved := Transaction.moved_of_payment hamount hfee
  have hsign : Amount.ofSats tx.moved < 0 ↔ tx.amount + tx.fee < 0 := by
    unfold Amount.ofSats
    omega
  unfold openedByUs
  cases hinitiator : channel.openInitiator with
  | us => exact absurd hinitiator h.1
  | peer => exact absurd hinitiator h.2
  | unknown | both => simp only [hsign]

/-- What a transaction that has funded a closed channel is recorded as. -/
theorem ChannelHistory.Yields.opensBy {history : ChannelHistory} {context : EntryContext}
    {sweeps : List Key} {tx kept : Transaction} {block : List Entry} {channel : ClosedChannel}
    (hkept : tx.withoutFee sweeps = .ok kept) (h : history.Yields context kept block)
    (hrole : history.roleOf tx.txid = .ok (.opened channel)) :
    Entry.OpensBy (channel.openedByUs { tx with amount := tx.moved }) context.priceAt channel tx
      block := by
  obtain ⟨rfl, -⟩ := Transaction.withoutFee_eq_ok hkept
  obtain ⟨role, closingFee, made, hok, -, hmade, hbecome⟩ := h
  cases hrole.symm.trans hok
  obtain ⟨category, -, hdrafts⟩ := bind_eq_ok_iff.mp hmade
  cases hdrafts
  exact ⟨category, hbecome⟩

/-- What is recorded of a payment that has funded a channel whose opener is not recorded. -/
structure ClosedChannel.InfersOpener (channel : ClosedChannel)
    (priceAt : Int → Except Failure Price) (tx : Transaction) (block : List Entry) : Prop where
  opensBy : Entry.OpensBy (decide (tx.amount + tx.fee < 0)) priceAt channel tx block
  /-- If more than the fee is paid, nothing of it disappears. -/
  by_us : tx.amount + tx.fee < 0 →
    block.map (·.kind) = [.localChannelOpen, .channelOpenFee] ∧
      block.map Entry.signedAmount = [1000 * (tx.amount + tx.fee), -(1000 * tx.fee)] ∧
      Amount.total (block.map Entry.signedAmount) = 1000 * tx.amount
  /-- If no more than the fee is paid, all of it does. -/
  by_peer : 0 ≤ tx.amount + tx.fee →
    block.map (·.kind) = [.remoteChannelOpen] ∧ block.map Entry.signedAmount = [0]

/-- A block that records the opening by the one who counts as the opener. -/
theorem ClosedChannel.infersOpener_of_opensBy {channel : ClosedChannel}
    {priceAt : Int → Except Failure Price} {tx : Transaction} {block : List Entry}
    (h : Entry.OpensBy (decide (tx.amount + tx.fee < 0)) priceAt channel tx block)
    (hamount : tx.amount < 0) (hfee : 0 ≤ tx.fee) : channel.InfersOpener priceAt tx block where
  opensBy := h
  by_us hpaid := by
    rw [decide_eq_true hpaid] at h
    exact h.by_us hamount hfee
  by_peer hpaid := by
    rw [decide_eq_false (Int.not_lt.mpr hpaid)] at h
    exact h.by_peer

/-! ## Reports -/

/-- A report on chain has one block for each transaction of the period.  If the transaction is a
payment that has funded a closed channel whose opener is not recorded, the channel counts as opened
by the node just if the payment is more than its fee. -/
theorem OnChainSource.report_infers_opener {source : OnChainSource} {unconfirmedAsNow : Bool}
    {period : Period} {context : EntryContext} {s t : Session} {entries : List Entry}
    (h : Ends (source.report unconfirmedAsNow period context) s entries t) :
    ∃ listed s₁ swept s₂ keys line blocks,
      Ends source.transactions s listed s₁ ∧ Ends source.sweeps s₁ swept s₂ ∧
      swept.mapM Value.key = .ok keys ∧ entries = blocks.flatten ∧
      Forall₂ (fun tx block => ∃ history fees,
          source.MatchesBy context keys.eraseDups (s₂.write line) history fees ∧
          ∀ channel, history.roleOf tx.txid = .ok (.opened channel) → channel.OpenerUnknown →
            tx.amount < 0 → 0 ≤ tx.fee → channel.InfersOpener context.priceAt tx block)
        (Transaction.during period (if unconfirmedAsNow then some s₂.now else none) listed)
        blocks := by
  obtain ⟨selection, s₃, blocks, hselection, hentries, hblocks⟩ := blocks_of_ends_report h
  obtain ⟨listed, s₁, swept, s₂, keys, line, hlisted, hswept, hkeys, hsweeps, hselect, rfl⟩ :=
    ends_selection hselection
  refine ⟨listed, s₁, swept, s₂, keys, line, blocks, hlisted, hswept, hkeys, hentries, ?_⟩
  refine forall₂_trans (mapM_eq_ok_iff.mp hselect) hblocks ?_
  rintro tx kept block hkept ⟨history, fees, hmatches, hyields⟩
  rw [hsweeps] at hmatches
  refine ⟨history, fees, hmatches, fun channel hrole hunknown hamount hfee => ?_⟩
  have hopens := hyields.opensBy hkept hrole
  obtain ⟨_, _, _, -, hfees⟩ := hmatches
  rw [ClosedChannel.openedByUs_of_unknown hunknown hamount hfee, (ends_withFees hfees).1] at hopens
  exact ClosedChannel.infersOpener_of_opensBy hopens hamount hfee

/-- The id of the only transaction of the wallet that pays a fee. -/
def feeTxid : String :=
  String.ofList (List.replicate 64 'f')

/-- A wallet with one transaction, which has funded a channel that is closed.  It is not recorded who
has opened the channel. -/
def feeWallet (amount : Int) : NodeRecords where
  transactions := [{ txid := .text feeTxid, amount, fee := 500, timestamp := 100 }]
  closedChannels := [
    { channelPoint := .text (feeTxid ++ ":0"), channelId := .text "1x1x0",
      remotePubkey := .text "peer", capacity := 5000, closingTxid := .text "close",
      openInitiator := .unknown }]

/-- The transaction of this wallet has funded the channel. -/
theorem roleOf_feeWallet :
    ∃ history t, Ends ((feeWallet (-500)).onChain.history []) {} history t ∧
      ∃ channel, history.roleOf (.text feeTxid) = .ok (.opened channel) ∧
        channel.OpenerUnknown := by
  refine ⟨_, _, rfl, _, rfl, ?_⟩
  exact ⟨by simp, by simp⟩

/-- A payment of no more than its fee disappears: the channel that it has funded counts as opened by
the peer, and nothing adds up to what the wallet has recorded. -/
theorem report_infers_peer_feeWallet :
    (∃ history t, Ends ((feeWallet (-500)).onChain.history []) {} history t ∧
      ∃ channel, history.roleOf (.text feeTxid) = .ok (.opened channel) ∧
        channel.OpenerUnknown) ∧
    ∃ entries t, Ends ((feeWallet (-500)).onChain.report false ⟨0, 1000⟩
        { priceAt := fun _ => .ok (Price.nothing none) }) {} entries t ∧
      entries.map (fun entry => (entry.kind, entry.signedAmount)) = [(.remoteChannelOpen, 0)] ∧
      Amount.total (entries.map Entry.signedAmount) ≠ 1000 * (-500) := by
  obtain ⟨entries, hends, hentries⟩ : ∃ entries, Ends ((feeWallet (-500)).onChain.report false
      ⟨0, 1000⟩ { priceAt := fun _ => .ok (Price.nothing none) }) {} entries _ ∧
      entries.map (fun entry => (entry.kind, entry.signedAmount)) = [(.remoteChannelOpen, 0)] :=
    exists_ends_of_outcome (by decide +kernel)
  have hamounts : entries.map Entry.signedAmount = [0] := by
    have hsecond := congrArg (List.map Prod.snd) hentries
    rwa [List.map_map] at hsecond
  refine ⟨roleOf_feeWallet, entries, _, hends, hentries, ?_⟩
  rw [hamounts]
  decide

/-- With one satoshi more the payment is recorded, and so is its fee. -/
theorem report_infers_us_feeWallet :
    let context : EntryContext := { priceAt := fun _ => .ok (Price.nothing none) }
    let source := (feeWallet (-501)).onChain
    ∃ entries t, Ends (source.report false ⟨0, 1000⟩ context) {} entries t ∧
      entries.map (fun entry => (entry.kind, entry.signedAmount)) =
        [(.localChannelOpen, -1000), (.channelOpenFee, -500000)] ∧
      ∃ listed s₁ swept s₂ keys line blocks,
        Ends source.transactions {} listed s₁ ∧ Ends source.sweeps s₁ swept s₂ ∧
        swept.mapM Value.key = .ok keys ∧ entries = blocks.flatten ∧
        Forall₂ (fun tx block => ∃ history fees,
            source.MatchesBy context keys.eraseDups (s₂.write line) history fees ∧
            ∀ channel, history.roleOf tx.txid = .ok (.opened channel) → channel.OpenerUnknown →
              tx.amount < 0 → 0 ≤ tx.fee → channel.InfersOpener context.priceAt tx block)
          (Transaction.during ⟨0, 1000⟩ none listed) blocks := by
  intro context source
  refine (exists_ends_of_outcome ?_).imp fun entries h =>
    ⟨_, h.1, h.2, OnChainSource.report_infers_opener h.1⟩
  decide +kernel

end NodeLedger
