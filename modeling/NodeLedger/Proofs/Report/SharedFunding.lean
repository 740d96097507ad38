import NodeLedger.Proofs.Report.Block
import NodeLedger.Proofs.Report.History
import NodeLedger.Report.Records

/-!
# Transactions that fund several channels

The amount and the fee of a transaction that funds several channels cannot be divided among them.
Whether a transaction belongs to several channels is looked up among the open channels first, and
only if it belongs to none of these among the closed ones.  So a transaction that funds one open
channel and some closed ones is not refused: it counts as the opening of the open one alone.

Main results:

- Theorem `ChannelHistory.roleOf_of_fundsSeveral`: what a transaction that funds several channels
  does, by how many of them are open.
- Theorem `OnChainSource.report_of_fundsSeveral`: there is no report unless exactly one of the
  channels is open, and if one is, a report has the whole amount and fee under that channel.
- Theorem `OnChainSource.report_of_sharedWallet`: there are such reports.
-/

namespace NodeLedger

open List NodeLedger.Action

/-- The channel points that a transaction has funded, those of open channels first. -/
def fundedPoints (opens : List OpenChannel) (closeds : List ClosedChannel) (key : Key) :
    List Value :=
  (opens.filter (·.isFundedBy key)).map (·.channelPoint) ++
    (closeds.filter (·.isFundedBy key)).map (·.channelPoint)

/-- A transaction has funded at least two channels with different channel points. -/
def FundsSeveral (opens : List OpenChannel) (closeds : List ClosedChannel) (key : Key) : Prop :=
  ∃ p q, p ∈ fundedPoints opens closeds key ∧ q ∈ fundedPoints opens closeds key ∧ p ≠ q

/-- A transaction that has funded several channels, none of them open, has funded several closed
ones. -/
theorem FundsSeveral.several_closed {opens : List OpenChannel} {closeds : List ClosedChannel}
    {key : Key} (h : FundsSeveral opens closeds key)
    (hnone : opens.filter (·.isFundedBy key) = []) :
    ∃ a b rest, closeds.filter (·.isFundedBy key) = a :: b :: rest := by
  obtain ⟨p, q, hp, hq, hpq⟩ := h
  unfold fundedPoints at hp hq
  rw [hnone] at hp hq
  rcases hclosed : closeds.filter (·.isFundedBy key) with _ | ⟨a, _ | ⟨b, rest⟩⟩
  · rw [hclosed] at hp
    exact absurd hp List.not_mem_nil
  · rw [hclosed] at hp hq
    have hpa : p = a.channelPoint := List.mem_singleton.mp hp
    have hqa : q = a.channelPoint := List.mem_singleton.mp hq
    exact absurd (hpa.trans hqa.symm) hpq
  · exact ⟨a, b, rest, hclosed⟩

/-- What a transaction that has funded several channels does.  If exactly one of them is open, it
opens that one, and the closed ones are not looked at; else it is refused. -/
theorem ChannelHistory.roleOf_of_fundsSeveral {history : ChannelHistory}
    {opens : List OpenChannel} {closeds : List ClosedChannel} {txid : Value} {key : Key}
    (hkey : txid.key = .ok key)
    (hcurrent : history.current.channels key = opens.filter (·.isFundedBy key))
    (hopened : history.opened.channels key = closeds.filter (·.isFundedBy key))
    (hseveral : FundsSeveral opens closeds key) :
    history.roleOf txid =
      match opens.filter (·.isFundedBy key) with
      | [channel] => .ok (.opens channel)
      | _ => .error (.data (.batchedTransaction txid.display)) := by
  have hlookup := history.current.lookup_eq hkey
  rw [hcurrent] at hlookup
  unfold roleOf
  rw [hlookup]
  rcases hopens : opens.filter (·.isFundedBy key) with _ | ⟨channel, _ | ⟨other, rest⟩⟩
  · -- No channel is open, so that several are closed.
    obtain ⟨a, b, rest, hclosed⟩ := hseveral.several_closed hopens
    have hlookupClosed := history.opened.lookup_eq hkey
    rw [hopened, hclosed] at hlookupClosed
    rw [hopens]
    show (history.opened.lookup txid >>= _) = _
    rw [hlookupClosed]
    rfl
  · rw [hopens]
    rfl
  · rw [hopens]
    rfl

namespace OnChainSource

variable {source : OnChainSource} {unconfirmedAsNow : Bool} {period : Period}
  {context : EntryContext} {selection : Selection} {s s₁ s₂ s₃ : Session}
  {opens : List OpenChannel} {closeds : List ClosedChannel} {tx : Transaction} {key : Key}

/-- What is listed is what the channels of a node are made of. -/
theorem roleOf_of_listed (hopens : Ends source.openChannels s₁ opens s₂)
    (hcloseds : Ends source.closedChannels s₂ closeds s₃) (hkey : tx.txid.key = .ok key)
    (hseveral : FundsSeveral opens closeds key) {sweeps : List Key} {history : ChannelHistory}
    {t : Session} (hhistory : Ends (source.history sweeps) s₁ history t) :
    history.roleOf tx.txid =
      match opens.filter (·.isFundedBy key) with
      | [channel] => .ok (.opens channel)
      | _ => .error (.data (.batchedTransaction tx.txid.display)) := by
  obtain ⟨opens', _, closeds', hopens', hcloseds', -, hchannels⟩ := ends_history hhistory
  obtain ⟨rfl, rfl⟩ := hopens.unique hopens'
  obtain ⟨rfl, rfl⟩ := hcloseds.unique hcloseds'
  obtain ⟨hcurrent, hopened, -⟩ := hchannels key
  exact ChannelHistory.roleOf_of_fundsSeveral hkey hcurrent hopened hseveral

/-- A selected transaction has a block in the report, by what the transaction does. -/
theorem exists_block (hselection : Ends (source.selection unconfirmedAsNow period) s selection s₁)
    (htx : tx ∈ selection.kept) {entries : List Entry} {t : Session}
    (h : Ends (source.report unconfirmedAsNow period context) s entries t) :
    ∃ block history fees, block <:+: entries ∧
      source.MatchesBy context selection.sweeps s₁ history fees ∧
      history.Yields fees tx block := by
  obtain ⟨selection', s₁', blocks, hselection', rfl, hblocks⟩ := blocks_of_ends_report h
  obtain ⟨rfl, rfl⟩ := hselection.unique hselection'
  obtain ⟨block, hblock, history, fees, hmatches, hyields⟩ := exists_of_mem_right hblocks.flip htx
  exact ⟨block, history, fees, List.infix_of_mem_flatten hblock, hmatches, hyields⟩

/-- A selected transaction that has funded several channels.  It opens the open one among them if
there is exactly one, and is refused else; there is no report in which it is refused.  In a report,
the open one has the whole amount and fee of the transaction. -/
theorem report_of_fundsSeveral
    (hselection : Ends (source.selection unconfirmedAsNow period) s selection s₁)
    (hopens : Ends source.openChannels s₁ opens s₂)
    (hcloseds : Ends source.closedChannels s₂ closeds s₃)
    (htx : tx ∈ selection.kept) (hkey : tx.txid.key = .ok key)
    (hseveral : FundsSeveral opens closeds key) :
    (∀ history t, Ends (source.history selection.sweeps) s₁ history t →
      history.roleOf tx.txid =
        match opens.filter (·.isFundedBy key) with
        | [channel] => .ok (.opens channel)
        | _ => .error (.data (.batchedTransaction tx.txid.display))) ∧
    ((opens.filter (·.isFundedBy key)).length ≠ 1 → ∀ entries t,
      ¬ Ends (source.report unconfirmedAsNow period context) s entries t) ∧
    (∀ channel entries t, opens.filter (·.isFundedBy key) = [channel] →
      Ends (source.report unconfirmedAsNow period context) s entries t →
      ∃ block category, block <:+: entries ∧
        Forall₂ (Draft.Becomes context.priceAt)
          (openDrafts category channel.channelId channel.remotePubkey channel.capacity
            channel.openedByUs tx) block) := by
  refine ⟨fun _ _ => roleOf_of_listed hopens hcloseds hkey hseveral, ?_, ?_⟩
  · intro hlength entries t h
    obtain ⟨block, history, fees, -, ⟨_, _, _, hhistory, -⟩, hyields⟩ :=
      exists_block hselection htx h
    obtain ⟨role, -, -, hok, -⟩ := hyields
    have hroleOf := roleOf_of_listed hopens hcloseds hkey hseveral hhistory
    rw [hok] at hroleOf
    rcases hfunded : opens.filter (·.isFundedBy key) with _ | ⟨channel, _ | ⟨other, rest⟩⟩
    · rw [hfunded] at hroleOf
      cases hroleOf
    · rw [hfunded] at hlength
      exact hlength rfl
    · rw [hfunded] at hroleOf
      cases hroleOf
  · intro channel entries t hfunded h
    obtain ⟨block, history, fees, hblock, ⟨_, _, _, hhistory, hfees⟩, hyields⟩ :=
      exists_block hselection htx h
    obtain ⟨role, closingFee, made, hok, -, hmade, hbecome⟩ := hyields
    have hroleOf := roleOf_of_listed hopens hcloseds hkey hseveral hhistory
    rw [hok, hfunded] at hroleOf
    cases hroleOf
    obtain ⟨category, -, hdrafts⟩ := bind_eq_ok_iff.mp hmade
    cases hdrafts
    rw [(ends_withFees hfees).1] at hbecome
    exact ⟨block, category, hblock, hbecome⟩

end OnChainSource

/-- The id of the transaction of the shared wallet. -/
def sharedTxid : String :=
  String.ofList (List.replicate 64 'a')

/-- A wallet with one transaction, which has funded a channel that is open and one that is
closed. -/
def sharedWallet : NodeRecords where
  transactions := [{ txid := .text sharedTxid, amount := -150000, fee := 500, timestamp := 1000 }]
  openChannels := [
    { channelPoint := .text (sharedTxid ++ ":0"), channelId := .text "1x1x0",
      remotePubkey := .text "peer", capacity := 100000, openedByUs := true }]
  closedChannels := [
    { channelPoint := .text (sharedTxid ++ ":1"), channelId := .text "1x1x1",
      remotePubkey := .text "other peer", capacity := 49500, closingTxid := .text "close",
      openInitiator := .us }]

/-- What is selected of the shared wallet is its transaction, without the fee. -/
theorem selection_sharedWallet :
    Ends (sharedWallet.onChain.selection false ⟨0, 2000⟩) {}
      ⟨[], [{ txid := .text sharedTxid, amount := -149500, fee := 500, timestamp := 1000 }]⟩
      (Session.write {} ⟨.info, "Retrieved: 1 on chain transactions, 1 filtered"⟩) := by
  rfl

/-- The transaction of the shared wallet has funded both channels. -/
theorem fundsSeveral_sharedWallet :
    FundsSeveral sharedWallet.openChannels sharedWallet.closedChannels (.text sharedTxid) := by
  have hopen : sharedWallet.openChannels.filter (·.isFundedBy (.text sharedTxid)) =
      sharedWallet.openChannels :=
    List.filter_eq_self.mpr (by decide +kernel)
  have hclosed : sharedWallet.closedChannels.filter (·.isFundedBy (.text sharedTxid)) =
      sharedWallet.closedChannels :=
    List.filter_eq_self.mpr (by decide +kernel)
  refine ⟨.text (sharedTxid ++ ":0"), .text (sharedTxid ++ ":1"), ?_, ?_, ?_⟩
  · unfold fundedPoints
    rw [hopen]
    exact List.mem_append_left _ List.mem_cons_self
  · unfold fundedPoints
    rw [hclosed]
    exact List.mem_append_right _ List.mem_cons_self
  · intro h
    have htexts : sharedTxid ++ ":0" = sharedTxid ++ ":1" := Value.text.inj h
    revert htexts
    decide +kernel

/-- There is a report of the shared wallet, although its transaction has funded several channels: it
has the whole amount and fee under the open one. -/
theorem report_of_sharedWallet :
    ∃ selection s₁ tx entries t,
      Ends (sharedWallet.onChain.selection false ⟨0, 2000⟩) {} selection s₁ ∧
      tx ∈ selection.kept ∧ tx.txid = .text sharedTxid ∧
      FundsSeveral sharedWallet.openChannels sharedWallet.closedChannels (.text sharedTxid) ∧
      Ends (sharedWallet.onChain.report false ⟨0, 2000⟩
        { priceAt := fun _ => .ok (Price.nothing none) }) {} entries t ∧
      entries.map (fun entry => (entry.kind, entry.signedAmount)) =
        [(.localChannelOpen, -149500000), (.channelOpenFee, -500000)] := by
  refine ⟨_, _, _, (exists_ends_of_outcome ?_).imp fun entries h =>
    ⟨_, selection_sharedWallet, List.mem_cons_self, rfl, fundsSeveral_sharedWallet, h.1, h.2⟩⟩
  decide +kernel

/-- The only transaction of the shared wallet opens the open channel. -/
theorem report_of_fundsSeveral_sharedWallet :
    let context : EntryContext := { priceAt := fun _ => .ok (Price.nothing none) }
    let tx : Transaction :=
      { txid := .text sharedTxid, amount := -149500, fee := 500, timestamp := 1000 }
    let s₁ := Session.write {} ⟨.info, "Retrieved: 1 on chain transactions, 1 filtered"⟩
    let funded := sharedWallet.openChannels.filter (·.isFundedBy (.text sharedTxid))
    (∀ history t, Ends (sharedWallet.onChain.history []) s₁ history t →
      history.roleOf tx.txid =
        match funded with
        | [channel] => .ok (.opens channel)
        | _ => .error (.data (.batchedTransaction tx.txid.display))) ∧
    (funded.length ≠ 1 → ∀ entries t,
      ¬ Ends (sharedWallet.onChain.report false ⟨0, 2000⟩ context) {} entries t) ∧
    (∀ channel entries t, funded = [channel] →
      Ends (sharedWallet.onChain.report false ⟨0, 2000⟩ context) {} entries t →
      ∃ block category, block <:+: entries ∧
        Forall₂ (Draft.Becomes context.priceAt)
          (openDrafts category channel.channelId channel.remotePubkey channel.capacity
            channel.openedByUs tx) block) :=
  OnChainSource.report_of_fundsSeveral selection_sharedWallet (ends_pure.mpr ⟨rfl, rfl⟩)
    (ends_pure.mpr ⟨rfl, rfl⟩) List.mem_cons_self rfl fundsSeveral_sharedWallet

end NodeLedger
