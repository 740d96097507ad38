import NodeLedger.Proofs.Node.Memory
import NodeLedger.Proofs.Report.Opening
import NodeLedger.Proofs.Report.Reordered

/-!
# The funding of channels that the node lists

The node lists channels that are open and channels that have been closed.  A report knows all open
ones, and of the closed ones those whose closing transaction can be found; a closed channel whose
closing transaction is unknown is left out, and then the transaction that funded it looks like any
other one.

Main results:

- Theorem `ChannelPoint.txid_eq`: the transaction of a channel point is the one it is made of.
- Definition `Channel.FundsListed`: a transaction funds a channel that the node lists, and of which
  a report knows.
- Theorem `Node.funding_recorded`: such a transaction is recorded as the opening of a channel, and
  as nothing else.
- Theorem `Node.funding_recorded_fails`: one that funds a channel whose closing is unknown is not.
-/

namespace NodeLedger

open List NodeLedger.Action

/-! ## Channel points -/

/-- A text that is not parted by a separator is its only part. -/
theorem eq_of_splitOnP_eq_singleton {α : Type} [BEq α] [LawfulBEq α] {sep : α} {items part : List α}
    (h : items.splitOnP (· == sep) = [part]) : part = items := by
  have hjoined : [sep].intercalate (items.splitOn sep) = items := List.intercalate_splitOn sep
  have hsplit : items.splitOn sep = [part] := h
  rw [hsplit] at hjoined
  simpa [List.intercalate] using hjoined

/-- The transaction of a channel point is the one of which the channel point is made. -/
theorem ChannelPoint.txid_eq {id index found : String}
    (h : ChannelPoint.txid (Wallet.outpoint id index) = .ok found) : found = id := by
  have hlist : (Wallet.outpoint id index).toList = id.toList ++ ':' :: index.toList := by
    simp [Wallet.outpoint, String.toList_append]
  have hparts : ChannelPoint.parts (Wallet.outpoint id index) =
      id.toList.splitOnP (· == ':') ++ index.toList.splitOnP (· == ':') := by
    unfold ChannelPoint.parts
    rw [hlist, List.splitOnP_append_cons _ _ (by decide)]
  obtain ⟨first, more, hid⟩ :=
    List.exists_cons_of_ne_nil (List.splitOnP_ne_nil (· == ':') id.toList)
  obtain ⟨last, rest, hindex⟩ :=
    List.exists_cons_of_ne_nil (List.splitOnP_ne_nil (· == ':') index.toList)
  unfold ChannelPoint.txid at h
  rw [hparts, hid, hindex] at h
  -- More than two parts are refused, so that neither text has a colon of its own.
  cases more with
  | cons _ _ => cases rest <;> simp at h
  | nil =>
    cases rest with
    | cons _ _ => simp at h
    | nil =>
      have hfirst : first = id.toList := eq_of_splitOnP_eq_singleton hid
      simp only [List.cons_append, List.nil_append] at h
      split at h
      · cases h
      · split at h
        · cases h
          rw [hfirst, String.ofList_toList]
        · cases h

/-- A channel with the channel point of a transaction, whether it is open or closed, is funded by
it. -/
theorem ChannelPoint.funds_of_outpoint {point : Value} {id index : String} {key : Key}
    (hpoint : point = .text (Wallet.outpoint id index))
    (hkey : Key.text <$> txidOf point = .ok key) :
    ((Key.text <$> txidOf point).toOption == some (.text id)) = true := by
  cases hfound : txidOf point with
  | error failure =>
    rw [hfound] at hkey
    cases hkey
  | ok found =>
    rw [hpoint] at hfound
    rw [txid_eq hfound]
    exact beq_self_eq_true _

/-- The channels of a history can all be put under the transactions that funded them. -/
theorem OnChainSource.fundingKeys_of_ends {source : OnChainSource} {sweeps : List Key}
    {s s₁ t : Session} {history : ChannelHistory} {opens : List OpenChannel}
    {closeds : List ClosedChannel} (h : Ends (source.history sweeps) s history t)
    (hopens : Ends source.openChannels s opens s₁)
    (hcloseds : Ends source.closedChannels s₁ closeds t) :
    (∀ channel ∈ opens, ∃ key, channel.fundingKey = .ok key) ∧
      ∀ channel ∈ closeds, ∃ key, channel.fundingKey = .ok key := by
  unfold OnChainSource.history at h
  simp only [ends_bind, ends_foldlM_lift] at h
  obtain ⟨opens', _, hopens', current, _, ⟨hcurrent, rfl⟩, closeds', _, hcloseds', hclosed, rfl⟩ :=
    h
  obtain ⟨rfl, rfl⟩ := hopens.unique hopens'
  obtain ⟨rfl, -⟩ := hcloseds.unique hcloseds'
  have hopen := (exists_foldlM_eq_ok_iff fun _ channel =>
    ChannelHistory.exists_addOpen_iff channel).mp ⟨current, hcurrent⟩
  have hboth := (exists_foldlM_eq_ok_iff fun _ channel =>
    ChannelHistory.exists_addClosed_iff channel).mp ⟨history, hclosed⟩
  exact ⟨hopen, fun channel hchannel => (hboth channel hchannel).1⟩

/-! ## Channels that are listed -/

namespace Channel

variable {channel : Value} {id : String}

/-- The outpoint that funds a channel is one of the transaction that is listed. -/
theorem fundingOutpoint_eq {found : Option String}
    (hfunding : channel.field "funding_txid" = .ok (.text id)) (hid : id ≠ "")
    (h : fundingOutpoint channel = .ok found) :
    ∃ index, found = some (Wallet.outpoint id index) := by
  obtain ⟨txid, htxid, h⟩ := bind_eq_ok_iff.mp h
  obtain rfl : txid = .text id := Except.ok.inj (htxid.symm.trans hfunding)
  have htruthy : (Value.text id).truthy = true := by simp [Value.truthy, hid]
  simp only [htruthy, Bool.not_true, Bool.false_eq_true, if_false] at h
  obtain ⟨index, -, hreturn⟩ := bind_eq_ok_iff.mp h
  cases hreturn
  exact ⟨index.display, rfl⟩

/-- An open channel that is listed with its funding is read with it. -/
theorem readOpen_eq {found : Option OpenChannel}
    (hfunding : channel.field "funding_txid" = .ok (.text id)) (hid : id ≠ "")
    (h : readOpen channel = .ok found) :
    ∃ opened index, found = some opened ∧
      opened.channelPoint = .text (Wallet.outpoint id index) := by
  obtain ⟨outpoint, houtpoint, h⟩ := bind_eq_ok_iff.mp h
  obtain ⟨index, rfl⟩ := fundingOutpoint_eq hfunding hid houtpoint
  obtain ⟨channelId, -, h⟩ := bind_eq_ok_iff.mp h
  obtain ⟨peer, -, h⟩ := bind_eq_ok_iff.mp h
  obtain ⟨capacity, -, h⟩ := bind_eq_ok_iff.mp h
  obtain ⟨opener, -, hreturn⟩ := bind_eq_ok_iff.mp h
  cases hreturn
  exact ⟨_, index, rfl, rfl⟩

/-- A closed channel with a known closing is found. -/
theorem findClosed_eq {closings : Table Key Value} {outpoint : String} {closing : Value}
    {found : Option ClosedChannel} {s t : Session}
    (houtpoint : fundingOutpoint channel = .ok (some outpoint))
    (hclosing : closings.get? (.text outpoint) = some closing) (htruthy : closing.truthy = true)
    (h : Ends (findClosed closings channel) s found t) :
    ∃ closed, found = some closed ∧ closed.channelPoint = .text outpoint := by
  unfold findClosed at h
  simp only [ends_bind, ends_lift, houtpoint] at h
  obtain ⟨_, _, ⟨hsome, rfl⟩, h⟩ := h
  cases hsome
  simp only [hclosing, Option.getD_some, htruthy, Bool.not_true, Bool.false_eq_true, if_false,
    ends_bind, ends_lift, ends_pure] at h
  obtain ⟨closed, _, ⟨hclosed, rfl⟩, rfl, rfl⟩ := h
  refine ⟨closed, rfl, ?_⟩
  unfold readClosed at hclosed
  obtain ⟨channelId, -, hclosed⟩ := bind_eq_ok_iff.mp hclosed
  obtain ⟨closeType, -, hclosed⟩ := bind_eq_ok_iff.mp hclosed
  obtain ⟨peer, -, hclosed⟩ := bind_eq_ok_iff.mp hclosed
  obtain ⟨capacity, -, hclosed⟩ := bind_eq_ok_iff.mp hclosed
  obtain ⟨balance, -, hclosed⟩ := bind_eq_ok_iff.mp hclosed
  obtain ⟨opener, -, hclosed⟩ := bind_eq_ok_iff.mp hclosed
  obtain ⟨closer, -, hreturn⟩ := bind_eq_ok_iff.mp hclosed
  cases hreturn
  rfl

/-- A transaction funds a channel that the node lists as open. -/
def FundsOpen (node : String → Value → Except Value Value) (id : String) : Prop :=
  ∃ channels channel, listedOpen node = .ok channels ∧ channel ∈ channels ∧
    channel.field "funding_txid" = .ok (.text id)

/-- A transaction funds a channel that the node lists as closed. -/
def FundsClosed (node : String → Value → Except Value Value) (id : String) (channel : Value) :
    Prop :=
  ∃ channels, listedClosed node = .ok channels ∧ channel ∈ channels ∧
    channel.field "funding_txid" = .ok (.text id)

/-- The transaction that closed a channel is known: among the closings that the bookkeeper has
recorded if it answers, or else among the transactions of the wallet, there is one that spends the
outpoint of the channel. -/
def ClosingKnown (node : String → Value → Except Value Value) (channel : Value) : Prop :=
  ∃ closings outpoint closing, listedClosings node = .ok closings ∧
    fundingOutpoint channel = .ok (some outpoint) ∧
    closings.get? (.text outpoint) = some closing ∧ closing.truthy = true

/-- A transaction funds a channel that the node lists, and of which a report knows. -/
def FundsListed (node : String → Value → Except Value Value) (id : String) : Prop :=
  FundsOpen node id ∨ ∃ channel, FundsClosed node id channel ∧ ClosingKnown node channel

end Channel

namespace Node

variable {node : String → Value → Except Value Value} {now : Int} {id : String} {s t : Session}

/-- An open channel that is listed is among the open channels of a report. -/
theorem exists_open_of_listed (hs : (Situation.ofNode node now).holds s) (hid : id ≠ "")
    (hfunds : Channel.FundsOpen node id) {opens : List OpenChannel}
    (h : Ends Channel.openChannels s opens t) :
    ∃ channel ∈ opens, ∃ index, channel.channelPoint = .text (Wallet.outpoint id index) := by
  obtain ⟨channels, listed, hchannels, hlisted, hfunding⟩ := hfunds
  have hread := Channel.reads_openChannels.eq_ok s opens t hs h
  obtain ⟨result, hresult, hread⟩ := bind_eq_ok_iff.mp hread
  obtain ⟨items, hitems, hread⟩ := bind_eq_ok_iff.mp hread
  obtain ⟨read, hmapM, hreturn⟩ := bind_eq_ok_iff.mp hread
  have hsame : Channel.listedOpen node = .ok items :=
    bind_eq_ok_iff.mpr ⟨result, hresult, hitems⟩
  obtain rfl : channels = items := Except.ok.inj (hchannels.symm.trans hsame)
  obtain ⟨found, hfound, hone⟩ := exists_of_mem_right (mapM_eq_ok_iff.mp hmapM).flip hlisted
  obtain ⟨channel, index, rfl, hpoint⟩ := Channel.readOpen_eq hfunding hid hone
  cases hreturn
  exact ⟨channel, List.mem_filterMap.mpr ⟨_, hfound, rfl⟩, index, hpoint⟩

/-- A closed channel that is listed and has a known closing is among the closed channels of a
report. -/
theorem exists_closed_of_listed (hs : (Situation.ofNode node now).holds s) (hid : id ≠ "")
    {listed : Value} (hfunds : Channel.FundsClosed node id listed)
    (hknown : Channel.ClosingKnown node listed) {closeds : List ClosedChannel}
    (h : Ends Channel.closedChannels s closeds t) :
    ∃ channel ∈ closeds, ∃ index, channel.channelPoint = .text (Wallet.outpoint id index) := by
  obtain ⟨channels, hchannels, hlisted, hfunding⟩ := hfunds
  obtain ⟨closings, outpoint, closing, hclosings, houtpoint, hclosing, htruthy⟩ := hknown
  unfold Channel.closedChannels at h
  obtain ⟨closings', s₁, hclosings', h⟩ := ends_bind.mp h
  obtain ⟨channels', s₂, hchannels', h⟩ := ends_bind.mp h
  obtain ⟨found, s₃, hfound, h⟩ := ends_bind.mp h
  obtain ⟨rfl, -⟩ := ends_pure.mp h
  have hs₁ := Channel.reads_closings.steady.holds hs hclosings'
  have hreadClosings := Channel.reads_closings.eq_ok s closings' s₁ hs hclosings'
  have hreadChannels := Channel.reads_closed.eq_ok s₁ channels' s₂ hs₁ hchannels'
  obtain rfl : closings' = closings := Except.ok.inj (hreadClosings.symm.trans hclosings)
  obtain rfl : channels' = channels := Except.ok.inj (hreadChannels.symm.trans hchannels)
  obtain ⟨one, hone, _, _, hends⟩ := exists_of_mem_right hfound.mapM.flip hlisted
  obtain ⟨channel, rfl, hpoint⟩ := Channel.findClosed_eq houtpoint hclosing htruthy hends
  obtain ⟨index, hindex⟩ := Channel.fundingOutpoint_eq hfunding hid houtpoint
  cases hindex
  exact ⟨channel, List.mem_filterMap.mpr ⟨_, hone, rfl⟩, index, hpoint⟩

/-- A history has a channel under a transaction that funds one of which a report knows. -/
theorem funded_of_listed (hs : (Situation.ofNode node now).holds s) (hid : id ≠ "")
    (hfunds : Channel.FundsListed node id) {sweeps : List Key} {history : ChannelHistory}
    (h : Ends (onChain.history sweeps) s history t) :
    history.current.channels (.text id) ≠ [] ∨ history.opened.channels (.text id) ≠ [] := by
  obtain ⟨opens, s₁, closeds, hopens, hcloseds, -, hchannels⟩ := OnChainSource.ends_history h
  obtain ⟨hopenKeys, hclosedKeys⟩ := OnChainSource.fundingKeys_of_ends h hopens hcloseds
  obtain ⟨hcurrent, hopened, -⟩ := hchannels (.text id)
  rw [hcurrent, hopened]
  rcases hfunds with hfunds | ⟨listed, hfunds, hknown⟩
  · left
    obtain ⟨channel, hchannel, index, hpoint⟩ := exists_open_of_listed hs hid hfunds hopens
    obtain ⟨key, hkey⟩ := hopenKeys channel hchannel
    exact List.ne_nil_of_mem
      (List.mem_filter.mpr ⟨hchannel, ChannelPoint.funds_of_outpoint hpoint hkey⟩)
  · right
    have hs₁ := steadyIn_onChain.openChannels.holds hs hopens
    obtain ⟨channel, hchannel, index, hpoint⟩ :=
      exists_closed_of_listed hs₁ hid hfunds hknown hcloseds
    obtain ⟨key, hkey⟩ := hclosedKeys channel hchannel
    exact List.ne_nil_of_mem
      (List.mem_filter.mpr ⟨hchannel, ChannelPoint.funds_of_outpoint hpoint hkey⟩)

/-- A transaction of the period that funds a channel of which a report knows is recorded as an
opening, and nothing but openings and fees for them is recorded under it. -/
theorem funding_recorded {unconfirmedAsNow : Bool} {period : Period} {context : EntryContext}
    {s s₁ t : Session} {entries : List Entry} {listed : List Transaction} {tx : Transaction}
    {id : String} (hmemory : s.cache.Agrees s.node)
    (hreport : Ends (onChain.report unconfirmedAsNow period context) s entries t)
    (hlisted : Ends onChain.transactions s listed s₁)
    (htx : tx ∈ Transaction.during period (if unconfirmedAsNow then some s.now else none) listed)
    (htxid : tx.txid = .text id) (hid : id ≠ "") (hfunds : Channel.FundsListed s.node id) :
    (∃ entry ∈ entries, entry.txid = .text id ∧
        (entry.kind = .localChannelOpen ∨ entry.kind = .remoteChannelOpen)) ∧
      ∀ entry ∈ entries, entry.txid = .text id → entry.kind.OfOpening := by
  have hs : (Situation.ofNode s.node s.now).holds s := ⟨rfl, rfl, hmemory⟩
  obtain ⟨selection, s₂, hselection, -⟩ := OnChainSource.ends_report hreport
  obtain ⟨listed', s₃, swept, s₄, keys, line, hlisted', hswept, -, -, hselect, rfl⟩ :=
    OnChainSource.ends_selection hselection
  obtain ⟨rfl, rfl⟩ := hlisted.unique hlisted'
  have hs₁ := steadyIn_onChain.transactions.holds hs hlisted
  have hs₄ := steadyIn_onChain.sweeps.holds hs₁ hswept
  -- The transaction is selected, and only its amount may have changed.
  rw [hs₄.1] at hselect
  obtain ⟨kept, hkept, hwithoutFee⟩ := exists_of_mem_right (mapM_eq_ok_iff.mp hselect).flip htx
  have hkeptTxid : kept.txid = .text id := by
    rw [(Transaction.withoutFee_eq_ok hwithoutFee).1, htxid]
  have hkey : kept.txid.key = .ok (.text id) := by rw [hkeptTxid]; rfl
  have hfunded (history : ChannelHistory) (u : Session)
      (hhistory : Ends (onChain.history selection.sweeps) (s₄.write line) history u) :
      history.current.channels (.text id) ≠ [] ∨ history.opened.channels (.text id) ≠ [] :=
    funded_of_listed ((Situation.ofNode s.node s.now).holds_write s₄ line hs₄) hid hfunds hhistory
  obtain ⟨⟨entry, hentry, hentryTxid, hkind⟩, hall⟩ :=
    OnChainSource.opening_of_funded hselection hkept hkey hfunded hreport
  refine ⟨⟨entry, hentry, hentryTxid.trans hkeptTxid, hkind⟩, ?_⟩
  intro other hother hotherTxid
  apply hall other hother
  rw [hotherTxid]
  rfl

end Node

/-! ## Channels with and without a known closing -/

/-- The id of a transaction that funds a channel. -/
def sampleFundingId : String :=
  String.ofList (List.replicate 64 'a')

/-- A channel that this transaction has funded. -/
def sampleChannel (fundingId : Value) : Value :=
  .object [("funding_txid", fundingId), ("funding_outnum", .int 0),
    ("short_channel_id", .text "1x1x0"), ("peer_id", .text "peer"), ("opener", .text "local"),
    ("total_msat", .int 5000000)]

/-- A node whose wallet has funded a channel that has been closed since.  The bookkeeper has
recorded the funding and some other events. -/
def closedChannelNode (events : List Value) (method : String) (_payload : Value) :
    Except Value Value :=
  match method with
  | "bkpr-listaccountevents" => .ok (.object [("events", .list (
      .object [("account", .text "wallet"), ("type", .text "chain"),
        ("txid", .text sampleFundingId), ("debit_msat", .int 5100000), ("timestamp", .int 100),
        ("blockheight", .int 7)] :: events))])
  | "listclosedchannels" =>
    .ok (.object [("closedchannels", .list [sampleChannel (.text sampleFundingId)])])
  | _ => .ok (.object [])

/-- The event of the closing of the channel. -/
def sampleClosing : Value :=
  .object [("account", .text "channel"), ("type", .text "chain"), ("tag", .text "channel_close"),
    ("outpoint", .text (Wallet.outpoint sampleFundingId "0")), ("spending_txid", .text "close")]

namespace Node

/-- If the bookkeeper has recorded the closing, the funding is recorded as the opening of the
channel. -/
theorem funding_recorded_sampleClosing :
    let node := closedChannelNode [sampleClosing]
    let s : Session := { node }
    let context : EntryContext := { priceAt := fun _ => .ok (Price.nothing none) }
    ∃ entries t listed s₁, ∃ tx ∈ Transaction.during ⟨0, 1000⟩ none listed,
      Ends (onChain.report false ⟨0, 1000⟩ context) s entries t ∧
      entries.map (·.kind) = [.localChannelOpen, .channelOpenFee] ∧
      Ends onChain.transactions s listed s₁ ∧ tx.txid = .text sampleFundingId ∧
      s.cache.Agrees s.node ∧ Channel.FundsListed node sampleFundingId ∧
      (∃ entry ∈ entries, entry.txid = .text sampleFundingId ∧
        (entry.kind = .localChannelOpen ∨ entry.kind = .remoteChannelOpen)) ∧
      ∀ entry ∈ entries, entry.txid = .text sampleFundingId → entry.kind.OfOpening := by
  intro node s context
  have hmemory : s.cache.Agrees s.node := NodeCache.agrees_empty
  have hfunds : Channel.FundsListed node sampleFundingId :=
    .inr ⟨sampleChannel (.text sampleFundingId), ⟨_, rfl, List.mem_singleton_self _, rfl⟩,
      ⟨_, _, _, rfl, rfl, rfl, rfl⟩⟩
  obtain ⟨entries, hreport, hkinds⟩ : ∃ entries,
      Ends (onChain.report false ⟨0, 1000⟩ context) s entries
        ((onChain.report false ⟨0, 1000⟩ context).outcome s).2 ∧
      entries.map (·.kind) = [.localChannelOpen, .channelOpenFee] :=
    exists_ends_of_outcome (by decide +kernel)
  obtain ⟨listed, hlisted, hkeys⟩ : ∃ listed,
      Ends onChain.transactions s listed (onChain.transactions.outcome s).2 ∧
      (Transaction.during ⟨0, 1000⟩ none listed).map (·.txid.key?) =
        [some (.text sampleFundingId)] :=
    exists_ends_of_outcome (by decide +kernel)
  obtain ⟨tx, hduring, hkey⟩ : ∃ tx ∈ Transaction.during ⟨0, 1000⟩ none listed,
      tx.txid.key? = some (.text sampleFundingId) := by
    rw [← List.mem_map, hkeys]
    exact List.mem_singleton_self _
  have htxid : tx.txid = .text sampleFundingId := Value.eq_text_of_key? hkey
  exact ⟨entries, _, listed, _, tx, hduring, hreport, hkinds, hlisted, htxid, hmemory, hfunds,
    funding_recorded hmemory hreport hlisted hduring htxid (by decide +kernel) hfunds⟩

/-- A node without a bookkeeper, whose wallet has received something by a transaction that funds an
open channel. -/
def openChannelNode (fundingId : Value) (method : String) (_payload : Value) :
    Except Value Value :=
  match method with
  | "bkpr-listaccountevents" => .error (.text "unknown command")
  | "listtransactions" => .ok (.object [("transactions", .list [
      .object [("hash", fundingId), ("blockheight", .int 7),
        ("outputs", .list [.object [("index", .int 0)]])]])])
  | "listfunds" => .ok (.object [("outputs", .list [
      .object [("txid", fundingId), ("output", .int 0), ("amount_msat", .int 5000000)]])])
  | "getrawblockbyheight" => .ok (.object [("block", .text
      (String.ofList (List.replicate 136 '0') ++ "64000000"))])
  | "listpeerchannels" => .ok (.object [("channels", .list [sampleChannel fundingId])])
  | _ => .ok (.object [])

/-- The wallet lists a transaction of the period, and the node lists a channel that gives the same
id as that of its funding; but all that a report has is a transfer under the id. -/
def MissesOpening (node : String → Value → Except Value Value) (key : Key) : Prop :=
  (∃ listed t, Ends onChain.transactions { node } listed t ∧
    (Transaction.during ⟨0, 1000⟩ none listed).map (·.txid.key?) = [some key]) ∧
  (∃ channels, (Channel.listedOpen node = .ok channels ∨ Channel.listedClosed node = .ok channels) ∧
    ∃ channel ∈ channels, ∃ fundingId, channel.field "funding_txid" = .ok fundingId ∧
      fundingId.key? = some key) ∧
  ∃ kind entries t, Ends (onChain.report false ⟨0, 1000⟩
      { priceAt := fun _ => .ok (Price.nothing none) }) { node } entries t ∧
    entries.map (fun entry => (entry.txid.key?, entry.kind)) = [(some key, kind)] ∧
    (kind = .payment ∨ kind = .receipt)

/-- The funding of a closed channel whose closing the bookkeeper has not recorded is recorded as a
payment.  The funding of an open channel is recorded as a receipt if its id is no text, or an empty
one. -/
theorem funding_recorded_fails :
    MissesOpening (closedChannelNode []) (.text sampleFundingId) ∧
      MissesOpening (openChannelNode (.int (10 ^ 63))) (.number (10 ^ 63 * Value.oneInUnits)) ∧
      MissesOpening (openChannelNode (.text "")) (.text "") := by
  refine ⟨⟨?_, ⟨_, .inr rfl, _, List.mem_singleton_self _, _, rfl, rfl⟩, .payment, ?_⟩,
    ⟨?_, ⟨_, .inl rfl, _, List.mem_singleton_self _, _, rfl, rfl⟩, .receipt, ?_⟩,
    ⟨?_, ⟨_, .inl rfl, _, List.mem_singleton_self _, _, rfl, rfl⟩, .receipt, ?_⟩⟩
  · exact (exists_ends_of_outcome (by decide +kernel)).imp fun listed h => ⟨_, h⟩
  · exact (exists_ends_of_outcome (by decide +kernel)).imp fun entries h =>
      ⟨_, h.1, h.2, .inl rfl⟩
  · exact (exists_ends_of_outcome (by decide +kernel)).imp fun listed h => ⟨_, h⟩
  · exact (exists_ends_of_outcome (by decide +kernel)).imp fun entries h =>
      ⟨_, h.1, h.2, .inr rfl⟩
  · exact (exists_ends_of_outcome (by decide +kernel)).imp fun listed h => ⟨_, h⟩
  · exact (exists_ends_of_outcome (by decide +kernel)).imp fun entries h =>
      ⟨_, h.1, h.2, .inr rfl⟩

end Node

end NodeLedger
