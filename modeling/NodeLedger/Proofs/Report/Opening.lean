import NodeLedger.Proofs.Report.Block
import NodeLedger.Proofs.Report.Conservation
import NodeLedger.Proofs.Report.History

/-!
# Transactions that fund channels

A transaction that funds a channel, open or closed, is recorded as the opening of the channel and as
nothing else: being the opening comes before whatever else a transaction may be.

Main results:

- Theorem `ChannelHistory.roleOf_of_funded`: what a transaction that funds a channel does.
- Theorem `ChannelHistory.Yields.key_eq`: the entries of a transaction are recorded under it.
- Theorem `OnChainSource.opening_of_funded`: a report has an opening for such a transaction, and
  nothing but openings and their fees under it.
-/

namespace NodeLedger

open List NodeLedger.Action

/-- An entry is that of the opening of a channel, or of the fee for it. -/
def EntryKind.OfOpening (kind : EntryKind) : Prop :=
  kind = .localChannelOpen ∨ kind = .remoteChannelOpen ∨ kind = .channelOpenFee

namespace TransactionRole

/-- A transaction opens a channel, which may have been closed since. -/
def IsOpening (role : TransactionRole) : Prop :=
  (∃ channel, role = opens channel) ∨ ∃ channel, role = opened channel

/-- The transaction under which the entries of a transaction are recorded. -/
def recordedTxid (tx : Transaction) : TransactionRole → Value
  | closes channel => channel.closingTxid
  | _ => tx.txid

variable {context : EntryContext} {tx : Transaction} {closingFee : Option Int}
  {role : TransactionRole} {made : List Draft}

/-- The drafts of an opened channel stand under the transaction. -/
theorem txid_of_openDrafts {category channelId peer : Value} {capacity : Int} {byUs : Bool}
    {draft : Draft} (h : draft ∈ openDrafts category channelId peer capacity byUs tx) :
    draft.txid = tx.txid := by
  unfold openDrafts at h
  cases byUs with
  | false =>
    cases List.mem_singleton.mp h
    rfl
  | true =>
    rcases List.mem_pair.mp h with rfl | rfl
    · rfl
    · rfl

/-- So do those of a transaction that opens or closes no channel. -/
theorem txid_of_transactionDrafts {kind feeKind : EntryKind}
    (h : tx.drafts context kind feeKind = .ok made) : ∀ draft ∈ made, draft.txid = tx.txid := by
  obtain ⟨category, -, hdrafts⟩ := bind_eq_ok_iff.mp h
  cases hdrafts
  intro draft hdraft
  split at hdraft
  · cases List.mem_singleton.mp hdraft
    rfl
  · rcases List.mem_pair.mp hdraft with rfl | rfl
    · rfl
    · rfl

/-- The drafts of a transaction all stand under one transaction. -/
theorem txid_of_drafts (h : role.drafts context tx closingFee = .ok made) :
    ∀ draft ∈ made, draft.txid = role.recordedTxid tx := by
  cases role with
  | opens channel | opened channel =>
    obtain ⟨category, -, hdrafts⟩ := bind_eq_ok_iff.mp h
    cases hdrafts
    exact fun draft => txid_of_openDrafts
  | closes channel =>
    obtain ⟨category, -, hdrafts⟩ := bind_eq_ok_iff.mp h
    cases hdrafts
    intro draft hdraft
    rcases List.mem_cons.mp hdraft with rfl | hdraft
    · rfl
    · obtain ⟨fee, -, rfl⟩ := Option.map_eq_some_iff.mp (Option.mem_toList.mp hdraft)
      rfl
  | sweeps | transfers => exact txid_of_transactionDrafts h

/-- The drafts of a transaction that opens a channel are an opening and at most one fee for it. -/
theorem kinds_of_isOpening (hrole : role.IsOpening)
    (h : role.drafts context tx closingFee = .ok made) :
    (∃ moved ∈ made, moved.kind = .localChannelOpen ∨ moved.kind = .remoteChannelOpen) ∧
      ∀ draft ∈ made, draft.kind.OfOpening := by
  obtain ⟨category, channelId, peer, capacity, byUs, rfl⟩ : ∃ category channelId peer capacity byUs,
      made = openDrafts category channelId peer capacity byUs tx := by
    rcases hrole with ⟨channel, rfl⟩ | ⟨channel, rfl⟩
    · obtain ⟨category, -, hdrafts⟩ := bind_eq_ok_iff.mp h
      cases hdrafts
      exact ⟨_, _, _, _, _, rfl⟩
    · obtain ⟨category, -, hdrafts⟩ := bind_eq_ok_iff.mp h
      cases hdrafts
      exact ⟨_, _, _, _, _, rfl⟩
  cases byUs <;> simp [openDrafts, Transaction.feeDraft, EntryKind.OfOpening]

end TransactionRole

namespace ChannelHistory

variable {history : ChannelHistory} {context : EntryContext} {tx : Transaction} {key : Key}
  {block : List Entry}

/-- A transaction under which there is a channel that it funds opens one of these, unless it is
refused. -/
theorem roleOf_of_funded {txid : Value} (hkey : txid.key = .ok key)
    (hfunded : history.current.channels key ≠ [] ∨ history.opened.channels key ≠ [])
    {role : TransactionRole} (h : history.roleOf txid = .ok role) : role.IsOpening := by
  unfold roleOf at h
  obtain ⟨current, hcurrent, h⟩ := bind_eq_ok_iff.mp h
  cases current with
  | some channel =>
    cases h
    exact .inl ⟨channel, rfl⟩
  | none =>
    obtain ⟨opened, hopened, h⟩ := bind_eq_ok_iff.mp h
    cases opened with
    | some channel =>
      cases h
      exact .inr ⟨channel, rfl⟩
    | none =>
      -- A look-up that succeeds and finds nothing has nothing to find.
      exfalso
      rw [TxidIndex.lookup_eq _ hkey] at hcurrent hopened
      rcases hfunded with hfunded | hfunded
      · rcases hchannels : history.current.channels key with _ | ⟨_, _ | _⟩ <;>
          simp_all
      · rcases hchannels : history.opened.channels key with _ | ⟨_, _ | _⟩ <;>
          simp_all

/-- A transaction that closes a channel is one under which the channel is found. -/
theorem mem_closed_of_roleOf {txid : Value} {channel : ClosedChannel} (hkey : txid.key = .ok key)
    (h : history.roleOf txid = .ok (.closes channel)) : channel ∈ history.closed.channels key := by
  unfold roleOf at h
  obtain ⟨current, -, h⟩ := bind_eq_ok_iff.mp h
  cases current with
  | some other => cases h
  | none =>
    obtain ⟨opened, -, h⟩ := bind_eq_ok_iff.mp h
    cases opened with
    | some other => cases h
    | none =>
      obtain ⟨closed, hclosed, h⟩ := bind_eq_ok_iff.mp h
      cases closed with
      | some found =>
        cases h
        rw [TxidIndex.lookup_eq _ hkey] at hclosed
        rcases hchannels : history.closed.channels key with _ | ⟨_, _ | _⟩ <;> simp_all
      | none =>
        obtain ⟨swept, -, h⟩ := bind_eq_ok_iff.mp h
        split at h <;> cases h

/-- The entries of a transaction are recorded under its key, if closed channels are put under the
keys of the transactions that closed them. -/
theorem Yields.key_eq (hkey : tx.txid.key = .ok key)
    (hclosed : ∀ channel ∈ history.closed.channels key, channel.closingTxid.key = .ok key)
    (h : history.Yields context tx block) : ∀ entry ∈ block, entry.txid.key = .ok key := by
  obtain ⟨role, closingFee, made, hrole, -, hmade, hbecome⟩ := h
  intro entry hentry
  obtain ⟨draft, hdraft, price, value, -, -, rfl⟩ := exists_of_mem_right hbecome hentry
  show draft.txid.key = .ok key
  rw [TransactionRole.txid_of_drafts hmade draft hdraft]
  cases role with
  | closes channel => exact hclosed channel (mem_closed_of_roleOf hkey hrole)
  | opens channel | opened channel | sweeps | transfers => exact hkey

/-- The transaction of a block has a key. -/
theorem Yields.exists_key (h : history.Yields context tx block) :
    ∃ key, tx.txid.key = .ok key := by
  obtain ⟨role, closingFee, made, hrole, -⟩ := h
  obtain ⟨current, hcurrent, -⟩ := bind_eq_ok_iff.mp hrole
  obtain ⟨key, hkey, -⟩ := bind_eq_ok_iff.mp hcurrent
  exact ⟨key, hkey⟩

/-- The block of a transaction that opens a channel has an opening, and nothing but openings and
fees for them. -/
theorem Yields.opening (hkey : tx.txid.key = .ok key)
    (hfunded : history.current.channels key ≠ [] ∨ history.opened.channels key ≠ [])
    (h : history.Yields context tx block) :
    (∃ entry ∈ block, entry.txid = tx.txid ∧
        (entry.kind = .localChannelOpen ∨ entry.kind = .remoteChannelOpen)) ∧
      ∀ entry ∈ block, entry.kind.OfOpening := by
  obtain ⟨role, closingFee, made, hrole, -, hmade, hbecome⟩ := h
  have hopening := roleOf_of_funded hkey hfunded hrole
  obtain ⟨⟨moved, hmoved, hkind⟩, hall⟩ := TransactionRole.kinds_of_isOpening hopening hmade
  constructor
  · obtain ⟨entry, hentry, price, value, -, -, rfl⟩ := exists_of_mem_right hbecome.flip hmoved
    refine ⟨_, hentry, ?_, hkind⟩
    show moved.txid = tx.txid
    rw [TransactionRole.txid_of_drafts hmade moved hmoved]
    rcases hopening with ⟨channel, rfl⟩ | ⟨channel, rfl⟩
    · rfl
    · rfl
  · intro entry hentry
    obtain ⟨draft, hdraft, hbecomes⟩ := exists_of_mem_right hbecome hentry
    rw [hbecomes.kind_eq]
    exact hall draft hdraft

end ChannelHistory

/-- Closed channels are put under the keys of the transactions that closed them. -/
theorem OnChainSource.key_of_mem_closed {source : OnChainSource} {sweeps : List Key}
    {s t : Session} {history : ChannelHistory} (h : Ends (source.history sweeps) s history t)
    (key : Key) : ∀ channel ∈ history.closed.channels key, channel.closingTxid.key = .ok key := by
  obtain ⟨opens, s₁, closeds, -, -, -, hchannels⟩ := ends_history h
  obtain ⟨-, -, hclosed⟩ := hchannels key
  intro channel hchannel
  rw [hclosed] at hchannel
  have hkey : channel.closingTxid.key.toOption = some key := by
    simpa [ClosedChannel.isClosedBy] using (List.mem_filter.mp hchannel).2
  cases hresult : channel.closingTxid.key with
  | error failure => simp [hresult, Except.toOption] at hkey
  | ok found =>
    rw [hresult] at hkey
    exact congrArg Except.ok (Option.some.inj hkey)

/-- A report has an opening under a selected transaction that funds a channel, and nothing but
openings and fees for them. -/
theorem OnChainSource.opening_of_funded {source : OnChainSource} {unconfirmedAsNow : Bool}
    {period : Period} {context : EntryContext} {selection : Selection} {s s₁ t : Session}
    {tx : Transaction} {key : Key} {entries : List Entry}
    (hselection : Ends (source.selection unconfirmedAsNow period) s selection s₁)
    (htx : tx ∈ selection.kept) (hkey : tx.txid.key = .ok key)
    (hfunded : ∀ history s₂, Ends (source.history selection.sweeps) s₁ history s₂ →
      history.current.channels key ≠ [] ∨ history.opened.channels key ≠ [])
    (h : Ends (source.report unconfirmedAsNow period context) s entries t) :
    (∃ entry ∈ entries, entry.txid = tx.txid ∧
        (entry.kind = .localChannelOpen ∨ entry.kind = .remoteChannelOpen)) ∧
      ∀ entry ∈ entries, entry.txid.key = .ok key → entry.kind.OfOpening := by
  obtain ⟨selection', s₁', blocks, hselection', rfl, hblocks⟩ := blocks_of_ends_report h
  obtain ⟨rfl, rfl⟩ := hselection.unique hselection'
  constructor
  · obtain ⟨block, hblock, history, fees, ⟨s₂, line, s₃, hhistory, -⟩, hyields⟩ :=
      exists_of_mem_right hblocks.flip htx
    obtain ⟨entry, hentry, hopening⟩ := (hyields.opening hkey (hfunded history s₂ hhistory)).1
    exact ⟨entry, List.mem_flatten.mpr ⟨block, hblock, hentry⟩, hopening⟩
  · intro entry hentry hentryKey
    obtain ⟨block, hblock, hentry⟩ := List.mem_flatten.mp hentry
    obtain ⟨other, -, history, fees, ⟨s₂, line, s₃, hhistory, -⟩, hyields⟩ :=
      exists_of_mem_right hblocks hblock
    -- Whatever is recorded under the key is recorded for a transaction with the key.
    obtain ⟨otherKey, hother⟩ := hyields.exists_key
    have hrecorded := hyields.key_eq hother (key_of_mem_closed hhistory otherKey) entry hentry
    obtain rfl : otherKey = key := Except.ok.inj (hrecorded.symm.trans hentryKey)
    exact (hyields.opening hother (hfunded history s₂ hhistory)).2 entry hentry

end NodeLedger
