import NodeLedger.Proofs.Entry.Valued
import NodeLedger.Report.OffChain
import NodeLedger.Report.OnChain

/-!
# Drafts of one event

A transaction, an invoice, a payment and a forward each give one draft for what they move and behind
it at most one for a fee.  Each function that makes drafts has one theorem here, which says at what
time they stand and what they add up to.

Main results:

- Theorem `TransactionRole.drafts_ofEvent` for transactions, whatever they do.
- Theorems `Invoice.reportDrafts_ofEvent`, `ResolvedPayment.reportDrafts_ofEvent` and
  `Forward.drafts_ofEvent` for what happens off chain.
- Theorem `TransactionRole.becomes_of_ends`: the entries of a transaction are what its drafts
  become.
-/

namespace NodeLedger

open List NodeLedger.Action

/-- Whether an entry of a kind is that of a fee. -/
def EntryKind.isFee : EntryKind → Bool
  | .channelOpenFee | .fee | .forwardFee | .circularPaymentFee | .sweepFee | .channelCloseFee => true
  | _ => false

/-- A draft is that of the fee of what another one moves. -/
structure Draft.IsFeeOf (fee moved : Draft) : Prop where
  isFee : fee.kind.isFee = true
  timestamp_eq : fee.timestamp = moved.timestamp
  txid_eq : fee.txid = moved.txid
  category_eq : fee.category = moved.category
  onChain_eq : fee.onChain = moved.onChain

/-- Drafts of one event at a time: one for what it moves, behind it at most one for its fee.
Together they change the balance by a total. -/
structure Draft.OfEvent (time total : Int) (drafts : List Draft) : Prop where
  moved_fee : ∃ moved fee, drafts = moved :: Option.toList fee ∧ moved.kind.isFee = false ∧
    moved.timestamp = time ∧ ∀ draft ∈ fee, draft.IsFeeOf moved
  total_eq : Amount.total (drafts.map (·.amount)) = total

namespace Draft

variable {time total : Int} {drafts : List Draft}

/-- A draft of what an event moves, without a fee. -/
theorem ofEvent_single {moved : Draft} (hkind : moved.kind.isFee = false)
    (htime : moved.timestamp = time) (htotal : moved.amount = total) :
    OfEvent time total [moved] where
  moved_fee := ⟨moved, none, rfl, hkind, htime, by simp⟩
  total_eq := by simp [Amount.total, htotal]

/-- A draft of what an event moves and one of the fee. -/
theorem ofEvent_pair {moved fee : Draft} (hkind : moved.kind.isFee = false)
    (htime : moved.timestamp = time) (hfee : fee.IsFeeOf moved)
    (htotal : moved.amount + fee.amount = total) :
    OfEvent time total [moved, fee] where
  moved_fee := ⟨moved, some fee, rfl, hkind, htime, by simpa using hfee⟩
  total_eq := by simp [Amount.total, htotal]

/-- All drafts of an event stand at its time. -/
theorem OfEvent.timestamp_eq (h : OfEvent time total drafts) :
    ∀ draft ∈ drafts, draft.timestamp = time := by
  obtain ⟨moved, fee, rfl, -, htime, hfee⟩ := h.moved_fee
  intro draft hdraft
  rcases List.mem_cons.mp hdraft with rfl | hdraft
  · exact htime
  · exact (hfee draft (Option.mem_toList.mp hdraft)).timestamp_eq.trans htime

/-- So do the entries that they become. -/
theorem OfEvent.timestamp_of_becomes (h : OfEvent time total drafts)
    {priceAt : Int → Except Failure Price} {entries : List Entry}
    (hbecome : Forall₂ (Becomes priceAt) drafts entries) :
    ∀ entry ∈ entries, entry.timestamp = time := by
  intro entry hentry
  obtain ⟨draft, hdraft, hbecomes⟩ := exists_of_mem_right hbecome hentry
  rw [hbecomes.timestamp_eq, h.timestamp_eq draft hdraft]

end Draft

/-! ## Transactions -/

/-- The drafts of an opened channel: one that the node opens costs it the amount and the fee, one
that its peer opens nothing. -/
theorem openDrafts_ofEvent (category channelId peer : Value) (capacity : Int) (byUs : Bool)
    (tx : Transaction) :
    Draft.OfEvent tx.timestamp (if byUs then 1000 * (tx.amount - tx.fee) else 0)
      (openDrafts category channelId peer capacity byUs tx) := by
  cases byUs with
  | false => exact Draft.ofEvent_single rfl rfl rfl
  | true =>
    have htotal : Amount.ofSats tx.amount + Amount.ofSpentSats tx.fee =
        1000 * (tx.amount - tx.fee) := by
      unfold Amount.ofSats Amount.ofSpentSats
      omega
    exact Draft.ofEvent_pair rfl rfl ⟨rfl, rfl, rfl, rfl, rfl⟩ htotal

/-- The drafts of a transaction that opens or closes no channel. -/
theorem Transaction.drafts_ofEvent {tx : Transaction} {context : EntryContext}
    {kind feeKind : EntryKind} {drafts : List Draft} (hkind : kind.isFee = false)
    (hfeeKind : feeKind.isFee = true) (h : tx.drafts context kind feeKind = .ok drafts) :
    Draft.OfEvent tx.timestamp (1000 * (tx.amount - tx.fee)) drafts := by
  obtain ⟨category, -, hdrafts⟩ := bind_eq_ok_iff.mp h
  cases hdrafts
  by_cases hfee : tx.fee = 0
  · have htotal : Amount.ofSats tx.amount = 1000 * (tx.amount - tx.fee) := by
      unfold Amount.ofSats
      omega
    rw [if_pos hfee]
    exact Draft.ofEvent_single hkind rfl htotal
  · have htotal : Amount.ofSats tx.amount + Amount.ofSpentSats tx.fee =
        1000 * (tx.amount - tx.fee) := by
      unfold Amount.ofSats Amount.ofSpentSats
      omega
    rw [if_neg hfee]
    exact Draft.ofEvent_pair hkind rfl ⟨hfeeKind, rfl, rfl, rfl, rfl⟩ htotal

namespace TransactionRole

/-- The fee that is looked up for what a transaction does: only where it closes a channel that the
node has opened, and only if fees can be looked up. -/
def LooksUp (feeOf : Option (Value → Action Int)) (role : TransactionRole)
    (closingFee : Option Int) : Prop :=
  match role, feeOf with
  | closes channel, some feeOf =>
    if channel.openInitiator = .us then
      ∃ fee s t, Ends (feeOf channel.closingTxid) s fee t ∧ closingFee = some fee
    else closingFee = none
  | _, _ => closingFee = none

/-- The drafts of a transaction with a role, given the closing fee that has been looked up. -/
def drafts (context : EntryContext) (tx : Transaction) (closingFee : Option Int) :
    TransactionRole → Except Failure (List Draft)
  | opens channel => channel.drafts context tx
  | opened channel => channel.openingDrafts context tx
  | closes channel => do
    let category ← context.categoryOf tx.label
    return channel.closingDraft category tx ::
      (closingFee.map (channel.closingFeeDraft category tx)).toList
  | sweeps => tx.sweepDrafts context
  | transfers => tx.transferDrafts context

/-- What the drafts of a transaction add up to. -/
def total (tx : Transaction) (closingFee : Option Int) : TransactionRole → Int
  | opens channel => if channel.openedByUs then 1000 * (tx.amount - tx.fee) else 0
  | opened channel => if channel.openedByUs tx then 1000 * (tx.amount - tx.fee) else 0
  | closes _ => 1000 * tx.amount - 1000 * closingFee.getD 0
  | sweeps => 1000 * (tx.amount - tx.fee)
  | transfers => 1000 * (tx.amount - tx.fee)

variable {context : EntryContext} {tx : Transaction} {closingFee : Option Int}

/-- The drafts of a transaction are those of one event, whatever the transaction does. -/
theorem drafts_ofEvent {role : TransactionRole} {drafts : List Draft}
    (h : role.drafts context tx closingFee = .ok drafts) :
    Draft.OfEvent tx.timestamp (role.total tx closingFee) drafts := by
  cases role with
  | opens channel =>
    obtain ⟨category, -, hdrafts⟩ := bind_eq_ok_iff.mp h
    cases hdrafts
    exact openDrafts_ofEvent _ _ _ _ _ tx
  | opened channel =>
    obtain ⟨category, -, hdrafts⟩ := bind_eq_ok_iff.mp h
    cases hdrafts
    exact openDrafts_ofEvent _ _ _ _ _ tx
  | closes channel =>
    obtain ⟨category, -, hdrafts⟩ := bind_eq_ok_iff.mp h
    cases hdrafts
    cases closingFee with
    | none =>
      have htotal : Amount.ofSats tx.amount = (closes channel).total tx none := by
        simp only [total, Amount.ofSats, Option.getD_none]
        omega
      exact Draft.ofEvent_single rfl rfl htotal
    | some fee =>
      have htotal : Amount.ofSats tx.amount + Amount.ofSpentSats fee =
          (closes channel).total tx (some fee) := by
        simp only [total, Amount.ofSats, Amount.ofSpentSats, Option.getD_some]
        omega
      exact Draft.ofEvent_pair rfl rfl ⟨rfl, rfl, rfl, rfl, rfl⟩ htotal
  | sweeps => exact Transaction.drafts_ofEvent rfl rfl h
  | transfers =>
    refine Transaction.drafts_ofEvent ?_ rfl h
    split <;> rfl

/-- The closing fee of a channel is looked up only where the node has opened it. -/
theorem looksUp_of_ends {channel : ClosedChannel} {s t : Session}
    (h : Ends (channel.closingFee context) s closingFee t) :
    (closes channel).LooksUp context.feeOf closingFee := by
  unfold ClosedChannel.closingFee at h
  cases hinitiator : channel.openInitiator with
  | us =>
    cases hfeeOf : context.feeOf with
    | some feeOf =>
      simp only [hinitiator, hfeeOf, ends_bind, ends_pure] at h
      obtain ⟨fee, _, hfee, rfl, rfl⟩ := h
      simp only [LooksUp, hinitiator, if_pos]
      exact ⟨fee, s, _, hfee, rfl⟩
    | none =>
      simp only [hinitiator, hfeeOf, ends_bind, ends_pure] at h
      obtain ⟨_, _, _, rfl, _⟩ := h
      rfl
  | peer =>
    simp only [hinitiator, ends_pure] at h
    cases hfeeOf : context.feeOf <;> simp [LooksUp, hinitiator, h.1]
  | unknown =>
    simp only [hinitiator, ends_bind, ends_pure] at h
    obtain ⟨_, _, _, rfl, _⟩ := h
    cases hfeeOf : context.feeOf <;> simp [LooksUp, hinitiator]
  | both =>
    simp only [hinitiator, ends_bind, ends_pure] at h
    obtain ⟨_, _, _, rfl, _⟩ := h
    cases hfeeOf : context.feeOf <;> simp [LooksUp, hinitiator]

/-- The entries of the transaction that closes a channel are what its drafts become. -/
theorem becomes_of_ends_closingEntries {channel : ClosedChannel} {s t : Session}
    {entries : List Entry} (h : Ends (channel.closingEntries context tx) s entries t) :
    ∃ closingFee made, (closes channel).LooksUp context.feeOf closingFee ∧
      (closes channel).drafts context tx closingFee = .ok made ∧
      Forall₂ (Draft.Becomes context.priceAt) made entries := by
  unfold ClosedChannel.closingEntries at h
  simp only [ends_bind, ends_lift] at h
  obtain ⟨category, _, ⟨hcategory, rfl⟩, closing, s₁, hclosing, closingFee, s₂, hfee, h⟩ := h
  have hclosing := (Draft.ends_value.mp hclosing).1
  refine ⟨closingFee, _, looksUp_of_ends hfee, bind_eq_ok_iff.mpr ⟨category, hcategory, rfl⟩, ?_⟩
  cases closingFee with
  | none =>
    rw [ends_pure] at h
    rw [h.1]
    exact .cons hclosing .nil
  | some fee =>
    simp only [ends_bind, ends_pure] at h
    obtain ⟨entry, s₃, hentry, rfl, rfl⟩ := h
    exact .cons hclosing (.cons (Draft.ends_value.mp hentry).1 .nil)

/-- The entries of a transaction are what its drafts become. -/
theorem becomes_of_ends {role : TransactionRole} {s t : Session} {entries : List Entry}
    (h : Ends (role.entries context tx) s entries t) :
    ∃ closingFee made, role.LooksUp context.feeOf closingFee ∧
      role.drafts context tx closingFee = .ok made ∧
      Forall₂ (Draft.Becomes context.priceAt) made entries := by
  cases role with
  | opens channel =>
    obtain ⟨made, hmade, hbecomes⟩ := Draft.ends_valueAll h
    exact ⟨none, made, rfl, hmade, hbecomes⟩
  | opened channel =>
    obtain ⟨made, hmade, hbecomes⟩ := Draft.ends_valueAll h
    exact ⟨none, made, rfl, hmade, hbecomes⟩
  | closes channel => exact becomes_of_ends_closingEntries h
  | sweeps =>
    obtain ⟨made, hmade, hbecomes⟩ := Draft.ends_valueAll h
    exact ⟨none, made, rfl, hmade, hbecomes⟩
  | transfers =>
    obtain ⟨made, hmade, hbecomes⟩ := Draft.ends_valueAll h
    exact ⟨none, made, rfl, hmade, hbecomes⟩

end TransactionRole

/-! ## Off chain -/

/-- The draft of a paid invoice is that of an event without a fee. -/
theorem Invoice.draft_ofEvent {invoice : Invoice} {circular : Bool} {context : EntryContext}
    {draft : Draft} (h : invoice.draft circular context = .ok draft) :
    Draft.OfEvent invoice.settleDate invoice.paid.count [draft] := by
  obtain ⟨category, -, hdraft⟩ := bind_eq_ok_iff.mp h
  cases hdraft
  cases circular <;> exact Draft.ofEvent_single rfl rfl rfl

/-- The drafts of a payment: it costs what was paid and the fees. -/
theorem ResolvedPayment.drafts_ofEvent {resolved : ResolvedPayment} {circular : Bool}
    {context : EntryContext} {drafts : List Draft}
    (h : resolved.drafts circular context = .ok drafts) :
    Draft.OfEvent resolved.settleTime (-(resolved.payment.amount + resolved.payment.fee))
      drafts := by
  obtain ⟨category, -, hdrafts⟩ := bind_eq_ok_iff.mp h
  cases hdrafts
  by_cases hfee : resolved.payment.fee = 0
  · have htotal : -resolved.payment.amount =
        -(resolved.payment.amount + resolved.payment.fee) := by omega
    rw [if_pos hfee]
    cases circular <;> exact Draft.ofEvent_single rfl rfl htotal
  · have htotal : -resolved.payment.amount + -resolved.payment.fee =
        -(resolved.payment.amount + resolved.payment.fee) := by omega
    rw [if_neg hfee]
    cases circular <;> exact Draft.ofEvent_pair rfl rfl ⟨rfl, rfl, rfl, rfl, rfl⟩ htotal

/-- The drafts of an invoice in a report are those of one event. -/
theorem Invoice.reportDrafts_ofEvent {invoice : Invoice} {context : EntryContext}
    {circular : Table Key Value} {drafts : List Draft}
    (h : invoice.reportDrafts context circular = .ok drafts) :
    Draft.OfEvent invoice.settleDate invoice.paid.count drafts := by
  obtain ⟨isSelf, -, h⟩ := bind_eq_ok_iff.mp h
  obtain ⟨draft, hdraft, h⟩ := bind_eq_ok_iff.mp h
  cases h
  exact Invoice.draft_ofEvent hdraft

/-- So are those of a payment. -/
theorem ResolvedPayment.reportDrafts_ofEvent {resolved : ResolvedPayment}
    {context : EntryContext} {circular : Table Key Value} {drafts : List Draft}
    (h : resolved.reportDrafts context circular = .ok drafts) :
    Draft.OfEvent resolved.settleTime (-(resolved.payment.amount + resolved.payment.fee))
      drafts := by
  obtain ⟨isSelf, -, h⟩ := bind_eq_ok_iff.mp h
  exact ResolvedPayment.drafts_ofEvent h

/-- The drafts of a forward: only its fee changes the balance. -/
theorem Forward.drafts_ofEvent (forward : Forward) :
    Draft.OfEvent forward.timestamp forward.fee.count forward.drafts := by
  unfold Forward.drafts
  by_cases hfee : forward.fee.count = 0
  · rw [if_pos hfee]
    exact Draft.ofEvent_single rfl rfl hfee.symm
  · rw [if_neg hfee]
    exact Draft.ofEvent_pair rfl rfl ⟨rfl, rfl, rfl, rfl, rfl⟩ (Int.zero_add _)

end NodeLedger
