import NodeLedger.Proofs.Entry.Event

/-!
# Fees beside what they belong to

The entry of a fee has the kind that goes with what was moved, and a reference of its own: on chain
it is made of the transaction, for a payment of the reference of the payment.

Main results:

- Definition `EntryKind.feeKind`: the kind of the fee that goes with a kind.
- Structure `Entry.IsFeeOf`: an entry is the fee of what another one moves.
- Theorems `TransactionRole.feesNamed` and `feesNamed_of_offChainDrafts`: the drafts of fees are
  named for what they belong to, whatever record they are made of.
- Theorem `Draft.OfEvent.isEvent`: the entries of one record are one for what it moves and at most
  one for its fee, which stands behind it.
-/

namespace NodeLedger

open List NodeLedger.Action

/-- The kind of the fee of what is moved, if there may be one. -/
def EntryKind.feeKind : EntryKind → Option EntryKind
  | .localChannelOpen => some .channelOpenFee
  | .channelClose => some .channelCloseFee
  | .sweep => some .sweepFee
  | .receipt | .payment => some .fee
  | .circularPayment => some .circularPaymentFee
  | .forward => some .forwardFee
  | _ => none

/-! ## Drafts -/

/-- The draft of a fee has the kind that goes with what is moved.  On chain its reference is made of
the transaction, and that of the fee of a payment is made of the payment's reference. -/
structure Draft.NamedFor (fee moved : Draft) : Prop where
  kind_eq : moved.kind.feeKind = some fee.kind
  onChain_reference : fee.onChain = true → fee.reference = feeReference fee.txid
  payment_reference : fee.kind = .fee ∨ fee.kind = .circularPaymentFee →
    fee.reference = feeReference moved.reference

/-- Where there are two drafts, the second is that of the fee of the first. -/
def Draft.FeesNamed (drafts : List Draft) : Prop :=
  ∀ moved fee, drafts = [moved, fee] → fee.NamedFor moved

namespace Draft

/-- A single draft has no fee. -/
theorem feesNamed_single (moved : Draft) : FeesNamed [moved] := by
  intro _ _ h
  cases h

theorem feesNamed_pair {moved fee : Draft} (h : fee.NamedFor moved) : FeesNamed [moved, fee] := by
  rintro _ _ ⟨⟩
  exact h

end Draft

/-- The fee for opening a channel is named for the channel that the node opens. -/
theorem feesNamed_openDrafts (category channelId peer : Value) (capacity : Int) (byUs : Bool)
    (tx : Transaction) :
    Draft.FeesNamed (openDrafts category channelId peer capacity byUs tx) := by
  cases byUs with
  | false => exact Draft.feesNamed_single _
  | true => exact Draft.feesNamed_pair ⟨rfl, fun _ => rfl, by rintro (⟨⟨⟩⟩ | ⟨⟨⟩⟩)⟩

/-- The fee of a transaction that opens or closes no channel is named for the transaction. -/
theorem Transaction.feesNamed {tx : Transaction} {context : EntryContext}
    {kind feeKind : EntryKind} {drafts : List Draft} (hkind : kind.feeKind = some feeKind)
    (h : tx.drafts context kind feeKind = .ok drafts) : Draft.FeesNamed drafts := by
  obtain ⟨category, -, hdrafts⟩ := bind_eq_ok_iff.mp h
  cases hdrafts
  by_cases hfee : tx.fee = 0
  · rw [if_pos hfee]
    exact Draft.feesNamed_single _
  · rw [if_neg hfee]
    exact Draft.feesNamed_pair ⟨hkind, fun _ => rfl, fun _ => rfl⟩

/-- The fee of a transaction is named for what the transaction does. -/
theorem TransactionRole.feesNamed {context : EntryContext} {tx : Transaction}
    {closingFee : Option Int} {role : TransactionRole} {drafts : List Draft}
    (h : role.drafts context tx closingFee = .ok drafts) : Draft.FeesNamed drafts := by
  cases role with
  | opens channel =>
    obtain ⟨category, -, hdrafts⟩ := bind_eq_ok_iff.mp h
    cases hdrafts
    exact feesNamed_openDrafts _ _ _ _ _ tx
  | opened channel =>
    obtain ⟨category, -, hdrafts⟩ := bind_eq_ok_iff.mp h
    cases hdrafts
    exact feesNamed_openDrafts _ _ _ _ _ tx
  | closes channel =>
    obtain ⟨category, -, hdrafts⟩ := bind_eq_ok_iff.mp h
    cases hdrafts
    cases closingFee with
    | none => exact Draft.feesNamed_single _
    | some fee => exact Draft.feesNamed_pair ⟨rfl, fun _ => rfl, by rintro (⟨⟨⟩⟩ | ⟨⟨⟩⟩)⟩
  | sweeps => exact Transaction.feesNamed rfl h
  | transfers =>
    refine Transaction.feesNamed ?_ h
    split <;> rfl

/-- The fee of a payment is named for the payment. -/
theorem ResolvedPayment.feesNamed {resolved : ResolvedPayment} {circular : Bool}
    {context : EntryContext} {drafts : List Draft}
    (h : resolved.drafts circular context = .ok drafts) : Draft.FeesNamed drafts := by
  obtain ⟨category, -, hdrafts⟩ := bind_eq_ok_iff.mp h
  cases hdrafts
  by_cases hfee : resolved.payment.fee = 0
  · rw [if_pos hfee]
    exact Draft.feesNamed_single _
  · rw [if_neg hfee]
    cases circular <;> exact Draft.feesNamed_pair ⟨rfl, by rintro ⟨⟩, fun _ => rfl⟩

/-- The fee of a forward is named for the forward. -/
theorem Forward.feesNamed (forward : Forward) : Draft.FeesNamed forward.drafts := by
  unfold Forward.drafts
  by_cases hfee : forward.fee.count = 0
  · rw [if_pos hfee]
    exact Draft.feesNamed_single _
  · rw [if_neg hfee]
    exact Draft.feesNamed_pair ⟨rfl, by rintro ⟨⟩, by rintro (⟨⟨⟩⟩ | ⟨⟨⟩⟩)⟩

/-- The single draft of an invoice in a report has no fee. -/
theorem Invoice.feesNamed_reportDrafts {invoice : Invoice} {context : EntryContext}
    {circular : Table Key Value} {drafts : List Draft}
    (h : invoice.reportDrafts context circular = .ok drafts) : Draft.FeesNamed drafts := by
  obtain ⟨isSelf, -, h⟩ := bind_eq_ok_iff.mp h
  obtain ⟨draft, -, h⟩ := bind_eq_ok_iff.mp h
  cases h
  exact Draft.feesNamed_single draft

/-- The fee of a payment in a report is named for the payment. -/
theorem ResolvedPayment.feesNamed_reportDrafts {resolved : ResolvedPayment}
    {context : EntryContext} {circular : Table Key Value} {drafts : List Draft}
    (h : resolved.reportDrafts context circular = .ok drafts) : Draft.FeesNamed drafts := by
  obtain ⟨isSelf, -, h⟩ := bind_eq_ok_iff.mp h
  exact ResolvedPayment.feesNamed h

/-- The drafts of what happened off chain are each those of one event, and their fees are named for
what they belong to. -/
theorem feesNamed_of_offChainDrafts {context : EntryContext} {circular : Table Key Value}
    {invoices : List Invoice} {payments : List ResolvedPayment} {forwards : List Forward}
    {made : List Draft}
    (hmade : .ok made ∈ offChainDrafts context circular invoices payments forwards) :
    (∃ time total, Draft.OfEvent time total made) ∧ Draft.FeesNamed made := by
  unfold offChainDrafts at hmade
  rcases List.mem_append.mp hmade with hmade | hmade
  · rcases List.mem_append.mp hmade with hmade | hmade
    · obtain ⟨invoice, -, hdrafts⟩ := List.mem_map.mp hmade
      exact ⟨⟨_, _, Invoice.reportDrafts_ofEvent hdrafts⟩, Invoice.feesNamed_reportDrafts hdrafts⟩
    · obtain ⟨resolved, -, hdrafts⟩ := List.mem_map.mp hmade
      exact ⟨⟨_, _, ResolvedPayment.reportDrafts_ofEvent hdrafts⟩,
        ResolvedPayment.feesNamed_reportDrafts hdrafts⟩
  · obtain ⟨forward, -, hdrafts⟩ := List.mem_map.mp hmade
    cases hdrafts
    exact ⟨⟨_, _, forward.drafts_ofEvent⟩, forward.feesNamed⟩

/-! ## Entries -/

/-- An entry is that of the fee of what another one moves: it has the kind that goes with it, stands
at the same time, and agrees with it on the transaction, the category and where it happened.  Its
reference is made of the transaction on chain, and for a payment of the payment's reference. -/
structure Entry.IsFeeOf (fee moved : Entry) : Prop where
  kind_eq : moved.kind.feeKind = some fee.kind
  timestamp_eq : fee.timestamp = moved.timestamp
  txid_eq : fee.txid = moved.txid
  category_eq : fee.category = moved.category
  onChain_eq : fee.onChain = moved.onChain
  onChain_reference : fee.onChain = true → fee.reference = .text (fee.txid.display ++ ":-1")
  payment_reference : fee.kind = .fee ∨ fee.kind = .circularPaymentFee →
    fee.reference = .text (moved.reference.display ++ ":-1")

/-- Entries of one event: one for what it moves, behind it at most one for its fee. -/
def Entry.IsEvent (block : List Entry) : Prop :=
  ∃ moved fee, block = moved :: Option.toList fee ∧ moved.kind.isFee = false ∧
    ∀ entry ∈ fee, entry.IsFeeOf moved

namespace Draft

variable {priceAt : Int → Except Failure Price}

/-- What drafts of a fee and of what it belongs to become are such entries. -/
theorem NamedFor.isFeeOf {fee moved : Draft} (hnamed : fee.NamedFor moved)
    (hfee : fee.IsFeeOf moved) {feeEntry entry : Entry} (hfeeBecomes : fee.Becomes priceAt feeEntry)
    (hbecomes : moved.Becomes priceAt entry) : feeEntry.IsFeeOf entry := by
  obtain ⟨_, _, -, -, rfl⟩ := hfeeBecomes
  obtain ⟨_, _, -, -, rfl⟩ := hbecomes
  exact ⟨hnamed.kind_eq, hfee.timestamp_eq, hfee.txid_eq, hfee.category_eq, hfee.onChain_eq,
    hnamed.onChain_reference, hnamed.payment_reference⟩

/-- The drafts of an event become the entries of one. -/
theorem OfEvent.isEvent {time total : Int} {drafts : List Draft} (h : OfEvent time total drafts)
    (hnamed : FeesNamed drafts) {block : List Entry}
    (hbecome : Forall₂ (Becomes priceAt) drafts block) : Entry.IsEvent block := by
  obtain ⟨moved, fee, rfl, hkind, -, hfee⟩ := h.moved_fee
  obtain ⟨entry, rest, hmoved, hrest, rfl⟩ := List.forall₂_cons_left_iff.mp hbecome
  have hentry : entry.kind.isFee = false := by rw [hmoved.kind_eq, hkind]
  cases fee with
  | none =>
    cases hrest
    exact ⟨entry, none, rfl, hentry, by simp⟩
  | some fee =>
    obtain ⟨feeEntry, _, hfeeEntry, hnil, rfl⟩ := List.forall₂_cons_left_iff.mp hrest
    cases hnil
    refine ⟨entry, some feeEntry, rfl, hentry, ?_⟩
    rintro _ ⟨⟩
    exact (hnamed moved fee rfl).isFeeOf (hfee fee rfl) hfeeEntry hmoved

end Draft

end NodeLedger
