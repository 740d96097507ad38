import NodeLedger.Proofs.Report.Block
import NodeLedger.Proofs.Report.PaidToSelf
import NodeLedger.Report.Records

/-!
# Circular entries

The entries of a report take the search for circular payments at its word.  An invoice is a circular
receipt, and a payment and its fee are circular, if and only if some payment listed of that hash
goes to the node itself, whether it has succeeded or not and whenever that was.

Main results:

- Structure `RecordedAs`: the kinds of the entries of an invoice or a payment, by what the payments
  of its hash tell.
- Theorem `OffChainSource.recordedAs_of_ends_report`: a report is made of such entries.
- Theorem `OffChainSource.circular_recognised`: the search is right, so are the entries, and those
  of one hash agree.
-/

namespace NodeLedger

open List NodeLedger.Action

/-! ## Entries -/

/-- Whether an entry of a kind is that of something circular, for the kinds that come in both
ways. -/
def EntryKind.circular? : EntryKind → Option Bool
  | .circularReceipt | .circularPayment | .circularPaymentFee => some true
  | .receipt | .payment | .fee => some false
  | _ => none

/-- A block of entries is that of an invoice or a payment of a hash.  Its kinds depend on whether
some payment of the hash goes to the node itself. -/
structure RecordedAs (own : Value) (payments : List ResolvedPayment) (hash : Value)
    (selfKinds otherKinds : List EntryKind) (block : List Entry) : Prop where
  txid_eq : ∀ entry ∈ block, entry.txid = hash
  kinds_of_self : ResolvedPayment.PaidToSelf own payments hash → block.map (·.kind) = selfKinds
  kinds_of_other : ¬ ResolvedPayment.PaidToSelf own payments hash → block.map (·.kind) = otherKinds

/-- The block of an invoice. -/
def Invoice.RecordedAs (own : Value) (payments : List ResolvedPayment) (invoice : Invoice) :
    List Entry → Prop :=
  NodeLedger.RecordedAs own payments invoice.paymentHash [.circularReceipt] [.receipt]

/-- The block of a payment. -/
def ResolvedPayment.RecordedAs (own : Value) (payments : List ResolvedPayment)
    (resolved : ResolvedPayment) : List Entry → Prop :=
  NodeLedger.RecordedAs own payments resolved.payment.paymentHash
    (.circularPayment :: if resolved.payment.fee = 0 then [] else [.circularPaymentFee])
    (.payment :: if resolved.payment.fee = 0 then [] else [.fee])

section Recorded

variable {own hash : Value} {payments : List ResolvedPayment} {table : Table Key Value}
  {context : EntryContext} {selfKinds otherKinds : List EntryKind} {block : List Entry}

/-- Drafts become a block of a hash if they have its name, and the kinds that the search tells. -/
theorem recordedAs_of_becomes {made : List Draft} {circular : Bool}
    (hfinds : ResolvedPayment.FindsCircular own payments table)
    (hcircular : isCircular table hash = .ok circular)
    (hbecome : Forall₂ (Draft.Becomes context.priceAt) made block)
    (htxid : ∀ draft ∈ made, draft.txid = hash)
    (hkinds : made.map (·.kind) = if circular then selfKinds else otherKinds) :
    RecordedAs own payments hash selfKinds otherKinds block := by
  have hiff := hfinds.isCircular_iff hcircular
  rw [← Draft.map_kind_eq hbecome] at hkinds
  refine ⟨?_, ?_, ?_⟩
  · intro entry hentry
    obtain ⟨draft, hdraft, hbecomes⟩ := exists_of_mem_right hbecome hentry
    rw [hbecomes.txid_eq, htxid draft hdraft]
  · intro hself
    rw [hkinds, if_pos (hiff.mpr hself)]
  · intro hother
    rw [hkinds, if_neg fun hself => hother (hiff.mp hself)]

/-- The block of an invoice is recorded as the search tells. -/
theorem Invoice.recordedAs_of_ends {invoice : Invoice} {s t : Session}
    (hfinds : ResolvedPayment.FindsCircular own payments table)
    (h : Ends (Draft.valueAll context (invoice.reportDrafts context table)) s block t) :
    invoice.RecordedAs own payments block := by
  obtain ⟨made, hmade, hbecome⟩ := Draft.ends_valueAll h
  obtain ⟨circular, hcircular, hmade⟩ := bind_eq_ok_iff.mp hmade
  obtain ⟨draft, hdraft, hmade⟩ := bind_eq_ok_iff.mp hmade
  cases hmade
  obtain ⟨category, -, hdraft⟩ := bind_eq_ok_iff.mp hdraft
  cases hdraft
  refine recordedAs_of_becomes hfinds hcircular hbecome (by simp) ?_
  cases circular <;> rfl

/-- So is that of a payment. -/
theorem ResolvedPayment.recordedAs_of_ends {resolved : ResolvedPayment} {s t : Session}
    (hfinds : FindsCircular own payments table)
    (h : Ends (Draft.valueAll context (resolved.reportDrafts context table)) s block t) :
    resolved.RecordedAs own payments block := by
  obtain ⟨made, hmade, hbecome⟩ := Draft.ends_valueAll h
  obtain ⟨circular, hcircular, hmade⟩ := bind_eq_ok_iff.mp hmade
  obtain ⟨category, -, hmade⟩ := bind_eq_ok_iff.mp hmade
  cases hmade
  by_cases hfee : resolved.payment.fee = 0
  · rw [if_pos hfee] at hbecome
    refine recordedAs_of_becomes hfinds hcircular hbecome (by simp [draft]) ?_
    rw [if_pos hfee, if_pos hfee]
    cases circular <;> rfl
  · rw [if_neg hfee] at hbecome
    refine recordedAs_of_becomes hfinds hcircular hbecome (by simp [draft]) ?_
    rw [if_neg hfee, if_neg hfee]
    cases circular <;> rfl

/-- An entry of a block tells whether some payment of its hash goes to the node itself. -/
theorem RecordedAs.circular?_eq (h : RecordedAs own payments hash selfKinds otherKinds block)
    (hself : ∀ kind ∈ selfKinds, kind.circular? = some true)
    (hother : ∀ kind ∈ otherKinds, kind.circular? = some false) {entry : Entry}
    (hentry : entry ∈ block) {circular : Bool} (hcircular : entry.kind.circular? = some circular) :
    circular = true ↔ ResolvedPayment.PaidToSelf own payments entry.txid := by
  have hkind : entry.kind ∈ block.map (·.kind) := List.mem_map_of_mem hentry
  rw [h.txid_eq entry hentry]
  by_cases hpaid : ResolvedPayment.PaidToSelf own payments hash
  · rw [h.kinds_of_self hpaid] at hkind
    rw [hself _ hkind] at hcircular
    cases hcircular
    simp [hpaid]
  · rw [h.kinds_of_other hpaid] at hkind
    rw [hother _ hkind] at hcircular
    cases hcircular
    simp [hpaid]

end Recorded

/-! ## Reports -/

namespace OffChainSource

/-- What a report has read before it makes entries: the invoices, and all payments with what is
known of their destinations. -/
def Reads (source : OffChainSource) (s : Session) (invoices : List Invoice) (own : Value)
    (resolved : List ResolvedPayment) : Prop :=
  ∃ s₁ line payments s₂ s₃ s₄, Ends source.invoices s invoices s₁ ∧
    Ends source.payments (s₁.write line) payments s₂ ∧
    Ends (payments.mapM (ResolvedPayment.resolve source.decode)) s₂ resolved s₃ ∧
    Ends source.ownPubkey s₃ own s₄

/-- A report has a block for each invoice and each payment of the period, recorded as the payments
tell, and blocks of forwards, which are never circular. -/
theorem recordedAs_of_ends_report {source : OffChainSource} {period : Period}
    {context : EntryContext} {s t : Session} {entries : List Entry}
    (h : Ends (source.report period context) s entries t) :
    ∃ invoices own resolved received paid passed, source.Reads s invoices own resolved ∧
      entries = (received ++ paid ++ passed).flatten ∧
      Forall₂ (Invoice.RecordedAs own resolved) (Invoice.select period invoices) received ∧
      Forall₂ (ResolvedPayment.RecordedAs own resolved) (ResolvedPayment.select period resolved)
        paid ∧
      ∀ block ∈ passed, ∀ entry ∈ block, entry.kind.circular? = none := by
  obtain ⟨invoices, s₁, _, payments, s₂, resolved, s₃, own, s₄, table, _, _, forwards, _, _, blocks,
    hinvoices, hpayments, hresolved, hown, htable, -, -, hblocks, rfl⟩ := ends_report h
  obtain ⟨hfinds, -, -⟩ := ResolvedPayment.findsCircular_of_ends htable
  obtain ⟨front, passed, rfl, hfront, hpassed⟩ := forall₂_append_left hblocks.mapM
  obtain ⟨received, paid, rfl, hreceived, hpaid⟩ := forall₂_append_left hfront
  rw [forall₂_map_left_iff] at hreceived hpaid hpassed
  refine ⟨invoices, own, resolved, received, paid, passed,
    ⟨s₁, _, payments, s₂, s₃, s₄, hinvoices, hpayments, hresolved, hown⟩, rfl, ?_, ?_, ?_⟩
  · refine hreceived.imp ?_
    rintro invoice block ⟨_, _, hvalue⟩
    exact Invoice.recordedAs_of_ends hfinds hvalue
  · refine hpaid.imp ?_
    rintro resolved block ⟨_, _, hvalue⟩
    exact ResolvedPayment.recordedAs_of_ends hfinds hvalue
  · intro block hblock entry hentry
    obtain ⟨forward, -, _, _, hvalue⟩ := exists_of_mem_right hpassed hblock
    obtain ⟨made, hmade, hbecome⟩ := Draft.ends_valueAll hvalue
    cases hmade
    have hkind : entry.kind ∈ forward.drafts.map (·.kind) := by
      rw [← Draft.map_kind_eq hbecome]
      exact List.mem_map_of_mem hentry
    unfold Forward.drafts at hkind
    split at hkind
    · rw [List.mem_singleton.mp hkind]
      rfl
    · rcases List.mem_pair.mp hkind with hkind | hkind <;> rw [hkind] <;> rfl

/-- Entries of one hash in a report agree on whether they are circular. -/
theorem circular?_agree {own : Value} {resolved : List ResolvedPayment} {invoices : List Invoice}
    {payments : List ResolvedPayment} {received paid passed : List (List Entry)}
    (hreceived : Forall₂ (Invoice.RecordedAs own resolved) invoices received)
    (hpaid : Forall₂ (ResolvedPayment.RecordedAs own resolved) payments paid)
    (hpassed : ∀ block ∈ passed, ∀ entry ∈ block, entry.kind.circular? = none)
    {one other : Entry} (hone : one ∈ (received ++ paid ++ passed).flatten)
    (hother : other ∈ (received ++ paid ++ passed).flatten)
    (hhash : one.txid.key? = other.txid.key?) {a b : Bool} (ha : one.kind.circular? = some a)
    (hb : other.kind.circular? = some b) : a = b := by
  have hiff : ∀ entry ∈ (received ++ paid ++ passed).flatten, ∀ circular,
      entry.kind.circular? = some circular →
      (circular = true ↔ ResolvedPayment.PaidToSelf own resolved entry.txid) := by
    intro entry hentry circular hcircular
    obtain ⟨block, hblock, hentry⟩ := List.mem_flatten.mp hentry
    rcases List.mem_append.mp hblock with hblock | hblock
    · rcases List.mem_append.mp hblock with hblock | hblock
      · obtain ⟨invoice, -, hrecorded⟩ := exists_of_mem_right hreceived hblock
        exact hrecorded.circular?_eq (by simp [EntryKind.circular?])
          (by simp [EntryKind.circular?]) hentry hcircular
      · obtain ⟨payment, -, hrecorded⟩ := exists_of_mem_right hpaid hblock
        refine hrecorded.circular?_eq ?_ ?_ hentry hcircular
        · by_cases hfee : payment.payment.fee = 0 <;> simp [hfee, EntryKind.circular?]
        · by_cases hfee : payment.payment.fee = 0 <;> simp [hfee, EntryKind.circular?]
    · rw [hpassed block hblock entry hentry] at hcircular
      cases hcircular
  rw [Bool.eq_iff_iff, hiff one hone a ha, hiff other hother b hb]
  unfold ResolvedPayment.PaidToSelf
  rw [hhash]

/-- Circular payments are recognised in the same way everywhere.

The search among all payments is refused if and only if two payments of a hash both have a known
destination, of which only one is the node itself.  Else it finds the hashes of the payments that go
to the node itself, and logs one warning for each payment whose destination is not known.

In a report, the entries of invoices and payments are circular if and only if some payment that has
been read of their hash goes to the node itself, so that those of one hash agree. -/
theorem circular_recognised :
    (∀ own payments (s : Session),
      (∀ resolved ∈ payments, resolved.payment.paymentHash.key?.isSome) →
      (ResolvedPayment.Refused own payments s ↔
        ∃ key, ResolvedPayment.Disagree own payments key) ∧
      ((∀ key, ¬ ResolvedPayment.Disagree own payments key) →
        ∃ table, Ends (ResolvedPayment.circular own payments) s table
            (s.writeAll (ResolvedPayment.unknownLines payments)) ∧
          ResolvedPayment.FindsCircular own payments table)) ∧
    ∀ (source : OffChainSource) period context s entries t,
      Ends (source.report period context) s entries t →
      ∃ invoices own resolved received paid passed, source.Reads s invoices own resolved ∧
        entries = (received ++ paid ++ passed).flatten ∧
        Forall₂ (Invoice.RecordedAs own resolved) (Invoice.select period invoices) received ∧
        Forall₂ (ResolvedPayment.RecordedAs own resolved) (ResolvedPayment.select period resolved)
          paid ∧
        (∀ block ∈ passed, ∀ entry ∈ block, entry.kind.circular? = none) ∧
        ∀ one ∈ entries, ∀ other ∈ entries, ∀ a b, one.txid.key? = other.txid.key? →
          one.kind.circular? = some a → other.kind.circular? = some b → a = b := by
  refine ⟨?_, ?_⟩
  · intro own payments s hkeys
    refine ⟨ResolvedPayment.refused_iff hkeys s, ?_⟩
    intro hagree
    obtain ⟨table, t, hends⟩ := ResolvedPayment.exists_ends_circular hkeys hagree s
    obtain ⟨hfinds, rfl, -⟩ := ResolvedPayment.findsCircular_of_ends hends
    exact ⟨table, hends, hfinds⟩
  · intro source period context s entries t h
    obtain ⟨invoices, own, resolved, received, paid, passed, hreads, rfl, hreceived, hpaid,
      hpassed⟩ := recordedAs_of_ends_report h
    refine ⟨invoices, own, resolved, received, paid, passed, hreads, rfl, hreceived, hpaid,
      hpassed, ?_⟩
    intro one hone other hother a b hhash ha hb
    exact circular?_agree hreceived hpaid hpassed hone hother hhash ha hb

end OffChainSource

/-- A payment of which only the hash and the destination matter. -/
def samplePayment (hash destination : Value) : ResolvedPayment where
  payment := { paymentHash := hash, preimage := .text "", amount := 5, fee := 0, status := .failed,
               sequenceNumber := 1 }
  destination := destination

/-- Payments that agree, one of them without a known destination. -/
def agreeingPayments : List ResolvedPayment :=
  [samplePayment (.text "circle") (.text "self"), samplePayment (.text "circle") .null,
    samplePayment (.text "bill") (.text "shop")]

/-- A node that has failed to pay one of its invoices itself, has then done so, and has paid a
shop. -/
def rebalancingNode : NodeRecords where
  ownPubkey := .text "self"
  invoices := [
    { paymentHash := .text "circle", preimage := .text "c", memo := .text "", value := .msat 5,
      paid := .msat 5, settleDate := 20, state := .settled }]
  payments := [
    { paymentHash := .text "circle", preimage := .text "", amount := 5, fee := 0, status := .failed,
      sequenceNumber := 1, htlcs := [{ status := .failed, hops := [{ pubkey := .text "self" }] }] },
    { paymentHash := .text "circle", preimage := .text "c", amount := 5, fee := 0,
      status := .succeeded, sequenceNumber := 2, htlcs := [{ status := .succeeded }] },
    { paymentHash := .text "bill", preimage := .text "b", amount := 7, fee := 2,
      status := .succeeded, sequenceNumber := 3
      htlcs := [{ status := .succeeded, hops := [{ pubkey := .text "shop" }],
                  resolveTime := 30000000000 }] }]

/-- The search among payments that agree, the same with one more that does not, and the report of
the node that pays itself: the payment that tells of the circle is not part of the report. -/
theorem circular_recognised_rebalancingNode :
    let context : EntryContext := { priceAt := fun _ => .ok (Price.nothing none) }
    (∃ table, Ends (ResolvedPayment.circular (.text "self") agreeingPayments) {} table
        (Session.writeAll {} [⟨.warn, "payment circle destination unknown"⟩]) ∧
      ResolvedPayment.FindsCircular (.text "self") agreeingPayments table) ∧
    ResolvedPayment.Refused (.text "self")
      (agreeingPayments ++ [samplePayment (.text "bill") (.text "self")]) {} ∧
    ∃ entries t, Ends (rebalancingNode.offChain.report ⟨0, 100⟩ context) {} entries t ∧
      entries.map (fun entry => (entry.txid.key?, entry.kind)) =
        [(some (.text "circle"), .circularReceipt), (some (.text "circle"), .circularPayment),
          (some (.text "bill"), .payment), (some (.text "bill"), .fee)] ∧
      ∃ invoices own resolved received paid passed,
        rebalancingNode.offChain.Reads {} invoices own resolved ∧
        entries = (received ++ paid ++ passed).flatten ∧
        Forall₂ (Invoice.RecordedAs own resolved) (Invoice.select ⟨0, 100⟩ invoices) received ∧
        Forall₂ (ResolvedPayment.RecordedAs own resolved)
          (ResolvedPayment.select ⟨0, 100⟩ resolved) paid := by
  intro context
  have hkeys : ∀ resolved ∈ agreeingPayments ++ [samplePayment (.text "bill") (.text "self")],
      resolved.payment.paymentHash.key?.isSome := by
    decide
  have hagree : ∀ key, ¬ ResolvedPayment.Disagree (.text "self") agreeingPayments key := by
    have hcircle : ∀ p ∈ agreeingPayments, p.toSelf? (.text "self") = some true →
        p.payment.paymentHash.key? = some (.text "circle") := by
      decide
    have hbill : ∀ p ∈ agreeingPayments, p.toSelf? (.text "self") = some false →
        p.payment.paymentHash.key? = some (.text "bill") := by
      decide
    rintro key ⟨⟨p, hp, hkey, hself⟩, q, hq, hkey', hother⟩
    rw [hcircle p hp hself] at hkey
    rw [hbill q hq hother, ← hkey] at hkey'
    exact absurd hkey' (by decide)
  have hdisagree : ResolvedPayment.Disagree (.text "self")
      (agreeingPayments ++ [samplePayment (.text "bill") (.text "self")]) (.text "bill") :=
    ⟨⟨samplePayment (.text "bill") (.text "self"), by simp, rfl, rfl⟩,
      samplePayment (.text "bill") (.text "shop"), by simp [agreeingPayments], rfl, rfl⟩
  refine ⟨?_, ?_, ?_⟩
  · have hfront := fun p hp => hkeys p (List.mem_append_left _ hp)
    exact (OffChainSource.circular_recognised.1 _ _ {} hfront).2 hagree
  · exact (OffChainSource.circular_recognised.1 _ _ {} hkeys).1.mpr ⟨_, hdisagree⟩
  · refine (exists_ends_of_outcome ?_).imp fun entries h => ⟨_, h.1, h.2, ?_⟩
    · decide +kernel
    · obtain ⟨invoices, own, resolved, received, paid, passed, hreads, hentries, hreceived, hpaid,
        -⟩ := OffChainSource.circular_recognised.2 _ _ _ _ _ _ h.1
      exact ⟨invoices, own, resolved, received, paid, passed, hreads, hentries, hreceived, hpaid⟩

end NodeLedger
