import NodeLedger.Proofs.Node.Balance
import NodeLedger.Proofs.Report.PaidToSelf

/-!
# Payments whose destination the node does not tell

The node may tell the destination of a payment with its parts or with what its payment request says.
Where no part has one and there is no payment request, the destination is not known: the search for
circular payments passes over such a payment with a warning.

Where there is a payment request that names nobody, the destination is taken to be the empty text.
It counts as known, and as somebody else: there is no warning, and another payment of the hash that
goes to the node itself contradicts it.

Main results:

- Structure `Payment.MadeOf` and theorem `Payment.exists_parts_of_readAll`: payments are made of the
  listed parts of their hash and group.
- Definitions `ResolvedPayment.PassedOver` and `ResolvedPayment.CountedAgainst`: what becomes of a
  payment without a destination, and of one with an empty destination.
- Theorem `Node.destination_of_unrouted`: which of both happens to a payment none of whose parts has
  a destination.
-/

namespace NodeLedger

open List NodeLedger.Action

/-! ## Payments and their parts -/

namespace Payment

variable {listed parts : List Value} {payment : Payment}

/-- Whether the node tells with a part where it went. -/
def isRouted (part : Value) : Bool :=
  (part.fieldOr "destination" .null).truthy

/-- The payment request of a payment made of some parts: that of the first one. -/
def requestIn (parts : List Value) : Value :=
  let first := parts.headD (.object [])
  (first.fieldOr "bolt11" .null).orElse (first.fieldOr "bolt12" (.text ""))

/-- A payment is made of the listed parts of its hash and of one group. -/
structure MadeOf (listed parts : List Value) (payment : Payment) : Prop where
  exists_group : ∃ group, payment.paymentHash.key? = some group.hash ∧
    parts = partsOf listed (some group)
  made : ofParts payment.paymentHash parts = .ok payment

/-- A payment has the hash of its parts, and the payment request of the first of them. -/
theorem names_of_ofParts {hash : Value} (h : ofParts hash parts = .ok payment) :
    payment.paymentHash = hash ∧ payment.paymentRequest = requestIn parts := by
  unfold ofParts at h
  obtain ⟨read, -, h⟩ := bind_eq_ok_iff.mp h
  obtain ⟨ids, -, h⟩ := bind_eq_ok_iff.mp h
  obtain ⟨request, hrequest, h⟩ := bind_eq_ok_iff.mp h
  obtain ⟨first, hfirst, hrequest⟩ := bind_eq_ok_iff.mp hrequest
  obtain ⟨second, hsecond, hrequest⟩ := bind_eq_ok_iff.mp hrequest
  cases hrequest
  cases h
  refine ⟨rfl, ?_⟩
  unfold requestIn
  dsimp only
  rw [Value.fieldOr_of_field hfirst, Value.fieldOr_of_fieldD hsecond]

/-- The payments of an answer are made of the parts listed in it. -/
theorem exists_parts_of_readAll {result : Value} {payments : List Payment}
    (h : readAll result = .ok payments) :
    ∃ listed, Wallet.itemsOf result "payments" = .ok listed ∧
      ∀ payment ∈ payments, ∃ parts, MadeOf listed parts payment := by
  unfold readAll at h
  obtain ⟨listed, hlisted, h⟩ := bind_eq_ok_iff.mp h
  obtain ⟨groups, hgroups, h⟩ := bind_eq_ok_iff.mp h
  have htogether := grouped_eq_ok hgroups
  refine ⟨listed, hlisted, ?_⟩
  intro payment hpayment
  obtain ⟨⟨key, group⟩, hentry, hmade⟩ := exists_of_mem_right (mapM_eq_ok_iff.mp h) hpayment
  have hhash : payment.paymentHash = group.hash := (gathers_of_ofParts hmade).1
  have hkey : group.hash.key? = some key.hash := key_of_grouped hgroups _ hentry
  have hparts : group.parts = partsOf listed (some key) := by
    rw [← htogether.parts_eq key, Table.get?_eq_some_of_mem htogether.nodup hentry]
    rfl
  refine ⟨group.parts, ⟨⟨key, ?_, hparts⟩, ?_⟩⟩
  · rw [hhash, hkey]
  · rw [hhash]
    exact hmade

/-- Where no part of a payment has a destination, no route tells where the payment went. -/
theorem MadeOf.route_eq_none (h : MadeOf listed parts payment)
    (hparts : ∀ part ∈ parts, isRouted part = false) :
    payment.routeDestination.toOption.bind Value.kept = none := by
  obtain ⟨-, hgathers⟩ := gathers_of_ofParts h.made
  unfold routeDestination
  rw [hgathers.htlcs_eq]
  cases parts with
  | nil => rfl
  | cons part rest =>
    have hhops : (htlcOf part).hops = [] := by
      have hnone : isRouted part = false := hparts part List.mem_cons_self
      show hopsOf (part.fieldOr "destination" .null) = []
      rw [hopsOf, if_neg (Bool.not_eq_true _ ▸ hnone)]
    simp only [List.map_cons, hhops, List.getLast?_nil]
    rfl

end Payment

/-- An object that names nobody whom a payment request might be of. -/
def PaymentRequest.NamesNobody (decoded : Value) : Prop :=
  ∃ fields, decoded = .object fields ∧ Table.get? fields "payee" = none ∧
    Table.get? fields "invoice_node_id" = none ∧ Table.get? fields "offer_node_id" = none

/-- A payment request that names nobody has the empty text as its destination. -/
theorem PaymentRequest.destination_of_namesNobody {decoded : Value} {request : PaymentRequest}
    (hnobody : NamesNobody decoded) (h : ofDecoded decoded = .ok request) :
    request.destination = .text "" := by
  obtain ⟨fields, rfl, hpayee, hinvoice, hoffer⟩ := hnobody
  unfold ofDecoded at h
  obtain ⟨payee, hpayee', h⟩ := bind_eq_ok_iff.mp h
  obtain ⟨invoice, hinvoice', h⟩ := bind_eq_ok_iff.mp h
  obtain ⟨offer, hoffer', h⟩ := bind_eq_ok_iff.mp h
  obtain ⟨description, -, h⟩ := bind_eq_ok_iff.mp h
  simp only [Value.field, Value.fieldD, Value.field?, hpayee, hinvoice, hoffer]
    at hpayee' hinvoice' hoffer'
  cases hpayee'
  cases hinvoice'
  cases hoffer'
  cases h
  rfl

/-! ## What the search makes of such payments -/

namespace ResolvedPayment

variable {own : Value} {front back : List ResolvedPayment} {missing : ResolvedPayment}

/-- The search for circular payments passes over one of them: it comes to what it does without that
payment, but for one more warning. -/
def PassedOver (front : List ResolvedPayment) (missing : ResolvedPayment)
    (back : List ResolvedPayment) : Prop :=
  ∀ own s, ((circular own (front ++ missing :: back)).outcome s).1 =
      ((circular own (front ++ back)).outcome s).1 ∧
    ∀ table t, Ends (circular own (front ++ missing :: back)) s table t →
      t = s.writeAll (unknownLines front ++ unknownLine missing :: unknownLines back)

/-- The search for circular payments takes one of them to go to somebody else: there is no warning
about it, and the search is also refused if another payment of the hash goes to the node itself. -/
def CountedAgainst (front : List ResolvedPayment) (missing : ResolvedPayment)
    (back : List ResolvedPayment) : Prop :=
  ∀ own s, own ≠ .text "" →
    (Refused own (front ++ missing :: back) s ↔
      Refused own (front ++ back) s ∨
        PaidToSelf own (front ++ back) missing.payment.paymentHash) ∧
    ∀ table t, Ends (circular own (front ++ missing :: back)) s table t →
      FindsCircular own (front ++ back) table ∧ t = s.writeAll (unknownLines (front ++ back))

/-- One more payment adds what it is paid to. -/
theorem paidTo_insert {key : Key} {toSelf : Bool} :
    PaidTo own (front ++ missing :: back) key toSelf ↔
      PaidTo own (front ++ back) key toSelf ∨
        missing.payment.paymentHash.key? = some key ∧ missing.toSelf? own = some toSelf := by
  have hsingle : PaidTo own [missing] key toSelf ↔
      missing.payment.paymentHash.key? = some key ∧ missing.toSelf? own = some toSelf := by
    simp [PaidTo]
  rw [List.append_cons, paidTo_append, paidTo_append, paidTo_append, hsingle, or_right_comm]

/-- What the search comes to is seen from the payments alone. -/
theorem outcome_circular (payments : List ResolvedPayment) (s : Session) :
    ((circular own payments).outcome s).1 =
      ((payments.foldlM (addDirection own) []).outcome s).1.map fun directions =>
        (directions.filter (·.2.toSelf)).map fun entry => (entry.1, entry.2.hash) := by
  unfold circular
  rw [outcome_bind]
  rcases (payments.foldlM (addDirection own) []).outcome s with ⟨failure | directions, t⟩ <;> rfl

/-- A payment whose destination is not known is passed over. -/
theorem passedOver_of_null (h : missing.destination = .null) : PassedOver front missing back := by
  have hstep : ∀ own directions s, (addDirection own directions missing).outcome s =
      (.ok directions, s.write (unknownLine missing)) := by
    intro own directions s
    unfold addDirection
    rw [h]
    rfl
  intro own s
  refine ⟨?_, ?_⟩
  · rw [outcome_circular, outcome_circular, List.foldlM_append, List.foldlM_append, outcome_bind,
      outcome_bind]
    rcases (front.foldlM (addDirection own) []).outcome s with ⟨failure | directions, t⟩
    · rfl
    · -- The warning is outside of what the search sees.
      have hsame := ((Inward.foldlM (inward_addDirection own) back directions).same
        (t.write (unknownLine missing)) t (Session.inside_write _ _)).1
      dsimp only
      rw [List.foldlM_cons, outcome_bind, hstep]
      exact congrArg _ hsame
  · intro table t hends
    obtain ⟨-, rfl, -⟩ := findsCircular_of_ends hends
    have hmissing : unknownLines [missing] = [unknownLine missing] := by
      simp [unknownLines, h, Value.kept]
    rw [List.append_cons, unknownLines_append, unknownLines_append, hmissing, List.append_assoc]
    rfl

/-- The empty text is no other value. -/
theorem toSelf?_of_empty (h : missing.destination = .text "") (hown : own ≠ .text "") :
    missing.toSelf? own = some false := by
  have hsame : (Value.text "").same own = false := by
    cases own with
    | text s =>
      have hne : "" ≠ s := fun hs => hown (congrArg Value.text hs.symm)
      exact beq_eq_false_iff_ne.mpr hne
    | _ => rfl
  unfold toSelf?
  rw [h]
  exact congrArg some hsame

/-- A payment whose destination is the empty text is taken to go to somebody else. -/
theorem countedAgainst_of_empty
    (hkeys : ∀ p ∈ front ++ missing :: back, p.payment.paymentHash.key?.isSome)
    (h : missing.destination = .text "") : CountedAgainst front missing back := by
  have hrest : ∀ p ∈ front ++ back, p.payment.paymentHash.key?.isSome := by
    intro p hp
    refine hkeys p ?_
    rw [List.mem_append] at hp ⊢
    exact hp.imp_right (List.mem_cons_of_mem _)
  intro own s hown
  have htoSelf := toSelf?_of_empty h hown
  have hself : ∀ key, PaidTo own (front ++ missing :: back) key true ↔
      PaidTo own (front ++ back) key true := by
    intro key
    rw [paidTo_insert, htoSelf]
    simp
  refine ⟨?_, ?_⟩
  · rw [refused_iff hkeys, refused_iff hrest]
    unfold Disagree PaidToSelf
    simp only [hself, paidTo_insert, htoSelf, and_true]
    constructor
    · rintro ⟨key, htrue, hfalse | hkey⟩
      · exact .inl ⟨key, htrue, hfalse⟩
      · exact .inr ⟨key, hkey, htrue⟩
    · rintro (⟨key, htrue, hfalse⟩ | ⟨key, hkey, htrue⟩)
      · exact ⟨key, htrue, .inl hfalse⟩
      · exact ⟨key, htrue, .inr hkey⟩
  · intro table t hends
    obtain ⟨hfinds, rfl, -⟩ := findsCircular_of_ends hends
    have hmissing : unknownLines [missing] = [] := by simp [unknownLines, h, Value.kept]
    refine ⟨⟨hfinds.nodup, fun key => (hfinds.mem_keys key).trans (hself key),
      hfinds.key_of_hash⟩, ?_⟩
    rw [List.append_cons, unknownLines_append, unknownLines_append, unknownLines_append, hmissing,
      List.append_nil]

/-- Where no route tells the destination of a payment, it is what the payment request says, and not
known if there is none. -/
theorem destination_of_resolve {decode : Value → Action PaymentRequest} {payment : Payment}
    {resolved : ResolvedPayment} {s t : Session} (h : Ends (resolve decode payment) s resolved t)
    (hroute : payment.routeDestination.toOption.bind Value.kept = none) :
    (payment.paymentRequest.truthy = false → resolved.destination = .null) ∧
      (payment.paymentRequest.truthy = true →
        ∃ request, Ends (decode payment.paymentRequest) s request t ∧
          resolved.destination = request.destination) := by
  unfold resolve requestDetails at h
  simp only [ends_bind, ends_pure] at h
  obtain ⟨details, _, hdetails, rfl, rfl⟩ := h
  refine ⟨?_, ?_⟩
  · intro hrequest
    rw [hrequest, if_neg Bool.false_ne_true, ends_pure] at hdetails
    rw [hroute, hdetails.1]
    rfl
  · intro hrequest
    rw [hrequest, if_pos rfl, map_eq_pure_bind, ends_bind] at hdetails
    obtain ⟨request, _, hdecode, hdetails⟩ := hdetails
    obtain ⟨rfl, rfl⟩ := ends_pure.mp hdetails
    exact ⟨request, hdecode, by rw [hroute]; rfl⟩

end ResolvedPayment

namespace Node

/-- The node decodes a payment request by its answer. -/
theorem ofDecoded_of_ends {s t : Session} {text decoded : Value} {request : PaymentRequest}
    (h : Ends (decode text) s request t)
    (hdecoded : s.node "decode" (.object [("string", text)]) = .ok decoded) :
    PaymentRequest.ofDecoded decoded = .ok request := by
  unfold decode Rpc.call Rpc.note at h
  simp only [ends_bind, ends_modify, ends_lift] at h
  obtain ⟨answer, _, ⟨_, _, rfl, hanswer⟩, hrequest, -⟩ := h
  unfold Ends at hanswer
  rw [Rpc.outcome_answer] at hanswer
  dsimp only at hanswer
  rw [hdecoded] at hanswer
  cases hanswer
  exact hrequest

/-- Payments that have been resolved are made of the parts that the node lists, and were resolved
while the node was the same. -/
theorem exists_parts_of_ends {s t u : Session} {payments : List Payment}
    {resolved : List ResolvedPayment} (hpayments : Ends Node.payments s payments t)
    (hresolved : Ends (payments.mapM (ResolvedPayment.resolve decode)) t resolved u) :
    ∀ missing ∈ resolved, ∃ parts before after,
      Payment.MadeOf (listedParts s.node) parts missing.payment ∧ before.node = s.node ∧
      Ends (ResolvedPayment.resolve decode missing.payment) before missing after := by
  obtain ⟨result, hnode, hread⟩ := Rpc.node_of_ends_read hpayments
  obtain ⟨listed, hlisted, hparts⟩ := Payment.exists_parts_of_readAll hread
  have hlistedParts : listedParts s.node = listed := Rpc.listed_eq hnode hlisted
  have hsource := inward_offChain
  have hstart : t.node = s.node := hsource.payments.node_eq hpayments
  have hkeep : ∀ payment r before after, before.node = s.node →
      Ends (ResolvedPayment.resolve decode payment) before r after → after.node = s.node := by
    intro payment r before after hbefore hends
    rw [(ResolvedPayment.inward_resolve hsource.decode payment).node_eq hends, hbefore]
  have hsteps := hresolved.mapM_of_invariant hkeep hstart
  intro missing hmissing
  obtain ⟨payment, hpayment, before, after, hbefore, hends⟩ := exists_of_mem_right hsteps hmissing
  obtain ⟨parts, hmade⟩ := hparts payment hpayment
  have hsame : missing.payment = payment := (resolve_eq hends).1
  rw [hlistedParts, hsame]
  exact ⟨parts, before, after, hmade, hbefore, hends⟩

/-- What becomes of a payment none of whose parts has a destination.

Without a payment request its destination is not known: the search for circular payments passes over
it with a warning.  With a payment request that the node decodes to an object that names nobody, its
destination is the empty text: the search takes it to go to somebody else, without a warning. -/
theorem destination_of_unrouted {s t u : Session} {payments : List Payment}
    {front back : List ResolvedPayment} {missing : ResolvedPayment}
    (hpayments : Ends Node.payments s payments t)
    (hresolved : Ends (payments.mapM (ResolvedPayment.resolve decode)) t
      (front ++ missing :: back) u) :
    ∃ parts, Payment.MadeOf (listedParts s.node) parts missing.payment ∧
      ((∀ part ∈ parts, Payment.isRouted part = false) →
        ((Payment.requestIn parts).truthy = false →
          missing.destination = .null ∧ ResolvedPayment.PassedOver front missing back) ∧
        ∀ decoded, (Payment.requestIn parts).truthy = true →
          s.node "decode" (.object [("string", Payment.requestIn parts)]) = .ok decoded →
          PaymentRequest.NamesNobody decoded →
          missing.destination = .text "" ∧ ResolvedPayment.CountedAgainst front missing back) := by
  have hall := exists_parts_of_ends hpayments hresolved
  have hkeys : ∀ p ∈ front ++ missing :: back, p.payment.paymentHash.key?.isSome := by
    intro p hp
    obtain ⟨_, _, _, hmade, -, -⟩ := hall p hp
    obtain ⟨group, hgroup, -⟩ := hmade.exists_group
    rw [hgroup]
    rfl
  have hmem : missing ∈ front ++ missing :: back :=
    List.mem_append_right _ List.mem_cons_self
  obtain ⟨parts, before, after, hmade, hbefore, hends⟩ := hall missing hmem
  refine ⟨parts, hmade, ?_⟩
  intro hunrouted
  have hrequest : missing.payment.paymentRequest = Payment.requestIn parts :=
    (Payment.names_of_ofParts hmade.made).2
  obtain ⟨hnone, hsome⟩ :=
    ResolvedPayment.destination_of_resolve hends (hmade.route_eq_none hunrouted)
  rw [hrequest] at hnone hsome
  refine ⟨?_, ?_⟩
  · intro habsent
    have hdestination := hnone habsent
    exact ⟨hdestination, ResolvedPayment.passedOver_of_null hdestination⟩
  · intro decoded hpresent hdecoded hnobody
    obtain ⟨request, hdecode, hdestination⟩ := hsome hpresent
    rw [← hbefore] at hdecoded
    rw [PaymentRequest.destination_of_namesNobody hnobody
      (ofDecoded_of_ends hdecode hdecoded)] at hdestination
    exact ⟨hdestination, ResolvedPayment.countedAgainst_of_empty hkeys hdestination⟩

end Node

/-! ## A payment request that names nobody -/

/-- A node that has failed to pay one of its invoices, with a payment request that names nobody, and
has paid it in another attempt.  It knows nothing of another payment that failed. -/
def namelessNode (method : String) (_payload : Value) : Except Value Value :=
  match method with
  | "listsendpays" => .ok (.object [("payments", .list [
      .object [("payment_hash", .text "circle"), ("groupid", .int 1), ("status", .text "failed"),
        ("bolt11", .text "request")],
      .object [("payment_hash", .text "lost"), ("status", .text "failed")],
      .object [("payment_hash", .text "circle"), ("groupid", .int 2), ("status", .text "complete"),
        ("amount_msat", .int 500), ("amount_sent_msat", .int 510), ("completed_at", .int 100),
        ("destination", .text "own")]])])
  | _ => .ok (.object [])

/-- What of a payment matters here: its hash, what has become of it, its payment request, and whether
it goes to the node itself. -/
def ResolvedPayment.outline (resolved : ResolvedPayment) :
    Option Key × PaymentStatus × Option Key × Option Bool :=
  (resolved.payment.paymentHash.key?, resolved.payment.status,
    resolved.payment.paymentRequest.key?, resolved.toSelf? (.text "own"))

/-- The payments of the nameless node: the failed attempt is said to go to somebody else. -/
theorem exists_namelessPayments :
    ∃ payments t missing lost paid u,
      Ends Node.payments { node := namelessNode } payments t ∧
      Ends (payments.mapM (ResolvedPayment.resolve Node.decode)) t [missing, lost, paid] u ∧
      missing.outline = (some (.text "circle"), .failed, some (.text "request"), some false) ∧
      lost.outline = (some (.text "lost"), .failed, some (.text ""), none) ∧
      paid.outline = (some (.text "circle"), .succeeded, some (.text ""), some true) := by
  have houtcome : (((do
      let payments ← Node.payments
      payments.mapM (ResolvedPayment.resolve Node.decode) : Action (List ResolvedPayment)).outcome
        { node := namelessNode }).1.toOption.map (·.map ResolvedPayment.outline)) =
      some [(some (.text "circle"), .failed, some (.text "request"), some false),
        (some (.text "lost"), .failed, some (.text ""), none),
        (some (.text "circle"), .succeeded, some (.text ""), some true)] := by
    decide +kernel
  obtain ⟨resolved, hends, hmap⟩ := exists_ends_of_outcome houtcome
  obtain ⟨payments, t, hpayments, hresolved⟩ := ends_bind.mp hends
  obtain ⟨missing, rest, rfl, hmissing, hmap⟩ := List.map_eq_cons_iff.mp hmap
  obtain ⟨lost, rest, rfl, hlost, hmap⟩ := List.map_eq_cons_iff.mp hmap
  obtain ⟨paid, rest, rfl, hpaid, hmap⟩ := List.map_eq_cons_iff.mp hmap
  rw [List.map_eq_nil_iff] at hmap
  rw [hmap] at hresolved
  exact ⟨payments, t, missing, lost, paid, _, hpayments, hresolved, hmissing, hlost, hpaid⟩

/-- No part of a payment of the nameless node that failed has a destination. -/
theorem unrouted_of_failed {parts : List Value} {payment : Payment}
    (h : Payment.MadeOf (Node.listedParts namelessNode) parts payment)
    (hfailed : payment.status = .failed) : ∀ part ∈ parts, Payment.isRouted part = false := by
  have hlisted : ∀ part ∈ Node.listedParts namelessNode, Payment.isComplete part = false →
      Payment.isRouted part = false := by
    decide +kernel
  obtain ⟨-, hgathers⟩ := Payment.gathers_of_ofParts h.made
  have hincomplete : parts.any Payment.isComplete = false := by
    rw [← hgathers.succeeded_eq, hfailed]
    rfl
  intro part hpart
  obtain ⟨group, -, hparts⟩ := h.exists_group
  have hmem : part ∈ Node.listedParts namelessNode := by
    rw [hparts] at hpart
    exact (List.mem_filter.mp hpart).1
  rw [List.any_eq_false] at hincomplete
  exact hlisted part hmem (Bool.eq_false_iff.mpr (hincomplete part hpart))

/-- What the nameless node tells of a payment request names nobody. -/
theorem namesNobody_namelessNode (request : Value) :
    namelessNode "decode" (.object [("string", request)]) = .ok (.object []) ∧
      PaymentRequest.NamesNobody (.object []) :=
  ⟨rfl, [], rfl, rfl, rfl, rfl⟩

/-- What becomes of the two failed payments of the nameless node. -/
theorem Node.destination_of_unrouted_namelessNode :
    ∃ payments t missing lost paid u,
      Ends Node.payments { node := namelessNode } payments t ∧
      Ends (payments.mapM (ResolvedPayment.resolve Node.decode)) t [missing, lost, paid] u ∧
      missing.destination = .text "" ∧ ResolvedPayment.CountedAgainst [] missing [lost, paid] ∧
      lost.destination = .null ∧ ResolvedPayment.PassedOver [missing] lost [paid] := by
  obtain ⟨payments, t, missing, lost, paid, u, hpayments, hresolved, hmissing, hlost, -⟩ :=
    exists_namelessPayments
  simp only [ResolvedPayment.outline, Prod.mk.injEq] at hmissing hlost
  obtain ⟨-, hfailed, hrequest, -⟩ := hmissing
  obtain ⟨-, hfailed', hrequest', -⟩ := hlost
  have hfirst : Ends (payments.mapM (ResolvedPayment.resolve decode)) t
      ([] ++ missing :: [lost, paid]) u := hresolved
  have hsecond : Ends (payments.mapM (ResolvedPayment.resolve decode)) t
      ([missing] ++ lost :: [paid]) u := hresolved
  obtain ⟨parts, hmade, hempty⟩ := destination_of_unrouted hpayments hfirst
  obtain ⟨parts', hmade', hnull⟩ := destination_of_unrouted hpayments hsecond
  have htext : Payment.requestIn parts = .text "request" := by
    rw [← (Payment.names_of_ofParts hmade.made).2]
    exact Value.eq_text_of_key? hrequest
  have htext' : Payment.requestIn parts' = .text "" := by
    rw [← (Payment.names_of_ofParts hmade'.made).2]
    exact Value.eq_text_of_key? hrequest'
  obtain ⟨hdecoded, hnobody⟩ := namesNobody_namelessNode (Payment.requestIn parts)
  have hpresent : (Payment.requestIn parts).truthy = true := by
    rw [htext]
    decide
  have habsent : (Payment.requestIn parts').truthy = false := by
    rw [htext']
    decide
  obtain ⟨hdestination, hcounted⟩ :=
    (hempty (unrouted_of_failed hmade hfailed)).2 _ hpresent hdecoded hnobody
  obtain ⟨hdestination', hpassed⟩ := (hnull (unrouted_of_failed hmade' hfailed')).1 habsent
  exact ⟨payments, t, missing, lost, paid, u, hpayments, hresolved, hdestination, hcounted,
    hdestination', hpassed⟩

/-- A payment whose destination the node does not tell may change what the search comes to: that of
the nameless node has a destination, and the search among its payments is refused, but ends without
that payment. -/
theorem Node.circular_namelessNode :
    ∃ payments t missing lost paid u,
      Ends Node.payments { node := namelessNode } payments t ∧
      Ends (payments.mapM (ResolvedPayment.resolve Node.decode)) t [missing, lost, paid] u ∧
      (∃ parts decoded, Payment.MadeOf (listedParts namelessNode) parts missing.payment ∧
        (∀ part ∈ parts, Payment.isRouted part = false) ∧
        namelessNode "decode" (.object [("string", Payment.requestIn parts)]) = .ok decoded ∧
        PaymentRequest.NamesNobody decoded) ∧
      missing.destination.kept.isSome ∧
      ResolvedPayment.Refused (.text "own") [missing, lost, paid] u ∧
      ∃ table v, Ends (ResolvedPayment.circular (.text "own") [lost, paid]) u table v := by
  obtain ⟨payments, t, missing, lost, paid, u, hpayments, hresolved, hmissing, hlost, hpaid⟩ :=
    exists_namelessPayments
  simp only [ResolvedPayment.outline, Prod.mk.injEq] at hmissing hlost hpaid
  obtain ⟨parts, _, _, hmade, -, -⟩ :=
    exists_parts_of_ends hpayments hresolved missing List.mem_cons_self
  obtain ⟨hdecoded, hnobody⟩ := namesNobody_namelessNode (Payment.requestIn parts)
  have hkeys : ∀ p ∈ [missing, lost, paid], p.payment.paymentHash.key?.isSome := by
    simp [hmissing.1, hlost.1, hpaid.1]
  have hdisagree : ResolvedPayment.Disagree (.text "own") [missing, lost, paid] (.text "circle") :=
    ⟨⟨paid, by simp, hpaid.1, hpaid.2.2.2⟩, missing, by simp, hmissing.1, hmissing.2.2.2⟩
  have hagree : ∀ key, ¬ ResolvedPayment.Disagree (.text "own") [lost, paid] key := by
    rintro key ⟨-, p, hp, -, hother⟩
    simp only [List.mem_cons, List.not_mem_nil, or_false] at hp
    rcases hp with rfl | rfl
    · simp [hlost.2.2.2] at hother
    · simp [hpaid.2.2.2] at hother
  have hknown : missing.destination.kept.isSome := by
    have htoSelf := hmissing.2.2.2
    unfold ResolvedPayment.toSelf? at htoSelf
    obtain ⟨destination, hdestination, -⟩ := Option.map_eq_some_iff.mp htoSelf
    rw [hdestination]
    rfl
  refine ⟨payments, t, missing, lost, paid, u, hpayments, hresolved,
    ⟨parts, _, hmade, unrouted_of_failed hmade hmissing.2.1, hdecoded, hnobody⟩, hknown,
    (ResolvedPayment.refused_iff hkeys u).mpr ⟨_, hdisagree⟩, ?_⟩
  have hrest := fun p hp => hkeys p (List.mem_cons_of_mem _ hp)
  exact ResolvedPayment.exists_ends_circular hrest hagree u

end NodeLedger
