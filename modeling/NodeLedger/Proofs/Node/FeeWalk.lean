import NodeLedger.Proofs.Node.Decoded
import NodeLedger.Proofs.Numeral.Hexadecimal

/-!
# Fees from what is spent

Without a bookkeeper the fee of a transaction is worked out from the wallet: what the outputs that
it spends are worth, less what its own outputs are worth.  The amounts go through bitcoin, and each
is looked up by the place of its output, but the fee is exact all the same.

Main results:

- Definition `Wallet.HasTable`: a session whose wallet has a table of transactions, remembered or
  not.
- Theorem `Wallet.comes_fee`: a fee follows from the table of the wallet alone.
- Definition `Wallet.Spends`: an input spends an output of a transaction of the table.
- Theorem `Wallet.exact_spent`: what an input spends is worth the amount of that output.
- Theorem `Wallet.fee_of_walk`: the fee is exact if all amounts are whole satoshis, and otherwise
  one of them is refused.
-/

namespace NodeLedger

open List NodeLedger.Action NodeLedger.Numeral NodeLedger.Text

/-! ## Fees that follow from a table -/

namespace Fee

variable {w : Situation}

theorem comes_feeLift {α : Type} (r : Except Failure α) : Comes w (Fee.lift r : Action α) r := by
  cases r with
  | ok a => exact comes_pure a
  | error failure => exact comes_throw failure

theorem lift_eq {α : Type} (r : Except Failure α) : (Fee.lift r : Except Failure α) = r := by
  cases r <;> rfl

variable {lookup : String → Action Value} {known : String → Except Failure Value}

/-- An input spends what stands in the place that it names. -/
theorem spent_eq {input txid place source outputs output : Value} {id : String}
    (htxid : input.required "txid" = .ok txid) (hcheck : checkTxid txid = .ok id)
    (hsource : known id = .ok source) (houtputs : source.required "vout" = .ok outputs)
    (hplace : input.required "vout" = .ok place) (hitem : outputs.item place = .ok output) :
    spent known input = worth output := by
  unfold spent worth
  simp only [lift_eq, bind, Except.bind, htxid, hcheck, hsource, houtputs, hplace, hitem]

/-- A fee is what the inputs of a transaction spend less what its outputs are worth. -/
theorem ofTransaction_eq {txid tx : Value} {id : String} {vin vout : List Value}
    (hcheck : checkTxid txid = .ok id) (htx : known id = .ok tx)
    (hvin : tx.fieldD "vin" (.list []) = .ok (.list vin))
    (hvout : tx.fieldD "vout" (.list []) = .ok (.list vout)) :
    ofTransaction known txid = do
      let received ← vin.mapM (spent known)
      let paid ← vout.mapM worth
      return Amount.total received - Amount.total paid := by
  unfold ofTransaction
  simp only [lift_eq, hcheck, htx, hvin, hvout, bind, Except.bind, Value.parts]

/-- What follows for a difference if both its parts are exact. -/
theorem exact_sub {amounts amounts' : List Int} {received paid : Except Failure (List Int)}
    (h : Exact amounts (received.map Amount.total)) (h' : Exact amounts' (paid.map Amount.total)) :
    ((∀ amount ∈ amounts ++ amounts', 1000 ∣ amount) →
      ∃ fee, (do return Amount.total (← received) - Amount.total (← paid)) = Except.ok fee ∧
        fee * 1000 = amounts.sum - amounts'.sum) ∧
    ((∃ amount ∈ amounts ++ amounts', ¬ 1000 ∣ amount) →
      ∃ text, (do return Amount.total (← received) - Amount.total (← paid)) =
        Except.error (.value (.bitcoinAmount text))) := by
  cases received with
  | error failure =>
    cases h with
    | refused text hbroken =>
      obtain ⟨amount, hamount, hpart⟩ := hbroken
      have hmem := List.mem_append_left amounts' hamount
      exact ⟨fun hall => absurd (hall amount hmem) hpart, fun _ => ⟨text, rfl⟩⟩
  | ok received =>
    cases h with
    | whole _ hwhole hsum =>
      cases paid with
      | error failure =>
        cases h' with
        | refused text hbroken =>
          obtain ⟨amount, hamount, hpart⟩ := hbroken
          have hmem := List.mem_append_right amounts hamount
          exact ⟨fun hall => absurd (hall amount hmem) hpart, fun _ => ⟨text, rfl⟩⟩
      | ok paid =>
        cases h' with
        | whole _ hwhole' hsum' =>
          refine ⟨fun _ => ⟨_, rfl, by rw [hsum, hsum', Int.sub_mul]⟩, ?_⟩
          rintro ⟨amount, hamount, hpart⟩
          exact absurd (List.forall_mem_append.mpr ⟨hwhole, hwhole'⟩ amount hamount) hpart

/-- What an input spends follows from what is known of each transaction. -/
theorem comes_spent (h : ∀ id, Comes w (lookup id) (known id)) (input : Value) :
    Comes w (spent lookup input) (spent known input) := by
  unfold spent
  simp only [lift_eq]
  refine (comes_feeLift _).bind fun id _ => ?_
  exact (h id).bind fun source _ => comes_feeLift _

/-- So does a fee. -/
theorem comes_ofTransaction (h : ∀ id, Comes w (lookup id) (known id)) (txid : Value) :
    Comes w (ofTransaction lookup txid) (ofTransaction known txid) := by
  unfold ofTransaction
  simp only [lift_eq]
  refine (comes_feeLift _).bind fun id _ => ?_
  refine (h id).bind fun tx _ => ?_
  refine (comes_feeLift _).bind fun inputs _ => ?_
  refine (comes_mapM (comes_spent h) inputs).bind fun received _ => ?_
  exact (comes_feeLift _).bind fun paid _ => comes_pure _

end Fee

/-- The wallet of a session has a table of transactions: the one that is remembered or, if none is,
the one that the node lists. -/
def Wallet.HasTable (table : Table Key WalletTransaction) (s : Session) : Prop :=
  s.cache.transactions = some table ∨
    s.cache.transactions = none ∧ Wallet.listed s.node = .ok table

/-- The situation of all sessions at a time whose wallet has the same table. -/
def Situation.ofTable (table : Table Key WalletTransaction) (now : Int) : Situation where
  holds session := session.now = now ∧ Wallet.HasTable table session
  now := now
  now_eq _ h := h.1
  holds_write _ _ h := h
  holds_noteValued _ _ h := h

namespace Wallet

variable {now : Int} {table : Table Key WalletTransaction}

/-- The table is found, whether it is remembered or fetched. -/
theorem always_transactions : Always (.ofTable table now) transactions table := by
  rintro s ⟨hnow, hremembered | ⟨hnone, hlisted⟩⟩
  · refine ⟨s, ?_, hnow, .inl hremembered⟩
    simp [Ends, transactions, NodeCache.current, outcome_bind, hremembered]
  · obtain ⟨result, hgiven, hread⟩ := bind_eq_ok_iff.mp hlisted
    have hask : Ends (Rpc.ask "listtransactions") s result
        { s with calls := s.calls ++ [⟨"listtransactions", .object []⟩] } :=
      (Rpc.outcome_call _ _ s).trans (by rw [hgiven])
    obtain ⟨t, hfetch, htime, hremembered⟩ : ∃ t, Ends fetchTransactions s table t ∧
        t.now = s.now ∧ t.cache.transactions = some table :=
      ⟨_, ends_bind.mpr ⟨result, _, hask, ends_bind.mpr ⟨table, _, ends_lift.mpr ⟨hread, rfl⟩,
        ends_bind.mpr ⟨(), _, ends_modify.mpr rfl, ends_pure.mpr ⟨rfl, rfl⟩⟩⟩⟩, rfl, rfl⟩
    refine ⟨t, ?_, htime.trans hnow, .inl hremembered⟩
    have hsame : transactions.outcome s = fetchTransactions.outcome s := by
      simp [transactions, NodeCache.current, outcome_bind, hnone]
    exact hsame.trans hfetch

/-- A transaction of a table in decoded form. -/
def detailsIn (table : Table Key WalletTransaction) (txid : Value) : Except Failure Value := do
  match table.get? (← txid.key) with
  | some tx => decoded txid tx.content
  | none => throw (.data (.unknownTransaction txid.display))

theorem comes_details (txid : Value) :
    Comes (.ofTable table now) (details txid) (detailsIn table txid) := by
  unfold details
  change Comes _ _ (Except.ok table >>= (detailsIn · txid))
  refine always_transactions.comes.bind fun txs _ => ?_
  unfold detailsIn
  refine (comes_lift _).bind fun key _ => ?_
  cases txs.get? key with
  | some tx => exact comes_lift _
  | none => exact comes_throw _

/-- The fee of a transaction follows from the table of the wallet. -/
theorem comes_fee (txid : Value) :
    Comes (.ofTable table now) (fee txid)
      (Fee.ofTransaction (fun id => detailsIn table (.text id)) txid) :=
  Fee.comes_ofTransaction (fun id => comes_details (.text id)) txid

/-! ## What inputs spend -/

/-- A text is the id of a transaction: 64 hexadecimal digits. -/
def IsTxid (id : String) : Prop :=
  id.length = 64 ∧ ∀ c ∈ id.toList, (hexDigit? c).isSome = true

instance (id : String) : Decidable (IsTxid id) :=
  decidable_of_iff (id.length = 64 ∧ id.toList.all fun c => (hexDigit? c).isSome)
    (by simp [IsTxid])

theorem checkTxid_eq {id : String} (h : IsTxid id) : Fee.checkTxid (.text id) = .ok id := by
  have hne : id.toList ≠ [] := by
    intro hnil
    have hlength := h.1
    rw [← String.length_toList, hnil] at hlength
    cases hlength
  obtain ⟨n, hread⟩ := exists_readInteger_of_hexDigit h.2 hne
  unfold Fee.checkTxid
  simp [Value.size, h.1, hread, bind, Except.bind]
  rfl

/-- The wallet knows a transaction by its id, and it can be told in decoded form. -/
structure Walkable (table : Table Key WalletTransaction) (id : String) (tx : WalletTransaction) :
    Prop where
  isTxid : IsTxid id
  known : table.get? (.text id) = some tx
  decodes : Decodes tx.content

/-- An input spends an output of a transaction that the wallet knows, by its place there. -/
def Spends (table : Table Key WalletTransaction) (input output : Value) : Prop :=
  ∃ id source, input.required "txid" = .ok (.text id) ∧
    input.required "index" = .ok (placeOf output) ∧ Walkable table id source ∧
    output ∈ itemsIn source.content "outputs"

/-- A transaction that can be walked is found in decoded form. -/
theorem exists_detailsIn {id : String} {tx : WalletTransaction} (h : Walkable table id tx) :
    ∃ ordered vin vout,
      detailsIn table (.text id) =
        .ok (.object [("txid", .text id), ("vin", .list vin), ("vout", .list vout)]) ∧
      (itemsIn tx.content "inputs").mapM decodedInput = .ok vin ∧
      ordered ~ itemsIn tx.content "outputs" ∧
      ordered.map placeOf = places (itemsIn tx.content "outputs").length ∧
      Forall₂ (fun output v => Fee.Exact [output.msat "amount_msat"] (Fee.worth v))
        ordered vout := by
  obtain ⟨ordered, vin, vout, hdecoded, hrest⟩ := exists_decoded h.decodes (.text id)
  refine ⟨ordered, vin, vout, bind_eq_ok_iff.mpr ⟨.text id, rfl, ?_⟩, hrest⟩
  rw [h.known]
  exact hdecoded

/-- Outputs in their places are found by these. -/
theorem exists_getElem?_of_placeOf {ordered : List Value} {count : Nat}
    (hplaces : ordered.map placeOf = places count) {output : Value} (houtput : output ∈ ordered) :
    ∃ i : Nat, placeOf output = .int i ∧ ordered[i]? = some output := by
  obtain ⟨i, hi⟩ := List.mem_iff_getElem?.mp houtput
  have hplace : (places count)[i]? = some (placeOf output) := by
    rw [← hplaces, List.getElem?_map, hi]
    rfl
  unfold places at hplace
  rw [List.getElem?_map] at hplace
  obtain ⟨j, hj, hsame⟩ := Option.map_eq_some_iff.mp hplace
  obtain ⟨_, rfl⟩ := List.getElem?_eq_some_iff.mp hj
  rw [List.getElem_range] at hsame
  exact ⟨i, hsame.symm, hi⟩

/-- What an input spends is worth the amount of the output, or refused. -/
theorem exact_spent {input output v : Value} (h : Spends table input output)
    (hv : decodedInput input = .ok v) :
    Fee.Exact [output.msat "amount_msat"]
      (Fee.spent (fun id => detailsIn table (.text id)) v) := by
  obtain ⟨id, source, hid, hplace, hwalk, houtput⟩ := h
  obtain ⟨ordered, vin, vout, hdetails, -, hperm, hplaces, hworth⟩ := exists_detailsIn hwalk
  obtain ⟨i, hi, hfound⟩ := exists_getElem?_of_placeOf hplaces (hperm.mem_iff.mpr houtput)
  obtain ⟨decodedOutput, hsame, hexact⟩ := exists_getElem?_left hworth hfound
  have hinput : v = .object [("txid", .text id), ("vout", .int i)] := by
    unfold decodedInput at hv
    rw [hid, hplace, hi] at hv
    exact (Except.ok.inj hv).symm
  have hitem : (Value.list vout).item (.int i) = .ok decodedOutput := by
    have hnatural : ¬ (i : Int) < 0 := by omega
    simp [Value.item, Value.part, Value.atIndex, hnatural, hsame, Value.part.pick]
  subst hinput
  rw [Fee.spent_eq rfl (checkTxid_eq hwalk.isTxid) hdetails rfl rfl hitem]
  exact hexact

/-- A fee is worked out without rounding.  If every output that the transaction spends and every one
of its own is worth whole satoshis, the fee is the difference of what they are worth; otherwise one
of them is refused. -/
theorem fee_of_walk {s : Session} (hs : HasTable table s) {id : String} {tx : WalletTransaction}
    (htx : Walkable table id tx) {spent : List Value}
    (hspent : Forall₂ (Spends table) (itemsIn tx.content "inputs") spent) :
    ((∀ output ∈ spent ++ itemsIn tx.content "outputs", 1000 ∣ output.msat "amount_msat") →
      ∃ sats t, Ends (fee (.text id)) s sats t ∧
        sats * 1000 = worth spent - worth (itemsIn tx.content "outputs")) ∧
    ((∃ output ∈ spent ++ itemsIn tx.content "outputs", ¬ 1000 ∣ output.msat "amount_msat") →
      ∃ text t, (fee (.text id)).outcome s = (.error (.value (.bitcoinAmount text)), t)) := by
  obtain ⟨ordered, vin, vout, hdetails, hvin, hperm, -, hworth⟩ := exists_detailsIn htx
  have hreceived : Fee.Exact (spent.map (Value.msat · "amount_msat"))
      ((vin.mapM (Fee.spent fun id => detailsIn table (.text id))).map Amount.total) := by
    refine Fee.exact_mapM (forall₂_map_left_iff.mpr ?_)
    exact forall₂_trans hspent.flip (mapM_eq_ok_iff.mp hvin) fun _ _ _ hinput hv =>
      exact_spent hinput hv
  have hpaid : Fee.Exact ((itemsIn tx.content "outputs").map (Value.msat · "amount_msat"))
      ((vout.mapM Fee.worth).map Amount.total) :=
    (Fee.exact_mapM (forall₂_map_left_iff.mpr hworth)).perm (hperm.map _)
  have hfee : Fee.ofTransaction (fun id => detailsIn table (.text id)) (.text id) = _ :=
    Fee.ofTransaction_eq (checkTxid_eq htx.isTxid) hdetails rfl rfl
  obtain ⟨t, houtcome, -⟩ := comes_fee (.text id) s ⟨rfl, hs⟩
  obtain ⟨hexact, hrefused⟩ := Fee.exact_sub hreceived hpaid
  rw [hfee] at houtcome
  rw [← List.map_append, List.forall_mem_map] at hexact
  refine ⟨fun hall => ?_, fun hbroken => ?_⟩
  · obtain ⟨sats, hsats, hdifference⟩ := hexact hall
    exact ⟨sats, t, houtcome.trans (congrArg (·, t) hsats), hdifference⟩
  · obtain ⟨output, houtput, hpart⟩ := hbroken
    rw [← List.map_append] at hrefused
    obtain ⟨text, hfailure⟩ := hrefused ⟨_, List.mem_map_of_mem houtput, hpart⟩
    exact ⟨text, t, houtcome.trans (congrArg (·, t) hfailure)⟩

/-- A transaction as the node lists it: the outputs that it spends by their transactions and places,
and the places and amounts of its own. -/
def listing (id : String) (inputs : List (String × Int)) (outputs : List (Int × Int)) : Value :=
  .object [("hash", .text id),
    ("inputs", .list (inputs.map fun (id, place) =>
      .object [("txid", .text id), ("index", .int place)])),
    ("outputs", .list (outputs.map fun (place, amount) =>
      .object [("index", .int place), ("amount_msat", .int amount)]))]

theorem decodes_listing (id : String) (inputs : List (String × Int)) {outputs : List (Int × Int)}
    (hplaces : outputs.map (·.1) ~ (List.range outputs.length).map fun i : Nat => (i : Int))
    (hamounts : ∀ output ∈ outputs, 0 ≤ output.2 ∧ output.2 < 10 ^ 28) :
    Decodes (listing id inputs outputs) where
  inputs := rfl
  outputs := rfl
  named input hinput := by
    obtain ⟨entry, -, rfl⟩ := List.mem_map.mp hinput
    exact ⟨_, _, rfl, rfl⟩
  numbered := by
    refine ⟨fun output houtput => ?_, ?_⟩
    · obtain ⟨entry, -, rfl⟩ := List.mem_map.mp houtput
      exact ⟨_, rfl⟩
    · have hnumbers := hplaces.map Value.int
      rw [List.map_map, List.map_map] at hnumbers
      change (outputs.map _).map placeOf ~ places (outputs.map _).length
      rw [List.map_map, List.length_map]
      exact hnumbers
  amounts output houtput := by
    obtain ⟨entry, hentry, rfl⟩ := List.mem_map.mp houtput
    exact hamounts entry hentry

/-- The id of the transaction that is spent in the sample. -/
def fundingId : String :=
  String.ofList (List.replicate 64 'a')

/-- The id of one that spends both its outputs. -/
def spendingId : String :=
  String.ofList (List.replicate 64 'b')

/-- The id of one that spends one of them, and has an output that is not worth whole satoshis. -/
def brokenId : String :=
  String.ofList (List.replicate 64 'c')

/-- A sample of transactions.  The outputs of the first are not listed in their places. -/
def walkedListings : List Value :=
  [listing fundingId [] [(1, 2500000), (0, 1000000)],
    listing spendingId [(fundingId, 0), (fundingId, 1)] [(0, 3359000), (1, 1000)],
    listing brokenId [(fundingId, 1)] [(0, 2400500)]]

/-- A node that lists them. -/
def walkedNode (method : String) (_payload : Value) : Except Value Value :=
  if method = "listtransactions" then .ok (.object [("transactions", .list walkedListings)])
  else .error (.text "unknown command")

/-- The table of its wallet. -/
def walkedTable : Table Key WalletTransaction :=
  walkedListings.map fun tx => (.text (hashOf tx).display, ⟨hashOf tx, tx⟩)

/-- The fee of the second transaction is 140 satoshis, although one of its outputs is written with
an exponent in bitcoin.  That of the third is refused. -/
theorem fee_of_walk_walkedNode :
    let s : Session := { node := walkedNode }
    HasTable walkedTable s ∧ (∃ t, Ends (fee (.text spendingId)) s 140 t) ∧
      ∃ text t, (fee (.text brokenId)).outcome s = (.error (.value (.bitcoinAmount text)), t) := by
  intro s
  have hs : HasTable walkedTable s := .inr ⟨rfl, rfl⟩
  have hfunding : Walkable walkedTable fundingId
      ⟨.text fundingId, listing fundingId [] [(1, 2500000), (0, 1000000)]⟩ :=
    ⟨by decide +kernel, rfl, decodes_listing _ _ (by decide) (by decide)⟩
  have hspending : Walkable walkedTable spendingId ⟨.text spendingId,
      listing spendingId [(fundingId, 0), (fundingId, 1)] [(0, 3359000), (1, 1000)]⟩ :=
    ⟨by decide +kernel, rfl, decodes_listing _ _ (by decide) (by decide)⟩
  have hbroken : Walkable walkedTable brokenId
      ⟨.text brokenId, listing brokenId [(fundingId, 1)] [(0, 2400500)]⟩ :=
    ⟨by decide +kernel, rfl, decodes_listing _ _ (by decide) (by decide)⟩
  have hspends : ∀ output ∈ [(1, 2500000), (0, 1000000)], Spends walkedTable
      (.object [("txid", .text fundingId), ("index", .int output.1)])
      (.object [("index", .int output.1), ("amount_msat", .int output.2)]) := by
    intro output houtput
    exact ⟨fundingId, _, rfl, rfl, hfunding, List.mem_map_of_mem houtput⟩
  obtain ⟨hexact, -⟩ := fee_of_walk hs hspending
    (.cons (hspends (0, 1000000) (by simp)) (.cons (hspends (1, 2500000) (by simp)) .nil))
  obtain ⟨-, hrefused⟩ := fee_of_walk hs hbroken (.cons (hspends (1, 2500000) (by simp)) .nil)
  obtain ⟨sats, t, hends, hsats⟩ := hexact (by decide +kernel)
  have hworth : sats * 1000 = 140 * 1000 := hsats.trans (by decide +kernel)
  obtain rfl : sats = 140 := by omega
  exact ⟨hs, ⟨t, hends⟩, hrefused (by decide +kernel)⟩

end Wallet

end NodeLedger
