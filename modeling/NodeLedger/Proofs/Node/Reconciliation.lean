import Mathlib.Algebra.BigOperators.Ring.List
import NodeLedger.Proofs.Node.Balance
import NodeLedger.Proofs.Node.Memory
import NodeLedger.Proofs.Numeral.Decimal

/-!
# The wallet and its transactions

If the bookkeeper does not answer, the transactions of a node are rebuilt from what its wallet
lists: the amount of each is what it pays to outputs of the wallet less what it spends of them.

So the amounts add up by transaction, while the balance of the wallet adds up by output.  Here both
are shown to be the same: an output of the wallet is counted once where it is created, and once
where it is spent, if the records of the wallet can be told apart.

Main results:

- Structure `Wallet.Distinct`: the records that a wallet lists can be told apart.
- Theorem `Wallet.Distinct.nodup_created`: no outpoint is created twice then.
- Theorem `Wallet.sum_amountsAt`: the amounts at different outpoints add up to what the outputs of
  the wallet there are worth.
- Theorems `History.received_eq_ok` and `History.spent_eq_ok`: what is read of a transaction are
  the amounts at its outpoints.
- Theorem `History.rebuilt_from_listed`: what the transactions are rebuilt from.
- Theorem `History.amounts_reconcile`: the amounts of all transactions add up to what the outputs
  of the wallet that they create are worth, less what those that they spend are worth.
-/

namespace NodeLedger

open List NodeLedger.Action

/-! ## What a wallet lists -/

namespace Wallet

/-- The items in a field of a record, none if there are none. -/
def itemsIn (record : Value) (key : String) : List Value :=
  (itemsOf record key).toOption.getD []

theorem itemsIn_of_itemsOf {record : Value} {key : String} {items : List Value}
    (h : itemsOf record key = .ok items) : itemsIn record key = items := by
  unfold itemsIn
  rw [h]
  rfl

/-- The hash under which a transaction is listed. -/
def hashOf (tx : Value) : Value :=
  tx.fieldOr "hash" .null

/-- How the place of an output in its transaction is written. -/
def placeText (output : Value) : String :=
  (output.fieldOr "index" (.int 0)).display

/-- The outpoints that a transaction creates. -/
def createdBy (tx : Value) : List String :=
  (itemsIn tx "outputs").map fun output => outpoint (hashOf tx).display (placeText output)

/-- The outpoints that a transaction spends. -/
def spentBy (tx : Value) : List String :=
  (itemsIn tx "inputs").map fun input =>
    outpoint (input.fieldOr "txid" .null).display (input.fieldOr "index" .null).display

/-- The outpoint of an output of the wallet. -/
def fundOutpoint (fund : Value) : String :=
  outpoint (fund.fieldOr "txid" .null).display (fund.fieldOr "output" .null).display

/-- What some outputs of the wallet are worth. -/
def worth (funds : List Value) : Int :=
  (funds.map (Value.msat · "amount_msat")).sum

/-- The outputs of the wallet that stand at some outpoints. -/
def fundsAt (points : List String) (funds : List Value) : List Value :=
  funds.filter fun fund => decide (fundOutpoint fund ∈ points)

/-- The outputs of the wallet that do not. -/
def fundsOutside (points : List String) (funds : List Value) : List Value :=
  funds.filter fun fund => !decide (fundOutpoint fund ∈ points)

/-- The records that a wallet lists can be told apart: its transactions by their hashes, which
differ as keys and as they are written, the outputs of a transaction by their places, and its own
outputs by their outpoints.  No outpoint is spent twice. -/
structure Distinct (txs funds : List Value) : Prop where
  keys : (txs.map fun tx => (hashOf tx).key?).Nodup
  hashes : (txs.map fun tx => (hashOf tx).display).Nodup
  places : ∀ tx ∈ txs, ((itemsIn tx "outputs").map placeText).Nodup
  /-- A place is written without the mark behind the hash in an outpoint, as integers are. -/
  unmarked : ∀ tx ∈ txs, ∀ output ∈ itemsIn tx "outputs", ':' ∉ (placeText output).toList
  funds : (funds.map fundOutpoint).Nodup
  spent : (txs.flatMap spentBy).Nodup

variable {txs funds : List Value}

/-- Two texts that are parted by a mark have the same parts if one begins with the front of the
other, and there is no mark in the back of that. -/
theorem eq_of_parted {front front' back back' more : List Char} (hback : ':' ∉ back)
    (hfront : front' = front ++ more) (hrest : ':' :: back = more ++ ':' :: back') :
    front = front' ∧ back = back' := by
  cases more with
  | nil =>
    rw [List.append_nil] at hfront
    exact ⟨hfront.symm, (List.cons.inj hrest).2⟩
  | cons c more =>
    have hmem : ':' ∈ back := by
      rw [(List.cons.inj hrest).2]
      exact List.mem_append_right more List.mem_cons_self
    exact absurd hmem hback

/-- An outpoint tells its transaction and the place, if that is written without the mark between
them. -/
theorem outpoint_inj {id id' index index' : String} (hindex : ':' ∉ index.toList)
    (hindex' : ':' ∉ index'.toList) (h : outpoint id index = outpoint id' index') :
    id = id' ∧ index = index' := by
  have hlists : id.toList ++ ':' :: index.toList = id'.toList ++ ':' :: index'.toList := by
    have hlist := congrArg String.toList h
    simpa [outpoint, String.toList_append] using hlist
  rcases List.append_eq_append_iff.mp hlists with ⟨more, hid, hrest⟩ | ⟨more, hid, hrest⟩
  · obtain ⟨hsame, hplace⟩ := eq_of_parted hindex hid hrest
    exact ⟨String.toList_injective hsame, String.toList_injective hplace⟩
  · obtain ⟨hsame, hplace⟩ := eq_of_parted hindex' hid hrest
    exact ⟨String.toList_injective hsame.symm, String.toList_injective hplace.symm⟩

/-- An integer is written without the mark. -/
theorem unmarked_of_kind {output : Value} (h : (output.fieldOr "index" (.int 0)).kind = "int") :
    ':' ∉ (placeText output).toList := by
  unfold placeText
  generalize output.fieldOr "index" (.int 0) = place at h ⊢
  cases place with
  | int n => exact Numeral.colon_not_mem_toString n
  | _ => simp [Value.kind] at h

/-- Where the records can be told apart, no outpoint is created twice. -/
theorem Distinct.nodup_created (h : Distinct txs funds) : (txs.flatMap createdBy).Nodup := by
  rw [List.nodup_flatMap]
  constructor
  · intro tx htx
    have hcreated : createdBy tx =
        ((itemsIn tx "outputs").map placeText).map (outpoint (hashOf tx).display) := by
      rw [List.map_map]
      rfl
    rw [hcreated]
    refine (h.places tx htx).map_on ?_
    intro place hplace other hother hsame
    obtain ⟨output, houtput, rfl⟩ := List.mem_map.mp hplace
    obtain ⟨output', houtput', rfl⟩ := List.mem_map.mp hother
    exact (outpoint_inj (h.unmarked tx htx output houtput) (h.unmarked tx htx output' houtput')
      hsame).2
  · refine (List.pairwise_map.mp h.hashes).imp_of_mem ?_
    intro tx tx' htx htx' hne point hpoint hpoint'
    obtain ⟨output, houtput, rfl⟩ := List.mem_map.mp hpoint
    obtain ⟨output', houtput', hsame⟩ := List.mem_map.mp hpoint'
    exact hne (outpoint_inj (h.unmarked tx' htx' output' houtput')
      (h.unmarked tx htx output houtput) hsame).1.symm

/-! ## What stands at outpoints -/

/-- The amounts of the outputs of the wallet at some outpoints, nothing where none of them is. -/
def amountsAt (outputs : Table String Int) (points : List String) : List Int :=
  points.map fun point => (outputs.get? point).getD 0

/-- The outputs of the wallet by their outpoints. -/
def outputsOf (funds : List Value) : Table String Int :=
  funds.map fun fund => (fundOutpoint fund, fund.msat "amount_msat")

theorem keys_outputsOf (funds : List Value) :
    Table.keys (outputsOf funds) = funds.map fundOutpoint := by
  unfold Table.keys outputsOf
  rw [List.map_map]
  rfl

/-- The amounts at different outpoints add up to what the outputs of the wallet there are worth. -/
theorem sum_amountsAt (hfunds : (funds.map fundOutpoint).Nodup) {points : List String}
    (hpoints : points.Nodup) :
    (amountsAt (outputsOf funds) points).sum = worth (fundsAt points funds) := by
  have hkeys : (Table.keys (outputsOf funds)).Nodup := by
    rw [keys_outputsOf]
    exact hfunds
  unfold amountsAt
  rw [Table.sum_get? hkeys hpoints, outputsOf, List.filter_map, List.map_map]
  rfl

/-- If all outputs of the wallet are worth whole satoshis, so is what stands at some outpoints. -/
theorem dvd_sum_amountsAt {n : Int} (hwhole : ∀ fund ∈ funds, n ∣ fund.msat "amount_msat")
    (points : List String) : n ∣ (amountsAt (outputsOf funds) points).sum := by
  apply List.dvd_sum
  intro amount hamount
  obtain ⟨point, -, rfl⟩ := List.mem_map.mp hamount
  cases hfound : (outputsOf funds).get? point with
  | none => exact Int.dvd_zero n
  | some found =>
    obtain ⟨fund, hfund, hentry⟩ := List.mem_map.mp (Table.mem_of_get?_eq_some hfound)
    cases hentry
    exact hwhole fund hfund

/-- An output of the wallet stands at one of some outpoints or outside of them. -/
theorem worth_add_worth (points : List String) (funds : List Value) :
    worth (fundsAt points funds) + worth (fundsOutside points funds) = worth funds := by
  unfold worth
  rw [← List.sum_append, ← List.map_append]
  exact ((List.filter_append_perm _ funds).map _).sum_eq

/-! ## What is read of it -/

/-- The outputs of the wallet that are read are those that are listed. -/
theorem readOutputs_eq_ok {result : Value} {outputs : Table String Int}
    (h : readOutputs result = .ok outputs) :
    ∃ funds, itemsOf result "outputs" = .ok funds ∧ ((funds.map fundOutpoint).Nodup →
      outputs = outputsOf funds) := by
  obtain ⟨funds, hfunds, h⟩ := bind_eq_ok_iff.mp h
  obtain ⟨read, hread, h⟩ := bind_eq_ok_iff.mp h
  cases h
  refine ⟨funds, hfunds, ?_⟩
  intro hnodup
  have hentries : outputsOf funds = read.map id := by
    refine map_eq_map_of_forall₂ (mapM_eq_ok_iff.mp hread) ?_
    intro fund _ entry hentry
    obtain ⟨txid, htxid, hentry⟩ := bind_eq_ok_iff.mp hentry
    obtain ⟨index, hindex, hentry⟩ := bind_eq_ok_iff.mp hentry
    obtain ⟨amount, hamount, hentry⟩ := bind_eq_ok_iff.mp hentry
    cases hentry
    unfold fundOutpoint
    rw [Value.fieldOr_of_required htxid, Value.fieldOr_of_required hindex,
      Value.msat_of_field hamount]
    rfl
  rw [List.map_id] at hentries
  rw [← hentries]
  apply Table.ofList_eq_self
  rw [keys_outputsOf]
  exact hnodup

/-- The transactions that are read are those that are listed. -/
theorem readTransactions_eq_ok {result : Value} {table : Table Key WalletTransaction}
    (h : readTransactions result = .ok table) :
    ∃ txs, itemsOf result "transactions" = .ok txs ∧
      ((txs.map fun tx => (hashOf tx).key?).Nodup →
        Forall₂ (fun tx entry => entry.2 = ⟨hashOf tx, tx⟩) txs table) := by
  obtain ⟨txs, htxs, h⟩ := bind_eq_ok_iff.mp h
  refine ⟨txs, htxs, ?_⟩
  have hread := holds_of_foldlM (fun done table =>
    (done.map fun tx => (hashOf tx).key?).Nodup →
      Forall₂ (fun tx entry => (hashOf tx).key? = some entry.1 ∧ entry.2 = ⟨hashOf tx, tx⟩)
        done table) ?_ (fun _ => Forall₂.nil) h
  · intro hnodup
    exact (hread hnodup).imp fun _ _ hentry => hentry.2
  · intro done tx table next hold hnext hnodup
    obtain ⟨hash, hhash, hnext⟩ := bind_eq_ok_iff.mp hnext
    obtain ⟨key, hkey, hnext⟩ := bind_eq_ok_iff.mp hnext
    cases hnext
    rw [List.map_append, List.nodup_append] at hnodup
    obtain ⟨hdone, -, hdisjoint⟩ := hnodup
    have hrelated := hold hdone
    have hhashOf : hashOf tx = hash := Value.fieldOr_of_required hhash
    have hkeyOf : (hashOf tx).key? = some key := by
      rw [hhashOf]
      exact Value.key_eq_ok_iff.mp hkey
    have hnew : key ∉ Table.keys table := by
      intro hmem
      obtain ⟨entry, hentry, rfl⟩ := List.mem_map.mp hmem
      obtain ⟨other, hother, hsame, -⟩ := exists_of_mem_right hrelated hentry
      exact hdisjoint _ (List.mem_map_of_mem hother) _ (List.mem_singleton_self _)
        (hsame.trans hkeyOf.symm)
    rw [Table.alter_eq_append hnew]
    refine List.rel_append hrelated (.cons ⟨hkeyOf, ?_⟩ .nil)
    rw [hhashOf]
    rfl

end Wallet

namespace History

open Wallet (amountsAt outputsOf)

variable {outputs : Table String Int} {tx : Value} {amount : Int}

/-- What is added up are the amounts at the outpoints of some items. -/
theorem total_eq_of_mapM {items : List Value} {amounts : List Int}
    {pointOf : Value → Except Failure String} {point : Value → String}
    (hpoint : ∀ item found, pointOf item = .ok found → found = point item)
    (h : items.mapM (fun item => do return (outputs.get? (← pointOf item)).getD 0) =
      .ok amounts) : Amount.total amounts = (amountsAt outputs (items.map point)).sum := by
  have hamounts : (items.map fun item => (outputs.get? (point item)).getD 0) = amounts.map id := by
    refine map_eq_map_of_forall₂ (mapM_eq_ok_iff.mp h) ?_
    intro item _ amount hamount
    obtain ⟨found, hfound, hamount⟩ := bind_eq_ok_iff.mp hamount
    cases hamount
    rw [hpoint item found hfound]
    rfl
  rw [List.map_id] at hamounts
  rw [← hamounts, amountsAt, List.map_map]
  rfl

/-- What a transaction pays to the wallet are the amounts at the outpoints that it creates. -/
theorem received_eq_ok (h : received outputs ⟨Wallet.hashOf tx, tx⟩ = .ok amount) :
    amount = (amountsAt outputs (Wallet.createdBy tx)).sum := by
  obtain ⟨items, hitems, h⟩ := bind_eq_ok_iff.mp h
  obtain ⟨amounts, hamounts, h⟩ := bind_eq_ok_iff.mp h
  cases h
  unfold Wallet.createdBy
  rw [Wallet.itemsIn_of_itemsOf hitems]
  refine total_eq_of_mapM ?_ hamounts
  intro output found hfound
  obtain ⟨index, hindex, hfound⟩ := bind_eq_ok_iff.mp hfound
  cases hfound
  unfold Wallet.placeText
  rw [Value.fieldOr_of_fieldD hindex]

/-- What it spends are the amounts at the outpoints that it spends. -/
theorem spent_eq_ok (h : spent outputs ⟨Wallet.hashOf tx, tx⟩ = .ok amount) :
    amount = (amountsAt outputs (Wallet.spentBy tx)).sum := by
  obtain ⟨items, hitems, h⟩ := bind_eq_ok_iff.mp h
  obtain ⟨amounts, hamounts, h⟩ := bind_eq_ok_iff.mp h
  cases h
  unfold Wallet.spentBy
  rw [Wallet.itemsIn_of_itemsOf hitems]
  refine total_eq_of_mapM ?_ hamounts
  intro input found hfound
  obtain ⟨txid, htxid, hfound⟩ := bind_eq_ok_iff.mp hfound
  obtain ⟨index, hindex, hfound⟩ := bind_eq_ok_iff.mp hfound
  cases hfound
  rw [Value.fieldOr_of_required htxid, Value.fieldOr_of_required hindex]

/-- The amount of a transaction that is rebuilt is what it pays to the wallet less what it spends
of it, in whole satoshis. -/
theorem rebuild_eq_ok {sweeps : Table Key WalletTransaction} {entry : Key × WalletTransaction}
    {rebuilt : Transaction} {s t : Session} (hentry : entry.2 = ⟨Wallet.hashOf tx, tx⟩)
    (h : Ends (rebuild outputs sweeps entry) s rebuilt t) :
    rebuilt.amount = Amount.sats ((amountsAt outputs (Wallet.createdBy tx)).sum -
      (amountsAt outputs (Wallet.spentBy tx)).sum) := by
  obtain ⟨key, wallet⟩ := entry
  obtain rfl : wallet = ⟨Wallet.hashOf tx, tx⟩ := hentry
  unfold rebuild at h
  obtain ⟨received, _, hreceived, h⟩ := ends_bind.mp h
  obtain ⟨spent, _, hspent, h⟩ := ends_bind.mp h
  rw [← received_eq_ok (ends_lift.mp hreceived).1, ← spent_eq_ok (ends_lift.mp hspent).1]
  extract_lets rest at h
  -- Neither the fee nor the block has a part in the amount.
  have hrest : ∀ fee s, Ends (rest fee) s rebuilt t →
      rebuilt.amount = Amount.sats (received - spent) := by
    intro fee s hends
    obtain ⟨height, _, -, hends⟩ := ends_bind.mp hends
    dsimp only at hends
    split at hends
    all_goals
      obtain ⟨timestamp, _, -, hends⟩ := ends_bind.mp hends
      rw [(ends_pure.mp hends).1]
  split at h
  all_goals
    obtain ⟨fee, _, -, h⟩ := ends_bind.mp h
    exact hrest fee _ h

/-- The amounts of transactions that are rebuilt add up by outpoint: what stands at the outpoints
that are created, less what stands at those that are spent. -/
theorem sum_amounts {listed : List Value} {rebuilt : List Transaction}
    (h : Forall₂ (fun tx found => 1000 * found.amount =
      (amountsAt outputs (Wallet.createdBy tx)).sum - (amountsAt outputs (Wallet.spentBy tx)).sum)
      listed rebuilt) :
    (rebuilt.map fun found => 1000 * found.amount).sum =
      (amountsAt outputs (listed.flatMap Wallet.createdBy)).sum -
        (amountsAt outputs (listed.flatMap Wallet.spentBy)).sum := by
  induction h with
  | nil => rfl
  | cons hfound _ ih =>
    rw [List.map_cons, List.sum_cons, hfound, ih, List.flatMap_cons, List.flatMap_cons]
    simp only [amountsAt, List.map_append, List.sum_append]
    omega

end History

/-! ## The transactions of a node without a bookkeeper -/

namespace Node

variable (node : String → Value → Except Value Value)

/-- The transactions that the wallet of a node lists. -/
def listedTransactions : List Value :=
  Rpc.listed node "listtransactions" (.object []) "transactions"

/-- The outputs that it lists, spent or not. -/
def listedFunds : List Value :=
  Rpc.listed node "listfunds" (.object [("spent", .bool true)]) "outputs"

/-- The outpoints that the transactions create. -/
def createdOutpoints : List String :=
  (listedTransactions node).flatMap Wallet.createdBy

/-- The outpoints that they spend. -/
def spentOutpoints : List String :=
  (listedTransactions node).flatMap Wallet.spentBy

variable {node}

theorem outputs_eq_of_listed {outputs : Table String Int}
    (h : Wallet.listedOutputs node = .ok outputs)
    (hfunds : ((listedFunds node).map Wallet.fundOutpoint).Nodup) :
    outputs = Wallet.outputsOf (listedFunds node) := by
  obtain ⟨result, hresult, h⟩ := bind_eq_ok_iff.mp h
  obtain ⟨funds, hlisted, houtputs⟩ := Wallet.readOutputs_eq_ok h
  have heq : listedFunds node = funds := Rpc.listed_eq (Rpc.node_of_given hresult) hlisted
  rw [heq] at hfunds ⊢
  exact houtputs hfunds

theorem forall₂_of_listed {table : Table Key WalletTransaction}
    (h : Wallet.listed node = .ok table)
    (hkeys : ((listedTransactions node).map fun tx => (Wallet.hashOf tx).key?).Nodup) :
    Forall₂ (fun tx entry => entry.2 = ⟨Wallet.hashOf tx, tx⟩) (listedTransactions node) table := by
  obtain ⟨result, hresult, h⟩ := bind_eq_ok_iff.mp h
  obtain ⟨txs, hlisted, hrelated⟩ := Wallet.readTransactions_eq_ok h
  have heq : listedTransactions node = txs := Rpc.listed_eq (Rpc.node_of_given hresult) hlisted
  rw [heq] at hkeys ⊢
  exact hrelated hkeys

end Node

namespace History

open Wallet (amountsAt outputsOf)

/-- Without a bookkeeper the transactions are rebuilt from what the wallet lists, and from the sweeps
that follow from that. -/
theorem rebuilt_from_listed {node : String → Value → Except Value Value} {now : Int}
    {s t : Session} {rebuilt : List Transaction} (hs : (Situation.ofNode node now).holds s)
    (hanswers : Bookkeeper.answers node = .ok false) (h : Ends transactions s rebuilt t) :
    ∃ outputs sweeps table, Wallet.listedOutputs node = .ok outputs ∧
      listedSweeps node = .ok sweeps ∧ Wallet.listed node = .ok table ∧
      Forall₂ (fun entry found => ∃ s t, Ends (rebuild outputs sweeps entry) s found t)
        table rebuilt := by
  obtain ⟨s₁, hs₁, h⟩ := Bookkeeper.ends_of_answers hanswers hs h
  obtain ⟨outputs, s₂, houtputs, h⟩ := ends_bind.mp h
  have hs₂ := Wallet.reads_outputs.steady.holds hs₁ houtputs
  obtain ⟨sweeps, s₃, hsweeps, h⟩ := ends_bind.mp h
  have hs₃ := steady_walletSweeps.holds hs₂ hsweeps
  obtain ⟨table, s₄, htable, h⟩ := ends_bind.mp h
  obtain ⟨found, s₅, hfound, h⟩ := ends_bind.mp h
  obtain ⟨_, _, -, h⟩ := ends_bind.mp h
  obtain ⟨rfl, -⟩ := ends_pure.mp h
  exact ⟨outputs, sweeps, table, Wallet.reads_outputs.eq_ok _ _ _ hs₁ houtputs,
    reads_walletSweeps.eq_ok _ _ _ hs₂ hsweeps, Wallet.reads_transactions.eq_ok _ _ _ hs₃ htable,
    hfound.mapM⟩

theorem rebuilt_of_ends {s t : Session} {rebuilt : List Transaction} {error : Value}
    (hmemory : s.cache.Agrees s.node)
    (hbookkeeper : s.node "bkpr-listaccountevents" (.object []) = .error error)
    (h : Ends transactions s rebuilt t) :
    ∃ outputs table, Wallet.listedOutputs s.node = .ok outputs ∧ Wallet.listed s.node = .ok table ∧
      Forall₂ (fun entry found => ∃ sweeps s t, Ends (rebuild outputs sweeps entry) s found t)
        table rebuilt := by
  have hs : (Situation.ofNode s.node s.now).holds s := ⟨rfl, rfl, hmemory⟩
  obtain ⟨outputs, sweeps, table, houtputs, -, htable, hrebuilt⟩ :=
    rebuilt_from_listed hs (Bookkeeper.answers_of_error hbookkeeper) h
  exact ⟨outputs, table, houtputs, htable, hrebuilt.imp fun _ _ hends => ⟨sweeps, hends⟩⟩

/-- The transactions of a wallet reconcile with its outputs: without a bookkeeper, their amounts add
up to what the outputs of the wallet are worth that they create, less what those are worth that they
spend.  If they create all outputs of the wallet, that is what the outputs are worth that they do
not spend. -/
theorem amounts_reconcile {s t : Session} {rebuilt : List Transaction} {error : Value}
    (hmemory : s.cache.Agrees s.node)
    (hbookkeeper : s.node "bkpr-listaccountevents" (.object []) = .error error)
    (hdistinct : Wallet.Distinct (Node.listedTransactions s.node) (Node.listedFunds s.node))
    (hwhole : ∀ fund ∈ Node.listedFunds s.node, 1000 ∣ fund.msat "amount_msat")
    (h : Ends transactions s rebuilt t) :
    let funds := Node.listedFunds s.node
    let total := (rebuilt.map fun tx => 1000 * tx.amount).sum
    total = Wallet.worth (Wallet.fundsAt (Node.createdOutpoints s.node) funds) -
        Wallet.worth (Wallet.fundsAt (Node.spentOutpoints s.node) funds) ∧
      ((∀ fund ∈ funds, Wallet.fundOutpoint fund ∈ Node.createdOutpoints s.node) →
        total = Wallet.worth (Wallet.fundsOutside (Node.spentOutpoints s.node) funds)) := by
  intro funds total
  obtain ⟨outputs, table, houtputs, htable, hrebuilt⟩ := rebuilt_of_ends hmemory hbookkeeper h
  obtain rfl := Node.outputs_eq_of_listed houtputs hdistinct.funds
  have hamounts : Forall₂ (fun tx found => 1000 * found.amount =
      (amountsAt (outputsOf funds) (Wallet.createdBy tx)).sum -
        (amountsAt (outputsOf funds) (Wallet.spentBy tx)).sum)
      (Node.listedTransactions s.node) rebuilt := by
    refine forall₂_trans (Node.forall₂_of_listed htable hdistinct.keys) hrebuilt ?_
    rintro tx entry found hentry ⟨sweeps, u, v, hends⟩
    rw [rebuild_eq_ok hentry hends]
    exact Int.mul_ediv_cancel' (Int.dvd_sub (Wallet.dvd_sum_amountsAt hwhole _)
      (Wallet.dvd_sum_amountsAt hwhole _))
  have hcreated : (amountsAt (outputsOf funds) (Node.createdOutpoints s.node)).sum =
      Wallet.worth (Wallet.fundsAt (Node.createdOutpoints s.node) funds) :=
    Wallet.sum_amountsAt hdistinct.funds hdistinct.nodup_created
  have hspent : (amountsAt (outputsOf funds) (Node.spentOutpoints s.node)).sum =
      Wallet.worth (Wallet.fundsAt (Node.spentOutpoints s.node) funds) :=
    Wallet.sum_amountsAt hdistinct.funds hdistinct.spent
  have htotal : total = Wallet.worth (Wallet.fundsAt (Node.createdOutpoints s.node) funds) -
      Wallet.worth (Wallet.fundsAt (Node.spentOutpoints s.node) funds) := by
    rw [← hcreated, ← hspent]
    exact sum_amounts hamounts
  refine ⟨htotal, ?_⟩
  intro hall
  have hwallet : Wallet.fundsAt (Node.createdOutpoints s.node) funds = funds := by
    refine List.filter_eq_self.mpr ?_
    intro fund hfund
    exact decide_eq_true (hall fund hfund)
  have hparts := Wallet.worth_add_worth (Node.spentOutpoints s.node) funds
  rw [htotal, hwallet]
  omega

/-- The id of a transaction that pays a wallet. -/
def payingId : String :=
  String.ofList (List.replicate 64 'a')

/-- The id of a transaction that the wallet makes itself. -/
def spendingId : String :=
  String.ofList (List.replicate 64 'b')

/-- A node without a bookkeeper.  Its wallet was paid twice by one transaction, and has spent one of
these outputs since: a part of it came back to the wallet. -/
def spendingNode (method : String) (_payload : Value) : Except Value Value :=
  match method with
  | "bkpr-listaccountevents" => .error (.text "unknown command")
  | "listtransactions" => .ok (.object [("transactions", .list [
      .object [("hash", .text payingId), ("blockheight", .int 7),
        ("inputs", .list [.object [("txid", .text "outside"), ("index", .int 3)]]),
        ("outputs", .list [.object [("amount_msat", .int 5000000)],
          .object [("index", .int 1), ("amount_msat", .int 900000)]])],
      .object [("hash", .text spendingId),
        ("inputs", .list [.object [("txid", .text payingId), ("index", .int 0)]]),
        ("outputs", .list [.object [("index", .int 0), ("amount_msat", .int 1990000)],
          .object [("index", .int 1), ("amount_msat", .int 3000000)]])]])])
  | "listfunds" => .ok (.object [("outputs", .list [
      .object [("txid", .text payingId), ("output", .int 0), ("amount_msat", .int 5000000)],
      .object [("txid", .text payingId), ("output", .int 1), ("amount_msat", .text "900000msat")],
      .object [("txid", .text spendingId), ("output", .int 1), ("amount_msat", .int 3000000)]])])
  | "getrawblockbyheight" => .ok (.object [("block", .text
      (String.ofList (List.replicate 136 '0') ++ "64000000"))])
  | _ => .ok (.object [])

/-- The records of this wallet can be told apart. -/
theorem distinct_spendingNode :
    Wallet.Distinct (Node.listedTransactions spendingNode) (Node.listedFunds spendingNode) where
  keys := by decide +kernel
  hashes := by decide +kernel
  places := by decide +kernel
  unmarked := by
    have hkinds : ∀ tx ∈ Node.listedTransactions spendingNode,
        ∀ output ∈ Wallet.itemsIn tx "outputs",
          (output.fieldOr "index" (.int 0)).kind = "int" := by
      decide +kernel
    intro tx htx output houtput
    exact Wallet.unmarked_of_kind (hkinds tx htx output houtput)
  funds := by decide +kernel
  spent := by decide +kernel

/-- The outputs that are left are worth 900 and 3000 satoshis, which is what the amounts of both
transactions come to. -/
theorem amounts_reconcile_spendingNode :
    let funds := Node.listedFunds spendingNode
    ∃ rebuilt t, Ends transactions { node := spendingNode } rebuilt t ∧
      rebuilt.map (·.amount) = [5900, -2000] ∧
      Wallet.worth (Wallet.fundsAt (Node.createdOutpoints spendingNode) funds) = 8900000 ∧
      Wallet.worth (Wallet.fundsAt (Node.spentOutpoints spendingNode) funds) = 5000000 ∧
      (rebuilt.map fun tx => 1000 * tx.amount).sum =
        Wallet.worth (Wallet.fundsAt (Node.createdOutpoints spendingNode) funds) -
          Wallet.worth (Wallet.fundsAt (Node.spentOutpoints spendingNode) funds) ∧
      (rebuilt.map fun tx => 1000 * tx.amount).sum =
        Wallet.worth (Wallet.fundsOutside (Node.spentOutpoints spendingNode) funds) := by
  intro funds
  obtain ⟨rebuilt, hends, hamounts⟩ : ∃ rebuilt,
      Ends transactions { node := spendingNode } rebuilt
        (transactions.outcome { node := spendingNode }).2 ∧
      rebuilt.map (·.amount) = [5900, -2000] :=
    exists_ends_of_outcome (by decide +kernel)
  have hwhole : ∀ fund ∈ funds, 1000 ∣ fund.msat "amount_msat" := by
    decide +kernel
  have hall : ∀ fund ∈ funds, Wallet.fundOutpoint fund ∈ Node.createdOutpoints spendingNode := by
    decide +kernel
  obtain ⟨htotal, hrest⟩ := amounts_reconcile (s := { node := spendingNode })
    NodeCache.agrees_empty rfl distinct_spendingNode hwhole hends
  exact ⟨rebuilt, _, hends, hamounts, by decide +kernel, by decide +kernel, htotal, hrest hall⟩

end History

end NodeLedger
