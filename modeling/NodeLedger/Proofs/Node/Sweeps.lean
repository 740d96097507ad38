import NodeLedger.Proofs.Node.Reconciliation

/-!
# Sweeps of a wallet

If the bookkeeper does not answer, the closings of channels, the sweeps of their outputs and the
fees of transactions all follow from the transactions and the outputs that the wallet lists.  The
closings are worked out for the closed channels and for the sweeps, and the sweeps for the
transactions and for the report, each time anew.

Main results:

- Definition `WalletTransaction.ClosesChannel`: a transaction that spends the outpoint of a closed
  channel.
- Theorem `History.mem_closesOf_iff` and theorem `Channel.mem_closingTxids_iff`: both ways to find
  the closings come to the same.
- Theorem `History.sweeping_of_listed`: what a sweep does.
- Theorem `History.fee_of_rebuild`: a fee is told only of a sweep and of what spends outputs of the
  wallet.
- Theorems `History.sweeps_apart` and `History.spends_or_sweeps`: so it is with all sweeps and fees
  of a node without a bookkeeper.
-/

namespace NodeLedger

open List NodeLedger.Action

/-! ## What a wallet knows -/

namespace Wallet

/-- What stands in the table of a wallet's transactions.  They have different keys, each that of its
hash, and tell what is listed. -/
structure Tabled (txs : List Value) (table : Table Key WalletTransaction) : Prop where
  nodup : table.keys.Nodup
  key?_hash : ∀ entry ∈ table, entry.2.hash.key? = some entry.1
  hash_mem : ∀ entry ∈ table, entry.2.hash ∈ txs.map hashOf

theorem tabled_of_readTransactions {result : Value} {table : Table Key WalletTransaction}
    (h : readTransactions result = .ok table) :
    ∃ txs, itemsOf result "transactions" = .ok txs ∧ Tabled txs table := by
  obtain ⟨txs, htxs, h⟩ := bind_eq_ok_iff.mp h
  refine ⟨txs, htxs, holds_of_foldlM (fun done table => Tabled done table) ?_
    ⟨by simp, by simp, by simp⟩ h⟩
  intro done tx before after hbefore hadd
  obtain ⟨hash, hhash, hadd⟩ := bind_eq_ok_iff.mp hadd
  obtain ⟨key, hkey, hadd⟩ := bind_eq_ok_iff.mp hadd
  cases hadd
  have hentry : ∀ entry ∈ before.alter key fun old => ⟨(old.map (·.hash)).getD hash, tx⟩,
      entry ∈ before ∨ entry.1 = key ∧ (entry.2.hash = hash ∨
        ∃ old, (key, old) ∈ before ∧ entry.2.hash = old.hash) := by
    intro entry hentry
    rcases Table.mem_of_mem_alter hentry with hold | rfl
    · exact .inl hold
    · cases hfound : before.get? key with
      | none => exact .inr ⟨rfl, .inl rfl⟩
      | some old => exact .inr ⟨rfl, .inr ⟨old, Table.mem_of_get?_eq_some hfound, rfl⟩⟩
  refine ⟨Table.nodup_keys_alter hbefore.nodup _ _, ?_, ?_⟩
  · intro entry hmem
    rcases hentry entry hmem with hold | ⟨rfl, hnew | ⟨old, hold, hsame⟩⟩
    · exact hbefore.key?_hash entry hold
    · rw [hnew]
      exact Value.key_eq_ok_iff.mp hkey
    · rw [hsame]
      exact hbefore.key?_hash _ hold
  · intro entry hmem
    rw [List.map_append, List.mem_append]
    rcases hentry entry hmem with hold | ⟨rfl, hnew | ⟨old, hold, hsame⟩⟩
    · exact .inl (hbefore.hash_mem entry hold)
    · rw [hnew, ← Value.fieldOr_of_required hhash]
      exact .inr (List.mem_singleton_self _)
    · rw [hsame]
      exact .inl (hbefore.hash_mem _ hold)

/-- An outpoint under which an output is found is that of an output that is listed. -/
theorem mem_of_readOutputs {result : Value} {outputs : Table String Int}
    (h : readOutputs result = .ok outputs) :
    ∃ funds, itemsOf result "outputs" = .ok funds ∧
      ∀ point, (outputs.get? point).isSome = true → point ∈ funds.map fundOutpoint := by
  obtain ⟨funds, hfunds, h⟩ := bind_eq_ok_iff.mp h
  obtain ⟨read, hread, h⟩ := bind_eq_ok_iff.mp h
  cases h
  refine ⟨funds, hfunds, fun point hpoint => ?_⟩
  obtain ⟨amount, hamount⟩ := Option.isSome_iff_exists.mp hpoint
  have hentry := Table.mem_of_mem_ofList (Table.mem_of_get?_eq_some hamount)
  obtain ⟨fund, hfund, hentry⟩ := exists_of_mem_right (mapM_eq_ok_iff.mp hread) hentry
  obtain ⟨txid, htxid, hentry⟩ := bind_eq_ok_iff.mp hentry
  obtain ⟨index, hindex, hentry⟩ := bind_eq_ok_iff.mp hentry
  obtain ⟨found, -, hentry⟩ := bind_eq_ok_iff.mp hentry
  cases hentry
  refine List.mem_map.mpr ⟨fund, hfund, ?_⟩
  unfold fundOutpoint
  rw [Value.fieldOr_of_required htxid, Value.fieldOr_of_required hindex]

end Wallet

namespace Node

variable (node : String → Value → Except Value Value)

/-- The outpoints of the outputs that the wallet of a node lists, spent or not. -/
def ownOutpoints : List String :=
  (listedFunds node).map Wallet.fundOutpoint

/-- The closed channels that a node lists. -/
def listedClosed : List Value :=
  Rpc.listed node "listclosedchannels" (.object []) "closedchannels"

variable {node}

theorem tabled_of_listed {table : Table Key WalletTransaction}
    (h : Wallet.listed node = .ok table) : Wallet.Tabled (listedTransactions node) table := by
  obtain ⟨result, hresult, h⟩ := bind_eq_ok_iff.mp h
  obtain ⟨txs, hlisted, htabled⟩ := Wallet.tabled_of_readTransactions h
  have heq : listedTransactions node = txs := Rpc.listed_eq (Rpc.node_of_given hresult) hlisted
  rw [heq]
  exact htabled

theorem mem_ownOutpoints {outputs : Table String Int} (h : Wallet.listedOutputs node = .ok outputs)
    {point : String} (hpoint : (outputs.get? point).isSome = true) : point ∈ ownOutpoints node := by
  obtain ⟨result, hresult, h⟩ := bind_eq_ok_iff.mp h
  obtain ⟨funds, hlisted, hfunds⟩ := Wallet.mem_of_readOutputs h
  have heq : listedFunds node = funds := Rpc.listed_eq (Rpc.node_of_given hresult) hlisted
  unfold ownOutpoints
  rw [heq]
  exact hfunds point hpoint

theorem listedClosed_eq {channels : List Value} (h : Channel.listedClosed node = .ok channels) :
    listedClosed node = channels := by
  obtain ⟨given, hgiven, hparts⟩ := bind_eq_ok_iff.mp h
  obtain ⟨result, hresult, hfield⟩ := bind_eq_ok_iff.mp hgiven
  exact Rpc.listed_eq (Rpc.node_of_given hresult) (bind_eq_ok_iff.mpr ⟨given, hfield, hparts⟩)

end Node

namespace WalletTransaction

variable (node : String → Value → Except Value Value) (tx : WalletTransaction)

/-- The outpoints that a transaction of the wallet creates. -/
def created : List String :=
  (Wallet.itemsIn tx.content "outputs").map fun output =>
    Wallet.outpoint tx.hash.display (Wallet.placeText output)

/-- A transaction pays to an output of the wallet. -/
def PaysOwn : Prop :=
  ∃ point ∈ tx.created, point ∈ Node.ownOutpoints node

/-- A transaction spends an output of the wallet. -/
def SpendsOwn : Prop :=
  ∃ point ∈ Wallet.spentBy tx.content, point ∈ Node.ownOutpoints node

/-- A transaction spends an output of the one that is found by a key. -/
def SpendsFrom (key : Key) : Prop :=
  ∃ input ∈ Wallet.itemsIn tx.content "inputs", (input.fieldOr "txid" .null).key? = some key

/-- A transaction spends the outpoint that funded a closed channel. -/
def ClosesChannel : Prop :=
  ∃ channel ∈ Node.listedClosed node, ∃ point ∈ Wallet.spentBy tx.content,
    Channel.fundingOutpoint channel = .ok (some point)

end WalletTransaction

/-! ## Closings -/

namespace Channel

/-- The transaction that is found to close a channel is one of the wallet that spends its
outpoint. -/
theorem exists_of_walletClosings {txs : List WalletTransaction} {closings : Table Key Value}
    (h : walletClosings txs = .ok closings) {point : String} {hash : Value}
    (hfound : closings.get? (.text point) = some hash) :
    ∃ tx ∈ txs, tx.hash = hash ∧ point ∈ Wallet.spentBy tx.content := by
  obtain ⟨spent, hspent, h⟩ := bind_eq_ok_iff.mp h
  cases h
  have hentry := Table.mem_of_mem_ofList (Table.mem_of_get?_eq_some hfound)
  obtain ⟨found, hfound, hentry⟩ := List.mem_flatten.mp hentry
  obtain ⟨tx, htx, hspends⟩ := exists_of_mem_right (mapM_eq_ok_iff.mp hspent) hfound
  obtain ⟨inputs, hinputs, hread⟩ := bind_eq_ok_iff.mp hspends
  obtain ⟨input, hinput, hentry⟩ := exists_of_mem_right (mapM_eq_ok_iff.mp hread) hentry
  obtain ⟨outpoint, houtpoint, hentry⟩ := bind_eq_ok_iff.mp hentry
  cases hentry
  obtain ⟨txid, htxid, houtpoint⟩ := bind_eq_ok_iff.mp houtpoint
  obtain ⟨index, hindex, houtpoint⟩ := bind_eq_ok_iff.mp houtpoint
  cases houtpoint
  refine ⟨tx, htx, rfl, ?_⟩
  unfold Wallet.spentBy
  rw [Wallet.itemsIn_of_itemsOf hinputs]
  refine List.mem_map.mpr ⟨input, hinput, ?_⟩
  rw [Value.fieldOr_of_required htxid, Value.fieldOr_of_required hindex]

/-- A closed channel has the closing that it is read with. -/
theorem closingTxid_of_readClosed {channel : Value} {point : String} {closing : Value}
    {closed : ClosedChannel} (h : readClosed channel point closing = .ok closed) :
    closed.closingTxid = closing := by
  simp only [readClosed, bind_eq_ok_iff] at h
  obtain ⟨_, -, _, -, _, -, _, -, _, -, _, -, _, -, hclosed⟩ := h
  cases hclosed
  rfl

/-- Where null stands for what is not known, a closing that counts as true is known. -/
theorem eq_some_iff_of_truthy {known : Option Value} {closing : Value}
    (h : closing.truthy = true) : known = some closing ↔ known.getD .null = closing := by
  cases known with
  | some other => simp
  | none =>
    simp only [reduceCtorEq, Option.getD_none, false_iff]
    rintro rfl
    cases h

/-- A channel is found with the closing that is known for its outpoint, if there is one. -/
theorem closingTxid_of_findClosed {closings : Table Key Value} {channel : Value} {s t : Session}
    {found : Option ClosedChannel} (h : Ends (findClosed closings channel) s found t)
    (closing : Value) :
    (∃ closed, found = some closed ∧ closed.closingTxid = closing) ↔ closing.truthy = true ∧
      ∃ point, fundingOutpoint channel = .ok (some point) ∧
        closings.get? (.text point) = some closing := by
  unfold findClosed at h
  obtain ⟨outpoint, houtpoint, h⟩ := ends_lift_bind.mp h
  rw [houtpoint]
  cases outpoint with
  | none =>
    obtain ⟨rfl, -⟩ := ends_pure.mp h
    simp
  | some point =>
    have hpoint : (∃ other, (Except.ok (some point) : Except Failure _) = .ok (some other) ∧
        closings.get? (.text other) = some closing) ↔
          closings.get? (.text point) = some closing := by simp
    rw [hpoint, and_congr_right eq_some_iff_of_truthy]
    dsimp only at h
    generalize (closings.get? (.text point)).getD .null = known at h
    cases htruthy : known.truthy with
    | false =>
      simp only [htruthy, Bool.not_false, if_true] at h
      obtain ⟨id, -, h⟩ := ends_lift_bind.mp h
      obtain ⟨_, _, -, h⟩ := ends_bind.mp h
      obtain ⟨rfl, -⟩ := ends_pure.mp h
      simp only [reduceCtorEq, false_and, exists_false, false_iff, not_and]
      rintro hclosing rfl
      exact Bool.false_ne_true (htruthy.symm.trans hclosing)
    | true =>
      simp only [htruthy, Bool.not_true, Bool.false_eq_true, if_false] at h
      obtain ⟨closed, hclosed, h⟩ := ends_lift_bind.mp h
      obtain ⟨rfl, -⟩ := ends_pure.mp h
      have hsame : closed.closingTxid = known := closingTxid_of_readClosed hclosed
      constructor
      · rintro ⟨_, ⟨⟩, rfl⟩
        rw [hsame]
        exact ⟨htruthy, rfl⟩
      · rintro ⟨-, rfl⟩
        exact ⟨closed, rfl, hsame⟩

/-- The closings of the channels that are found to be closed are those that are known for the closed
channels. -/
theorem mem_closingTxids_iff {node : String → Value → Except Value Value} {now : Int}
    {s t : Session} {channels : List ClosedChannel} (hs : (Situation.ofNode node now).holds s)
    (h : Ends closedChannels s channels t) :
    ∃ closings, listedClosings node = .ok closings ∧ ∀ closing : Value,
      closing ∈ channels.map (·.closingTxid) ↔
        closing.truthy = true ∧ ∃ channel ∈ Node.listedClosed node, ∃ point,
          fundingOutpoint channel = .ok (some point) ∧
            closings.get? (.text point) = some closing := by
  obtain ⟨closings, s₁, hclosings, h⟩ := ends_bind.mp h
  have hs₁ := reads_closings.steady.holds hs hclosings
  obtain ⟨listed, s₂, hlisted, h⟩ := ends_bind.mp h
  obtain ⟨found, s₃, hfound, h⟩ := ends_bind.mp h
  obtain ⟨rfl, -⟩ := ends_pure.mp h
  refine ⟨closings, reads_closings.eq_ok _ _ _ hs hclosings, fun closing => ?_⟩
  rw [Node.listedClosed_eq (reads_closed.eq_ok _ _ _ hs₁ hlisted)]
  have hrelated := hfound.mapM
  constructor
  · intro hmem
    obtain ⟨closed, hclosed, rfl⟩ := List.mem_map.mp hmem
    have hsome : some closed ∈ found := by simpa using hclosed
    obtain ⟨channel, hchannel, _, _, hends⟩ := exists_of_mem_right hrelated hsome
    obtain ⟨htruthy, hpoint⟩ := (closingTxid_of_findClosed hends _).mp ⟨closed, rfl, rfl⟩
    exact ⟨htruthy, channel, hchannel, hpoint⟩
  · rintro ⟨htruthy, channel, hchannel, hpoint⟩
    obtain ⟨some?, hsome, _, _, hends⟩ := exists_of_mem_left hrelated hchannel
    obtain ⟨closed, rfl, rfl⟩ := (closingTxid_of_findClosed hends closing).mpr ⟨htruthy, hpoint⟩
    exact List.mem_map_of_mem (by simpa using hsome)

end Channel

namespace History

/-- The closings that are looked for are those of the closed channels. -/
theorem mem_closesOf_iff {closings : Table Key Value} {channels : List Value} {closes : List Key}
    (h : closesOf closings channels = .ok closes) {key : Key} :
    key ∈ closes ↔ ∃ channel ∈ channels, ∃ point hash,
      Channel.fundingOutpoint channel = .ok (some point) ∧
        closings.get? (.text point) = some hash ∧ hash.key? = some key := by
  obtain ⟨points, hpoints, h⟩ := bind_eq_ok_iff.mp h
  have hrelated := mapM_eq_ok_iff.mp hpoints
  have hkeys := mapM_eq_ok_iff.mp h
  constructor
  · intro hkey
    obtain ⟨hash, hhash, hkey⟩ := exists_of_mem_right hkeys hkey
    obtain ⟨point, hpoint, hfound⟩ := List.mem_filterMap.mp hhash
    obtain ⟨channel, hchannel, hfunding⟩ :=
      exists_of_mem_right hrelated (by simpa using hpoint : some point ∈ points)
    exact ⟨channel, hchannel, point, hash, hfunding, hfound, Value.key_eq_ok_iff.mp hkey⟩
  · rintro ⟨channel, hchannel, point, hash, hfunding, hfound, hkey⟩
    obtain ⟨some?, hsome, hread⟩ := exists_of_mem_left hrelated hchannel
    obtain rfl : some point = some? := Except.ok.inj (hfunding.symm.trans hread)
    have hhash : hash ∈ (points.filterMap id).filterMap fun point => closings.get? (.text point) :=
      List.mem_filterMap.mpr ⟨point, by simpa using hsome, hfound⟩
    obtain ⟨found, hmem, hread⟩ := exists_of_mem_left hkeys hhash
    have hsame : some key = some found := hkey.symm.trans (Value.key_eq_ok_iff.mp hread)
    rw [Option.some.inj hsame]
    exact hmem

/-! ## Sweeps -/

/-- A transaction that is found to spend from some closings does so. -/
theorem exists_of_spendsFrom {closes : List Key} {tx : WalletTransaction}
    (h : spendsFrom closes tx.content = .ok true) : ∃ key ∈ closes, tx.SpendsFrom key := by
  obtain ⟨inputs, hinputs, h⟩ := bind_eq_ok_iff.mp h
  obtain ⟨input, hinput, h⟩ := exists_of_anyM h
  obtain ⟨txid, htxid, h⟩ := bind_eq_ok_iff.mp h
  obtain ⟨key, hkey, h⟩ := bind_eq_ok_iff.mp h
  refine ⟨key, of_decide_eq_true (Except.ok.inj h), input, ?_, ?_⟩
  · rw [Wallet.itemsIn_of_itemsOf hinputs]
    exact hinput
  · rw [Value.fieldOr_of_required htxid]
    exact Value.key_eq_ok_iff.mp hkey

/-- A transaction that is found to pay to the wallet creates an outpoint of it. -/
theorem exists_of_paysWallet {outputs : Table String Int} {tx : WalletTransaction}
    (h : paysWallet outputs tx = .ok true) :
    ∃ point ∈ tx.created, (outputs.get? point).isSome = true := by
  obtain ⟨items, hitems, h⟩ := bind_eq_ok_iff.mp h
  obtain ⟨output, houtput, h⟩ := exists_of_anyM h
  obtain ⟨point, hpoint, h⟩ := bind_eq_ok_iff.mp h
  obtain ⟨index, hindex, hpoint⟩ := bind_eq_ok_iff.mp hpoint
  cases hpoint
  refine ⟨_, ?_, Except.ok.inj h⟩
  unfold WalletTransaction.created Wallet.placeText
  rw [Wallet.itemsIn_of_itemsOf hitems]
  refine List.mem_map.mpr ⟨output, houtput, ?_⟩
  rw [Value.fieldOr_of_fieldD hindex]

/-- A sweep closes no channel itself; it spends from a closing and pays to the wallet. -/
theorem of_isSweep {closes : List Key} {outputs : Table String Int}
    {entry : Key × WalletTransaction} (h : isSweep closes outputs entry = .ok true) :
    entry.1 ∉ closes ∧ (∃ key ∈ closes, entry.2.SpendsFrom key) ∧
      ∃ point ∈ entry.2.created, (outputs.get? point).isSome = true := by
  unfold isSweep at h
  by_cases hcloses : entry.1 ∈ closes
  · rw [if_pos hcloses] at h
    cases h
  · rw [if_neg hcloses] at h
    obtain ⟨spends, hspends, h⟩ := bind_eq_ok_iff.mp h
    obtain ⟨pays, hpays, h⟩ := bind_eq_ok_iff.mp h
    obtain ⟨rfl, rfl⟩ := Bool.and_eq_true_iff.mp (Except.ok.inj h)
    exact ⟨hcloses, exists_of_spendsFrom hspends, exists_of_paysWallet hpays⟩

variable {node : String → Value → Except Value Value} {now : Int}

/-- What is known of the closings of a node without a bookkeeper: they are transactions of its
wallet that spend outpoints of closed channels. -/
theorem exists_closing_of_mem (hanswers : Bookkeeper.answers node = .ok false)
    {table : Table Key WalletTransaction} (htable : Wallet.listed node = .ok table)
    {closings : Table Key Value} (hclosings : Channel.listedClosings node = .ok closings)
    {channel : Value} (hchannel : channel ∈ Node.listedClosed node) {point : String} {hash : Value}
    (hfunding : Channel.fundingOutpoint channel = .ok (some point))
    (hfound : closings.get? (.text point) = some hash) {key : Key} (hkey : hash.key? = some key) :
    ∃ closing ∈ table, closing.1 = key ∧ closing.2.hash = hash ∧
      closing.2.ClosesChannel node := by
  unfold Channel.listedClosings at hclosings
  rw [hanswers, htable] at hclosings
  obtain ⟨tx, htx, rfl, hspends⟩ := Channel.exists_of_walletClosings hclosings hfound
  obtain ⟨closing, hclosing, rfl⟩ := List.mem_map.mp htx
  have hown := (Node.tabled_of_listed htable).key?_hash closing hclosing
  exact ⟨closing, hclosing, Option.some.inj (hown.symm.trans hkey), rfl, channel, hchannel, point,
    hspends, hfunding⟩

/-- What the sweeps that follow from what a node lists do. -/
theorem sweeping_of_listed {sweeps : Table Key WalletTransaction}
    (h : listedSweeps node = .ok sweeps) :
    ∃ closings closes table, Channel.listedClosings node = .ok closings ∧
      closesOf closings (Node.listedClosed node) = .ok closes ∧ Wallet.listed node = .ok table ∧
      sweeps.Sublist table ∧ ∀ entry ∈ sweeps, entry.1 ∉ closes ∧ entry.2.PaysOwn node ∧
        ∃ key ∈ closes, entry.2.SpendsFrom key := by
  obtain ⟨closings, hclosings, h⟩ := bind_eq_ok_iff.mp h
  obtain ⟨outputs, houtputs, h⟩ := bind_eq_ok_iff.mp h
  obtain ⟨channels, hchannels, h⟩ := bind_eq_ok_iff.mp h
  obtain ⟨closes, hcloses, h⟩ := bind_eq_ok_iff.mp h
  obtain ⟨table, htable, h⟩ := bind_eq_ok_iff.mp h
  obtain ⟨hsublist, hsweeps⟩ := filterM_eq_ok h
  rw [← Node.listedClosed_eq hchannels] at hcloses
  refine ⟨closings, closes, table, hclosings, hcloses, htable, hsublist, fun entry hentry => ?_⟩
  obtain ⟨hnot, hspends, point, hpoint, hfound⟩ := of_isSweep (hsweeps entry hentry)
  exact ⟨hnot, ⟨point, hpoint, Node.mem_ownOutpoints houtputs hfound⟩, hspends⟩

/-- Without a bookkeeper the sweeps are those that follow from what the node lists. -/
theorem reads_sweeps (hanswers : Bookkeeper.answers node = .ok false) :
    Reads (.ofNode node now) sweeps (do return (← listedSweeps node).map (·.2.hash)) := by
  refine Bookkeeper.reads_of_answers hanswers ?_
  exact reads_walletSweeps.bind fun txs _ => reads_lift (pure _)

/-! ## Fees -/

/-- Some output stands at one of the outpoints if what stands there is worth something. -/
theorem exists_of_sum_amountsAt {outputs : Table String Int} {points : List String}
    (h : (Wallet.amountsAt outputs points).sum ≠ 0) :
    ∃ point ∈ points, (outputs.get? point).isSome = true := by
  by_contra hnone
  refine h (List.sum_eq_zero fun amount hamount => ?_)
  obtain ⟨point, hpoint, rfl⟩ := List.mem_map.mp hamount
  cases hfound : outputs.get? point with
  | none => rfl
  | some found => exact absurd ⟨point, hpoint, Option.isSome_of_eq_some hfound⟩ hnone

/-- A fee is told only of what spends outputs of the wallet, and of sweeps. -/
theorem fee_of_rebuild {outputs : Table String Int} {sweeps : Table Key WalletTransaction}
    {entry : Key × WalletTransaction} {s t : Session} {tx : Transaction}
    (h : Ends (rebuild outputs sweeps entry) s tx t) :
    tx.txid = entry.2.hash ∧ (tx.fee ≠ 0 →
      (∃ point ∈ Wallet.spentBy entry.2.content, (outputs.get? point).isSome = true) ∨
        (sweeps.get? entry.1).isSome = true) := by
  unfold rebuild at h
  obtain ⟨received, -, h⟩ := ends_lift_bind.mp h
  obtain ⟨amount, hspent, h⟩ := ends_lift_bind.mp h
  have hamount : amount = (Wallet.amountsAt outputs (Wallet.spentBy entry.2.content)).sum :=
    spent_eq_ok hspent
  extract_lets rest at h
  have hrest : ∀ fee s, Ends (rest fee) s tx t → tx.txid = entry.2.hash ∧ tx.fee = fee := by
    intro fee s hends
    obtain ⟨height, -, hends⟩ := ends_lift_bind.mp hends
    dsimp only at hends
    split at hends
    all_goals
      obtain ⟨timestamp, _, -, hends⟩ := ends_bind.mp hends
      rw [(ends_pure.mp hends).1]
      exact ⟨rfl, rfl⟩
  split at h
  · next hknown =>
    obtain ⟨fee, u, -, h⟩ := ends_bind.mp h
    refine ⟨(hrest fee u h).1, fun _ => hknown.imp_left fun hne => ?_⟩
    exact exists_of_sum_amountsAt (hamount ▸ hne)
  · obtain ⟨fee, u, hfee, h⟩ := ends_bind.mp h
    obtain ⟨hid, hnone⟩ := hrest fee u h
    refine ⟨hid, fun hne => absurd ?_ hne⟩
    rw [hnone, (ends_pure.mp hfee).1]

/-! ## Sweeps, closings and fees together -/

/-- A session with a node in which what is remembered is what the node answers. -/
def Knows (node : String → Value → Except Value Value) (s : Session) : Prop :=
  s.node = node ∧ s.cache.Agrees node

/-- Sweeps differ from each other and from the closings of channels.  Each of them spends an output
of such a closing and pays to the wallet. -/
theorem sweeps_apart (hanswers : Bookkeeper.answers node = .ok false)
    (hhashes : ∀ tx ∈ Node.listedTransactions node, (Wallet.hashOf tx).truthy = true)
    {s t : Session} {found : List Value} (hs : Knows node s) (h : Ends sweeps s found t) :
    (found.map Value.key?).Nodup ∧
    (∀ u channels v, Knows node u → Ends Channel.closedChannels u channels v →
      ∀ channel ∈ channels, ∀ sweep ∈ found, channel.closingTxid.key? ≠ sweep.key?) ∧
    ∃ table, Wallet.listed node = .ok table ∧ ∀ sweep ∈ found, ∃ entry ∈ table,
      entry.2.hash = sweep ∧ entry.2.PaysOwn node ∧
      ∃ closing ∈ table, closing.2.ClosesChannel node ∧ entry.2.SpendsFrom closing.1 ∧
        ∀ u channels v, Knows node u → Ends Channel.closedChannels u channels v →
          closing.2.hash ∈ channels.map (·.closingTxid) := by
  have hread := (reads_sweeps hanswers).eq_ok s found t ⟨rfl, hs⟩ h
  obtain ⟨txs, htxs, hfound⟩ := bind_eq_ok_iff.mp hread
  obtain rfl : txs.map (·.2.hash) = found := Except.ok.inj hfound
  obtain ⟨closings, closes, table, hclosings, hcloses, htable, hsublist, hsweeps⟩ :=
    sweeping_of_listed htxs
  have htabled := Node.tabled_of_listed htable
  have hkeys : ∀ entry ∈ txs, entry.2.hash.key? = some entry.1 := fun entry hentry =>
    htabled.key?_hash entry (hsublist.subset hentry)
  refine ⟨?_, ?_, table, htable, ?_⟩
  · have hmap : (txs.map (·.2.hash)).map Value.key? = (txs.map (·.1)).map some := by
      rw [List.map_map, List.map_map]
      exact List.map_congr_left hkeys
    rw [hmap]
    exact (htabled.nodup.sublist (hsublist.map _)).map (Option.some_injective _)
  · intro u channels v hu hends channel hchannel sweep hsweep hsame
    obtain ⟨entry, hentry, rfl⟩ := List.mem_map.mp hsweep
    obtain ⟨_, hlisted, hclosed⟩ := Channel.mem_closingTxids_iff ⟨rfl, hu⟩ hends
    obtain rfl := Except.ok.inj (hclosings.symm.trans hlisted)
    obtain ⟨-, listed, hmem, point, hfunding, hfound⟩ :=
      (hclosed channel.closingTxid).mp (List.mem_map_of_mem hchannel)
    have hkey : entry.1 ∈ closes := (mem_closesOf_iff hcloses).mpr
      ⟨listed, hmem, point, channel.closingTxid, hfunding, hfound, hsame.trans (hkeys entry hentry)⟩
    exact (hsweeps entry hentry).1 hkey
  · intro sweep hsweep
    obtain ⟨entry, hentry, rfl⟩ := List.mem_map.mp hsweep
    obtain ⟨-, hpays, key, hkey, hspends⟩ := hsweeps entry hentry
    obtain ⟨listed, hmem, point, hash, hfunding, hfound, hhash⟩ :=
      (mem_closesOf_iff hcloses).mp hkey
    obtain ⟨closing, hclosing, rfl, rfl, hcloser⟩ :=
      exists_closing_of_mem hanswers htable hclosings hmem hfunding hfound hhash
    refine ⟨entry, hsublist.subset hentry, rfl, hpays, closing, hclosing, hcloser, hspends, ?_⟩
    intro u channels v hu hends
    obtain ⟨_, hlisted, hclosed⟩ := Channel.mem_closingTxids_iff ⟨rfl, hu⟩ hends
    obtain rfl := Except.ok.inj (hclosings.symm.trans hlisted)
    obtain ⟨tx, htx, hsame⟩ := List.mem_map.mp (htabled.hash_mem closing hclosing)
    have htruthy : closing.2.hash.truthy = true := hsame ▸ hhashes tx htx
    exact (hclosed _).mpr ⟨htruthy, listed, hmem, point, hfunding, hfound⟩

/-- A fee is told only of a transaction that spends outputs of the wallet, or of a sweep. -/
theorem spends_or_sweeps (hanswers : Bookkeeper.answers node = .ok false) {s t : Session}
    {txs : List Transaction} (hs : Knows node s) (h : Ends transactions s txs t) :
    ∃ table, Wallet.listed node = .ok table ∧ ∀ tx ∈ txs, ∃ entry ∈ table,
      entry.2.hash = tx.txid ∧ (tx.fee ≠ 0 → entry.2.SpendsOwn node ∨
        ∀ u, Knows node u → ∃ found v, Ends sweeps u found v ∧ tx.txid ∈ found) := by
  obtain ⟨outputs, sweeps, table, houtputs, hsweeps, htable, hrebuilt⟩ :=
    rebuilt_from_listed ⟨rfl, hs⟩ hanswers h
  refine ⟨table, htable, fun tx htx => ?_⟩
  obtain ⟨entry, hentry, u, v, hends⟩ := exists_of_mem_right hrebuilt htx
  obtain ⟨hid, hfee⟩ := fee_of_rebuild hends
  refine ⟨entry, hentry, hid.symm, fun hne => (hfee hne).imp ?_ ?_⟩
  · rintro ⟨point, hpoint, hfound⟩
    exact ⟨point, hpoint, Node.mem_ownOutpoints houtputs hfound⟩
  · intro hsweep w hw
    obtain ⟨_, _, known, _, _, hknown, hsublist, _⟩ := sweeping_of_listed hsweeps
    obtain rfl := Except.ok.inj (htable.symm.trans hknown)
    obtain ⟨swept, hswept⟩ := Option.isSome_iff_exists.mp hsweep
    have hmem := Table.mem_of_get?_eq_some hswept
    have hnodup := (Node.tabled_of_listed htable).nodup
    have hsame : some swept = some entry.2 :=
      (Table.get?_eq_some_of_mem hnodup (hsublist.subset hmem)).symm.trans
        (Table.get?_eq_some_of_mem hnodup hentry)
    have hlisted : (do return (← listedSweeps node).map (·.2.hash) : Except Failure (List Value)) =
        .ok (sweeps.map (·.2.hash)) := by
      rw [hsweeps]
      rfl
    obtain ⟨x, hx, -⟩ := (reads_sweeps hanswers).always _ hlisted w ⟨rfl, hw⟩
    refine ⟨_, x, hx, ?_⟩
    rw [hid, ← Option.some.inj hsame]
    exact List.mem_map_of_mem hmem

end History

end NodeLedger
