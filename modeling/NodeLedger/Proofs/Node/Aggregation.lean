import Mathlib.Algebra.BigOperators.Ring.List
import NodeLedger.Proofs.Node.Events

/-!
# Transactions from events

The events of many transactions stand among each other, and the ledger puts them together by the
transaction to which they belong.  A transaction is told if some event of the wallet is a change by
it.  Its figures are sums over its events, so that they do not depend on the order of these.

Main results:

- Definition `Bookkeeper.figuresOf`: the figures of a transaction, read off its events.
- Theorem `Bookkeeper.figures_of_transactions`: there is one transaction for each key that is
  changed by, and its figures are those.
- Theorem `Bookkeeper.sum_changes`: the changes by all transactions add up to those by all events.
- Theorem `History.transactions_sum_up`: what the node tells of its transactions if the bookkeeper
  answers.
-/

namespace NodeLedger

open List NodeLedger.Action

/-! ## Items by their keys -/

/-- A list has nothing twice once repetitions are taken out. -/
theorem nodup_eraseDups {α : Type} [BEq α] [LawfulBEq α] : ∀ as : List α, as.eraseDups.Nodup
  | [] => by simp
  | a :: as => by
    rw [List.eraseDups_cons, List.nodup_cons]
    exact ⟨by simp [List.mem_eraseDups], nodup_eraseDups (as.filter fun b => !b == a)⟩
termination_by as => as.length
decreasing_by exact Nat.lt_succ_of_le (List.length_filter_le _ _)

/-- A sum over all items is one over the items of each key, if every item has one of the keys. -/
theorem sum_by_key {α κ : Type} [DecidableEq κ] {keys : List κ} (hnodup : keys.Nodup)
    (keyOf : α → Option κ) (f : α → Int) {items : List α}
    (h : ∀ a ∈ items, ∃ key ∈ keys, keyOf a = some key) :
    (keys.map fun key =>
        ((items.filter fun a => decide (keyOf a = some key)).map f).sum).sum =
      (items.map f).sum := by
  induction items with
  | nil => simp
  | cons a rest ih =>
    rw [List.forall_mem_cons] at h
    obtain ⟨⟨own, hown, hkey⟩, hrest⟩ := h
    have hcons (key : κ) :
        (((a :: rest).filter fun a => decide (keyOf a = some key)).map f).sum =
          (if key = own then f a else 0) +
            ((rest.filter fun a => decide (keyOf a = some key)).map f).sum := by
      rw [List.filter_cons, hkey]
      by_cases hsame : key = own
      · simp [hsame]
      · simp [hsame, Ne.symm hsame]
    have hone : (keys.map fun key => if key = own then f a else 0).sum = f a := by
      rw [List.sum_map_ite_eq, List.count_eq_one_of_mem hnodup hown]
      simp
    simp only [hcons]
    rw [List.sum_map_add, hone, ih hrest, List.map_cons, List.sum_cons]

/-! ## Figures -/

theorem Amount.total_eq_sum (amounts : List Int) : total amounts = amounts.sum :=
  rfl

/-- What a transaction is found by, and its figures. -/
structure Figures where
  key : Option Key
  amount : Int
  fee : Int
  timestamp : Int
  confirmations : Int
  deriving DecidableEq, Repr

/-- The figures of a transaction. -/
def Transaction.figures (tx : Transaction) : Figures :=
  ⟨tx.txid.key?, tx.amount, tx.fee, tx.timestamp, tx.confirmations⟩

namespace Bookkeeper

/-- The events of the wallet of one kind that belong to a transaction. -/
def ofTransaction (kind : Value → Bool) (events : List Value) (key : Key) : List Value :=
  events.filter fun event =>
    isOfWallet event && kind event && decide (keyOf event = some key)

/-- The events that change the balance of the wallet by some transaction. -/
def changes (events : List Value) : List Value :=
  events.filter fun event => isOfWallet event && isChain event && (keyOf event).isSome

/-- The figures of the transaction with a key.  Its amount is what its changes come to, in whole
satoshis, and its fee what its fee events do, whether paid or given back.  It has the time of its
last change, and it is confirmed if one of its changes stands in a block. -/
def figuresOf (events : List Value) (key : Key) : Figures where
  key := some key
  amount := ((ofTransaction isChain events key).map change).sum / 1000
  fee := ((ofTransaction isFee events key).map change).sum.natAbs / 1000
  timestamp := ((ofTransaction isChain events key).map timeOf).foldl max 0
  confirmations := if (ofTransaction isChain events key).any isInBlock then 1 else 0

variable {events events' : List Value} {key : Key}

/-- The figures do not depend on the order of the events. -/
theorem figuresOf_of_perm (h : events ~ events') (key : Key) :
    figuresOf events key = figuresOf events' key := by
  have hkind (kind : Value → Bool) :
      ofTransaction kind events key ~ ofTransaction kind events' key := h.filter _
  have hchange := ((hkind isChain).map change).sum_eq
  have hfee := ((hkind isFee).map change).sum_eq
  have htime : ((ofTransaction isChain events key).map timeOf).foldl max 0 =
      ((ofTransaction isChain events' key).map timeOf).foldl max 0 :=
    ((hkind isChain).map timeOf).foldl_eq 0
  have hblock : (ofTransaction isChain events key).any isInBlock =
      (ofTransaction isChain events' key).any isInBlock := (hkind isChain).any_eq
  unfold figuresOf
  rw [hchange, hfee, htime, hblock]

/-! ## What is told -/

/-- No event is both a fee and a change by a transaction. -/
theorem isFee_eq_false_of_isChain {event : Value} (h : isChain event = true) :
    isFee event = false := by
  unfold isChain at h
  unfold isFee
  cases htype : event.fieldOr "type" .null with
  | text s =>
    rw [htype] at h
    obtain rfl : s = "chain" := eq_of_beq h
    rfl
  | _ => rfl

/-- What is gathered of the events told is what the events of a kind tell. -/
theorem filterMap_told {β : Type} {gather : WalletEvent → Option β} {kind : Value → Bool}
    {tell : Value → β}
    (h : ∀ event own, gather ⟨own, idOf event, effectOf event⟩ =
      if kind event ∧ own = key then some (tell event) else none) :
    (told events).filterMap gather = (ofTransaction kind events key).map tell := by
  unfold told ofTransaction
  induction events with
  | nil => rfl
  | cons event rest ih =>
    have hevent : (walletEvent? event).bind gather =
        if isOfWallet event && kind event && decide (keyOf event = some key) then
          some (tell event) else none := by
      unfold walletEvent?
      cases isOfWallet event with
      | false => simp
      | true => cases keyOf event <;> simp [h]
    rw [List.filterMap_filterMap] at ih ⊢
    rw [List.filterMap_cons, hevent, ih, List.filter_cons]
    cases isOfWallet event && kind event && decide (keyOf event = some key) <;> rfl

/-- The changes that are told of a transaction are those of its events. -/
theorem chain_told (events : List Value) (key : Key) :
    WalletEvent.chain (told events) key =
      (ofTransaction isChain events key).map fun event =>
        (change event, timeOf event, isInBlock event, labelOf event) := by
  refine filterMap_told fun event own => ?_
  unfold effectOf
  cases hchain : isChain event with
  | true => simp [isFee_eq_false_of_isChain hchain]
  | false => cases isFee event <;> simp

/-- So are the fees. -/
theorem fees_told (events : List Value) (key : Key) :
    WalletEvent.fees (told events) key =
      (ofTransaction isFee events key).map fun event => -(change event) := by
  refine filterMap_told fun event own => ?_
  unfold effectOf
  cases isFee event with
  | true => simp
  | false => cases isChain event <;> simp

theorem key?_idOf {event : Value} (h : keyOf event = some key) :
    (idOf event).key? = some key := by
  unfold keyOf at h
  split at h
  · exact h
  · cases h

/-- An event that is told is one of the wallet that belongs to a transaction. -/
theorem mem_told_iff {read : WalletEvent} :
    read ∈ told events ↔ ∃ event ∈ events, isOfWallet event = true ∧
      keyOf event = some read.key ∧ read = ⟨read.key, idOf event, effectOf event⟩ := by
  unfold told
  rw [List.mem_filterMap]
  refine exists_congr fun event => and_congr_right fun _ => ?_
  unfold walletEvent?
  obtain ⟨key, txid, effect⟩ := read
  cases isOfWallet event <;> cases keyOf event <;> simp [eq_comm]

/-- A transaction has the id of the first of its events, which is found by its key. -/
theorem exists_find_told (h : (ofTransaction isChain events key).isEmpty = false) :
    ∃ first, (told events).find? (·.key == key) = some first ∧ first.txid.key? = some key := by
  obtain ⟨event, hevent⟩ := List.isEmpty_eq_false_iff_exists_mem.mp h
  obtain ⟨hmem, hkind⟩ := List.mem_filter.mp hevent
  simp only [Bool.and_eq_true, decide_eq_true_eq] at hkind
  obtain ⟨⟨hwallet, -⟩, hkey⟩ := hkind
  have htold : ⟨key, idOf event, effectOf event⟩ ∈ told events :=
    mem_told_iff.mpr ⟨event, hmem, hwallet, hkey, rfl⟩
  have hfound : ((told events).find? (·.key == key)).isSome = true :=
    List.find?_isSome.mpr ⟨_, htold, BEq.rfl⟩
  obtain ⟨first, hfirst⟩ := Option.isSome_iff_exists.mp hfound
  obtain ⟨origin, -, -, horigin, hread⟩ := mem_told_iff.mp (List.mem_of_find?_eq_some hfirst)
  have hsame : first.key = key := by simpa using List.find?_some hfirst
  refine ⟨first, hfirst, ?_⟩
  rw [hread, ← hsame]
  exact key?_idOf horigin

/-- A transaction is told just if there are changes by it, and then its figures are those of its
events. -/
theorem transaction?_told (events : List Value) (key : Key) :
    (WalletEvent.transaction? (told events) key).map Transaction.figures =
      if (ofTransaction isChain events key).isEmpty then none else some (figuresOf events key) := by
  unfold WalletEvent.transaction?
  rw [chain_told, fees_told]
  cases hnone : (ofTransaction isChain events key).isEmpty with
  | true =>
    rw [List.isEmpty_iff.mp hnone]
    rfl
  | false =>
    obtain ⟨first, hfirst, hkey⟩ := exists_find_told hnone
    have hfees : ((ofTransaction isFee events key).map fun event => -(change event)).sum =
        -((ofTransaction isFee events key).map change).sum := by
      rw [List.sum_neg, List.map_map]
      rfl
    have hne : ofTransaction isChain events key ≠ [] := List.isEmpty_eq_false_iff.mp hnone
    simp [hfirst, hfees, hne, hkey, Transaction.figures, figuresOf, Amount.sats,
      Amount.total_eq_sum, Function.comp_def]

/-- The keys of the transactions that are told, each once. -/
def keysOf (events : List Value) : List Key :=
  ((told events).map (·.key)).eraseDups.filter fun key =>
    !(ofTransaction isChain events key).isEmpty

theorem nodup_keysOf (events : List Value) : (keysOf events).Nodup :=
  (nodup_eraseDups _).filter _

/-- There is a transaction for each key that the wallet's balance is changed by. -/
theorem mem_keysOf_iff :
    key ∈ keysOf events ↔ ∃ event ∈ events,
      isOfWallet event = true ∧ isChain event = true ∧ keyOf event = some key := by
  have hiff : (ofTransaction isChain events key).isEmpty = false ↔ ∃ event ∈ events,
      isOfWallet event = true ∧ isChain event = true ∧ keyOf event = some key := by
    simp [ofTransaction, and_assoc]
  unfold keysOf
  rw [List.mem_filter, List.mem_eraseDups, Bool.not_eq_eq_eq_not, Bool.not_true, hiff,
    and_iff_right_iff_imp]
  rintro ⟨event, hmem, hwallet, -, hkey⟩
  exact List.mem_map.mpr ⟨⟨key, idOf event, effectOf event⟩,
    mem_told_iff.mpr ⟨event, hmem, hwallet, hkey, rfl⟩, rfl⟩

theorem keysOf_perm (h : events ~ events') : keysOf events ~ keysOf events' := by
  refine (List.perm_ext_iff_of_nodup (nodup_keysOf _) (nodup_keysOf _)).mpr fun key => ?_
  rw [mem_keysOf_iff, mem_keysOf_iff]
  exact exists_congr fun event => and_congr_left fun _ => h.mem_iff

/-! ## Transactions that are told -/

variable {txs txs' : List Transaction}

/-- There is one transaction for each key, with the figures of its events. -/
theorem figures_of_transactions (h : transactions events = .ok txs) :
    txs.map Transaction.figures = (keysOf events).map (figuresOf events) := by
  obtain ⟨-, rfl⟩ := transactions_eq_ok_iff.mp h
  rw [List.map_filterMap]
  simp only [transaction?_told]
  unfold keysOf
  induction ((told events).map (·.key)).eraseDups with
  | nil => rfl
  | cons key rest ih =>
    rw [List.filterMap_cons, List.filter_cons, ih]
    cases (ofTransaction isChain events key).isEmpty <;> rfl

/-- The same events in another order tell the same transactions in another order. -/
theorem figures_perm (h : transactions events = .ok txs) (hperm : events ~ events') :
    ∃ txs', transactions events' = .ok txs' ∧
      txs.map Transaction.figures ~ txs'.map Transaction.figures := by
  obtain ⟨hsound, -⟩ := transactions_eq_ok_iff.mp h
  have hsound' : ∀ event ∈ events', Sound event := fun event hevent =>
    hsound event (hperm.mem_iff.mpr hevent)
  have h' := transactions_eq_ok_iff.mpr ⟨hsound', rfl⟩
  refine ⟨_, h', ?_⟩
  rw [figures_of_transactions h, figures_of_transactions h']
  have hsame : (keysOf events').map (figuresOf events) = (keysOf events').map (figuresOf events') :=
    List.map_congr_left fun key _ => figuresOf_of_perm hperm key
  rw [← hsame]
  exact (keysOf_perm hperm).map _

/-- If no part of a satoshi is changed by, the changes by all transactions add up to those by all
events that belong to one. -/
theorem sum_changes (h : transactions events = .ok txs)
    (hwhole : ∀ event ∈ changes events, 1000 ∣ change event) :
    (txs.map fun tx => 1000 * tx.amount).sum = ((changes events).map change).sum := by
  have hfigures : (txs.map fun tx => 1000 * tx.amount) =
      (keysOf events).map fun key => 1000 * (figuresOf events key).amount := by
    have hmap :=
      congrArg (List.map fun figures => 1000 * figures.amount) (figures_of_transactions h)
    simpa [Function.comp_def, Transaction.figures] using hmap
  have hgroup (key : Key) : ofTransaction isChain events key =
      (changes events).filter fun event => decide (keyOf event = some key) := by
    unfold ofTransaction changes
    rw [List.filter_filter]
    refine List.filter_congr fun event _ => ?_
    cases keyOf event <;> simp [Bool.and_comm]
  have hamount (key : Key) : 1000 * (figuresOf events key).amount =
      (((changes events).filter fun event => decide (keyOf event = some key)).map change).sum := by
    rw [← hgroup]
    refine Int.mul_ediv_cancel' (List.dvd_sum ?_)
    intro x hx
    obtain ⟨event, hevent, rfl⟩ := List.mem_map.mp hx
    rw [hgroup] at hevent
    exact hwhole event (List.mem_of_mem_filter hevent)
  rw [hfigures]
  simp only [hamount]
  refine sum_by_key (nodup_keysOf events) keyOf change ?_
  intro event hevent
  obtain ⟨hmem, hkind⟩ := List.mem_filter.mp hevent
  simp only [Bool.and_eq_true, Option.isSome_iff_exists] at hkind
  obtain ⟨⟨hwallet, hchain⟩, key, hkey⟩ := hkind
  exact ⟨key, mem_keysOf_iff.mpr ⟨event, hmem, hwallet, hchain, hkey⟩, hkey⟩

end Bookkeeper

/-! ## Transactions of a node whose bookkeeper answers -/

namespace History

open Bookkeeper

/-- If the bookkeeper answers the transactions can be told just if its events are sound.  There is
one for each key that an event of the wallet changes the balance by, whose figures are sums over the
events with that key, in whatever order they are listed.  If no part of a satoshi is changed by, the
amounts add up to what all these events change. -/
theorem transactions_sum_up {s : Session} {events : List Value}
    (hcache : s.cache.Agrees s.node) (hevents : listedEvents s.node = .ok events) :
    ((∃ txs t, Ends transactions s txs t) ↔ ∀ event ∈ events, Sound event) ∧
    ∀ txs t, Ends transactions s txs t →
      (∃ keys : List Key, keys.Nodup ∧
        (∀ key, key ∈ keys ↔ ∃ event ∈ events,
          isOfWallet event = true ∧ isChain event = true ∧ keyOf event = some key) ∧
        txs.map Transaction.figures = keys.map (figuresOf events)) ∧
      (∀ (s' : Session) (events' : List Value), s'.cache.Agrees s'.node →
        listedEvents s'.node = .ok events' → events ~ events' →
        ∃ txs' t', Ends transactions s' txs' t' ∧
          txs.map Transaction.figures ~ txs'.map Transaction.figures) ∧
      ((∀ event ∈ changes events, 1000 ∣ change event) →
        (txs.map fun tx => 1000 * tx.amount).sum = ((changes events).map change).sum) := by
  have hreads : Reads (.ofNode s.node s.now) transactions (Bookkeeper.transactions events) :=
    reads_transactions hevents
  refine ⟨⟨?_, ?_⟩, ?_⟩
  · rintro ⟨txs, t, hends⟩
    have htold := hreads.eq_ok s txs t ⟨rfl, rfl, hcache⟩ hends
    exact (transactions_eq_ok_iff.mp htold).1
  · intro hsound
    have htold := transactions_eq_ok_iff.mpr ⟨hsound, rfl⟩
    obtain ⟨t, hends, -⟩ := hreads.always _ htold s ⟨rfl, rfl, hcache⟩
    exact ⟨_, t, hends⟩
  · intro txs t hends
    have htold := hreads.eq_ok s txs t ⟨rfl, rfl, hcache⟩ hends
    refine ⟨⟨keysOf events, nodup_keysOf events, fun key => mem_keysOf_iff,
      figures_of_transactions htold⟩, ?_, sum_changes htold⟩
    intro s' events' hcache' hevents' hperm
    obtain ⟨txs', htold', hfigures⟩ := figures_perm htold hperm
    obtain ⟨t', hends', -⟩ :=
      (reads_transactions hevents').always txs' htold' s' ⟨rfl, rfl, hcache'⟩
    exact ⟨txs', t', hends', hfigures⟩

/-- A node whose bookkeeper lists some events. -/
def listingNode (events : List Value) (_method : String) (_payload : Value) : Except Value Value :=
  .ok (.object [("events", .list events)])

/-- The wallet receives an output and spends it.  A part of it comes back in the second output of
the spending transaction, of whose fee a satoshi is given back.  The events of a channel and of an
invoice do not count. -/
def spendingEvents : List Value :=
  let event (account type : String) (fields : List (String × Value)) : Value :=
    .object (("account", .text account) :: ("type", .text type) :: fields)
  [ event "wallet" "chain" [("outpoint", .text "paying:0"), ("credit_msat", .int 5000000),
      ("timestamp", .int 100), ("blockheight", .int 7)],
    event "wallet" "onchain_fee" [("txid", .text "spending"), ("debit_msat", .text "141000msat")],
    event "wallet" "chain" [("outpoint", .text "paying:0"), ("spending_txid", .text "spending"),
      ("debit_msat", .int 5000000), ("timestamp", .int 200)],
    event "channel" "chain" [("outpoint", .text "spending:0"), ("credit_msat", .int 2000000)],
    event "wallet" "invoice" [("credit_msat", .int 70)],
    event "wallet" "chain" [("outpoint", .text "spending:1"), ("credit_msat", .int 2859000),
      ("timestamp", .int 150), ("blockheight", .int 8)],
    event "wallet" "onchain_fee" [("txid", .text "spending"), ("credit_msat", .int 1000)] ]

/-- Two transactions are told of these events, and the same two if the events are listed from the
last to the first. -/
theorem transactions_sum_up_spendingEvents :
    ∃ txs t, Ends transactions { node := listingNode spendingEvents } txs t ∧
      txs.map Transaction.figures = [⟨some (.text "paying"), 5000, 0, 100, 1⟩,
        ⟨some (.text "spending"), -2141, 140, 200, 1⟩] ∧
      (txs.map fun tx => 1000 * tx.amount).sum = ((changes spendingEvents).map change).sum ∧
      ∃ txs' t', Ends transactions { node := listingNode spendingEvents.reverse } txs' t' ∧
        txs.map Transaction.figures ~ txs'.map Transaction.figures := by
  obtain ⟨txs, hends, hfigures⟩ : ∃ txs,
      Ends transactions { node := listingNode spendingEvents } txs
        (transactions.outcome { node := listingNode spendingEvents }).2 ∧
      txs.map Transaction.figures = [⟨some (.text "paying"), 5000, 0, 100, 1⟩,
        ⟨some (.text "spending"), -2141, 140, 200, 1⟩] :=
    exists_ends_of_outcome (by decide +kernel)
  have hwhole : ∀ event ∈ changes spendingEvents, 1000 ∣ change event := by
    decide +kernel
  obtain ⟨-, hall⟩ := transactions_sum_up (s := { node := listingNode spendingEvents })
    NodeCache.agrees_empty (show listedEvents _ = .ok spendingEvents from rfl)
  obtain ⟨-, hreordered, hsum⟩ := hall txs _ hends
  exact ⟨txs, _, hends, hfigures, hsum hwhole,
    hreordered { node := listingNode spendingEvents.reverse } spendingEvents.reverse
      NodeCache.agrees_empty rfl (List.reverse_perm _).symm⟩

end History

end NodeLedger
