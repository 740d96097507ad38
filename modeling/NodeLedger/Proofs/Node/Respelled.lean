import NodeLedger.Proofs.Node.Calls
import NodeLedger.Proofs.Node.Memory

/-!
# Nodes that write amounts in another way

Nodes of different versions write amounts as integers, as numerals or as numerals with their unit.
If two nodes tell the same, each in its own way, then the records and fees read from them are the
same, and so are the failures.

Main results:

- Definition `Node.Alike`: two nodes whose answers differ only in how amounts are written.
- Structure `NodeCache.Alike` and definition `Pairing.respelled`: what is remembered of them differs
  in the same way.
- Theorem `Node.mirrored_respelled`: all that the records on chain are made of comes to the same.
- Theorem `Node.records_of_respelled`: so do all records and fees, on chain and off chain.
-/

namespace NodeLedger

open List NodeLedger.Action NodeLedger.Value

/-! ## Answers that are alike -/

/-- Answers to a method that differ only in how amounts are written in the records listed. -/
def Rpc.AnswerAlike (method : String) : Value → Value → Prop :=
  match method with
  | "listpeerchannels" => ListedAlike "channels" RecordAlike
  | "listclosedchannels" => ListedAlike "closedchannels" RecordAlike
  | "bkpr-listaccountevents" => ListedAlike "events" RecordAlike
  | "listtransactions" => ListedAlike "transactions" TransactionAlike
  | "listfunds" => ListedAlike "outputs" RecordAlike
  | "listinvoices" => ListedAlike "invoices" RecordAlike
  | "listsendpays" => ListedAlike "payments" RecordAlike
  | "listforwards" => ListedAlike "forwards" RecordAlike
  | _ => Eq

/-- Two nodes answer each call alike or refuse it with the same error. -/
def Node.Alike (node node' : String → Value → Except Value Value) : Prop :=
  ∀ method payload, Matches (Rpc.AnswerAlike method) (Rpc.given node method payload)
    (Rpc.given node' method payload)

/-- What is remembered of two nodes differs only in how amounts are written. -/
structure NodeCache.Alike (cache cache' : NodeCache) : Prop where
  events : Option.Rel (Itemwise RecordAlike) cache.events cache'.events
  bookkeeper : cache.bookkeeper = cache'.bookkeeper
  transactions : Option.Rel TransactionsAlike cache.transactions cache'.transactions
  outputs : cache.outputs = cache'.outputs
  closedChannels : Option.Rel (Itemwise RecordAlike) cache.closedChannels cache'.closedChannels
  blockTimes : cache.blockTimes = cache'.blockTimes

/-- Nothing is remembered of either. -/
theorem NodeCache.alike_empty : NodeCache.Alike {} {} where
  events := .none
  bookkeeper := rfl
  transactions := .none
  outputs := rfl
  closedChannels := .none
  blockTimes := rfl

/-- Two sessions with nodes that are alike, of which the same is remembered. -/
def Pairing.respelled : Pairing where
  paired s s' := Node.Alike s.node s'.node ∧ s.cache.Alike s'.cache
  paired_write _ _ _ _ h := h

/-- Values that are alike are both kept or not. -/
theorem Value.kept_rel {R : Value → Value → Prop} {v w : Value} (h : Itemwise R v w) :
    Option.Rel (Itemwise R) v.kept w.kept := by
  cases h with
  | list h => exact .some (.list h)
  | same v =>
    cases v with
    | null => exact .none
    | _ => exact .some (.same _)

/-! ## Steps -/

/-- Sessions that are paired remember what is alike. -/
theorem NodeCache.mirrors_current :
    Mirrors .respelled NodeCache.Alike NodeCache.current NodeCache.current :=
  fun _ _ hpaired => ⟨.ok hpaired.2, hpaired⟩

/-- They go on to if both memories change alike. -/
theorem NodeCache.mirrors_update {change change' : NodeCache → NodeCache}
    (h : ∀ cache cache', cache.Alike cache' → (change cache).Alike (change' cache')) :
    Mirrors .respelled Eq (NodeCache.update change) (NodeCache.update change') :=
  fun _ _ hpaired => ⟨.ok rfl, hpaired.1, h _ _ hpaired.2⟩

/-- What is remembered in the end is returned. -/
theorem NodeCache.mirrors_remember {α β : Type} {R : α → β → Prop} {a : α} {b : β} (hab : R a b)
    {change change' : NodeCache → NodeCache}
    (h : ∀ cache cache', cache.Alike cache' → (change cache).Alike (change' cache')) :
    Mirrors .respelled R (do NodeCache.update change; return a)
      (do NodeCache.update change'; return b) :=
  (NodeCache.mirrors_update h).bind_eq fun _ => mirrors_pure hab

namespace Rpc

/-- The same call is noted in both sessions. -/
theorem mirrors_note (method : String) (payload : Value) :
    Mirrors .respelled Eq (note method payload) (note method payload) :=
  fun _ _ hpaired => ⟨.ok rfl, hpaired⟩

/-- Nodes that are alike give answers that are alike, or refuse alike. -/
theorem mirrors_answer (method : String) (payload : Value) :
    Mirrors .respelled (AnswerAlike method) (answer method payload) (answer method payload) := by
  have hanswer (s : Session) : (answer method payload).outcome s =
      (given s.node method payload, s) := by
    rw [outcome_answer, given]
    cases s.node method payload <;> rfl
  intro s s' hpaired
  rw [hanswer, hanswer]
  exact ⟨hpaired.1 method payload, hpaired⟩

/-- So do calls that are noted. -/
theorem mirrors_call (method : String) (payload : Value) :
    Mirrors .respelled (AnswerAlike method) (call method payload) (call method payload) :=
  (mirrors_note method payload).bind_eq fun _ => mirrors_answer method payload

end Rpc

/-! ## The bookkeeper -/

namespace Bookkeeper

/-- Events that are fetched are alike, and as many. -/
theorem mirrors_fetch : Mirrors .respelled (Itemwise RecordAlike) fetch fetch := by
  refine (Rpc.mirrors_call "bkpr-listaccountevents" _).bind fun result result' hresult => ?_
  refine (mirrors_lift (ListedAlike.fieldD_matches hresult _)).bind fun events events' hevents => ?_
  refine Mirrors.bind_eq (NodeCache.mirrors_update fun cache cache' hcache => ?_) fun _ => ?_
  · exact { hcache with events := Value.kept_rel hevents }
  · rw [hevents.size_eq]
    refine (mirrors_check _).bind_eq fun count => ?_
    exact (mirrors_log _ _ _ _).bind_eq fun _ => mirrors_pure hevents

/-- So are those that are remembered. -/
theorem mirrors_given : Mirrors .respelled (Itemwise RecordAlike) given given := by
  refine NodeCache.mirrors_current.bind fun cache cache' hcache => ?_
  have hknown := hcache.events
  generalize cache.events = known, cache'.events = known' at hknown
  cases hknown with
  | some hevents => exact mirrors_pure hevents
  | none => exact mirrors_fetch

/-- So are the events one by one. -/
theorem mirrors_events : Mirrors .respelled (Forall₂ RecordAlike) events events :=
  mirrors_given.bind fun _ _ hevents => mirrors_lift (hevents.parts_matches recordAlike_self)

/-- The bookkeepers of both nodes answer, or neither does. -/
theorem mirrors_probe : Mirrors .respelled Eq probe probe := by
  refine mirrors_given.attempt.bind fun r r' hmatches => ?_
  cases hmatches with
  | ok _ => exact mirrors_pure rfl
  | error failure =>
    cases failure with
    | rpc fault => exact (mirrors_log _ _ _ _).bind_eq fun _ => mirrors_pure rfl
    | _ => exact mirrors_throw _

/-- What is remembered of that is the same. -/
theorem mirrors_available : Mirrors .respelled Eq available available := by
  refine NodeCache.mirrors_current.bind fun cache cache' hcache => ?_
  rw [hcache.bookkeeper]
  cases cache'.bookkeeper with
  | some answer => exact mirrors_pure rfl
  | none =>
    refine mirrors_probe.bind_eq fun answer => ?_
    refine NodeCache.mirrors_remember rfl fun cache cache' hcache => ?_
    exact { hcache with bookkeeper := rfl }

end Bookkeeper

/-! ## The wallet -/

namespace Wallet

/-- The wallets of both nodes list transactions that are alike. -/
theorem mirrors_transactions :
    Mirrors .respelled TransactionsAlike transactions transactions := by
  refine NodeCache.mirrors_current.bind fun cache cache' hcache => ?_
  have hknown := hcache.transactions
  generalize cache.transactions = known, cache'.transactions = known' at hknown
  cases hknown with
  | some htxs => exact mirrors_pure htxs
  | none =>
    refine (Rpc.mirrors_call "listtransactions" _).bind fun result result' hresult => ?_
    refine (mirrors_lift (readTransactions_matches hresult)).bind fun txs txs' htxs => ?_
    refine NodeCache.mirrors_remember htxs fun cache cache' hcache => ?_
    exact { hcache with transactions := .some htxs }

/-- Their outputs have the same amounts, which are read as they are listed. -/
theorem mirrors_outputs : Mirrors .respelled Eq outputs outputs := by
  refine NodeCache.mirrors_current.bind fun cache cache' hcache => ?_
  rw [hcache.outputs]
  cases cache'.outputs with
  | some found => exact mirrors_pure rfl
  | none =>
    refine (Rpc.mirrors_call "listfunds" _).bind fun result result' hresult => ?_
    rw [readOutputs_congr hresult]
    refine (mirrors_check _).bind_eq fun found => ?_
    refine NodeCache.mirrors_remember rfl fun cache cache' hcache => ?_
    exact { hcache with outputs := rfl }

end Wallet

/-! ## Channels and blocks -/

namespace Channel

/-- The open channels are the same, their capacities being read as they are listed. -/
theorem mirrors_openChannels : Mirrors .respelled Eq openChannels openChannels :=
  (Rpc.mirrors_call "listpeerchannels" _).bind fun _ _ hresult =>
    mirrors_lift (matches_eq_iff.mpr (readOpenChannels_congr hresult))

/-- The closed channels that are fetched are alike. -/
theorem mirrors_fetchClosed :
    Mirrors .respelled (Itemwise RecordAlike) fetchClosed fetchClosed := by
  refine (Rpc.mirrors_call "listclosedchannels" _).bind fun result result' hresult => ?_
  refine (mirrors_lift (ListedAlike.fieldD_matches hresult _)).bind fun _ _ hchannels => ?_
  refine NodeCache.mirrors_remember hchannels fun cache cache' hcache => ?_
  exact { hcache with closedChannels := Value.kept_rel hchannels }

/-- Remembered or fetched, they are alike one by one. -/
theorem mirrors_closed : Mirrors .respelled (Forall₂ RecordAlike) closed closed := by
  refine NodeCache.mirrors_current.bind fun cache cache' hcache => ?_
  have hknown := hcache.closedChannels
  generalize cache.closedChannels = known, cache'.closedChannels = known' at hknown
  cases hknown with
  | some hchannels => exact mirrors_lift (hchannels.parts_matches recordAlike_self)
  | none =>
    exact mirrors_fetchClosed.bind fun _ _ hchannels =>
      mirrors_lift (hchannels.parts_matches recordAlike_self)

end Channel

/-- No block holds an amount, so the times of blocks are the same. -/
theorem Block.mirrors_time (height : Int) : Mirrors .respelled Eq (time height) (time height) := by
  refine NodeCache.mirrors_current.bind fun cache cache' hcache => ?_
  rw [hcache.blockTimes]
  cases cache'.blockTimes.lookup height with
  | some time => exact mirrors_pure rfl
  | none =>
    -- Blocks hold no amounts.
    have hblock : Mirrors .respelled Eq
        (Rpc.call "getrawblockbyheight" (.object [("height", .int height)]))
        (Rpc.call "getrawblockbyheight" (.object [("height", .int height)])) :=
      Rpc.mirrors_call "getrawblockbyheight" _
    refine hblock.bind_eq fun result => ?_
    refine (mirrors_check _).bind_eq fun block => ?_
    refine (mirrors_check _).bind_eq fun time => ?_
    refine NodeCache.mirrors_remember rfl fun cache cache' hcache => ?_
    exact { hcache with blockTimes := by rw [hcache.blockTimes] }

/-! ## Records -/

namespace Node

/-- All that the records on chain are made of comes to the same. -/
theorem mirrored_respelled : Mirrored .respelled fun _ => True where
  available := Bookkeeper.mirrors_available.imp fun _ _ hsame => ⟨hsame, trivial⟩
  events _ := Bookkeeper.mirrors_events
  transactions := Wallet.mirrors_transactions
  outputs := Wallet.mirrors_outputs
  openChannels := Channel.mirrors_openChannels
  closed := Channel.mirrors_closed
  time := Block.mirrors_time

/-- The invoices of both nodes are the same. -/
theorem mirrors_invoices : Mirrors .respelled Eq invoices invoices :=
  (Rpc.mirrors_call "listinvoices" _).bind fun _ _ hresult =>
    mirrors_lift (matches_eq_iff.mpr (Invoice.readAll_congr hresult))

/-- So are their payments. -/
theorem mirrors_payments : Mirrors .respelled Eq payments payments :=
  (Rpc.mirrors_call "listsendpays" _).bind fun _ _ hresult =>
    mirrors_lift (matches_eq_iff.mpr (Payment.readAll_congr hresult))

/-- So are their forwards, whatever the period. -/
theorem mirrors_forwards (period : Period) :
    Mirrors .respelled Eq (forwards period) (forwards period) :=
  (Rpc.mirrors_call "listforwards" _).bind fun _ _ hresult =>
    mirrors_lift (matches_eq_iff.mpr (Forward.readAll_congr hresult period))

/-- Two nodes that tell the same, each in its own way to write amounts, have the same records and
fees on chain, in whatever order they are asked for, and the same records off chain; or they fail
for the same causes. -/
theorem records_of_respelled {s s' : Session} (hnode : Alike s.node s'.node) (hcache : s.cache = {})
    (hcache' : s'.cache = {}) :
    (∀ calls, ((onChain.replies none calls).outcome s).1 =
      ((onChain.replies none calls).outcome s').1) ∧
    (offChain.invoices.outcome s).1 = (offChain.invoices.outcome s').1 ∧
    (offChain.payments.outcome s).1 = (offChain.payments.outcome s').1 ∧
    ∀ period, ((offChain.forwards period).outcome s).1 =
      ((offChain.forwards period).outcome s').1 := by
  have hpaired : Pairing.respelled.paired s s' := by
    refine ⟨hnode, ?_⟩
    rw [hcache, hcache']
    exact NodeCache.alike_empty
  refine ⟨fun calls => ?_, ?_, ?_, fun period => ?_⟩
  · have hnone : MayHold (fun _ => True) none := by
      rintro feeOf ⟨⟩
    exact matches_eq_iff.mp (mirrored_respelled.replies hnone calls s s' hpaired).1
  · exact matches_eq_iff.mp (mirrors_invoices s s' hpaired).1
  · exact matches_eq_iff.mp (mirrors_payments s s' hpaired).1
  · exact matches_eq_iff.mp (mirrors_forwards period s s' hpaired).1

/-- A node with a channel, an event and an invoice, which writes amounts in some way. -/
def writingNode (write : Value → Value) (method : String) (_payload : Value) :
    Except Value Value :=
  match method with
  | "listpeerchannels" => .ok (.object [("channels", .list [rewritten write
      (.object [("funding_txid", .text "funding"), ("total_msat", .int 5000000)])])])
  | "bkpr-listaccountevents" => .ok (.object [("events", .list [rewritten write
      (.object [("account", .text "wallet"), ("type", .text "chain"), ("txid", .text "deposit"),
        ("credit_msat", .int 3000000), ("timestamp", .int 100)])])])
  | "listinvoices" => .ok (.object [("invoices", .list [rewritten write
      (.object [("status", .text "paid"), ("paid_at", .int 200), ("amount_msat", .int 7000),
        ("amount_received_msat", .int 7001)])])])
  | _ => .error (.text "unknown command")

/-- One record that is listed. -/
theorem listedAlike_single {name : String} {record record' : Value}
    (h : RecordAlike record record') : ListedAlike name RecordAlike
      (.object [(name, .list [record])]) (.object [(name, .list [record'])]) := by
  refine .object (.cons ⟨rfl, ?_⟩ .nil)
  dsimp only
  rw [if_pos rfl]
  exact .list (.cons h .nil)

/-- A node that writes its amounts in two ways makes two nodes that are alike. -/
theorem alike_writingNode {write write' : Value → Value}
    (h : ∀ v, Amount.Respelled (write v) (write' v)) :
    Alike (writingNode write) (writingNode write') := by
  intro method payload
  by_cases hchannels : method = "listpeerchannels"
  · subst hchannels
    exact .ok (listedAlike_single (recordAlike_rewritten h _))
  by_cases hevents : method = "bkpr-listaccountevents"
  · subst hevents
    exact .ok (listedAlike_single (recordAlike_rewritten h _))
  by_cases hinvoices : method = "listinvoices"
  · subst hinvoices
    exact .ok (listedAlike_single (recordAlike_rewritten h _))
  have hrefused (write : Value → Value) :
      writingNode write method payload = .error (.text "unknown command") := by
    unfold writingNode
    split
    · exact absurd rfl hchannels
    · exact absurd rfl hevents
    · exact absurd rfl hinvoices
    · rfl
  rw [Rpc.given, Rpc.given, hrefused, hrefused]
  exact .error _

/-- A node that writes units tells the same channel, event and invoice. -/
theorem records_of_respelled_writingNode :
    let s : Session := { node := writingNode id }
    let s' : Session := { node := writingNode Amount.spelled }
    Alike s.node s'.node ∧ (Amount.spelled (.int 7000)).display = "7000msat" ∧
      (offChain.invoices.outcome s').1.toOption.map (·.map (·.value)) = some [.msat 7000] ∧
      (∀ calls, ((onChain.replies none calls).outcome s).1 =
        ((onChain.replies none calls).outcome s').1) ∧
      (offChain.invoices.outcome s).1 = (offChain.invoices.outcome s').1 ∧
      (offChain.payments.outcome s).1 = (offChain.payments.outcome s').1 ∧
      ∀ period, ((offChain.forwards period).outcome s).1 =
        ((offChain.forwards period).outcome s').1 := by
  intro s s'
  have halike : Alike s.node s'.node := alike_writingNode Amount.respelled_spelled
  exact ⟨halike, by decide +kernel, by decide +kernel, records_of_respelled halike rfl rfl⟩

end Node

end NodeLedger
