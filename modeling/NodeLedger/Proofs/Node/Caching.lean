import NodeLedger.Proofs.Node.BlockBytes
import NodeLedger.Proofs.Node.Memory
import NodeLedger.Proofs.Session.Mirror

/-!
# What is fetched from a node at most once

If the answers of a node have the shapes that are documented, what is remembered of them can be read
whenever it is needed.  So each step comes to what the node answers, failures included, whatever has
been asked before; and what has been fetched once is not fetched again, except after a refusal.

The events of the bookkeeper are not even asked for again after a refusal, because the refusal is
remembered.

Main results:

- Structure `Node.Documented`: the shapes of the answers.
- Type `CachePart`, and definition `NodeCache.Spares`: each part has been fetched at most once, and
  not at all if it is not remembered.
- Structure `Session.Serves`: a session with a node of which all has been fetched sparingly.
- Theorem `Session.Serves.fetch`: the step that is taken by every call, and definition
  `Action.Tells` for what a step comes to in all such sessions.
- Theorems `Bookkeeper.tells_available`, `Bookkeeper.tells_given`, `Wallet.tells_transactions` and
  those beside them.
-/

namespace NodeLedger

open List NodeLedger.Action NodeLedger.Text

variable {α β α' β' : Type}

/-! ## Answers of documented shape -/

/-- Answers have the shapes that are documented, whatever calls are refused: what is listed is a
list, transactions have a text as their hash, outputs have a transaction and a place, and a block,
if there is one, is written in hexadecimal digits, two for each byte. -/
structure Node.Documented (node : String → Value → Except Value Value) : Prop where
  events : ∀ result, node "bkpr-listaccountevents" (.object []) = .ok result →
    ∃ events, result.fieldD "events" (.list []) = .ok (.list events)
  transactions : ∀ result, node "listtransactions" (.object []) = .ok result →
    ∃ txs, result.fieldD "transactions" (.list []) = .ok (.list txs) ∧
      ∀ tx ∈ txs, ∃ hash, tx.required "hash" = .ok (.text hash)
  outputs : ∀ result, node "listfunds" (.object [("spent", .bool true)]) = .ok result →
    ∃ outputs, result.fieldD "outputs" (.list []) = .ok (.list outputs) ∧
      ∀ output ∈ outputs, (∃ txid, output.required "txid" = .ok txid) ∧
        ∃ index, output.required "output" = .ok index
  closedChannels : ∀ result, node "listclosedchannels" (.object []) = .ok result →
    ∃ channels, result.fieldD "closedchannels" (.list []) = .ok (.list channels)
  blocks : ∀ height result,
    node "getrawblockbyheight" (.object [("height", .int height)]) = .ok result →
      ∃ block, result.field "block" = .ok block ∧
        (block.truthy = true → ∃ digits, block = .text digits ∧ digits.toList.length % 2 = 0 ∧
          ∀ c ∈ digits.toList, (hexDigit? c).isSome)

/-! ## Parts of what is remembered -/

/-- What is fetched from a node and remembered. -/
inductive CachePart where
  | events
  | transactions
  | outputs
  | closedChannels
  | block (height : Int)

namespace RpcCall

/-- Whether a call is answered without an error. -/
def isAnswered (node : String → Value → Except Value Value) (call : RpcCall) : Bool :=
  (node call.method call.payload).isOk

/-- A call is answered with a result or refused. -/
theorem exists_of_isAnswered {node : String → Value → Except Value Value} {call : RpcCall}
    (h : call.isAnswered node = true) :
    ∃ result, node call.method call.payload = .ok result := by
  unfold isAnswered at h
  cases hnode : node call.method call.payload with
  | ok result => exact ⟨result, rfl⟩
  | error error =>
    rw [hnode] at h
    cases h

/-- A call without an answer is refused with an error. -/
theorem exists_of_not_isAnswered {node : String → Value → Except Value Value} {call : RpcCall}
    (h : call.isAnswered node = false) :
    ∃ error, node call.method call.payload = .error error := by
  unfold isAnswered at h
  cases hnode : node call.method call.payload with
  | error error => exact ⟨error, rfl⟩
  | ok result =>
    rw [hnode] at h
    cases h

/-- Whether a call is answered with a block. -/
def givesBlock (node : String → Value → Except Value Value) (call : RpcCall) : Bool :=
  match node call.method call.payload with
  | .ok result => (result.field "block").toOption.any Value.truthy
  | .error _ => false

/-- Whether a call asks for the block at a height. -/
def asksForBlock (height : Int) : RpcCall → Bool
  | ⟨"getrawblockbyheight", .object [("height", .int n)]⟩ => n == height
  | _ => false

end RpcCall

namespace CachePart

/-- The call by which a part is fetched. -/
def call : CachePart → RpcCall
  | events => ⟨"bkpr-listaccountevents", .object []⟩
  | transactions => ⟨"listtransactions", .object []⟩
  | outputs => ⟨"listfunds", .object [("spent", .bool true)]⟩
  | closedChannels => ⟨"listclosedchannels", .object []⟩
  | block height => ⟨"getrawblockbyheight", .object [("height", .int height)]⟩

/-- Whether a part is remembered.  That the bookkeeper does not answer is remembered in place of its
events. -/
def isKept (cache : NodeCache) : CachePart → Bool
  | events => cache.events.isSome || cache.bookkeeper == some false
  | transactions => cache.transactions.isSome
  | outputs => cache.outputs.isSome
  | closedChannels => cache.closedChannels.isSome
  | block height => (cache.blockTimes.lookup height).isSome

/-- Whether a call fetches a part.  The events have been asked for even if the call is refused; the
other parts have only been fetched if the call is answered, and a block only if it is there. -/
def isFetchedBy (node : String → Value → Except Value Value) (call : RpcCall) : CachePart → Bool
  | events => call.method == "bkpr-listaccountevents"
  | transactions => call.method == "listtransactions" && call.isAnswered node
  | outputs => call.method == "listfunds" && call.isAnswered node
  | closedChannels => call.method == "listclosedchannels" && call.isAnswered node
  | block height => call.asksForBlock height && call.givesBlock node

/-- No other part is fetched by the call for a part. -/
theorem eq_of_isFetchedBy {node : String → Value → Except Value Value} {part other : CachePart}
    (h : other.isFetchedBy node part.call = true) : other = part := by
  cases part <;> cases other <;> simp_all [isFetchedBy, call, RpcCall.asksForBlock]

/-- What is fetched has been answered, except for the events, which have been asked for even if the
call is refused. -/
theorem isAnswered_of_isFetchedBy {node : String → Value → Except Value Value} {part : CachePart}
    (hpart : part ≠ events) (h : part.isFetchedBy node part.call = true) :
    part.call.isAnswered node = true := by
  cases part with
  | events => exact absurd rfl hpart
  | block height =>
    have hblock := (Bool.and_eq_true_iff.mp h).2
    unfold RpcCall.givesBlock at hblock
    unfold RpcCall.isAnswered
    split at hblock
    case h_1 hresult => rw [hresult]; rfl
    case h_2 => cases hblock
  | _ =>
    simp only [isFetchedBy, Bool.and_eq_true] at h
    exact h.2

/-- A part is fetched only by its own method. -/
theorem method_eq_of_isFetchedBy {node : String → Value → Except Value Value} {part : CachePart}
    {call : RpcCall} (h : part.isFetchedBy node call = true) : call.method = part.call.method := by
  cases part with
  | block height =>
    simp only [isFetchedBy, RpcCall.asksForBlock, Bool.and_eq_true] at h
    split at h
    · rfl
    · cases h.1
  | _ => simp_all [isFetchedBy, CachePart.call]

end CachePart

/-- Of the calls made each part has been fetched at most once, and if it is not remembered not at
all. -/
def NodeCache.Spares (node : String → Value → Except Value Value) (made : List RpcCall)
    (cache : NodeCache) : Prop :=
  ∀ part : CachePart,
    made.countP (fun call => part.isFetchedBy node call) ≤ (part.isKept cache).toNat

/-- A session with a node of documented shape, in which after some calls made before everything has
been fetched sparingly, and what is remembered is what the node answers. -/
structure Session.Serves (node : String → Value → Except Value Value) (before : List RpcCall)
    (s : Session) : Prop where
  node_eq : s.node = node
  agrees : s.cache.Agrees node
  spares : ∃ made, s.calls = before ++ made ∧ s.cache.Spares node made

variable {node : String → Value → Except Value Value} {before before' : List RpcCall} {s : Session}

namespace Session

/-- A session in which nothing is remembered serves from now on. -/
theorem serves_fresh (hnode : s.node = node) (hcache : s.cache = {}) : s.Serves node s.calls where
  node_eq := hnode
  agrees := by
    rw [hcache]
    exact NodeCache.agrees_empty
  spares := by
    refine ⟨[], (List.append_nil _).symm, fun part => ?_⟩
    simp

/-- A line in the log changes nothing of what has been fetched. -/
theorem Serves.write (hs : s.Serves node before) (line : LogLine) :
    (s.write line).Serves node before :=
  ⟨hs.node_eq, hs.agrees, hs.spares⟩

/-- One more call is made, and what it fetches, which was not remembered before, is remembered. -/
theorem Serves.fetch (hs : s.Serves node before) (call : RpcCall) {cache : NodeCache}
    (hagrees : cache.Agrees node)
    (hkept : ∀ part : CachePart, part.isKept s.cache = true → part.isKept cache = true)
    (hnew : ∀ part : CachePart, part.isFetchedBy node call = true →
      part.isKept s.cache = false ∧ part.isKept cache = true) :
    Serves node before { s with calls := s.calls ++ [call], cache := cache } where
  node_eq := hs.node_eq
  agrees := hagrees
  spares := by
    obtain ⟨made, hcalls, hspares⟩ := hs.spares
    refine ⟨made ++ [call], by rw [← List.append_assoc, ← hcalls], fun part => ?_⟩
    have hpart := hspares part
    rw [List.countP_append, List.countP_singleton]
    by_cases hfetched : part.isFetchedBy node call = true
    · obtain ⟨hbefore, hafter⟩ := hnew part hfetched
      rw [hbefore] at hpart
      rw [if_pos hfetched, hafter]
      simpa using hpart
    · rw [if_neg hfetched]
      cases hbefore : part.isKept s.cache with
      | true =>
        rw [hbefore] at hpart
        rw [hkept part hbefore]
        exact hpart
      | false =>
        rw [hbefore] at hpart
        exact hpart.trans (Nat.zero_le _)

/-- A call that fetches nothing is only noted. -/
theorem Serves.note (hs : s.Serves node before) (call : RpcCall)
    (hnothing : ∀ part : CachePart, part.isFetchedBy node call = false) :
    Serves node before { s with calls := s.calls ++ [call] } := by
  refine hs.fetch call hs.agrees (fun part hpart => hpart) fun part hpart => ?_
  rw [hnothing part] at hpart
  cases hpart

/-- What is remembered changes without a call. -/
theorem Serves.remember (hs : s.Serves node before) {cache : NodeCache}
    (hagrees : cache.Agrees node)
    (hkept : ∀ part : CachePart, part.isKept s.cache = true → part.isKept cache = true) :
    Serves node before { s with cache := cache } where
  node_eq := hs.node_eq
  agrees := hagrees
  spares := by
    obtain ⟨made, hcalls, hspares⟩ := hs.spares
    refine ⟨made, hcalls, fun part => (hspares part).trans ?_⟩
    cases hpart : part.isKept s.cache with
    | true => rw [hkept part hpart]
    | false => exact Nat.zero_le _

end Session

/-! ## What a step comes to -/

/-- Two sessions that both serve the records of a node. -/
def Pairing.serving (node : String → Value → Except Value Value) (before before' : List RpcCall) :
    Pairing where
  paired s s' := s.Serves node before ∧ s'.Serves node before'
  paired_write _ _ line line' h := ⟨h.1.write line, h.2.write line'⟩

namespace Action

/-- In every session that serves the records of a node an action comes to one result, and the
session goes on. -/
def Tells (node : String → Value → Except Value Value) (act : Action α) (r : Except Failure α) :
    Prop :=
  ∀ before s, s.Serves node before →
    (act.outcome s).1 = r ∧ (act.outcome s).2.Serves node before

theorem tells_pure (a : α) : Tells node (pure a) (.ok a) :=
  fun _ _ hs => ⟨rfl, hs⟩

/-- Two actions that come to one result mirror each other. -/
theorem Tells.mirrors {R : α → α → Prop} {act act' : Action α} {r : Except Failure α}
    (h : Tells node act r) (h' : Tells node act' r) (hR : ∀ a, r = .ok a → R a a) :
    Mirrors (.serving node before before') R act act' := by
  rintro s s' ⟨hs, hs'⟩
  obtain ⟨hresult, hafter⟩ := h before s hs
  obtain ⟨hresult', hafter'⟩ := h' before' s' hs'
  rw [hresult, hresult']
  refine ⟨?_, hafter, hafter'⟩
  cases r with
  | ok a => exact .ok (hR a rfl)
  | error failure => exact .error failure

/-- A check after a step. -/
theorem Tells.bind_lift {act : Action α} {r : Except Failure α} (h : Tells node act r)
    (next : α → Except Failure β) : Tells node (act >>= fun a => liftM (next a)) (r >>= next) := by
  intro before s hs
  obtain ⟨hresult, hafter⟩ := h before s hs
  rw [outcome_bind]
  rcases hact : act.outcome s with ⟨_ | a, t⟩
  all_goals
    rw [hact] at hresult hafter
    rw [← hresult]
    exact ⟨rfl, hafter⟩

/-- What comes to the same in every session tells the same. -/
theorem Tells.congr {act act' : Action α} {r : Except Failure α} (h : Tells node act r)
    (hsame : ∀ s, act'.outcome s = act.outcome s) : Tells node act' r := by
  intro before s hs
  rw [hsame s]
  exact h before s hs

/-- What is recalled if it is remembered and fetched if it is not. -/
theorem tells_recalled (known : NodeCache → Option α) {act : Action α} {r : Except Failure α}
    (hsome : ∀ s a, known s.cache = some a → act.outcome s = (.ok a, s))
    (hknown : ∀ cache : NodeCache, cache.Agrees node → ∀ a, known cache = some a → r = .ok a)
    (hfetch : ∀ before s, s.Serves node before → known s.cache = none →
      (act.outcome s).1 = r ∧ (act.outcome s).2.Serves node before) : Tells node act r := by
  intro before s hs
  cases hcache : known s.cache with
  | none => exact hfetch before s hs hcache
  | some a =>
    rw [hsome s a hcache]
    exact ⟨(hknown s.cache hs.agrees a hcache).symm, hs⟩

end Action

/-! ## Fetching -/

namespace Rpc

/-- Call the node, read its answer, and remember what has been read. -/
def fetching (call : RpcCall) (read : Value → Except Failure α)
    (change : α → NodeCache → NodeCache) : Action α := do
  let a ← read (← Rpc.call call.method call.payload)
  NodeCache.update (change a)
  return a

/-- What comes of an answer. -/
def reading (node : String → Value → Except Value Value) (call : RpcCall)
    (read : Value → Except Failure α) : Except Failure α :=
  given node call.method call.payload >>= read

variable {read : Value → Except Failure α} {change : α → NodeCache → NodeCache}

/-- Fetching asks the node once, and remembers what it reads. -/
theorem outcome_fetching (call : RpcCall) (s : Session) :
    (fetching call read change).outcome s =
      match reading s.node call read with
      | .ok a => (.ok a, { s with calls := s.calls ++ [call], cache := change a s.cache })
      | .error failure => (.error failure, { s with calls := s.calls ++ [call] }) := by
  unfold fetching NodeCache.update reading
  rw [outcome_bind, outcome_call]
  cases given s.node call.method call.payload with
  | error failure => rfl
  | ok result =>
    have hread : (Except.ok result >>= read) = read result := rfl
    dsimp only
    rw [hread, outcome_bind, outcome_lift]
    cases read result <;> rfl

/-- Fetching comes to what the node answers if the part has not been remembered, and if what is
fetched then can be read. -/
theorem tells_fetching (part : CachePart)
    (hread : part.isFetchedBy node part.call = true → ∃ a, reading node part.call read = .ok a)
    (hagrees : ∀ a, reading node part.call read = .ok a →
      ∀ cache : NodeCache, cache.Agrees node → (change a cache).Agrees node)
    (hkept : ∀ a, reading node part.call read = .ok a → ∀ cache : NodeCache,
      part.isKept (change a cache) = true ∧
        ∀ other : CachePart, other.isKept cache = true → other.isKept (change a cache) = true)
    (hs : s.Serves node before) (hnone : part.isKept s.cache = false) :
    ((fetching part.call read change).outcome s).1 = reading node part.call read ∧
      ((fetching part.call read change).outcome s).2.Serves node before := by
  obtain rfl := hs.node_eq
  rw [outcome_fetching]
  cases hresult : reading s.node part.call read with
  | ok a =>
    obtain ⟨hnew, hother⟩ := hkept a hresult s.cache
    refine ⟨rfl, hs.fetch _ (hagrees a hresult s.cache hs.agrees) hother fun other hfetched => ?_⟩
    rw [CachePart.eq_of_isFetchedBy hfetched]
    exact ⟨hnone, hnew⟩
  | error failure =>
    refine ⟨rfl, hs.note _ fun other => ?_⟩
    rw [Bool.eq_false_iff]
    intro hfetched
    rw [CachePart.eq_of_isFetchedBy hfetched] at hfetched
    obtain ⟨a, ha⟩ := hread hfetched
    rw [hresult] at ha
    cases ha

/-- What is recalled, or else fetched, comes to what the node answers. -/
theorem tells_fetched (part : CachePart) (known : NodeCache → Option α)
    (read : Value → Except Failure α) (change : α → NodeCache → NodeCache) {act : Action α}
    (hsome : ∀ s a, known s.cache = some a → act.outcome s = (.ok a, s))
    (hnone : ∀ s, known s.cache = none →
      act.outcome s = (fetching part.call read change).outcome s)
    (hmissing : ∀ cache : NodeCache, known cache = none → part.isKept cache = false)
    (hknown : ∀ cache : NodeCache, cache.Agrees node → ∀ a, known cache = some a →
      reading node part.call read = .ok a)
    (hread : part.isFetchedBy node part.call = true → ∃ a, reading node part.call read = .ok a)
    (hagrees : ∀ a, reading node part.call read = .ok a →
      ∀ cache : NodeCache, cache.Agrees node → (change a cache).Agrees node)
    (hkept : ∀ a, reading node part.call read = .ok a → ∀ cache : NodeCache,
      part.isKept (change a cache) = true ∧
        ∀ other : CachePart, other.isKept cache = true → other.isKept (change a cache) = true) :
    Tells node act (reading node part.call read) := by
  refine tells_recalled known hsome hknown fun before s hs hcache => ?_
  rw [hnone s hcache]
  exact tells_fetching part hread hagrees hkept hs (hmissing s.cache hcache)

/-- A call that fetches nothing gives what the node answers. -/
theorem tells_call {method : String} {payload : Value}
    (h : ∀ part : CachePart, part.isFetchedBy node ⟨method, payload⟩ = false) :
    Tells node (call method payload) (given node method payload) := by
  intro before s hs
  obtain rfl := hs.node_eq
  rw [outcome_call]
  exact ⟨rfl, hs.note _ h⟩

/-- What is fetched can be read if every answer can. -/
theorem exists_reading {call : RpcCall} (hanswer : call.isAnswered node = true)
    (hread : ∀ result, node call.method call.payload = .ok result → ∃ a, read result = .ok a) :
    ∃ a, reading node call read = .ok a := by
  obtain ⟨result, hresult⟩ := RpcCall.exists_of_isAnswered hanswer
  obtain ⟨a, ha⟩ := hread result hresult
  refine ⟨a, bind_eq_ok_iff.mpr ⟨result, ?_, ha⟩⟩
  rw [given, hresult]

end Rpc

/-! ## The wallet -/

namespace Wallet

/-- Transactions that have a text as their hash can be read. -/
theorem exists_foldlM_addTransaction {txs : List Value}
    (h : ∀ tx ∈ txs, ∃ hash, tx.required "hash" = .ok (.text hash))
    (table : Table Key WalletTransaction) :
    ∃ table', txs.foldlM addTransaction table = .ok table' := by
  induction txs generalizing table with
  | nil => exact ⟨table, rfl⟩
  | cons tx rest ih =>
    rw [List.forall_mem_cons] at h
    obtain ⟨⟨hash, hhash⟩, hrest⟩ := h
    obtain ⟨table', hadd⟩ : ∃ table', addTransaction table tx = .ok table' := by
      unfold addTransaction
      rw [hhash]
      exact ⟨_, rfl⟩
    obtain ⟨final, hfinal⟩ := ih hrest table'
    exact ⟨final, by rw [List.foldlM_cons, hadd]; exact hfinal⟩

/-- The transactions of the wallet are told, and fetched at most once. -/
theorem tells_transactions (hdoc : Node.Documented node) :
    Tells node transactions (listed node) := by
  have hread : CachePart.transactions.isFetchedBy node CachePart.transactions.call = true →
      ∃ txs, Rpc.reading node CachePart.transactions.call readTransactions = .ok txs := by
    intro hfetched
    have hanswer := CachePart.isAnswered_of_isFetchedBy (by simp) hfetched
    refine Rpc.exists_reading hanswer fun result hresult => ?_
    obtain ⟨txs, hfield, hhashes⟩ := hdoc.transactions result hresult
    obtain ⟨table, htable⟩ := exists_foldlM_addTransaction hhashes []
    refine ⟨table, ?_⟩
    simp [readTransactions, itemsOf, hfield, Value.parts, htable, bind, Except.bind]
  refine Rpc.tells_fetched .transactions NodeCache.transactions readTransactions
    (fun txs cache => { cache with transactions := some txs }) (fun s txs h => ?_)
    (fun s h => ?_) (fun cache h => ?_) (fun _ h => h.transactions) hread
    (fun txs => agrees_of_listed) fun txs _ cache => ⟨rfl, ?_⟩
  · simp [transactions, NodeCache.current, outcome_bind, h]
  · have hfetch : transactions.outcome s = fetchTransactions.outcome s := by
      simp [transactions, NodeCache.current, outcome_bind, h]
    exact hfetch
  · simp [CachePart.isKept, h]
  · rintro (_ | _ | _ | _ | height) hother
    all_goals simp_all [CachePart.isKept]

/-- Outputs with a transaction and a place can be read. -/
theorem exists_readOutput {output txid index : Value} (htxid : output.required "txid" = .ok txid)
    (hindex : output.required "output" = .ok index) : ∃ entry, readOutput output = .ok entry := by
  cases output with
  | object fields =>
    simp [readOutput, htxid, hindex, Amount.field, Value.fieldD, Value.field?, bind, Except.bind,
      pure, Except.pure]
  | _ => cases htxid

/-- So are its outputs. -/
theorem tells_outputs (hdoc : Node.Documented node) :
    Tells node outputs (listedOutputs node) := by
  have hread : CachePart.outputs.isFetchedBy node CachePart.outputs.call = true →
      ∃ outputs, Rpc.reading node CachePart.outputs.call readOutputs = .ok outputs := by
    intro hfetched
    have hanswer := CachePart.isAnswered_of_isFetchedBy (by simp) hfetched
    refine Rpc.exists_reading hanswer fun result hresult => ?_
    obtain ⟨outputs, hfield, hparts⟩ := hdoc.outputs result hresult
    have houtput : ∀ output ∈ outputs, ∃ entry, readOutput output = .ok entry := by
      intro output houtput
      obtain ⟨⟨txid, htxid⟩, index, hindex⟩ := hparts output houtput
      exact exists_readOutput htxid hindex
    obtain ⟨entries, hentries⟩ := exists_forall₂ houtput
    have hentries : outputs.mapM readOutput = .ok entries := mapM_eq_ok_iff.mpr hentries
    refine ⟨Table.ofList entries, ?_⟩
    simp [readOutputs, itemsOf, hfield, Value.parts, hentries, bind, Except.bind, pure, Except.pure]
  refine Rpc.tells_fetched .outputs NodeCache.outputs readOutputs
    (fun found cache => { cache with outputs := some found }) (fun s found h => ?_)
    (fun s h => ?_) (fun cache h => ?_) (fun _ h => h.outputs) hread
    (fun found => agrees_of_listedOutputs) fun found _ cache => ⟨rfl, ?_⟩
  · simp [outputs, NodeCache.current, outcome_bind, h]
  · have hfetch : outputs.outcome s = fetchOutputs.outcome s := by
      simp [outputs, NodeCache.current, outcome_bind, h]
    exact hfetch
  · simp [CachePart.isKept, h]
  · rintro (_ | _ | _ | _ | height) hother
    all_goals simp_all [CachePart.isKept]

end Wallet

/-! ## Closed channels -/

namespace Channel

/-- The closed channels as they are remembered, or else fetched. -/
def givenOrFetched : Action Value := do
  match (← NodeCache.current).closedChannels with
  | some channels => return channels
  | none => fetchClosed

/-- So are the closed channels as the node gives them. -/
theorem tells_givenOrFetched (hdoc : Node.Documented node) :
    Tells node givenOrFetched (givenClosed node) := by
  -- The channels are remembered only because they are a list.
  have hlist : ∀ channels, givenClosed node = .ok channels → ∃ items, channels = .list items := by
    intro channels hchannels
    obtain ⟨result, hresult, hfield⟩ := bind_eq_ok_iff.mp hchannels
    obtain ⟨items, hitems⟩ := hdoc.closedChannels result (Rpc.node_of_given hresult)
    exact ⟨items, Except.ok.inj (hfield.symm.trans hitems)⟩
  have hread : CachePart.closedChannels.isFetchedBy node CachePart.closedChannels.call = true →
      ∃ channels, Rpc.reading node CachePart.closedChannels.call
        (fun result => result.fieldD "closedchannels" (.list [])) = .ok channels := by
    intro hfetched
    have hanswer := CachePart.isAnswered_of_isFetchedBy (by simp) hfetched
    refine Rpc.exists_reading hanswer fun result hresult => ?_
    obtain ⟨items, hitems⟩ := hdoc.closedChannels result hresult
    exact ⟨.list items, hitems⟩
  refine Rpc.tells_fetched .closedChannels NodeCache.closedChannels
    (fun result => result.fieldD "closedchannels" (.list []))
    (fun channels cache => { cache with closedChannels := channels.kept }) (fun s channels h => ?_)
    (fun s h => ?_) (fun cache h => ?_) (fun _ h => h.closedChannels) hread
    (fun channels => agrees_of_givenClosed) fun channels hchannels cache => ?_
  · simp [givenOrFetched, NodeCache.current, outcome_bind, h]
  · have hfetch : givenOrFetched.outcome s = fetchClosed.outcome s := by
      simp [givenOrFetched, NodeCache.current, outcome_bind, h]
    exact hfetch
  · simp [CachePart.isKept, h]
  · obtain ⟨items, rfl⟩ := hlist channels hchannels
    refine ⟨rfl, ?_⟩
    rintro (_ | _ | _ | _ | height) hother
    all_goals simp_all [CachePart.isKept, Value.kept]

/-- So are the closed channels one by one. -/
theorem tells_closed (hdoc : Node.Documented node) : Tells node closed (listedClosed node) := by
  refine ((tells_givenOrFetched hdoc).bind_lift Value.parts).congr fun s => ?_
  cases h : s.cache.closedChannels <;>
    simp [closed, givenOrFetched, NodeCache.current, outcome_bind, h]

/-- The open channels are told by a call each time. -/
theorem tells_openChannels : Tells node openChannels
    (Rpc.given node "listpeerchannels" (.object []) >>= readOpenChannels) := by
  refine (Rpc.tells_call fun part => ?_).bind_lift readOpenChannels
  rw [Bool.eq_false_iff]
  intro hfetched
  have hmethod := CachePart.method_eq_of_isFetchedBy hfetched
  cases part <;> simp [CachePart.call] at hmethod

end Channel

/-! ## Blocks -/

namespace Block

/-- A block that is fetched has a time. -/
theorem exists_listed (hdoc : Node.Documented node) {height : Int}
    (hfetched : (CachePart.block height).isFetchedBy node (CachePart.block height).call = true) :
    ∃ time, listed node height = .ok time := by
  have hanswer := CachePart.isAnswered_of_isFetchedBy (by simp) hfetched
  refine Rpc.exists_reading hanswer fun result hresult => ?_
  obtain ⟨block, hfield, hdigits⟩ := hdoc.blocks height result hresult
  have htruthy : block.truthy = true := by
    have hblock := (Bool.and_eq_true_iff.mp hfetched).2
    rw [RpcCall.givesBlock, hresult] at hblock
    simpa [hfield, Except.toOption] using hblock
  obtain ⟨digits, rfl, heven, hhex⟩ := hdigits htruthy
  obtain ⟨time, htime⟩ := exists_headerTime hhex heven
  refine ⟨time, ?_⟩
  simp [hfield, readBlock, htruthy, htime, bind, Except.bind]

/-- The time of a block is fetched by one call. -/
theorem outcome_fetchTime (height : Int) (s : Session) :
    (fetchTime height).outcome s = (Rpc.fetching (CachePart.block height).call
      (fun result => result.field "block" >>= readBlock height)
      fun time cache => { cache with
        blockTimes := cache.blockTimes ++ [(height, time)] }).outcome s := by
  unfold fetchTime Rpc.fetching CachePart.call
  dsimp only
  rw [outcome_bind, outcome_bind]
  rcases (Rpc.call "getrawblockbyheight" (.object [("height", .int height)])).outcome s with
    ⟨failure | result, t⟩
  · rfl
  · dsimp only
    rw [outcome_bind, outcome_bind, outcome_lift, outcome_lift]
    cases result.field "block" with
    | error failure => rfl
    | ok block =>
      have hread : (Except.ok block >>= readBlock height) = readBlock height block := rfl
      rw [hread]
      dsimp only
      rw [outcome_bind, outcome_lift]

/-- The time of a block is told, whether it is remembered or fetched. -/
theorem tells_time (hdoc : Node.Documented node) (height : Int) :
    Tells node (time height) (listed node height) := by
  refine Rpc.tells_fetched (.block height) (fun cache => cache.blockTimes.lookup height)
    (fun result => result.field "block" >>= readBlock height)
    (fun time cache => { cache with blockTimes := cache.blockTimes ++ [(height, time)] })
    (fun _ _ => outcome_time_of_some)
    (fun s h => (outcome_time_of_none h).trans (outcome_fetchTime height s)) (fun cache h => ?_)
    (fun _ h => h.blockTimes height) (exists_listed hdoc) (fun time => agrees_of_listed)
    fun time _ cache => ⟨?_, ?_⟩
  · simp [CachePart.isKept, h]
  · cases hlookup : cache.blockTimes.lookup height <;>
      simp [CachePart.isKept, List.lookup_append, hlookup]
  · rintro (_ | _ | _ | _ | other) hother
    all_goals simp_all [CachePart.isKept, List.lookup_append]

end Block

/-! ## The bookkeeper -/

namespace Bookkeeper

/-- A bookkeeper that answers lists its events. -/
theorem exists_listed (hdoc : Node.Documented node)
    (hanswer : CachePart.events.call.isAnswered node = true) :
    ∃ result events, node "bkpr-listaccountevents" (.object []) = .ok result ∧
      result.fieldD "events" (.list []) = .ok (.list events) ∧
        listed node = .ok (.list events) := by
  obtain ⟨result, hresult⟩ := RpcCall.exists_of_isAnswered hanswer
  obtain ⟨events, hfield⟩ := hdoc.events result hresult
  have hgiven : Rpc.given node "bkpr-listaccountevents" (.object []) = .ok result := by
    rw [Rpc.given, show node "bkpr-listaccountevents" (.object []) = .ok result from hresult]
  refine ⟨result, events, hresult, hfield, ?_⟩
  simp [listed, hgiven, hfield, Value.size, bind, Except.bind, pure, Except.pure]

/-- The bookkeeper answers exactly if its first call is answered. -/
theorem answers_eq (hdoc : Node.Documented node) :
    answers node = .ok (CachePart.events.call.isAnswered node) := by
  unfold answers
  cases hanswer : CachePart.events.call.isAnswered node with
  | true =>
    obtain ⟨result, events, hresult, -, hlisted⟩ := exists_listed hdoc hanswer
    rw [hresult, hlisted]
    rfl
  | false =>
    obtain ⟨error, herror⟩ := RpcCall.exists_of_not_isAnswered hanswer
    simp only [CachePart.call] at herror
    rw [herror]

/-- If the bookkeeper answers, it is not remembered that it does not. -/
theorem bookkeeper_ne_false (hdoc : Node.Documented node)
    (hanswer : CachePart.events.call.isAnswered node = true) {cache : NodeCache}
    (hcache : cache.Agrees node) : cache.bookkeeper ≠ some false := by
  intro hfalse
  have hanswers := hcache.bookkeeper false hfalse
  rw [answers_eq hdoc, hanswer] at hanswers
  cases hanswers

/-- If the bookkeeper answers its events are fetched and remembered. -/
theorem tells_given (hdoc : Node.Documented node)
    (hanswer : CachePart.events.call.isAnswered node = true) : Tells node given (listed node) := by
  obtain ⟨result, events, hresult, hfield, hlisted⟩ := exists_listed hdoc hanswer
  refine tells_recalled NodeCache.events outcome_given_of_some (fun _ h => h.events)
    fun before s hs hnone => ?_
  obtain rfl := hs.node_eq
  have houtcome : ∃ line, fetch.outcome s = (.ok (.list events), Session.write
      { s with
        calls := s.calls ++ [CachePart.events.call]
        cache := { s.cache with events := some (.list events) } } line) := by
    unfold fetch Rpc.ask
    rw [outcome_bind, Rpc.outcome_call, Rpc.given, hresult]
    simp only [outcome_bind, hfield, NodeCache.update, Value.size, Value.kept, outcome_lift,
      outcome_modify]
    exact ⟨_, rfl⟩
  obtain ⟨line, houtcome⟩ := houtcome
  rw [outcome_given_of_none s hnone, houtcome, hlisted]
  refine ⟨rfl, (hs.fetch _ (agrees_of_listed hlisted s.cache hs.agrees) ?_ ?_).write line⟩
  · rintro (_ | _ | _ | _ | height) hother
    all_goals simp_all [CachePart.isKept, Value.kept]
  · intro part hpart
    rw [CachePart.eq_of_isFetchedBy hpart]
    refine ⟨?_, rfl⟩
    simp [CachePart.isKept, hnone, bookkeeper_ne_false hdoc hanswer hs.agrees]

/-- Its events are told, and fetched at most once. -/
theorem tells_events (hdoc : Node.Documented node)
    (hanswer : CachePart.events.call.isAnswered node = true) :
    Tells node events (listedEvents node) :=
  (tells_given hdoc hanswer).bind_lift Value.parts

/-- Finding out whether the bookkeeper answers. -/
theorem outcome_available_of_none {s : Session} (hnone : s.cache.bookkeeper = none) :
    available.outcome s = (do
      let answer ← probe
      NodeCache.update fun cache => { cache with bookkeeper := some answer }
      return answer).outcome s := by
  simp [available, NodeCache.current, outcome_bind, hnone]

/-- It answers if it gives its events. -/
theorem outcome_available_of_given {s t : Session} {events : Value}
    (hnone : s.cache.bookkeeper = none) (hgiven : given.outcome s = (.ok events, t)) :
    available.outcome s =
      (.ok true, { t with cache := { t.cache with bookkeeper := some true } }) := by
  rw [outcome_available_of_none hnone]
  unfold probe
  simp only [outcome_bind, outcome_attempt, hgiven]
  rfl

/-- It does not if it refuses them, which is logged. -/
theorem outcome_available_of_error {s : Session} {error : Value}
    (hnone : s.cache.bookkeeper = none) (hcache : s.cache.Agrees s.node)
    (herror : s.node "bkpr-listaccountevents" (.object []) = .error error) :
    ∃ line, available.outcome s = (.ok false, Session.write
      { s with
        calls := s.calls ++ [CachePart.events.call]
        cache := { s.cache with bookkeeper := some false } } line) := by
  rw [outcome_available_of_none hnone]
  unfold probe
  simp only [outcome_bind, outcome_attempt, outcome_given_of_error hcache herror]
  exact ⟨_, rfl⟩

/-- Whether the bookkeeper answers is found out by one call, be it refused or not. -/
theorem tells_available (hdoc : Node.Documented node) :
    Tells node available (.ok (CachePart.events.call.isAnswered node)) := by
  have hanswers := answers_eq hdoc
  refine tells_recalled NodeCache.bookkeeper ?_ ?_ fun before s hs hnone => ?_
  · intro s answer h
    simp [available, NodeCache.current, outcome_bind, h]
  · intro cache hcache answer hknown
    rw [← hanswers]
    exact hcache.bookkeeper answer hknown
  obtain rfl := hs.node_eq
  cases hanswer : CachePart.events.call.isAnswered s.node with
  | true =>
    rw [hanswer] at hanswers
    obtain ⟨result, events, -, -, hlisted⟩ := exists_listed hdoc hanswer
    obtain ⟨hresult, hafter⟩ := tells_given hdoc hanswer before s hs
    rcases hgiven : given.outcome s with ⟨r, t⟩
    rw [hgiven, hlisted] at hresult
    rw [hgiven] at hafter
    obtain rfl : r = .ok (.list events) := hresult
    rw [outcome_available_of_given hnone hgiven]
    refine ⟨rfl, hafter.remember (agrees_of_answers hanswers t.cache hafter.agrees) ?_⟩
    have hrefused := bookkeeper_ne_false hdoc hanswer hafter.agrees
    rintro (_ | _ | _ | _ | height) hother
    all_goals simp_all [CachePart.isKept]
  | false =>
    rw [hanswer] at hanswers
    obtain ⟨error, herror⟩ := RpcCall.exists_of_not_isAnswered hanswer
    obtain ⟨line, houtcome⟩ := outcome_available_of_error hnone hs.agrees herror
    rw [houtcome]
    have hagrees := agrees_of_answers hanswers s.cache hs.agrees
    refine ⟨rfl, (hs.fetch _ hagrees ?_ ?_).write line⟩
    · rintro (_ | _ | _ | _ | height) hother
      all_goals simp_all [CachePart.isKept]
    · intro part hpart
      rw [CachePart.eq_of_isFetchedBy hpart]
      have hevents := events_eq_none_of_error hs.agrees herror
      exact ⟨by simp [CachePart.isKept, hevents, hnone], by simp [CachePart.isKept]⟩

end Bookkeeper

end NodeLedger
