import NodeLedger.Proofs.Node.Caching
import NodeLedger.Proofs.Node.Calls

/-!
# Calls in any order

What is remembered of a node cannot be seen in what it is asked for.  If its answers have the shapes
that are documented, each of several calls gives what it gives on a source of which nothing has been
asked yet, failures included.  The calls share what they fetch: nothing is fetched twice.

Main results:

- Theorem `Node.mirrored_serving`: all that the records are made of comes to the same whatever has
  been fetched before.
- Theorem `Node.perform_eq_alone`: so does a call.  It fetches sparingly, and the way to look up fees
  that is held after it is the one in which the node gives them.
- Theorem `Node.replies_eq_alone`: so do all calls of a sequence, and each part of what they need is
  fetched at most once.
-/

namespace NodeLedger

open List NodeLedger.Action NodeLedger.Value

variable {node : String → Value → Except Value Value} {before before' : List RpcCall}
  {s fresh : Session} {held : Option (Value → Action Int)}

/-! ## The parts -/

theorem forall₂_recordAlike_self (records : List Value) : Forall₂ RecordAlike records records :=
  forall₂_same.mpr fun record _ => recordAlike_self record

theorem transactionsAlike_self (txs : Table Key WalletTransaction) : TransactionsAlike txs txs :=
  forall₂_same.mpr fun _ _ => ⟨rfl, rfl, listedAlike_self _⟩

/-- Whether the bookkeeper of a node answers. -/
def Node.IsAnswer (node : String → Value → Except Value Value) (answers : Bool) : Prop :=
  answers = CachePart.events.call.isAnswered node

/-- All that the records are made of comes to the same whatever has been fetched before. -/
theorem Node.mirrored_serving (hdoc : Node.Documented node) :
    Node.Mirrored (.serving node before before') (Node.IsAnswer node) where
  available := by
    have htells := Bookkeeper.tells_available hdoc
    exact htells.mirrors htells fun answer hanswer => ⟨rfl, (Except.ok.inj hanswer).symm⟩
  events hanswer := by
    have htells := Bookkeeper.tells_events hdoc (Eq.symm hanswer)
    exact htells.mirrors htells fun events _ => forall₂_recordAlike_self events
  transactions := by
    have htells := Wallet.tells_transactions hdoc
    exact htells.mirrors htells fun txs _ => transactionsAlike_self txs
  outputs := (Wallet.tells_outputs hdoc).mirrors (Wallet.tells_outputs hdoc) fun _ _ => rfl
  openChannels := Channel.tells_openChannels.mirrors Channel.tells_openChannels fun _ _ => rfl
  closed := by
    have htells := Channel.tells_closed hdoc
    exact htells.mirrors htells fun channels _ => forall₂_recordAlike_self channels
  time height :=
    (Block.tells_time hdoc height).mirrors (Block.tells_time hdoc height) fun _ _ => rfl

/-! ## Fees -/

/-- The way in which fees are looked up, according to whether the bookkeeper answers. -/
def History.feesBy (answers : Bool) : Value → Action Int :=
  if answers then recordedFee else Wallet.fee

theorem History.tells_feeLookup (hdoc : Node.Documented node) :
    Tells node feeLookup (.ok (some (feesBy (CachePart.events.call.isAnswered node)))) := by
  refine ((Bookkeeper.tells_available hdoc).bind_lift
    fun answers => .ok (some (feesBy answers))).congr fun s => ?_
  unfold feeLookup
  rw [outcome_bind, outcome_bind]
  rcases Bookkeeper.available.outcome s with ⟨failure | _ | _, t⟩ <;> rfl

namespace Node

/-- There is only one way to look up fees that may be held. -/
theorem mayHold_some_iff {feeOf : Value → Action Int} :
    MayHold (IsAnswer node) (some feeOf) ↔
      feeOf = History.feesBy (CachePart.events.call.isAnswered node) := by
  constructor
  · intro hheld
    rcases hheld feeOf rfl with ⟨rfl, hanswer⟩ | ⟨rfl, hanswer⟩ <;> rw [← hanswer] <;> rfl
  · rintro rfl _ ⟨rfl⟩
    unfold GivesFees IsAnswer
    cases CachePart.events.call.isAnswered node
    · exact .inr ⟨rfl, rfl⟩
    · exact .inl ⟨rfl, rfl⟩

theorem mayHold_none : MayHold (IsAnswer node) none := by
  rintro feeOf ⟨⟩

/-- Whether a way to look up fees is held or not, fees are looked up in the same way. -/
theorem tells_lookup (hdoc : Documented node) (hheld : MayHold (IsAnswer node) held) :
    Tells node (onChain.lookup held)
      (.ok (some (History.feesBy (CachePart.events.call.isAnswered node)))) := by
  cases held with
  | none => exact History.tells_feeLookup hdoc
  | some feeOf =>
    rw [mayHold_some_iff.mp hheld]
    exact tells_pure _

/-! ## Calls -/

/-- A call gives what it gives on its own.  The session serves on after it, and what is held is still
the one way to look up fees. -/
theorem perform_eq_alone (hdoc : Documented node) (hs : s.Serves node before)
    (hfresh : fresh.Serves node before') (hheld : MayHold (IsAnswer node) held)
    (call : OnChainCall) :
    ((onChain.perform held call).outcome s).1 = ((onChain.perform none call).outcome fresh).1 ∧
      ((onChain.perform held call).outcome s).2.Serves node before ∧
      MayHold (IsAnswer node)
        (OnChainSource.heldAfter held ((onChain.perform held call).outcome s).1) := by
  have hlookup : Mirrors (.serving node before before') (LooksUp (IsAnswer node))
      (onChain.lookup held) (onChain.lookup none) := by
    have hfirst := tells_lookup hdoc mayHold_none
    refine (tells_lookup hdoc hheld).mirrors hfirst fun lookup hlooks => ?_
    rw [← Except.ok.inj hlooks]
    exact ⟨rfl, mayHold_some_iff.mpr rfl⟩
  obtain ⟨hreply, hafter, -⟩ := (mirrored_serving hdoc).perform hlookup call s fresh ⟨hs, hfresh⟩
  exact ⟨matches_eq_iff.mp (hreply.imp fun _ _ hsame => hsame.1), hafter,
    mayHold_heldAfter hheld hreply⟩

/-- Calls one after the other each give what they give on their own. -/
theorem replies_of_serves (hdoc : Documented node) (hfresh : fresh.Serves node before')
    (calls : List OnChainCall) (hs : s.Serves node before) (hheld : MayHold (IsAnswer node) held) :
    ((onChain.replies held calls).outcome s).1 =
        .ok (calls.map fun call => ((onChain.perform none call).outcome fresh).1) ∧
      ((onChain.replies held calls).outcome s).2.Serves node before := by
  -- What is held changes from call to call, but not the way in which fees are looked up.
  induction calls generalizing s held with
  | nil => exact ⟨rfl, hs⟩
  | cons call rest ih =>
    obtain ⟨hreply, hafter, hheldAfter⟩ := perform_eq_alone hdoc hs hfresh hheld call
    rcases hcall : (onChain.perform held call).outcome s with ⟨reply, t⟩
    rw [hcall] at hreply hafter hheldAfter
    obtain ⟨hreplies, hend⟩ := ih hafter hheldAfter
    unfold OnChainSource.replies
    rw [outcome_bind, outcome_attempt, hcall]
    dsimp only at hreplies hend ⊢
    rw [outcome_bind]
    rcases hrest : (onChain.replies (OnChainSource.heldAfter held reply) rest).outcome t with ⟨r, u⟩
    rw [hrest] at hreplies hend
    obtain rfl := hreplies
    rw [List.map_cons, ← hreply]
    exact ⟨rfl, hend⟩

/-- On a node with answers of documented shape, calls one after the other give what each of them
gives if it is the first one, failures included.  All together they ask for the events of the
bookkeeper at most once, and get each other part at most once. -/
theorem replies_eq_alone (hdoc : Documented s.node) (hcache : s.cache = {})
    (calls : List OnChainCall) :
    (∀ fresh : Session, fresh.node = s.node → fresh.cache = {} →
      ((onChain.replies none calls).outcome s).1 =
        .ok (calls.map fun call => ((onChain.perform none call).outcome fresh).1)) ∧
    ∃ made, ((onChain.replies none calls).outcome s).2.calls = s.calls ++ made ∧
      ∀ part : CachePart, made.countP (fun call => part.isFetchedBy s.node call) ≤ 1 := by
  have hs := Session.serves_fresh rfl hcache
  constructor
  · intro fresh hnode hempty
    exact (replies_of_serves hdoc (Session.serves_fresh hnode hempty) calls hs mayHold_none).1
  · obtain ⟨made, hcalls, hspares⟩ := (replies_of_serves hdoc hs calls hs mayHold_none).2.spares
    exact ⟨made, hcalls, fun part => (hspares part).trans (Bool.toNat_le _)⟩

/-- The id of a transaction that closes a channel. -/
def shutId : String :=
  String.ofList (List.replicate 64 'c')

/-- The id of a transaction that sweeps what was left of it. -/
def sweptId : String :=
  String.ofList (List.replicate 64 'd')

/-- The digits of the time of a block. -/
def sampleTime : List Char :=
  ['6', '4', '0', '0', '0', '0', '0', '0']

/-- The digits of a block. -/
def sampleBlock : List Char :=
  List.replicate 136 '0' ++ sampleTime

theorem isHex_sampleBlock {c : Char} (hc : c ∈ sampleBlock) : (Text.hexDigit? c).isSome := by
  have htime : sampleTime.all fun c => (Text.hexDigit? c).isSome := by decide
  rcases List.mem_append.mp hc with hzero | hdigit
  · rw [List.eq_of_mem_replicate hzero]
    decide
  · exact List.all_eq_true.mp htime c hdigit

/-- A node without a bookkeeper, with one channel that has been closed.  It refuses to tell its open
channels. -/
def retiredNode (method : String) (_payload : Value) : Except Value Value :=
  match method with
  | "bkpr-listaccountevents" => .error (.text "unknown command")
  | "listpeerchannels" => .error (.text "busy")
  | "listclosedchannels" => .ok (.object [("closedchannels", .list [
      .object [("funding_txid", .text "funding"), ("funding_outnum", .int 1)]])])
  | "listtransactions" => .ok (.object [("transactions", .list [
      .object [("hash", .text shutId),
        ("inputs", .list [.object [("txid", .text "funding"), ("index", .int 1)]]),
        ("outputs", .list [.object [("index", .int 0), ("amount_msat", .int 900000)]])],
      .object [("hash", .text sweptId), ("blockheight", .int 7),
        ("inputs", .list [.object [("txid", .text shutId), ("index", .int 0)]]),
        ("outputs", .list [.object [("index", .int 0), ("amount_msat", .int 890000)]])]])])
  | "listfunds" => .ok (.object [("outputs", .list [
      .object [("txid", .text sweptId), ("output", .int 0), ("amount_msat", .int 890000)]])])
  | "getrawblockbyheight" => .ok (.object [("block", .text (String.ofList sampleBlock))])
  | _ => .ok (.object [])

theorem documented_retiredNode : Documented retiredNode where
  events := by
    rintro result ⟨⟩
  transactions := by
    rintro result ⟨⟩
    refine ⟨_, rfl, fun tx htx => ?_⟩
    rw [List.mem_cons, List.mem_singleton] at htx
    rcases htx with rfl | rfl <;> exact ⟨_, rfl⟩
  outputs := by
    rintro result ⟨⟩
    refine ⟨_, rfl, fun output houtput => ?_⟩
    obtain rfl := List.mem_singleton.mp houtput
    exact ⟨⟨_, rfl⟩, _, rfl⟩
  closedChannels := by
    rintro result ⟨⟩
    exact ⟨_, rfl⟩
  blocks := by
    rintro height result ⟨⟩
    refine ⟨_, rfl, fun _ => ⟨_, rfl, ?_, ?_⟩⟩
    · simp [sampleBlock, sampleTime]
    · intro c hc
      rw [String.toList_ofList] at hc
      exact isHex_sampleBlock hc

/-- Transactions, sweeps and a fee all need the transactions of the wallet, which are fetched once;
the open channels are refused both times. -/
theorem replies_eq_alone_retiredNode :
    let s : Session := { node := retiredNode }
    let calls := [.transactions, .openChannels, .sweeps, .fee (.text sweptId), .openChannels,
      .transactions]
    Documented s.node ∧
      ((onChain.replies none calls).outcome s).2.calls.map (·.method) =
        ["bkpr-listaccountevents", "listfunds", "listtransactions", "listclosedchannels",
          "getrawblockbyheight", "listpeerchannels", "listpeerchannels"] ∧
      ((onChain.replies none calls).outcome s).1 =
        .ok (calls.map fun call => ((onChain.perform none call).outcome s).1) ∧
      ∃ made, ((onChain.replies none calls).outcome s).2.calls = s.calls ++ made ∧
        ∀ part : CachePart, made.countP (fun call => part.isFetchedBy s.node call) ≤ 1 := by
  intro s calls
  obtain ⟨hreplies, hmade⟩ := replies_eq_alone (s := s) documented_retiredNode rfl calls
  exact ⟨documented_retiredNode, by decide +kernel, hreplies s rfl rfl, hmade⟩

end Node

end NodeLedger
