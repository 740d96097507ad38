import NodeLedger.Node.Source
import NodeLedger.Proofs.Record.Respelled

/-!
# Calls of a source one after the other

The records of a node on chain may be asked for in any order and as often as one likes, and a call
that fails does not end the others.  All of them are made of a few parts that are fetched from the
node.  So if each of these parts comes to the same in two runs, up to the way in which amounts are
written, all calls do.

Main results:

- Type `OnChainCall` with `OnChainSource.perform`, and definition `OnChainSource.replies`: calls of
  a source, one after the other.
- Structure `Node.Mirrored`: the parts of which the records are made come to the same in two runs.
- Theorem `Node.Mirrored.perform`: then so does every call, and theorem `Node.Mirrored.replies`: all
  calls of a sequence.
-/

namespace NodeLedger

open List NodeLedger.Action NodeLedger.Value

/-! ## Calls -/

/-- A call of a source of records on chain.  A fee is asked for by the way to look up fees that the
source gave last. -/
inductive OnChainCall where
  | openChannels
  | closedChannels
  | transactions
  | sweeps
  | feeLookup
  | fee (txid : Value)

/-- What a call gives. -/
inductive OnChainReply where
  | openChannels (channels : List OpenChannel)
  | closedChannels (channels : List ClosedChannel)
  | transactions (txs : List Transaction)
  | sweeps (txids : List Value)
  | feeLookup (lookup : Option (Value → Action Int))
  /-- A fee, if the source knows fees. -/
  | fee (sats : Option Int)

namespace OnChainSource

variable (source : OnChainSource)

/-- The way to look up fees that is held, or else the one that the source gives. -/
def lookup : Option (Value → Action Int) → Action (Option (Value → Action Int))
  | some feeOf => return some feeOf
  | none => source.feeLookup

/-- A fee, if there is a way to look it up. -/
def fee (held : Option (Value → Action Int)) (txid : Value) : Action (Option Int) := do
  match ← source.lookup held with
  | some feeOf => return some (← feeOf txid)
  | none => return none

/-- What a call does. -/
def perform (held : Option (Value → Action Int)) : OnChainCall → Action OnChainReply
  | .openChannels => .openChannels <$> source.openChannels
  | .closedChannels => .closedChannels <$> source.closedChannels
  | .transactions => .transactions <$> source.transactions
  | .sweeps => .sweeps <$> source.sweeps
  | .feeLookup => .feeLookup <$> source.feeLookup
  | .fee txid => .fee <$> source.fee held txid

/-- The way to look up fees that is held after a reply. -/
def heldAfter (held : Option (Value → Action Int)) :
    Except Failure OnChainReply → Option (Value → Action Int)
  | .ok (.feeLookup (some feeOf)) => some feeOf
  | _ => held

/-- What calls one after the other give; a call that fails does not end them. -/
def replies (held : Option (Value → Action Int)) :
    List OnChainCall → Action (List (Except Failure OnChainReply))
  | [] => return []
  | call :: rest => do
    let reply ← (source.perform held call).attempt
    return reply :: (← replies (heldAfter held reply) rest)

end OnChainSource

/-! ## Parts that come to the same -/

/-- The parts of which the records of a node on chain are made come to the same in two runs, up to
the way in which amounts are written.  The events of the bookkeeper matter only if it can be that it
answers. -/
structure Node.Mirrored (p : Pairing) (possible : Bool → Prop) : Prop where
  available : Mirrors p (fun answer answer' => answer = answer' ∧ possible answer)
    Bookkeeper.available Bookkeeper.available
  events : possible true → Mirrors p (Forall₂ RecordAlike) Bookkeeper.events Bookkeeper.events
  transactions : Mirrors p TransactionsAlike Wallet.transactions Wallet.transactions
  outputs : Mirrors p Eq Wallet.outputs Wallet.outputs
  openChannels : Mirrors p Eq Channel.openChannels Channel.openChannels
  closed : Mirrors p (Forall₂ RecordAlike) Channel.closed Channel.closed
  time : ∀ height, Mirrors p Eq (Block.time height) (Block.time height)

/-- A way in which the node may give fees: those recorded if the bookkeeper can answer, and those
worked out from the wallet if it may not. -/
def Node.GivesFees (possible : Bool → Prop) (feeOf : Value → Action Int) : Prop :=
  (feeOf = History.recordedFee ∧ possible true) ∨ (feeOf = Wallet.fee ∧ possible false)

/-- If a way to look up fees is held, it is one in which the node may give them. -/
def Node.MayHold (possible : Bool → Prop) (held : Option (Value → Action Int)) : Prop :=
  ∀ feeOf, held = some feeOf → Node.GivesFees possible feeOf

/-- Two runs look up fees in one way, in which the node may give them. -/
def Node.LooksUp (possible : Bool → Prop) (lookup lookup' : Option (Value → Action Int)) : Prop :=
  lookup = lookup' ∧ Node.MayHold possible lookup

/-- Two runs give one reply, with a way to look up fees in which the node may give them. -/
def Node.Replies (possible : Bool → Prop) (reply reply' : OnChainReply) : Prop :=
  reply = reply' ∧ ∀ feeOf, reply = .feeLookup (some feeOf) → Node.GivesFees possible feeOf

/-- What is held after a reply is one of the ways in which the node may give fees. -/
theorem Node.mayHold_heldAfter {possible : Bool → Prop} {held : Option (Value → Action Int)}
    (hheld : Node.MayHold possible held) {reply reply' : Except Failure OnChainReply}
    (hreply : Matches (Node.Replies possible) reply reply') :
    Node.MayHold possible (OnChainSource.heldAfter held reply) := by
  intro feeOf hafter
  cases hreply with
  | error failure => exact hheld feeOf hafter
  | ok hreply =>
    unfold OnChainSource.heldAfter at hafter
    split at hafter
    case h_1 looked hlooked =>
      cases hlooked
      cases hafter
      exact hreply.2 _ rfl
    case h_2 => exact hheld feeOf hafter

/-- A closed channel is looked up with log lines only. -/
theorem Channel.mirrors_findClosed {p : Pairing} (closings : Table Key Value) (channel : Value) :
    Mirrors p Eq (findClosed closings channel) (findClosed closings channel) := by
  unfold findClosed
  refine (mirrors_check _).bind_eq fun channelPoint => ?_
  rcases channelPoint with _ | channelPoint
  · exact mirrors_pure rfl
  · dsimp only
    split
    · refine (mirrors_check _).bind_eq fun id => ?_
      exact (mirrors_log _ _ _ _).bind_eq fun _ => mirrors_pure rfl
    · exact (mirrors_check _).bind_eq fun _ => mirrors_pure rfl

namespace Node.Mirrored

variable {p : Pairing} {possible : Bool → Prop} (h : Node.Mirrored p possible)

include h

/-- What is done if the bookkeeper answers, and what is done if it does not. -/
theorem ifAvailable {α β : Type} {R : α → β → Prop} {act other : Action α} {act' other' : Action β}
    (hact : possible true → Mirrors p R act act')
    (hother : possible false → Mirrors p R other other') :
    Mirrors p R (do if ← Bookkeeper.available then act else other)
      (do if ← Bookkeeper.available then act' else other') := by
  refine h.available.bind ?_
  rintro (_ | _) _ ⟨rfl, hpossible⟩
  · exact hother hpossible
  · exact hact hpossible

/-- What is read of the events, one by one. -/
theorem ofEvents {α : Type} {read : List Value → Except Failure α}
    (hread : ∀ events others, Forall₂ RecordAlike events others → read events = read others)
    (hpossible : possible true) :
    Mirrors p Eq (do read (← Bookkeeper.events)) (do read (← Bookkeeper.events)) :=
  (h.events hpossible).bind fun events others hevents =>
    mirrors_lift (matches_eq_iff.mpr (hread events others hevents))

/-! ## Fees -/

theorem details (txid : Value) : Mirrors p Eq (Wallet.details txid) (Wallet.details txid) := by
  unfold Wallet.details
  refine h.transactions.bind fun txs others htxs => ?_
  refine (mirrors_check txid.key).bind_eq fun key => ?_
  have hfound := Table.Related.get? htxs key
  generalize txs.get? key = found, others.get? key = found' at hfound
  cases hfound with
  | none => exact mirrors_throw _
  | some htx => exact mirrors_lift (matches_eq_iff.mpr (Wallet.decoded_congr htx.content txid))

theorem walletFee (txid : Value) : Mirrors p Eq (Wallet.fee txid) (Wallet.fee txid) :=
  mirrors_ofTransaction (fun txid => h.details (.text txid)) txid

theorem recordedFee (hpossible : possible true) (txid : Value) :
    Mirrors p Eq (History.recordedFee txid) (History.recordedFee txid) := by
  refine h.ofEvents (fun events others hevents => ?_) hpossible
  unfold Bookkeeper.fee
  rw [mapM_eq_of_alike (fun _ _ halike => Bookkeeper.readFee_congr halike txid) hevents]

/-- Whichever way the node gives fees in, they come to the same. -/
theorem feeOf {feeOf : Value → Action Int} (hgives : Node.GivesFees possible feeOf)
    (txid : Value) : Mirrors p Eq (feeOf txid) (feeOf txid) := by
  rcases hgives with ⟨rfl, hpossible⟩ | ⟨rfl, -⟩
  · exact h.recordedFee hpossible txid
  · exact h.walletFee txid

theorem feeLookup :
    Mirrors p (Node.LooksUp possible) History.feeLookup History.feeLookup := by
  refine h.ifAvailable (fun hpossible => ?_) fun hpossible => ?_
  · refine mirrors_pure ⟨rfl, ?_⟩
    rintro _ ⟨rfl⟩
    exact .inl ⟨rfl, hpossible⟩
  · refine mirrors_pure ⟨rfl, ?_⟩
    rintro _ ⟨rfl⟩
    exact .inr ⟨rfl, hpossible⟩

/-! ## Channels -/

theorem walletClosings :
    Mirrors p Eq (do Channel.walletClosings ((← Wallet.transactions).map (·.2)))
      (do Channel.walletClosings ((← Wallet.transactions).map (·.2))) := by
  refine h.transactions.bind fun txs others htxs => ?_
  have hspendings : (txs.map (·.2)).mapM Channel.spendings =
      (others.map (·.2)).mapM Channel.spendings := by
    refine mapM_eq_of_forall₂ (R := WalletTransaction.Alike) (fun tx other htx => ?_) ?_
    · simp only [Channel.spendings, Wallet.inputsOf_congr htx.content, htx.hash_eq]
    · exact forall₂_map_left_iff.mpr (forall₂_map_right_iff.mpr (htxs.imp fun _ _ htx => htx.2))
  unfold Channel.walletClosings
  rw [hspendings]
  exact mirrors_check _

theorem closings : Mirrors p Eq Channel.closings Channel.closings := by
  refine h.ifAvailable (h.ofEvents fun events others hevents => ?_) fun _ => h.walletClosings
  unfold Bookkeeper.closings
  rw [mapM_eq_of_alike (fun _ _ halike => Bookkeeper.readClosing_congr halike) hevents]

theorem closedChannels : Mirrors p Eq Channel.closedChannels Channel.closedChannels := by
  unfold Channel.closedChannels
  refine h.closings.bind_eq fun closings => ?_
  refine h.closed.bind fun channels others hchannels => ?_
  have hfound : ∀ v w, RecordAlike v w →
      Mirrors p Eq (Channel.findClosed closings v) (Channel.findClosed closings w) := by
    intro v w halike
    rw [Channel.findClosed_congr halike]
    exact Channel.mirrors_findClosed closings w
  refine (Mirrors.mapM hfound hchannels).bind fun found found' hfound => ?_
  rw [forall₂_eq_eq_eq] at hfound
  exact mirrors_pure (by rw [hfound])

/-! ## Sweeps and transactions -/

theorem walletSweeps : Mirrors p TransactionsAlike History.walletSweeps History.walletSweeps := by
  unfold History.walletSweeps
  refine h.closings.bind_eq fun closings => ?_
  refine h.outputs.bind_eq fun outputs => ?_
  refine h.closed.bind fun channels others hchannels => ?_
  rw [History.closesOf_congr hchannels]
  refine (mirrors_check _).bind_eq fun closes => ?_
  exact h.transactions.bind fun txs others htxs =>
    mirrors_lift (History.sweepsAmong_matches htxs closes outputs)

theorem sweeps : Mirrors p Eq History.sweeps History.sweeps := by
  refine h.ifAvailable (h.ofEvents fun events others hevents => ?_) fun _ => ?_
  · unfold Bookkeeper.sweeps
    rw [mapM_eq_of_alike (fun _ _ halike => Bookkeeper.readSweep_congr halike) hevents]
  · refine h.walletSweeps.bind fun txs others htxs => mirrors_pure ?_
    have hhashes : Forall₂ Eq (txs.map (·.2.hash)) (others.map (·.2.hash)) :=
      forall₂_map_left_iff.mpr (forall₂_map_right_iff.mpr (htxs.imp fun _ _ htx => htx.2.hash_eq))
    rwa [forall₂_eq_eq_eq] at hhashes

/-- A transaction that is rebuilt. -/
theorem rebuild {outputs : Table String Int} {sweeps sweeps' : Table Key WalletTransaction}
    (hsweeps : TransactionsAlike sweeps sweeps') {key : Key} {tx other : WalletTransaction}
    (htx : tx.Alike other) :
    Mirrors p Eq (History.rebuild outputs sweeps (key, tx))
      (History.rebuild outputs sweeps' (key, other)) := by
  unfold History.rebuild
  have hreceived := matches_eq_iff.mpr (History.received_congr htx outputs)
  have hspent := matches_eq_iff.mpr (History.spent_congr htx outputs)
  refine (mirrors_lift hreceived).bind_eq fun received => ?_
  refine (mirrors_lift hspent).bind_eq fun spent => ?_
  rw [hsweeps.isSome_get?_eq key, htx.hash_eq, History.heightOf_congr htx.content]
  extract_lets rest
  have hrest (fee : Int) : Mirrors p Eq (rest fee) (rest fee) := by
    refine (mirrors_check _).bind_eq fun height => ?_
    dsimp only
    split
    · exact (mirrors_pure rfl).bind_eq fun timestamp => mirrors_pure rfl
    · exact (h.time height).bind_eq fun timestamp => mirrors_pure rfl
  split
  · exact (h.walletFee _).bind_eq hrest
  · exact (mirrors_pure rfl).bind_eq hrest

theorem walletTransactions :
    Mirrors p Eq History.walletTransactions History.walletTransactions := by
  unfold History.walletTransactions
  refine h.outputs.bind_eq fun outputs => ?_
  refine h.walletSweeps.bind fun sweeps sweeps' hsweeps => ?_
  refine h.transactions.bind fun txs others htxs => ?_
  have hrebuilt : ∀ (entry entry' : Key × WalletTransaction),
      entry.1 = entry'.1 ∧ entry.2.Alike entry'.2 →
        Mirrors p Eq (History.rebuild outputs sweeps entry)
          (History.rebuild outputs sweeps' entry') := by
    rintro ⟨key, tx⟩ ⟨_, other⟩ ⟨rfl, htx⟩
    exact h.rebuild hsweeps htx
  refine (Mirrors.mapM hrebuilt htxs).bind fun rebuilt rebuilt' hsame => ?_
  rw [forall₂_eq_eq_eq] at hsame
  exact (mirrors_log _ _ _ _).bind_eq fun _ => mirrors_pure hsame

theorem walletHistory : Mirrors p Eq History.transactions History.transactions := by
  refine h.ifAvailable (h.ofEvents fun events others hevents => ?_) fun _ => h.walletTransactions
  unfold Bookkeeper.transactions
  rw [mapM_eq_of_alike (fun _ _ halike => Bookkeeper.readWalletEvent_congr halike) hevents]

/-! ## Calls -/

variable {held held' : Option (Value → Action Int)}

theorem lookup (hheld : Node.MayHold possible held) :
    Mirrors p (Node.LooksUp possible) (Node.onChain.lookup held) (Node.onChain.lookup held) := by
  cases held with
  | none => exact h.feeLookup
  | some feeOf => exact mirrors_pure ⟨rfl, hheld⟩

theorem fee (hlookup : Mirrors p (Node.LooksUp possible) (Node.onChain.lookup held)
      (Node.onChain.lookup held')) (txid : Value) :
    Mirrors p Eq (Node.onChain.fee held txid) (Node.onChain.fee held' txid) := by
  unfold OnChainSource.fee
  refine hlookup.bind ?_
  rintro (_ | feeOf) _ ⟨rfl, hgives⟩
  · exact mirrors_pure rfl
  · exact (h.feeOf (hgives feeOf rfl) txid).bind_eq fun fee => mirrors_pure rfl

/-- A call comes to the same if fees are looked up in one way. -/
theorem perform (hlookup : Mirrors p (Node.LooksUp possible) (Node.onChain.lookup held)
      (Node.onChain.lookup held')) (call : OnChainCall) :
    Mirrors p (Node.Replies possible) (Node.onChain.perform held call)
      (Node.onChain.perform held' call) := by
  cases call with
  | openChannels => exact h.openChannels.map fun _ _ hsame => ⟨by rw [hsame], by simp⟩
  | closedChannels => exact h.closedChannels.map fun _ _ hsame => ⟨by rw [hsame], by simp⟩
  | transactions => exact h.walletHistory.map fun _ _ hsame => ⟨by rw [hsame], by simp⟩
  | sweeps => exact h.sweeps.map fun _ _ hsame => ⟨by rw [hsame], by simp⟩
  | feeLookup =>
    refine h.feeLookup.map fun lookup lookup' hlooks => ⟨by rw [hlooks.1], ?_⟩
    rintro feeOf ⟨rfl⟩
    exact hlooks.2 feeOf rfl
  | fee txid => exact (h.fee hlookup txid).map fun _ _ hsame => ⟨by rw [hsame], by simp⟩

/-- Calls one after the other come to the same. -/
theorem replies (hheld : Node.MayHold possible held) (calls : List OnChainCall) :
    Mirrors p Eq (Node.onChain.replies held calls) (Node.onChain.replies held calls) := by
  induction calls generalizing held with
  | nil => exact mirrors_pure rfl
  | cons call rest ih =>
    refine (h.perform (h.lookup hheld) call).attempt.bind fun reply reply' hreply => ?_
    obtain rfl : reply = reply' := matches_eq_iff.mp (hreply.imp fun _ _ hsame => hsame.1)
    exact (ih (Node.mayHold_heldAfter hheld hreply)).bind_eq fun replies => mirrors_pure rfl

end Node.Mirrored

end NodeLedger
