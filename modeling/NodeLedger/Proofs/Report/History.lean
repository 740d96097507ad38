import NodeLedger.Proofs.Session.Outcome
import NodeLedger.Report.OnChain

/-!
# The channels of a node by their transactions

A report puts every channel that the node lists under the transaction that funded it, and a closed
channel also under the one that closed it.  What is found under a transaction is exactly what was
put there, in the order listed.

Main results:

- Theorem `TxidIndex.lookup_eq`: a transaction that belongs to several channels is refused.
- Theorems `ChannelHistory.foldlM_addOpen` and `ChannelHistory.foldlM_addClosed`: what is found
  after channels have been added one by one.
- Theorem `OnChainSource.ends_history`: what is found in the channels of a node.
-/

namespace NodeLedger

open List NodeLedger.Action

/-! ## One index -/

namespace TxidIndex

variable {α : Type}

/-- What is looked up is what is found, if that is one channel or none. -/
theorem lookup_eq (index : TxidIndex α) {txid : Value} {key : Key} (hkey : txid.key = .ok key) :
    index.lookup txid =
      match index.channels key with
      | [] => .ok none
      | [channel] => .ok (some channel)
      | _ => .error (.data (.batchedTransaction txid.display)) := by
  have hlookup : index.lookup txid =
      match index.channels key with
      | [] => pure none
      | [channel] => pure (some channel)
      | _ => throw (.data (.batchedTransaction txid.display)) := by
    unfold lookup
    rw [hkey]
    rfl
  rw [hlookup]
  rcases index.channels key with _ | ⟨channel, _ | ⟨other, rest⟩⟩ <;> rfl

/-- One of several channels that are added one behind the other is found if it has the key. -/
theorem channels_put_append (index : TxidIndex α) {given key : Key} {channel : α} {rest : List α}
    {hasKey : α → Bool} (hgiven : hasKey channel = (given == key)) :
    (index.put given channel).channels key ++ rest.filter hasKey =
      index.channels key ++ (channel :: rest).filter hasKey := by
  rw [channels_put, List.append_assoc, List.filter_cons, hgiven]
  split <;> rfl

end TxidIndex

/-! ## Keys of channels -/

/-- The key of the transaction that funds an open channel. -/
def OpenChannel.fundingKey (channel : OpenChannel) : Except Failure Key :=
  return .text (← channel.fundingTxid)

/-- The key of the transaction that funded a closed channel. -/
def ClosedChannel.fundingKey (channel : ClosedChannel) : Except Failure Key :=
  return .text (← channel.fundingTxid)

/-- Whether a transaction funds an open channel. -/
def OpenChannel.isFundedBy (key : Key) (channel : OpenChannel) : Bool :=
  channel.fundingKey.toOption == some key

/-- Whether a transaction funded a closed channel. -/
def ClosedChannel.isFundedBy (key : Key) (channel : ClosedChannel) : Bool :=
  channel.fundingKey.toOption == some key

/-- Whether a transaction closed a channel. -/
def ClosedChannel.isClosedBy (key : Key) (channel : ClosedChannel) : Bool :=
  channel.closingTxid.key.toOption == some key

/-! ## Adding channels -/

namespace ChannelHistory

variable {history after : ChannelHistory}

/-- An open channel is put under the transaction that funds it. -/
theorem addOpen_eq_ok {channel : OpenChannel} (h : history.addOpen channel = .ok after) :
    ∃ given, channel.fundingKey = .ok given ∧
      after = { history with current := history.current.put given channel } := by
  unfold addOpen at h
  obtain ⟨txid, htxid, h⟩ := bind_eq_ok_iff.mp h
  cases h
  exact ⟨.text txid, bind_eq_ok_iff.mpr ⟨txid, htxid, rfl⟩, rfl⟩

/-- A closed channel is put under the transaction that funded it and under the one that closed
it. -/
theorem addClosed_eq_ok {channel : ClosedChannel} (h : history.addClosed channel = .ok after) :
    ∃ opening closing, channel.fundingKey = .ok opening ∧ channel.closingTxid.key = .ok closing ∧
      after = { history with
        opened := history.opened.put opening channel
        closed := history.closed.put closing channel } := by
  unfold addClosed at h
  obtain ⟨txid, htxid, h⟩ := bind_eq_ok_iff.mp h
  obtain ⟨opened, hopened, h⟩ := bind_eq_ok_iff.mp h
  obtain ⟨closed, hclosed, h⟩ := bind_eq_ok_iff.mp h
  obtain ⟨closing, hclosing, hput⟩ := bind_eq_ok_iff.mp hclosed
  cases hopened
  cases hput
  cases h
  exact ⟨.text txid, closing, bind_eq_ok_iff.mpr ⟨txid, htxid, rfl⟩, hclosing, rfl⟩

/-- Open channels that are added one by one are found behind those that are there already. -/
theorem foldlM_addOpen {opens : List OpenChannel}
    (h : opens.foldlM (fun h channel => h.addOpen channel) history = .ok after) :
    after.sweeps = history.sweeps ∧ after.opened = history.opened ∧
      after.closed = history.closed ∧
      ∀ key, after.current.channels key =
        history.current.channels key ++ opens.filter (·.isFundedBy key) := by
  induction opens generalizing history with
  | nil =>
    cases h
    exact ⟨rfl, rfl, rfl, fun key => (List.append_nil _).symm⟩
  | cons channel rest ih =>
    rw [List.foldlM_cons] at h
    obtain ⟨next, hnext, h⟩ := bind_eq_ok_iff.mp h
    obtain ⟨given, hgiven, rfl⟩ := addOpen_eq_ok hnext
    obtain ⟨hsweeps, hopened, hclosed, hcurrent⟩ := ih h
    refine ⟨hsweeps, hopened, hclosed, ?_⟩
    intro key
    have hfunded : channel.isFundedBy key = (given == key) := by
      unfold OpenChannel.isFundedBy
      rw [hgiven]
      rfl
    rw [hcurrent key]
    exact TxidIndex.channels_put_append history.current hfunded

/-- Closed channels that are added one by one are found behind those that are there already. -/
theorem foldlM_addClosed {closeds : List ClosedChannel}
    (h : closeds.foldlM (fun h channel => h.addClosed channel) history = .ok after) :
    after.sweeps = history.sweeps ∧ after.current = history.current ∧
      ∀ key, after.opened.channels key =
          history.opened.channels key ++ closeds.filter (·.isFundedBy key) ∧
        after.closed.channels key =
          history.closed.channels key ++ closeds.filter (·.isClosedBy key) := by
  induction closeds generalizing history with
  | nil =>
    cases h
    exact ⟨rfl, rfl, fun key => ⟨(List.append_nil _).symm, (List.append_nil _).symm⟩⟩
  | cons channel rest ih =>
    rw [List.foldlM_cons] at h
    obtain ⟨next, hnext, h⟩ := bind_eq_ok_iff.mp h
    obtain ⟨opening, closing, hopening, hclosing, rfl⟩ := addClosed_eq_ok hnext
    obtain ⟨hsweeps, hcurrent, hchannels⟩ := ih h
    refine ⟨hsweeps, hcurrent, ?_⟩
    intro key
    have hfunded : channel.isFundedBy key = (opening == key) := by
      unfold ClosedChannel.isFundedBy
      rw [hopening]
      rfl
    have hends : channel.isClosedBy key = (closing == key) := by
      unfold ClosedChannel.isClosedBy
      rw [hclosing]
      rfl
    rw [(hchannels key).1, (hchannels key).2]
    exact ⟨TxidIndex.channels_put_append history.opened hfunded,
      TxidIndex.channels_put_append history.closed hends⟩

end ChannelHistory

namespace OnChainSource

/-- The channels of a node: under a transaction there are the channels that it funds, and those that
it closed. -/
theorem ends_history {source : OnChainSource} {sweeps : List Key} {s t : Session}
    {history : ChannelHistory} (h : Ends (source.history sweeps) s history t) :
    ∃ opens s₁ closeds, Ends source.openChannels s opens s₁ ∧
      Ends source.closedChannels s₁ closeds t ∧ history.sweeps = sweeps ∧
      ∀ key, history.current.channels key = opens.filter (·.isFundedBy key) ∧
        history.opened.channels key = closeds.filter (·.isFundedBy key) ∧
        history.closed.channels key = closeds.filter (·.isClosedBy key) := by
  unfold OnChainSource.history at h
  simp only [ends_bind, ends_foldlM_lift] at h
  obtain ⟨opens, s₁, hopens, current, _, ⟨hcurrent, rfl⟩, closeds, _, hcloseds, hclosed, rfl⟩ := h
  obtain ⟨hsweeps, hnoneOpened, hnoneClosed, hfunded⟩ := ChannelHistory.foldlM_addOpen hcurrent
  obtain ⟨hsweeps', hsame, hchannels⟩ := ChannelHistory.foldlM_addClosed hclosed
  refine ⟨opens, _, closeds, hopens, hcloseds, hsweeps'.trans hsweeps, ?_⟩
  intro key
  obtain ⟨hopened, hends⟩ := hchannels key
  rw [hsame, hopened, hends, hfunded key, hnoneOpened, hnoneClosed]
  exact ⟨rfl, rfl, rfl⟩

end OnChainSource

end NodeLedger
