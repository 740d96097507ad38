import NodeLedger.Proofs.Report.Block
import NodeLedger.Proofs.Session.Steady

/-!
# Reports of a node that does not change

A node that gives the same records whenever it is asked gives the same report, and each step of the
report ends the same way whenever it is done.

Main results:

- Structures `OnChainSource.SteadyIn` and `OffChainSource.SteadyIn`: the records do not change, and
  the forwards of a period are those of all forwards that fall into it.
- Theorem `ChannelHistory.steady_entries`: the block of a transaction is always the same.
- Theorem `ResolvedPayment.steady_circular`: so is the table of circular payments.
-/

namespace NodeLedger

open List NodeLedger.Action

variable {w : Situation}

/-! ## Steady sources -/

/-- The records on chain do not change, nor do the fees that can be looked up. -/
structure OnChainSource.SteadyIn (w : Situation) (source : OnChainSource) : Prop where
  transactions : Steady w source.transactions
  sweeps : Steady w source.sweeps
  openChannels : Steady w source.openChannels
  closedChannels : Steady w source.closedChannels
  feeLookup : Steady w source.feeLookup
  feeOf : ∀ feeOf, Always w source.feeLookup (some feeOf) → ∀ txid, Steady w (feeOf txid)

/-- The records off chain do not change, and the forwards of any period are those of one list that
fall into it. -/
structure OffChainSource.SteadyIn (w : Situation) (source : OffChainSource)
    (forwards : List Forward) : Prop where
  ownPubkey : Steady w source.ownPubkey
  invoices : Steady w source.invoices
  payments : Steady w source.payments
  decode : ∀ request, Steady w (source.decode request)
  forwards : ∀ period, Always w (source.forwards period)
    (forwards.filter fun forward => period.contains forward.timestamp)

/-- Fees that are looked up in what is known do not change. -/
theorem steady_of_always_map {α : Type} {known : Option α} {lookup : α → Value → Action Int}
    (hlookup : ∀ a txid, Steady w (lookup a txid)) {feeOf : Value → Action Int}
    (h : Always w (pure (known.map lookup)) (some feeOf)) (txid : Value) :
    Steady w (feeOf txid) := by
  intro s a t hs hends
  obtain ⟨_, hfeeOf, -⟩ := h s hs
  obtain ⟨hsome, -⟩ := ends_pure.mp hfeeOf
  obtain ⟨fees, -, rfl⟩ := Option.map_eq_some_iff.mp hsome.symm
  exact hlookup fees txid s a t hs hends

/-- In a context the fees that can be looked up do not change. -/
def EntryContext.SteadyIn (w : Situation) (context : EntryContext) : Prop :=
  ∀ feeOf, context.feeOf = some feeOf → ∀ txid, Steady w (feeOf txid)

/-! ## Entries -/

namespace Draft

/-- A draft is always valued in the same way. -/
theorem steady_value (context : EntryContext) (draft : Draft) :
    Steady w (draft.value context) := by
  unfold value
  refine (always_noteValued draft.timestamp).steady.bind fun _ _ => ?_
  exact (steady_lift _).bind fun price _ => steady_lift _

theorem steady_valueAll (context : EntryContext) (drafts : Except Failure (List Draft)) :
    Steady w (valueAll context drafts) := by
  unfold valueAll
  exact (steady_lift drafts).bind fun made _ => Steady.mapM (steady_value context) made

end Draft

/-- The fee of a closing is always the same if the look-up of fees is steady. -/
theorem ClosedChannel.steady_closingFee {context : EntryContext} (hcontext : context.SteadyIn w)
    (channel : ClosedChannel) : Steady w (channel.closingFee context) := by
  unfold closingFee
  cases channel.openInitiator with
  | us =>
    cases hfeeOf : context.feeOf with
    | none => exact (steady_log _ _).bind fun _ _ => steady_pure _
    | some feeOf => exact (hcontext feeOf hfeeOf _).bind fun _ _ => steady_pure _
  | peer => exact steady_pure _
  | unknown => exact (steady_log _ _).bind fun _ _ => steady_pure _
  | both => exact (steady_log _ _).bind fun _ _ => steady_pure _

theorem ClosedChannel.steady_closingEntries {context : EntryContext}
    (hcontext : context.SteadyIn w) (channel : ClosedChannel) (tx : Transaction) :
    Steady w (channel.closingEntries context tx) := by
  unfold closingEntries
  refine (steady_lift _).bind fun category _ => ?_
  refine (Draft.steady_value context _).bind fun closing _ => ?_
  refine (steady_closingFee hcontext channel).bind fun fee _ => ?_
  cases fee with
  | none => exact steady_pure _
  | some fee => exact (Draft.steady_value context _).bind fun _ _ => steady_pure _

/-- So are the entries of a transaction, whatever it does. -/
theorem TransactionRole.steady_entries {context : EntryContext} (hcontext : context.SteadyIn w)
    (tx : Transaction) (role : TransactionRole) : Steady w (role.entries context tx) := by
  cases role with
  | opens channel => exact Draft.steady_valueAll context _
  | opened channel => exact Draft.steady_valueAll context _
  | closes channel => exact channel.steady_closingEntries hcontext tx
  | sweeps => exact Draft.steady_valueAll context _
  | transfers => exact Draft.steady_valueAll context _

/-- The block of a transaction is always the same. -/
theorem ChannelHistory.steady_entries {context : EntryContext} (hcontext : context.SteadyIn w)
    (history : ChannelHistory) (tx : Transaction) : Steady w (history.entries context tx) := by
  unfold entries
  exact (steady_lift _).bind fun role _ => role.steady_entries hcontext tx

/-! ## On chain -/

namespace OnChainSource

variable {source : OnChainSource}

/-- Channels that do not change make a history that does not. -/
theorem SteadyIn.history (h : source.SteadyIn w) (sweeps : List Key) :
    Steady w (source.history sweeps) := by
  unfold OnChainSource.history
  refine h.openChannels.bind fun opens _ => ?_
  refine (Steady.foldlM (fun _ _ => steady_lift _) opens _).bind fun current _ => ?_
  exact h.closedChannels.bind fun closeds _ => Steady.foldlM (fun _ _ => steady_lift _) closeds _

/-- The way in which fees are looked up does not change either. -/
theorem SteadyIn.withFees (h : source.SteadyIn w) (context : EntryContext) :
    Steady w (source.withFees context) := by
  unfold OnChainSource.withFees
  cases context.feeOf with
  | none => exact h.feeLookup.bind fun _ _ => steady_pure _
  | some feeOf => exact steady_pure _

/-- The fees that are looked up for a report do not change. -/
theorem SteadyIn.steadyIn_of_withFees (h : source.SteadyIn w) {context fees : EntryContext}
    (hcontext : context.SteadyIn w) {s t : Session} (hs : w.holds s)
    (hfees : Ends (source.withFees context) s fees t) : fees.SteadyIn w := by
  intro feeOf hfeeOf
  rcases feeOf_of_withFees hfees hfeeOf with hgiven | hlooked
  · exact hcontext feeOf hgiven
  · exact h.feeOf feeOf (h.feeLookup s _ _ hs hlooked)

end OnChainSource

/-! ## Off chain -/

namespace ResolvedPayment

/-- The destination of a payment is always the same if decoding is steady. -/
theorem steady_resolve {decode : Value → Action PaymentRequest}
    (h : ∀ request, Steady w (decode request)) (payment : Payment) :
    Steady w (resolve decode payment) := by
  unfold resolve requestDetails
  refine Steady.bind ?_ fun _ _ => steady_pure _
  split
  · exact (h _).map _
  · exact steady_pure _

theorem steady_addDirection (own : Value) (directions : Table Key Direction)
    (resolved : ResolvedPayment) : Steady w (addDirection own directions resolved) := by
  unfold addDirection
  cases resolved.destination.kept with
  | none => exact (steady_log _ _).bind fun _ _ => steady_pure _
  | some destination =>
    refine (steady_lift _).bind fun key _ => ?_
    cases Table.get? directions key with
    | none => exact steady_pure _
    | some before =>
      dsimp only
      split
      · exact steady_pure _
      · exact steady_throw _

/-- The table of circular payments is always the same. -/
theorem steady_circular (own : Value) (payments : List ResolvedPayment) :
    Steady w (circular own payments) := by
  unfold circular
  exact (Steady.foldlM (steady_addDirection own) payments []).bind fun _ _ => steady_pure _

end ResolvedPayment

end NodeLedger
