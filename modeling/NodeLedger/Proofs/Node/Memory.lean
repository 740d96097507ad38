import NodeLedger.Node.Source
import NodeLedger.Proofs.Node.Inward
import NodeLedger.Proofs.Report.Steady

/-!
# What is remembered of a node

What has been fetched from the node is remembered, and is what the node would answer again.  So it
does not matter which of the records are asked for first, and whether they are fetched or recalled.

Main results:

- Structure `NodeCache.Agrees`: what is remembered is what the node answers.
- Definition `Action.Reads`: an action comes to what can be read of the node's answers.
- Theorems `Bookkeeper.reads_available`, `Channel.reads_closings`, `Channel.reads_closed` and those
  beside them: what each step reads.
- Theorem `Bookkeeper.reads_of_answers`: what is done once it is known whether the bookkeeper
  answers.
- Theorem `Node.steadyIn_onChain`: the records of a node on chain do not change while its answers do
  not.
-/

namespace NodeLedger

open NodeLedger.Action

variable {α β : Type} {w : Situation}

/-! ## Actions that read -/

namespace Action

/-- In a situation an action ends with what a reading gives, and does not end if that fails. -/
structure Reads (w : Situation) (act : Action α) (reading : Except Failure α) : Prop where
  always : ∀ a, reading = .ok a → Always w act a
  eq_ok : ∀ s a t, w.holds s → Ends act s a t → reading = .ok a

/-- An action that reads is steady. -/
theorem Reads.steady {act : Action α} {reading : Except Failure α} (h : Reads w act reading) :
    Steady w act := by
  intro s a t hs hends
  exact h.always a (h.eq_ok s a t hs hends)

/-- A check gives what it gives outside of a session. -/
theorem reads_lift (r : Except Failure α) : Reads w (liftM r : Action α) r where
  always _ h := always_lift h
  eq_ok _ _ _ _ h := (ends_lift.mp h).1

/-- Two readings one after the other. -/
theorem Reads.bind {act : Action α} {next : α → Action β} {reading : Except Failure α}
    {nextReading : α → Except Failure β} (hact : Reads w act reading)
    (hnext : ∀ a, reading = .ok a → Reads w (next a) (nextReading a)) :
    Reads w (act >>= next) (reading >>= nextReading) where
  always b h := by
    obtain ⟨a, ha, hb⟩ := bind_eq_ok_iff.mp h
    exact (hact.always a ha).bind ((hnext a ha).always b hb)
  eq_ok s b t hs h := by
    obtain ⟨a, s₁, ha, hb⟩ := ends_bind.mp h
    have hreading := hact.eq_ok s a s₁ hs ha
    have hs₁ := hact.steady.holds hs ha
    exact bind_eq_ok_iff.mpr ⟨a, hreading, (hnext a hreading).eq_ok s₁ b t hs₁ hb⟩

/-- What comes to the same in every session reads the same. -/
theorem Reads.congr {act act' : Action α} {reading : Except Failure α} (h : Reads w act reading)
    (hsame : ∀ s, act'.outcome s = act.outcome s) : Reads w act' reading where
  always a ha s hs := by
    obtain ⟨t, hends, ht⟩ := h.always a ha s hs
    exact ⟨t, (hsame s).trans hends, ht⟩
  eq_ok s a t hs hends := h.eq_ok s a t hs ((hsame s).symm.trans hends)

/-- What is recalled if it is remembered and fetched if it is not, read alike. -/
theorem reads_recalled (known : NodeCache → Option α) {act fetch : Action α}
    {reading : Except Failure α}
    (hsome : ∀ s a, known s.cache = some a → act.outcome s = (.ok a, s))
    (hnone : ∀ s, known s.cache = none → act.outcome s = fetch.outcome s)
    (hknown : ∀ s, w.holds s → ∀ a, known s.cache = some a → reading = .ok a)
    (hfetch : Reads w fetch reading) : Reads w act reading where
  always a h := by
    intro s hs
    cases hcache : known s.cache with
    | some b =>
      obtain rfl : a = b := Except.ok.inj (h.symm.trans (hknown s hs b hcache))
      exact ⟨s, hsome s a hcache, hs⟩
    | none =>
      obtain ⟨t, hends, ht⟩ := hfetch.always a h s hs
      exact ⟨t, (hnone s hcache).trans hends, ht⟩
  eq_ok s a t hs h := by
    cases hcache : known s.cache with
    | some b =>
      obtain ⟨rfl, -⟩ := Ends.unique h (hsome s b hcache)
      exact hknown s hs a hcache
    | none => exact hfetch.eq_ok s a t hs ((hnone s hcache).symm.trans h)

end Action

/-! ## What the node answers -/

/-- What the node answers to a call, or the failure of the call. -/
def Rpc.given (node : String → Value → Except Value Value) (method : String) (payload : Value) :
    Except Failure Value :=
  match node method payload with
  | .ok result => .ok result
  | .error error => .error (.rpc ⟨method, payload, error⟩)

/-- What a node gives is what it answers. -/
theorem Rpc.node_of_given {node : String → Value → Except Value Value} {method : String}
    {payload result : Value} (h : given node method payload = .ok result) :
    node method payload = .ok result := by
  unfold given at h
  split at h
  · next hnode =>
    cases h
    exact hnode
  · cases h

variable (node : String → Value → Except Value Value)

namespace Bookkeeper

/-- The events that the node lists, which have to have a number. -/
def listed : Except Failure Value := do
  let events ← (← Rpc.given node "bkpr-listaccountevents" (.object [])).fieldD "events" (.list [])
  let _ ← events.size
  return events

/-- The events that the node lists, one by one. -/
def listedEvents : Except Failure (List Value) := do
  (← listed node).parts

/-- Whether the bookkeeper answers.  If it does, it has to give events. -/
def answers : Except Failure Bool :=
  match node "bkpr-listaccountevents" (.object []) with
  | .error _ => .ok false
  | .ok _ => do
    let _ ← listed node
    return true

end Bookkeeper

/-- The time of a block as the node gives it. -/
def Block.listed (height : Int) : Except Failure Int := do
  let result ← Rpc.given node "getrawblockbyheight" (.object [("height", .int height)])
  readBlock height (← result.field "block")

namespace Wallet

/-- The transactions that the node lists. -/
def listed : Except Failure (Table Key WalletTransaction) := do
  readTransactions (← Rpc.given node "listtransactions" (.object []))

/-- The outputs of the wallet that the node lists. -/
def listedOutputs : Except Failure (Table String Int) := do
  readOutputs (← Rpc.given node "listfunds" (.object [("spent", .bool true)]))

end Wallet

namespace Channel

/-- The open channels as the node lists them. -/
def listedOpen : Except Failure (List Value) := do
  Wallet.itemsOf (← Rpc.given node "listpeerchannels" (.object [])) "channels"

/-- What the node gives as its closed channels. -/
def givenClosed : Except Failure Value := do
  (← Rpc.given node "listclosedchannels" (.object [])).fieldD "closedchannels" (.list [])

/-- The closed channels as the node lists them. -/
def listedClosed : Except Failure (List Value) := do
  (← givenClosed node).parts

/-- The transactions that spend the outpoints of channels: those that the bookkeeper recorded as
closings if it answers, or else all that the wallet lists. -/
def listedClosings : Except Failure (Table Key Value) := do
  if ← Bookkeeper.answers node then
    Bookkeeper.closings (← Bookkeeper.listedEvents node)
  else walletClosings ((← Wallet.listed node).map (·.2))

end Channel

/-- The transactions that sweep outputs of closed channels, as they follow from what the node
lists. -/
def History.listedSweeps : Except Failure (Table Key WalletTransaction) := do
  let closings ← Channel.listedClosings node
  let outputs ← Wallet.listedOutputs node
  let closes ← closesOf closings (← Channel.listedClosed node)
  sweepsAmong closes outputs (← Wallet.listed node)

/-- What is remembered is what the node answers. -/
structure NodeCache.Agrees (cache : NodeCache) : Prop where
  events : ∀ events, cache.events = some events → Bookkeeper.listed node = .ok events
  bookkeeper : ∀ answer, cache.bookkeeper = some answer → Bookkeeper.answers node = .ok answer
  transactions : ∀ txs, cache.transactions = some txs → Wallet.listed node = .ok txs
  outputs : ∀ outputs, cache.outputs = some outputs → Wallet.listedOutputs node = .ok outputs
  closedChannels : ∀ channels, cache.closedChannels = some channels →
    Channel.givenClosed node = .ok channels
  blockTimes : ∀ height time, cache.blockTimes.lookup height = some time →
    Block.listed node height = .ok time

variable {node}

/-- Nothing is remembered at first. -/
theorem NodeCache.agrees_empty : NodeCache.Agrees node {} := by
  constructor <;> simp

/-- The situation of all sessions at a time with a node, in which what is remembered is what the
node answers. -/
def Situation.ofNode (node : String → Value → Except Value Value) (now : Int) : Situation where
  holds session := session.now = now ∧ session.node = node ∧ session.cache.Agrees node
  now := now
  now_eq _ h := h.1
  holds_write _ _ h := h
  holds_noteValued _ _ h := h

variable {now : Int}

/-- What is put into memory has to be what the node answers. -/
theorem always_update {change : NodeCache → NodeCache}
    (h : ∀ cache : NodeCache, cache.Agrees node → (change cache).Agrees node) :
    Always (.ofNode node now) (NodeCache.update change) () := by
  rintro s ⟨hnow, hnode, hcache⟩
  exact ⟨_, ends_modify.mpr rfl, hnow, hnode, h s.cache hcache⟩

/-- What is read and then remembered. -/
theorem Action.Reads.remember {act : Action α} {reading : Except Failure α}
    {change : α → NodeCache → NodeCache} (hact : Reads (.ofNode node now) act reading)
    (h : ∀ a, reading = .ok a →
      ∀ cache : NodeCache, cache.Agrees node → (change a cache).Agrees node) :
    Reads (.ofNode node now) (do
      let a ← act
      NodeCache.update (change a)
      return a) reading where
  always a ha := (hact.always a ha).bind ((always_update (h a ha)).bind (always_pure a))
  eq_ok s a t hs hends := by
    simp only [ends_bind, ends_pure] at hends
    obtain ⟨a', s₁, ha', _, _, -, rfl, -⟩ := hends
    exact hact.eq_ok s a s₁ hs ha'

namespace Rpc

/-- What a call comes to, and that only the call is noted. -/
theorem outcome_call (method : String) (payload : Value) (s : Session) :
    (call method payload).outcome s =
      (given s.node method payload, { s with calls := s.calls ++ [⟨method, payload⟩] }) := by
  unfold call note given
  rw [outcome_bind, outcome_modify]
  dsimp only
  rw [outcome_answer]
  cases s.node method payload <;> rfl

/-- A call reads what the node answers. -/
theorem reads_call (method : String) (payload : Value) :
    Reads (.ofNode node now) (call method payload) (given node method payload) where
  always a h := by
    rintro s ⟨hnow, hnode, hcache⟩
    refine ⟨{ s with calls := s.calls ++ [⟨method, payload⟩] }, ?_, hnow, hnode, hcache⟩
    unfold Ends
    rw [outcome_call, hnode, h]
  eq_ok s a t hs h := by
    unfold Ends at h
    rw [outcome_call, hs.2.1] at h
    exact congrArg Prod.fst h

end Rpc

/-! ## The bookkeeper -/

/-- A value that is kept to be remembered is the one that was given. -/
theorem Value.eq_of_kept {v kept : Value} (h : v.kept = some kept) : kept = v := by
  cases v <;> cases h <;> rfl

namespace Bookkeeper

/-- Events that the node lists are remembered. -/
theorem agrees_of_listed {events : Value} (h : listed node = .ok events) (cache : NodeCache)
    (hcache : cache.Agrees node) : NodeCache.Agrees node { cache with events := events.kept } where
  __ := hcache
  events kept hkept := by
    rw [Value.eq_of_kept hkept]
    exact h

/-- Events that have no number are fetched in vain. -/
theorem reads_fetch : Reads (.ofNode node now) fetch (listed node) where
  always events h := by
    obtain ⟨result, hresult, hrest⟩ := bind_eq_ok_iff.mp h
    obtain ⟨given, hgiven, hrest⟩ := bind_eq_ok_iff.mp hrest
    obtain ⟨count, hcount, hreturn⟩ := bind_eq_ok_iff.mp hrest
    cases hreturn
    refine ((Rpc.reads_call _ _).always result hresult).bind ?_
    refine (always_lift hgiven).bind ?_
    refine (always_update (agrees_of_listed h)).bind ?_
    refine (always_lift hcount).bind ?_
    exact (always_log _ _).bind (always_pure events)
  eq_ok s events t hs h := by
    unfold fetch at h
    simp only [ends_bind, ends_lift, ends_log, ends_pure] at h
    obtain ⟨result, s₁, hask, given, _, ⟨hgiven, rfl⟩, _, s₂, -, count, _, ⟨hcount, rfl⟩, _, _, rfl,
      rfl, rfl⟩ := h
    have hresult := (Rpc.reads_call _ _).eq_ok s result _ hs hask
    exact bind_eq_ok_iff.mpr ⟨result, hresult, bind_eq_ok_iff.mpr ⟨_, hgiven,
      bind_eq_ok_iff.mpr ⟨count, hcount, rfl⟩⟩⟩

/-- Events that are remembered are recalled. -/
theorem outcome_given_of_some (s : Session) (events : Value) (h : s.cache.events = some events) :
    given.outcome s = (.ok events, s) := by
  simp [given, NodeCache.current, outcome_bind, h]

/-- Events that are not remembered are fetched. -/
theorem outcome_given_of_none (s : Session) (h : s.cache.events = none) :
    given.outcome s = fetch.outcome s := by
  simp [given, NodeCache.current, outcome_bind, h]

/-- Remembered or fetched, they are the events that the node lists. -/
theorem reads_given : Reads (.ofNode node now) given (listed node) :=
  reads_recalled NodeCache.events outcome_given_of_some outcome_given_of_none
    (fun _ hs => hs.2.2.events) reads_fetch

/-- The same holds for the events one by one. -/
theorem reads_events : Reads (.ofNode node now) events (listedEvents node) :=
  reads_given.bind fun events _ => reads_lift events.parts

/-- If the bookkeeper does not answer no events are remembered. -/
theorem events_eq_none_of_error {cache : NodeCache} {error : Value} (hcache : cache.Agrees node)
    (herror : node "bkpr-listaccountevents" (.object []) = .error error) : cache.events = none := by
  cases hevents : cache.events with
  | none => rfl
  | some events =>
    have hlisted := hcache.events events hevents
    unfold listed Rpc.given at hlisted
    rw [herror] at hlisted
    cases hlisted

/-- It is asked for them once more. -/
theorem outcome_given_of_error {s : Session} {error : Value} (hcache : s.cache.Agrees s.node)
    (herror : s.node "bkpr-listaccountevents" (.object []) = .error error) :
    given.outcome s =
      (.error (.rpc ⟨"bkpr-listaccountevents", .object [], error⟩),
        { s with calls := s.calls ++ [⟨"bkpr-listaccountevents", .object []⟩] }) := by
  have hnone := events_eq_none_of_error hcache herror
  rw [outcome_given_of_none s hnone]
  unfold fetch Rpc.ask
  rw [outcome_bind, Rpc.outcome_call, Rpc.given, herror]

/-- If it answers, whatever goes wrong is not that the call was refused. -/
theorem outcome_given_ne_rpc {s : Session} {result : Value}
    (hresult : s.node "bkpr-listaccountevents" (.object []) = .ok result) (fault : RpcFault) :
    (given.outcome s).1 ≠ .error (.rpc fault) := by
  have hfetch : (fetch.outcome s).1 ≠ .error (.rpc fault) := by
    unfold fetch Rpc.ask
    rw [outcome_bind, Rpc.outcome_call, Rpc.given, hresult]
    dsimp only
    rw [outcome_bind, outcome_lift]
    cases result with
    | object fields =>
      cases hevents : (Value.object fields).fieldD "events" (.list []) with
      | error failure => cases hevents
      | ok events =>
        simp only [NodeCache.update, outcome_bind, outcome_modify, outcome_lift]
        cases events <;> simp [Value.size, Action.log]
    | _ => simp [Value.fieldD, Value.field?, bind, Except.bind]
  cases hcache : s.cache.events with
  | some events =>
    rw [outcome_given_of_some s events hcache]
    simp
  | none =>
    rw [outcome_given_of_none s hcache]
    exact hfetch

/-- Whether the bookkeeper answers is read off the node. -/
theorem reads_probe : Reads (.ofNode node now) probe (answers node) where
  always answer h := by
    rintro s ⟨hnow, rfl, hcache⟩
    unfold answers at h
    cases hnode : s.node "bkpr-listaccountevents" (.object []) with
    | error error =>
      rw [hnode] at h
      cases h
      have hprobe : (probe.outcome s).1 = .ok false ∧
          (Situation.ofNode s.node now).holds (probe.outcome s).2 := by
        unfold probe
        rw [outcome_bind, outcome_attempt, outcome_given_of_error hcache hnode]
        exact ⟨rfl, hnow, rfl, hcache⟩
      exact ⟨_, ends_of_outcome hprobe.1, hprobe.2⟩
    | ok result =>
      rw [hnode] at h
      obtain ⟨events, hevents, hreturn⟩ := bind_eq_ok_iff.mp h
      cases hreturn
      obtain ⟨t, hends, ht⟩ := reads_given.always events hevents s ⟨hnow, rfl, hcache⟩
      exact ⟨t, ends_bind.mpr ⟨.ok events, t, ends_attempt.mpr hends, ends_pure.mpr ⟨rfl, rfl⟩⟩, ht⟩
  eq_ok s answer t hs h := by
    obtain ⟨hnow, rfl, hcache⟩ := hs
    unfold probe at h
    obtain ⟨attempted, u, hgiven, h⟩ := ends_bind.mp h
    rw [ends_attempt] at hgiven
    unfold answers
    cases hnode : s.node "bkpr-listaccountevents" (.object []) with
    | error error =>
      rw [outcome_given_of_error hcache hnode] at hgiven
      cases hgiven
      simp only [ends_bind, ends_pure] at h
      obtain ⟨_, _, -, rfl, -⟩ := h
      rfl
    | ok result =>
      cases attempted with
      | ok events =>
        obtain ⟨rfl, -⟩ := ends_pure.mp h
        have hevents := reads_given.eq_ok s events u ⟨hnow, rfl, hcache⟩ hgiven
        exact bind_eq_ok_iff.mpr ⟨events, hevents, rfl⟩
      | error failure =>
        have hne := outcome_given_ne_rpc hnode
        rw [hgiven] at hne
        cases failure with
        | rpc fault => exact absurd rfl (hne fault)
        | _ => exact absurd h not_ends_throw

/-- What the bookkeeper's answer was is remembered. -/
theorem agrees_of_answers {answer : Bool} (h : answers node = .ok answer) (cache : NodeCache)
    (hcache : cache.Agrees node) :
    NodeCache.Agrees node { cache with bookkeeper := some answer } where
  __ := hcache
  bookkeeper kept hkept := by
    cases hkept
    exact h

/-- Whether the bookkeeper answers depends on the node alone. -/
theorem reads_available : Reads (.ofNode node now) available (answers node) := by
  refine reads_recalled NodeCache.bookkeeper ?_ ?_ (fun _ hs => hs.2.2.bookkeeper)
    (reads_probe.remember fun _ => agrees_of_answers)
  · intro s answer h
    simp [available, NodeCache.current, outcome_bind, h]
  · intro s h
    simp [available, NodeCache.current, outcome_bind, h]

/-- What is done once it is known whether the bookkeeper answers, reads what it reads. -/
theorem reads_of_answers {answer : Bool} {next : Bool → Action α} {reading : Except Failure α}
    (h : answers node = .ok answer) (hnext : Reads (.ofNode node now) (next answer) reading) :
    Reads (.ofNode node now) (available >>= next) reading := by
  have hreads : Reads (.ofNode node now) (available >>= next)
      (answers node >>= fun _ => reading) := by
    refine reads_available.bind fun given hgiven => ?_
    obtain rfl : answer = given := Except.ok.inj (h.symm.trans hgiven)
    exact hnext
  rw [h] at hreads
  exact hreads

/-- What is done once it is known whether the bookkeeper answers, ends as it does then. -/
theorem ends_of_answers {answer : Bool} {next : Bool → Action α} {s t : Session} {a : α}
    (h : answers node = .ok answer) (hs : (Situation.ofNode node now).holds s)
    (hends : Ends (available >>= next) s a t) :
    ∃ u, (Situation.ofNode node now).holds u ∧ Ends (next answer) u a t := by
  obtain ⟨given, u, havailable, hnext⟩ := ends_bind.mp hends
  have hgiven := reads_available.eq_ok s given u hs havailable
  obtain rfl : answer = given := Except.ok.inj (h.symm.trans hgiven)
  exact ⟨u, reads_available.steady.holds hs havailable, hnext⟩

/-- A bookkeeper that refuses the call does not answer. -/
theorem answers_of_error {error : Value}
    (h : node "bkpr-listaccountevents" (.object []) = .error error) :
    answers node = .ok false := by
  unfold answers
  rw [h]

end Bookkeeper

/-! ## Blocks -/

namespace Block

/-- The time of a block that the node gives is remembered. -/
theorem agrees_of_listed {height time : Int} (h : listed node height = .ok time)
    (cache : NodeCache) (hcache : cache.Agrees node) :
    NodeCache.Agrees node
      { cache with blockTimes := cache.blockTimes ++ [(height, time)] } where
  __ := hcache
  blockTimes other found hfound := by
    rw [List.lookup_append, Option.or_eq_some_iff] at hfound
    rcases hfound with hfound | ⟨-, hnew⟩
    · exact hcache.blockTimes other found hfound
    · by_cases hsame : other = height
      · simp only [hsame, List.lookup_cons_self, Option.some.injEq] at hnew
        rw [hsame, h, hnew]
      · simp [List.lookup_cons, beq_eq_false_iff_ne.mpr hsame] at hnew

/-- The time of a block that is fetched is the one that the node lists. -/
theorem reads_fetchTime (height : Int) :
    Reads (.ofNode node now) (fetchTime height) (listed node height) := by
  refine (Rpc.reads_call _ _).bind fun result hresult => ?_
  refine (reads_lift _).bind fun block hblock => ?_
  refine (reads_lift (readBlock height block)).remember fun time htime => agrees_of_listed ?_
  exact bind_eq_ok_iff.mpr ⟨result, hresult, bind_eq_ok_iff.mpr ⟨block, hblock, htime⟩⟩

/-- A time that is remembered is told without a call. -/
theorem outcome_time_of_some {height found : Int} {s : Session}
    (h : s.cache.blockTimes.lookup height = some found) :
    (time height).outcome s = (.ok found, s) := by
  simp [time, NodeCache.current, outcome_bind, h]

/-- A time that is not remembered is fetched. -/
theorem outcome_time_of_none {height : Int} {s : Session}
    (h : s.cache.blockTimes.lookup height = none) :
    (time height).outcome s = (fetchTime height).outcome s := by
  simp [time, NodeCache.current, outcome_bind, h]

/-- Remembered or fetched, it is the one that the node lists. -/
theorem reads_time (height : Int) :
    Reads (.ofNode node now) (time height) (listed node height) :=
  reads_recalled (fun cache => cache.blockTimes.lookup height)
    (fun _ _ => outcome_time_of_some) (fun _ => outcome_time_of_none)
    (fun _ hs => hs.2.2.blockTimes height) (reads_fetchTime height)

end Block

/-! ## The wallet -/

namespace Wallet

/-- The transactions that the node lists are remembered. -/
theorem agrees_of_listed {txs : Table Key WalletTransaction} (h : listed node = .ok txs)
    (cache : NodeCache) (hcache : cache.Agrees node) :
    NodeCache.Agrees node { cache with transactions := some txs } where
  __ := hcache
  transactions := by
    rintro _ ⟨⟩
    exact h

/-- So are the outputs. -/
theorem agrees_of_listedOutputs {outputs : Table String Int}
    (h : listedOutputs node = .ok outputs) (cache : NodeCache) (hcache : cache.Agrees node) :
    NodeCache.Agrees node { cache with outputs := some outputs } where
  __ := hcache
  outputs := by
    rintro _ ⟨⟩
    exact h

/-- The transactions that are fetched are those that the node lists. -/
theorem reads_fetchTransactions :
    Reads (.ofNode node now) fetchTransactions (listed node) := by
  refine (Rpc.reads_call _ _).bind fun result hresult => ?_
  refine (reads_lift (readTransactions result)).remember fun txs htxs => agrees_of_listed ?_
  exact bind_eq_ok_iff.mpr ⟨result, hresult, htxs⟩

/-- Remembered or fetched, they are the same. -/
theorem reads_transactions : Reads (.ofNode node now) transactions (listed node) := by
  refine reads_recalled NodeCache.transactions ?_ ?_
    (fun _ hs => hs.2.2.transactions) reads_fetchTransactions
  · intro s txs h
    simp [transactions, NodeCache.current, outcome_bind, h]
  · intro s h
    simp [transactions, NodeCache.current, outcome_bind, h]

/-- The outputs that are fetched are those that the node lists. -/
theorem reads_fetchOutputs : Reads (.ofNode node now) fetchOutputs (listedOutputs node) := by
  refine (Rpc.reads_call _ _).bind fun result hresult => ?_
  refine (reads_lift (readOutputs result)).remember fun outputs houtputs =>
    agrees_of_listedOutputs ?_
  exact bind_eq_ok_iff.mpr ⟨result, hresult, houtputs⟩

/-- Remembered or fetched, they are the same. -/
theorem reads_outputs : Reads (.ofNode node now) outputs (listedOutputs node) := by
  refine reads_recalled NodeCache.outputs ?_ ?_ (fun _ hs => hs.2.2.outputs)
    reads_fetchOutputs
  · intro s found h
    simp [outputs, NodeCache.current, outcome_bind, h]
  · intro s h
    simp [outputs, NodeCache.current, outcome_bind, h]

/-! Fees are worked out from the transactions of the wallet, which do not change. -/

/-- The details of a transaction follow from what the node lists. -/
theorem steady_details (txid : Value) : Steady (.ofNode node now) (details txid) := by
  unfold details
  refine reads_transactions.steady.bind fun txs _ => ?_
  refine (steady_lift _).bind fun key _ => ?_
  split
  · exact steady_lift _
  · exact steady_throw _

/-- A result that an action continues with is always the same. -/
theorem steady_feeLift (r : Except Failure α) : Steady w (Fee.lift r : Action α) := by
  cases r with
  | ok a => exact steady_pure a
  | error failure => exact steady_throw failure

/-- The fee of a transaction is made of such details, so it is always the same. -/
theorem steady_fee (txid : Value) : Steady (.ofNode node now) (fee txid) := by
  unfold fee Fee.ofTransaction
  refine (steady_feeLift _).bind fun txid _ => ?_
  refine (steady_details _).bind fun tx _ => ?_
  refine (steady_feeLift _).bind fun inputs _ => ?_
  have hspent (input : Value) :
      Steady (.ofNode node now) (Fee.spent (fun txid => details (.text txid)) input) := by
    unfold Fee.spent
    refine (steady_feeLift _).bind fun txid _ => ?_
    exact (steady_details _).bind fun source _ => steady_feeLift _
  refine (Steady.mapM hspent inputs).bind fun received _ => ?_
  exact (steady_feeLift _).bind fun paid _ => steady_pure _

end Wallet

/-! ## Channels -/

namespace Channel

/-- The open channels are asked for every time, and are always those that the node lists. -/
theorem reads_openChannels : Reads (.ofNode node now) openChannels
    (Rpc.given node "listpeerchannels" (.object []) >>= readOpenChannels) :=
  (Rpc.reads_call _ _).bind fun result _ => reads_lift (readOpenChannels result)

/-- The closings come from events or transactions, both of which the node lists. -/
theorem reads_closings : Reads (.ofNode node now) closings (listedClosings node) := by
  refine Bookkeeper.reads_available.bind fun answers _ => ?_
  cases answers with
  | true => exact Bookkeeper.reads_events.bind fun events _ => reads_lift _
  | false => exact Wallet.reads_transactions.bind fun txs _ => reads_lift _

/-- The closed channels that the node gives are remembered. -/
theorem agrees_of_givenClosed {channels : Value} (h : givenClosed node = .ok channels)
    (cache : NodeCache) (hcache : cache.Agrees node) :
    NodeCache.Agrees node { cache with closedChannels := channels.kept } where
  __ := hcache
  closedChannels kept hkept := by
    rw [Value.eq_of_kept hkept]
    exact h

/-- The closed channels that are fetched are those that the node gives. -/
theorem reads_fetchClosed : Reads (.ofNode node now) fetchClosed (givenClosed node) := by
  refine (Rpc.reads_call _ _).bind fun result hresult => ?_
  refine (reads_lift (result.fieldD "closedchannels" (.list []))).remember
    fun channels hchannels => agrees_of_givenClosed ?_
  exact bind_eq_ok_iff.mpr ⟨result, hresult, hchannels⟩

/-- The closed channels that are remembered are read once more each time. -/
theorem reads_closed : Reads (.ofNode node now) closed (listedClosed node) := by
  have hgiven : Reads (.ofNode node now)
      (NodeCache.current >>= fun cache => cache.closedChannels.elim fetchClosed pure)
      (givenClosed node) := by
    refine reads_recalled NodeCache.closedChannels ?_ ?_
      (fun _ hs => hs.2.2.closedChannels) reads_fetchClosed
    · intro s channels h
      simp [NodeCache.current, outcome_bind, h]
    · intro s h
      simp [NodeCache.current, outcome_bind, h]
  refine (hgiven.bind fun channels _ => reads_lift channels.parts).congr fun s => ?_
  cases h : s.cache.closedChannels <;> simp [closed, NodeCache.current, outcome_bind, h]

/-- A closed channel is found without asking the node. -/
theorem steady_findClosed (closings : Table Key Value) (channel : Value) :
    Steady w (findClosed closings channel) := by
  unfold findClosed
  refine (steady_lift _).bind fun outpoint _ => ?_
  split
  · exact steady_pure none
  · dsimp only
    split
    · refine (steady_lift _).bind fun id _ => ?_
      exact (steady_log _ _).bind fun _ _ => steady_pure none
    · exact (steady_lift _).bind fun found _ => steady_pure (some found)

/-- All of them follow from what the node lists. -/
theorem steady_closedChannels : Steady (.ofNode node now) closedChannels := by
  unfold closedChannels
  refine reads_closings.steady.bind fun closings _ => ?_
  refine reads_closed.steady.bind fun channels _ => ?_
  exact (Steady.mapM (steady_findClosed closings) channels).bind fun found _ => steady_pure _

end Channel

/-! ## Transactions -/

namespace History

/-- The sweeps that the wallet knows are those among what the node lists. -/
theorem reads_walletSweeps : Reads (.ofNode node now) walletSweeps (listedSweeps node) := by
  unfold walletSweeps
  refine Channel.reads_closings.bind fun closings _ => ?_
  refine Wallet.reads_outputs.bind fun outputs _ => ?_
  refine Channel.reads_closed.bind fun channels _ => ?_
  refine (reads_lift _).bind fun closes _ => ?_
  exact Wallet.reads_transactions.bind fun txs _ => reads_lift _

/-- So they are always the same. -/
theorem steady_walletSweeps : Steady (.ofNode node now) walletSweeps :=
  reads_walletSweeps.steady

/-- The sweeps of a report come from the bookkeeper or from the wallet, and both do not change. -/
theorem steady_sweeps : Steady (.ofNode node now) sweeps := by
  unfold sweeps
  refine Bookkeeper.reads_available.steady.bind fun answers _ => ?_
  split
  · exact Bookkeeper.reads_events.steady.bind fun events _ => steady_lift _
  · exact steady_walletSweeps.bind fun txs _ => steady_pure _

/-- A transaction is rebuilt in the same way every time. -/
theorem steady_rebuild (outputs : Table String Int) (sweeps : Table Key WalletTransaction)
    (entry : Key × WalletTransaction) :
    Steady (.ofNode node now) (rebuild outputs sweeps entry) := by
  unfold rebuild
  refine (steady_lift _).bind fun received _ => ?_
  refine (steady_lift _).bind fun spent _ => ?_
  extract_lets rest
  have hrest (fee : Int) : Steady (.ofNode node now) (rest fee) := by
    refine (steady_lift _).bind fun height _ => ?_
    dsimp only
    split
    · exact (steady_pure 0).bind fun timestamp _ => steady_pure _
    · exact (Block.reads_time height).steady.bind fun timestamp _ => steady_pure _
  split
  · exact (Wallet.steady_fee _).bind fun fee _ => hrest fee
  · exact (steady_pure 0).bind fun fee _ => hrest fee

/-- The transactions of a report do not change while it is made. -/
theorem steady_transactions : Steady (.ofNode node now) transactions := by
  unfold transactions
  refine Bookkeeper.reads_available.steady.bind fun answers _ => ?_
  split
  · exact Bookkeeper.reads_events.steady.bind fun events _ => steady_lift _
  · unfold walletTransactions
    refine Wallet.reads_outputs.steady.bind fun outputs _ => ?_
    refine steady_walletSweeps.bind fun sweeps _ => ?_
    refine Wallet.reads_transactions.steady.bind fun txs _ => ?_
    refine (Steady.mapM (steady_rebuild outputs sweeps) txs).bind fun rebuilt _ => ?_
    exact (steady_log _ _).bind fun _ _ => steady_pure _

/-- Fees are looked up among the events, or worked out from the wallet. -/
theorem feeLookup_eq {s t : Session} {feeOf : Value → Action Int}
    (h : Ends feeLookup s (some feeOf) t) : feeOf = recordedFee ∨ feeOf = Wallet.fee := by
  obtain ⟨answers, u, -, h⟩ := ends_bind.mp h
  cases answers with
  | true => exact .inl (Option.some.inj (ends_pure.mp h).1)
  | false => exact .inr (Option.some.inj (ends_pure.mp h).1)

/-- Nor does the way in which fees are looked up. -/
theorem steady_feeLookup : Steady (.ofNode node now) feeLookup := by
  unfold feeLookup
  refine Bookkeeper.reads_available.steady.bind fun answers _ => ?_
  split
  · exact steady_pure _
  · exact steady_pure _

/-- However fees are looked up, they do not change. -/
theorem steady_feeOf {feeOf : Value → Action Int}
    (h : Always (.ofNode node now) feeLookup (some feeOf)) (txid : Value) :
    Steady (.ofNode node now) (feeOf txid) := by
  intro s fee t hs hends
  obtain ⟨_, hlookup, -⟩ := h s hs
  rcases feeLookup_eq hlookup with rfl | rfl
  · have hrecorded : Steady (.ofNode node now) (recordedFee txid) :=
      Bookkeeper.reads_events.steady.bind fun events _ => steady_lift _
    exact hrecorded s fee t hs hends
  · exact Wallet.steady_fee txid s fee t hs hends

end History

/-- The records of a node on chain do not change while its answers do not, whether they are fetched
or remembered. -/
theorem Node.steadyIn_onChain : onChain.SteadyIn (.ofNode node now) where
  transactions := History.steady_transactions
  sweeps := History.steady_sweeps
  openChannels := Channel.reads_openChannels.steady
  closedChannels := Channel.steady_closedChannels
  feeLookup := History.steady_feeLookup
  feeOf _ h := History.steady_feeOf h

end NodeLedger
