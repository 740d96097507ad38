import NodeLedger.Fee
import NodeLedger.Proofs.Session.Frame

/-!
# Causes of failures

A check or an action can fail for many causes, but for each of them only in a few places.  Which
causes there are follows from the places where a failure is thrown: what is made of several steps
fails for the causes of its steps.

The lemmas here are laws of simplification.  A check whose parts are known to be covered is covered
by unfolding it once.

Main results:

- Structure `Causes`, with `Causes.values` for what concerns values only, `Causes.quotes` for what
  concerns the prices that are read, `Causes.records` for all that concerns no prices,
  `Causes.answers` for those of them that a node can give, `Causes.receivesWithFee` for all but a
  receive with a fee by some other transaction, and `Causes.received` for all but a lost connection.
- Definitions `Causes.Covers` and `Causes.CoversRun`: a check, or an action begun in a session,
  fails for no other causes.
- Theorems `Causes.covers_bind` and `Causes.coversRun_bind`, and those beside them: what is made of
  covered steps is covered.
-/

namespace NodeLedger

open List NodeLedger.Action

variable {α β : Type}

/-- Some of the causes for which something may fail. -/
structure Causes where
  includes : Failure → Prop

namespace Causes

/-! ## Kinds of causes -/

/-- What is wrong with a value that is read. -/
def readings : Causes where
  includes
    | .value _ | .shape _ | .json _ | .decimal _ | .oversize _ => True
    | _ => False

/-- What is wrong with a request or with a value. -/
def values : Causes where
  includes
    | .request _ => True
    | failure => readings.includes failure

/-- What is wrong with prices or with a value. -/
def quotes : Causes where
  includes
    | .price _ => True
    | failure => readings.includes failure

/-- All causes that concern no prices: also what is wrong with the records of the node, and what the
node refuses. -/
def records : Causes where
  includes
    | .price _ | .connection _ => False
    | _ => True

/-- All causes that concern no prices but a receive with a fee, which is refused only where the
transactions of a report are selected. -/
def answers : Causes where
  includes
    | .price _ | .connection _ | .data (.receiveWithFee _) => False
    | _ => True

/-- All causes, but a receive with a fee only for some transactions. -/
def receivesWithFee (allowed : String → Prop) : Causes where
  includes
    | .data (.receiveWithFee txid) => allowed txid
    | _ => True

/-- All causes but that a price service cannot be reached. -/
def received : Causes where
  includes
    | .connection _ => False
    | _ => True

/-- All causes but some faults of the request. -/
def besides (excluded : RequestFault → Prop) : Causes where
  includes
    | .request fault => ¬ excluded fault
    | _ => True

/-- Causes that include what may be wrong with a value that is read. -/
class OfReadings (causes : Causes) : Prop where
  of_readings : ∀ failure, readings.includes failure → causes.includes failure

/-- Causes that include all those that concern values. -/
class OfValues (causes : Causes) : Prop extends causes.OfReadings where
  of_values : ∀ failure, values.includes failure → causes.includes failure

/-- Causes that include all those for which prices cannot be read. -/
class OfQuotes (causes : Causes) : Prop extends causes.OfReadings where
  of_quotes : ∀ failure, quotes.includes failure → causes.includes failure

/-- Causes that include all those for which the records of a node cannot be had. -/
class OfAnswers (causes : Causes) : Prop extends causes.OfValues where
  of_answers : ∀ failure, answers.includes failure → causes.includes failure

/-- Causes that include all those that concern no prices. -/
class OfRecords (causes : Causes) : Prop extends causes.OfValues where
  of_records : ∀ failure, records.includes failure → causes.includes failure

/-- Causes that concern values include themselves. -/
instance ofValues_values : OfValues values where
  of_readings failure h := by cases failure <;> simp_all [readings, values]
  of_values _ h := h

/-- Causes that concern no prices include what is wrong with a value. -/
instance ofRecords_records : OfRecords records where
  of_readings failure h := by cases failure <;> simp_all [readings, records]
  of_values failure h := by cases failure <;> simp_all [readings, values, records]
  of_records _ h := h

/-- A lost connection concerns neither a record nor a value. -/
instance ofRecords_received : OfRecords received where
  of_readings failure h := by cases failure <;> simp_all [readings, received]
  of_values failure h := by cases failure <;> simp_all [readings, values, received]
  of_records failure h := by cases failure <;> simp_all [records, received]

/-- Whichever receives with a fee are allowed, all other answers of a node are. -/
instance ofAnswers_receivesWithFee (allowed : String → Prop) :
    OfAnswers (receivesWithFee allowed) where
  of_readings failure h := by cases failure <;> simp_all [readings, receivesWithFee]
  of_values failure h := by cases failure <;> simp_all [readings, values, receivesWithFee]
  of_answers failure h := by
    cases failure with
    | data fault => cases fault <;> simp_all [answers, receivesWithFee]
    | _ => simp [receivesWithFee]

/-- Nor does a lost connection concern a price that was read. -/
instance ofQuotes_received : OfQuotes received where
  of_quotes failure h := by cases failure <;> simp_all [readings, quotes, received]

/-- What is wrong with prices or with a value is no fault of the request. -/
instance ofQuotes_besides (excluded : RequestFault → Prop) : OfQuotes (besides excluded) where
  of_readings failure h := by cases failure <;> simp_all [readings, besides]
  of_quotes failure h := by cases failure <;> simp_all [readings, quotes, besides]

variable {causes : Causes}

/-- What concerns no prices includes all that a node can answer. -/
instance ofAnswers_of_ofRecords [causes.OfRecords] : causes.OfAnswers where
  of_answers failure h := by
    refine OfRecords.of_records failure ?_
    cases failure <;> simp_all [answers, records]

section OfReadings

variable [causes.OfReadings]

/-- A wrong value is one of the faults of what is read. -/
@[simp] theorem includes_value (fault : ValueFault) : causes.includes (.value fault) :=
  OfReadings.of_readings _ trivial

/-- So is a value of the wrong shape. -/
@[simp] theorem includes_shape (fault : ShapeFault) : causes.includes (.shape fault) :=
  OfReadings.of_readings _ trivial

/-- So is a text that is no value. -/
@[simp] theorem includes_json (fault : JsonFault) : causes.includes (.json fault) :=
  OfReadings.of_readings _ trivial

/-- So is a decimal that cannot be worked out. -/
@[simp] theorem includes_decimal (fault : DecimalFault) : causes.includes (.decimal fault) :=
  OfReadings.of_readings _ trivial

/-- So is a number that is too large. -/
@[simp] theorem includes_oversize (fault : Oversize) : causes.includes (.oversize fault) :=
  OfReadings.of_readings _ trivial

end OfReadings

/-- Causes that concern values include the faults of a request. -/
@[simp] theorem includes_request [causes.OfValues] (fault : RequestFault) :
    causes.includes (.request fault) :=
  OfValues.of_values _ trivial

/-- Causes that concern prices include that one is missing. -/
@[simp] theorem includes_price [causes.OfQuotes] (fault : PriceFault) :
    causes.includes (.price fault) :=
  OfQuotes.of_quotes _ trivial

/-- Causes that concern records include what may be wrong with a record. -/
@[simp] theorem includes_data [causes.OfRecords] (fault : DataFault) :
    causes.includes (.data fault) :=
  OfRecords.of_records _ trivial

/-- A node can answer with any wrong data but a receive with a fee, which is found only later. -/
@[simp] theorem includes_data_of_ne [causes.OfAnswers] {fault : DataFault}
    (h : ∀ txid, fault ≠ .receiveWithFee txid) : causes.includes (.data fault) := by
  refine OfAnswers.of_answers _ ?_
  cases fault <;> simp_all [answers]

/-- A node may refuse a call. -/
@[simp] theorem includes_rpc [causes.OfAnswers] (fault : RpcFault) :
    causes.includes (.rpc fault) :=
  OfAnswers.of_answers _ trivial

/-- A fault of the request is one of the other causes if it is not excluded. -/
@[simp] theorem besides_includes_request {excluded : RequestFault → Prop} {fault : RequestFault} :
    (besides excluded).includes (.request fault) ↔ ¬ excluded fault :=
  Iff.rfl

/-! ## Checks -/

/-- A check fails for no other causes. -/
def Covers (causes : Causes) (r : Except Failure α) : Prop :=
  ∀ failure, r = .error failure → causes.includes failure

/-- A check that succeeds fails for no cause. -/
@[simp] theorem covers_ok (a : α) : causes.Covers (.ok a : Except Failure α) := by
  intro failure h
  cases h

/-- A check that is known to succeed is covered. -/
theorem covers_of_eq_ok {r : Except Failure α} {a : α} (h : r = .ok a) : causes.Covers r := by
  rw [h]
  exact covers_ok a

/-- A check that fails is covered by the causes that include its failure. -/
@[simp] theorem covers_error {failure : Failure} :
    causes.Covers (.error failure : Except Failure α) ↔ causes.includes failure := by
  constructor
  · intro h
    exact h failure rfl
  · rintro h _ ⟨⟩
    exact h

/-- A value that is returned is no failure. -/
@[simp] theorem covers_pure (a : α) : causes.Covers (pure a : Except Failure α) :=
  covers_ok a

/-- A failure that is thrown has to be one of the causes. -/
@[simp] theorem covers_throw {failure : Failure} :
    causes.Covers (throw failure : Except Failure α) ↔ causes.includes failure :=
  covers_error

/-- The second of two checks matters only where the first succeeds. -/
@[simp] theorem covers_bind {r : Except Failure α} {next : α → Except Failure β} :
    causes.Covers (r >>= next) ↔
      causes.Covers r ∧ ∀ a, r = .ok a → causes.Covers (next a) := by
  cases r with
  | error failure => simp [bind, Except.bind]
  | ok a => simp [bind, Except.bind]

/-- What is made of a result adds no cause. -/
@[simp] theorem covers_map {r : Except Failure α} {f : α → β} :
    causes.Covers (f <$> r) ↔ causes.Covers r := by
  cases r with
  | error failure => simp [Functor.map, Except.map]
  | ok a => simp [Functor.map, Except.map]

/-- A choice between two checks is covered if the one taken is. -/
@[simp] theorem covers_ite {c : Prop} [Decidable c] {r r' : Except Failure α} :
    causes.Covers (if c then r else r') ↔
      (c → causes.Covers r) ∧ (¬ c → causes.Covers r') := by
  by_cases hc : c <;> simp [hc]

/-- Checks of all elements fail for no other causes than the check of one. -/
@[simp] theorem covers_mapM {f : α → Except Failure β} {as : List α}
    (h : ∀ a ∈ as, causes.Covers (f a)) : causes.Covers (as.mapM f) := by
  induction as with
  | nil => simp
  | cons a as ih =>
    rw [List.forall_mem_cons] at h
    simp [h.1, ih h.2]

/-- Nor do checks of all elements in turn, whatever has been gathered before. -/
@[simp] theorem covers_foldlM {f : β → α → Except Failure β} {as : List α} {b : β}
    (h : ∀ b, ∀ a ∈ as, causes.Covers (f b a)) : causes.Covers (as.foldlM f b) := by
  induction as generalizing b with
  | nil => simp
  | cons a as ih =>
    have hrest : ∀ b, ∀ a ∈ as, causes.Covers (f b a) :=
      fun b a ha => h b a (List.mem_cons_of_mem _ ha)
    simp [h, ih hrest]

/-- Nor does the search for an element. -/
@[simp] theorem covers_anyM {p : α → Except Failure Bool} {as : List α}
    (h : ∀ a ∈ as, causes.Covers (p a)) : causes.Covers (as.anyM p) := by
  induction as with
  | nil => simp [List.anyM]
  | cons a as ih =>
    rw [List.forall_mem_cons] at h
    rw [List.anyM, covers_bind]
    refine ⟨h.1, ?_⟩
    rintro (_ | _) -
    · exact ih h.2
    · exact covers_pure true

/-- Nor does a selection of elements. -/
@[simp] theorem covers_filterM {p : α → Except Failure Bool} {as : List α}
    (h : ∀ a ∈ as, causes.Covers (p a)) : causes.Covers (as.filterM p) := by
  have hkept : ∀ kept, causes.Covers (as.filterAuxM p kept) := by
    induction as with
    | nil => simp [List.filterAuxM]
    | cons a as ih =>
      rw [List.forall_mem_cons] at h
      intro kept
      rw [List.filterAuxM, covers_bind]
      exact ⟨h.1, fun _ _ => ih h.2 _⟩
  simp [List.filterM, hkept]

/-! ## Actions -/

/-- An action begun in a session fails for no other causes. -/
def CoversRun (causes : Causes) (act : Action α) (s : Session) : Prop :=
  causes.Covers (act.outcome s).1

variable {s : Session}

/-- What an action that is covered and attempted fails for is one of the causes. -/
theorem CoversRun.includes_of_attempt {act : Action α} (h : causes.CoversRun act s)
    {failure : Failure} {t : Session} (hfails : Ends act.attempt s (.error failure) t) :
    causes.includes failure :=
  h failure (congrArg Prod.fst (ends_attempt.mp hfails))

/-- An action that returns a value does not fail. -/
@[simp] theorem coversRun_pure (a : α) : causes.CoversRun (pure a) s :=
  covers_ok a

/-- An action that throws a failure is covered by the causes that include it. -/
@[simp] theorem coversRun_throw {failure : Failure} :
    causes.CoversRun (throw failure : Action α) s ↔ causes.includes failure :=
  covers_error

/-- A check within an action fails as it does outside. -/
@[simp] theorem coversRun_lift {r : Except Failure α} :
    causes.CoversRun (liftM r : Action α) s ↔ causes.Covers r :=
  Iff.rfl

/-- Reading the session does not fail. -/
@[simp] theorem coversRun_get : causes.CoversRun (get : Action Session) s :=
  covers_ok s

/-- Changing the session does not fail. -/
@[simp] theorem coversRun_modify (change : Session → Session) :
    causes.CoversRun (modify change : Action Unit) s :=
  covers_ok ()

/-- Reading the clock does not fail. -/
@[simp] theorem coversRun_now : causes.CoversRun now s :=
  covers_ok s.now

/-- Noting a line does not fail. -/
@[simp] theorem coversRun_log (level : LogLevel) (text : String) :
    causes.CoversRun (log level text) s :=
  covers_ok ()

/-- An action that is attempted does not fail. -/
@[simp] theorem coversRun_attempt (act : Action α) : causes.CoversRun act.attempt s :=
  covers_ok _

/-- The second of two actions matters only where the first ends with a value. -/
@[simp] theorem coversRun_bind {act : Action α} {next : α → Action β} :
    causes.CoversRun (act >>= next) s ↔
      causes.CoversRun act s ∧ ∀ a t, Ends act s a t → causes.CoversRun (next a) t := by
  unfold CoversRun Ends
  rw [outcome_bind]
  rcases act.outcome s with ⟨failure | a, t⟩ <;> simp

/-- What is made of the result of an action adds no cause. -/
@[simp] theorem coversRun_map {act : Action α} {f : α → β} :
    causes.CoversRun (f <$> act) s ↔ causes.CoversRun act s := by
  rw [map_eq_pure_bind, coversRun_bind]
  simp

/-- A choice between two actions is covered if the one taken is. -/
@[simp] theorem coversRun_ite {c : Prop} [Decidable c] {act act' : Action α} :
    causes.CoversRun (if c then act else act') s ↔
      (c → causes.CoversRun act s) ∧ (¬ c → causes.CoversRun act' s) := by
  by_cases hc : c <;> simp [hc]

/-- An action for each of some elements fails for no other causes than the action for one of them,
whichever session that begins in. -/
@[simp] theorem coversRun_mapM {act : α → Action β} {as : List α}
    (h : ∀ a ∈ as, ∀ s, causes.CoversRun (act a) s) : causes.CoversRun (as.mapM act) s := by
  induction as generalizing s with
  | nil => simp
  | cons a as ih =>
    rw [List.forall_mem_cons] at h
    simp [h.1, ih h.2]

/-- Nor does an action that gathers from the elements in turn. -/
@[simp] theorem coversRun_foldlM {act : β → α → Action β} {as : List α} {b : β}
    (h : ∀ b, ∀ a ∈ as, ∀ s, causes.CoversRun (act b a) s) :
    causes.CoversRun (as.foldlM act b) s := by
  induction as generalizing b s with
  | nil => simp
  | cons a as ih =>
    have hrest : ∀ b, ∀ a ∈ as, ∀ s, causes.CoversRun (act b a) s :=
      fun b a ha => h b a (List.mem_cons_of_mem _ ha)
    simp [h, ih hrest]

/-- A result that an action continues with fails as it does by itself. -/
@[simp] theorem coversRun_feeLift {r : Except Failure α} :
    causes.CoversRun (Fee.lift r : Action α) s ↔ causes.Covers r := by
  cases r with
  | error failure => exact Iff.rfl
  | ok a => exact Iff.rfl

end Causes

end NodeLedger
