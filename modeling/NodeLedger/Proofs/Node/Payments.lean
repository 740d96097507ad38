import Mathlib.Algebra.BigOperators.Group.List.Basic
import NodeLedger.Node.Payment
import NodeLedger.Proofs.Order.Related
import NodeLedger.Proofs.Session.Outcome
import NodeLedger.Proofs.Table

/-!
# Payments and their parts

The node lists the parts of its payments, each with the hash and the group of its payment.  The
ledger puts parts together again: a payment has all parts of its hash and group, in the order in
which they are listed, costs what its complete parts have sent, and is settled when the last of
these is resolved.

Here the cost of payments is also read from the listed parts directly, without putting them
together, and both are shown to be the same.

Main results:

- Definition `Payment.spentIn`: what the parts that count for a period have sent.
- Definition `Payment.partOf` and theorem `Payment.readPart_eq`: what is read of a part.
- Theorem `Payment.grouped_eq_ok`: parts are put together by hash and group, and none is lost.
- Structure `Payment.Gathers` and theorem `Payment.gathers_of_ofParts`: what a payment is made of.
- Theorem `Payment.cost_of_ofParts`: what a payment costs is what its complete parts have sent.
- Theorem `Payment.sum_cost_of_readAll`: the payments of a period cost what the parts that count for
  it have sent.
-/

namespace NodeLedger

open List NodeLedger.Numeral

/-! ## Reading records -/

namespace Value

/-- What a record holds in a field, a substitute if the field is not there. -/
def fieldOr (record : Value) (key : String) (substitute : Value) : Value :=
  (record.fieldD key substitute).toOption.getD substitute

/-- A time in whole seconds. -/
def seconds (v : Value) : Int :=
  v.toInteger.toOption.getD 0

/-- An amount in a field of a record, nothing if the field is not there. -/
def msat (record : Value) (key : String) : Int :=
  (Amount.ofValue (record.fieldOr key (.int 0))).count

variable {record v : Value} {key : String} {substitute : Value}

theorem fieldOr_of_fieldD (h : record.fieldD key substitute = .ok v) :
    record.fieldOr key substitute = v := by
  unfold fieldOr
  rw [h]
  rfl

theorem fieldOr_of_field (h : record.field key = .ok v) : record.fieldOr key .null = v :=
  fieldOr_of_fieldD h

/-- A field that has to be there is what the record holds in it. -/
theorem fieldOr_of_required (h : record.required key = .ok v) :
    record.fieldOr key .null = v := by
  cases record with
  | object fields =>
    apply fieldOr_of_field
    unfold required at h
    cases hfound : Table.get? fields key with
    | none => simp [hfound] at h
    | some found =>
      simp only [hfound, Except.ok.injEq] at h
      rw [← h]
      simp [field, field?, hfound, bind, Except.bind, pure, Except.pure]
  | _ => cases h

theorem seconds_of_toInteger {time : Int} (h : v.toInteger = .ok time) : v.seconds = time := by
  unfold seconds
  rw [h]
  rfl

theorem msat_of_field {amount : Amount} (h : Amount.field record key = .ok amount) :
    record.msat key = amount.count := by
  obtain ⟨given, hgiven, h⟩ := bind_eq_ok_iff.mp h
  cases h
  unfold msat
  rw [fieldOr_of_fieldD hgiven]

/-- A value is a text if its key is that text. -/
theorem isText_of_key {k : Key} (h : v.key = .ok k) (s : String) :
    v.isText s = decide (k = .text s) := by
  have hkey := key_eq_ok_iff.mp h
  cases v with
  | text t =>
    cases hkey
    by_cases hsame : t = s <;> simp [isText, hsame]
  | float x => cases x <;> simp [key?, Binary64.units?] at hkey <;> simp [isText, ← hkey]
  | null | bool _ | int _ | decimal _ =>
    cases hkey
    simp [isText]
  | list _ | object _ => cases hkey

end Value

namespace Payment

/-! ## Parts -/

/-- Whether a part has succeeded. -/
def isComplete (part : Value) : Bool :=
  (part.fieldOr "status" .null).isText "complete"

/-- Whether a part is still under way. -/
def isPending (part : Value) : Bool :=
  (part.fieldOr "status" .null).isText "pending"

/-- The time at which a part was resolved or, if that is not known, created. -/
def resolved (part : Value) : Int :=
  ((part.fieldOr "completed_at" .null).orElse (part.fieldOr "created_at" (.int 0))).seconds

/-- How a part went: its status, its destination and its time. -/
def htlcOf (part : Value) : Htlc where
  status := if isComplete part then .succeeded else if isPending part then .inFlight else .failed
  hops := hopsOf (part.fieldOr "destination" .null)
  resolveTime := resolved part * nanoseconds

/-- What a part tells; only a complete one has paid something. -/
def partOf (part : Value) : Part :=
  if isComplete part then
    { htlc := htlcOf part
      amount := part.msat "amount_msat"
      sent := part.msat "amount_sent_msat"
      preimage := some (part.fieldOr "payment_preimage" (.text "")) }
  else { htlc := htlcOf part }

/-- The id of a part. -/
def idOf (part : Value) : Int :=
  (part.fieldOr "id" (.int 0)).toInteger.toOption.getD 0

/-- The payment to which a part belongs: its hash and its group. -/
def groupOf (part : Value) : Option GroupKey := do
  let hash ← (part.fieldOr "payment_hash" (.text "")).key?
  let group ← (part.fieldOr "groupid" (.int 0)).key?
  return ⟨hash, group⟩

/-- The time at which the last complete part of some parts was resolved. -/
def latest (parts : List Value) : Option Int :=
  ((parts.filter isComplete).map resolved).max?

/-- The parts of one payment among those listed. -/
def partsOf (listed : List Value) (group : Option GroupKey) : List Value :=
  listed.filter fun part => decide (groupOf part = group)

/-- Whether a part counts for a period: it is complete, and the last complete part of its payment
was resolved in the period. -/
def counts (period : Period) (listed : List Value) (part : Value) : Bool :=
  isComplete part && (latest (partsOf listed (groupOf part))).any period.contains

/-- What the parts that count for a period have sent. -/
def spentIn (period : Period) (listed : List Value) : Int :=
  ((listed.filter (counts period listed)).map (Value.msat · "amount_sent_msat")).sum

/-! ## Reading one part -/

variable {part : Value} {parts : List Value} {period : Period}

/-- The status of a part is the one that is listed, failed if that is neither complete nor
pending. -/
theorem partStatus_eq {v : Value} {status : HtlcStatus} (h : partStatus v = .ok status) :
    status = if v.isText "complete" then .succeeded
      else if v.isText "pending" then .inFlight else .failed := by
  obtain ⟨key, hkey, h⟩ := bind_eq_ok_iff.mp h
  rw [Value.isText_of_key hkey, Value.isText_of_key hkey]
  split at h
  · cases h
    rfl
  · cases h
    rfl
  · next hcomplete hpending =>
    cases h
    have hne : key ≠ .text "complete" := fun hkey => hcomplete hkey
    have hne' : key ≠ .text "pending" := fun hkey => hpending hkey
    simp [hne, hne']

/-- What is read of a part is what the part tells. -/
theorem readPart_eq {read : Part} (h : readPart part = .ok read) : read = partOf part := by
  unfold readPart at h
  obtain ⟨given, hgiven, h⟩ := bind_eq_ok_iff.mp h
  obtain ⟨status, hstatus, h⟩ := bind_eq_ok_iff.mp h
  obtain ⟨completed, hcompleted, h⟩ := bind_eq_ok_iff.mp h
  obtain ⟨created, hcreated, h⟩ := bind_eq_ok_iff.mp h
  obtain ⟨destination, hdestination, h⟩ := bind_eq_ok_iff.mp h
  obtain ⟨time, htime, h⟩ := bind_eq_ok_iff.mp h
  have hlisted : status =
      if isComplete part then .succeeded else if isPending part then .inFlight else .failed := by
    rw [partStatus_eq hstatus, isComplete, isPending, Value.fieldOr_of_field hgiven]
  have hresolved : time = resolved part := by
    unfold resolved
    rw [Value.fieldOr_of_field hcompleted, Value.fieldOr_of_fieldD hcreated,
      Value.seconds_of_toInteger htime]
  have hhtlc : (⟨status, hopsOf destination, time * nanoseconds⟩ : Htlc) = htlcOf part := by
    unfold htlcOf
    rw [hlisted, hresolved, Value.fieldOr_of_field hdestination]
  dsimp only at h
  rw [hhtlc] at h
  unfold partOf
  by_cases hcomplete : isComplete part = true
  · rw [if_pos hcomplete] at hlisted
    rw [if_pos hlisted] at h
    obtain ⟨amount, hamount, h⟩ := bind_eq_ok_iff.mp h
    obtain ⟨sent, hsent, h⟩ := bind_eq_ok_iff.mp h
    obtain ⟨preimage, hpreimage, h⟩ := bind_eq_ok_iff.mp h
    cases h
    rw [if_pos hcomplete, Value.msat_of_field hamount, Value.msat_of_field hsent,
      Value.fieldOr_of_fieldD hpreimage]
  · have hother : status ≠ .succeeded := by
      rw [hlisted, if_neg hcomplete]
      split <;> simp
    rw [if_neg hother] at h
    cases h
    rw [if_neg hcomplete]

theorem readId_eq {id : Int} (h : readId part = .ok id) : id = idOf part := by
  obtain ⟨given, hgiven, h⟩ := bind_eq_ok_iff.mp h
  unfold idOf
  rw [Value.fieldOr_of_fieldD hgiven, h]
  rfl

/-! ## Parts put together -/

/-- A part behind those of its payment, or the first one of a new payment. -/
def withPart (hash part : Value) : Option PartGroup → PartGroup
  | none => ⟨hash, [part]⟩
  | some before => { before with parts := before.parts ++ [part] }

/-- A part is put to those of its payment. -/
theorem addPart_eq_ok {groups after : Table GroupKey PartGroup}
    (h : addPart groups part = .ok after) :
    ∃ key hash, groupOf part = some key ∧ hash.key? = some key.hash ∧
      after = groups.alter key (withPart hash part) := by
  unfold addPart at h
  obtain ⟨hash, hhash, h⟩ := bind_eq_ok_iff.mp h
  obtain ⟨group, hgroup, h⟩ := bind_eq_ok_iff.mp h
  obtain ⟨hashKey, hhashKey, h⟩ := bind_eq_ok_iff.mp h
  obtain ⟨groupKey, hgroupKey, h⟩ := bind_eq_ok_iff.mp h
  cases h
  have hgroupOf : groupOf part = some ⟨hashKey, groupKey⟩ := by
    unfold groupOf
    rw [Value.fieldOr_of_fieldD hhash, Value.fieldOr_of_fieldD hgroup,
      Value.key_eq_ok_iff.mp hhashKey, Value.key_eq_ok_iff.mp hgroupKey]
    rfl
  refine ⟨⟨hashKey, groupKey⟩, hash, hgroupOf, Value.key_eq_ok_iff.mp hhashKey,
    congrArg (groups.alter _) ?_⟩
  funext before
  cases before <;> rfl

/-- Listed parts that have been put together: each payment has the parts of its hash and group, and
all parts belong to some payment. -/
structure PutTogether (listed : List Value) (groups : Table GroupKey PartGroup) : Prop where
  nodup : groups.keys.Nodup
  parts_eq : ∀ key, ((groups.get? key).map (·.parts)).getD [] = partsOf listed (some key)
  perm : (groups.map fun entry => entry.2.parts).flatten ~ listed

/-- One more part leaves the parts put together. -/
theorem PutTogether.addPart {listed : List Value} {groups after : Table GroupKey PartGroup}
    (h : PutTogether listed groups) (hadd : addPart groups part = .ok after) :
    PutTogether (listed ++ [part]) after := by
  obtain ⟨key, hash, hkey, -, rfl⟩ := addPart_eq_ok hadd
  refine ⟨Table.nodup_keys_alter h.nodup key _, ?_, ?_⟩
  · intro other
    have hother := h.parts_eq other
    have happend : partsOf (listed ++ [part]) (some other) =
        partsOf listed (some other) ++ if key = other then [part] else [] := by
      unfold partsOf
      rw [List.filter_append, List.filter_singleton, hkey]
      simp
    rw [Table.get?_alter, happend]
    by_cases hsame : key = other
    · rw [if_pos hsame, if_pos hsame, hsame, ← hother]
      cases groups.get? other <;> rfl
    · rw [if_neg hsame, if_neg hsame, List.append_nil, hother]
  · exact (Table.flatten_alter_perm rfl fun _ => rfl).trans (h.perm.append_right [part])

/-- The parts of an answer are put together by hash and group, and none is lost. -/
theorem grouped_eq_ok {listed : List Value} {groups : Table GroupKey PartGroup}
    (h : grouped listed = .ok groups) : PutTogether listed groups := by
  have hempty : PutTogether [] [] := ⟨List.nodup_nil, fun _ => rfl, .nil⟩
  refine holds_of_foldlM PutTogether ?_ hempty h
  intro done part before after hbefore hadd
  exact hbefore.addPart hadd

/-- Parts stand under the key of their hash. -/
theorem key_of_grouped {listed : List Value} {groups : Table GroupKey PartGroup}
    (h : grouped listed = .ok groups) :
    ∀ entry ∈ groups, entry.2.hash.key? = some entry.1.hash := by
  refine holds_of_foldlM
    (fun _ groups => ∀ entry ∈ groups, entry.2.hash.key? = some entry.1.hash) ?_
    (fun _ hentry => absurd hentry List.not_mem_nil) h
  intro _ part before after hbefore hadd
  obtain ⟨key, hash, -, hhash, rfl⟩ := addPart_eq_ok hadd
  -- A group keeps the hash with which it began.
  have hget : ∀ group, before.get? key = some group → group.hash.key? = some key.hash := by
    intro group hgroup
    exact hbefore _ (Table.mem_of_get?_eq_some hgroup)
  intro entry hentry
  rcases Table.mem_of_mem_alter hentry with hentry | rfl
  · exact hbefore entry hentry
  · cases hgroup : before.get? key with
    | none => exact hhash
    | some group => exact hget group hgroup

/-! ## The cost of a payment -/

/-- A payment is made of parts: it has gone as they have, it pays what the complete ones have paid,
and it costs what these have sent.  It has the least of their ids. -/
structure Gathers (parts : List Value) (payment : Payment) : Prop where
  htlcs_eq : payment.htlcs = parts.map htlcOf
  amount_eq : payment.amount =
    ((parts.filter isComplete).map (Value.msat · "amount_msat")).sum
  cost_eq : payment.amount + payment.fee =
    ((parts.filter isComplete).map (Value.msat · "amount_sent_msat")).sum
  status_eq : payment.status =
    if parts.any isComplete then .succeeded else if parts.any isPending then .inFlight else .failed
  sequenceNumber_eq : payment.sequenceNumber = least (parts.map idOf)

/-- The status of a payment is told by the parts. -/
theorem statusOf_map_htlcOf (parts : List Value) :
    statusOf (parts.map htlcOf) =
      if parts.any isComplete then .succeeded
      else if parts.any isPending then .inFlight else .failed := by
  have hcomplete : (fun part => (htlcOf part).status == .succeeded) = isComplete := by
    funext part
    unfold htlcOf
    cases isComplete part <;> cases isPending part <;> rfl
  have hpending : ∀ part, ((htlcOf part).status == .inFlight) =
      (!isComplete part && isPending part) := by
    intro part
    unfold htlcOf
    cases isComplete part <;> cases isPending part <;> rfl
  unfold statusOf
  rw [List.any_map, List.any_map]
  show (if parts.any (fun part => (htlcOf part).status == .succeeded) then _
    else if parts.any (fun part => (htlcOf part).status == .inFlight) then _ else _) = _
  rw [hcomplete]
  cases hany : parts.any isComplete with
  | true => rfl
  | false =>
    -- Where no part is complete, those under way are the pending ones.
    rw [List.any_eq_false] at hany
    have hsame : (parts.any fun part => (htlcOf part).status == .inFlight) =
        parts.any isPending := by
      rw [Bool.eq_iff_iff, List.any_eq_true, List.any_eq_true]
      refine exists_congr fun part => and_congr_right fun hpart => ?_
      rw [hpending, Bool.eq_false_iff.mpr (hany part hpart)]
      rfl
    rw [hsame]

/-- A payment is made of the parts that are put together for it. -/
theorem gathers_of_ofParts {hash : Value} {payment : Payment}
    (h : ofParts hash parts = .ok payment) :
    payment.paymentHash = hash ∧ Gathers parts payment := by
  unfold ofParts at h
  obtain ⟨read, hread, h⟩ := bind_eq_ok_iff.mp h
  obtain ⟨ids, hids, h⟩ := bind_eq_ok_iff.mp h
  obtain ⟨request, -, h⟩ := bind_eq_ok_iff.mp h
  cases h
  have hparts : read = parts.map partOf :=
    eq_map_of_mapM (fun _ _ => readPart_eq) hread
  have hhtlcs : read.map (·.htlc) = parts.map htlcOf := by
    rw [hparts, List.map_map]
    refine List.map_congr_left fun part _ => ?_
    show (partOf part).htlc = htlcOf part
    unfold partOf
    split <;> rfl
  have hamount : (read.map (·.amount)).sum =
      ((parts.filter isComplete).map (Value.msat · "amount_msat")).sum := by
    rw [hparts, List.map_map, sum_map_filter]
    refine congrArg List.sum (List.map_congr_left fun part _ => ?_)
    show (partOf part).amount = _
    unfold partOf
    split <;> rfl
  have hsent : (read.map (·.sent)).sum =
      ((parts.filter isComplete).map (Value.msat · "amount_sent_msat")).sum := by
    rw [hparts, List.map_map, sum_map_filter]
    refine congrArg List.sum (List.map_congr_left fun part _ => ?_)
    show (partOf part).sent = _
    unfold partOf
    split <;> rfl
  refine ⟨rfl, hhtlcs, hamount, ?_, ?_, ?_⟩
  · rw [← hsent]
    show Amount.total (read.map (·.amount)) +
      (Amount.total (read.map (·.sent)) - Amount.total (read.map (·.amount))) = Amount.total _
    omega
  · rw [← statusOf_map_htlcOf, ← hhtlcs]
  · exact congrArg least (eq_map_of_mapM (fun _ _ => readId_eq) hids)

namespace Gathers

variable {payment : Payment} (h : Gathers parts payment)

include h

/-- A payment has succeeded if one of its parts is complete. -/
theorem succeeded_eq : (payment.status == .succeeded) = parts.any isComplete := by
  rw [h.status_eq]
  cases parts.any isComplete with
  | true => rfl
  | false =>
    rw [if_neg Bool.false_ne_true]
    split <;> rfl

/-- A payment is settled when the last of its complete parts is resolved, as long as none is before
the beginning of time. -/
theorem settleTime_eq :
    payment.settleTime = ((parts.filter isComplete).map resolved).foldl max 0 := by
  have hfrom : ∀ start : Int,
      (parts.map htlcOf).foldl (fun latest htlc =>
          if htlc.status == .succeeded then max latest htlc.resolveTime else latest)
        (start * nanoseconds) =
      ((parts.filter isComplete).map resolved).foldl max start * nanoseconds := by
    clear h
    induction parts with
    | nil => exact fun _ => rfl
    | cons part rest ih =>
      intro start
      rw [List.map_cons, List.foldl_cons]
      by_cases hcomplete : isComplete part = true
      · have hmax : max (start * nanoseconds) (htlcOf part).resolveTime =
            max start (resolved part) * nanoseconds := by
          unfold htlcOf nanoseconds
          dsimp only
          omega
        have hstatus : ((htlcOf part).status == .succeeded) = true := by
          rw [htlcOf, if_pos hcomplete]
          rfl
        rw [if_pos hstatus, hmax, ih, List.filter_cons_of_pos hcomplete]
        rfl
      · have hstatus : ¬ ((htlcOf part).status == .succeeded) = true := by
          rw [htlcOf, if_neg hcomplete]
          split <;> simp
        rw [if_neg hstatus, ih, List.filter_cons_of_neg hcomplete]
  have hlast : resolvedLast payment.htlcs =
      ((parts.filter isComplete).map resolved).foldl max 0 * nanoseconds := by
    have hzero := hfrom 0
    rw [Int.zero_mul] at hzero
    rw [h.htlcs_eq]
    exact hzero
  unfold settleTime
  rw [h.succeeded_eq, hlast]
  cases hany : parts.any isComplete with
  | true =>
    have hnanoseconds : nanoseconds ≠ 0 := by decide
    rw [if_pos rfl, Int.mul_ediv_cancel _ hnanoseconds]
  | false =>
    have hnone : parts.filter isComplete = [] := by
      simpa [List.filter_eq_nil_iff] using hany
    rw [if_neg Bool.false_ne_true, hnone]
    rfl

end Gathers

/-- The latest of some times, none of which lies before the beginning of time. -/
theorem foldl_max_of_nonneg {times : List Int} (h : ∀ time ∈ times, 0 ≤ time) :
    times.max? = if times.isEmpty then none else some (times.foldl max 0) := by
  cases times with
  | nil => rfl
  | cons time rest =>
    have hstart : max 0 time = time := by
      have := h time List.mem_cons_self
      omega
    rw [List.max?_cons', List.foldl_cons, hstart]
    rfl

/-- A payment is settled in a period if the last of its complete parts was resolved in it. -/
theorem Gathers.settled_eq {payment : Payment} (h : Gathers parts payment)
    (htimes : ∀ part ∈ parts, isComplete part = true → 0 ≤ resolved part) :
    (payment.status == .succeeded && period.contains payment.settleTime) =
      (latest parts).any period.contains := by
  have hnonneg : ∀ time ∈ (parts.filter isComplete).map resolved, 0 ≤ time := by
    intro time htime
    obtain ⟨part, hpart, rfl⟩ := List.mem_map.mp htime
    obtain ⟨hmem, hcomplete⟩ := List.mem_filter.mp hpart
    exact htimes part hmem hcomplete
  unfold latest
  rw [foldl_max_of_nonneg hnonneg, h.succeeded_eq, h.settleTime_eq]
  cases hany : parts.any isComplete with
  | false =>
    have hnone : parts.filter isComplete = [] := by
      simpa [List.filter_eq_nil_iff] using hany
    rw [hnone]
    rfl
  | true =>
    obtain ⟨part, hpart, hcomplete⟩ := List.any_eq_true.mp hany
    have hmem : resolved part ∈ (parts.filter isComplete).map resolved :=
      List.mem_map_of_mem (List.mem_filter.mpr ⟨hpart, hcomplete⟩)
    have hsome : ((parts.filter isComplete).map resolved).isEmpty = false :=
      List.isEmpty_eq_false_iff_exists_mem.mpr ⟨_, hmem⟩
    rw [hsome, if_neg Bool.false_ne_true]
    rfl

/-- What a payment costs in a period is what its parts that count for the period have sent. -/
theorem cost_of_ofParts {hash : Value} {payment : Payment} (h : ofParts hash parts = .ok payment)
    (htimes : ∀ part ∈ parts, isComplete part = true → 0 ≤ resolved part) :
    (if payment.status == .succeeded && period.contains payment.settleTime then
        payment.amount + payment.fee else 0) =
      ((parts.filter fun part => isComplete part && (latest parts).any period.contains).map
        (Value.msat · "amount_sent_msat")).sum := by
  obtain ⟨-, hgathers⟩ := gathers_of_ofParts h
  rw [hgathers.settled_eq htimes, hgathers.cost_eq]
  cases (latest parts).any period.contains with
  | true => simp
  | false => simp

/-! ## The cost of all payments -/

/-- What the parts of each payment that count for a period have sent adds up to what all parts that
count for it have. -/
theorem PutTogether.sum_sent {listed : List Value} {groups : Table GroupKey PartGroup}
    (h : PutTogether listed groups) (period : Period) :
    (groups.map fun entry => ((entry.2.parts.filter fun part =>
        isComplete part && (latest entry.2.parts).any period.contains).map
          (Value.msat · "amount_sent_msat")).sum).sum =
      spentIn period listed := by
  have hgroup : ∀ entry ∈ groups, (entry.2.parts.filter fun part =>
        isComplete part && (latest entry.2.parts).any period.contains) =
      entry.2.parts.filter (counts period listed) := by
    rintro ⟨key, group⟩ hentry
    have hparts : group.parts = partsOf listed (some key) := by
      rw [← h.parts_eq key, Table.get?_eq_some_of_mem h.nodup hentry]
      rfl
    refine List.filter_congr ?_
    intro part hpart
    rw [hparts] at hpart
    have hkey : groupOf part = some key := of_decide_eq_true (List.mem_filter.mp hpart).2
    unfold counts
    rw [hkey, hparts]
  have hsums : (groups.map fun entry => ((entry.2.parts.filter fun part =>
        isComplete part && (latest entry.2.parts).any period.contains).map
          (Value.msat · "amount_sent_msat")).sum) =
      groups.map fun entry => ((entry.2.parts.filter (counts period listed)).map
        (Value.msat · "amount_sent_msat")).sum := by
    refine List.map_congr_left ?_
    intro entry hentry
    rw [hgroup entry hentry]
  have hperm := (h.perm.filter (counts period listed)).map (Value.msat · "amount_sent_msat")
  unfold spentIn
  rw [hsums, ← hperm.sum_eq, List.filter_flatten, List.map_flatten, List.sum_flatten]
  simp only [List.map_map, Function.comp_def]

/-- The payments of an answer that were settled in a period cost what the parts that count for the
period have sent. -/
theorem sum_cost_of_readAll (period : Period) {result : Value} {payments : List Payment}
    (h : readAll result = .ok payments) :
    ∃ listed, Wallet.itemsOf result "payments" = .ok listed ∧
      ((∀ part ∈ listed, isComplete part = true → 0 ≤ resolved part) →
        (payments.map fun payment =>
          if payment.status == .succeeded && period.contains payment.settleTime then
            payment.amount + payment.fee else 0).sum = spentIn period listed) := by
  unfold readAll at h
  obtain ⟨listed, hlisted, h⟩ := bind_eq_ok_iff.mp h
  obtain ⟨groups, hgroups, h⟩ := bind_eq_ok_iff.mp h
  refine ⟨listed, hlisted, ?_⟩
  intro htimes
  have htogether := grouped_eq_ok hgroups
  rw [← htogether.sum_sent period]
  have hread := mapM_eq_ok_iff.mp h
  have hmem : ∀ entry ∈ groups, ∀ part ∈ entry.2.parts, part ∈ listed := by
    intro entry hentry part hpart
    have hflatten : part ∈ (groups.map fun entry => entry.2.parts).flatten :=
      List.mem_flatten.mpr ⟨_, List.mem_map_of_mem hentry, hpart⟩
    exact htogether.perm.mem_iff.mp hflatten
  refine (congrArg List.sum (map_eq_map_of_forall₂ hread ?_)).symm
  intro entry hentry payment hpayment
  refine (cost_of_ofParts hpayment ?_).symm
  intro part hpart
  exact htimes part (hmem entry hentry part hpart)

end Payment

end NodeLedger
