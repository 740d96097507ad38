import NodeLedger.Proofs.Price.Outside
import NodeLedger.Proofs.Price.Series
import NodeLedger.Proofs.Report.Unpriced
import NodeLedger.Proofs.Service.Report
import NodeLedger.Proofs.Table

/-!
# Calls for a report without prices

A call that is answered with a report is answered with one as well if its caller does not want
values: the same entries, all of them worth nothing, and no price service is asked.

Main results:

- Theorem `Service.checkArguments_eq_ok_iff` says which arguments a call may have.
- Theorem `Service.exists_unpriced_report`: the same call without values.
- Theorem `Service.report_ignores_prices`: prices never matter to what is reported.
-/

namespace NodeLedger

open List NodeLedger.Action

/-! ## Arguments -/

namespace Service

/-- A call has all the arguments that are required, and no others but those that may be. -/
theorem checkArguments_eq_ok_iff {required optional : List String} {fields : Table String Value}
    {u : Unit} :
    checkArguments required optional (.object fields) = .ok u ↔
      (∀ name ∈ required, name ∈ fields.keys) ∧
        ∀ name ∈ fields.keys, name ∈ required ++ optional := by
  have hmissing : ∀ name, (fields.all fun field => field.1 != name) = true ↔
      name ∉ fields.keys := by
    intro name
    simp only [List.all_eq_true, bne_iff_ne, Table.keys, List.mem_map, not_exists, not_and]
  unfold checkArguments
  dsimp only
  cases hfound : required.find? fun name => fields.all fun field => field.1 != name with
  | some name =>
    have hpicked :=
      List.find?_some (p := fun name => fields.all fun field => field.1 != name) hfound
    have hnot : name ∉ fields.keys := (hmissing name).mp hpicked
    have hrequired : name ∈ required := List.mem_of_find?_eq_some hfound
    simp only [reduceCtorEq, false_iff, not_and]
    intro hall
    exact absurd (hall name hrequired) hnot
  | none =>
    have hall : ∀ name ∈ required, name ∈ fields.keys := by
      intro name hname
      have hnone := List.find?_eq_none.mp hfound name hname
      rw [hmissing, not_not] at hnone
      exact hnone
    cases hunknown : fields.find? fun field => decide (field.1 ∉ required ++ optional) with
    | some field =>
      have hnot := List.find?_some hunknown
      have hfield : field.1 ∈ fields.keys :=
        List.mem_map_of_mem (List.mem_of_find?_eq_some hunknown)
      simp only [reduceCtorEq, false_iff, not_and]
      intro _ hknown
      exact absurd (hknown field.1 hfield) (of_decide_eq_true hnot)
    | none =>
      simp only [true_iff]
      refine ⟨hall, ?_⟩
      intro name hname
      obtain ⟨field, hfield, rfl⟩ := List.mem_map.mp hname
      have hnone := List.find?_eq_none.mp hunknown field hfield
      rw [decide_eq_true_eq, not_not] at hnone
      exact hnone

variable {settings : Settings} {fields : Table String Value} {s t : Session} {answer : Value}

/-- The same arguments, but that the caller wants no values. -/
def withoutFiat (fields : Table String Value) : Value :=
  .object (fields.insert "disable_fiat" (.bool true))

/-- A call may be made without values if it may be made at all. -/
theorem checkArguments_withoutFiat
    (h : checkArguments requiredArguments optionalArguments (.object fields) = .ok ()) :
    checkArguments requiredArguments optionalArguments (withoutFiat fields) = .ok () := by
  obtain ⟨hrequired, hknown⟩ := checkArguments_eq_ok_iff.mp h
  refine checkArguments_eq_ok_iff.mpr ⟨?_, ?_⟩
  · intro name hname
    exact Table.mem_keys_alter.mpr (.inl (hrequired name hname))
  · intro name hname
    rcases Table.mem_keys_alter.mp hname with hname | rfl
    · exact hknown name hname
    · decide

/-- The parameters of the call without values differ in nothing else. -/
theorem reportParams_withoutFiat {params : ReportParams}
    (h : reportParams (.object fields) = .ok params) :
    reportParams (withoutFiat fields) = .ok { params with disableFiat := .bool true } := by
  rw [reportParams_object] at h
  cases h
  unfold withoutFiat
  rw [reportParams_object]
  simp [Table.get?_insert]

/-- The request of the call without values asks for no prices. -/
theorem ofParams_withoutFiat [Text.CharacterNames] {params : ReportParams} {now : Int}
    {request : ReportRequest}
    (h : ReportRequest.ofParams settings params now = .ok request) :
    ReportRequest.ofParams settings { params with disableFiat := .bool true } now =
      .ok { request with disableFiat := true, priceConfig := none } := by
  obtain ⟨hperiod, hlt, hpast, -, hcategories, -, hunconfirmed⟩ :=
    ReportRequest.ofParams_eq_ok_iff.mp h
  exact ReportRequest.ofParams_eq_ok_iff.mpr
    ⟨hperiod, hlt, hpast, rfl, hcategories, rfl, hunconfirmed⟩

/-- A call that is answered with a report is also answered with one if its caller wants no values,
as long as the time and the node are the same.  No price service is asked, the entries agree with
those of the first report in all but price and value, and the values are zero. -/
theorem exists_unpriced_report [Text.CharacterNames] {s' : Session} (hnow : s'.now = s.now)
    (hnode : s'.node = s.node)
    (h : Ends (report (some settings) (.object fields)) s answer t)
    (hanswer : ∀ reason, answer ≠ refusal reason) :
    ∃ request entries bare u, answer = reportAnswer request entries ∧
      Ends (report (some settings) (withoutFiat fields)) s' (reportAnswer request bare) u ∧
      u.requests = s'.requests ∧ Forall₂ Entry.AgreesWith entries bare ∧
      ∀ entry ∈ bare, entry.fiatValue.isZero = true := by
  obtain ⟨hargs, params, request, hparams, hrequest, entries, hreport, rfl⟩ :=
    (ends_report_iff hanswer).mp h
  obtain ⟨priceAt, s₁, hprices, hreport⟩ := ends_bind.mp hreport
  have houtsider : ∀ source, priceSource settings request.priceConfig = .ok source →
      source.Outside := fun source => PriceSource.outside_of_make
  have hinside := (request.keeps_priceLookup houtsider).of_ends hprices
  have hsame : s₁.inside = { s' with cache := {} }.inside := by
    rw [hinside]
    simp only [Session.inside, hnow, hnode]
  have hsimulates := (Node.alikeIn_inside { s' with cache := {} }.outside).simulates_report request
    priceAt none
  obtain ⟨bare, u, hbare, hunpriced, houtside⟩ :=
    hsimulates s₁ { s' with cache := {} } entries t ⟨hsame, rfl⟩ hreport
  have hbareAnswer : ∀ reason, reportAnswer request bare ≠ refusal reason :=
    reportAnswer_ne_refusal request bare
  refine ⟨request, entries, bare, u, rfl, (ends_report_iff hbareAnswer).mpr ?_, ?_, ?_, ?_⟩
  · rw [← hnow] at hrequest
    refine ⟨checkArguments_withoutFiat hargs, _, _, reportParams_withoutFiat hparams,
      ofParams_withoutFiat hrequest, bare, ?_, rfl⟩
    exact ends_bind.mpr ⟨_, _, ends_pure.mpr ⟨rfl, rfl⟩, hbare⟩
  · exact Session.requests_eq_of_outside houtside.2
  · exact hunpriced.imp fun _ _ h => h.agrees
  · intro entry hentry
    obtain ⟨_, -, hzero⟩ := exists_of_mem_right hunpriced hentry
    exact hzero.isZero

/-- Prices never matter to what is reported.  Two reports of a node that begin in the same session
and differ only in their prices agree entry by entry.  And a call that is answered with a report is
answered with one, at the same time and by the same node, if its caller wants no values: without
asking a price service, and with entries that agree with the first ones and are worth nothing. -/
theorem report_ignores_prices [Text.CharacterNames] :
    (∀ (source : NodeSource) (request : ReportRequest)
        (priceAt priceAt' : Int → Except Failure Price) (s t t' : Session)
        (entries entries' : List Entry),
      Ends (source.reportWithPrices request priceAt) s entries t →
      Ends (source.reportWithPrices request priceAt') s entries' t' →
      Forall₂ Entry.AgreesWith entries entries') ∧
    ∀ (settings : Settings) (fields : Table String Value) (s t s' : Session) (answer : Value),
      Ends (report (some settings) (.object fields)) s answer t →
      (∀ reason, answer ≠ refusal reason) → s'.now = s.now → s'.node = s.node →
      ∃ request entries bare u, answer = reportAnswer request entries ∧
        Ends (report (some settings) (withoutFiat fields)) s' (reportAnswer request bare) u ∧
        u.requests = s'.requests ∧ Forall₂ Entry.AgreesWith entries bare ∧
        ∀ entry ∈ bare, entry.fiatValue.isZero = true := by
  constructor
  · intro source request priceAt priceAt' s t t' entries entries' h h'
    exact NodeSource.agreesWith_of_ends h h'
  · intro settings fields s t s' answer h hanswer hnow hnode
    exact exists_unpriced_report hnow hnode h hanswer

end Service

/-! ## A call with prices -/

/-- A node whose wallet has received a deposit. -/
def depositNode (method : String) (_payload : Value) : Except Value Value :=
  match method with
  | "bkpr-listaccountevents" => .ok (.object [("events", .list [
      .object [("account", .text "wallet"), ("type", .text "chain"),
        ("credit_msat", .int 5000000), ("debit_msat", .int 0), ("timestamp", .int 900),
        ("blockheight", .int 7), ("outpoint", .text "deposit:0")]])])
  | "getinfo" => .ok (.object [("id", .text "own")])
  | _ => .ok (.object [])

/-- The arguments of a call with a price of its own. -/
def pricedCall : Table String Value :=
  [("start_time", .int 0), ("end_time", .int 1000), ("fiat_backend", .text "custom"),
    ("custom_prices", .list [.object [("timestamp", .int (-1)), ("price", .text "40000")]])]

/-- The call is answered with a report of the deposit, and without values with the same report. -/
theorem Service.report_ignores_prices_depositNode :
    let s : Session := { now := 2000, node := depositNode }
    ∃ answer t, Ends (report (some {}) (.object pricedCall)) s answer t ∧
      (answer.field "count").toOption.map Value.display = some "1" ∧
      ∃ request entries bare u, answer = reportAnswer request entries ∧
        Ends (report (some {}) (withoutFiat pricedCall)) s (reportAnswer request bare) u ∧
        u.requests = s.requests ∧ Forall₂ Entry.AgreesWith entries bare ∧
        ∀ entry ∈ bare, entry.fiatValue.isZero = true := by
  intro s
  refine (exists_ends_of_outcome ?_).imp fun answer h => ⟨_, h.1, h.2, ?_⟩
  · unfold Service.report Service.makeReport NodeSource.report NodeSource.reportWithPrices
      ReportRequest.priceLookup PriceSource.prices
    rw [Entry.sort_eq_foldr, Price.sort_eq_foldr]
    decide +kernel
  · have hanswer : ∀ reason, answer ≠ refusal reason := by
      rintro reason rfl
      have hnone : ((refusal reason).field "count").toOption.map Value.display = some "None" := rfl
      have hcount := h.2
      rw [hnone] at hcount
      revert hcount
      decide
    exact Service.report_ignores_prices.2 {} pricedCall s _ s answer h.1 hanswer rfl rfl

end NodeLedger
