import NodeLedger.Proofs.Node.Inward
import NodeLedger.Proofs.Price.Outside
import NodeLedger.Proofs.Report.Times
import NodeLedger.Proofs.Service.Report

/-!
# Unconfirmed transactions

A transaction that is not confirmed yet may be given the present time.  But a report is only made of
a period that is over by now, and the stop of a period does not belong to it.  So the present time
never lies in the period, and unconfirmed transactions are left out whether they are given it or
not.

Main results:

- Theorem `Transaction.during_of_past`: a period that is over has no unconfirmed transactions.
- Theorem `NodeSource.report_unconfirmed`: the report of such a period does not depend on whether
  unconfirmed transactions are given the present time.
- Theorem `Service.report_ignores_unconfirmed`: nor does any answer to a call for a report, and none
  of its entries has the present time.
- Theorem `Service.report_waitingNode`: a call that leaves an unconfirmed transaction out.
-/

namespace NodeLedger

open NodeLedger.Action

variable {period : Period} {s : Session}

/-! ## Periods that are over -/

/-- In a period that is over there are no unconfirmed transactions, even if they are given the
present time. -/
theorem Transaction.during_of_past {now : Int} (hpast : period.stop ≤ now)
    (txs : List Transaction) : during period (some now) txs = during period none txs := by
  unfold during
  induction txs with
  | nil => rfl
  | cons tx rest ih =>
    by_cases hconfirmed : tx.confirmations = 0
    · have hout : period.contains now = false := by
        simp [Period.contains, hpast]
      have hnow : dated? (some now) tx = some { tx with timestamp := now } := by
        simp [dated?, hconfirmed]
      have hnone : dated? none tx = none := by
        simp [dated?, hconfirmed]
      rw [List.filterMap_cons_some hnow, List.filterMap_cons_none hnone, List.filter_cons]
      simp only [hout, Bool.false_eq_true, if_false]
      exact ih
    · have hsame : ∀ unconfirmedAt, dated? unconfirmedAt tx = some tx := by
        intro unconfirmedAt
        simp [dated?, hconfirmed]
      rw [List.filterMap_cons_some (hsame _), List.filterMap_cons_some (hsame _),
        List.filter_cons, List.filter_cons, ih]

/-- What is selected for a period that is over does not depend on whether unconfirmed transactions
are given the present time. -/
theorem OnChainSource.selection_unconfirmed {source : OnChainSource} (hsource : source.Inward)
    (hpast : period.stop ≤ s.now) :
    (source.selection true period).outcome s = (source.selection false period).outcome s := by
  unfold selection
  apply outcome_bind_congr
  intro txs s₁ htxs
  apply outcome_bind_congr
  intro swept s₂ hswept
  apply outcome_bind_congr
  intro keys s₃ hkeys
  have hs₁ := hsource.transactions.now_eq htxs
  have hs₂ := hsource.sweeps.now_eq hswept
  obtain ⟨-, rfl⟩ := ends_mapM_lift.mp hkeys
  apply outcome_bind_congr
  intro now s₄ hnow
  obtain ⟨rfl, rfl⟩ := ends_now.mp hnow
  have hsame : Transaction.during period (some s₄.now) txs = Transaction.during period none txs :=
    Transaction.during_of_past (by omega) txs
  apply outcome_bind_of_eq
  simp only [Transaction.select, hsame, if_true, Bool.false_eq_true, if_false]

/-- Neither does the report on chain. -/
theorem OnChainSource.report_unconfirmed {source : OnChainSource} (hsource : source.Inward)
    (hpast : period.stop ≤ s.now) (context : EntryContext) :
    (source.report true period context).outcome s =
      (source.report false period context).outcome s := by
  unfold report
  exact outcome_bind_of_eq (selection_unconfirmed hsource hpast)

/-- Nor the report of a node, as long as no time passes while the prices are looked up. -/
theorem NodeSource.report_unconfirmed {source : NodeSource} (hsource : source.onChain.Inward)
    {request : ReportRequest} {prices : Except Failure PriceSource}
    (hprices : ∀ source, prices = .ok source → source.Outside)
    (hpast : request.period.stop ≤ s.now) :
    (source.report { request with unconfirmedAsNow := true } prices).outcome s =
      (source.report { request with unconfirmedAsNow := false } prices).outcome s := by
  unfold report reportWithPrices
  apply outcome_bind_congr
  intro priceAt t hpriceAt
  have ht := Session.now_eq_of_inside ((request.keeps_priceLookup hprices).of_ends hpriceAt)
  apply outcome_bind_of_eq
  rw [← ht] at hpast
  exact OnChainSource.report_unconfirmed hsource hpast _

/-! ## Calls -/

/-- Whether unconfirmed transactions are to be given the present time matters to nothing else that
is read from the parameters of a report. -/
theorem ReportRequest.ofParams_unconfirmed [Text.CharacterNames] (settings : Settings)
    (params : ReportParams) (now : Int) (asNow : Bool) :
    ofParams { settings with unconfirmedAsNow := asNow } params now =
      (fun request => { request with unconfirmedAsNow := asNow }) <$>
        ofParams settings params now := by
  rw [ofParams_eq, ofParams_eq]
  simp only [map_bind, map_pure]
  rfl

namespace Service

/-- Neither does the answer to a request for a period that is over. -/
theorem makeReport_unconfirmed (settings : Settings) {request : ReportRequest}
    (hpast : request.period.stop ≤ s.now) :
    (makeReport { settings with unconfirmedAsNow := true }
        { request with unconfirmedAsNow := true }).outcome s =
      (makeReport { settings with unconfirmedAsNow := false }
        { request with unconfirmedAsNow := false }).outcome s := by
  unfold makeReport
  apply outcome_bind_congr
  intro _ t hforget
  apply outcome_bind_of_eq
  have hnow : t.now = s.now := by
    rw [ends_modify.mp hforget]
  have hprices : ∀ source, priceSource settings request.priceConfig = .ok source →
      source.Outside := fun source => PriceSource.outside_of_make
  rw [← hnow] at hpast
  have honChain : Node.source.onChain.Inward := Node.inward_onChain
  have hsame := NodeSource.report_unconfirmed honChain hprices hpast
  rw [outcome_attempt, outcome_attempt]
  exact congrArg (fun result => (Except.ok result.1, result.2)) hsame

/-- The answer to a call for a report does not depend on whether unconfirmed transactions are to be
given the present time: it comes to the same in the same session.  Whatever a report holds has
happened before now. -/
theorem report_ignores_unconfirmed [Text.CharacterNames] (settings : Settings) (args : Value)
    (s : Session) :
    (report (some { settings with unconfirmedAsNow := true }) args).outcome s =
      (report (some { settings with unconfirmedAsNow := false }) args).outcome s ∧
    ∀ answer t, Ends (report (some { settings with unconfirmedAsNow := true }) args) s answer t →
      (∃ reason, answer = refusal reason) ∨
      ∃ request entries, answer = reportAnswer request entries ∧
        ∀ entry ∈ entries, entry.timestamp < s.now := by
  constructor
  · unfold report
    apply outcome_bind_congr
    intro _ s₁ hargs
    apply outcome_bind_congr
    intro params s₂ hparams
    apply outcome_bind_congr
    intro now s₃ hnow
    obtain ⟨-, rfl⟩ := ends_lift.mp hargs
    obtain ⟨-, rfl⟩ := ends_lift.mp hparams
    obtain ⟨rfl, rfl⟩ := ends_now.mp hnow
    rw [ReportRequest.ofParams_unconfirmed settings params s₃.now true,
      ReportRequest.ofParams_unconfirmed settings params s₃.now false]
    cases hrequest : ReportRequest.ofParams settings params s₃.now with
    | error failure => rfl
    | ok request =>
      obtain ⟨-, -, hpast, -⟩ := ReportRequest.ofParams_eq_ok_iff.mp hrequest
      exact makeReport_unconfirmed settings hpast
  · intro answer t h
    by_cases hrefused : ∃ reason, answer = refusal reason
    · exact .inl hrefused
    · have hanswer : ∀ reason, answer ≠ refusal reason := by
        intro reason hreason
        exact hrefused ⟨reason, hreason⟩
      obtain ⟨-, params, request, -, hrequest, entries, hreport, rfl⟩ :=
        (ends_report_iff hanswer).mp h
      obtain ⟨-, -, hpast, -⟩ := ReportRequest.ofParams_eq_ok_iff.mp hrequest
      obtain ⟨priceAt, u, -, hreport⟩ := ends_bind.mp hreport
      refine .inr ⟨request, entries, rfl, ?_⟩
      intro entry hentry
      have hcontains := Node.contains_of_ends hreport entry hentry
      obtain ⟨-, hbefore⟩ := (Period.contains_iff _ _).mp hcontains
      omega

end Service

/-! ## A node with an unconfirmed transaction -/

/-- A node whose wallet waits for the confirmation of a transaction that it receives. -/
def waitingNode (method : String) (_payload : Value) : Except Value Value :=
  match method with
  | "bkpr-listaccountevents" => .ok (.object [("events", .list [
      .object [("account", .text "wallet"), ("type", .text "chain"),
        ("credit_msat", .int 5000000), ("debit_msat", .int 0), ("timestamp", .int 900),
        ("outpoint", .text "waiting:0")]])])
  | "getinfo" => .ok (.object [("id", .text "own")])
  | _ => .ok (.object [])

/-- The session of a call at a time at which the transaction is not confirmed yet. -/
def waitingSession : Session where
  now := 1000
  node := waitingNode

/-- The transaction is listed as unconfirmed, and although unconfirmed transactions are to be given
the present time, the report of the time up to now has no entries. -/
theorem Service.report_waitingNode :
    (∃ listed t, Ends Node.onChain.transactions waitingSession listed t ∧
      listed.map (fun tx => (tx.txid.display, tx.amount, tx.confirmations)) =
        [("waiting", 5000, 0)]) ∧
    ∃ t, Ends (Service.report (some { unconfirmedAsNow := true, disableFiat := true })
        (.object [("start_time", .int 0)])) waitingSession
      (Service.reportAnswer { period := ⟨0, 1000⟩ } []) t := by
  constructor
  · refine (exists_ends_of_outcome ?_).imp fun listed h => ⟨_, h.1, h.2⟩
    decide +kernel
  · refine ⟨_, ends_of_outcome ?_⟩
    unfold Service.report Service.makeReport NodeSource.report NodeSource.reportWithPrices
    rw [Entry.sort_eq_foldr]
    rfl

end NodeLedger
