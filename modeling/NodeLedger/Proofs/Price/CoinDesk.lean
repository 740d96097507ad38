import NodeLedger.Price.CoinDesk
import NodeLedger.Proofs.Calendar.Text
import NodeLedger.Proofs.Price.Requests

/-!
# Days of CoinDesk

Prices are asked for by the days on which a period begins and ends, and are told by days.  A day is
written in a request as it is read in an answer, so that a price has the time at which its day
begins.  The first day that is asked for is the one before the period.

Main results:

- Theorem `CoinDesk.asks_prices`: which days are asked for.
- Theorem `CoinDesk.days_agree`: the days that are sent and the days that are read.
-/

namespace NodeLedger
namespace CoinDesk

open List NodeLedger.Action NodeLedger.Calendar

variable {settings : QuerySettings} {period : Period} {s : Session}

/-- A request asks for the days from one to another. -/
def AsksFrom (first : String) (request : HttpRequest) : Prop :=
  request.url = historyUrl ∧
    ∃ last, request.params = .object [("start", .text first), ("end", .text last)]

/-- The days that are asked for begin with the one before the period. -/
theorem asks_prices (settings : QuerySettings) (period : Period) :
    Asks (AsksFrom (dateAt (period.start - day)).text) settings.retry.maxAttempts.toNat
      (prices settings period) := by
  refine settings.retry.asks_run ?_ readPrices
  refine asks_bind_of_keeps (keeps_lift _) fun first _ _ hfirst => ?_
  refine asks_bind_of_keeps (keeps_lift _) fun last _ _ _ => ?_
  have htext : dayText (period.start - day) = .ok first := (ends_lift.mp hfirst).1
  refine QuerySettings.asks_fetch fun _ _ => ⟨rfl, last, ?_⟩
  rw [text_of_dayText htext]

/-- A price has the time at which its day begins. -/
theorem readPrice_of_readDate {text : String} {v : Value} {timestamp : Int} {perBitcoin : Decimal}
    (htime : readDate text = .ok timestamp) (hprice : v.toDecimal = .ok perBitcoin) :
    readPrice (text, v) = .ok { timestamp, perBitcoin } := by
  unfold readPrice
  rw [htime, hprice]
  rfl

/-- The days that are sent and the days that are read agree.

The text of a time in a year of four digits is read as the beginning of the day, by itself and as the
day of a price.  Two such times have one text just if they lie on one day.

The requests for the prices of a period all ask for the days from the one before the period on, which
begins a day before the period or earlier.  If it lies in a year of four digits, its text is read as
its beginning. -/
theorem days_agree :
    (∀ timestamp, InPlainYears timestamp → ∃ text, dayText timestamp = .ok text ∧
      readDate text = .ok (timestamp - timestamp % 86400) ∧
      ∀ v perBitcoin, v.toDecimal = .ok perBitcoin →
        readPrice (text, v) = .ok { timestamp := timestamp - timestamp % 86400, perBitcoin }) ∧
    (∀ timestamp other, InPlainYears timestamp → InPlainYears other →
      (dayText timestamp = dayText other ↔ timestamp / 86400 = other / 86400)) ∧
    ∀ (settings : QuerySettings) (period : Period) (s : Session),
      let earlier := period.start - 86400
      let first := dateAt earlier
      let begins := (first.toDays - epoch) * 86400
      (∃ sent, ((prices settings period).outcome s).2.requests = s.requests ++ sent ∧
        (∀ request ∈ sent, AsksFrom first.text request) ∧
        ∀ found, ((prices settings period).outcome s).1 = .ok found → sent ≠ []) ∧
      begins ≤ earlier ∧ earlier < begins + 86400 ∧
      (InPlainYears earlier → readDate first.text = .ok begins) := by
  refine ⟨fun timestamp h => ?_, fun timestamp other h hother => ?_, fun settings period s => ?_⟩
  · have hread := h.readDate_dayText
    exact ⟨(dateAt timestamp).text, h.dayText_eq, hread, fun v _ => readPrice_of_readDate hread⟩
  · rw [h.dayText_eq, hother.dayText_eq, Except.ok.injEq]
    exact h.text_eq_iff hother
  · intro earlier first begins
    have hbegins : begins = earlier - earlier % 86400 := by
      have hdays : first.toDays = earlier / 86400 + epoch := toDays_dateAt earlier
      simp only [begins, hdays]
      omega
    obtain ⟨sent, hsent, -, hasks, hanswered⟩ := asks_prices settings period s
    refine ⟨⟨sent, hsent, hasks, hanswered⟩, by omega, by omega, fun h => ?_⟩
    rw [hbegins]
    exact h.readDate_dayText

/-- A service that has the closing price of the 28th of April 2020. -/
def aprilSession : Session where
  replies := { listed := [
    { body := .ok "\x7b\"bpi\": \x7b\"2020-04-28\": 7754.5\x7d\x7d" }] }

/-- The price of that day is asked for, and has the time at which the day begins. -/
theorem days_agree_aprilSession :
    let period : Period := ⟨1588118400, 1588204800⟩
    InPlainYears 1588118399 ∧ InPlainYears 1588032000 ∧
    dayText 1588118399 = .ok "2020-04-28" ∧ readDate "2020-04-28" = .ok 1588032000 ∧
    dayText 1588032000 = dayText 1588118399 ∧
    ∃ found t sent, Ends (prices {} period) aprilSession found t ∧
      found.map (·.timestamp) = [1588032000] ∧ t.requests = sent ∧ sent ≠ [] ∧
      ∀ request ∈ sent, AsksFrom "2020-04-28" request := by
  intro period
  obtain ⟨hread, hsame, hasks⟩ := days_agree
  have hlast : InPlainYears 1588118399 := inPlainYears_iff.mpr (by decide)
  have hfirst : InPlainYears 1588032000 := inPlainYears_iff.mpr (by decide)
  obtain ⟨text, htext, hbegin, -⟩ := hread 1588118399 hlast
  have happril : dayText 1588118399 = .ok "2020-04-28" := by
    have hdate : (dateAt 1588118399).text = "2020-04-28" := by decide +kernel
    rw [hlast.dayText_eq, hdate]
  cases happril.symm.trans htext
  obtain ⟨found, hends, htimes⟩ : ∃ found, Ends (prices {} period) aprilSession found _ ∧
      found.map (·.timestamp) = [1588032000] := by
    apply exists_ends_of_outcome
    decide +kernel
  obtain ⟨⟨sent, hsent, hfrom, hanswered⟩, -⟩ := hasks {} period aprilSession
  have hdate : (dateAt (period.start - 86400)).text = "2020-04-28" := by decide +kernel
  rw [hdate] at hfrom
  exact ⟨hlast, hfirst, happril, hbegin, (hsame 1588032000 1588118399 hfirst hlast).mpr rfl, found, _,
    sent, hends, htimes, hsent, hanswered found (congrArg Prod.fst hends), hfrom⟩

end CoinDesk
end NodeLedger
