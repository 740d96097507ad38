import NodeLedger.Price.Source
import NodeLedger.Proofs.Order.StableSort
import NodeLedger.Proofs.Session.Outcome

/-!
# Series of prices

A backend quotes prices in any order.  They are put in the order of their times and converted one by
one, which changes no time; so a series is in order, and the search for the price at a time, which
stops at the first price behind it, misses none.

Main results:

- Theorem `PriceSource.ends_convert`: a series is converted price by price, all at one rate, which
  is asked for if some price is not in the currency.
- Theorem `PriceSource.ends_prices`: a series is what the prices quoted become in order.
- Theorem `Price.lookup_eq_ok`: the price at a time is the last of those not behind it, and theorem
  `Price.latest_of_lookup`: none of those is later.
- Theorem `Price.exists_last_quote`: of the prices quoted for one time, the one quoted last is
  found.
-/

namespace NodeLedger

open List NodeLedger.Action NodeLedger.Text

/-! ## Conversion -/

namespace Price

/-- What a quoted price becomes in a currency at a rate: itself if it is in the currency, and else
its conversion from dollars. -/
def Converts (currency : String) (rate : Decimal) (quote price : Price) : Prop :=
  if PriceSource.isIn currency quote then price = quote
  else upper quote.currency = dollar ∧ PriceSource.convertAt currency rate quote = .ok price

variable {currency : String} {rate : Decimal} {quote price : Price}

/-- A conversion gives a price of the same time in the currency. -/
theorem convertAt_eq_ok (h : PriceSource.convertAt currency rate quote = .ok price) :
    price.timestamp = quote.timestamp ∧ price.currency = currency := by
  unfold PriceSource.convertAt at h
  split at h
  · cases h
    exact ⟨rfl, rfl⟩
  · cases h

/-- The time of a price does not change. -/
theorem Converts.timestamp_eq (h : quote.Converts currency rate price) :
    price.timestamp = quote.timestamp := by
  unfold Converts at h
  split at h
  · rw [h]
  · exact (convertAt_eq_ok h.2).1

/-- A price is in the currency, perhaps in other letters. -/
theorem Converts.currency_eq (h : quote.Converts currency rate price) :
    price.currency = currency ∨ upper price.currency = currency := by
  unfold Converts at h
  split at h
  · next hin =>
    rw [h]
    exact .inr (eq_of_beq hin)
  · exact .inl (convertAt_eq_ok h.2).2

end Price

namespace PriceSource

variable {source : PriceSource} {currency : String} {s t : Session}

section Steps

variable {quote : Price} {rest series : List Price}

/-- A price that is in the currency is passed over, whether or not the rate is known. -/
theorem ends_convert_cons_of_isIn {rate : Option Decimal} (hin : isIn currency quote = true) :
    Ends (source.convert currency rate (quote :: rest)) s series t ↔
      ∃ converted, Ends (source.convert currency rate rest) s converted t ∧
        series = quote :: converted := by
  rw [convert, if_pos hin]
  exact ends_bind_pure

/-- Another one has to be in dollars, and is converted at the rate that is known. -/
theorem ends_convert_cons_known {rate : Decimal} (hin : ¬ isIn currency quote = true) :
    Ends (source.convert currency (some rate) (quote :: rest)) s series t ↔
      upper quote.currency = dollar ∧ ∃ price, convertAt currency rate quote = .ok price ∧
        ∃ converted, Ends (source.convert currency (some rate) rest) s converted t ∧
          series = price :: converted := by
  rw [convert, if_neg hin]
  by_cases hdollar : upper quote.currency = dollar
  · rw [if_neg (not_not.mpr hdollar)]
    show Ends (convertAt currency rate quote >>= fun price =>
      source.convert currency (some rate) rest >>= fun converted =>
        pure (price :: converted)) s series t ↔ _
    simp only [ends_lift_bind, ends_bind_pure, hdollar, true_and]
  · rw [if_pos hdollar]
    simp [hdollar]

/-- If the rate is not known, it is asked for first. -/
theorem ends_convert_cons_unknown (hin : ¬ isIn currency quote = true) :
    Ends (source.convert currency none (quote :: rest)) s series t ↔
      upper quote.currency = dollar ∧ ∃ rate u, Ends (source.exchangeRate currency) s rate u ∧
        Ends (source.convert currency (some rate) (quote :: rest)) u series t := by
  simp only [ends_convert_cons_known hin]
  rw [convert, if_neg hin]
  by_cases hdollar : upper quote.currency = dollar
  · rw [if_neg (not_not.mpr hdollar)]
    show Ends (source.exchangeRate currency >>= fun rate =>
      convertAt currency rate quote >>= fun price =>
        source.convert currency (some rate) rest >>= fun converted =>
          pure (price :: converted)) s series t ↔ _
    rw [ends_bind]
    simp only [ends_lift_bind, ends_bind_pure, hdollar, true_and]
  · rw [if_pos hdollar]
    simp [hdollar]

end Steps

/-- Prices are converted one by one at a rate that is known, without anything being asked. -/
theorem ends_convert_known {rate : Decimal} {quoted series : List Price} :
    Ends (source.convert currency (some rate) quoted) s series t ↔
      Forall₂ (Price.Converts currency rate) quoted series ∧ t = s := by
  induction quoted generalizing series with
  | nil => rw [convert, ends_pure, forall₂_nil_left_iff]
  | cons quote rest ih =>
    rw [forall₂_cons_left_iff]
    by_cases hin : isIn currency quote = true
    · rw [ends_convert_cons_of_isIn hin]
      simp only [ih, Price.Converts, if_pos hin]
      constructor
      · rintro ⟨converted, ⟨hconverted, ht⟩, hseries⟩
        exact ⟨⟨quote, converted, rfl, hconverted, hseries⟩, ht⟩
      · rintro ⟨⟨_, converted, rfl, hconverted, hseries⟩, ht⟩
        exact ⟨converted, ⟨hconverted, ht⟩, hseries⟩
    · rw [ends_convert_cons_known hin]
      simp only [ih, Price.Converts, if_neg hin]
      constructor
      · rintro ⟨hdollar, price, hprice, converted, ⟨hconverted, ht⟩, hseries⟩
        exact ⟨⟨price, converted, ⟨hdollar, hprice⟩, hconverted, hseries⟩, ht⟩
      · rintro ⟨⟨price, converted, ⟨hdollar, hprice⟩, hconverted, hseries⟩, ht⟩
        exact ⟨hdollar, price, hprice, converted, ⟨hconverted, ht⟩, hseries⟩

/-- The rate is asked for at the first price that is not in the currency, and not at all if there is
none. -/
theorem ends_convert {quoted series : List Price} :
    Ends (source.convert currency none quoted) s series t ↔
      ((∀ quote ∈ quoted, isIn currency quote = true) ∧ series = quoted ∧ t = s) ∨
      ((∃ quote ∈ quoted, ¬ isIn currency quote = true) ∧
        ∃ rate, Ends (source.exchangeRate currency) s rate t ∧
          Forall₂ (Price.Converts currency rate) quoted series) := by
  induction quoted generalizing series with
  | nil =>
    rw [convert, ends_pure]
    simp
  | cons quote rest ih =>
    by_cases hin : isIn currency quote = true
    · have hrest : ∀ rate, Forall₂ (Price.Converts currency rate) (quote :: rest) series ↔
          ∃ converted, Forall₂ (Price.Converts currency rate) rest converted ∧
            series = quote :: converted := by
        intro rate
        simp only [forall₂_cons_left_iff, Price.Converts, if_pos hin]
        constructor
        · rintro ⟨_, converted, rfl, hconverted, hseries⟩
          exact ⟨converted, hconverted, hseries⟩
        · rintro ⟨converted, hconverted, hseries⟩
          exact ⟨quote, converted, rfl, hconverted, hseries⟩
      rw [ends_convert_cons_of_isIn hin, List.forall_mem_cons, List.exists_mem_cons_iff]
      simp only [ih, hrest, hin, true_and, not_true_eq_false, false_or]
      constructor
      · rintro ⟨converted, ⟨hall, rfl, ht⟩ | ⟨hsome, rate, hrate, hconverted⟩, hseries⟩
        · exact .inl ⟨hall, hseries, ht⟩
        · exact .inr ⟨hsome, rate, hrate, converted, hconverted, hseries⟩
      · rintro (⟨hall, hseries, ht⟩ | ⟨hsome, rate, hrate, converted, hconverted, hseries⟩)
        · exact ⟨rest, .inl ⟨hall, rfl, ht⟩, hseries⟩
        · exact ⟨converted, .inr ⟨hsome, rate, hrate, hconverted⟩, hseries⟩
    · rw [ends_convert_cons_unknown hin]
      constructor
      · rintro ⟨-, rate, u, hrate, hends⟩
        obtain ⟨hconverted, rfl⟩ := ends_convert_known.mp hends
        exact .inr ⟨⟨quote, List.mem_cons_self, hin⟩, rate, hrate, hconverted⟩
      · rintro (⟨hall, -, -⟩ | ⟨-, rate, hrate, hconverted⟩)
        · exact absurd (hall quote List.mem_cons_self) hin
        · have hdollar : upper quote.currency = dollar := by
            obtain ⟨price, _, hprice, -, -⟩ := forall₂_cons_left_iff.mp hconverted
            rw [Price.Converts, if_neg hin] at hprice
            exact hprice.1
          exact ⟨hdollar, rate, t, hrate, ends_convert_known.mpr ⟨hconverted, rfl⟩⟩

/-- So all prices are converted at one rate. -/
theorem exists_rate_of_ends_convert {quoted series : List Price}
    (h : Ends (source.convert currency none quoted) s series t) :
    ∃ rate, Forall₂ (Price.Converts currency rate) quoted series := by
  rcases ends_convert.mp h with ⟨hall, rfl, -⟩ | ⟨-, rate, -, hconverted⟩
  · refine ⟨Decimal.ofInt 0, List.forall₂_same.mpr fun quote hquote => ?_⟩
    rw [Price.Converts, if_pos (hall quote hquote)]
  · exact ⟨rate, hconverted⟩

/-- The prices of a period are what the prices quoted for it are converted to. -/
theorem exists_ends_convert {period : Period} {series : List Price}
    (h : Ends (source.prices period) s series t) :
    ∃ quoted s₁, period.check { past := true } s.now = .ok () ∧
      Ends (source.quotes period) s quoted s₁ ∧
      Ends (source.convert (upper source.config.currency) none (Price.sort quoted)) s₁ series
        t := by
  unfold prices at h
  simp only [ends_bind, ends_now, ends_lift] at h
  obtain ⟨_, _, ⟨rfl, rfl⟩, _, _, ⟨hcheck, rfl⟩, quoted, s₁, hquoted, hconvert⟩ := h
  exact ⟨quoted, s₁, hcheck, hquoted, hconvert⟩

/-- The prices of a period are what the prices quoted for it become in the order of their times. -/
theorem ends_prices {period : Period} {series : List Price}
    (h : Ends (source.prices period) s series t) :
    ∃ quoted s₁ rate, period.check { past := true } s.now = .ok () ∧
      Ends (source.quotes period) s quoted s₁ ∧
      Forall₂ (Price.Converts (upper source.config.currency) rate) (Price.sort quoted) series := by
  obtain ⟨quoted, s₁, hcheck, hquoted, hconvert⟩ := exists_ends_convert h
  obtain ⟨rate, hconverted⟩ := exists_rate_of_ends_convert hconvert
  exact ⟨quoted, s₁, rate, hcheck, hquoted, hconverted⟩

end PriceSource

/-! ## The price at a time -/

namespace Price

variable {currency : String} {rate : Decimal} {quoted series : List Price} {price : Price}
  {time : Int}

/-- Prices are sorted by putting them in order one by one. -/
theorem sort_eq_foldr :
    Price.sort = fun quoted => quoted.foldr (Order.insertInOrder Price.timestamp) [] := by
  funext quoted
  exact Order.mergeSort_eq_foldr Price.timestamp quoted

/-- Conversion does not change the times. -/
theorem map_timestamp_eq (h : Forall₂ (Converts currency rate) quoted series) :
    series.map (·.timestamp) = quoted.map (·.timestamp) := by
  induction h with
  | nil => rfl
  | cons hconverts _ ih => rw [List.map_cons, List.map_cons, hconverts.timestamp_eq, ih]

/-- A series is in the order of times. -/
theorem pairwise_of_converts (h : Forall₂ (Converts currency rate) (Price.sort quoted) series) :
    series.Pairwise fun p q => p.timestamp ≤ q.timestamp := by
  have hsorted : (Price.sort quoted).Pairwise fun p q => p.timestamp ≤ q.timestamp :=
    Order.pairwise_mergeSort Price.timestamp quoted
  have htimes : ((Price.sort quoted).map (·.timestamp)).Pairwise (· ≤ ·) :=
    List.pairwise_map.mpr hsorted
  rw [← map_timestamp_eq h] at htimes
  exact List.pairwise_map.mp htimes

/-- The price at a time is the last of those of the series that are not behind it. -/
theorem lookup_eq_ok (hsorted : series.Pairwise fun p q => p.timestamp ≤ q.timestamp)
    (h : lookup series time = .ok price) :
    (series.filter fun p => decide (p.timestamp ≤ time)).getLast? = some price := by
  unfold lookup lastBy at h
  rw [Order.takeWhile_eq_filter Price.timestamp time hsorted] at h
  split at h
  · cases h
  · split at h
    · next hlast =>
      cases h
      exact hlast
    · cases h

/-- The price at a time is one of the series, it is not behind the time, and no other price that is
not behind it is later. -/
theorem latest_of_lookup (hsorted : series.Pairwise fun p q => p.timestamp ≤ q.timestamp)
    (h : lookup series time = .ok price) :
    price ∈ series ∧ price.timestamp ≤ time ∧
      ∀ p ∈ series, p.timestamp ≤ time → p.timestamp ≤ price.timestamp := by
  obtain ⟨init, hinit⟩ := List.getLast?_eq_some_iff.mp (lookup_eq_ok hsorted h)
  have hkept : price ∈ series.filter fun p => decide (p.timestamp ≤ time) := by
    rw [hinit]
    exact List.mem_append_right init List.mem_cons_self
  obtain ⟨hmem, hle⟩ := List.mem_filter.mp hkept
  refine ⟨hmem, of_decide_eq_true hle, ?_⟩
  intro p hp htime
  have hp' : p ∈ init ++ [price] := by
    rw [← hinit]
    exact List.mem_filter.mpr ⟨hp, decide_eq_true htime⟩
  have hordered : (init ++ [price]).Pairwise fun p q => p.timestamp ≤ q.timestamp := by
    rw [← hinit]
    exact hsorted.filter _
  rcases List.mem_append.mp hp' with hbefore | hself
  · exact (List.pairwise_append.mp hordered).2.2 p hbefore price List.mem_cons_self
  · rw [List.mem_singleton.mp hself]

/-- The prices quoted at a time, in the order in which they are quoted. -/
def quotedAt (quoted : List Price) (time : Int) : List Price :=
  quoted.filter fun p => decide (p.timestamp = time)

/-- Of the prices quoted for the time of the price that is looked up, it is made of the one quoted
last. -/
theorem exists_last_quote (h : Forall₂ (Converts currency rate) (Price.sort quoted) series)
    (hlookup : lookup series time = .ok price) :
    ∃ quote, (quotedAt quoted price.timestamp).getLast? = some quote ∧
      quote.Converts currency rate price := by
  have hlast := lookup_eq_ok (pairwise_of_converts h) hlookup
  have hkept : Forall₂ (Converts currency rate)
      ((Price.sort quoted).filter fun p => decide (p.timestamp ≤ time))
      (series.filter fun p => decide (p.timestamp ≤ time)) :=
    List.rel_filter (fun q p hconverts => by simp [hconverts.timestamp_eq]) h
  obtain ⟨quote, hquote, hconverts⟩ := exists_getLast_left hkept hlast
  obtain ⟨init, hinit⟩ := List.getLast?_eq_some_iff.mp hquote
  have hle : quote.timestamp ≤ time := by
    have hmem : quote ∈ (Price.sort quoted).filter fun p => decide (p.timestamp ≤ time) := by
      rw [hinit]
      exact List.mem_append_right init List.mem_cons_self
    exact of_decide_eq_true (List.mem_filter.mp hmem).2
  -- All quotes of this time are kept, and sorting has not changed their order.
  have hquoted : quotedAt quoted price.timestamp =
      ((Price.sort quoted).filter fun p => decide (p.timestamp ≤ time)).filter
        fun p => decide (p.timestamp = quote.timestamp) := by
    rw [hconverts.timestamp_eq, List.filter_filter]
    have hsame := Order.filter_mergeSort_eq Price.timestamp quote.timestamp quoted
    refine hsame.symm.trans (List.filter_congr ?_)
    intro p _
    by_cases hp : p.timestamp = quote.timestamp
    · simp [hp, hle]
    · simp [hp]
  refine ⟨quote, ?_, hconverts⟩
  rw [hquoted, hinit, List.filter_append]
  simp

end Price

end NodeLedger
