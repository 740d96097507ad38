import NodeLedger.Period

/-!
Windows: a period that is longer than one query may be is covered by consecutive shorter ones.

* `Period.windows` are the windows of a period, and `Period.firstWindows` so many of them.
* `Period.gather` collects what is found in each of them, one after the other, and is the same as
  going through the list of windows.
-/

namespace NodeLedger.Period

/-- The first window of a width. -/
def first (width : Int) (period : Period) : Period :=
  ⟨period.start, min (period.start + width) period.stop⟩

/-- What the first window leaves. -/
def afterFirst (width : Int) (period : Period) : Period :=
  ⟨(period.first width).stop, period.stop⟩

/-- The first windows of a width, so many of them.  Windows of a negative width go backwards and
never reach the stop of the period. -/
def firstWindows (width : Int) : Nat → Period → List Period
  | 0, _ => []
  | n + 1, period => period.first width :: firstWindows width n (period.afterFirst width)

/-- The first window makes the rest shorter. -/
theorem afterFirst_lt {width : Int} {period : Period}
    (h : 0 < width ∧ period.start < period.stop) :
    ((period.afterFirst width).stop - (period.afterFirst width).start).toNat <
      (period.stop - period.start).toNat := by
  simp only [afterFirst, first]
  omega

/-- The windows of a width that cover a period; none if it is empty. -/
def windows (width : Int) (period : Period) : List Period :=
  if _h : 0 < width ∧ period.start < period.stop then
    period.first width :: windows width (period.afterFirst width)
  else []
termination_by (period.stop - period.start).toNat
decreasing_by exact afterFirst_lt (by assumption)

variable {m : Type → Type} [Monad m] {α : Type}

/-- Collect what is found in each window. -/
def gather (width : Int) (find : Period → m (List α)) (period : Period) : m (List α) :=
  if _h : 0 < width ∧ period.start < period.stop then do
    let found ← find (period.first width)
    return found ++ (← gather width find (period.afterFirst width))
  else return []
termination_by (period.stop - period.start).toNat
decreasing_by exact afterFirst_lt (by assumption)

/-- Collecting goes through the windows in order. -/
theorem gather_eq [LawfulMonad m] (width : Int) (find : Period → m (List α)) (period : Period) :
    period.gather width find = List.flatten <$> (period.windows width).mapM find := by
  fun_induction windows width period with
  | case1 period h ih =>
    rw [gather, dif_pos h]
    simp [ih]
  | case2 period h =>
    rw [gather, dif_neg h]
    simp

end NodeLedger.Period
