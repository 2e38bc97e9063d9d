import Mathlib.Data.Int.Init
import Mathlib.Tactic.IntervalCases
import TexCensus.Report.Date

/-!
# Numbered days are the days of the calendar

The number of a day is turned into a year, a month and a day by divisions. Counted forward from the
first day of 1970, and backward as well, this goes through the calendar day by day
(`Day.ofNumber_succ`): month after month of the lengths that everybody knows, with a leap day in
every fourth year but three in four centuries. Days have different numbers, therefore, and a year
begins at the number of its first day (`Day.year_lt_iff`).
-/

namespace TexCensus.Report

/-! ## The calendar day by day -/

/-- Whether a year has a leap day. -/
def isLeapYear (year : Int) : Bool :=
  year % 4 == 0 && (year % 100 != 0 || year % 400 == 0)

/-- The number of days of a month. -/
def monthLength (year : Int) (month : Nat) : Nat :=
  if month = 2 then if isLeapYear year then 29 else 28
  else if month = 4 ∨ month = 6 ∨ month = 9 ∨ month = 11 then 30
  else 31

/-- Whether a day stands in the calendar. -/
structure Day.InCalendar (d : Day) : Prop where
  month_pos : 1 ≤ d.month
  month_le : d.month ≤ 12
  day_pos : 1 ≤ d.day
  day_le : d.day ≤ monthLength d.year d.month

/-- The day behind a day. -/
def Day.next (d : Day) : Day :=
  if d.day < monthLength d.year d.month then { d with day := d.day + 1 }
  else if d.month < 12 then { d with month := d.month + 1, day := 1 }
  else { year := d.year + 1, month := 1, day := 1 }

theorem monthLength_le (year : Int) (month : Nat) : monthLength year month ≤ 31 := by
  unfold monthLength
  split_ifs <;> omega

/-! ## Years that begin in March -/

/-- A day of a month of a year that begins in March; months and days are counted from zero. -/
def Day.ofMarch (year : Int) (month day : Nat) : Day where
  year := year + if month < 10 then 0 else 1
  month := if month < 10 then month + 3 else month - 9
  day := day + 1

/-- The number of days of a month of a year that begins in March. -/
def marchLength (year : Int) (month : Nat) : Nat :=
  monthLength (Day.ofMarch year month 0).year (Day.ofMarch year month 0).month

/-- The months behind February begin where the one in front ends. -/
theorem firstDayOfMonth_succ (year : Int) {month : Nat} (h : month < 11) :
    firstDayOfMonth (month + 1) = firstDayOfMonth month + marchLength year month := by
  interval_cases month <;> rfl

/-- February is the last month. -/
theorem marchLength_february (year : Int) :
    marchLength year 11 = if isLeapYear (year + 1) then 29 else 28 := rfl

theorem marchLength_pos (year : Int) (month : Nat) : 0 < marchLength year month := by
  unfold marchLength monthLength
  split_ifs <;> decide

theorem inCalendar_ofMarch (year : Int) {month day : Nat} (hmonth : month < 12)
    (hday : day < marchLength year month) : (Day.ofMarch year month day).InCalendar where
  month_pos := by
    simp only [Day.ofMarch]
    split <;> omega
  month_le := by
    simp only [Day.ofMarch]
    split <;> omega
  day_pos := Nat.succ_pos day
  day_le := hday

theorem next_ofMarch (year : Int) {month day : Nat} (h : day + 1 < marchLength year month) :
    (Day.ofMarch year month day).next = Day.ofMarch year month (day + 1) :=
  if_pos h

theorem next_ofMarch_month (year : Int) {month day : Nat} (hmonth : month < 11)
    (h : day + 1 = marchLength year month) :
    (Day.ofMarch year month day).next = Day.ofMarch year (month + 1) 0 := by
  have hlast : ¬(Day.ofMarch year month day).day
      < monthLength (Day.ofMarch year month day).year (Day.ofMarch year month day).month :=
    Nat.not_lt.2 h.ge
  rw [Day.next, if_neg hlast]
  simp only [Day.ofMarch]
  split_ifs <;> simp <;> omega

theorem next_ofMarch_year (year : Int) {day : Nat} (h : day + 1 = marchLength year 11) :
    (Day.ofMarch year 11 day).next = Day.ofMarch (year + 1) 0 0 := by
  have hlast : ¬(Day.ofMarch year 11 day).day
      < monthLength (Day.ofMarch year 11 day).year (Day.ofMarch year 11 day).month :=
    Nat.not_lt.2 h.ge
  rw [Day.next, if_neg hlast]
  simp [Day.ofMarch]

/-! ## Days of a cycle -/

/-- Leap years come back after four centuries. -/
theorem marchLength_add_cycles (cycles year : Int) (month : Nat) :
    marchLength (cycles * 400 + year) month = marchLength year month := by
  have hleap (y : Int) : isLeapYear (cycles * 400 + y) = isLeapYear y := by
    have h400 : (cycles * 400 + y) % 400 = y % 400 := by omega
    have h100 : (cycles * 400 + y) % 100 = y % 100 := by omega
    have h4 : (cycles * 400 + y) % 4 = y % 4 := by omega
    rw [isLeapYear, isLeapYear, h400, h100, h4]
  simp only [marchLength, Day.ofMarch]
  rw [Int.add_assoc, monthLength, monthLength, hleap]

/-- Which day of which month of which year a day of a cycle is, all counted from zero. -/
structure InCycle (number year month day : Nat) : Prop where
  year_lt : year < 400
  month_lt : month < 12
  day_lt : day < marchLength year month
  number_eq : number = firstDayOfYear year + firstDayOfMonth month + day

/-- The last day of a year of a cycle. -/
def lastDayOfYear (year : Nat) : Nat :=
  firstDayOfYear year + firstDayOfMonth 11 + (marchLength year 11 - 1)

/-- Years of a cycle begin behind the last day of the year in front. -/
theorem firstDayOfYear_succ : ∀ year < 399, firstDayOfYear (year + 1) = lastDayOfYear year + 1 := by
  decide +kernel

/-- The last day of a cycle. -/
def lastOfCycle : Nat :=
  146096

/-- At the ends of all years the division gives the year. -/
theorem yearOfCycle_ends : ∀ year < 400, yearOfCycle (firstDayOfYear year) = year
    ∧ yearOfCycle (lastDayOfYear year) = year ∧ lastDayOfYear year ≤ lastOfCycle := by
  decide +kernel

/-- Days in order lie in years in order. -/
theorem yearOfCycle_le_succ {day : Nat} (h : day < lastOfCycle) :
    yearOfCycle day ≤ yearOfCycle (day + 1) := by
  have hfour : (day + 1) / 1460 ≤ day / 1460 + 1 := by omega
  have hcentury : day / 36524 ≤ (day + 1) / 36524 := by omega
  have hcycle : (day + 1) / 146096 + day / 36524 ≤ day / 146096 + (day + 1) / 36524 := by
    rw [lastOfCycle] at h
    rcases Nat.lt_or_ge (day + 1) 146096 with hlt | hge
    · rw [Nat.div_eq_of_lt hlt, Nat.div_eq_of_lt (Nat.lt_of_succ_lt hlt)]
      omega
    · obtain rfl : day = 146095 := by omega
      decide
  have hday : day / 1460 ≤ day := Nat.div_le_self ..
  refine Nat.div_le_div_right ?_
  generalize day / 1460 = a at *
  generalize day / 36524 = b at *
  generalize day / 146096 = c at *
  generalize (day + 1) / 1460 = a' at *
  generalize (day + 1) / 36524 = b' at *
  generalize (day + 1) / 146096 = c' at *
  omega

theorem yearOfCycle_le {day other : Nat} (hle : day ≤ other) (h : other ≤ lastOfCycle) :
    yearOfCycle day ≤ yearOfCycle other := by
  induction other, hle using Nat.le_induction with
  | base => exact Nat.le_refl _
  | succ other _ ih => exact (ih (by omega)).trans (yearOfCycle_le_succ h)

namespace InCycle

variable {number year month day : Nat}

theorem zero : InCycle 0 0 0 0 := ⟨by decide, by decide, by decide, rfl⟩

theorem lt_firstDayOfMonth_succ (h : InCycle number year month day) :
    firstDayOfMonth month + day < firstDayOfMonth (month + 1) := by
  have hday := h.day_lt
  rcases Nat.lt_or_ge month 11 with hlt | hge
  · rw [firstDayOfMonth_succ year hlt]
    omega
  · obtain rfl : month = 11 := Nat.le_antisymm (Nat.le_of_lt_succ h.month_lt) hge
    rw [marchLength_february] at hday
    simp only [firstDayOfMonth]
    split at hday <;> omega

theorem le_lastDayOfYear (h : InCycle number year month day) : number ≤ lastDayOfYear year := by
  have hmonth : firstDayOfMonth month + day ≤ firstDayOfMonth 11 + (marchLength year 11 - 1) := by
    rcases Nat.lt_or_ge month 11 with hlt | hge
    · have hday := h.lt_firstDayOfMonth_succ
      simp only [firstDayOfMonth] at hday ⊢
      omega
    · obtain rfl : month = 11 := Nat.le_antisymm (Nat.le_of_lt_succ h.month_lt) hge
      have hday := h.day_lt
      omega
  rw [lastDayOfYear, h.number_eq]
  omega

theorem yearOfCycle_eq (h : InCycle number year month day) : yearOfCycle number = year := by
  obtain ⟨hfirst, hlast, hle⟩ := yearOfCycle_ends year h.year_lt
  refine Nat.le_antisymm ?_ ?_
  · exact (yearOfCycle_le h.le_lastDayOfYear hle).trans_eq hlast
  · refine hfirst.symm.trans_le (yearOfCycle_le ?_ (h.le_lastDayOfYear.trans hle))
    have := h.number_eq
    omega

theorem monthOfYear_eq (h : InCycle number year month day) :
    (5 * (number - firstDayOfYear year) + 2) / 153 = month := by
  have hnumber := h.number_eq
  have hlt := h.lt_firstDayOfMonth_succ
  simp only [firstDayOfMonth] at hnumber hlt
  omega

theorem le_lastOfCycle (h : InCycle number year month day) : number ≤ lastOfCycle :=
  h.le_lastDayOfYear.trans (yearOfCycle_ends year h.year_lt).2.2

/-- **Divisions find the year, the month and the day.** -/
theorem ofNumber_eq (h : InCycle number year month day) (cycles : Int) :
    Day.ofNumber (cycles * cycle + number - epochDay)
      = Day.ofMarch (cycles * 400 + year) month day := by
  have hle := h.le_lastOfCycle
  have hshifted : cycles * cycle + number - epochDay + epochDay = cycles * cycle + number := by
    omega
  have hmod : ((cycles * cycle + number) % cycle).toNat = number := by
    rw [lastOfCycle] at hle
    rw [cycle]
    omega
  have hdiv : (cycles * cycle + number) / cycle = cycles := by
    rw [lastOfCycle] at hle
    rw [cycle]
    omega
  have hday : number - firstDayOfYear year - firstDayOfMonth month = day := by
    have := h.number_eq
    omega
  simp only [Day.ofNumber, hshifted, hmod, hdiv, h.yearOfCycle_eq, h.monthOfYear_eq, hday]
  rfl

/-- **The day behind a day of a cycle is the next one of the calendar.** -/
theorem exists_next (h : InCycle number year month day) (hlt : number < lastOfCycle) :
    ∃ year' month' day', InCycle (number + 1) year' month' day' ∧ ∀ cycles : Int,
      Day.ofMarch (cycles * 400 + year') month' day'
        = (Day.ofMarch (cycles * 400 + year) month day).next := by
  have hlength (cycles : Int) := marchLength_add_cycles cycles year
  have hnumber := h.number_eq
  rcases Nat.lt_or_ge (day + 1) (marchLength year month) with hday | hday
  · refine ⟨year, month, day + 1, ⟨h.year_lt, h.month_lt, hday, by omega⟩, fun cycles => ?_⟩
    exact (next_ofMarch _ (by rwa [hlength])).symm
  have hlast : day + 1 = marchLength year month := Nat.le_antisymm h.day_lt hday
  rcases Nat.lt_or_ge month 11 with hmonth | hmonth
  · have hfirst := firstDayOfMonth_succ year hmonth
    refine ⟨year, month + 1, 0, ⟨h.year_lt, by omega, marchLength_pos _ _, by omega⟩, ?_⟩
    exact fun cycles => (next_ofMarch_month _ hmonth (by rwa [hlength])).symm
  · obtain rfl : month = 11 := Nat.le_antisymm (Nat.le_of_lt_succ h.month_lt) hmonth
    have hend : number = lastDayOfYear year := by
      rw [lastDayOfYear]
      omega
    have hyear : year < 399 := by
      refine Nat.lt_of_le_of_ne (Nat.le_of_lt_succ h.year_lt) ?_
      rintro rfl
      exact absurd (hend ▸ hlt) (by decide)
    have hfirst := firstDayOfYear_succ year hyear
    refine ⟨year + 1, 0, 0, ⟨by omega, by decide, marchLength_pos _ _, ?_⟩, fun cycles => ?_⟩
    · rw [hfirst, hend]
      rfl
    · rw [next_ofMarch_year _ (by rwa [hlength])]
      congr 1
      omega

end InCycle

theorem exists_inCycle {number : Nat} (h : number ≤ lastOfCycle) :
    ∃ year month day, InCycle number year month day := by
  induction number with
  | zero => exact ⟨0, 0, 0, .zero⟩
  | succ number ih =>
    obtain ⟨year, month, day, hparts⟩ := ih (Nat.le_of_succ_le h)
    obtain ⟨year', month', day', hnext, -⟩ := hparts.exists_next h
    exact ⟨year', month', day', hnext⟩

/-- The last day of a cycle is the twenty-ninth of February. -/
theorem inCycle_last : InCycle lastOfCycle 399 11 28 := ⟨by decide, by decide, by decide, by decide⟩

/-! ## All days -/

theorem exists_cycle (n : Int) :
    ∃ (cycles : Int) (number : Nat),
      number ≤ lastOfCycle ∧ n = cycles * cycle + number - epochDay := by
  refine ⟨(n + epochDay) / cycle, ((n + epochDay) % cycle).toNat, ?_, ?_⟩
  · rw [lastOfCycle, cycle]
    omega
  · rw [cycle]
    omega

/-- **The day with the next number is the next day.** -/
theorem Day.ofNumber_succ (n : Int) : Day.ofNumber (n + 1) = (Day.ofNumber n).next := by
  obtain ⟨cycles, number, hle, rfl⟩ := exists_cycle n
  rcases Nat.lt_or_ge number lastOfCycle with hlt | hge
  · obtain ⟨year, month, day, hparts⟩ := exists_inCycle hle
    obtain ⟨year', month', day', hnext, heq⟩ := hparts.exists_next hlt
    have hnumber : cycles * cycle + number - epochDay + 1
        = cycles * cycle + (number + 1 : Nat) - epochDay := by omega
    rw [hnumber, hnext.ofNumber_eq, hparts.ofNumber_eq, heq]
  · -- A cycle ends with a leap day, and the next one begins with the first of March.
    obtain rfl : number = lastOfCycle := Nat.le_antisymm hle hge
    have hnumber : cycles * cycle + lastOfCycle - epochDay + 1
        = (cycles + 1) * cycle + (0 : Nat) - epochDay := by
      rw [cycle, lastOfCycle]
      omega
    rw [hnumber, InCycle.zero.ofNumber_eq, inCycle_last.ofNumber_eq, next_ofMarch_year]
    · congr 1
      omega
    · rw [marchLength_add_cycles]
      decide

theorem Day.inCalendar_ofNumber (n : Int) : (Day.ofNumber n).InCalendar := by
  obtain ⟨cycles, number, hle, rfl⟩ := exists_cycle n
  obtain ⟨year, month, day, hparts⟩ := exists_inCycle hle
  rw [hparts.ofNumber_eq]
  exact inCalendar_ofMarch _ hparts.month_lt (by rw [marchLength_add_cycles]; exact hparts.day_lt)

/-! ## The order of days -/

/-- A number that grows with the year, then with the month, then with the day. -/
def Day.rank (d : Day) : Int :=
  (d.year * 12 + d.month) * 31 + d.day

theorem Day.rank_lt_next {d : Day} (h : d.InCalendar) : d.rank < d.next.rank := by
  have hmonth := h.month_le
  have hday := h.day_le.trans (monthLength_le ..)
  unfold Day.next Day.rank
  split_ifs <;> simp only [] <;> omega

theorem Day.rank_lt_of_lt {m n : Int} (h : m < n) :
    (Day.ofNumber m).rank < (Day.ofNumber n).rank := by
  induction n, h using Int.leInduction with
  | base =>
    rw [Day.ofNumber_succ]
    exact Day.rank_lt_next (Day.inCalendar_ofNumber m)
  | succ n _ ih =>
    rw [Day.ofNumber_succ]
    exact Int.lt_trans ih (Day.rank_lt_next (Day.inCalendar_ofNumber n))

/-- Days with greater numbers are later days. -/
theorem Day.rank_lt_iff {m n : Int} :
    (Day.ofNumber m).rank < (Day.ofNumber n).rank ↔ m < n := by
  refine ⟨fun h => ?_, Day.rank_lt_of_lt⟩
  rcases Int.lt_trichotomy m n with hlt | rfl | hgt
  · exact hlt
  · exact absurd h (Int.lt_irrefl _)
  · have hback := Day.rank_lt_of_lt hgt
    omega

/-- **Days have different numbers.** -/
theorem Day.ofNumber_injective : Function.Injective Day.ofNumber := by
  intro m n h
  have hrank := congrArg Day.rank h
  have hforward := Day.rank_lt_iff (m := m) (n := n)
  have hbackward := Day.rank_lt_iff (m := n) (n := m)
  omega

/-- **A year begins with the number of its first day.** -/
theorem Day.year_lt_iff {year first n : Int} (h : Day.ofNumber first = ⟨year, 1, 1⟩) :
    (Day.ofNumber n).year < year ↔ n < first := by
  have hday := Day.inCalendar_ofNumber n
  have hbounds := hday.day_le.trans (monthLength_le ..)
  have hmonth := hday.month_pos
  have hmonths := hday.month_le
  have hfirst := hday.day_pos
  have hrank := Day.rank_lt_iff (m := n) (n := first)
  rw [← hrank, h, Day.rank, Day.rank]
  dsimp only
  omega

end TexCensus.Report
