import TexCensus.Proofs.Report.Calendar
import TexCensus.Proofs.Report.Csv
import TexCensus.Proofs.Text.Delimited

/-!
# Dates are told apart

The text of a moment shows seven fields, and each of them ends where it can be seen to end
(`MailDate.text_injective`). The fields show the day of the calendar and the time of day, so they
show which moment it is (`MailDate.Shows.unique`). A number begins with a digit or a minus sign, the
text of a moment with a letter, and an unknown date has no text at all: two dates never look alike.

A record has no form if and only if the calendar covers its date but the year does not have four
digits, that is, in front of the year 0 or behind the year 9999 (`dates_shown`).
-/

namespace TexCensus.Report

/-! ## The fields of a moment -/

/-- What the text of a moment shows. Months are counted from zero. -/
structure MailDate where
  weekday : Fin 7
  day : Nat
  month : Fin 12
  year : Nat
  hour : Nat
  minute : Nat
  second : Nat
deriving DecidableEq

/-- The fields as mail headers show them. -/
def MailDate.text (m : MailDate) : Text :=
  nameAt weekdays m.weekday ++ ", ".toList ++ decimal m.day ++ [' '] ++ nameAt months m.month
    ++ [' '] ++ padded 4 m.year ++ [' '] ++ padded 2 m.hour ++ [':'] ++ padded 2 m.minute ++ [':']
    ++ padded 2 m.second ++ [' '] ++ "+0000".toList

theorem digitsValue_padded (width n : Nat) : digitsValue (padded width n) = n := by
  rw [padded, digitsValue_replicate, digitsValue_decimal]

theorem selfDelimiting_padded (width : Nat) {mark : Char} (hmark : mark.isDigit = false) :
    SelfDelimiting fun n => padded width n ++ [mark] := by
  refine selfDelimiting_of_mark (fun n hmem => ?_) fun m n h => ?_
  · rcases List.mem_append.1 hmem with hzero | hdigit
    · rw [List.eq_of_mem_replicate hzero] at hmark
      cases hmark
    · exact not_mem_decimal hmark n hdigit
  · rw [← digitsValue_padded width m, h, digitsValue_padded]

theorem selfDelimiting_weekday : SelfDelimiting fun i : Fin 7 => nameAt weekdays i :=
  selfDelimiting_of_length (n := 3) (by decide) (by unfold Function.Injective; decide)

theorem selfDelimiting_month : SelfDelimiting fun i : Fin 12 => nameAt months i :=
  selfDelimiting_of_length (n := 3) (by decide) (by unfold Function.Injective; decide)

/-- The fields one behind the other, each number with the mark that ends it. -/
theorem MailDate.text_eq (m : MailDate) :
    m.text = nameAt weekdays m.weekday ++ (", ".toList ++ ((decimal m.day ++ [' '])
      ++ (nameAt months m.month ++ ([' '] ++ ((padded 4 m.year ++ [' '])
      ++ ((padded 2 m.hour ++ [':']) ++ ((padded 2 m.minute ++ [':'])
      ++ ((padded 2 m.second ++ [' ']) ++ "+0000".toList)))))))) := by
  simp only [text, List.append_assoc]

/-- **The fields can be read off their text.** -/
theorem MailDate.text_injective : Function.Injective MailDate.text := by
  intro a b h
  rw [text_eq, text_eq] at h
  obtain ⟨hweekday, h⟩ := selfDelimiting_weekday h
  obtain ⟨hday, h⟩ := selfDelimiting_decimal rfl (List.append_cancel_left h)
  obtain ⟨hmonth, h⟩ := selfDelimiting_month h
  obtain ⟨hyear, h⟩ := selfDelimiting_padded 4 rfl (List.append_cancel_left h)
  obtain ⟨hhour, h⟩ := selfDelimiting_padded 2 rfl h
  obtain ⟨hminute, h⟩ := selfDelimiting_padded 2 rfl h
  obtain ⟨hsecond, -⟩ := selfDelimiting_padded 2 rfl h
  cases a
  cases b
  simp_all

/-- The text of a moment begins with a letter, as no number does. -/
theorem MailDate.exists_first (m : MailDate) :
    ∃ c rest, ¬(c = '-' ∨ c.isDigit = true) ∧ m.text = c :: rest := by
  have hnames : ∀ i : Fin 7,
      (nameAt weekdays i).head?.any (fun c => c != '-' && !c.isDigit) = true := by
    decide
  have hletter := hnames m.weekday
  cases hname : nameAt weekdays m.weekday with
  | nil =>
    rw [hname] at hletter
    cases hletter
  | cons c rest =>
    rw [hname] at hletter
    exact ⟨c, _, by simpa using hletter, by rw [text_eq, hname]; rfl⟩

/-! ## Moments -/

/-- Whether fields show a moment. -/
structure MailDate.Shows (m : MailDate) (s : Int) : Prop where
  /-- The day is the one with the number of the moment's day. -/
  day_eq : Day.ofNumber (s / 86400) = ⟨m.year, m.month + 1, m.day⟩
  /-- The first day of 1970 is a Thursday. -/
  weekday_eq : m.weekday = (s / 86400 + 4) % 7
  hour_lt : m.hour < 24
  minute_lt : m.minute < 60
  second_lt : m.second < 60
  time_eq : s % 86400 = 3600 * m.hour + 60 * m.minute + m.second

/-- **Fields show one moment only.** -/
theorem MailDate.Shows.unique {m : MailDate} {s t : Int} (hs : m.Shows s) (ht : m.Shows t) :
    s = t := by
  have hday := Day.ofNumber_injective (hs.day_eq.trans ht.day_eq.symm)
  have htime := hs.time_eq.trans ht.time_eq.symm
  omega

/-- The first moment of the year 0. -/
def firstShown : Int :=
  -62167219200

/-- The last moment of the year 9999. -/
def lastShown : Int :=
  253402300799

theorem year_neg_iff (s : Int) : (Day.ofNumber (s / 86400)).year < 0 ↔ s < firstShown := by
  have hfirst : Day.ofNumber (-719528) = ⟨0, 1, 1⟩ := by decide
  rw [Day.year_lt_iff hfirst, firstShown]
  omega

theorem lt_year_iff (s : Int) : 9999 < (Day.ofNumber (s / 86400)).year ↔ lastShown < s := by
  have hfirst : Day.ofNumber 2932897 = ⟨10000, 1, 1⟩ := by decide
  have hyear : 9999 < (Day.ofNumber (s / 86400)).year
      ↔ ¬(Day.ofNumber (s / 86400)).year < 10000 := by omega
  rw [hyear, Day.year_lt_iff hfirst, lastShown]
  omega

/-- Moments of years without four digits have no text. -/
theorem momentText?_eq_none {s : Int} (h : s < firstShown ∨ lastShown < s) :
    momentText? s = none := by
  rw [← year_neg_iff, ← lt_year_iff] at h
  exact if_pos h

/-- **Moments of the other years have the text of the fields that show them.** -/
theorem exists_momentText? {s : Int} (hfirst : firstShown ≤ s) (hlast : s ≤ lastShown) :
    ∃ m : MailDate, m.Shows s ∧ momentText? s = some m.text := by
  have hyear : ¬((Day.ofNumber (s / 86400)).year < 0 ∨ 9999 < (Day.ofNumber (s / 86400)).year) := by
    rw [year_neg_iff, lt_year_iff]
    omega
  have hday := Day.inCalendar_ofNumber (s / 86400)
  have hmonth := hday.month_pos
  have hmonths := hday.month_le
  refine ⟨{
    weekday := ⟨((s / 86400 + 4) % 7).toNat, by omega⟩
    day := (Day.ofNumber (s / 86400)).day
    month := ⟨(Day.ofNumber (s / 86400)).month - 1, by omega⟩
    year := (Day.ofNumber (s / 86400)).year.toNat
    hour := (s % 86400).toNat / 3600
    minute := (s % 86400).toNat / 60 % 60
    second := (s % 86400).toNat % 60 }, ?_, ?_⟩
  · constructor
    case day_eq =>
      have hcast : ((Day.ofNumber (s / 86400)).year.toNat : Int)
          = (Day.ofNumber (s / 86400)).year := by
        omega
      simp only [hcast, Nat.sub_add_cancel hmonth]
    all_goals
      dsimp only
      omega
  · simp only [momentText?, if_neg hyear, MailDate.text, timeText, List.append_assoc]
    rfl

/-! ## Dates -/

/-- Whether the calendar covers a moment whose year does not have four digits. -/
def IsUnshowable (s : Int) : Prop :=
  -8334601228800 ≤ s ∧ s ≤ -62167219201 ∨ 253402300800 ≤ s ∧ s ≤ 8210266876799

/-- The three forms of a date. -/
inductive IsDate : Int → Text → Prop where
  /-- An unknown date has no text. -/
  | unknown : IsDate 0 []
  /-- A moment that the calendar does not cover is shown as its number. -/
  | number {s : Int} (h : s < -8334601228800 ∨ 8210266876799 < s) : IsDate s (decimalInt s)
  /-- A moment of one of the years 0 to 9999 is shown as mail headers show it. -/
  | mail {s : Int} {m : MailDate} (hs : s ≠ 0) (hfirst : -62167219200 ≤ s)
      (hlast : s ≤ 253402300799) (h : m.Shows s) : IsDate s m.text

/-- **A date has a text unless its year does not have four digits.** -/
theorem dateText?_cases (s : Int) :
    IsUnshowable s ∧ dateText? s = none
      ∨ ¬IsUnshowable s ∧ ∃ date, IsDate s date ∧ dateText? s = some date := by
  rw [dateText?]
  split
  · next h =>
    obtain rfl := h
    exact .inr ⟨by unfold IsUnshowable; omega, [], .unknown, rfl⟩
  next hzero =>
  split
  · next h =>
    rw [firstMoment, lastMoment] at h
    exact .inr ⟨by unfold IsUnshowable; omega, _, .number h, rfl⟩
  · next h =>
    rw [firstMoment, lastMoment] at h
    by_cases hshown : firstShown ≤ s ∧ s ≤ lastShown
    · obtain ⟨m, hm, htext⟩ := exists_momentText? hshown.1 hshown.2
      rw [firstShown, lastShown] at hshown
      exact .inr ⟨by unfold IsUnshowable; omega, _, .mail hzero hshown.1 hshown.2 hm, htext⟩
    · refine .inl ⟨?_, momentText?_eq_none (by omega)⟩
      rw [firstShown, lastShown] at hshown
      unfold IsUnshowable
      omega

theorem dateText?_eq_none_iff {s : Int} : dateText? s = none ↔ IsUnshowable s := by
  rcases dateText?_cases s with ⟨h, heq⟩ | ⟨h, date, -, heq⟩
  · simp [h, heq]
  · simp [h, heq]

theorem isDate_of_dateText? {s : Int} {date : Text} (h : dateText? s = some date) :
    IsDate s date := by
  rcases dateText?_cases s with ⟨-, heq⟩ | ⟨-, other, hdate, heq⟩
  · rw [heq] at h
    cases h
  · rw [heq] at h
    exact Option.some.inj h ▸ hdate

theorem decimalInt_ne_nil (s : Int) : decimalInt s ≠ [] := by
  obtain ⟨c, rest, -, h⟩ := exists_first_decimalInt s
  rw [h]
  exact List.cons_ne_nil c rest

theorem MailDate.text_ne_nil (m : MailDate) : m.text ≠ [] := by
  obtain ⟨c, rest, -, h⟩ := m.exists_first
  rw [h]
  exact List.cons_ne_nil c rest

theorem MailDate.text_ne_decimalInt (m : MailDate) (s : Int) : m.text ≠ decimalInt s := by
  obtain ⟨c, rest, hletter, hm⟩ := m.exists_first
  obtain ⟨d, rest', hfirst, hs⟩ := exists_first_decimalInt s
  rw [hm, hs]
  intro h
  exact hletter ((List.cons.inj h).1 ▸ hfirst)

/-- **Two dates never have the same text.** -/
theorem IsDate.unique {s t : Int} {date : Text} (hs : IsDate s date) (ht : IsDate t date) :
    s = t := by
  generalize hdate : date = other at ht
  cases hs with
  | unknown =>
    cases ht with
    | unknown => rfl
    | number => exact absurd hdate.symm (decimalInt_ne_nil t)
    | mail => exact absurd hdate.symm (MailDate.text_ne_nil _)
  | number =>
    cases ht with
    | unknown => exact absurd hdate (decimalInt_ne_nil s)
    | number => exact decimalInt_injective hdate
    | mail => exact absurd hdate.symm (MailDate.text_ne_decimalInt _ s)
  | mail _ _ _ hm =>
    cases ht with
    | unknown => exact absurd hdate (MailDate.text_ne_nil _)
    | number => exact absurd hdate (MailDate.text_ne_decimalInt _ t)
    | mail _ _ _ hother => exact hm.unique (MailDate.text_injective hdate ▸ hother)

/-! ## Records -/

/-- Whether the forms of a record show a text as its date. -/
structure ShowsDate (n : Nat) (r : Record) (date : Text) : Prop where
  /-- The report has it in its first line. -/
  report : ∃ rest, text? n r = some (titleLine r.snapshot date ++ rest)
  /-- The row has it in the column of dates. -/
  row : ∃ row, row? n r = some row ∧ row[3]? = some ("date".toList, date)
  /-- The table has it in the same column. -/
  table : ∃ values, Csv.table? n [r] = some (Csv.line columns ++ Csv.line values)
    ∧ values[3]? = some date

variable {n : Nat} {r : Record} {date : Text}

theorem showsDate_of_dateText? (h : dateText? r.snapshot.date = some date) :
    ShowsDate n r date where
  report := by
    rw [text?, h]
    exact ⟨_, by simp only [Option.bind_eq_bind, Option.bind_some, List.append_assoc]; rfl⟩
  row := by
    rw [row?, values?, h]
    exact ⟨_, rfl, rfl⟩
  table := by
    have hvalues : values? n r = some (fields n r date) := by
      rw [values?, h]
      rfl
    refine ⟨fields n r date, ?_, rfl⟩
    rw [Csv.table?_eq (.cons hvalues .nil)]
    simp

theorem text?_eq_none_iff : text? n r = none ↔ dateText? r.snapshot.date = none := by
  rw [text?]
  cases dateText? r.snapshot.date <;> simp

theorem row?_eq_none_iff : row? n r = none ↔ dateText? r.snapshot.date = none := by
  rw [row?, values?, Option.map_eq_none_iff, Option.map_eq_none_iff]

theorem table?_eq_none_iff {records : List Record} :
    Csv.table? n records = none ↔ ∃ r ∈ records, dateText? r.snapshot.date = none := by
  constructor
  · intro h
    by_contra hall
    push Not at hall
    obtain ⟨rows, hrows⟩ := Csv.exists_values n fun r hr => Option.isSome_iff_ne_none.2 (hall r hr)
    rw [Csv.table?_eq hrows] at h
    cases h
  · rintro ⟨r, hr, hdate⟩
    have hline : Csv.recordLine? n r = none := by
      rw [Csv.recordLine?, values?, hdate]
      rfl
    have hlines : records.mapM (Csv.recordLine? n) = none := by
      obtain ⟨before, after, rfl⟩ := List.append_of_mem hr
      rw [List.mapM_append, List.mapM_cons, hline]
      cases before.mapM (Csv.recordLine? n) <;> rfl
    rw [Csv.table?, hlines]
    rfl

/-- **Which dates can be shown, and that they are told apart.** Reports, rows and tables exist for
all dates but those that the calendar covers and whose year does not have four digits. All three
show the same text of the date: none for zero, the number for a moment that the calendar does not
cover, and otherwise the day of the calendar, which goes on from the first of January 1970 day by
day in both directions, with the time. Two dates never have the same text. -/
theorem dates_shown (n : Nat) (r : Record) (records : List Record) :
    (text? n r = none ↔ IsUnshowable r.snapshot.date)
      ∧ (row? n r = none ↔ IsUnshowable r.snapshot.date)
      ∧ (Csv.table? n records = none ↔ ∃ r ∈ records, IsUnshowable r.snapshot.date)
      ∧ (¬IsUnshowable r.snapshot.date → ∃ date, dateText? r.snapshot.date = some date
        ∧ IsDate r.snapshot.date date ∧ ShowsDate n r date)
      ∧ (Day.ofNumber 0 = ⟨1970, 1, 1⟩ ∧ ∀ k, Day.ofNumber (k + 1) = (Day.ofNumber k).next)
      ∧ ∀ s t date, dateText? s = some date → dateText? t = some date → s = t := by
  refine ⟨text?_eq_none_iff.trans dateText?_eq_none_iff,
    row?_eq_none_iff.trans dateText?_eq_none_iff, ?_, fun h => ?_,
    ⟨by decide, Day.ofNumber_succ⟩, fun s t date hs ht => ?_⟩
  · simp only [table?_eq_none_iff, dateText?_eq_none_iff]
  · obtain ⟨hshowable, -⟩ | ⟨-, date, hdate, heq⟩ := dateText?_cases r.snapshot.date
    · exact absurd hshowable h
    · exact ⟨date, heq, hdate, showsDate_of_dateText? heq⟩
  · exact (isDate_of_dateText? hs).unique (isDate_of_dateText? ht)

/-- The last second of a leap day, and the first second of the year 10000. -/
theorem dates_shown_at_leap_day :
    let r : Record := { snapshot := { date := 951868799 } }
    let late : Record := { snapshot := { date := 253402300800 } }
    let date := "Tue, 29 Feb 2000 23:59:59 +0000".toList
    ¬IsUnshowable 951868799 ∧ dateText? 951868799 = some date ∧ ShowsDate 2 r date
      ∧ dateText? 951868800 ≠ dateText? 951868799
      ∧ IsUnshowable 253402300800 ∧ Csv.table? 2 [r, late] = none := by
  intro r late date
  have hshowable : ¬IsUnshowable 951868799 := by
    unfold IsUnshowable
    omega
  have hlate : IsUnshowable 253402300800 := by
    unfold IsUnshowable
    omega
  have hdate : dateText? 951868799 = some date := by decide +kernel
  obtain ⟨-, -, htable, hshown, -, hunique⟩ := dates_shown 2 r [r, late]
  obtain ⟨other, heq, -, hshows⟩ := hshown hshowable
  have hsame : other = date := Option.some.inj (heq.symm.trans hdate)
  refine ⟨hshowable, hdate, hsame ▸ hshows, fun hnext => ?_, hlate, ?_⟩
  · exact absurd (hunique _ _ date (hnext.trans hdate) hdate) (by decide)
  · exact htable.2 ⟨late, by simp, hlate⟩

end TexCensus.Report
