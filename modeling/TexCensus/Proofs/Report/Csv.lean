import Mathlib.Data.List.Forall2
import TexCensus.Report.Csv
import TexCensus.Report.Csv.Reader

/-!
# Tables are read back

Whatever a field holds, a reader at its beginning takes it in as it was given and stands outside
quotes behind it (`Csv.foldl_field`): either nothing in it ends a field, or it stands between quotes
and its own quotes are written twice. So a comma ends it and a line feed ends its row, and lines are
read back one by one (`Csv.read_lines`). The table of records is a list of lines of 41 fields each
(`Csv.read_table`).
-/

namespace TexCensus.Report.Csv

variable {place : Place} {fields : List Text} {rows : List (List Text)}

/-! ## One field -/

/-- Characters that end no field are taken in as they are. -/
theorem foldl_outside (t : Text) (field : Text) (h : ∀ c ∈ t, needsQuotes c = false) :
    t.foldl Reader.step ⟨.outside, field, fields, rows⟩
      = ⟨.outside, field ++ t, fields, rows⟩ := by
  induction t generalizing field with
  | nil => simp
  | cons c t ih =>
    obtain ⟨hc, ht⟩ := List.forall_mem_cons.1 h
    simp only [needsQuotes, Bool.or_eq_false_iff, beq_eq_false_iff_ne] at hc
    have hstep : Reader.step ⟨.outside, field, fields, rows⟩ c
        = ⟨.outside, field ++ [c], fields, rows⟩ := by
      simp [Reader.step, Reader.readOutside, Reader.take, endsLine, hc]
    rw [List.foldl_cons, hstep, ih _ ht, List.append_assoc, List.singleton_append]

/-- Between quotes every character is taken in; a quote is written twice. -/
theorem foldl_inside (t : Text) (field : Text) :
    (t.flatMap quotedChar).foldl Reader.step ⟨.inside, field, fields, rows⟩
      = ⟨.inside, field ++ t, fields, rows⟩ := by
  induction t generalizing field with
  | nil => simp
  | cons c t ih =>
    have hstep : (quotedChar c).foldl Reader.step ⟨.inside, field, fields, rows⟩
        = ⟨.inside, field ++ [c], fields, rows⟩ := by
      unfold quotedChar
      by_cases hc : c = '"'
      · simp [hc, Reader.step, Reader.take]
      · simp [hc, Reader.step, Reader.take]
    rw [List.flatMap_cons, List.foldl_append, hstep, ih, List.append_assoc, List.singleton_append]

/-- The places where a field may begin. -/
def Place.IsStart (place : Place) : Prop :=
  place = .lineStart ∨ place = .fieldStart

/-- A reader at the beginning of a field that is no quote and ends nothing is in the field behind
it. -/
theorem step_start {c : Char} (hstart : place.IsStart) (hc : needsQuotes c = false) :
    Reader.step ⟨place, [], fields, rows⟩ c = ⟨.outside, [c], fields, rows⟩ := by
  simp only [needsQuotes, Bool.or_eq_false_iff, beq_eq_false_iff_ne] at hc
  rcases hstart with rfl | rfl
  · simp [Reader.step, Reader.readFirst, Reader.readOutside, Reader.take, endsLine, hc]
  · simp [Reader.step, Reader.readFirst, Reader.readOutside, Reader.take, endsLine, hc]

/-- **A field is taken in as it was given.** Behind it the reader stands outside quotes, and still at
the beginning if the field is empty. -/
theorem foldl_field (fields : List Text) (rows : List (List Text)) (t : Text)
    (hstart : place.IsStart) :
    ∃ after, (field t).foldl Reader.step ⟨place, [], fields, rows⟩ = ⟨after, t, fields, rows⟩
      ∧ after ≠ .inside ∧ (after = .lineStart → place = .lineStart ∧ t = []) := by
  unfold field
  split
  · -- The quote that ends the field could still be the first of two.
    refine ⟨.quoteSeen, ?_, by decide, by simp⟩
    have hopen : Reader.step ⟨place, [], fields, rows⟩ '"' = ⟨.inside, [], fields, rows⟩ := by
      rcases hstart with rfl | rfl <;> rfl
    rw [List.cons_append, List.foldl_cons, hopen, List.foldl_append, foldl_inside]
    rfl
  · next hany =>
    have hplain : ∀ c ∈ t, needsQuotes c = false := by simpa using hany
    cases t with
    | nil =>
      refine ⟨place, rfl, ?_, fun hline => ⟨hline, rfl⟩⟩
      rcases hstart with rfl | rfl <;> decide
    | cons c t =>
      obtain ⟨hc, ht⟩ := List.forall_mem_cons.1 hplain
      refine ⟨.outside, ?_, by decide, by simp⟩
      rw [List.foldl_cons, step_start hstart hc, foldl_outside t _ ht, List.singleton_append]

/-! ## Lines -/

/-- Outside quotes a comma ends the field. -/
theorem step_comma (t : Text) (hplace : place ≠ .inside) :
    Reader.step ⟨place, t, fields, rows⟩ ',' = ⟨.fieldStart, [], fields ++ [t], rows⟩ := by
  cases place with
  | inside => exact absurd rfl hplace
  | _ => rfl

/-- Outside quotes and not at the beginning of a line, a line feed ends the row. -/
theorem step_newline (t : Text) (hplace : place ≠ .inside) (hline : place ≠ .lineStart) :
    Reader.step ⟨place, t, fields, rows⟩ '\n' = ⟨.lineStart, [], [], rows ++ [fields ++ [t]]⟩ := by
  cases place with
  | inside => exact absurd rfl hplace
  | lineStart => exact absurd rfl hline
  | _ => rfl

theorem line_cons_cons (t next : Text) (others : List Text) :
    line (t :: next :: others) = field t ++ ',' :: line (next :: others) := by
  simp [line, joinWith_cons_cons]

/-- A field with a comma behind it. -/
theorem foldl_field_comma (t rest : Text) (hstart : place.IsStart) :
    (field t ++ ',' :: rest).foldl Reader.step ⟨place, [], fields, rows⟩
      = rest.foldl Reader.step ⟨.fieldStart, [], fields ++ [t], rows⟩ := by
  obtain ⟨after, hfield, hafter, -⟩ := foldl_field fields rows t hstart
  rw [List.foldl_append, hfield, List.foldl_cons, step_comma t hafter]

/-- The rest of a line behind a comma. -/
theorem foldl_line (t : Text) (others : List Text) :
    (line (t :: others)).foldl Reader.step ⟨.fieldStart, [], fields, rows⟩
      = ⟨.lineStart, [], [], rows ++ [fields ++ t :: others]⟩ := by
  induction others generalizing t fields with
  | nil =>
    have hstart : Place.IsStart .fieldStart := .inr rfl
    obtain ⟨after, hfield, hafter, hline⟩ := foldl_field fields rows t hstart
    have hne : after ≠ .lineStart := fun h => by cases (hline h).1
    rw [line, List.map_singleton, joinWith_singleton, List.foldl_append, hfield, List.foldl_cons,
      step_newline t hafter hne, List.foldl_nil]
  | cons next others ih =>
    rw [line_cons_cons, foldl_field_comma t _ (.inr rfl), ih, List.append_assoc,
      List.singleton_append]

/-- **A line of two fields or more is read back as one row.** A line with one empty field would be
an empty line, which holds no row. -/
theorem foldl_line_start {row : List Text} (h : 2 ≤ row.length) :
    (line row).foldl Reader.step ⟨.lineStart, [], [], rows⟩
      = ⟨.lineStart, [], [], rows ++ [row]⟩ := by
  match row with
  | t :: next :: others =>
    rw [line_cons_cons, foldl_field_comma t _ (.inl rfl), foldl_line, List.nil_append,
      List.singleton_append]

/-- **Lines are read back one by one.** -/
theorem read_lines {table : List (List Text)} (h : ∀ row ∈ table, 2 ≤ row.length) :
    read (table.flatMap line) = table := by
  have hrun (rows : List (List Text)) :
      (table.flatMap line).foldl Reader.step ⟨.lineStart, [], [], rows⟩
        = ⟨.lineStart, [], [], rows ++ table⟩ := by
    induction table generalizing rows with
    | nil => simp
    | cons row table ih =>
      obtain ⟨hrow, htable⟩ := List.forall_mem_cons.1 h
      rw [List.flatMap_cons, List.foldl_append, foldl_line_start hrow, ih htable,
        List.append_assoc, List.singleton_append]
  rw [read, hrun]
  simp [Reader.finish]

/-! ## Records -/

theorem length_columns : columns.length = 41 := rfl

/-- A row of values has a value for each column. -/
theorem length_of_values {n : Nat} {records : List Record} {rows : List (List Text)}
    (h : List.Forall₂ (fun r row => values? n r = some row) records rows) :
    ∀ row ∈ rows, row.length = columns.length := by
  induction h with
  | nil => simp
  | cons hrow _ ih =>
    obtain ⟨date, -, rfl⟩ := Option.map_eq_some_iff.1 hrow
    exact List.forall_mem_cons.2 ⟨length_fields n _ date, ih⟩

/-- Records whose dates can be shown have values. -/
theorem exists_values (n : Nat) {records : List Record}
    (h : ∀ r ∈ records, (dateText? r.snapshot.date).isSome) :
    ∃ rows, List.Forall₂ (fun r row => values? n r = some row) records rows := by
  induction records with
  | nil => exact ⟨[], .nil⟩
  | cons r records ih =>
    obtain ⟨hr, hrecords⟩ := List.forall_mem_cons.1 h
    obtain ⟨date, hdate⟩ := Option.isSome_iff_exists.1 hr
    obtain ⟨rows, hrows⟩ := ih hrecords
    exact ⟨fields n r date :: rows, .cons (by rw [values?, hdate]; rfl) hrows⟩

/-- The table of records is a list of lines. -/
theorem table?_eq {n : Nat} {records : List Record} {rows : List (List Text)}
    (h : List.Forall₂ (fun r row => values? n r = some row) records rows) :
    table? n records = some ((columns :: rows).flatMap line) := by
  have hlines : records.mapM (recordLine? n) = some (rows.map line) := by
    induction h with
    | nil => rfl
    | cons hrow _ ih => simp [recordLine?, hrow, ih]
  rw [table?, hlines]
  simp [List.flatMap_def]

/-- **What a table holds cannot break it.** Records whose dates can be shown have a table, and
reading it gives one row of the 41 names of the columns and then, record by record, one row of the 41
values of the record, whatever characters stand in them. -/
theorem read_table (n : Nat) (records : List Record)
    (h : ∀ r ∈ records, (dateText? r.snapshot.date).isSome) :
    ∃ t rows, table? n records = some t
      ∧ read t = columns :: rows
      ∧ List.Forall₂ (fun r row => row? n r = some (columns.zip row)) records rows
      ∧ ∀ row ∈ columns :: rows, row.length = 41 := by
  obtain ⟨rows, hvalues⟩ := exists_values n h
  have hlength : ∀ row ∈ columns :: rows, row.length = 41 := by
    exact List.forall_mem_cons.2 ⟨length_columns, length_of_values hvalues⟩
  refine ⟨_, rows, table?_eq hvalues, ?_, ?_, hlength⟩
  · exact read_lines fun row hrow => by rw [hlength row hrow]; decide
  · exact hvalues.imp fun r row hr => by rw [row?, hr]; rfl

/-- Names and words with commas, quotes and ends of lines, one of them shaped like the end of a row,
and a second record with a date. -/
theorem read_table_of_breaking_names :
    let r : Record := {
      snapshot := { name := "a,\"b\"\r\nc".toList, description := "\"\n\",".toList }
      words := { wordFrequency := .count ["\"".toList, ",".toList, "\"".toList] } }
    let s : Record := { snapshot := { date := 1577836800, commit := "\n".toList } }
    (∀ r' ∈ [r, s], (dateText? r'.snapshot.date).isSome)
      ∧ ∃ t rows, table? 2 [r, s] = some t ∧ read t = columns :: rows
        ∧ List.Forall₂ (fun r' row => row? 2 r' = some (columns.zip row)) [r, s] rows := by
  intro r s
  have hdates : ∀ r' ∈ [r, s], (dateText? r'.snapshot.date).isSome := by
    rintro r' hr
    rcases List.mem_pair.1 hr with rfl | rfl
    · rfl
    · decide +kernel
  obtain ⟨t, rows, htable, hread, hrows, -⟩ := read_table 2 [r, s] hdates
  exact ⟨hdates, t, rows, htable, hread, hrows⟩

end TexCensus.Report.Csv
