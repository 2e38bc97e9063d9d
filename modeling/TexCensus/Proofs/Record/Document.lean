import Mathlib.Data.List.Perm.Basic
import TexCensus.Proofs.Frequency.Merge
import TexCensus.Proofs.Json.Printer
import TexCensus.Record.Document

/-!
# Records are read back

A record that is written as JSON is read back as it was, and its members may be permuted and joined
by members that no record has. What is read from any text is a record whose tables sum the pairs of
the text, so it can be written and read again. `Record.read_toJson` says all of this.

Members are looked up by name and asked for a value of a kind; `Holds` is one such question with its
answer. A record is read from members exactly when all its questions are answered
(`Record.ofMembers?_eq_some_iff`), so writing and reading only have to agree on single answers.
-/

namespace TexCensus

open Json

/-! ## Answers of values -/

namespace Value

theorem natural?_ofNat {n : Nat} (h : fitsUnsigned 64 n = true) : (ofNat n).natural? = some n :=
  if_pos h

theorem fits_of_natural? {v : Value} {n : Nat} (h : v.natural? = some n) :
    fitsUnsigned 64 n = true := by
  unfold natural? at h
  split at h
  · split at h
    · next hfits =>
      cases h
      exact hfits
    · cases h
  · cases h

theorem signed?_integer {i : Int} (h : fitsSigned 64 i = true) : (integer i).signed? = some i :=
  if_pos h

theorem fits_of_signed? {v : Value} {i : Int} (h : v.signed? = some i) :
    fitsSigned 64 i = true := by
  obtain ⟨j, -, hj⟩ := Option.bind_eq_some_iff.1 h
  split at hj
  · next hfits =>
    cases hj
    exact hfits
  · cases hj

end Value

/-- Every member of a list has an answer, and they stand in the same order. -/
theorem mapM_eq_some_iff {α β : Type} {ask : α → Option β} {items : List α} {answers : List β} :
    items.mapM ask = some answers ↔ List.Forall₂ (fun a b => ask a = some b) items answers := by
  induction items generalizing answers with
  | nil => simp [eq_comm]
  | cons a items ih =>
    rw [List.mapM_cons, List.forall₂_cons_left_iff]
    simp only [Option.bind_eq_bind, Option.bind_eq_some_iff, ih]
    constructor
    · rintro ⟨b, hb, answers, hanswers, h⟩
      cases h
      exact ⟨b, answers, hb, hanswers, rfl⟩
    · rintro ⟨b, answers, hb, hanswers, rfl⟩
      exact ⟨b, hb, answers, hanswers, rfl⟩

theorem Value.texts?_textsValue (ts : List Text) : (textsValue ts).texts? = some ts := by
  show (ts.map Value.text).mapM Value.text? = some ts
  rw [mapM_eq_some_iff, List.forall₂_map_left_iff, List.forall₂_same]
  exact fun _ _ => rfl

theorem textsValue_injective {ts us : List Text} (h : textsValue ts = textsValue us) : ts = us := by
  have := congrArg Value.texts? h
  rw [Value.texts?_textsValue, Value.texts?_textsValue] at this
  exact Option.some.inj this

/-! ## Tables -/

namespace Frequency

variable {K : Type} [DecidableEq K] [Hashable K] {key : K → Value} {key? : Value → Option K}

/-- **A table is read back** if its keys and its counts are. -/
theorem ofValue?_toValue {f : Frequency K} (hkeys : ∀ e ∈ f.toList, key? (key e.1) = some e.1)
    (hcounts : ∀ e ∈ f.toList, fitsUnsigned 64 e.2 = true) :
    ofValue? key? (f.toValue key) = some f := by
  have hpairs : (f.toList.map fun e => Value.array [key e.1, .ofNat e.2]).mapM (pair? key?)
      = some f.toList := by
    rw [mapM_eq_some_iff, List.forall₂_map_left_iff, List.forall₂_same]
    intro e he
    simp [pair?, hkeys e he, Value.natural?_ofNat (hcounts e he)]
  have hsame : ofPairs f.toList = f := ext (toList_ofPairs_of_wellFormed f.wellFormed)
  show ((f.toList.map fun e => Value.array [key e.1, .ofNat e.2]).mapM (pair? key?)).bind
    (fun pairs => some (ofPairs pairs)) = _
  rw [hpairs, Option.bind_some, hsame]

/-- What a value says about a table: it is an array of pairs, and the table is the table of them. -/
theorem exists_of_ofValue? {f : Frequency K} {v : Value} (h : ofValue? key? v = some f) :
    ∃ items pairs, v = .array items ∧ items.mapM (pair? key?) = some pairs ∧ f = ofPairs pairs := by
  obtain ⟨items, hitems, h⟩ := Option.bind_eq_some_iff.1 h
  obtain ⟨pairs, hpairs, h⟩ := Option.bind_eq_some_iff.1 h
  cases h
  refine ⟨items, pairs, ?_, hpairs, rfl⟩
  cases v <;> cases hitems
  rfl

/-- Keys that are read are answers. -/
theorem exists_key_of_mem {pairs : List (K × Nat)} {items : List Value}
    (h : items.mapM (pair? key?) = some pairs) {e : K × Nat} (he : e ∈ (ofPairs pairs).toList) :
    ∃ v, key? v = some e.1 := by
  have hkey : e.1 ∈ (ofPairs pairs).keys := List.mem_map_of_mem he
  rw [(sumOf_ofPairs pairs).keys_eq, List.mem_eraseDups] at hkey
  obtain ⟨pair, hpair, heq⟩ := List.mem_map.1 hkey
  have hmem := (List.mem_filter.1 hpair).1
  rw [mapM_eq_some_iff] at h
  clear hkey hpair he
  induction h with
  | nil => cases hmem
  | @cons item pair' items pairs hitem _ ih =>
    rcases List.mem_cons.1 hmem with rfl | hmem
    · unfold pair? at hitem
      split at hitem
      · next k n =>
        obtain ⟨k', hk', hitem⟩ := Option.bind_eq_some_iff.1 hitem
        obtain ⟨n', -, hitem⟩ := Option.bind_eq_some_iff.1 hitem
        cases hitem
        exact ⟨k, heq ▸ hk'⟩
      · cases hitem
    · exact ih hmem

end Frequency

/-! ## Members by name -/

/-- The only member of a name answers a question. -/
def Holds {α : Type} (members : List (Text × Value)) (name : String) (ask : Value → Option α)
    (a : α) : Prop :=
  ∃ v, onlyMember? members name = some v ∧ ask v = some a

theorem filter_key_of_nodup {members : List (Text × Value)} (hnodup : (members.map Prod.fst).Nodup)
    {m : Text × Value} (hm : m ∈ members) : members.filter (·.1 = m.1) = [m] := by
  induction members with
  | nil => cases hm
  | cons e members ih =>
    rw [List.map_cons, List.nodup_cons] at hnodup
    rcases List.mem_cons.1 hm with rfl | hm
    · have hnone : members.filter (·.1 = m.1) = [] := by
        rw [List.filter_eq_nil_iff]
        intro e he heq
        exact hnodup.1 (of_decide_eq_true heq ▸ List.mem_map_of_mem he)
      rw [List.filter_cons_of_pos (by simp), hnone]
    · have hne : e.1 ≠ m.1 := fun heq => hnodup.1 (heq ▸ List.mem_map_of_mem hm)
      rw [List.filter_cons_of_neg (by simpa using hne), ih hnodup.2 hm]

/-- **Members are found in any order** and among members of other names. -/
theorem onlyMember?_of_perm {members known extra : List (Text × Value)}
    (h : members.Perm (known ++ extra)) (hnodup : (known.map Prod.fst).Nodup)
    (hextra : ∀ e ∈ extra, e.1 ∉ known.map Prod.fst) {name : String} {v : Value}
    (hmem : (name.toList, v) ∈ known) : onlyMember? members name = some v := by
  have hnone : extra.filter (·.1 = name.toList) = [] := by
    rw [List.filter_eq_nil_iff]
    intro e he heq
    exact hextra e he (of_decide_eq_true heq ▸ List.mem_map_of_mem hmem)
  have hfilter := h.filter (·.1 = name.toList)
  rw [List.filter_append, filter_key_of_nodup hnodup hmem, hnone, List.append_nil,
    List.perm_singleton] at hfilter
  unfold onlyMember?
  rw [hfilter]

section
variable {α β : Type} {members : List (Text × Value)} {name : String} {ask : Value → Option α}
  {f : α → Option β} {b : β}

/-- To go on behind a question is to have its answer. -/
theorem bind_ask_eq_some_iff :
    ((onlyMember? members name).bind fun v => (ask v).bind f) = some b ↔
      ∃ a, Holds members name ask a ∧ f a = some b := by
  rw [Option.bind_eq_some_iff]
  constructor
  · rintro ⟨v, hv, h⟩
    obtain ⟨a, ha, h⟩ := Option.bind_eq_some_iff.1 h
    exact ⟨a, ⟨v, hv, ha⟩, h⟩
  · rintro ⟨a, ⟨v, hv, ha⟩, h⟩
    exact ⟨v, hv, Option.bind_eq_some_iff.2 ⟨a, ha, h⟩⟩

theorem holds_iff_bind {a : α} :
    Holds members name ask a ↔ (onlyMember? members name).bind ask = some a :=
  Option.bind_eq_some_iff.symm

theorem bind_answer_eq_some_iff :
    ((onlyMember? members name).bind ask).bind f = some b ↔
      ∃ a, Holds members name ask a ∧ f a = some b := by
  rw [Option.bind_assoc]
  exact bind_ask_eq_some_iff

end

/-! ## Parts of records -/

/-- The member of a number. -/
def numberMember (number : String × Nat) : Text × Value :=
  (number.1.toList, .ofNat number.2)

/-- The member of a table of texts. -/
def tableMember (table : String × Frequency Text) : Text × Value :=
  (table.1.toList, table.2.toValue .text)

theorem keys_numberMembers (numbers : List (String × Nat)) :
    (numbers.map numberMember).map Prod.fst = (numbers.map Prod.fst).map String.toList := by
  rw [List.map_map, List.map_map]
  rfl

theorem keys_tableMembers (tables : List (String × Frequency Text)) :
    (tables.map tableMember).map Prod.fst = (tables.map Prod.fst).map String.toList := by
  rw [List.map_map, List.map_map]
  rfl

namespace Snapshot

/-- Members say what the snapshot is. -/
structure HeldIn (s : Snapshot) (members : List (Text × Value)) : Prop where
  name : Holds members "name" Value.text? s.name
  commit : Holds members "commit_hash" Value.text? s.commit
  date : Holds members "date" Value.signed? s.date
  description : Holds members "description" Value.text? s.description

theorem ofMembers?_eq_some_iff {s : Snapshot} {members : List (Text × Value)} :
    ofMembers? members = some s ↔ s.HeldIn members := by
  unfold ofMembers?
  simp only [Option.bind_eq_bind, bind_ask_eq_some_iff]
  constructor
  · rintro ⟨name, hname, commit, hcommit, date, hdate, description, hdescription, h⟩
    cases h
    exact ⟨hname, hcommit, hdate, hdescription⟩
  · intro h
    exact ⟨_, h.name, _, h.commit, _, h.date, _, h.description, rfl⟩

/-- Where its members are found, they say what a snapshot is. -/
theorem heldIn_of_find {s : Snapshot} {members : List (Text × Value)}
    (hdate : fitsSigned 64 s.date = true) (hfind : ∀ (name : String) (v : Value),
      (name.toList, v) ∈ s.members → onlyMember? members name = some v) : s.HeldIn members where
  name := ⟨.text s.name, hfind _ _ (by simp [Snapshot.members]), rfl⟩
  commit := ⟨.text s.commit, hfind _ _ (by simp [Snapshot.members]), rfl⟩
  date := ⟨.integer s.date, hfind _ _ (by simp [Snapshot.members]), Value.signed?_integer hdate⟩
  description := ⟨.text s.description, hfind _ _ (by simp [Snapshot.members]), rfl⟩

end Snapshot

namespace MarkupCounts

/-- The numbers among the markup counts by name. -/
def numbers (m : MarkupCounts) : List (String × Nat) := [
  ("part_count", m.parts),
  ("chapter_count", m.chapters),
  ("section_count", m.sections),
  ("subsection_count", m.subsections),
  ("subsubsection_count", m.subsubsections),
  ("page_cross_ref_count", m.pageReferences),
  ("other_cross_ref_count", m.otherReferences),
  ("figure_count", m.figures),
  ("subfigure_count", m.subfigures),
  ("display_equation_count", m.displayEquations),
  ("equation_environment_count", m.equationEnvironments),
  ("equation_count", m.equations),
  ("inline_equation_count", m.inlineEquations),
  ("dollar_equation_count", m.dollarEquations),
  ("subequation_count", m.subequations),
  ("listing_count", m.listings),
  ("table_count", m.tables),
  ("includegraphics_count", m.includedGraphics),
  ("inputminted_count", m.inputListings),
  ("citation_count", m.citations),
  ("index_count", m.indexEntries),
  ("footnote_count", m.footnotes)]

/-- The tables of names among the markup counts. -/
def namedTables (m : MarkupCounts) : List (String × Frequency Text) := [
  ("command_frequency", m.commands),
  ("environment_frequency", m.environments)]

theorem members_eq (m : MarkupCounts) : m.members = m.numbers.map numberMember
    ++ ("subfigures_per_figure".toList, m.subfiguresPerFigure.toValue .ofNat)
      :: m.namedTables.map tableMember
    ++ [("citation_keys_used".toList, textsValue m.citationGroups)] :=
  rfl

/-- Members say what the markup counts are. -/
structure HeldIn (m : MarkupCounts) (members : List (Text × Value)) : Prop where
  numbers : ∀ c ∈ m.numbers, Holds members c.1 Value.natural? c.2
  figures : Holds members "subfigures_per_figure" (Frequency.ofValue? Value.natural?)
    m.subfiguresPerFigure
  tables : ∀ f ∈ m.namedTables, Holds members f.1 (Frequency.ofValue? Value.text?) f.2
  citationGroups : Holds members "citation_keys_used" Value.texts? m.citationGroups

theorem ofMembers?_eq_some_iff {m : MarkupCounts} {members : List (Text × Value)} :
    ofMembers? members = some m ↔ m.HeldIn members := by
  unfold ofMembers?
  constructor
  · intro h
    dsimp only at h
    iterate 22 obtain ⟨_, _, h⟩ := bind_answer_eq_some_iff.1 h
    obtain ⟨figures, hfigures, h⟩ := bind_ask_eq_some_iff.1 h
    iterate 2 obtain ⟨_, _, h⟩ := bind_answer_eq_some_iff.1 h
    obtain ⟨groups, hgroups, h⟩ := bind_ask_eq_some_iff.1 h
    cases h
    refine ⟨?_, hfigures, ?_, hgroups⟩
    · simp [numbers, *]
    · simp [namedTables, *]
  · rintro ⟨hnumbers, ⟨figures, hfigures, hfigures'⟩, htables, groups, hgroups, hgroups'⟩
    simp only [numbers, List.forall_mem_cons, holds_iff_bind] at hnumbers
    simp only [namedTables, List.forall_mem_cons, holds_iff_bind] at htables
    simp only [Option.bind_eq_bind, hnumbers, hfigures, hfigures', htables, hgroups, hgroups',
      Option.bind_some]
    rfl

/-- Where their members are found, they say what markup counts are. -/
theorem heldIn_of_find {m : MarkupCounts} {members : List (Text × Value)}
    (hnumbers : ∀ c ∈ m.numbers, fitsUnsigned 64 c.2 = true)
    (hfigures : ∀ e ∈ m.subfiguresPerFigure.toList,
      fitsUnsigned 64 e.1 = true ∧ fitsUnsigned 64 e.2 = true)
    (htables : ∀ f ∈ m.namedTables, ∀ e ∈ f.2.toList, fitsUnsigned 64 e.2 = true)
    (hfind : ∀ (name : String) (v : Value),
      (name.toList, v) ∈ m.members → onlyMember? members name = some v) : m.HeldIn members := by
  rw [members_eq] at hfind
  constructor
  · intro c hc
    have hmem : numberMember c ∈ m.numbers.map numberMember := List.mem_map_of_mem hc
    exact ⟨_, hfind _ _ (List.mem_append_left _ (List.mem_append_left _ hmem)),
      Value.natural?_ofNat (hnumbers c hc)⟩
  · refine ⟨_, hfind _ _ (List.mem_append_left _ (List.mem_append_right _ List.mem_cons_self)), ?_⟩
    exact Frequency.ofValue?_toValue (fun e he => Value.natural?_ofNat (hfigures e he).1)
      fun e he => (hfigures e he).2
  · intro f hf
    have hmem : tableMember f ∈ m.namedTables.map tableMember := List.mem_map_of_mem hf
    refine ⟨_, hfind _ _ (List.mem_append_left _ (List.mem_append_right _
      (List.mem_cons_of_mem _ hmem))), ?_⟩
    exact Frequency.ofValue?_toValue (fun _ _ => rfl) (htables f hf)
  · exact ⟨_, hfind _ _ (List.mem_append_right _ (List.mem_singleton_self _)),
      Value.texts?_textsValue _⟩

end MarkupCounts

namespace WordCounts

/-- The numbers among the word counts by name. -/
def numbers (w : WordCounts) : List (String × Nat) := [
  ("word_count", w.words),
  ("unique_word_count", w.distinctWords),
  ("stem_count", w.stems),
  ("unique_stem_count", w.distinctStems)]

/-- The tables among the word counts by name. -/
def namedTables (w : WordCounts) : List (String × Frequency Text) := [
  ("word_frequency", w.wordFrequency),
  ("filtered_word_frequency", w.filteredWordFrequency),
  ("stem_frequency", w.stemFrequency),
  ("filtered_stem_frequency", w.filteredStemFrequency)]

theorem members_eq (w : WordCounts) :
    w.members = w.numbers.map numberMember ++ w.namedTables.map tableMember :=
  rfl

/-- Members say what the word counts are. -/
structure HeldIn (w : WordCounts) (members : List (Text × Value)) : Prop where
  numbers : ∀ c ∈ w.numbers, Holds members c.1 Value.natural? c.2
  tables : ∀ f ∈ w.namedTables, Holds members f.1 (Frequency.ofValue? Value.text?) f.2

theorem ofMembers?_eq_some_iff {w : WordCounts} {members : List (Text × Value)} :
    ofMembers? members = some w ↔ w.HeldIn members := by
  unfold ofMembers?
  constructor
  · intro h
    dsimp only at h
    iterate 8 obtain ⟨_, _, h⟩ := bind_answer_eq_some_iff.1 h
    cases h
    constructor
    · simp [numbers, *]
    · simp [namedTables, *]
  · rintro ⟨hnumbers, htables⟩
    simp only [numbers, List.forall_mem_cons, holds_iff_bind] at hnumbers
    simp only [namedTables, List.forall_mem_cons, holds_iff_bind] at htables
    simp only [Option.bind_eq_bind, hnumbers, htables, Option.bind_some]
    rfl

/-- Where their members are found, they say what word counts are. -/
theorem heldIn_of_find {w : WordCounts} {members : List (Text × Value)}
    (hnumbers : ∀ c ∈ w.numbers, fitsUnsigned 64 c.2 = true)
    (htables : ∀ f ∈ w.namedTables, ∀ e ∈ f.2.toList, fitsUnsigned 64 e.2 = true)
    (hfind : ∀ (name : String) (v : Value),
      (name.toList, v) ∈ w.members → onlyMember? members name = some v) : w.HeldIn members := by
  rw [members_eq] at hfind
  constructor
  · intro c hc
    have hmem : numberMember c ∈ w.numbers.map numberMember := List.mem_map_of_mem hc
    exact ⟨_, hfind _ _ (List.mem_append_left _ hmem), Value.natural?_ofNat (hnumbers c hc)⟩
  · intro f hf
    have hmem : tableMember f ∈ w.namedTables.map tableMember := List.mem_map_of_mem hf
    exact ⟨_, hfind _ _ (List.mem_append_right _ hmem),
      Frequency.ofValue?_toValue (fun _ _ => rfl) (htables f hf)⟩

end WordCounts

/-! ## Whole records -/

namespace Record

variable {r : Record} {members : List (Text × Value)}

/-- All numbers of a record by name. -/
def numbers (r : Record) : List (String × Nat) :=
  r.markup.numbers ++ r.words.numbers

/-- The tables of a record whose keys are texts, by name. -/
def namedTables (r : Record) : List (String × Frequency Text) :=
  r.markup.namedTables ++ r.words.namedTables

/-- The members of a record but the list of corrections. -/
def generalMembers (r : Record) : List (Text × Value) :=
  r.snapshot.members ++ r.markup.members ++ r.words.members

theorem members_eq (r : Record) :
    r.members = r.generalMembers ++ [(correctionsName, textsValue r.corrections)] :=
  rfl

/-- The names of all members of a record. -/
def names : List String :=
  let r : Record := {}
  ["name", "commit_hash", "date", "description"]
    ++ (r.markup.numbers.map Prod.fst
      ++ "subfigures_per_figure" :: r.markup.namedTables.map Prod.fst ++ ["citation_keys_used"])
    ++ (r.words.numbers.map Prod.fst ++ r.words.namedTables.map Prod.fst)
    ++ ["corrections_applied"]

theorem keys_members (r : Record) : r.members.map Prod.fst = names.map String.toList := by
  unfold names
  rw [members_eq, generalMembers, MarkupCounts.members_eq, WordCounts.members_eq]
  simp only [List.map_append, List.map_cons, keys_numberMembers, keys_tableMembers]
  rfl

/-- No name stands twice. -/
theorem keys_nodup (r : Record) : (r.members.map Prod.fst).Nodup := by
  have hnames : names.Nodup := by decide +kernel
  rw [keys_members]
  exact hnames.map fun _ _ => String.toList_inj.1

/-- Members say what the record is, but for the corrections. -/
structure HeldIn (r : Record) (members : List (Text × Value)) : Prop where
  snapshot : r.snapshot.HeldIn members
  markup : r.markup.HeldIn members
  words : r.words.HeldIn members

/-- **A record is read exactly from the members that say what it is.** -/
theorem ofMembers?_eq_some_iff {corrections : List Text} :
    ofMembers? members corrections = some r ↔ r.HeldIn members ∧ r.corrections = corrections := by
  unfold ofMembers?
  simp only [Option.bind_eq_bind, Option.bind_eq_some_iff, Snapshot.ofMembers?_eq_some_iff,
    MarkupCounts.ofMembers?_eq_some_iff, WordCounts.ofMembers?_eq_some_iff]
  constructor
  · rintro ⟨snapshot, hsnapshot, markup, hmarkup, words, hwords, h⟩
    cases h
    exact ⟨⟨hsnapshot, hmarkup, hwords⟩, rfl⟩
  · rintro ⟨h, rfl⟩
    exact ⟨_, h.snapshot, _, h.markup, _, h.words, rfl⟩

/-- A text is read as a record if its members say what the record is and nothing follows. -/
theorem read_eq_ok_iff {t : Text} :
    read t = .ok r ↔ ∃ all, (Reader.members correctionsName).run .start (Token.ofText t)
        = .ok (all, []) ∧ r.HeldIn all.general ∧ r.corrections = all.texts.getD [] := by
  unfold read
  rw [bind_eq_ok_iff]
  constructor
  · rintro ⟨⟨all, rest⟩, hall, h⟩
    dsimp only at h
    cases hmembers : ofMembers? all.general (all.texts.getD []) with
    | none => rw [hmembers] at h; cases h
    | some r' =>
      rw [hmembers] at h
      cases rest with
      | nil =>
        cases h
        exact ⟨all, hall, ofMembers?_eq_some_iff.1 hmembers⟩
      | cons token rest => cases h
  · rintro ⟨all, hall, hr⟩
    refine ⟨(all, []), hall, ?_⟩
    dsimp only
    rw [ofMembers?_eq_some_iff.2 hr]
    rfl

/-! ## Writing and reading -/

/-- The date of a record fits 64 bits with a sign, and all its other numbers fit without. -/
structure InRange (r : Record) : Prop where
  /-- The date fits. -/
  date_fits : fitsSigned 64 r.snapshot.date = true
  /-- The numbers fit. -/
  numbers_fit : ∀ c ∈ r.numbers, fitsUnsigned 64 c.2 = true
  /-- The numbers of subfigures and their counts fit. -/
  figures_fit : ∀ e ∈ r.markup.subfiguresPerFigure.toList,
    fitsUnsigned 64 e.1 = true ∧ fitsUnsigned 64 e.2 = true
  /-- The counts of the other tables fit. -/
  tables_fit : ∀ f ∈ r.namedTables, ∀ e ∈ f.2.toList, fitsUnsigned 64 e.2 = true

theorem readBack_natural {n : Nat} (h : fitsUnsigned 64 n = true) (depth : Nat) :
    ReadBack depth (.ofNat n) :=
  .integer (by rwa [Token.fitsBits_ofNat]) depth

/-- A table is read back if its keys and its counts are. -/
theorem readBack_table {K : Type} [DecidableEq K] [Hashable K] {key : K → Value} {f : Frequency K}
    (hkeys : ∀ e ∈ f.toList, ReadBack 3 (key e.1))
    (hcounts : ∀ e ∈ f.toList, fitsUnsigned 64 e.2 = true) : ReadBack 1 (f.toValue key) := by
  refine .array (by decide) ?_
  intro v hv
  obtain ⟨e, he, rfl⟩ := List.mem_map.1 hv
  refine .array (by decide) ?_
  intro v hv
  rcases List.mem_pair.1 hv with rfl | rfl
  · exact hkeys e he
  · exact readBack_natural (hcounts e he) 3

theorem readBack_texts (ts : List Text) : ReadBack 1 (textsValue ts) := by
  refine .array (by decide) ?_
  intro v hv
  obtain ⟨t, -, rfl⟩ := List.mem_map.1 hv
  exact .text 2 t

/-- **Every member of a record is read back.** -/
theorem readBack_members (h : r.InRange) : ∀ m ∈ r.members, ReadBack 1 m.2 := by
  have hnumber : ∀ c ∈ r.numbers, ReadBack 1 (numberMember c).2 := fun c hc =>
    readBack_natural (h.numbers_fit c hc) 1
  have htable : ∀ f ∈ r.namedTables, ReadBack 1 (tableMember f).2 := fun f hf =>
    readBack_table (fun e _ => .text 3 e.1) (h.tables_fit f hf)
  have hfigures : ReadBack 1 (r.markup.subfiguresPerFigure.toValue .ofNat) :=
    readBack_table (fun e he => readBack_natural (h.figures_fit e he).1 3)
      fun e he => (h.figures_fit e he).2
  have hdate : ReadBack 1 (.integer r.snapshot.date) := by
    refine .integer ?_ 1
    rw [fitsBits, h.date_fits]
    rfl
  rw [numbers, List.forall_mem_append] at hnumber
  rw [namedTables, List.forall_mem_append] at htable
  simp only [members_eq, generalMembers, Snapshot.members, MarkupCounts.members_eq,
    WordCounts.members_eq, List.forall_mem_append, List.forall_mem_cons, List.forall_mem_map,
    List.not_mem_nil, false_implies, implies_true, and_true]
  have hsnapshot : ReadBack 1 (.text r.snapshot.name) ∧ ReadBack 1 (.text r.snapshot.commit)
      ∧ ReadBack 1 (.integer r.snapshot.date) ∧ ReadBack 1 (.text r.snapshot.description) :=
    ⟨.text 1 _, .text 1 _, hdate, .text 1 _⟩
  exact ⟨⟨⟨hsnapshot, ⟨hnumber.1, hfigures, htable.1⟩, readBack_texts _⟩, hnumber.2, htable.2⟩,
    readBack_texts _⟩

/-- Where its members are found, they say what a record is. -/
theorem heldIn_of_find (h : r.InRange) (hfind : ∀ (name : String) (v : Value),
    (name.toList, v) ∈ r.generalMembers → onlyMember? members name = some v) :
    r.HeldIn members := by
  have hnumbers := h.numbers_fit
  have htables := h.tables_fit
  rw [numbers, List.forall_mem_append] at hnumbers
  rw [namedTables, List.forall_mem_append] at htables
  constructor
  · refine Snapshot.heldIn_of_find h.date_fits fun name v hv => hfind name v ?_
    exact List.mem_append_left _ (List.mem_append_left _ hv)
  · refine MarkupCounts.heldIn_of_find hnumbers.1 h.figures_fit htables.1
      fun name v hv => hfind name v ?_
    exact List.mem_append_left _ (List.mem_append_right _ hv)
  · refine WordCounts.heldIn_of_find hnumbers.2 htables.2 fun name v hv => hfind name v ?_
    exact List.mem_append_right _ hv

/-- The members of a record as they are printed: their names and the texts of their values. -/
def printedMembers (r : Record) : List (Text × Text) :=
  r.members.map fun m => (m.1, printAt 1 m.2)

theorem toJson_eq (r : Record) : r.toJson = objectText r.printedMembers :=
  print_object r.members

theorem correctionsName_mem : correctionsName ∈ names.map String.toList :=
  List.mem_map_of_mem (List.mem_append_right _ (List.mem_singleton_self "corrections_applied"))

theorem toList_not_mem_names {name : String} (h : name ∉ names) :
    name.toList ∉ names.map String.toList := by
  intro hmem
  obtain ⟨known, hknown, heq⟩ := List.mem_map.1 hmem
  exact h (String.toList_inj.1 heq ▸ hknown)

/-- Members are no part of any record: no record has their names, and their values are JSON. -/
def AreUnknown (extra : List (Text × Text)) : Prop :=
  ∀ e ∈ extra, e.1 ∉ names.map String.toList ∧ ∃ v, IsValue 1 e.2 v

/-- A printed member holds a member, and no token of it is a fault. -/
def PrintedAs (entry : Text × Text) (m : Text × Value) : Prop :=
  Token.Sound entry.2 ∧ MemberReads correctionsName (entry.1, Token.ofText entry.2) m

theorem key_ne_correctionsName {m : Text × Value} (hm : m ∈ r.generalMembers) :
    m.1 ≠ correctionsName := by
  have hnodup := r.keys_nodup
  rw [members_eq, List.map_append, List.nodup_append] at hnodup
  exact hnodup.2.2 m.1 (List.mem_map_of_mem hm) correctionsName (by simp)

theorem printedAs_members (h : r.InRange) :
    List.Forall₂ PrintedAs r.printedMembers r.members := by
  rw [printedMembers, List.forall₂_map_left_iff, List.forall₂_same]
  intro m hm
  have hback := readBack_members h m hm 1
  refine ⟨hback.sound, ?_⟩
  rw [members_eq, List.mem_append, List.mem_singleton] at hm
  rcases hm with hm | rfl
  · exact .general (key_ne_correctionsName hm) hback
  · exact .texts (run_texts_printAt 1 r.corrections)

theorem exists_printedAs_unknown {extra : List (Text × Text)} (h : AreUnknown extra) :
    ∃ ms : List (Text × Value), List.Forall₂ PrintedAs extra ms
      ∧ ∀ m ∈ ms, m.1 ∉ names.map String.toList := by
  induction extra with
  | nil => exact ⟨[], .nil, by simp⟩
  | cons e extra ih =>
    obtain ⟨⟨hkey, v, hv⟩, hextra⟩ := List.forall_mem_cons.1 h
    obtain ⟨ms, hms, hkeys⟩ := ih hextra
    have hne : e.1 ≠ correctionsName := fun heq => hkey (heq ▸ correctionsName_mem)
    exact ⟨(e.1, v) :: ms, .cons ⟨hv.sound, .general hne hv⟩ hms,
      List.forall_mem_cons.2 ⟨hkey, hkeys⟩⟩

/-- A member of another name than those of a record is no list of corrections. -/
theorem ne_correctionsName_of_fresh {others : List (Text × Value)}
    (hfresh : ∀ m ∈ others, m.1 ∉ names.map String.toList) :
    ∀ m ∈ others, m.1 ≠ correctionsName :=
  fun m hm heq => hfresh m hm (heq ▸ correctionsName_mem)

/-- What the reader of members keeps as values when it has read the members of a record and
others. -/
theorem heldIn_of_lists (h : r.InRange) {ms others : List (Text × Value)} {all : Members}
    (hperm : ms.Perm (r.members ++ others))
    (hfresh : ∀ m ∈ others, m.1 ∉ names.map String.toList)
    (hlists : all.Lists correctionsName ms) : r.HeldIn all.general := by
  have hown : r.members.filter (·.1 ≠ correctionsName) = r.generalMembers := by
    have hall : r.generalMembers.filter (·.1 ≠ correctionsName) = r.generalMembers :=
      List.filter_eq_self.2 fun m hm => by simpa using key_ne_correctionsName hm
    rw [members_eq, List.filter_append, hall]
    simp
  have hforeign : others.filter (·.1 ≠ correctionsName) = others :=
    List.filter_eq_self.2 fun m hm => by simpa using ne_correctionsName_of_fresh hfresh m hm
  have hgeneral : all.general.Perm (r.generalMembers ++ others) := by
    have hfilter := hperm.filter (·.1 ≠ correctionsName)
    rwa [← hlists.general_eq, List.filter_append, hown, hforeign] at hfilter
  have hsub : r.generalMembers.Sublist r.members := List.sublist_append_left _ _
  rw [← keys_members r] at hfresh
  refine heldIn_of_find h fun name v hv => onlyMember?_of_perm hgeneral
    (r.keys_nodup.sublist (hsub.map _)) ?_ hv
  intro m hm hmem
  exact hfresh m hm ((hsub.map Prod.fst).subset hmem)

/-- What the reader of members keeps as texts when it has read the members of a record and
others. -/
theorem corrections_of_lists {ms others : List (Text × Value)} {all : Members}
    (hperm : ms.Perm (r.members ++ others))
    (hfresh : ∀ m ∈ others, m.1 ∉ names.map String.toList)
    (hlists : all.Lists correctionsName ms) : r.corrections = all.texts.getD [] := by
  have hlast : (correctionsName, textsValue r.corrections) ∈ r.members :=
    List.mem_append_right _ (List.mem_singleton_self _)
  have hforeign : others.filter (·.1 = correctionsName) = [] :=
    List.filter_eq_nil_iff.2 fun m hm => by simpa using ne_correctionsName_of_fresh hfresh m hm
  have hknown : ms.filter (·.1 = correctionsName)
      = [(correctionsName, textsValue r.corrections)] := by
    have hfilter := hperm.filter (·.1 = correctionsName)
    rwa [List.filter_append, filter_key_of_nodup r.keys_nodup hlast, hforeign, List.append_nil,
      List.perm_singleton] at hfilter
  have htexts := hlists.texts_eq
  rw [hknown] at htexts
  cases hall : all.texts with
  | none => rw [hall] at htexts; cases htexts
  | some ts =>
    rw [hall] at htexts
    exact textsValue_injective (List.head_eq_of_cons_eq htexts)

/-- **A printed record is read back**, in whatever order its members are and whatever members of
other names are among them. -/
theorem read_objectText (h : r.InRange) {extra entries : List (Text × Text)}
    (hextra : AreUnknown extra) (hentries : entries.Perm (r.printedMembers ++ extra)) :
    read (objectText entries) = .ok r := by
  obtain ⟨others, hothers, hfresh⟩ := exists_printedAs_unknown hextra
  obtain ⟨ms, hms, hperm⟩ := List.perm_comp_forall₂ hentries
    (List.rel_append (printedAs_members h) hothers)
  obtain ⟨hsound, hreads⟩ := (List.forall₂_and_left _ _).1 hms
  have honce : (ms.map Prod.fst).count correctionsName ≤ 1 := by
    have hnone : correctionsName ∉ others.map Prod.fst := by
      intro hmem
      obtain ⟨m, hm, heq⟩ := List.mem_map.1 hmem
      exact ne_correctionsName_of_fresh hfresh m hm heq
    rw [(hperm.map Prod.fst).count_eq, List.map_append, List.count_append,
      List.count_eq_zero.2 hnone, Nat.add_zero]
    exact List.nodup_iff_count_le_one.1 r.keys_nodup _
  obtain ⟨all, hlists, hrun⟩ := Reader.exists_run_object
    (List.forall₂_map_left_iff.2 hreads) honce []
  refine read_eq_ok_iff.2 ⟨all, ?_, heldIn_of_lists h hperm hfresh hlists,
    corrections_of_lists hperm hfresh hlists⟩
  rw [Token.ofText_objectText hsound]
  rwa [List.map_map] at hrun

/-! ## Reading and writing -/

/-- The counts in all tables fit 64 bits. -/
structure CountsFit (r : Record) : Prop where
  /-- Those of the numbers of subfigures fit. -/
  figures_fit : ∀ e ∈ r.markup.subfiguresPerFigure.toList, fitsUnsigned 64 e.2 = true
  /-- Those of texts fit. -/
  tables_fit : ∀ f ∈ r.namedTables, ∀ e ∈ f.2.toList, fitsUnsigned 64 e.2 = true

/-- **What is read is in range**, if no sum of counts is too large. -/
theorem HeldIn.inRange (h : r.HeldIn members) (hcounts : r.CountsFit) : r.InRange where
  date_fits := by
    obtain ⟨v, -, hv⟩ := h.snapshot.date
    exact Value.fits_of_signed? hv
  numbers_fit := by
    intro c hc
    have hheld : Holds members c.1 Value.natural? c.2 := by
      rcases List.mem_append.1 hc with hc | hc
      · exact h.markup.numbers c hc
      · exact h.words.numbers c hc
    obtain ⟨v, -, hv⟩ := hheld
    exact Value.fits_of_natural? hv
  figures_fit := by
    intro e he
    refine ⟨?_, hcounts.figures_fit e he⟩
    obtain ⟨v, -, hv⟩ := h.markup.figures
    obtain ⟨items, pairs, -, hpairs, heq⟩ := Frequency.exists_of_ofValue? hv
    rw [heq] at he
    obtain ⟨k, hk⟩ := Frequency.exists_key_of_mem hpairs he
    exact Value.fits_of_natural? hk
  tables_fit := hcounts.tables_fit

/-- Where a member is not the list of corrections, the reader of members has it, too. -/
theorem onlyMember?_of_lists {all : Members} (h : all.Lists correctionsName members)
    {name : String} (hname : name.toList ≠ correctionsName) :
    onlyMember? all.general name = onlyMember? members name := by
  have hsame : all.general.filter (·.1 = name.toList) = members.filter (·.1 = name.toList) := by
    rw [h.general_eq, List.filter_filter]
    refine List.filter_congr fun m _ => ?_
    by_cases hm : m.1 = name.toList
    · simp [hm, hname]
    · simp [hm]
  unfold onlyMember?
  rw [hsame]

end Record

/-- A table sums the pairs of a key and a count that the only member of a name holds. -/
def Frequency.ReadFrom {K : Type} [DecidableEq K] [Hashable K] (f : Frequency K)
    (key? : Value → Option K) (members : List (Text × Value)) (name : String) : Prop :=
  ∃ items pairs, onlyMember? members name = some (.array items)
    ∧ items.mapM (Frequency.pair? key?) = some pairs ∧ f.SumOf pairs

theorem Holds.readFrom {K : Type} [DecidableEq K] [Hashable K] {f : Frequency K}
    {key? : Value → Option K} {members : List (Text × Value)} {name : String}
    (h : Holds members name (Frequency.ofValue? key?) f) : f.ReadFrom key? members name := by
  obtain ⟨v, hv, hf⟩ := h
  obtain ⟨items, pairs, rfl, hpairs, rfl⟩ := Frequency.exists_of_ofValue? hf
  exact ⟨items, pairs, hv, hpairs, Frequency.sumOf_ofPairs pairs⟩

namespace Record

variable {r : Record}

theorem name_ne_correctionsName {f : String × Frequency Text} (hf : f ∈ r.namedTables) :
    f.1.toList ≠ correctionsName := by
  have hnames : ∀ name ∈ r.namedTables.map Prod.fst, name.toList ≠ correctionsName := by
    show ∀ name ∈ ({} : Record).namedTables.map Prod.fst, name.toList ≠ correctionsName
    decide
  exact hnames f.1 (List.mem_map_of_mem hf)

/-- **What is read as a record is an object whose pairs the tables sum.** -/
theorem exists_of_read {t : Text} (h : read t = .ok r) :
    ∃ members, Json.read t = .ok (.object members)
      ∧ r.markup.subfiguresPerFigure.ReadFrom Value.natural? members "subfigures_per_figure"
      ∧ ∀ f ∈ r.namedTables, f.2.ReadFrom Value.text? members f.1 := by
  obtain ⟨all, hall, hheld, -⟩ := read_eq_ok_iff.1 h
  obtain ⟨members, hlists, hvalue⟩ := Reader.exists_members_of_run hall
  have htransfer {α : Type} {name : String} {ask : Value → Option α} {a : α}
      (hname : name.toList ≠ correctionsName) (h : Holds all.general name ask a) :
      Holds members name ask a := by
    rwa [Holds, onlyMember?_of_lists hlists hname] at h
  refine ⟨members, Reader.runText_eq_ok_iff.2 hvalue,
    (htransfer (by decide) hheld.markup.figures).readFrom, ?_⟩
  intro f hf
  refine (htransfer (name_ne_correctionsName hf) ?_).readFrom
  rcases List.mem_append.1 hf with hf | hf
  · exact hheld.markup.tables f hf
  · exact hheld.words.tables f hf

/-- **Reading undoes writing.** A record whose numbers fit 64 bits is read back from its JSON as it
was, and so it is when its members are permuted and members of unknown names are added. And whatever
text is read as a record, it is an object, the tables of the record sum the pairs in it, so that no
key stands twice and none counts zero, and the record is read back from its own JSON unless a sum is
too large. -/
theorem read_toJson :
    (∀ r : Record, r.InRange →
      read r.toJson = .ok r
        ∧ ∀ extra entries : List (Text × Text), AreUnknown extra →
          entries.Perm (r.printedMembers ++ extra) → read (objectText entries) = .ok r)
    ∧ ∀ (t : Text) (r : Record), read t = .ok r →
      (∃ members, Json.read t = .ok (.object members)
        ∧ r.markup.subfiguresPerFigure.ReadFrom Value.natural? members "subfigures_per_figure"
        ∧ ∀ f ∈ r.namedTables, f.2.ReadFrom Value.text? members f.1)
      ∧ (r.CountsFit → read r.toJson = .ok r) := by
  have hwritten (r : Record) (h : r.InRange) : read r.toJson = .ok r := by
    rw [toJson_eq]
    have hnone : AreUnknown [] := by
      intro e he
      cases he
    exact read_objectText h hnone (by rw [List.append_nil])
  constructor
  · intro r h
    exact ⟨hwritten r h, fun extra entries hextra hentries => read_objectText h hextra hentries⟩
  · intro t r h
    refine ⟨exists_of_read h, ?_⟩
    intro hcounts
    obtain ⟨all, -, hheld, -⟩ := read_eq_ok_iff.1 h
    exact hwritten r (hheld.inRange hcounts)

/-- A name with a quote, a backslash and a control character, the lowest date and the highest
counts, with an unknown member in front. -/
theorem read_toJson_of_quoted_name :
    let r : Record := {
      snapshot := { name := ['"', '\\', '\x01', 'é', '😀'], date := -9223372036854775808 }
      words := {
        words := 18446744073709551615
        wordFrequency := .ofPairs [("a\tb".toList, 18446744073709551615), ([], 2)] }
      corrections := ["a\nb".toList] }
    let extra := [("note".toList, "[1.5e3, \x7b\"a\": null\x7d]".toList)]
    r.InRange ∧ AreUnknown extra
      ∧ (extra ++ r.printedMembers).Perm (r.printedMembers ++ extra)
      ∧ read (objectText (extra ++ r.printedMembers)) = .ok r
      ∧ r.CountsFit ∧ read r.toJson = .ok r := by
  intro r extra
  have htable : ∀ e ∈ r.words.wordFrequency.toList, fitsUnsigned 64 e.2 = true := by
    show ∀ e ∈ (Frequency.ofPairs [("a\tb".toList, 18446744073709551615), ([], 2)]).toList, _
    rw [Frequency.toList_ofPairs]
    decide
  have hnone : ∀ e ∈ (∅ : Frequency Text).toList, fitsUnsigned 64 e.2 = true := by
    intro e he
    cases he
  have hcounts : r.CountsFit := by
    constructor
    · intro e he
      cases he
    · intro f hf
      simp only [namedTables, MarkupCounts.namedTables, WordCounts.namedTables, List.cons_append,
        List.nil_append, List.mem_cons, List.not_mem_nil, or_false] at hf
      rcases hf with rfl | rfl | rfl | rfl | rfl | rfl
      · exact hnone
      · exact hnone
      · exact htable
      · exact hnone
      · exact hnone
      · exact hnone
  have hrange : r.InRange := {
    date_fits := by decide
    numbers_fit := by
      show ∀ c ∈ r.numbers, fitsUnsigned 64 c.2 = true
      decide
    figures_fit := by
      intro e he
      cases he
    tables_fit := hcounts.tables_fit }
  have hextra : AreUnknown extra := by
    intro e he
    rw [List.mem_singleton.1 he]
    refine ⟨toList_not_mem_names (by decide +kernel), ?_⟩
    let note := "[1.5e3, \x7b\"a\": null\x7d]".toList
    have hok : (Reader.value.runText (.start 1) note).isOk = true := by
      unfold note
      decide +kernel
    cases hvalue : Reader.value.runText (.start 1) note with
    | error fault => rw [hvalue] at hok; cases hok
    | ok v => exact ⟨v, Reader.runText_eq_ok_iff.1 hvalue⟩
  obtain ⟨hwritten, hread⟩ := read_toJson
  obtain ⟨-, hentries⟩ := hwritten r hrange
  have hperm : (extra ++ r.printedMembers).Perm (r.printedMembers ++ extra) :=
    List.perm_append_comm
  have hpermuted := hentries extra _ hextra hperm
  exact ⟨hrange, hextra, hperm, hpermuted, hcounts, (hread _ r hpermuted).2 hcounts⟩

end Record

end TexCensus
