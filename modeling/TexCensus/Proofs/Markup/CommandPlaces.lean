import Mathlib.Algebra.GroupWithZero.Nat
import Mathlib.Data.Nat.Count
import TexCensus.Proofs.Frequency.Merge
import TexCensus.Proofs.Markup.Commands

/-!
# Counts of commands as numbers of places

A search that takes commands as long as it can and never looks at a place twice counts what stands
at the places of the text (`Markup.counts_commandPlaces`). A name is counted where it stands with
its backslash and no character of words behind it, so no command counts for the beginning of a
longer one. Whatever is counted by name is such a number of places, or the sum of two.
-/

namespace TexCensus

namespace Markup

open Pattern

variable {t command : Text} {place : Nat}

/-! ## Places -/

/-- Whether a command stands at a place and no longer one. -/
def StandsAt (t command : Text) (place : Nat) : Prop :=
  ∃ before after, t = before ++ command ++ after ∧ before.length = place
    ∧ beginsWord after = false

/-- Whether some command begins at a place: a backslash with a character of words behind it. -/
def BeginsAt (t : Text) (place : Nat) : Prop :=
  ∃ before after, t = before ++ '\\' :: after ∧ before.length = place ∧ beginsWord after = true

/-- Whether a text begins with some command. -/
def opensCommand (t : Text) : Bool :=
  (leadingCommand? t).isSome

theorem drop_eq_iff {behind : Text} (hne : behind ≠ []) :
    t.drop place = behind ↔ ∃ before, t = before ++ behind ∧ before.length = place := by
  constructor
  · rintro rfl
    have hlt : place < t.length := by simpa using hne
    exact ⟨t.take place, (List.take_append_drop place t).symm,
      List.length_take_of_le (Nat.le_of_lt hlt)⟩
  · rintro ⟨before, rfl, rfl⟩
    exact List.drop_left

theorem standsAt_iff (hne : command ≠ []) :
    StandsAt t command place ↔ beginsCommand command (t.drop place) = true := by
  rw [beginsCommand_iff]
  constructor
  · rintro ⟨before, after, ht, hplace, hafter⟩
    rw [List.append_assoc] at ht
    exact ⟨after, (drop_eq_iff (by simp [hne])).2 ⟨before, ht, hplace⟩, hafter⟩
  · rintro ⟨after, hdrop, hafter⟩
    obtain ⟨before, ht, hplace⟩ := (drop_eq_iff (by simp [hne])).1 hdrop
    exact ⟨before, after, by rw [ht, List.append_assoc], hplace, hafter⟩

theorem opensCommand_cons (c : Char) (rest : Text) :
    opensCommand (c :: rest) = true ↔ c = '\\' ∧ beginsWord rest = true := by
  rw [opensCommand, leadingCommand?]
  split
  · next h => simpa using h
  · next h => simpa using h

theorem beginsAt_iff : BeginsAt t place ↔ opensCommand (t.drop place) = true := by
  constructor
  · rintro ⟨before, after, ht, hplace, hafter⟩
    rw [(drop_eq_iff (List.cons_ne_nil '\\' after)).2 ⟨before, ht, hplace⟩]
    exact (opensCommand_cons '\\' after).2 ⟨rfl, hafter⟩
  · intro h
    cases hdrop : t.drop place with
    | nil => rw [hdrop] at h; cases h
    | cons c after =>
      rw [hdrop, opensCommand_cons] at h
      obtain ⟨rfl, hafter⟩ := h
      obtain ⟨before, ht, hplace⟩ := (drop_eq_iff (List.cons_ne_nil _ _)).1 hdrop
      exact ⟨before, after, ht, hplace, hafter⟩

/-- The places of a text that are found by what stands behind them. -/
def placesWhere (p : Text → Bool) (t : Text) : Finset Nat :=
  {place ∈ Finset.range t.length | p (t.drop place) = true}

/-- As many places are found as ends of the text. -/
theorem card_placesWhere {p : Text → Bool} (hp : p [] = false) (t : Text) :
    (placesWhere p t).card = t.tails.countP p := by
  rw [placesWhere, ← Nat.count_eq_card_filter_range]
  induction t with
  | nil => simp [hp]
  | cons c t ih =>
    rw [List.length_cons, Nat.count_succ', List.tails_cons, List.countP_cons, ← ih]
    rfl

/-! ## Names -/

/-- Whether a text can be the name of a command. -/
structure IsCommandName (name : Text) : Prop where
  /-- There is a name. -/
  ne_nil : name ≠ []
  /-- It has only characters of words. -/
  isWord : ∀ c ∈ name, Unicode.isWord c

/-- The places where a command stands. -/
def commandPlaces (t command : Text) : Finset Nat :=
  placesWhere (beginsCommand command) t

/-- The places where some command begins. -/
def allCommandPlaces (t : Text) : Finset Nat :=
  placesWhere opensCommand t

theorem lt_length_of_drop {p : Text → Bool} (hp : p [] = false) (h : p (t.drop place) = true) :
    place < t.length := by
  by_contra hge
  rw [List.drop_eq_nil_of_le (Nat.le_of_not_lt hge), hp] at h
  cases h

theorem mem_placesWhere {p : Text → Bool} (hp : p [] = false) :
    place ∈ placesWhere p t ↔ p (t.drop place) = true := by
  rw [placesWhere, Finset.mem_filter, Finset.mem_range]
  exact ⟨And.right, fun h => ⟨lt_length_of_drop hp h, h⟩⟩

theorem beginsCommand_nil (hne : command ≠ []) : beginsCommand command [] = false := by
  obtain ⟨c, command, rfl⟩ := List.exists_cons_of_ne_nil hne
  rfl

theorem mem_commandPlaces (hne : command ≠ []) :
    place ∈ commandPlaces t command ↔ StandsAt t command place := by
  rw [commandPlaces, mem_placesWhere (beginsCommand_nil hne), standsAt_iff hne]

theorem mem_allCommandPlaces : place ∈ allCommandPlaces t ↔ BeginsAt t place := by
  rw [allCommandPlaces, mem_placesWhere rfl, beginsAt_iff]

theorem get_eq_card_commandPlaces {name : Text} (h : IsCommandName name) (t : Text) :
    (commandFrequency t).get ('\\' :: name) = (commandPlaces t ('\\' :: name)).card := by
  rw [get_commandFrequency h.ne_nil h.isWord, commandPlaces,
    card_placesWhere (beginsCommand_nil (List.cons_ne_nil _ _))]

theorem total_eq_card_allCommandPlaces (t : Text) :
    (commandFrequency t).total = (allCommandPlaces t).card := by
  rw [commandFrequency, Frequency.total_count, hits_command, List.length_filterMap_eq_countP,
    allCommandPlaces, card_placesWhere rfl]
  rfl

/-- At one place stands one command. -/
theorem disjoint_commandPlaces {v w : Text} (hv : IsCommandName v) (hw : IsCommandName w)
    (hne : v ≠ w) (t : Text) :
    Disjoint (commandPlaces t ('\\' :: v)) (commandPlaces t ('\\' :: w)) := by
  refine Finset.disjoint_left.2 fun place hplace hplace' => hne ?_
  rw [commandPlaces, mem_placesWhere (beginsCommand_nil (List.cons_ne_nil _ _))] at hplace hplace'
  have hleads := (leadingCommand?_eq_some_iff hv.ne_nil hv.isWord _).2 hplace
  have hleads' := (leadingCommand?_eq_some_iff hw.ne_nil hw.isWord _).2 hplace'
  exact (List.cons.inj (Option.some.inj (hleads.symm.trans hleads'))).2

/-! ## Keys -/

theorem exists_name_of_leadingCommand? (h : leadingCommand? t = some command) :
    ∃ name, command = '\\' :: name ∧ IsCommandName name := by
  obtain ⟨w, rest, rfl, rfl, hw, hrest⟩ := leadingCommand?_eq_some h
  refine ⟨w, rfl, ?_, hw⟩
  rintro rfl
  have hopens : opensCommand ('\\' :: rest) = true := by
    rw [opensCommand]
    exact Option.isSome_of_eq_some h
  rw [opensCommand_cons, hrest] at hopens
  exact absurd hopens.2 Bool.false_ne_true

theorem exists_name_of_mem_keys (h : command ∈ (commandFrequency t).keys) :
    ∃ name, command = '\\' :: name ∧ IsCommandName name := by
  rw [commandFrequency, Frequency.mem_keys_count, hits_command] at h
  obtain ⟨behind, -, hleads⟩ := List.mem_filterMap.1 h
  exact exists_name_of_leadingCommand? hleads

/-- Of two commands that are counted one after the other, the first one begins an end of the text
in front of which the other one begins none. -/
theorem exists_tails_of_pair_sublist {v w : Text} (h : [v, w].Sublist (commandFrequency t).keys) :
    ∃ front behind last, t.tails = front ++ behind :: last ∧ leadingCommand? behind = some v
      ∧ ∀ u ∈ front, leadingCommand? u ≠ some w := by
  rw [commandFrequency, hits_command] at h
  obtain ⟨earlier, later, hhits, hearlier⟩ := Frequency.exists_append_of_pair_sublist_keys h
  obtain ⟨front, behind, last, htails, hbehind, rfl⟩ := exists_of_filterMap_eq_append_cons hhits
  exact ⟨front, behind, last, htails, hbehind,
    fun u hu hleads => hearlier (List.mem_filterMap.2 ⟨u, hu, hleads⟩)⟩

/-- **The keys stand in the order of their first places.** -/
theorem pairwise_keys_commandFrequency (t : Text) :
    (commandFrequency t).keys.Pairwise fun v w =>
      ∃ first ∈ commandPlaces t v, ∀ place ∈ commandPlaces t w, first < place := by
  rw [List.pairwise_iff_forall_sublist]
  intro v w hvw
  have hne : v ≠ w := by
    have hnodup := hvw.nodup (commandFrequency t).wellFormed.keys_nodup
    simpa using hnodup
  obtain ⟨v, rfl, hv⟩ := exists_name_of_mem_keys (hvw.subset (List.mem_cons_self ..))
  obtain ⟨w, rfl, hw⟩ := exists_name_of_mem_keys
    (hvw.subset (List.mem_cons_of_mem _ (List.mem_singleton_self _)))
  obtain ⟨front, behind, last, htails, hbehind, hfront⟩ := exists_tails_of_pair_sublist hvw
  have hmem {name : Text} (h : IsCommandName name) (place : Nat) :
      place ∈ commandPlaces t ('\\' :: name)
        ↔ leadingCommand? (t.drop place) = some ('\\' :: name) := by
    rw [commandPlaces, mem_placesWhere (beginsCommand_nil (List.cons_ne_nil _ _)),
      leadingCommand?_eq_some_iff h.ne_nil h.isWord]
  have htail (place : Nat) (h : place < t.tails.length) : t.tails[place] = t.drop place :=
    List.getElem_tails t place h
  have hdrop : t.drop front.length = behind := by
    have hlt : front.length < t.tails.length := by simp [htails]
    rw [← htail _ hlt]
    simp [htails]
  refine ⟨front.length, (hmem hv _).2 (hdrop ▸ hbehind), fun place hplace => ?_⟩
  rw [hmem hw] at hplace
  by_contra hle
  rcases Nat.lt_or_eq_of_le (Nat.le_of_not_lt hle) with hlt | rfl
  · -- An end of the text in front of the first place begins with the other command.
    have hlt' : place < t.tails.length := by
      rw [htails, List.length_append]
      omega
    refine hfront (t.drop place) ?_ hplace
    rw [← htail place hlt']
    simp [htails, List.getElem_append_left hlt]
  · rw [hdrop, hbehind] at hplace
    exact hne (Option.some.inj hplace)

/-! ## Counters -/

/-- The numbers that count commands, each with the names that it counts. -/
def commandCounters : List ((MarkupCounts → Nat) × List String) :=
  [(MarkupCounts.parts, ["part"]), (MarkupCounts.chapters, ["chapter"]),
    (MarkupCounts.sections, ["section"]), (MarkupCounts.subsections, ["subsection"]),
    (MarkupCounts.subsubsections, ["subsubsection"]), (MarkupCounts.pageReferences, ["pageref"]),
    (MarkupCounts.otherReferences, ["ref", "autoref"]),
    (MarkupCounts.includedGraphics, ["includegraphics"]),
    (MarkupCounts.inputListings, ["inputminted"]),
    (MarkupCounts.citations, ["cite", "citeauthor"]), (MarkupCounts.indexEntries, ["index"]),
    (MarkupCounts.footnotes, ["footnote"])]

theorem names_commandCounters : ∀ names ∈ commandCounters.map Prod.snd, names.length ≤ 2
    ∧ ∀ name ∈ names, name.toList ≠ [] ∧ name.toList.all Unicode.isWord = true := by
  decide

/-- A counter looks its names up in the table of commands. -/
theorem counter_eq_sum_get (t : Text) : ∀ counter ∈ commandCounters, counter.1 (counts t)
    = (counter.2.map fun name => (commandFrequency t).get ('\\' :: name.toList)).sum := by
  simp only [commandCounters, List.forall_mem_cons]
  exact ⟨rfl, rfl, rfl, rfl, rfl, rfl, rfl, rfl, rfl, rfl, rfl, rfl, by simp⟩

theorem counter_eq_sum_card (t : Text) : ∀ counter ∈ commandCounters, counter.1 (counts t)
    = (counter.2.map fun name => (commandPlaces t ('\\' :: name.toList)).card).sum := by
  intro counter hcounter
  obtain ⟨-, hnames⟩ := names_commandCounters _ (List.mem_map_of_mem hcounter)
  rw [counter_eq_sum_get t counter hcounter]
  refine congrArg List.sum (List.map_congr_left fun name hname => ?_)
  obtain ⟨hne, hword⟩ := hnames name hname
  exact get_eq_card_commandPlaces ⟨hne, List.all_eq_true.1 hword⟩ t

/-- **Commands are counted by their places.** A command is counted once for each place where its
backslash and its name stand with no character of words behind them, and all commands together once
for each backslash in front of such a character. Different names stand at different places, so a
longer command counts nothing for its beginnings. The keys come in the order of their first places,
and every number that counts commands by name is the number of places of one name or of two. -/
theorem counts_commandPlaces (t : Text) :
    let m := counts t
    (∀ name, IsCommandName name →
      m.commands.get ('\\' :: name) = (commandPlaces t ('\\' :: name)).card
        ∧ (∀ place, place ∈ commandPlaces t ('\\' :: name) ↔ StandsAt t ('\\' :: name) place)
        ∧ ∀ other, IsCommandName other → other ≠ name →
            Disjoint (commandPlaces t ('\\' :: other)) (commandPlaces t ('\\' :: name)))
      ∧ m.commandTotal = (allCommandPlaces t).card
      ∧ (∀ place, place ∈ allCommandPlaces t ↔ BeginsAt t place)
      ∧ (∀ key ∈ m.commands.keys, ∃ name, key = '\\' :: name ∧ IsCommandName name)
      ∧ m.commands.keys.Pairwise (fun v w =>
          ∃ first ∈ commandPlaces t v, ∀ place ∈ commandPlaces t w, first < place)
      ∧ ∀ counter ∈ commandCounters, counter.2.length ≤ 2 ∧ counter.1 m
          = (counter.2.map fun name => (commandPlaces t ('\\' :: name.toList)).card).sum := by
  intro m
  refine ⟨fun name hname => ⟨get_eq_card_commandPlaces hname t,
      fun place => mem_commandPlaces (List.cons_ne_nil _ _),
      fun other hother hne => disjoint_commandPlaces hother hname hne t⟩,
    total_eq_card_allCommandPlaces t, fun place => mem_allCommandPlaces,
    fun key => exists_name_of_mem_keys, pairwise_keys_commandFrequency t,
    fun counter hcounter => ⟨?_, counter_eq_sum_card t counter hcounter⟩⟩
  exact (names_commandCounters _ (List.mem_map_of_mem hcounter)).1

/-- A command behind another backslash, and twice the beginning of a longer one. -/
example : commandPlaces "\\\\ref \\reference \\ref_".toList "\\ref".toList = {1} := by
  decide +kernel

end Markup

end TexCensus
