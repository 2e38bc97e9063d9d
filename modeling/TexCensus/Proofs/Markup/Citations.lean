import Mathlib.Algebra.BigOperators.Group.List.Basic
import Mathlib.Algebra.GroupWithZero.Nat
import Mathlib.Data.List.Forall2
import TexCensus.Proofs.Markup.Commands
import TexCensus.Proofs.Pattern.Stretches

/-!
# Citations and their groups

Citations are counted as commands, and their groups are read off by a search that goes on behind each
group. A command in a group is counted as well, but that search passes it over: the citations are as
many as the groups and the citation commands in the groups together (`Markup.citations_eq`).
-/

namespace TexCensus.Markup

open Pattern

/-! ## Citation commands -/

/-- The commands that cite. -/
def citationNames : List Text :=
  ['\\' :: "cite".toList, '\\' :: "citeauthor".toList]

/-- Whether a text begins with a citation command. -/
def beginsCitation (t : Text) : Bool :=
  citationNames.any fun name => beginsCommand name t

/-- The number of places in a text where a citation command stands. -/
def citationPlaces (t : Text) : Nat :=
  t.tails.countP beginsCitation

theorem beginsCitation_iff {t : Text} : beginsCitation t = true ↔
    ∃ name ∈ citationNames, ∃ rest, t = name ++ rest ∧ beginsWord rest = false := by
  simp only [beginsCitation, List.any_eq_true, beginsCommand_iff]

@[simp] theorem citationPlaces_nil : citationPlaces [] = 0 := by
  decide

theorem citationPlaces_cons (c : Char) (t : Text) :
    citationPlaces (c :: t) = citationPlaces t + if beginsCitation (c :: t) then 1 else 0 := by
  rw [citationPlaces, List.tails_cons, List.countP_cons]
  rfl

/-- No place has two names at once. -/
theorem not_beginsCommand_both {t : Text}
    (hcite : beginsCommand ('\\' :: "cite".toList) t = true) :
    beginsCommand ('\\' :: "citeauthor".toList) t = false := by
  rw [Bool.eq_false_iff]
  intro hauthor
  obtain ⟨rest, rfl, hrest⟩ := beginsCommand_iff.1 hcite
  obtain ⟨behind, htext, -⟩ := beginsCommand_iff.1 hauthor
  have hname : '\\' :: "citeauthor".toList = '\\' :: "cite".toList ++ "author".toList := by decide
  rw [hname, List.append_assoc, List.append_cancel_left_eq] at htext
  have hword : beginsWord "author".toList = true := by decide
  rw [htext, beginsWord_append (by decide), hword] at hrest
  cases hrest

/-- Of two conditions that exclude each other, what meets one is counted together. -/
theorem countP_add_countP {A : Type} {p q : A → Bool} {items : List A}
    (h : ∀ item ∈ items, p item = true → q item = false) :
    items.countP p + items.countP q = items.countP fun item => p item || q item := by
  induction items with
  | nil => rfl
  | cons item items ih =>
    rw [List.forall_mem_cons] at h
    rw [List.countP_cons, List.countP_cons, List.countP_cons, ← ih h.2]
    cases hp : p item with
    | false => simp [Nat.add_assoc]
    | true =>
      rw [h.1 hp]
      simp only [if_true, Bool.or_false, Bool.false_eq_true, if_false]
      omega

/-- **The citations that are counted are the places of citation commands.** -/
theorem citations_eq_places (t : Text) : (counts t).citations = citationPlaces t := by
  have hcite := @get_commandFrequency "cite".toList (by decide)
    (List.all_eq_true.1 (by decide)) t
  have hauthor := @get_commandFrequency "citeauthor".toList (by decide)
    (List.all_eq_true.1 (by decide)) t
  show (commandFrequency t).get ('\\' :: "cite".toList)
    + (commandFrequency t).get ('\\' :: "citeauthor".toList) = citationPlaces t
  rw [hcite, hauthor, countP_add_countP fun u _ => not_beginsCommand_both, citationPlaces]
  refine List.countP_congr fun u _ => ?_
  simp [beginsCitation, citationNames]

/-! ## Places in parts of a text -/

theorem exists_of_mem_citationNames {name : Text} (h : name ∈ citationNames) :
    ∃ w, name = '\\' :: w ∧ '\\' ∉ w := by
  simp only [citationNames, List.mem_cons, List.not_mem_nil, or_false] at h
  rcases h with rfl | rfl <;> exact ⟨_, rfl, by decide⟩

/-- No citation command begins where there is no backslash. -/
theorem citationPlaces_append_of_not_mem {w : Text} (hw : '\\' ∉ w) (rest : Text) :
    citationPlaces (w ++ rest) = citationPlaces rest := by
  induction w with
  | nil => rfl
  | cons c w ih =>
    rw [List.mem_cons, not_or] at hw
    have hno : beginsCitation (c :: (w ++ rest)) = false := by
      rw [Bool.eq_false_iff]
      intro hc
      obtain ⟨name, hname, behind, htext, -⟩ := beginsCitation_iff.1 hc
      obtain ⟨w', rfl, -⟩ := exists_of_mem_citationNames hname
      exact hw.1 (List.cons.inj htext).1.symm
    rw [List.cons_append, citationPlaces_cons, hno, ih hw.2]
    rfl

theorem isWord_closingBrace : Unicode.isWord '}' = false := by decide

/-- A citation command ends in front of a closing brace, as it does at the end of a text. -/
theorem beginsCitation_append_brace (t rest : Text) :
    beginsCitation (t ++ '}' :: rest) = beginsCitation t := by
  have hname : ∀ name ∈ citationNames, beginsCommand name (t ++ '}' :: rest) = beginsCommand name t := by
    intro name hname
    have hbrace : ∀ name ∈ citationNames, '}' ∉ name := by decide
    rw [beginsCommand, beginsCommand, dropStart?_append_cons (hbrace name hname)]
    cases dropStart? name t with
    | none => rfl
    | some behind =>
      cases behind with
      | nil =>
        show (!Unicode.isWord '}') = true
        rw [isWord_closingBrace]
        rfl
      | cons c behind => rfl
  rw [Bool.eq_iff_iff, beginsCitation, beginsCitation, List.any_eq_true, List.any_eq_true]
  exact exists_congr fun name => and_congr_right fun h => by rw [hname name h]

/-- The places in front of a closing brace and those behind it. -/
theorem citationPlaces_append_brace (t rest : Text) :
    citationPlaces (t ++ '}' :: rest) = citationPlaces t + citationPlaces rest := by
  induction t with
  | nil =>
    have hno : beginsCitation ('}' :: rest) = false :=
      (beginsCitation_append_brace [] rest).trans (by decide)
    rw [List.nil_append, citationPlaces_cons, hno, citationPlaces_nil]
    simp
  | cons c t ih =>
    have hsame := beginsCitation_append_brace (c :: t) rest
    rw [List.cons_append] at hsame
    rw [List.cons_append, citationPlaces_cons, hsame, ih, citationPlaces_cons]
    omega

/-- A citation command is one place. -/
theorem citationPlaces_name_append {name rest : Text} (hname : name ∈ citationNames)
    (hrest : beginsWord rest = false) : citationPlaces (name ++ rest) = citationPlaces rest + 1 := by
  have hbegins : beginsCitation (name ++ rest) = true :=
    beginsCitation_iff.2 ⟨name, hname, rest, rfl, hrest⟩
  obtain ⟨w, rfl, hw⟩ := exists_of_mem_citationNames hname
  rw [List.cons_append] at hbegins ⊢
  rw [citationPlaces_cons, if_pos hbegins, citationPlaces_append_of_not_mem hw]

/-! ## Groups -/

/-- Whether a text is nothing or a group in braces on one line that ends at its first brace. -/
def IsKeyGroup (g : Text) : Prop :=
  g = [] ∨ ∃ body, g = '{' :: (body ++ ['}']) ∧ '}' ∉ body ∧ '\n' ∉ body

theorem citationPlaces_group_append {g : Text} (hg : IsKeyGroup g) (rest : Text) :
    citationPlaces (g ++ rest) = citationPlaces g + citationPlaces rest := by
  rcases hg with rfl | ⟨body, rfl, -, -⟩
  · simp
  · have hgroup := citationPlaces_append_brace ('{' :: body) []
    rw [citationPlaces_nil, Nat.add_zero] at hgroup
    have htext : '{' :: (body ++ ['}']) ++ rest = '{' :: body ++ '}' :: rest := by simp
    rw [htext, citationPlaces_append_brace, ← hgroup, List.cons_append]

/-- The group of a citation stands behind its name. -/
theorem citationGroup_append {name g : Text} (hname : name ∈ citationNames) (hg : IsKeyGroup g) :
    citationGroup (name ++ g) = g := by
  have hbrace : ∀ name ∈ citationNames, (name.all fun c => decide (c ≠ '{')) = true := by decide
  rw [citationGroup, List.dropWhile_append_of_pos (List.all_eq_true.1 (hbrace name hname))]
  rcases hg with rfl | ⟨body, rfl, -, -⟩ <;> rfl

variable {k : Continuation} {n m : Nat} {t : Text}

/-- A group ends at its first closing brace, if everything behind it is well. -/
theorem runLazy_brace (hk : ∀ n t, (k n t).isSome)
    (h : runLazy .inline ((literal ['}']).run k) n t = some m) :
    ∃ body rest, t = body ++ '}' :: rest ∧ '}' ∉ body ∧ '\n' ∉ body
      ∧ k (n + body.length + 1) rest = some m := by
  induction t generalizing n with
  | nil => cases h
  | cons c t ih =>
    rw [runLazy] at h
    by_cases hc : c = '}'
    · subst hc
      obtain ⟨r, hr⟩ := Option.isSome_iff_exists.1 (hk (n + 1) t)
      rw [run_literal_cons, hr] at h
      exact ⟨[], t, rfl, List.not_mem_nil, List.not_mem_nil, hr.trans h⟩
    · rw [run_literal_of_head (by simpa using hc)] at h
      obtain ⟨hinline, h⟩ := Option.ite_none_right_eq_some.1 h
      have hline : c ≠ '\n' := by simpa [CharSet.has] using hinline
      obtain ⟨body, rest, rfl, hbrace, hbody, hrest⟩ := ih h
      refine ⟨c :: body, rest, rfl, ?_, ?_, ?_⟩
      · simp [Ne.symm hc, hbrace]
      · simp [Ne.symm hline, hbody]
      · rw [← hrest, List.length_cons]
        congr 1
        omega

/-- What the pattern of citations does behind the name. -/
def citationEnd : Continuation :=
  (seq wordEnd (optional bracedGroup)).run fun n _ => some n

theorem citationEnd_eq_some (h : citationEnd n t = some m) :
    beginsWord t = false ∧ ∃ g rest, t = g ++ rest ∧ IsKeyGroup g ∧ m = n + g.length := by
  have hend : beginsWord t = false ∧ (optional bracedGroup).run (fun n _ => some n) n t = some m := by
    cases t with
    | nil => exact ⟨rfl, h⟩
    | cons c t =>
      obtain ⟨hc, h⟩ := Option.ite_none_left_eq_some.1 h
      exact ⟨by simpa [beginsWord] using hc, h⟩
  refine ⟨hend.1, ?_⟩
  have hgroup := hend.2
  rw [run] at hgroup
  split at hgroup
  · next r hr =>
    obtain rfl := Option.some.inj hgroup
    cases t with
    | nil => cases hr
    | cons c t =>
      have hbrace : c = '{' := by
        by_contra hc
        have hnone : bracedGroup.run (fun n _ => some n) n (c :: t) = none :=
          run_literal_of_head (by simpa using hc)
        rw [hnone] at hr
        cases hr
      subst hbrace
      have hlazy : runLazy .inline ((literal ['}']).run fun n _ => some n) (n + 1) t = some r :=
        (run_literal_cons '{' t).symm.trans hr
      obtain ⟨body, rest, rfl, hbody, hline, hrest⟩ := runLazy_brace (fun _ _ => rfl) hlazy
      refine ⟨'{' :: (body ++ ['}']), rest, by simp, .inr ⟨body, rfl, hbody, hline⟩, ?_⟩
      rw [← Option.some.inj hrest]
      simp only [List.length_cons, List.length_append, List.length_nil]
      omega
  · exact ⟨[], t, rfl, .inl rfl, (Option.some.inj hgroup).symm⟩

/-! ## The search for citations -/

/-- **A match is a citation command with its group.** -/
theorem exists_of_matchLength?_citation (h : citation.matchLength? t = some n) :
    ∃ name ∈ citationNames, ∃ g rest, t = name ++ g ++ rest ∧ n = (name ++ g).length
      ∧ IsKeyGroup g ∧ beginsWord (g ++ rest) = false := by
  have hrun : (seq (literal "\\cite".toList) (optional (literal "author".toList))).run citationEnd 0 t
      = some n := h
  obtain ⟨name, behind, rfl, hname, hend⟩ := run_eq_some hrun
  obtain ⟨hword, g, rest, rfl, hg, rfl⟩ := citationEnd_eq_some hend
  have hmem : name ∈ citationNames := by
    obtain ⟨cite, author, rfl, rfl, rfl | rfl⟩ := hname <;> decide
  refine ⟨name, hmem, g, rest, (List.append_assoc ..).symm, ?_, hg, hword⟩
  rw [List.length_append, Nat.zero_add]

theorem isSome_matchLength?_citation (h : beginsCitation t = true) :
    (citation.matchLength? t).isSome := by
  obtain ⟨name, hname, rest, rfl, hrest⟩ := beginsCitation_iff.1 h
  refine isSome_matchLength?_iff.2 ⟨name, rest, rfl, ?_⟩
  have hend : (seq wordEnd (optional bracedGroup)).Takes [] rest :=
    ⟨[], [], rfl, ⟨rfl, hrest⟩, .inr rfl⟩
  simp only [citationNames, List.mem_cons, List.not_mem_nil, or_false] at hname
  rcases hname with rfl | rfl
  · exact ⟨"\\cite".toList, [], by decide, rfl, [], [], rfl, .inr rfl, hend⟩
  · exact ⟨"\\cite".toList, "author".toList, by decide, rfl, "author".toList, [], by decide,
      .inl rfl, hend⟩

theorem beginsCitation_of_matchLength? (h : citation.matchLength? t = some n) :
    beginsCitation t = true := by
  obtain ⟨name, hname, g, rest, rfl, -, -, hword⟩ := exists_of_matchLength?_citation h
  exact beginsCitation_iff.2 ⟨name, hname, g ++ rest, List.append_assoc .., hword⟩

/-- **The places of citation commands are the groups and the places in the groups.** -/
theorem citationPlaces_eq (t : Text) : citationPlaces t
    = (citationGroups t).length + ((citationGroups t).map citationPlaces).sum := by
  induction h : t.length using Nat.strongRecOn generalizing t with
  | _ size ih =>
    cases t with
    | nil => simp [citationGroups]
    | cons c rest =>
      rw [List.length_cons] at h
      cases hc : beginsCitation (c :: rest) with
      | false =>
        have hno : ∀ n, citation.matchLength? (c :: rest) ≠ some (n + 1) := fun n hn => by
          rw [beginsCitation_of_matchLength? hn] at hc
          cases hc
        have hgroups : citationGroups (c :: rest) = citationGroups rest := by
          rw [citationGroups, hits_of_no_match hno]
          rfl
        rw [hgroups, ← ih rest.length (by omega) rest rfl, citationPlaces_cons, hc]
        rfl
      | true =>
        obtain ⟨n, hn⟩ := Option.isSome_iff_exists.1 (isSome_matchLength?_citation hc)
        obtain ⟨name, hname, g, behind, htext, rfl, hg, hword⟩ :=
          exists_of_matchLength?_citation hn
        have hne : name ++ g ≠ [] := by
          obtain ⟨w, rfl, -⟩ := exists_of_mem_citationNames hname
          simp
        rw [htext] at hn
        have hgroups : citationGroups (c :: rest) = g :: citationGroups behind := by
          rw [htext, citationGroups, hits_append_of_match hne hn, List.map_cons,
            citationGroup_append hname hg]
          rfl
        have hlength : behind.length < size := by
          have h₁ := congrArg List.length htext
          have h₂ := List.length_pos_of_ne_nil hne
          rw [List.length_append, List.length_cons] at h₁
          omega
        rw [hgroups, htext, List.append_assoc, citationPlaces_name_append hname hword,
          citationPlaces_group_append hg, ih behind.length hlength behind rfl]
        simp only [List.length_cons, List.map_cons, List.sum_cons]
        omega

/-! ## Where the groups stand -/

/-- Whether a citation command stands at a place, with the given group or, if that is empty, with no
character of a longer name behind it. -/
def CitedAt (t : Text) (i : Nat) (g : Text) : Prop :=
  ∃ name ∈ citationNames, ∃ rest, t.drop i = name ++ g ++ rest ∧ beginsWord (g ++ rest) = false

theorem citedAt_of_mem_placedHits {found : Nat × Text} (h : found ∈ citation.placedHits t) :
    CitedAt t found.1 (citationGroup found.2) ∧ IsKeyGroup (citationGroup found.2) := by
  obtain ⟨a, b, rfl, hplace, -, hmatch⟩ := exists_of_mem_placedHits h
  obtain ⟨name, hname, g, rest, htext, hlength, hg, hword⟩ :=
    exists_of_matchLength?_citation hmatch
  obtain ⟨hfound, rfl⟩ := List.append_inj htext hlength
  rw [hfound, citationGroup_append hname hg]
  refine ⟨⟨name, hname, b, ?_, hword⟩, hg⟩
  rw [List.append_assoc, ← hplace, List.drop_left]

theorem citationGroups_eq (t : Text) :
    citationGroups t = (citation.placedHits t).map fun found => citationGroup found.2 := by
  rw [citationGroups, ← map_snd_placedHits, List.map_map]
  rfl

/-- **The groups stand in the order of the citations.** -/
theorem exists_places_citationGroups (t : Text) :
    ∃ places : List Nat, places.Pairwise (· < ·)
      ∧ List.Forall₂ (CitedAt t) places (citationGroups t) := by
  refine ⟨(citation.placedHits t).map Prod.fst, ?_, ?_⟩
  · rw [List.pairwise_map]
    refine (Segment.pairwise_placed 0 (citation.segments t)).imp_of_mem fun {a b} ha _ hab => ?_
    obtain ⟨-, -, -, -, hne, -⟩ := exists_of_mem_placedHits ha
    have := List.length_pos_of_ne_nil hne
    omega
  · rw [citationGroups_eq, List.forall₂_map_left_iff, List.forall₂_map_right_iff,
      List.forall₂_same]
    exact fun found h => (citedAt_of_mem_placedHits h).1

/-- **Citations are counted once for each group and once for each citation command in a group.** The
two numbers agree exactly if no group has such a command. The groups stand in the order of the
citations, and each is empty or one group in braces on a line. -/
theorem citations_eq (t : Text) :
    let m := counts t
    m.citations = m.citationGroups.length + (m.citationGroups.map citationPlaces).sum
      ∧ (m.citations = m.citationGroups.length ↔ ∀ g ∈ m.citationGroups, citationPlaces g = 0)
      ∧ (∃ places : List Nat, places.Pairwise (· < ·)
          ∧ List.Forall₂ (CitedAt t) places m.citationGroups)
      ∧ ∀ g ∈ m.citationGroups, IsKeyGroup g := by
  intro m
  have hcount : m.citations
      = m.citationGroups.length + (m.citationGroups.map citationPlaces).sum :=
    (citations_eq_places t).trans (citationPlaces_eq t)
  refine ⟨hcount, ?_, exists_places_citationGroups t, ?_⟩
  · rw [hcount, Nat.add_eq_left, List.sum_eq_zero_iff_forall_eq_nat, List.forall_mem_map]
  · intro g hg
    have hg : g ∈ (citation.placedHits t).map fun found => citationGroup found.2 :=
      citationGroups_eq t ▸ hg
    obtain ⟨found, hfound, rfl⟩ := List.mem_map.1 hg
    exact (citedAt_of_mem_placedHits hfound).2

/-- A citation in the group of another one is counted and has no group of its own. -/
example : citationGroups "\\cite\x7ba \\cite\x7bb\x7d".toList = ["\x7ba \\cite\x7bb\x7d".toList]
    ∧ citationPlaces "\\cite\x7ba \\cite\x7bb\x7d".toList = 2 := by
  decide +kernel

end TexCensus.Markup
