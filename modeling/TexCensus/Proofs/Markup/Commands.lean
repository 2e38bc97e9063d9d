import TexCensus.Markup.Counts
import TexCensus.Proofs.Frequency.Count
import TexCensus.Proofs.Pattern.Language

/-!
# Commands by their places

A command has no backslash but its first character, so no command hides another one: the commands
of a text are those that begin at its places (`Markup.hits_command`). How often a command occurs is
the number of places where its name stands and no character of words follows
(`Markup.get_commandFrequency`).
-/

namespace TexCensus.Markup

open Pattern

/-! ## One command -/

/-- The command that a text begins with. -/
def leadingCommand? : Text → Option Text
  | [] => none
  | c :: rest =>
    if c = '\\' ∧ beginsWord rest then some (c :: rest.takeWhile Unicode.isWord) else none

theorem leadingCommand?_of_ne {c : Char} (hc : c ≠ '\\') (rest : Text) :
    leadingCommand? (c :: rest) = none := by
  simp [leadingCommand?, hc]

theorem leadingCommand?_eq_some {t m : Text} (h : leadingCommand? t = some m) :
    ∃ w rest, m = '\\' :: w ∧ t = m ++ rest ∧ (∀ c ∈ w, Unicode.isWord c)
      ∧ beginsWord rest = false := by
  cases t with
  | nil => cases h
  | cons c rest =>
    rw [leadingCommand?, Option.ite_none_right_eq_some] at h
    obtain ⟨⟨rfl, -⟩, h⟩ := h
    obtain rfl := Option.some.inj h
    refine ⟨rest.takeWhile Unicode.isWord, rest.dropWhile Unicode.isWord, rfl, ?_, ?_,
      beginsWord_dropWhile rest⟩
    · rw [List.cons_append, List.takeWhile_append_dropWhile]
    · exact List.all_eq_true.1 List.all_takeWhile

theorem matchLength?_command (t : Text) :
    command.matchLength? t = (leadingCommand? t).map List.length := by
  cases t with
  | nil => rfl
  | cons c rest =>
    show (literal ['\\']).run ((greedyPlus .word).run fun n _ => some n) 0 (c :: rest) = _
    by_cases hc : c = '\\'
    · subst hc
      rw [run_literal_cons]
      show (one .word).run (runGreedy .word fun n _ => some n) 1 rest = _
      cases rest with
      | nil => rfl
      | cons d rest =>
        rw [run, runGreedy_all, leadingCommand?, beginsWord_cons]
        have hset : CharSet.word.has = Unicode.isWord := rfl
        rw [hset]
        by_cases hd : Unicode.isWord d
        · simp only [hd, if_true, and_true, Option.map_some, List.length_cons,
            List.takeWhile_cons, Option.some.injEq]
          omega
        · simp [hd]
    · rw [run_literal_of_head (by simpa using hc), leadingCommand?_of_ne hc]
      rfl

/-! ## All commands -/

theorem isWord_backslash : Unicode.isWord '\\' = false := by decide

/-- No command begins within a word. -/
theorem filterMap_tails_append {w : Text} (hw : ∀ c ∈ w, Unicode.isWord c) (rest : Text) :
    (w ++ rest).tails.filterMap leadingCommand? = rest.tails.filterMap leadingCommand? := by
  induction w with
  | nil => rfl
  | cons c w ih =>
    rw [List.forall_mem_cons] at hw
    have hc : c ≠ '\\' := by
      rintro rfl
      rw [isWord_backslash] at hw
      cases hw.1
    rw [List.cons_append, List.tails_cons, List.filterMap_cons_none (leadingCommand?_of_ne hc _),
      ih hw.2]

/-- **The commands of a text are those that begin at its places.** -/
theorem hits_command (t : Text) : command.hits t = t.tails.filterMap leadingCommand? := by
  induction h : t.length using Nat.strongRecOn generalizing t with
  | _ size ih =>
    cases t with
    | nil => simp [leadingCommand?]
    | cons c rest =>
      rw [List.length_cons] at h
      cases hc : leadingCommand? (c :: rest) with
      | none =>
        have hno : ∀ n, command.matchLength? (c :: rest) ≠ some (n + 1) := by
          simp [matchLength?_command, hc]
        rw [hits_of_no_match hno, List.tails_cons, List.filterMap_cons_none hc]
        exact ih rest.length (by omega) rest rfl
      | some m =>
        obtain ⟨w, behind, rfl, htext, hw, -⟩ := leadingCommand?_eq_some hc
        have hmatch : command.matchLength? ('\\' :: w ++ behind) = some ('\\' :: w).length := by
          rw [matchLength?_command, ← htext, hc]
          rfl
        have hlength : rest.length = w.length + behind.length := by
          simpa using congrArg List.length htext
        have htails : ('\\' :: w ++ behind).tails = ('\\' :: w ++ behind) :: (w ++ behind).tails :=
          List.tails_cons _ _
        rw [htext] at hc ⊢
        rw [hits_append_of_match (by simp) hmatch, ih behind.length (by omega) behind rfl, htails,
          List.filterMap_cons_some hc, filterMap_tails_append hw]

/-! ## One name -/

/-- Whether a text begins with a command of a given name, and with no longer one. -/
def beginsCommand (name t : Text) : Bool :=
  match dropStart? name t with
  | some rest => !beginsWord rest
  | none => false

theorem beginsCommand_iff {name t : Text} :
    beginsCommand name t = true ↔ ∃ rest, t = name ++ rest ∧ beginsWord rest = false := by
  unfold beginsCommand
  constructor
  · intro h
    split at h
    · next rest hrest =>
      exact ⟨rest, dropStart?_eq_some_iff.1 hrest, by simpa using h⟩
    · cases h
  · rintro ⟨rest, ht, hrest⟩
    rw [dropStart?_eq_some_iff.2 ht]
    simp [hrest]

theorem leadingCommand?_eq_some_iff {name : Text} (hne : name ≠ [])
    (hname : ∀ c ∈ name, Unicode.isWord c) (t : Text) :
    leadingCommand? t = some ('\\' :: name) ↔ beginsCommand ('\\' :: name) t = true := by
  rw [beginsCommand_iff]
  constructor
  · intro h
    obtain ⟨w, rest, hw, ht, -, hrest⟩ := leadingCommand?_eq_some h
    exact ⟨rest, ht, hrest⟩
  · rintro ⟨rest, rfl, hrest⟩
    have hbegins : beginsWord (name ++ rest) = true := by
      obtain ⟨c, name, rfl⟩ := List.exists_cons_of_ne_nil hne
      exact hname c (List.mem_cons_self ..)
    rw [List.cons_append, leadingCommand?, if_pos ⟨rfl, hbegins⟩,
      takeWhile_isWord_append hname hrest]

/-- **A command occurs as often as there are places where it stands.** -/
theorem get_commandFrequency {name : Text} (hne : name ≠ [])
    (hname : ∀ c ∈ name, Unicode.isWord c) (t : Text) :
    (commandFrequency t).get ('\\' :: name) = t.tails.countP (beginsCommand ('\\' :: name)) := by
  rw [commandFrequency, hits_command, Frequency.get_count_filterMap]
  refine List.countP_congr fun u _ => ?_
  rw [decide_eq_true_iff]
  exact leadingCommand?_eq_some_iff hne hname u

end TexCensus.Markup
