import Mathlib.Data.List.Basic
import TexCensus.Proofs.Text.Numerals

/-!
# Items that can be told from what follows

A way of writing items is self-delimiting if the beginning of a text shows which item is written
there and where it ends, whatever stands behind it (`SelfDelimiting`). Items of one length are
written so (`selfDelimiting_of_length`), and so are items with a mark behind them that stands in
none (`selfDelimiting_of_mark`). Such items can be written one behind the other
(`SelfDelimiting.append`) and in lists of any length (`SelfDelimiting.joinWith`).
-/

namespace TexCensus

/-- Whether the beginning of a text shows which item is written there and where it ends. -/
def SelfDelimiting {A : Type} (write : A → Text) : Prop :=
  ∀ ⦃a b : A⦄ ⦃s t : Text⦄, write a ++ s = write b ++ t → a = b ∧ s = t

variable {A B : Type} {write : A → Text} {writeNext : B → Text}

theorem SelfDelimiting.injective (h : SelfDelimiting write) : Function.Injective write :=
  fun a b hab => (h (s := []) (t := []) (by rw [hab])).1

/-! ## Single items -/

/-- Items of one length. -/
theorem selfDelimiting_of_length {n : Nat} (hlength : ∀ a, (write a).length = n)
    (hinj : Function.Injective write) : SelfDelimiting write := by
  intro a b s t h
  obtain ⟨hitem, hrest⟩ := List.append_inj h ((hlength a).trans (hlength b).symm)
  exact ⟨hinj hitem, hrest⟩

/-- A text in front of a mark that does not stand in it ends at the first mark. -/
theorem append_mark_inj {mark : Char} {x y s t : Text} (hx : mark ∉ x) (hy : mark ∉ y)
    (h : x ++ mark :: s = y ++ mark :: t) : x = y ∧ s = t := by
  induction x generalizing y with
  | nil =>
    cases y with
    | nil => exact ⟨rfl, (List.cons.inj h).2⟩
    | cons d y => exact absurd (List.cons.inj h).1 (List.ne_of_not_mem_cons hy)
  | cons c x ih =>
    cases y with
    | nil => exact absurd (List.cons.inj h).1.symm (List.ne_of_not_mem_cons hx)
    | cons d y =>
      obtain ⟨rfl, hbehind⟩ := List.cons.inj h
      obtain ⟨rfl, hrest⟩ := ih (List.not_mem_of_not_mem_cons hx) (List.not_mem_of_not_mem_cons hy)
        hbehind
      exact ⟨rfl, hrest⟩

/-- Items with a mark behind them that stands in none. -/
theorem selfDelimiting_of_mark {mark : Char} (hmark : ∀ a, mark ∉ write a)
    (hinj : Function.Injective write) : SelfDelimiting fun a => write a ++ [mark] := by
  intro a b s t h
  simp only [List.append_assoc, List.singleton_append] at h
  obtain ⟨hitem, hrest⟩ := append_mark_inj (hmark a) (hmark b) h
  exact ⟨hinj hitem, hrest⟩

/-- A decimal number ends at the first character that is no digit. -/
theorem selfDelimiting_decimal {mark : Char} (hmark : mark.isDigit = false) :
    SelfDelimiting fun n => decimal n ++ [mark] :=
  selfDelimiting_of_mark (not_mem_decimal hmark) fun _ _ => decimal_injective

/-! ## Several items -/

/-- Two items, one behind the other. -/
theorem SelfDelimiting.append (hw : SelfDelimiting write) (hn : SelfDelimiting writeNext) :
    SelfDelimiting fun pair : A × B => write pair.1 ++ writeNext pair.2 := by
  rintro ⟨a, b⟩ ⟨a', b'⟩ s t h
  simp only [List.append_assoc] at h
  obtain ⟨rfl, hnext⟩ := hw h
  obtain ⟨rfl, hrest⟩ := hn hnext
  exact ⟨rfl, hrest⟩

/-- A fixed text in front does not matter. -/
theorem SelfDelimiting.behind (hw : SelfDelimiting write) (front : Text) :
    SelfDelimiting fun a => front ++ write a := by
  intro a b s t h
  simp only [List.append_assoc, List.append_cancel_left_eq] at h
  exact hw h

/-- Whether no item begins with a character. -/
def BeginsOtherwise (mark : Char) (write : A → Text) : Prop :=
  ∀ a, ∃ c rest, c ≠ mark ∧ write a = c :: rest

variable {mark : Char}

theorem BeginsOtherwise.ne (h : BeginsOtherwise mark write) (a : A) (s t : Text) :
    write a ++ s ≠ mark :: t := by
  obtain ⟨c, rest, hc, hfirst⟩ := h a
  rw [hfirst, List.cons_append]
  exact fun heq => hc (List.cons.inj heq).1

/-- Items one behind the other, up to a mark that begins none. -/
theorem SelfDelimiting.flatMap (hw : SelfDelimiting write) (hfirst : BeginsOtherwise mark write) :
    SelfDelimiting fun items : List A => items.flatMap write ++ [mark] := by
  intro items others s t h
  induction items generalizing others with
  | nil =>
    cases others with
    | nil => exact ⟨rfl, (List.cons.inj h).2⟩
    | cons b others =>
      simp only [List.flatMap_nil, List.flatMap_cons, List.append_assoc] at h
      exact absurd h.symm (hfirst.ne b _ _)
  | cons a items ih =>
    cases others with
    | nil =>
      simp only [List.flatMap_nil, List.flatMap_cons, List.append_assoc] at h
      exact absurd h (hfirst.ne a _ _)
    | cons b others =>
      simp only [List.flatMap_cons, List.append_assoc] at h
      obtain ⟨rfl, hitems⟩ := hw h
      obtain ⟨rfl, hrest⟩ := ih (by simpa only [List.append_assoc] using hitems)
      exact ⟨rfl, hrest⟩

theorem joinWith_map_cons (sep : Text) (a : A) (items : List A) :
    TexCensus.joinWith sep ((a :: items).map write)
      = write a ++ items.flatMap fun b => sep ++ write b := by
  induction items generalizing a with
  | nil => simp
  | cons b items ih =>
    rw [List.map_cons, List.map_cons, joinWith_cons_cons, ← List.map_cons, ih, List.flatMap_cons,
      List.append_assoc, List.append_assoc]

/-- **Items in a list with separators, up to a mark.** The mark begins neither an item nor the
separator, so behind each item it is seen whether another one follows. -/
theorem SelfDelimiting.joinWith (hw : SelfDelimiting write) (hfirst : BeginsOtherwise mark write)
    {c : Char} (hc : c ≠ mark) (sep : Text) :
    SelfDelimiting fun items : List A =>
      TexCensus.joinWith (c :: sep) (items.map write) ++ [mark] := by
  have hsep : BeginsOtherwise mark fun a => (c :: sep) ++ write a :=
    fun a => ⟨c, sep ++ write a, hc, rfl⟩
  have hrests := (hw.behind (c :: sep)).flatMap hsep
  intro items others s t h
  cases items with
  | nil =>
    cases others with
    | nil => exact ⟨rfl, (List.cons.inj h).2⟩
    | cons b others =>
      simp only [joinWith_map_cons, List.map_nil, joinWith_nil, List.append_assoc] at h
      exact absurd h.symm (hfirst.ne b _ _)
  | cons a items =>
    cases others with
    | nil =>
      simp only [joinWith_map_cons, List.map_nil, joinWith_nil, List.append_assoc] at h
      exact absurd h (hfirst.ne a _ _)
    | cons b others =>
      simp only [joinWith_map_cons, List.append_assoc] at h
      obtain ⟨rfl, hitems⟩ := hw h
      obtain ⟨rfl, hrest⟩ := hrests (by simpa only [List.append_assoc] using hitems)
      exact ⟨rfl, hrest⟩

end TexCensus
