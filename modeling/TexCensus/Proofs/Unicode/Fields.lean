import TexCensus.Unicode.WhiteSpace

/-!
# Fields and blanks

A text is split into fields at white space, so fields hold none (`isField_of_mem_fields`). Fields
that are joined with a blank between neighbours are the fields of the joined text
(`fields_joinWith`); in particular two lists of fields with the same joined text are the same list.
-/

namespace TexCensus.Unicode

/-- Whether a text can be a field: it has characters, none of which is white space. -/
def IsField (t : Text) : Prop :=
  t ≠ [] ∧ ∀ c ∈ t, isWhiteSpace c = false

theorem isWhiteSpace_blank : isWhiteSpace ' ' = true := by decide

theorem IsField.blank_not_mem {w : Text} (h : IsField w) : ' ' ∉ w := by
  intro hblank
  have hspace := h.2 ' ' hblank
  rw [isWhiteSpace_blank] at hspace
  cases hspace

theorem fields_eq (t : Text) : fields t = (t.splitOnP isWhiteSpace).filter (!·.isEmpty) := by
  have hparts : t.foldr (fun c parts => if isWhiteSpace c then [] :: parts else consFirst c parts)
      [[]] = t.splitOnP isWhiteSpace := by
    induction t with
    | nil => rfl
    | cons c t ih =>
      rw [List.foldr_cons, ih, List.splitOnP_cons_eq_if_modifyHead]
      obtain ⟨part, parts, hparts⟩ :=
        List.exists_cons_of_ne_nil (List.splitOnP_ne_nil isWhiteSpace t)
      rw [hparts]
      rfl
  rw [fields, hparts]

@[simp] theorem fields_nil : fields [] = [] := rfl

/-- White space separates fields. -/
theorem fields_append_cons {c : Char} (hc : isWhiteSpace c = true) (a b : Text) :
    fields (a ++ c :: b) = fields a ++ fields b := by
  rw [fields_eq, List.splitOnP_append_cons a b hc, List.filter_append, fields_eq, fields_eq]

theorem IsField.fields_eq {w : Text} (h : IsField w) : fields w = [w] := by
  rw [Unicode.fields_eq, List.splitOnP_eq_singleton fun c hc => by simp [h.2 c hc]]
  simp [h.1]

/-- A text has no characters, or it is one field, or white space stands between two texts. -/
theorem fields_induction {motive : Text → Prop} (nil : motive [])
    (field : ∀ w, IsField w → motive w)
    (blank : ∀ a c b, isWhiteSpace c = true → motive a → motive b → motive (a ++ c :: b))
    (t : Text) : motive t := by
  induction hn : t.length using Nat.strongRecOn generalizing t with
  | _ size ih =>
    by_cases hsplit : t.any isWhiteSpace = true
    · obtain ⟨c, hc, hspace⟩ := List.any_eq_true.1 hsplit
      obtain ⟨a, b, rfl⟩ := List.append_of_mem hc
      rw [List.length_append, List.length_cons] at hn
      exact blank a c b hspace (ih a.length (by omega) a rfl) (ih b.length (by omega) b rfl)
    · rw [Bool.not_eq_true, List.any_eq_false] at hsplit
      cases t with
      | nil => exact nil
      | cons c t => exact field _ ⟨by simp, fun d hd => Bool.eq_false_iff.2 (hsplit d hd)⟩

/-- Fields hold no white space. -/
theorem isField_of_mem_fields {t w : Text} (h : w ∈ fields t) : IsField w := by
  induction t using fields_induction with
  | nil => cases h
  | field t ht =>
    rw [ht.fields_eq, List.mem_singleton] at h
    exact h ▸ ht
  | blank a c b hspace iha ihb =>
    rw [fields_append_cons hspace, List.mem_append] at h
    exact h.elim iha ihb

/-- Every character of a text that is no white space stands in a field. -/
theorem exists_mem_fields {t : Text} {c : Char} (hc : c ∈ t) (hword : isWhiteSpace c = false) :
    ∃ w ∈ fields t, c ∈ w := by
  induction t using fields_induction with
  | nil => cases hc
  | field t ht => exact ⟨t, by rw [ht.fields_eq]; exact List.mem_cons_self, hc⟩
  | blank a d b hspace iha ihb =>
    rw [fields_append_cons hspace]
    rw [List.mem_append, List.mem_cons] at hc
    rcases hc with hc | rfl | hc
    · obtain ⟨w, hw, hmem⟩ := iha hc
      exact ⟨w, List.mem_append_left _ hw, hmem⟩
    · rw [hspace] at hword
      cases hword
    · obtain ⟨w, hw, hmem⟩ := ihb hc
      exact ⟨w, List.mem_append_right _ hw, hmem⟩

/-- **Fields that are joined by blanks are found again.** -/
theorem fields_joinWith {ws : List Text} (h : ∀ w ∈ ws, IsField w) :
    fields (joinWith [' '] ws) = ws := by
  induction ws with
  | nil => simp
  | cons w ws ih =>
    rw [List.forall_mem_cons] at h
    cases ws with
    | nil => rw [joinWith_singleton, h.1.fields_eq]
    | cons next ws =>
      rw [joinWith_cons_cons, List.append_assoc, List.singleton_append,
        fields_append_cons isWhiteSpace_blank, h.1.fields_eq, ih h.2]
      rfl

/-- The fields of two texts are the same if their joined texts are. -/
theorem joinWith_fields_inj {s t : Text} :
    joinWith [' '] (fields s) = joinWith [' '] (fields t) ↔ fields s = fields t := by
  constructor
  · intro h
    rw [← fields_joinWith fun w (hw : w ∈ fields s) => isField_of_mem_fields hw, h,
      fields_joinWith fun w hw => isField_of_mem_fields hw]
  · exact congrArg _

end TexCensus.Unicode
