import Mathlib.Algebra.BigOperators.Group.List.Basic
import Mathlib.Algebra.GroupWithZero.Nat
import TexCensus.Markup.Counts
import TexCensus.Proofs.Frequency.Count
import TexCensus.Proofs.Pattern.Matching

/-!
# Figures and their subfigures

A text of figures with subfigures in which environments begin and end nowhere else
(`Markup.FigureText`). The three searches agree on where the environments of such a text begin and
end: the beginnings of environments are those of the figures and subfigures, whole figures are found
one by one, and in each of them its subfigures (`Markup.counts_figureText`).
-/

namespace TexCensus.Markup

open Pattern

/-! ## Avoided commands -/

/-- Whether a text has a backslash as its first character and no other one. -/
def IsCommand (t : Text) : Prop :=
  t.head? = some '\\' ∧ '\\' ∉ t.tail

instance (t : Text) : Decidable (IsCommand t) :=
  inferInstanceAs (Decidable (_ ∧ _))

/-- Whether a command begins nowhere in a text with a rest behind it. -/
def Avoids (command : Text) : Text → Text → Prop
  | [], _ => True
  | c :: t, rest => ¬command <+: c :: (t ++ rest) ∧ Avoids command t rest

/-- Whether neither of two texts begins with the other. -/
def Apart (x y : Text) : Prop :=
  ¬x <+: y ∧ ¬y <+: x

instance (x y : Text) : Decidable (Apart x y) :=
  inferInstanceAs (Decidable (_ ∧ _))

/-- Whether nothing or a command comes next. -/
def AtCommand (t : Text) : Prop :=
  ∀ c ∈ t.head?, c = '\\'

section

variable {command x y t rest : Text}

theorem atCommand_nil : AtCommand [] := by
  rintro c ⟨⟩

theorem IsCommand.exists_eq (h : IsCommand command) : ∃ w, command = '\\' :: w ∧ '\\' ∉ w := by
  obtain ⟨w, rfl⟩ := List.head?_eq_some_iff.1 h.1
  exact ⟨w, rfl, h.2⟩

theorem Avoids.append (hx : Avoids command x (y ++ rest)) (hy : Avoids command y rest) :
    Avoids command (x ++ y) rest := by
  induction x with
  | nil => exact hy
  | cons c x ih =>
    refine ⟨?_, ih hx.2⟩
    show ¬command <+: c :: (x ++ y ++ rest)
    rw [List.append_assoc]
    exact hx.1

/-- A longer command is avoided as well. -/
theorem Avoids.of_isPrefix {longer : Text} (h : Avoids command t rest)
    (hlonger : command <+: longer) : Avoids longer t rest := by
  induction t with
  | nil => trivial
  | cons c t ih => exact ⟨fun hc => h.1 (hlonger.trans hc), ih h.2⟩

theorem Avoids.not_isPrefix (h : Avoids command t rest) {b : Text} (hb : b <:+ t) (hne : b ≠ []) :
    ¬command <+: b ++ rest := by
  induction t with
  | nil => exact absurd (List.suffix_nil.1 hb) hne
  | cons c t ih =>
    rcases List.suffix_cons_iff.1 hb with rfl | hb
    · exact h.1
    · exact ih h.2 hb

/-- A command is avoided where there is no backslash. -/
theorem avoids_of_not_mem (hcommand : IsCommand command) (ht : '\\' ∉ t) :
    Avoids command t rest := by
  obtain ⟨w, rfl, -⟩ := hcommand.exists_eq
  induction t with
  | nil => trivial
  | cons c t ih =>
    rw [List.mem_cons, not_or] at ht
    exact ⟨fun h => ht.1 (List.cons_prefix_cons.1 h).1, ih ht.2⟩

/-- In another command it can only begin at the front. -/
theorem avoids_of_isCommand (hcommand : IsCommand command) (ht : IsCommand t)
    (hno : ¬command <+: t ++ rest) : Avoids command t rest := by
  obtain ⟨w, rfl, hw⟩ := ht.exists_eq
  exact ⟨hno, avoids_of_not_mem hcommand hw⟩

/-- A command that does not stand in a text does not begin there either, if a backslash or nothing
comes behind. -/
theorem avoids_of_not_infix (hcommand : IsCommand command) (ht : ¬command <:+: t)
    (hrest : AtCommand rest) : Avoids command t rest := by
  obtain ⟨w, rfl, hw⟩ := hcommand.exists_eq
  induction t with
  | nil => trivial
  | cons c t ih =>
    refine ⟨fun h => ?_, ih fun h => ht (List.infix_cons h)⟩
    rcases List.prefix_or_prefix_of_prefix h (List.prefix_append (c :: t) rest) with h | ⟨s, hs⟩
    · exact ht h.isInfix
    · cases s with
      | nil => exact ht (by rw [← hs, List.append_nil])
      | cons d s =>
        -- The command would go on with the backslash that comes behind.
        rw [← hs, ← List.cons_append, List.prefix_append_right_inj] at h
        obtain ⟨behind, rfl⟩ := h
        obtain rfl : d = '\\' := hrest d rfl
        refine hw ?_
        rw [← (List.cons.inj hs).2]
        simp

theorem Apart.not_isPrefix_append (h : Apart x y) (rest : Text) : ¬x <+: y ++ rest := fun hx =>
  (List.prefix_or_prefix_of_prefix hx (List.prefix_append y rest)).elim h.1 h.2

end

/-! ## Searches for a command -/

/-- Whether a pattern matches only in front of a command. -/
def Needs (p : Pattern) (command : Text) : Prop :=
  ∀ t n, p.matchLength? t = some n → command <+: t

theorem needs_of_run {p : Pattern} {command : Text} {k : Continuation}
    (h : ∀ t, p.matchLength? t = (literal command).run k 0 t) : Needs p command := by
  intro t n hn
  by_contra hno
  rw [h, run_literal_of_not_prefix hno] at hn
  cases hn

/-- A search finds nothing where the command is avoided. -/
theorem hits_append_of_avoids {p : Pattern} {command t rest : Text} (hp : Needs p command)
    (h : Avoids command t rest) : p.hits (t ++ rest) = p.hits rest := by
  induction t with
  | nil => rfl
  | cons c t ih =>
    have hno : ∀ n, p.matchLength? (c :: (t ++ rest)) ≠ some (n + 1) := fun n hn =>
      h.1 (hp _ _ hn)
    rw [List.cons_append, hits_of_no_match hno, ih h.2]

/-! ## Marks -/

/-- A mark of an environment up to its name. -/
def markStart (keyword name : String) : Text :=
  keyword.toList ++ ['{'] ++ name.toList

/-- A mark of an environment from behind its name. -/
def markEnd (starred : Bool) : Text :=
  if starred then ['*', '}'] else ['}']

/-- A mark of an environment. -/
def mark (keyword name : String) (starred : Bool) : Text :=
  markStart keyword name ++ markEnd starred

theorem run_markEnd (starred : Bool) (k : Continuation) (n : Nat) (rest : Text) :
    (optional (literal ['*'])).run ((literal ['}']).run k) n (markEnd starred ++ rest)
      = k (n + (markEnd starred).length) rest := by
  cases starred with
  | false =>
    have hstar : (literal ['*']).run ((literal ['}']).run k) n ('}' :: rest) = none :=
      run_literal_of_head (by simp)
    exact (run_optional_of_none hstar).trans (run_literal_cons '}' rest)
  | true =>
    have hstar : (literal ['*']).run ((literal ['}']).run k) n ('*' :: '}' :: rest)
        = k (n + 2) rest :=
      (run_literal_cons '*' _).trans (run_literal_cons '}' rest)
    show (optional (literal ['*'])).run ((literal ['}']).run k) n ('*' :: '}' :: rest)
      = k (n + 2) rest
    cases hk : k (n + 2) rest with
    | some m => exact run_optional_of_some (hstar.trans hk)
    | none =>
      rw [run_optional_of_none (hstar.trans hk)]
      exact run_literal_of_head (by simp)

/-- The pattern of a mark goes past a mark. -/
theorem run_environmentMark (keyword name : String) (starred : Bool) (k : Continuation) (n : Nat)
    (rest : Text) : (environmentMark keyword name).run k n (mark keyword name starred ++ rest)
      = k (n + (mark keyword name starred).length) rest := by
  show (literal (markStart keyword name)).run ((optional (literal ['*'])).run
    ((literal ['}']).run k)) n (mark keyword name starred ++ rest) = _
  rw [mark, List.append_assoc, run_literal_append, run_markEnd, List.length_append, Nat.add_assoc]

/-- The keywords of marks. -/
def keywords : List String :=
  ["\\begin", "\\end"]

/-- The environments of figures. -/
def figureNames : List String :=
  ["figure", "subfigure"]

theorem isCommand_keyword : ∀ keyword ∈ keywords, IsCommand keyword.toList := by
  decide

theorem isCommand_mark : ∀ keyword ∈ keywords, ∀ name ∈ figureNames, ∀ starred,
    IsCommand (mark keyword name starred) := by
  decide

variable {keyword name : String}

theorem atCommand_mark_append (hkeyword : keyword ∈ keywords) (hname : name ∈ figureNames)
    (starred : Bool) (rest : Text) : AtCommand (mark keyword name starred ++ rest) := by
  obtain ⟨w, hw, -⟩ := (isCommand_mark keyword hkeyword name hname starred).exists_eq
  rw [hw]
  rintro c ⟨⟩
  rfl

/-- A mark is passed over if it is another one than the command begins. -/
theorem avoids_mark (hkeyword : keyword ∈ keywords) (hname : name ∈ figureNames) (starred : Bool)
    {command : Text} (hcommand : IsCommand command) (h : Apart command (markStart keyword name))
    (rest : Text) : Avoids command (mark keyword name starred) rest := by
  refine avoids_of_isCommand hcommand (isCommand_mark keyword hkeyword name hname starred) ?_
  rw [mark, List.append_assoc]
  exact h.not_isPrefix_append _

/-! ## Environments -/

/-- A whole environment. -/
def wholeEnvironment (name : String) (beginStarred endStarred : Bool) (content : Text) : Text :=
  mark "\\begin" name beginStarred ++ (content ++ mark "\\end" name endStarred)

theorem needs_environment (name : String) :
    Needs (environment name) (markStart "\\begin" name) :=
  needs_of_run fun _ => rfl

/-- **An environment is found whole** if no end of its kind is in its content. -/
theorem hits_wholeEnvironment {beginStarred endStarred : Bool} {content rest : Text}
    (h : Avoids (markStart "\\end" name) content (mark "\\end" name endStarred ++ rest)) :
    (environment name).hits (wholeEnvironment name beginStarred endStarred content ++ rest)
      = wholeEnvironment name beginStarred endStarred content :: (environment name).hits rest := by
  have hne : wholeEnvironment name beginStarred endStarred content ≠ [] := by
    simp [wholeEnvironment, mark, markStart]
  refine hits_append_of_match hne ?_
  let k : Continuation := (environmentMark "\\end" name).run fun n _ => some n
  show (environmentMark "\\begin" name).run (runLazy .any k) 0 _ = _
  have hcontent : ∀ b, b <:+ content → b ≠ [] → ∀ m,
      k m (b ++ (mark "\\end" name endStarred ++ rest)) = none := fun b hb hne m =>
    run_literal_of_not_prefix (h.not_isPrefix hb hne)
  rw [wholeEnvironment, List.append_assoc, List.append_assoc, run_environmentMark,
    runLazy_append (fun _ _ => rfl) hcontent,
    runLazy_of_some (run_environmentMark "\\end" name endStarred _ _ rest)]
  simp only [List.length_append, Option.some.injEq]
  omega

theorem needs_environmentBegin : Needs environmentBegin "\\begin".toList :=
  needs_of_run fun _ => rfl

theorem exists_word_of_mem_figureNames (hname : name ∈ figureNames) :
    ∃ c w, name.toList = c :: w ∧ CharSet.word.has c = true ∧ ∀ d ∈ w, CharSet.word.has d := by
  have hnames : ∀ name ∈ figureNames, name.toList ≠ []
    ∧ name.toList.all CharSet.word.has = true := by decide
  obtain ⟨hne, hword⟩ := hnames name hname
  obtain ⟨c, w, hcw⟩ := List.exists_cons_of_ne_nil hne
  rw [hcw, List.all_eq_true, List.forall_mem_cons] at hword
  exact ⟨c, w, hcw, hword⟩

theorem run_bracketedGroup_of_head {k : Continuation} {n : Nat} {t : Text}
    (h : t.head? ≠ some '[') : bracketedGroup.run k n t = none :=
  run_literal_of_head h

/-- **A mark that begins an environment is found.** -/
theorem hits_beginMark_append (hname : name ∈ figureNames) (starred : Bool) (rest : Text) :
    environmentBegin.hits (mark "\\begin" name starred ++ rest)
      = mark "\\begin" name starred :: environmentBegin.hits rest := by
  refine hits_append_of_match (by simp [mark, markStart]) ?_
  let k : Continuation := (seq (optional (literal ['*'])) (literal ['}'])).run fun n _ => some n
  show (literal "\\begin".toList).run ((optional bracketedGroup).run ((literal ['{']).run
    ((greedyPlus .word).run k))) 0 (mark "\\begin" name starred ++ rest)
      = some (mark "\\begin" name starred).length
  obtain ⟨c, w, hcw, hc, hw⟩ := exists_word_of_mem_figureNames hname
  have hend : ∀ d ∈ (markEnd starred ++ rest).head?, Unicode.isWord d = false := by
    cases starred <;> rintro d ⟨⟩ <;> decide
  have hmark : mark "\\begin" name starred ++ rest
      = "\\begin".toList ++ '{' :: (c :: w ++ (markEnd starred ++ rest)) := by
    simp [mark, markStart, hcw]
  rw [hmark, run_literal_append, run_optional_of_none (run_bracketedGroup_of_head (by simp)),
    run_literal_cons]
  show (one .word).run (runGreedy .word k) _ _ = _
  rw [List.cons_append, run, if_pos hc, runGreedy_append hw hend (run_markEnd ..)]
  simp only [mark, markStart, hcw, List.length_append, List.length_cons, List.length_nil,
    Option.some.injEq]
  omega

theorem environmentName_mark : ∀ name ∈ figureNames, ∀ starred,
    environmentName (mark "\\begin" name starred) = name.toList := by
  decide

/-! ## Texts of figures -/

/-- A text in which no environment begins or ends. -/
structure Prose where
  /-- The text. -/
  text : Text
  /-- No keyword of a mark stands in it. -/
  free : ∀ keyword ∈ keywords, ¬keyword.toList <:+: text

/-- A subfigure with the text behind it. -/
structure Subfigure where
  /-- Whether its beginning is starred. -/
  beginStarred : Bool
  /-- What is in it. -/
  body : Prose
  /-- Whether its end is starred. -/
  endStarred : Bool
  /-- The text up to the next subfigure or the end of the figure. -/
  behind : Prose

/-- A figure with the text behind it. -/
structure Figure where
  /-- Whether its beginning is starred. -/
  beginStarred : Bool
  /-- The text in front of the subfigures. -/
  front : Prose
  /-- The subfigures in order. -/
  subfigures : List Subfigure
  /-- Whether its end is starred. -/
  endStarred : Bool
  /-- The text up to the next figure. -/
  behind : Prose

/-- A text with figures. -/
structure FigureText where
  /-- The text in front of the figures. -/
  front : Prose
  /-- The figures in order. -/
  figures : List Figure

/-- The whole environment of a subfigure. -/
def Subfigure.whole (s : Subfigure) : Text :=
  wholeEnvironment "subfigure" s.beginStarred s.endStarred s.body.text

def Subfigure.text (s : Subfigure) : Text :=
  s.whole ++ s.behind.text

/-- What is in the environment of a figure. -/
def Figure.content (f : Figure) : Text :=
  f.front.text ++ f.subfigures.flatMap Subfigure.text

/-- The whole environment of a figure. -/
def Figure.whole (f : Figure) : Text :=
  wholeEnvironment "figure" f.beginStarred f.endStarred f.content

def Figure.text (f : Figure) : Text :=
  f.whole ++ f.behind.text

def FigureText.text (d : FigureText) : Text :=
  d.front.text ++ d.figures.flatMap Figure.text

section

variable {rest : Text}

theorem Prose.avoids (x : Prose) (hkeyword : keyword ∈ keywords) (hrest : AtCommand rest) :
    Avoids keyword.toList x.text rest :=
  avoids_of_not_infix (isCommand_keyword keyword hkeyword) (x.free keyword hkeyword) hrest

theorem Prose.avoids_markStart (x : Prose) (hkeyword : keyword ∈ keywords) (name : String)
    (hrest : AtCommand rest) : Avoids (markStart keyword name) x.text rest := by
  refine (x.avoids hkeyword hrest).of_isPrefix ?_
  rw [markStart, List.append_assoc]
  exact List.prefix_append _ _

theorem atCommand_wholeEnvironment_append (hname : name ∈ figureNames)
    (beginStarred endStarred : Bool) (content rest : Text) :
    AtCommand (wholeEnvironment name beginStarred endStarred content ++ rest) := by
  rw [wholeEnvironment, List.append_assoc]
  exact atCommand_mark_append (by decide) hname _ _

theorem atCommand_flatMap_append {A : Type} {f : A → Text} {items : List A}
    (hf : ∀ item rest, AtCommand (f item ++ rest)) (hrest : AtCommand rest) :
    AtCommand (items.flatMap f ++ rest) := by
  cases items with
  | nil => exact hrest
  | cons item items =>
    rw [List.flatMap_cons, List.append_assoc]
    exact hf item _

theorem Subfigure.atCommand (s : Subfigure) (rest : Text) : AtCommand (s.text ++ rest) := by
  rw [Subfigure.text, List.append_assoc]
  exact atCommand_wholeEnvironment_append (by decide) _ _ _ _

theorem Figure.atCommand (f : Figure) (rest : Text) : AtCommand (f.text ++ rest) := by
  rw [Figure.text, List.append_assoc]
  exact atCommand_wholeEnvironment_append (by decide) _ _ _ _

theorem avoids_flatMap {A : Type} {f : A → Text} {items : List A} {command : Text}
    (hf : ∀ item rest, AtCommand (f item ++ rest))
    (h : ∀ item ∈ items, ∀ rest, AtCommand rest → Avoids command (f item) rest)
    (hrest : AtCommand rest) : Avoids command (items.flatMap f) rest := by
  induction items with
  | nil => trivial
  | cons item items ih =>
    rw [List.forall_mem_cons] at h
    rw [List.flatMap_cons]
    exact (h.1 _ (atCommand_flatMap_append hf hrest)).append (ih h.2)

/-- What a search finds item by item it finds in the whole list, if it needs a command behind each
item. -/
theorem hits_flatMap_append {A : Type} {p : Pattern} {f : A → Text} {found : A → List Text}
    {items : List A} (hf : ∀ item rest, AtCommand (f item ++ rest))
    (hfound : ∀ item ∈ items, ∀ rest, AtCommand rest →
      p.hits (f item ++ rest) = found item ++ p.hits rest)
    (hrest : AtCommand rest) :
    p.hits (items.flatMap f ++ rest) = items.flatMap found ++ p.hits rest := by
  induction items with
  | nil => rfl
  | cons item items ih =>
    rw [List.forall_mem_cons] at hfound
    rw [List.flatMap_cons, List.append_assoc,
      hfound.1 _ (atCommand_flatMap_append hf hrest), ih hfound.2, List.flatMap_cons,
      List.append_assoc]

/-! ## Beginnings in a text of figures -/

/-- The mark that begins a subfigure. -/
def Subfigure.beginMark (s : Subfigure) : Text :=
  mark "\\begin" "subfigure" s.beginStarred

/-- The marks that begin environments in a figure. -/
def Figure.beginMarks (f : Figure) : List Text :=
  mark "\\begin" "figure" f.beginStarred :: f.subfigures.map Subfigure.beginMark

theorem Prose.hits_environmentBegin (x : Prose) (hrest : AtCommand rest) :
    environmentBegin.hits (x.text ++ rest) = environmentBegin.hits rest :=
  hits_append_of_avoids needs_environmentBegin (x.avoids (by decide) hrest)

/-- A mark that ends an environment is no beginning of one. -/
theorem hits_endMark_append (hname : name ∈ figureNames) (starred : Bool) (rest : Text) :
    environmentBegin.hits (mark "\\end" name starred ++ rest) = environmentBegin.hits rest := by
  have hapart : ∀ name ∈ figureNames, Apart "\\begin".toList (markStart "\\end" name) := by decide
  exact hits_append_of_avoids needs_environmentBegin
    (avoids_mark (by decide) hname starred (by decide) (hapart name hname) rest)

theorem Subfigure.hits_environmentBegin (s : Subfigure) (hrest : AtCommand rest) :
    environmentBegin.hits (s.text ++ rest) = [s.beginMark] ++ environmentBegin.hits rest := by
  have hname : "subfigure" ∈ figureNames := by decide
  simp only [Subfigure.text, Subfigure.whole, wholeEnvironment, List.append_assoc]
  rw [hits_beginMark_append hname,
    s.body.hits_environmentBegin (atCommand_mark_append (by decide) hname _ _),
    hits_endMark_append hname, s.behind.hits_environmentBegin hrest]
  rfl

theorem Figure.hits_environmentBegin (f : Figure) (hrest : AtCommand rest) :
    environmentBegin.hits (f.text ++ rest) = f.beginMarks ++ environmentBegin.hits rest := by
  have hname : "figure" ∈ figureNames := by decide
  have hend : AtCommand (mark "\\end" "figure" f.endStarred ++ (f.behind.text ++ rest)) :=
    atCommand_mark_append (by decide) hname _ _
  simp only [Figure.text, Figure.whole, wholeEnvironment, Figure.content, List.append_assoc]
  rw [hits_beginMark_append hname,
    f.front.hits_environmentBegin (atCommand_flatMap_append Subfigure.atCommand hend),
    hits_flatMap_append Subfigure.atCommand
      (fun s _ rest hrest => s.hits_environmentBegin hrest) hend,
    hits_endMark_append hname, f.behind.hits_environmentBegin hrest, ← List.map_eq_flatMap,
    Figure.beginMarks, List.cons_append]

theorem FigureText.hits_environmentBegin (d : FigureText) :
    environmentBegin.hits d.text = d.figures.flatMap Figure.beginMarks := by
  rw [← List.append_nil d.text, FigureText.text, List.append_assoc,
    d.front.hits_environmentBegin (atCommand_flatMap_append Figure.atCommand atCommand_nil),
    hits_flatMap_append Figure.atCommand (fun f _ rest hrest => f.hits_environmentBegin hrest)
      atCommand_nil,
    hits_nil, List.append_nil]

/-! ## Whole environments in a text of figures -/

theorem Prose.hits_environment (x : Prose) (name : String) (hrest : AtCommand rest) :
    (environment name).hits (x.text ++ rest) = (environment name).hits rest :=
  hits_append_of_avoids (needs_environment name) (x.avoids_markStart (by decide) name hrest)

theorem Subfigure.hits_environment (s : Subfigure) (hrest : AtCommand rest) :
    (environment "subfigure").hits (s.text ++ rest)
      = [s.whole] ++ (environment "subfigure").hits rest := by
  rw [Subfigure.text, List.append_assoc, Subfigure.whole,
    hits_wholeEnvironment (s.body.avoids_markStart (by decide) _
      (atCommand_mark_append (by decide) (by decide) _ _)),
    s.behind.hits_environment _ hrest]
  rfl

/-- **The subfigures of a figure are found one by one.** -/
theorem Figure.hits_subfigure (f : Figure) :
    (environment "subfigure").hits f.whole = f.subfigures.map Subfigure.whole := by
  have hname : "figure" ∈ figureNames := by decide
  have hend : AtCommand (mark "\\end" "figure" f.endStarred ++ []) :=
    atCommand_mark_append (by decide) hname _ _
  have hskip : ∀ keyword ∈ keywords, ∀ starred rest,
      (environment "subfigure").hits (mark keyword "figure" starred ++ rest)
        = (environment "subfigure").hits rest := by
    have hapart : ∀ keyword ∈ keywords,
        Apart (markStart "\\begin" "subfigure") (markStart keyword "figure") := by decide
    intro keyword hkeyword starred rest
    exact hits_append_of_avoids (needs_environment _)
      (avoids_mark hkeyword hname starred (by decide) (hapart keyword hkeyword) rest)
  rw [← List.append_nil f.whole]
  simp only [Figure.whole, wholeEnvironment, Figure.content, List.append_assoc]
  rw [hskip _ (by decide),
    f.front.hits_environment _ (atCommand_flatMap_append Subfigure.atCommand hend),
    hits_flatMap_append Subfigure.atCommand (fun s _ rest hrest => s.hits_environment hrest) hend,
    hskip _ (by decide), hits_nil, List.append_nil, ← List.map_eq_flatMap]

/-- No end of a figure is in a subfigure. -/
theorem Subfigure.avoids_end (s : Subfigure) (hrest : AtCommand rest) :
    Avoids (markStart "\\end" "figure") s.text rest := by
  have hname : "subfigure" ∈ figureNames := by decide
  have hmark : ∀ keyword ∈ keywords, ∀ starred rest,
      Avoids (markStart "\\end" "figure") (mark keyword "subfigure" starred) rest := by
    have hapart : ∀ keyword ∈ keywords,
        Apart (markStart "\\end" "figure") (markStart keyword "subfigure") := by decide
    intro keyword hkeyword starred rest
    exact avoids_mark hkeyword hname starred (by decide) (hapart keyword hkeyword) rest
  have hbody : Avoids (markStart "\\end" "figure") s.body.text
      (mark "\\end" "subfigure" s.endStarred ++ (s.behind.text ++ rest)) :=
    s.body.avoids_markStart (by decide) _ (atCommand_mark_append (by decide) hname _ _)
  have hwhole : Avoids (markStart "\\end" "figure") s.whole (s.behind.text ++ rest) :=
    (hmark "\\begin" (by decide) _ _).append (hbody.append (hmark "\\end" (by decide) _ _))
  exact hwhole.append (s.behind.avoids_markStart (by decide) _ hrest)

/-- The end of a figure is the first one behind its beginning. -/
theorem Figure.avoids_end (f : Figure) (hrest : AtCommand rest) :
    Avoids (markStart "\\end" "figure") f.content rest :=
  (f.front.avoids_markStart (by decide) _
    (atCommand_flatMap_append Subfigure.atCommand hrest)).append
    (avoids_flatMap Subfigure.atCommand (fun s _ rest hrest => s.avoids_end hrest) hrest)

theorem Figure.hits_environment (f : Figure) (hrest : AtCommand rest) :
    (environment "figure").hits (f.text ++ rest)
      = [f.whole] ++ (environment "figure").hits rest := by
  rw [Figure.text, List.append_assoc, Figure.whole,
    hits_wholeEnvironment (f.avoids_end (atCommand_mark_append (by decide) (by decide) _ _)),
    f.behind.hits_environment _ hrest]
  rfl

/-- **The figures of a text are found one by one.** -/
theorem FigureText.hits_figure (d : FigureText) :
    (environment "figure").hits d.text = d.figures.map Figure.whole := by
  rw [← List.append_nil d.text, FigureText.text, List.append_assoc,
    d.front.hits_environment _ (atCommand_flatMap_append Figure.atCommand atCommand_nil),
    hits_flatMap_append Figure.atCommand (fun f _ rest hrest => f.hits_environment hrest)
      atCommand_nil,
    hits_nil, List.append_nil, ← List.map_eq_flatMap]

end

/-! ## Counts -/

/-- The names of the environments that begin in a figure. -/
def Figure.names (f : Figure) : List Text :=
  "figure".toList :: List.replicate f.subfigures.length "subfigure".toList

theorem Figure.map_beginMarks (f : Figure) : f.beginMarks.map environmentName = f.names := by
  have hname : ∀ s ∈ f.subfigures,
      (environmentName ∘ Subfigure.beginMark) s = "subfigure".toList :=
    fun s _ => environmentName_mark _ (by decide) s.beginStarred
  rw [Figure.beginMarks, List.map_cons, environmentName_mark _ (by decide), List.map_map,
    List.map_congr_left hname, List.map_const', Figure.names]

theorem FigureText.environmentFrequency_eq (d : FigureText) :
    environmentFrequency d.text = .count (d.figures.flatMap Figure.names) := by
  rw [environmentFrequency, d.hits_environmentBegin, List.map_flatMap]
  simp only [Figure.map_beginMarks]

/-- **Figures and subfigures are counted as they stand in the text**, if environments begin and end
nowhere else: every figure, every subfigure, and for each number of subfigures the figures that hold
that many. -/
theorem counts_figureText (d : FigureText) :
    let m := counts d.text
    m.figures = d.figures.length
      ∧ m.subfigures = (d.figures.map fun f => f.subfigures.length).sum
      ∧ m.subfiguresPerFigure = .count (d.figures.map fun f => f.subfigures.length) := by
  refine ⟨?_, ?_, ?_⟩
  · show (environmentFrequency d.text).get "figure".toList = _
    have hone : ∀ f ∈ d.figures, (Frequency.count f.names).get "figure".toList = 1 :=
      fun f _ => (Frequency.get_count_cons_replicate (by decide) _).1
    rw [d.environmentFrequency_eq, Frequency.get_count_flatMap, List.map_congr_left hone,
      List.map_const', List.sum_replicate_nat, Nat.mul_one]
  · show (environmentFrequency d.text).get "subfigure".toList = _
    have hall : ∀ f ∈ d.figures,
        (Frequency.count f.names).get "subfigure".toList = f.subfigures.length :=
      fun f _ => (Frequency.get_count_cons_replicate (by decide) _).2
    rw [d.environmentFrequency_eq, Frequency.get_count_flatMap, List.map_congr_left hall]
  · show subfiguresPerFigure d.text = _
    rw [subfiguresPerFigure, d.hits_figure, List.map_map]
    refine congrArg Frequency.count (List.map_congr_left fun f _ => ?_)
    show ((environment "subfigure").hits f.whole).length = f.subfigures.length
    rw [f.hits_subfigure, List.length_map]

/-- A figure with one subfigure, stars on one mark of each. -/
example :
    let x : Prose := ⟨"\\x ".toList, by decide⟩
    FigureText.text ⟨x, [⟨true, x, [⟨false, x, true, x⟩], false, x⟩]⟩
      = ("\\x \\begin\x7bfigure*\x7d\\x \\begin\x7bsubfigure\x7d\\x \\end\x7bsubfigure*\x7d\\x "
        ++ "\\end\x7bfigure\x7d\\x ").toList := by
  decide

end TexCensus.Markup
