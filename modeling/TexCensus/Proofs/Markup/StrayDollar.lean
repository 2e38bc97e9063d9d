import TexCensus.Proofs.Markup.Dollar

/-!
# A stray dollar among pairs

One dollar more in a text of pairs, at a place outside every pair. If the dollar touches a pair, it
goes into the match of that pair, and the search takes every other pair as before. If it touches
none, it opens an equation that ends where the next pair begins, and every pair behind it is turned
inside out: its prose is taken for equations and its bodies for prose. So the number of pairs that
the search loses is one in the first case and the number of pairs behind the dollar in the second
(`length_lostPairs`), and it is at most one exactly if the dollar touches a pair or at most one
pair stands behind it (`lostPairs_le_one_iff`).
-/

namespace TexCensus.Markup

open Pattern Segment

/-! ## Texts of pairs -/

/-- Prose with pairs of dollars in it. -/
structure PairedText where
  /-- The prose in front of the first pair. -/
  front : Text
  /-- The body of each pair with the prose behind the pair. -/
  pairs : List (Text × Text)
deriving DecidableEq, Repr

namespace PairedText

/-- Bodies in their dollars, each with the prose behind it. -/
def groups (pairs : List (Text × Text)) : List (Text × Text) :=
  pairs.map fun x => (dollarPair x.1, x.2)

/-- The text that is written. -/
def text (d : PairedText) : Text :=
  d.front ++ written (groups d.pairs)

/-- The bodies of the pairs. -/
def bodies (d : PairedText) : List Text :=
  d.pairs.map Prod.fst

/-- The text without its pairs. -/
def prose (d : PairedText) : Text :=
  d.front ++ d.pairs.flatMap Prod.snd

/-- One text behind another. The last prose of the first goes on with the prose in front of the
second. -/
def append (d e : PairedText) : PairedText :=
  match d.pairs.getLast? with
  | none => ⟨d.front ++ e.front, e.pairs⟩
  | some (b, p) => ⟨d.front, d.pairs.dropLast ++ (b, p ++ e.front) :: e.pairs⟩

/-- Every dollar belongs to a pair around a body that is not empty, and there is prose between
neighbours. -/
structure WellFormed (d : PairedText) : Prop where
  /-- There is no dollar in front. -/
  front_free : '$' ∉ d.front
  /-- No body is empty. -/
  body_ne_nil : ∀ x ∈ d.pairs, x.1 ≠ []
  /-- There is no dollar in a body. -/
  body_free : ∀ x ∈ d.pairs, '$' ∉ x.1
  /-- There is no dollar between pairs. -/
  prose_free : ∀ x ∈ d.pairs, '$' ∉ x.2
  /-- There is prose behind every pair but the last. -/
  prose_ne_nil : ∀ x ∈ d.pairs.dropLast, x.2 ≠ []

@[simp] theorem groups_nil : groups [] = [] := rfl

@[simp] theorem groups_cons (b p : Text) (pairs : List (Text × Text)) :
    groups ((b, p) :: pairs) = (dollarPair b, p) :: groups pairs := rfl

@[simp] theorem groups_append (xs ys : List (Text × Text)) :
    groups (xs ++ ys) = groups xs ++ groups ys := by
  simp [groups]

theorem append_of_nil (f : Text) (e : PairedText) :
    append ⟨f, []⟩ e = ⟨f ++ e.front, e.pairs⟩ := rfl

theorem append_of_concat (f b p : Text) (init : List (Text × Text)) (e : PairedText) :
    append ⟨f, init ++ [(b, p)]⟩ e = ⟨f, init ++ (b, p ++ e.front) :: e.pairs⟩ := by
  simp [append]

/-- What is written is one text behind the other. -/
theorem text_append (d e : PairedText) : (d.append e).text = d.text ++ e.text := by
  obtain ⟨f, pairs⟩ := d
  rcases List.eq_nil_or_concat' pairs with rfl | ⟨init, ⟨b, p⟩, rfl⟩
  · simp [append_of_nil, text]
  · simp [append_of_concat, text]

theorem bodies_append (d e : PairedText) : (d.append e).bodies = d.bodies ++ e.bodies := by
  obtain ⟨f, pairs⟩ := d
  rcases List.eq_nil_or_concat' pairs with rfl | ⟨init, ⟨b, p⟩, rfl⟩
  · simp [append_of_nil, bodies]
  · simp [append_of_concat, bodies]

theorem prose_append (d e : PairedText) : (d.append e).prose = d.prose ++ e.prose := by
  obtain ⟨f, pairs⟩ := d
  rcases List.eq_nil_or_concat' pairs with rfl | ⟨init, ⟨b, p⟩, rfl⟩
  · simp [append_of_nil, prose]
  · simp [append_of_concat, prose]

/-! ## Well-formed texts -/

variable {d e : PairedText}

/-- The first of two texts is well-formed by itself. -/
theorem WellFormed.left (h : (d.append e).WellFormed) : d.WellFormed := by
  obtain ⟨f, pairs⟩ := d
  rcases List.eq_nil_or_concat' pairs with rfl | ⟨init, ⟨b, p⟩, rfl⟩
  · rw [append_of_nil] at h
    have hf : '$' ∉ f := fun hm => h.front_free (List.mem_append_left _ hm)
    exact ⟨hf, by simp, by simp, by simp, by simp⟩
  · rw [append_of_concat] at h
    have hne := h.prose_ne_nil
    rw [List.dropLast_append_of_ne_nil (by simp)] at hne
    have hbody := h.body_ne_nil
    have hfree := h.body_free
    have hprose := h.prose_free
    simp only [List.forall_mem_append, List.forall_mem_cons] at hbody hfree hprose
    have hp : '$' ∉ p := fun hm => hprose.2.1 (List.mem_append_left _ hm)
    refine ⟨h.front_free, ?_, ?_, ?_, ?_⟩
    · exact List.forall_mem_append.mpr ⟨hbody.1, List.forall_mem_singleton.mpr hbody.2.1⟩
    · exact List.forall_mem_append.mpr ⟨hfree.1, List.forall_mem_singleton.mpr hfree.2.1⟩
    · exact List.forall_mem_append.mpr ⟨hprose.1, List.forall_mem_singleton.mpr hp⟩
    · rw [List.dropLast_concat]
      exact fun x hx => hne x (List.mem_append_left _ hx)

/-- The second of two texts is well-formed by itself. -/
theorem WellFormed.right (h : (d.append e).WellFormed) : e.WellFormed := by
  obtain ⟨f, pairs⟩ := d
  rcases List.eq_nil_or_concat' pairs with rfl | ⟨init, ⟨b, p⟩, rfl⟩
  · rw [append_of_nil] at h
    exact ⟨fun hm => h.front_free (List.mem_append_right _ hm), h.body_ne_nil, h.body_free,
      h.prose_free, h.prose_ne_nil⟩
  · rw [append_of_concat] at h
    have hbody := h.body_ne_nil
    have hfree := h.body_free
    have hprose := h.prose_free
    simp only [List.forall_mem_append, List.forall_mem_cons] at hbody hfree hprose
    refine ⟨fun hm => hprose.2.1 (List.mem_append_right _ hm), hbody.2.2, hfree.2.2,
      hprose.2.2, ?_⟩
    intro x hx
    refine h.prose_ne_nil x ?_
    have hne : e.pairs ≠ [] := by
      rintro hnil
      simp [hnil] at hx
    rw [List.dropLast_append_of_ne_nil (by simp), List.dropLast_cons_of_ne_nil hne]
    exact List.mem_append_right _ (List.mem_cons_of_mem _ hx)

/-- In front of the last pair stands a well-formed text with prose behind every pair. -/
theorem WellFormed.init {f : Text} {init : List (Text × Text)} {x : Text × Text}
    (h : (PairedText.mk f (init ++ [x])).WellFormed) :
    (PairedText.mk f init).WellFormed ∧ ∀ y ∈ init, y.2 ≠ [] := by
  have hne := h.prose_ne_nil
  rw [List.dropLast_concat] at hne
  exact ⟨⟨h.front_free, fun y hy => h.body_ne_nil y (List.mem_append_left _ hy),
    fun y hy => h.body_free y (List.mem_append_left _ hy),
    fun y hy => h.prose_free y (List.mem_append_left _ hy),
    fun y hy => hne y (List.mem_of_mem_dropLast hy)⟩, hne⟩

/-- A text ends with a dollar if it has pairs and no prose behind the last one. -/
theorem WellFormed.getLast?_eq_dollar_iff (h : d.WellFormed) :
    d.text.getLast? = some '$' ↔ ∃ init b, d.pairs = init ++ [(b, [])] := by
  obtain ⟨f, pairs⟩ := d
  rcases List.eq_nil_or_concat' pairs with rfl | ⟨init, ⟨b, p⟩, rfl⟩
  · have hlast : f.getLast? ≠ some '$' := fun hl => h.front_free (List.mem_of_getLast? hl)
    simpa [text] using hlast
  · have hp : '$' ∉ p := h.prose_free (b, p) (by simp)
    cases p with
    | nil =>
      have htext : (PairedText.mk f (init ++ [(b, [])])).text
          = (f ++ written (groups init) ++ '$' :: b) ++ ['$'] := by
        simp [text, dollarPair]
      rw [htext, List.getLast?_concat]
      simp
    | cons c p =>
      have hlast : (c :: p).getLast? ≠ some '$' := fun hl => hp (List.mem_of_getLast? hl)
      have htext : (PairedText.mk f (init ++ [(b, c :: p)])).text
          = (f ++ written (groups init) ++ dollarPair b) ++ (c :: p) := by
        simp [text]
      rw [htext, List.getLast?_append_of_ne_nil _ (by simp)]
      simpa using hlast

/-- A text that does not end with a dollar has prose behind every pair. -/
theorem WellFormed.prose_ne_nil_of_getLast? (h : d.WellFormed)
    (hend : d.text.getLast? ≠ some '$') : ∀ x ∈ d.pairs, x.2 ≠ [] := by
  rw [Ne, h.getLast?_eq_dollar_iff] at hend
  obtain ⟨f, pairs⟩ := d
  rcases List.eq_nil_or_concat' pairs with rfl | ⟨init, ⟨b, p⟩, rfl⟩
  · simp
  · have hp : p ≠ [] := fun hp => hend ⟨init, b, by rw [hp]⟩
    exact List.forall_mem_append.mpr ⟨h.init.2, List.forall_mem_singleton.mpr hp⟩

/-- A text begins with a dollar if it has pairs and no prose in front of the first one. -/
theorem WellFormed.head?_eq_dollar_iff (h : d.WellFormed) :
    d.text.head? = some '$' ↔ d.front = [] ∧ d.pairs ≠ [] := by
  obtain ⟨f, pairs⟩ := d
  cases f with
  | nil =>
    cases pairs with
    | nil => simp [text]
    | cons x pairs => simp [text, groups, written, dollarPair]
  | cons c f =>
    have hc : c ≠ '$' := fun hc => h.front_free (by simp [hc])
    simp [text, hc]

/-- Where one text ends with a dollar, the text behind it begins with prose. -/
theorem WellFormed.head?_ne_of_getLast? (h : (d.append e).WellFormed)
    (hend : d.text.getLast? = some '$') : e.text.head? ≠ some '$' := by
  obtain ⟨init, b, hpairs⟩ := h.left.getLast?_eq_dollar_iff.mp hend
  rw [Ne, h.right.head?_eq_dollar_iff]
  rintro ⟨hfront, hne⟩
  obtain ⟨f, pairs⟩ := d
  subst hpairs
  rw [append_of_concat] at h
  have hmeet := h.prose_ne_nil (b, e.front)
  rw [List.dropLast_append_of_ne_nil (by simp), List.dropLast_cons_of_ne_nil hne] at hmeet
  exact hmeet (by simp) hfront

/-- Behind the first pair of a well-formed text stands a well-formed text that does not begin with
a dollar. -/
theorem WellFormed.tail {f b p : Text} {pairs : List (Text × Text)}
    (h : (PairedText.mk f ((b, p) :: pairs)).WellFormed) :
    (PairedText.mk p pairs).WellFormed ∧ (PairedText.mk p pairs).text.head? ≠ some '$' := by
  have hbody := h.body_ne_nil
  have hfree := h.body_free
  have hprose := h.prose_free
  rw [List.forall_mem_cons] at hbody hfree hprose
  have hne : pairs ≠ [] → p ≠ [] ∧ ∀ x ∈ pairs.dropLast, x.2 ≠ [] := by
    intro hpairs
    have hne := h.prose_ne_nil
    rwa [List.dropLast_cons_of_ne_nil hpairs, List.forall_mem_cons] at hne
  have hwf : (PairedText.mk p pairs).WellFormed := by
    refine ⟨hprose.1, hbody.2, hfree.2, hprose.2, ?_⟩
    rintro x hx
    refine (hne ?_).2 x hx
    rintro rfl
    simp at hx
  refine ⟨hwf, ?_⟩
  rw [Ne, hwf.head?_eq_dollar_iff]
  rintro ⟨hp, hpairs⟩
  exact (hne hpairs).1 hp

/-! ## The search in a text of pairs -/

/-- The segments of a text whose pairs are matched one by one. -/
def segments (d : PairedText) : List Segment :=
  plain d.front ++ groupSegments (groups d.pairs)

@[simp] theorem spelled_segments (d : PairedText) : spelled d.segments = d.text := by
  simp [segments, text]

theorem WellFormed.standsAlone (h : d.WellFormed) : ∀ x ∈ groups d.pairs, StandsAlone x.1 := by
  intro x hx
  obtain ⟨y, hy, rfl⟩ := List.mem_map.mp hx
  exact standsAlone_dollarPair (h.body_ne_nil y hy) (h.body_free y hy)

theorem WellFormed.groups_free (h : d.WellFormed) : ∀ x ∈ groups d.pairs, '$' ∉ x.2 := by
  intro x hx
  obtain ⟨y, hy, rfl⟩ := List.mem_map.mp hx
  exact h.prose_free y hy

/-- **In a well-formed text every pair is a match, and nothing else is.** -/
theorem segments_text (h : d.WellFormed) : dollarEquation.segments d.text = d.segments := by
  have hne : ∀ x ∈ (groups d.pairs).dropLast, x.2 ≠ [] := by
    intro x hx
    rw [groups, ← List.map_dropLast] at hx
    obtain ⟨y, hy, rfl⟩ := List.mem_map.mp hx
    exact h.prose_ne_nil y hy
  rw [text, segments_prose_append h.front_free,
    segments_written h.standsAlone h.groups_free hne]
  rfl

/-- What stands behind a text that ends with prose is searched by itself. -/
theorem segments_text_append (h : d.WellFormed) (hne : ∀ x ∈ d.pairs, x.2 ≠ []) (rest : Text) :
    dollarEquation.segments (d.text ++ rest) = d.segments ++ dollarEquation.segments rest := by
  have hne : ∀ x ∈ groups d.pairs, x.2 ≠ [] := by
    intro x hx
    obtain ⟨y, hy, rfl⟩ := List.mem_map.mp hx
    exact hne y hy
  rw [text, List.append_assoc, segments_prose_append h.front_free,
    segments_written_append h.standsAlone h.groups_free hne, segments, List.append_assoc]

/-- The matches in a well-formed text are its pairs. -/
theorem hits_text (h : d.WellFormed) :
    dollarEquation.hits d.text = d.bodies.map dollarPair := by
  rw [hits, segments_text h]
  simp [segments, groups, bodies]

/-- Erasing the matches in a well-formed text leaves its prose. -/
theorem erase_text (h : d.WellFormed) : dollarEquation.erase d.text = d.prose := by
  rw [erase, segments_text h]
  simp [segments, groups, prose, List.flatMap_map]

/-! ## One dollar more -/

/-- The pairs that a dollar in front of `q` and `pairs` makes of them. The prose between pairs
becomes bodies, and the bodies become prose. -/
def insideOut : Text → List (Text × Text) → List (Text × Text)
  | _, [] => []
  | q, (b, p) :: pairs => (q, b) :: insideOut p pairs

/-- The prose behind the last pair, or `q` if there is none. -/
def lastProse : Text → List (Text × Text) → Text
  | q, [] => q
  | _, (_, p) :: pairs => lastProse p pairs

/-- A dollar in front of prose turns every pair behind it inside out. -/
theorem segments_cons_dollar {q : Text} {pairs : List (Text × Text)}
    (h : (PairedText.mk q pairs).WellFormed)
    (hhead : (PairedText.mk q pairs).text.head? ≠ some '$') :
    dollarEquation.segments ('$' :: (PairedText.mk q pairs).text)
      = groupSegments (groups (insideOut q pairs)) ++ plain ('$' :: lastProse q pairs) := by
  induction pairs generalizing q with
  | nil => simpa [text, insideOut, lastProse] using segments_dollar_prose h.front_free
  | cons x pairs ih =>
    obtain ⟨b, p⟩ := x
    have hq : q ≠ [] := by
      rintro rfl
      exact hhead (h.head?_eq_dollar_iff.mpr ⟨rfl, by simp⟩)
    have hb : b ≠ [] := h.body_ne_nil (b, p) (by simp)
    have hbfree : '$' ∉ b := h.body_free (b, p) (by simp)
    have htext : '$' :: (PairedText.mk q ((b, p) :: pairs)).text
        = dollarPair q ++ (b ++ '$' :: (PairedText.mk p pairs).text) := by
      simp [text, dollarPair]
    rw [htext, standsAlone_dollarPair hq h.front_free _ (head?_append_of_free hb hbfree _),
      segments_prose_append hbfree, ih h.tail.1 h.tail.2]
    simp [insideOut, lastProse]

/-- A dollar directly in front of the first pair goes into its match. -/
theorem segments_cons_dollar_of_nil {b p : Text} {pairs : List (Text × Text)}
    (h : (PairedText.mk [] ((b, p) :: pairs)).WellFormed) :
    dollarEquation.segments ('$' :: (PairedText.mk [] ((b, p) :: pairs)).text)
      = .hit ('$' :: dollarPair b) :: (PairedText.mk p pairs).segments := by
  have hb : b ≠ [] := h.body_ne_nil (b, p) (by simp)
  have hbfree : '$' ∉ b := h.body_free (b, p) (by simp)
  have htext : '$' :: (PairedText.mk [] ((b, p) :: pairs)).text
      = ('$' :: dollarPair b) ++ (PairedText.mk p pairs).text := by
    simp [text]
  rw [htext, standsAlone_cons_dollarPair hb hbfree _ h.tail.2, segments_text h.tail.1]

end PairedText

/-! ## Lost pairs -/

/-- Where a match stands after one character has come in behind the first `n`. -/
def shifted (n : Nat) (h : Nat × Text) : Nat × Text :=
  if h.1 < n then h else (h.1 + 1, h.2)

/-- The matches in `u ++ v` that are no longer matches after a dollar has come in between. -/
def lostPairs (u v : Text) : List (Nat × Text) :=
  (dollarEquation.placedHits (u ++ v)).filter fun h =>
    shifted u.length h ∉ dollarEquation.placedHits (u ++ '$' :: v)

theorem shifted_of_lt {n : Nat} {h : Nat × Text} (hlt : h.1 < n) : shifted n h = h :=
  if_pos hlt

theorem shifted_of_le {n : Nat} {h : Nat × Text} (hle : n ≤ h.1) :
    shifted n h = (h.1 + 1, h.2) :=
  if_neg (Nat.not_lt.mpr hle)

theorem snd_shifted (n : Nat) (h : Nat × Text) : (shifted n h).2 = h.2 := by
  unfold shifted
  split
  · rfl
  · rfl

theorem le_fst_shifted (n : Nat) (h : Nat × Text) : h.1 ≤ (shifted n h).1 := by
  unfold shifted
  split
  · exact Nat.le_refl _
  · exact Nat.le_succ _

theorem fst_shifted_le (n : Nat) (h : Nat × Text) : (shifted n h).1 ≤ h.1 + 1 := by
  unfold shifted
  split
  · exact Nat.le_succ _
  · exact Nat.le_refl _

/-- A dollar between `u` and `v` touches a pair. -/
def Touches (u v : Text) : Prop :=
  u.getLast? = some '$' ∨ v.head? = some '$'

instance (u v : Text) : Decidable (Touches u v) :=
  inferInstanceAs (Decidable (_ ∨ _))

variable {u v : Text} {init V W : List Segment}

/-- Only matches behind the common segments can be lost. -/
theorem lostPairs_eq_filter (hV : dollarEquation.segments (u ++ v) = init ++ V)
    (hW : dollarEquation.segments (u ++ '$' :: v) = init ++ W)
    (hle : (spelled init).length ≤ u.length) :
    lostPairs u v = (placed (spelled init).length V).filter fun h =>
      shifted u.length h ∉ placed (spelled init).length W := by
  have hplaced : ∀ h ∈ placed 0 init, h.1 < (spelled init).length := by
    intro h hh
    have hmem : .hit h.2 ∈ dollarEquation.segments (u ++ v) := by
      rw [hV]
      exact List.mem_append_left _ (hit_mem_of_mem_placed hh)
    simpa using lt_of_mem_placed hh (hit_ne_nil hmem)
  rw [lostPairs, placedHits, placedHits, hV, hW, placed_append, placed_append, Nat.zero_add,
    List.filter_append]
  have hleft : (placed 0 init).filter (fun h => shifted u.length h ∉
      placed 0 init ++ placed (spelled init).length W) = [] := by
    rw [List.filter_eq_nil_iff]
    intro h hh
    have hlt : h.1 < u.length := Nat.lt_of_lt_of_le (hplaced h hh) hle
    simp [shifted_of_lt hlt, hh]
  rw [hleft, List.nil_append]
  refine List.filter_congr (fun h hh => ?_)
  -- A match behind the common segments cannot come to stand among them.
  have hnot : shifted u.length h ∉ placed 0 init := by
    intro hin
    have hge := le_of_mem_placed hh
    have hshift := le_fst_shifted u.length h
    have hlt := hplaced _ hin
    omega
  simp [hnot]

/-- The searches before and after differ in one match `g`, which takes in the dollar and becomes
`g'`. -/
structure TakenIn (u v : Text) (init : List Segment) (g g' : Text) (T : List Segment) :
    Prop where
  /-- The search without the dollar. -/
  before : dollarEquation.segments (u ++ v) = init ++ .hit g :: T
  /-- The search with the dollar. -/
  after : dollarEquation.segments (u ++ '$' :: v) = init ++ .hit g' :: T
  /-- The match does not begin behind the place of the dollar. -/
  begins : (spelled init).length ≤ u.length
  /-- The match reaches to the place of the dollar. -/
  reaches : u.length ≤ (spelled init).length + g.length
  /-- The match gets longer by the dollar. -/
  longer : g'.length = g.length + 1

/-- The match that takes in the dollar is the only one that is lost. -/
theorem TakenIn.lostPairs_eq {g g' : Text} {T : List Segment} (h : TakenIn u v init g g' T) :
    lostPairs u v = [((spelled init).length, g)] := by
  obtain ⟨hV, hW, hle, hge, hlen⟩ := h
  have hg : g ≠ [] := hit_ne_nil (p := dollarEquation) (t := u ++ v) (by simp [hV])
  have hpos : 0 < g.length := List.length_pos_of_ne_nil hg
  rw [lostPairs_eq_filter hV hW hle]
  generalize (spelled init).length = n at hle hge
  rw [placed, placed, hlen, ← Nat.add_assoc, placed_add (n + g.length) 1]
  -- The match itself is gone: a longer one stands in its place, and the rest begin behind it.
  have hself : shifted u.length (n, g) ∉
      (n, g') :: (placed (n + g.length) T).map fun h => (h.1 + 1, h.2) := by
    have hsnd := snd_shifted u.length (n, g)
    have hfst := fst_shifted_le u.length (n, g)
    rw [List.mem_cons, not_or]
    constructor
    · intro heq
      rw [heq] at hsnd
      simp only at hsnd
      rw [← hsnd] at hlen
      exact absurd hlen (Nat.ne_of_lt (Nat.lt_succ_self _))
    · intro hin
      obtain ⟨h, hh, heq⟩ := List.mem_map.mp hin
      have hge := le_of_mem_placed hh
      rw [← heq] at hfst
      simp only at hfst
      omega
  have hrest : (placed (n + g.length) T).filter (fun h => shifted u.length h ∉
      (n, g') :: (placed (n + g.length) T).map fun h => (h.1 + 1, h.2)) = [] := by
    rw [List.filter_eq_nil_iff]
    intro h hh
    have hle : u.length ≤ h.1 := Nat.le_trans hge (le_of_mem_placed hh)
    have hin := List.mem_map_of_mem (f := fun h : Nat × Text => (h.1 + 1, h.2)) hh
    simp [shifted_of_le hle, hin]
  rw [List.filter_cons_of_pos (by simpa using hself), hrest]

/-- A dollar that goes into a match is erased with it. -/
theorem TakenIn.erase_eq {g g' : Text} {T : List Segment} (h : TakenIn u v init g g' T) :
    dollarEquation.erase (u ++ '$' :: v) = dollarEquation.erase (u ++ v) := by
  rw [erase, erase, h.before, h.after]
  simp [keptText]

namespace PairedText

/-- With the dollar come in, no pair begins where a pair turned inside out does. -/
theorem placed_insideOut_ne {n : Nat} {q : Text} {pairs : List (Text × Text)}
    {h h' : Nat × Text} (hh : h ∈ placed (n + q.length) (groupSegments (groups pairs)))
    (hh' : h' ∈ placed n (groupSegments (groups (insideOut q pairs)))) : h'.1 ≠ h.1 + 1 := by
  induction pairs generalizing n q with
  | nil => simp [placed] at hh
  | cons x pairs ih =>
    obtain ⟨b, p⟩ := x
    have hpair : ∀ b, (dollarPair b).length = b.length + 2 := by simp [dollarPair]
    rw [groups_cons, placed_groupSegments_cons, hpair] at hh
    rw [insideOut, groups_cons, placed_groupSegments_cons, hpair] at hh'
    rw [List.mem_cons] at hh hh'
    -- The first pairs stand one body apart, and the closing dollar of `b` opens the next.
    rcases hh with rfl | hh <;> rcases hh' with rfl | hh'
    · simp only
      omega
    · have hle := le_of_mem_placed hh'
      simp only
      omega
    · have hle := le_of_mem_placed hh
      simp only
      omega
    · refine ih ?_ hh'
      have hplace : n + (q.length + 2) + b.length + p.length
          = n + q.length + (b.length + 2) + p.length := by omega
      rwa [hplace]

theorem length_placed_groupSegments (n : Nat) (groups : List (Text × Text)) :
    (placed n (groupSegments groups)).length = groups.length := by
  rw [← List.length_map (f := Prod.snd), map_snd_placed, filterMap_match?_groupSegments,
    List.length_map]

variable {d e : PairedText}

/-- A dollar directly behind a pair goes into its match. -/
theorem takenIn_behind (h : (d.append e).WellFormed) {init : List (Text × Text)} {b : Text}
    (hpairs : d.pairs = init ++ [(b, [])]) :
    TakenIn d.text e.text (PairedText.mk d.front init).segments (dollarPair b)
      (dollarPair b ++ ['$']) e.segments := by
  have hhead : e.text.head? ≠ some '$' :=
    h.head?_ne_of_getLast? (h.left.getLast?_eq_dollar_iff.mpr ⟨init, b, hpairs⟩)
  have hd := h.left
  have he := h.right
  obtain ⟨f, pairs⟩ := d
  subst hpairs
  have hb : b ≠ [] := hd.body_ne_nil (b, []) (by simp)
  have hbfree : '$' ∉ b := hd.body_free (b, []) (by simp)
  obtain ⟨hinit, hne⟩ := hd.init
  have htext : (PairedText.mk f (init ++ [(b, [])])).text
      = (PairedText.mk f init).text ++ dollarPair b := by
    simp [text]
  rw [htext]
  refine ⟨?_, ?_, ?_, ?_, ?_⟩
  · rw [List.append_assoc, segments_text_append hinit hne,
      standsAlone_dollarPair hb hbfree _ hhead, segments_text he]
  · rw [List.append_assoc, segments_text_append hinit hne,
      segments_dollarPair_dollar hb hbfree, segments_text he]
  · simp
  · simp
  · simp

/-- A dollar directly in front of a pair goes into its match, unless it stands behind a pair. -/
theorem takenIn_in_front (h : (d.append e).WellFormed) (hend : d.text.getLast? ≠ some '$')
    {b p : Text} {pairs : List (Text × Text)} (he : e = ⟨[], (b, p) :: pairs⟩) :
    TakenIn d.text e.text d.segments (dollarPair b) ('$' :: dollarPair b)
      (PairedText.mk p pairs).segments := by
  have happend := segments_text_append h.left (h.left.prose_ne_nil_of_getLast? hend)
  have hright := h.right
  subst he
  refine ⟨?_, ?_, ?_, ?_, rfl⟩
  · rw [happend, segments_text hright]
    rfl
  · rw [happend, segments_cons_dollar_of_nil hright]
  · simp
  · simp

/-- A dollar that touches a pair goes into its match. -/
theorem exists_takenIn (h : (d.append e).WellFormed) (htouch : Touches d.text e.text) :
    ∃ init g g' T, TakenIn d.text e.text init g g' T := by
  by_cases hend : d.text.getLast? = some '$'
  · obtain ⟨init, b, hpairs⟩ := h.left.getLast?_eq_dollar_iff.mp hend
    exact ⟨_, _, _, _, takenIn_behind h hpairs⟩
  · have hhead := htouch.resolve_left hend
    obtain ⟨hfront, hpairs⟩ := h.right.head?_eq_dollar_iff.mp hhead
    obtain ⟨⟨b, p⟩, pairs, hpairs⟩ := List.exists_cons_of_ne_nil hpairs
    have he : e = ⟨[], (b, p) :: pairs⟩ := by rw [← hfront, ← hpairs]
    exact ⟨_, _, _, _, takenIn_in_front h hend he⟩

/-- The search around a dollar that touches no pair. -/
theorem segments_apart (h : (d.append e).WellFormed) (htouch : ¬Touches d.text e.text) :
    dollarEquation.segments (d.text ++ e.text) = d.segments ++ e.segments ∧
      dollarEquation.segments (d.text ++ '$' :: e.text)
        = d.segments ++ (groupSegments (groups (insideOut e.front e.pairs))
          ++ plain ('$' :: lastProse e.front e.pairs)) := by
  rw [Touches, not_or] at htouch
  have happend := segments_text_append h.left (h.left.prose_ne_nil_of_getLast? htouch.1)
  rw [happend, happend, segments_text h.right, segments_cons_dollar h.right htouch.2]
  exact ⟨rfl, rfl⟩

/-- A dollar that touches no pair costs every pair behind it. -/
theorem lostPairs_apart (h : (d.append e).WellFormed) (htouch : ¬Touches d.text e.text) :
    lostPairs d.text e.text = placed d.text.length e.segments := by
  obtain ⟨hV, hW⟩ := segments_apart h htouch
  rw [lostPairs_eq_filter hV hW (by simp), spelled_segments, List.filter_eq_self]
  intro x hx
  rw [decide_eq_true_eq, shifted_of_le (le_of_mem_placed hx), placed_append, placed_plain, List.append_nil]
  intro hin
  rw [segments, placed_append, placed_plain, spelled_plain] at hx
  exact placed_insideOut_ne hx hin rfl

/-- **A dollar that touches a pair costs one pair, and any other costs every pair behind it.** -/
theorem length_lostPairs (h : (d.append e).WellFormed) :
    (lostPairs d.text e.text).length
      = if Touches d.text e.text then 1 else e.pairs.length := by
  by_cases htouch : Touches d.text e.text
  · obtain ⟨init, g, g', T, htaken⟩ := exists_takenIn h htouch
    rw [if_pos htouch, htaken.lostPairs_eq, List.length_singleton]
  · rw [if_neg htouch, lostPairs_apart h htouch, segments, placed_append, placed_plain,
      List.nil_append, length_placed_groupSegments, groups, List.length_map]

/-! ## What erasing leaves -/

/-- Turned inside out, the bodies of pairs are prose. -/
theorem flatMap_snd_insideOut (q : Text) (pairs : List (Text × Text)) :
    (insideOut q pairs).flatMap Prod.snd = (pairs.map Prod.fst).flatten := by
  induction pairs generalizing q with
  | nil => rfl
  | cons x pairs ih =>
    obtain ⟨b, p⟩ := x
    rw [insideOut, List.flatMap_cons, List.map_cons, List.flatten_cons, ih]

/-- **What erasing leaves around a stray dollar.** Where the dollar touches a pair, it is the prose
alone. Elsewhere the bodies behind the dollar stay, and the prose behind it goes but for the
last. -/
theorem erase_stray (h : (d.append e).WellFormed) :
    dollarEquation.erase (d.text ++ '$' :: e.text)
      = d.prose ++ if Touches d.text e.text then e.prose
          else e.bodies.flatten ++ '$' :: lastProse e.front e.pairs := by
  by_cases htouch : Touches d.text e.text
  · obtain ⟨init, g, g', T, htaken⟩ := exists_takenIn h htouch
    rw [if_pos htouch, htaken.erase_eq, ← text_append, erase_text h, prose_append]
  · rw [if_neg htouch, erase, (segments_apart h htouch).2, bodies,
      ← flatMap_snd_insideOut e.front]
    simp [segments, groups, prose, List.flatMap_map]

/-! ## When a stray dollar costs at most one pair -/

/-- **When a stray dollar costs at most one pair.** Without the dollar every pair is a match. With
it, all pairs but at most one are matched as before exactly if the dollar touches a pair or has at
most one pair behind it. Erasing keeps the prose in front of the dollar in any case, and behind it
the prose if the dollar touches a pair, else the bodies. -/
theorem lostPairs_le_one_iff (h : (d.append e).WellFormed) :
    dollarEquation.hits (d.text ++ e.text) = (d.bodies ++ e.bodies).map dollarPair ∧
      ((lostPairs d.text e.text).length ≤ 1
        ↔ Touches d.text e.text ∨ e.pairs.length ≤ 1) ∧
      dollarEquation.erase (d.text ++ '$' :: e.text)
        = d.prose ++ if Touches d.text e.text then e.prose
            else e.bodies.flatten ++ '$' :: lastProse e.front e.pairs := by
  refine ⟨?_, ?_, erase_stray h⟩
  · rw [← text_append, hits_text h, bodies_append]
  · rw [length_lostPairs h]
    by_cases htouch : Touches d.text e.text
    · simp [htouch]
    · simp [htouch]

/-- A dollar directly behind a pair, with two pairs behind it. -/
theorem lostPairs_le_one_of_dollar_behind :
    let d : PairedText := ⟨"x ".toList, [("a".toList, [])]⟩
    let e : PairedText := ⟨" y ".toList, [("b".toList, " z ".toList), ("c".toList, [])]⟩
    (d.append e).WellFormed ∧ (lostPairs d.text e.text).length ≤ 1 := by
  intro d e
  have h : (d.append e).WellFormed :=
    ⟨by decide, by decide, by decide, by decide, by decide⟩
  exact ⟨h, (lostPairs_le_one_iff h).2.1.mpr (.inl (.inl (by decide)))⟩

/-- **A dollar in prose with two pairs behind it costs both.** -/
theorem lostPairs_of_dollar_in_prose :
    let d : PairedText := ⟨"x ".toList, []⟩
    let e : PairedText := ⟨" y ".toList, [("a".toList, " z ".toList), ("b".toList, " w".toList)]⟩
    (d.append e).WellFormed ∧ (lostPairs d.text e.text).length = 2 ∧
      dollarEquation.erase (d.text ++ '$' :: e.text) = "x ab$ w".toList := by
  intro d e
  have h : (d.append e).WellFormed :=
    ⟨by decide, by decide, by decide, by decide, by decide⟩
  have htouch : ¬Touches d.text e.text := by decide
  refine ⟨h, ?_, ?_⟩
  · rw [length_lostPairs h, if_neg htouch]
    rfl
  · rw [erase_stray h, if_neg htouch]
    decide

end PairedText

end TexCensus.Markup
