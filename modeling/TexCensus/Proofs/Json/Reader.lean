import Mathlib.Data.List.Forall2
import TexCensus.Json.Members
import TexCensus.Proofs.Json.Token

/-!
# Readers inside readers

A container is read by reading what stands in it and going on behind. `Json.Reader.run_nested` says
so of one reader inside another, and `Json.Reader.run_inside` of a value inside a container. From
these follow the readings of whole arrays (`Json.Reader.run_array`) and of whole objects
(`Json.Reader.exists_run_object`).

The reader of an object with a list of texts is stricter than the reader of any value:
`Json.MembersPlace.step_follows` puts the general reader beside it and says what both do with one
token, and `Json.Reader.exists_members_of_run` what they have read at the end.
-/

namespace TexCensus.Json

namespace Reader

variable {State Result State' Result' : Type} {r : Reader State Result} {s s' : State}
  {token : Token} {tokens rest : List Token} {result : Result}

theorem run_cons_inl (h : r.step s token = .ok (.inl s')) :
    r.run s (token :: rest) = r.run s' rest := by
  rw [run, h]

theorem run_cons_inr (h : r.step s token = .ok (.inr result)) :
    r.run s (token :: rest) = .ok (result, rest) := by
  rw [run, h]

/-- A reader does not look at what it leaves. -/
theorem run_append (h : r.run s tokens = .ok (result, rest)) (more : List Token) :
    r.run s (tokens ++ more) = .ok (result, rest ++ more) := by
  induction tokens generalizing s with
  | nil => cases h
  | cons token tokens ih =>
    rw [run] at h
    rw [List.cons_append, run]
    split at h
    · cases h
    · exact ih h
    · cases h
      rfl

theorem runText_eq_ok_iff {t : Text} :
    r.runText s t = .ok result ↔ r.run s (Token.ofText t) = .ok (result, []) := by
  unfold runText
  rw [bind_eq_ok_iff]
  constructor
  · rintro ⟨⟨result', rest⟩, hrun, h⟩
    cases rest with
    | nil =>
      cases h
      exact hrun
    | cons token rest => cases h
  · intro hrun
    exact ⟨_, hrun, rfl⟩

/-- A reader that takes no fault and leaves nothing has got no fault. -/
theorem isSound_of_run
    (hstrict : ∀ s quoted fault, ∃ e, r.step s (.broken quoted fault) = .error e)
    (h : r.run s tokens = .ok (result, [])) : ∀ token ∈ tokens, token.isSound = true := by
  have hsound {s : State} {token : Token} {next : State ⊕ Result}
      (hstep : r.step s token = .ok next) : token.isSound = true := by
    cases token with
    | broken quoted fault =>
      obtain ⟨e, he⟩ := hstrict s quoted fault
      rw [he] at hstep
      cases hstep
    | _ => rfl
  induction tokens generalizing s with
  | nil => cases h
  | cons token tokens ih =>
    rw [run] at h
    split at h
    · cases h
    · next hstep =>
      intro t ht
      rcases List.mem_cons.1 ht with rfl | ht
      · exact hsound hstep
      · exact ih h t ht
    · next hstep =>
      cases h
      intro t ht
      rw [List.mem_singleton.1 ht]
      exact hsound hstep

/-- **A reader that works inside another.** If the outer one hands its tokens on until the inner one
has its result, it goes on behind what the inner one takes. -/
theorem run_nested {inner : Reader State' Result'} {wrap : State' → State} {done : Result' → State}
    (hstep : ∀ s token, r.step (wrap s) token = (inner.step s token).map
      (Sum.elim (fun s => .inl (wrap s)) fun x => .inl (done x)))
    {s : State'} {x : Result'} (h : inner.run s tokens = .ok (x, rest)) :
    r.run (wrap s) tokens = r.run (done x) rest := by
  induction tokens generalizing s with
  | nil => cases h
  | cons token tokens ih =>
    have houter := hstep s token
    rw [run] at h
    split at h
    · cases h
    · next s' hinner =>
      rw [hinner] at houter
      rw [run_cons_inl houter]
      exact ih h
    · next hinner =>
      rw [hinner] at houter
      cases h
      exact run_cons_inl houter

end Reader

/-! ## Values inside containers -/

namespace Place

variable {outside : Nat} {around inner : List Frame} {next : Expectation} {p : Place}
  {token : Token} {result : Place ⊕ Value}

/-- What becomes of the step of a value when more containers stand around it. -/
def within (outside : Nat) (around : List Frame) : Place ⊕ Value → Place ⊕ Value
  | .inl p => .inl ⟨outside, p.around ++ around, p.next⟩
  | .inr v => deliver outside around v

theorem within_deliver (o : Nat) (v : Value) :
    within outside around (deliver o inner v) = deliver outside (inner ++ around) v := by
  cases inner with
  | nil => rfl
  | cons frame inner => cases frame <;> rfl

theorem enter_within (h : enter (outside + around.length) inner next = .ok result) :
    enter outside (inner ++ around) next = .ok (within outside around result) := by
  unfold enter at h ⊢
  rw [List.length_append]
  split at h
  · next hdepth =>
    cases h
    rw [if_pos (by omega)]
    rfl
  · cases h

theorem beginValue_within
    (h : beginValue (outside + around.length) inner token = .ok result) :
    beginValue outside (inner ++ around) token = .ok (within outside around result) := by
  unfold beginValue at h ⊢
  split at h
  · exact enter_within h
  · exact enter_within h
  · cases h
    rw [within_deliver]
  · cases h

/-- Where an array may end, any other token begins its first item. -/
theorem step_itemOrEnd (h : token ≠ .closeBracket) :
    step ⟨outside, around, .itemOrEnd⟩ token = beginValue outside (.array [] :: around) token := by
  cases token with
  | closeBracket => exact absurd rfl h
  | _ => rfl

/-- Where an object may end, any other token is its first key. -/
theorem step_keyOrEnd (h : token ≠ .closeBrace) :
    step ⟨outside, around, .keyOrEnd⟩ token = takeKey ⟨outside, around, .keyOrEnd⟩ [] token := by
  cases token with
  | closeBrace => exact absurd rfl h
  | _ => rfl

theorem takeKey_within {before : List (Text × Value)}
    (h : takeKey ⟨outside + around.length, inner, next⟩ before token = .ok result) :
    takeKey ⟨outside, inner ++ around, next⟩ before token = .ok (within outside around result) := by
  unfold takeKey at h ⊢
  split at h
  · cases h
    rfl
  · cases h
  · cases h

/-- **A value is read in the same way whatever stands around it.** -/
theorem step_within (h : step ⟨outside + around.length, inner, next⟩ token = .ok result) :
    step ⟨outside, inner ++ around, next⟩ token = .ok (within outside around result) := by
  -- Only the end of a value and the depth look outward; every other case is the same on both sides.
  cases next with
  | value => exact beginValue_within h
  | itemOrEnd =>
    by_cases hclose : token = .closeBracket
    · subst hclose
      cases h
      rw [within_deliver]
      rfl
    · rw [step_itemOrEnd hclose] at h ⊢
      exact beginValue_within h
  | moreItems before =>
    cases token with
    | closeBracket => cases h; rw [within_deliver]; rfl
    | comma => cases h; rfl
    | _ => cases h
  | keyOrEnd =>
    by_cases hclose : token = .closeBrace
    · subst hclose
      cases h
      rw [within_deliver]
      rfl
    · rw [step_keyOrEnd hclose] at h ⊢
      exact takeKey_within h
  | key before => exact takeKey_within h
  | colon before key =>
    cases token with
    | colon => cases h; rfl
    | _ => cases h
  | moreMembers before =>
    cases token with
    | closeBrace => cases h; rw [within_deliver]; rfl
    | comma => cases h; rfl
    | _ => cases h

theorem outside_of_enter {o : Nat} (h : enter o inner next = .ok (.inl p)) : p.outside = o := by
  unfold enter at h
  split at h <;> cases h
  rfl

theorem outside_of_deliver {o : Nat} {v : Value} (h : deliver o inner v = .inl p) :
    p.outside = o := by
  cases inner with
  | nil => cases h
  | cons frame inner => cases frame <;> cases h <;> rfl

theorem outside_of_beginValue {o : Nat} (h : beginValue o inner token = .ok (.inl p)) :
    p.outside = o := by
  unfold beginValue at h
  split at h
  · exact outside_of_enter h
  · exact outside_of_enter h
  · exact outside_of_deliver (Except.ok.inj h)
  · cases h

theorem outside_of_takeKey {q : Place} {before : List (Text × Value)}
    (h : takeKey q before token = .ok (.inl p)) : p.outside = q.outside := by
  unfold takeKey at h
  split at h <;> cases h
  rfl

/-- The containers around a value stay. -/
theorem outside_of_step {q : Place} (h : step q token = .ok (.inl p)) : p.outside = q.outside := by
  unfold step at h
  split at h
  · exact outside_of_beginValue h
  · exact outside_of_deliver (Except.ok.inj h)
  · exact outside_of_beginValue h
  · cases h; rfl
  · exact outside_of_deliver (Except.ok.inj h)
  · cases h
  · exact outside_of_deliver (Except.ok.inj h)
  · exact outside_of_takeKey h
  · exact outside_of_takeKey h
  · cases h; rfl
  · cases h
  · cases h; rfl
  · exact outside_of_deliver (Except.ok.inj h)
  · cases h

/-- No part of a value begins with a fault. -/
theorem step_broken (p : Place) (quoted : Bool) (fault : Fault) :
    ∃ e, step p (.broken quoted fault) = .error e := by
  obtain ⟨outside, around, next⟩ := p
  cases next with
  | keyOrEnd => cases quoted <;> exact ⟨_, rfl⟩
  | key before => cases quoted <;> exact ⟨_, rfl⟩
  | _ => exact ⟨_, rfl⟩

end Place

namespace Reader

variable {tokens rest : List Token} {v : Value}

/-- **Behind a value in a container the container goes on.** -/
theorem run_inside {outside : Nat} {around : List Frame} {p q : Place}
    (hp : p.outside = outside + around.length)
    (h : value.run p tokens = .ok (v, rest)) (hq : Place.deliver outside around v = .inl q) :
    value.run ⟨outside, p.around ++ around, p.next⟩ tokens = value.run q rest := by
  induction tokens generalizing p with
  | nil => cases h
  | cons token tokens ih =>
    obtain ⟨o, inner, next⟩ := p
    cases hp
    rw [run] at h
    split at h
    · cases h
    · next p' hstep =>
      rw [run_cons_inl (Place.step_within hstep)]
      exact ih (Place.outside_of_step hstep) h
    · next hstep =>
      cases h
      have houter := Place.step_within hstep
      rw [Place.within, hq] at houter
      exact run_cons_inl houter

end Reader

/-! ## Arrays -/

/-- Parts with a comma between neighbours. -/
def commaSeparated : List (List Token) → List Token
  | [] => []
  | part :: parts => part ++ parts.flatMap (Token.comma :: ·)

namespace Reader

variable {depth : Nat} {tokens rest : List Token} {v : Value} {parts : List (List Token)}
  {vs : List Value}

theorem run_item {before : List Value}
    (h : value.run (.start (depth + 1)) tokens = .ok (v, rest)) :
    value.run ⟨depth, [.array before], .value⟩ tokens
      = value.run ⟨depth, [], .moreItems (v :: before)⟩ rest :=
  run_inside (p := .start (depth + 1)) rfl h rfl

theorem run_firstItem (h : value.run (.start (depth + 1)) tokens = .ok (v, rest)) :
    value.run ⟨depth, [], .itemOrEnd⟩ tokens = value.run ⟨depth, [], .moreItems [v]⟩ rest := by
  cases tokens with
  | nil => cases h
  | cons token tokens =>
    have hopen : token ≠ .closeBracket := by
      rintro rfl
      cases h
    have hstep : value.step ⟨depth, [], .itemOrEnd⟩ token
        = value.step ⟨depth, [.array []], .value⟩ token := Place.step_itemOrEnd hopen
    rw [← run_item h, run, run, hstep]

theorem run_moreItems
    (h : List.Forall₂ (fun part v => value.run (.start (depth + 1)) part = .ok (v, [])) parts vs)
    (before : List Value) (rest : List Token) :
    value.run ⟨depth, [], .moreItems before⟩
        (parts.flatMap (Token.comma :: ·) ++ Token.closeBracket :: rest)
      = .ok (.array (before.reverse ++ vs), rest) := by
  induction h generalizing before with
  | nil =>
    rw [List.append_nil]
    exact run_cons_inr rfl
  | cons hpart _ ih =>
    rw [List.flatMap_cons, List.append_assoc, List.cons_append]
    have hcomma : value.step ⟨depth, [], .moreItems before⟩ .comma
        = .ok (.inl ⟨depth, [.array before], .value⟩) := rfl
    rw [run_cons_inl hcomma, run_item (run_append hpart _), List.nil_append, ih]
    simp

/-- **An array is read item by item.** -/
theorem run_array (hdepth : depth < maxDepth)
    (h : List.Forall₂ (fun part v => value.run (.start (depth + 1)) part = .ok (v, [])) parts vs)
    (rest : List Token) :
    value.run (.start depth) (.openBracket :: (commaSeparated parts ++ .closeBracket :: rest))
      = .ok (.array vs, rest) := by
  have hopen : value.step (.start depth) .openBracket = .ok (.inl ⟨depth, [], .itemOrEnd⟩) :=
    if_pos hdepth
  rw [run_cons_inl hopen]
  cases h with
  | nil => exact run_cons_inr rfl
  | cons hpart hparts =>
    rw [commaSeparated, List.append_assoc, run_firstItem (run_append hpart _), List.nil_append,
      run_moreItems hparts]
    rfl

theorem run_moreTexts (ts before : List Text) (rest : List Token) :
    texts.run (.more before) ((ts.map fun t => [Token.scalar (.text t)]).flatMap (Token.comma :: ·)
        ++ Token.closeBracket :: rest)
      = .ok (before.reverse ++ ts, rest) := by
  induction ts generalizing before with
  | nil =>
    rw [List.append_nil]
    exact run_cons_inr rfl
  | cons t ts ih =>
    have hcomma : texts.step (.more before) .comma = .ok (.inl (.next before)) := rfl
    have htext : texts.step (.next before) (.scalar (.text t)) = .ok (.inl (.more (t :: before))) :=
      rfl
    rw [List.map_cons, List.flatMap_cons, List.append_assoc, List.cons_append,
      run_cons_inl hcomma, List.cons_append, run_cons_inl htext, List.nil_append, ih]
    simp

/-- **An array of texts is read text by text.** -/
theorem run_texts (ts : List Text) (rest : List Token) :
    texts.run .start (.openBracket ::
        (commaSeparated (ts.map fun t => [Token.scalar (.text t)]) ++ .closeBracket :: rest))
      = .ok (ts, rest) := by
  have hopen : texts.step .start .openBracket = .ok (.inl .first) := rfl
  rw [run_cons_inl hopen]
  cases ts with
  | nil => exact run_cons_inr rfl
  | cons t ts =>
    have htext : texts.step .first (.scalar (.text t)) = .ok (.inl (.more [t])) := rfl
    rw [List.map_cons, commaSeparated, List.append_assoc, List.cons_append, run_cons_inl htext,
      List.nil_append, run_moreTexts]
    rfl

end Reader

/-! ## What the reader of members has read -/

/-- An array of texts as a value. -/
def textsValue (ts : List Text) : Value :=
  .array (ts.map .text)

/-- What was read is a list of members, of which one at most has the known name. -/
structure Members.Lists (name : Text) (members : List (Text × Value)) (read : Members) : Prop where
  /-- The members of other names are taken as they are. -/
  general_eq : read.general = members.filter (·.1 ≠ name)
  /-- The member of the known name holds the texts. -/
  texts_eq : (members.filter (·.1 = name)).map Prod.snd = read.texts.toList.map textsValue

namespace Members.Lists

variable {name key : Text} {members : List (Text × Value)} {read : Members} {v : Value}
  {ts : List Text}

theorem nil (name : Text) : Lists name [] {} := ⟨rfl, rfl⟩

theorem general (h : Lists name members read) (hkey : key ≠ name) (v : Value) :
    Lists name ((key, v) :: members) { read with general := (key, v) :: read.general } where
  general_eq := by simp [hkey, h.general_eq]
  texts_eq := by simpa [hkey] using h.texts_eq

theorem texts (h : Lists name members read) (hnone : read.texts = none) (ts : List Text) :
    Lists name ((name, textsValue ts) :: members) { read with texts := some ts } where
  general_eq := by simp [h.general_eq]
  texts_eq := by
    have hrest := h.texts_eq
    rw [hnone] at hrest
    simpa using hrest

/-- The members in their order. -/
theorem finish (h : Lists name members read) :
    Lists name members.reverse (MembersPlace.finish read) where
  general_eq := by
    rw [List.filter_reverse, ← h.general_eq]
    rfl
  texts_eq := by
    rw [List.filter_reverse, List.map_reverse, h.texts_eq]
    show _ = read.texts.toList.map textsValue
    cases read.texts <;> rfl

theorem texts_eq_none (h : Lists name members read) (hkeys : name ∉ members.map Prod.fst) :
    read.texts = none := by
  have hnone : members.filter (·.1 = name) = [] := by
    rw [List.filter_eq_nil_iff]
    intro e he
    have : e.1 ≠ name := fun heq => hkeys (heq ▸ List.mem_map_of_mem he)
    simpa using this
  have := h.texts_eq
  rw [hnone] at this
  cases htexts : read.texts with
  | none => rfl
  | some ts => rw [htexts] at this; cases this

end Members.Lists

/-! ## Whole objects -/

/-- The tokens of a member whose value has certain tokens. -/
def memberTokens (key : Text) (tokens : List Token) : List Token :=
  .scalar (.text key) :: .colon :: tokens

/-- What the tokens of a member hold: texts under the known name, any value under another one. -/
inductive MemberReads (name : Text) : Text × List Token → Text × Value → Prop where
  | general {key : Text} {tokens : List Token} {v : Value} (hkey : key ≠ name)
    (h : Reader.value.run (.start 1) tokens = .ok (v, [])) : MemberReads name (key, tokens) (key, v)
  | texts {tokens : List Token} {ts : List Text}
    (h : Reader.texts.run .start tokens = .ok (ts, [])) :
    MemberReads name (name, tokens) (name, textsValue ts)

namespace Reader

variable {name key : Text} {tokens rest : List Token} {read : Members}
  {before ms : List (Text × Value)} {entry : Text × List Token} {m : Text × Value}
  {entries : List (Text × List Token)}

theorem run_members_value {place : Place} {v : Value}
    (h : value.run place tokens = .ok (v, rest)) :
    (members name).run ⟨read, .value key place⟩ tokens
      = (members name).run ⟨{ read with general := (key, v) :: read.general }, .more⟩ rest := by
  have hstep (place : Place) (token : Token) :
      (members name).step ⟨read, .value key place⟩ token = (value.step place token).map (Sum.elim
        (fun place => .inl ⟨read, .value key place⟩)
        fun v => .inl ⟨{ read with general := (key, v) :: read.general }, .more⟩) := by
    show (value.step place token >>= _) = _
    cases value.step place token with
    | error fault => rfl
    | ok next => cases next <;> rfl
  exact run_nested hstep h

theorem run_members_texts {place : TextsPlace} {ts : List Text}
    (h : texts.run place tokens = .ok (ts, rest)) :
    (members name).run ⟨read, .texts place⟩ tokens
      = (members name).run ⟨{ read with texts := some ts }, .more⟩ rest := by
  have hstep (place : TextsPlace) (token : Token) :
      (members name).step ⟨read, .texts place⟩ token = (texts.step place token).map (Sum.elim
        (fun place => .inl ⟨read, .texts place⟩)
        fun ts => .inl ⟨{ read with texts := some ts }, .more⟩) := by
    show (texts.step place token >>= _) = _
    cases texts.step place token with
    | error fault => rfl
    | ok next => cases next <;> rfl
  exact run_nested hstep h

/-- Where a key may stand, a member is read with its value. -/
theorem exists_run_member (h : MemberReads name entry m) (hlists : read.Lists name before)
    (hfresh : m.1 = name → read.texts = none) (more : List Token) :
    ∃ read', Members.Lists name (m :: before) read'
      ∧ ∀ next, next = MemberExpectation.keyOrEnd ∨ next = .key →
        (members name).run ⟨read, next⟩ (memberTokens entry.1 entry.2 ++ more)
          = (members name).run ⟨read', .more⟩ more := by
  cases h with
  | @general key tokens v hkey hvalue =>
    refine ⟨_, hlists.general hkey v, ?_⟩
    intro next hnext
    have htake : (members name).step ⟨read, next⟩ (.scalar (.text key))
        = .ok (.inl ⟨read, .colon key⟩) := by
      have : MembersPlace.takeKey name read (.scalar (.text key)) = .ok (.inl ⟨read, .colon key⟩) :=
        if_pos hkey
      rcases hnext with rfl | rfl <;> exact this
    have hcolon : (members name).step ⟨read, .colon key⟩ .colon
        = .ok (.inl ⟨read, .value key (.start 1)⟩) := rfl
    rw [memberTokens, List.cons_append, run_cons_inl htake, List.cons_append, run_cons_inl hcolon,
      run_members_value (run_append hvalue more), List.nil_append]
  | @texts tokens ts htexts =>
    have hnone := hfresh rfl
    refine ⟨_, hlists.texts hnone ts, ?_⟩
    intro next hnext
    have htake : (members name).step ⟨read, next⟩ (.scalar (.text name))
        = .ok (.inl ⟨read, .colonOfTexts⟩) := by
      have : MembersPlace.takeKey name read (.scalar (.text name))
          = .ok (.inl ⟨read, .colonOfTexts⟩) := by
        simp [MembersPlace.takeKey, hnone]
      rcases hnext with rfl | rfl <;> exact this
    have hcolon : (members name).step ⟨read, .colonOfTexts⟩ .colon
        = .ok (.inl ⟨read, .texts .start⟩) := rfl
    rw [memberTokens, List.cons_append, run_cons_inl htake, List.cons_append, run_cons_inl hcolon,
      run_members_texts (run_append htexts more), List.nil_append]

theorem exists_run_moreMembers (h : List.Forall₂ (MemberReads name) entries ms)
    (hlists : read.Lists name before) (honce : ((before ++ ms).map Prod.fst).count name ≤ 1)
    (rest : List Token) :
    ∃ all, Members.Lists name (before.reverse ++ ms) all
      ∧ (members name).run ⟨read, .more⟩
          ((entries.map fun e => memberTokens e.1 e.2).flatMap (Token.comma :: ·)
            ++ Token.closeBrace :: rest)
        = .ok (all, rest) := by
  induction h generalizing before read with
  | nil =>
    rw [List.append_nil]
    exact ⟨_, hlists.finish, run_cons_inr rfl⟩
  | @cons entry m entries ms hentry _ ih =>
    have hfresh : m.1 = name → read.texts = none := by
      intro hm
      refine hlists.texts_eq_none ?_
      rw [List.map_append, List.count_append, List.map_cons, hm, List.count_cons_self] at honce
      exact List.count_eq_zero.1 (by omega)
    have honce' : ((m :: before ++ ms).map Prod.fst).count name ≤ 1 := by
      simp only [List.map_append, List.map_cons, List.count_append, List.count_cons] at honce ⊢
      omega
    obtain ⟨read', hread', hrun⟩ := exists_run_member hentry hlists hfresh
      ((entries.map fun e => memberTokens e.1 e.2).flatMap (Token.comma :: ·)
        ++ Token.closeBrace :: rest)
    obtain ⟨all, hall, hmore⟩ := ih hread' honce'
    refine ⟨all, by simpa using hall, ?_⟩
    have hcomma : (members name).step ⟨read, .more⟩ .comma = .ok (.inl ⟨read, .key⟩) := rfl
    rw [List.map_cons, List.flatMap_cons, List.append_assoc, List.cons_append,
      run_cons_inl hcomma, hrun _ (.inr rfl), hmore]

/-- **An object is read member by member**, if the known name stands there once at most. -/
theorem exists_run_object (h : List.Forall₂ (MemberReads name) entries ms)
    (honce : (ms.map Prod.fst).count name ≤ 1) (rest : List Token) :
    ∃ all, Members.Lists name ms all
      ∧ (members name).run .start (.openBrace ::
          (commaSeparated (entries.map fun e => memberTokens e.1 e.2) ++ .closeBrace :: rest))
        = .ok (all, rest) := by
  have hopen : (members name).step .start .openBrace = .ok (.inl ⟨{}, .keyOrEnd⟩) := rfl
  rw [run_cons_inl hopen]
  cases h with
  | nil => exact ⟨_, (Members.Lists.nil name).finish, run_cons_inr rfl⟩
  | @cons entry m entries ms hentry hentries =>
    obtain ⟨read, hread, hrun⟩ := exists_run_member hentry (.nil name) (fun _ => rfl)
      ((entries.map fun e => memberTokens e.1 e.2).flatMap (Token.comma :: ·)
        ++ Token.closeBrace :: rest)
    obtain ⟨all, hall, hmore⟩ := exists_run_moreMembers hentries hread honce rest
    refine ⟨all, hall, ?_⟩
    rw [List.map_cons, commaSeparated, List.append_assoc, hrun _ (.inl rfl), hmore]

end Reader

/-! ## The general reader beside the reader of members -/

namespace MembersPlace

variable {name : Text} {before : List (Text × Value)} {p p' : MembersPlace} {token : Token}

/-- Where the general reader is when the reader of members expects something, given the members that
are read, in reverse. -/
def valuePlace (name : Text) (before : List (Text × Value)) : MemberExpectation → Place
  | .object => .start 0
  | .keyOrEnd => ⟨0, [], .keyOrEnd⟩
  | .key => ⟨0, [], .key before⟩
  | .colon key => ⟨0, [], .colon before key⟩
  | .colonOfTexts => ⟨0, [], .colon before name⟩
  | .value key place => ⟨0, place.around ++ [.object before key], place.next⟩
  | .texts .start => ⟨0, [.object before name], .value⟩
  | .texts .first => ⟨0, [.object before name], .itemOrEnd⟩
  | .texts (.next ts) => ⟨0, [.array (ts.map .text), .object before name], .value⟩
  | .texts (.more ts) => ⟨0, [.object before name], .moreItems (ts.map .text)⟩
  | .more => ⟨0, [], .moreMembers before⟩

/-- What holds at each expectation of what is read so far. -/
def Fits (name : Text) (before : List (Text × Value)) (texts : Option (List Text)) :
    MemberExpectation → Prop
  | .object | .keyOrEnd => before = []
  | .key | .more => True
  | .colon key => key ≠ name
  | .value key place => key ≠ name ∧ place.outside = 1
  | .colonOfTexts | .texts _ => texts = none

/-- The members that are read are those of a list, in reverse. -/
structure Follows (name : Text) (before : List (Text × Value)) (p : MembersPlace) : Prop where
  /-- What is read is in the list. -/
  lists : p.read.Lists name before
  /-- The expectation fits. -/
  fits : Fits name before p.read.texts p.next

/-- What a step of the general reader does when the reader of members goes on or ends. -/
def StepsTo (name : Text) (place : Place) (token : Token) : MembersPlace ⊕ Members → Prop
  | .inl p => ∃ before, Follows name before p
      ∧ Place.step place token = .ok (.inl (valuePlace name before p.next))
  | .inr all => ∃ ms, all.Lists name ms ∧ Place.step place token = .ok (.inr (.object ms))

theorem takeKey_follows {read : Members} {result : MembersPlace ⊕ Members} {place : Place}
    (hread : read.Lists name before) (h : takeKey name read token = .ok result)
    (hplace : ∀ key,
      Place.step place (.scalar (.text key)) = .ok (.inl ⟨0, [], .colon before key⟩)) :
    StepsTo name place token result := by
  unfold takeKey at h
  split at h
  · next key =>
    split at h
    · next hkey =>
      cases h
      exact ⟨before, ⟨hread, hkey⟩, hplace key⟩
    · next hkey =>
      split at h
      · cases h
      · next hnone =>
        cases h
        have hfits : read.texts = none := by simpa using hnone
        refine ⟨before, ⟨hread, hfits⟩, ?_⟩
        rw [hplace, Decidable.not_not.1 hkey]
        rfl
  · cases h
  · cases h

/-- One token of a value under a name that is not the known one. -/
theorem value_follows {read : Members} {key : Text} {place : Place}
    {result : MembersPlace ⊕ Members} (hread : read.Lists name before) (hkey : key ≠ name)
    (hplace : place.outside = 1) (h : step name ⟨read, .value key place⟩ token = .ok result) :
    StepsTo name (valuePlace name before (.value key place)) token result := by
  obtain ⟨next, hnext, h⟩ := bind_eq_ok_iff.1 h
  obtain ⟨o, around, expected⟩ := place
  cases hplace
  have houter : Place.step (valuePlace name before (.value key ⟨1, around, expected⟩)) token
      = .ok (Place.within 0 [.object before key] next) := Place.step_within hnext
  cases next with
  | inl place' =>
    cases h
    exact ⟨before, ⟨hread, hkey, Place.outside_of_step hnext⟩, houter⟩
  | inr v =>
    cases h
    exact ⟨(key, v) :: before, ⟨hread.general hkey v, trivial⟩, houter⟩

/-- One token of the texts under the known name. -/
theorem texts_follows {read : Members} {place : TextsPlace} {result : MembersPlace ⊕ Members}
    (hread : read.Lists name before) (hnone : read.texts = none)
    (h : step name ⟨read, .texts place⟩ token = .ok result) :
    StepsTo name (valuePlace name before (.texts place)) token result := by
  obtain ⟨next, hnext, h⟩ := bind_eq_ok_iff.1 h
  have hdone (ts : List Text) :
      Follows name ((name, textsValue ts) :: before) ⟨{ read with texts := some ts }, .more⟩ :=
    ⟨hread.texts hnone ts, trivial⟩
  simp only [Reader.texts] at hnext
  split at hnext
  · cases hnext; cases h
    exact ⟨before, ⟨hread, hnone⟩, rfl⟩
  · cases hnext; cases h
    exact ⟨_, hdone [], rfl⟩
  · cases hnext; cases h
    exact ⟨before, ⟨hread, hnone⟩, rfl⟩
  · cases hnext; cases h
    exact ⟨before, ⟨hread, hnone⟩, rfl⟩
  · cases hnext; cases h
    exact ⟨before, ⟨hread, hnone⟩, rfl⟩
  · cases hnext; cases h
    next ts =>
    -- One reader turns the texts around at the end, the other one the values of the texts.
    refine ⟨_, hdone ts.reverse, ?_⟩
    have hclose : Place.step ⟨0, [.object before name], .moreItems (ts.map .text)⟩ .closeBracket
        = .ok (.inl ⟨0, [], .moreMembers ((name, .array (ts.map .text).reverse) :: before)⟩) := rfl
    rw [← List.map_reverse] at hclose
    exact hclose
  · cases hnext
  · cases hnext

/-- **One token.** What the reader of members does with a token, the general reader does, too. -/
theorem step_follows (h : Follows name before p) {result : MembersPlace ⊕ Members}
    (hstep : step name p token = .ok result) :
    StepsTo name (valuePlace name before p.next) token result := by
  obtain ⟨read, next⟩ := p
  obtain ⟨hread, hfits⟩ := h
  dsimp only at hread hfits ⊢
  cases next with
  | object =>
    cases hfits
    cases token with
    | openBrace =>
      cases hstep
      exact ⟨[], ⟨hread, rfl⟩, rfl⟩
    | _ => cases hstep
  | keyOrEnd =>
    cases hfits
    by_cases hclose : token = .closeBrace
    · subst hclose
      cases hstep
      exact ⟨[], hread.finish, rfl⟩
    · have htake : takeKey name read token = .ok result := by
        cases token with
        | closeBrace => exact absurd rfl hclose
        | _ => exact hstep
      exact takeKey_follows hread htake fun key => rfl
  | key => exact takeKey_follows hread hstep fun key => rfl
  | colon key =>
    cases token with
    | colon =>
      cases hstep
      exact ⟨before, ⟨hread, hfits, rfl⟩, rfl⟩
    | _ => cases hstep
  | colonOfTexts =>
    cases token with
    | colon =>
      cases hstep
      exact ⟨before, ⟨hread, hfits⟩, rfl⟩
    | _ => cases hstep
  | value key place => exact value_follows hread hfits.1 hfits.2 hstep
  | texts place => exact texts_follows hread hfits hstep
  | more =>
    cases token with
    | comma =>
      cases hstep
      exact ⟨before, ⟨hread, trivial⟩, rfl⟩
    | closeBrace =>
      cases hstep
      exact ⟨before.reverse, hread.finish, rfl⟩
    | _ => cases hstep

end MembersPlace

namespace Reader

variable {name : Text} {before : List (Text × Value)} {p : MembersPlace} {all : Members}
  {tokens rest : List Token}

theorem exists_run_of_follows (h : p.Follows name before)
    (hrun : (members name).run p tokens = .ok (all, rest)) :
    ∃ ms, all.Lists name ms
      ∧ value.run (MembersPlace.valuePlace name before p.next) tokens = .ok (.object ms, rest) := by
  induction tokens generalizing p before with
  | nil => cases hrun
  | cons token tokens ih =>
    rw [run] at hrun
    split at hrun
    · cases hrun
    · next p' hstep =>
      obtain ⟨before', hp', hvalue⟩ := MembersPlace.step_follows h hstep
      obtain ⟨ms, hms, hmore⟩ := ih hp' hrun
      exact ⟨ms, hms, (run_cons_inl hvalue).trans hmore⟩
    · next hstep =>
      cases hrun
      obtain ⟨ms, hms, hvalue⟩ := MembersPlace.step_follows h hstep
      exact ⟨ms, hms, run_cons_inr hvalue⟩

/-- **What the reader of members accepts is an object**, whose members it lists. -/
theorem exists_members_of_run (h : (members name).run .start tokens = .ok (all, rest)) :
    ∃ ms, all.Lists name ms ∧ value.run (.start 0) tokens = .ok (.object ms, rest) :=
  have hstart : MembersPlace.start.Follows name [] := ⟨.nil name, rfl⟩
  exists_run_of_follows hstart h

end Reader

end TexCensus.Json
