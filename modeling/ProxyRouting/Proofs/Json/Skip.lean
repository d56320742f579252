import Mathlib.Data.Set.List
import ProxyRouting.Json.Reader
import ProxyRouting.Proofs.Json.Literal
import ProxyRouting.Proofs.Json.Numeral

/-!
# Values that are passed over

A value is passed over up to its end, however it is spaced, and nothing but a value is.

    Spaced t.tokens s → EndsToken rest → skip (s ++ rest) = ok rest
    skip s = ok rest → s = w ++ rest with Spaced t.tokens w
-/

namespace ProxyRouting.Json

/-! ## Scalars -/

theorem joined_ne_nil (isFirst : Bool) (closing : Char) (items : List (List (List Char))) :
    joined isFirst closing items ≠ [] := by
  induction items generalizing isFirst with
  | nil => simp [joined]
  | cons item items ih => simp [joined_cons, ih]

theorem skipScalar_of_isDigit {c : Char} (h : c.isDigit = true) (s : List Char) :
    skipScalar (c :: s) = skipNumber (c :: s) := by
  have hne (d : Char) (hd : d.isDigit = false) (t : List Char) : c :: s ≠ d :: t :=
    fun heq => ne_of_isDigit h hd (List.cons.inj heq).1
  unfold skipScalar
  split
  · next heq => cases heq
  · next heq => exact absurd heq (hne 'n' (by decide) _)
  · next heq => exact absurd heq (hne 't' (by decide) _)
  · next heq => exact absurd heq (hne 'f' (by decide) _)
  · next heq => exact absurd heq (hne '-' (by decide) _)
  · next heq => exact absurd heq (hne '"' (by decide) _)
  · next heq =>
    cases heq
    rw [if_pos h]

/-- A value of one token is passed over. -/
theorem skipScalar_append {t : Tree} {token rest : List Char} (ht : t.tokens = [token])
    (hrest : EndsToken rest) : skipScalar (token ++ rest) = .ok rest := by
  cases t with
  | null =>
    cases ht
    exact readWord_append "ull".toList rest
  | bool b =>
    cases ht
    cases b with
    | true => exact readWord_append "rue".toList rest
    | false => exact readWord_append "alse".toList rest
  | number n =>
    cases ht
    have hskip := skipNumber_append n hrest.endsNumber
    obtain ⟨c, more, htext, ⟨rfl, -, rfl⟩ | ⟨hc, -, hunsigned⟩⟩ := n.exists_text
    · rw [htext]
      exact hskip
    · rw [htext, List.cons_append, skipScalar_of_isDigit hc, ← List.cons_append, hunsigned, hskip]
  | text l =>
    cases ht
    rw [Literal.text_append]
    exact skipText_body l rest
  | list items => exact absurd (List.cons.inj ht).2 (joined_ne_nil _ _ _)
  | object members => exact absurd (List.cons.inj ht).2 (joined_ne_nil _ _ _)

theorem exists_of_skipScalar {s rest : List Char} (h : skipScalar s = .ok rest) :
    ∃ (t : Tree) (token : List Char), t.tokens = [token] ∧ s = token ++ rest := by
  unfold skipScalar at h
  split at h
  · cases h
  · exact ⟨.null, _, rfl, congrArg _ (eq_of_readWord h)⟩
  · exact ⟨.bool true, _, rfl, congrArg _ (eq_of_readWord h)⟩
  · exact ⟨.bool false, _, rfl, congrArg _ (eq_of_readWord h)⟩
  · obtain ⟨n, hn, rfl⟩ := exists_of_skipNumber true h
    exact ⟨.number n, _, rfl, by rw [Numeral.text, if_pos hn, List.cons_append]⟩
  · obtain ⟨l, hl⟩ := exists_of_skipText h
    exact ⟨.text l, _, rfl, hl⟩
  · split at h
    · obtain ⟨n, hn, hs⟩ := exists_of_skipNumber false h
      exact ⟨.number n, _, rfl, by rw [Numeral.text, if_neg (by simp [hn]), hs]⟩
    · cases h

/-! ## Steps -/

/-- Goes on with the brackets that are open. -/
def goOn (clock : List Char) : List Bracket × List Char → Except Error (List Char)
  | ([], rest) => .ok rest
  | (outer, rest) => skipFrom clock outer rest

theorem skipFrom_cons (k : Char) (clock : List Char) (outer : List Bracket) (s : List Char) :
    skipFrom (k :: clock) outer s = skipStep outer s >>= goOn clock := by
  rw [skipFrom]
  cases skipStep outer s with
  | error e => rfl
  | ok r =>
    obtain ⟨outer, rest⟩ := r
    cases outer <;> rfl

/-- It comes to the same as to go on in front of the rest, `n` steps later at the most. -/
def Leads (n : Nat) (clock : List Char) (x : Except Error (List Char)) (outer : List Bracket)
    (rest : List Char) : Prop :=
  ∃ clock', clock.length ≤ clock'.length + n ∧ x = close outer rest >>= goOn clock'

/-- A value is passed over, whatever brackets are open. -/
def IsPassed (t : Tree) : Prop :=
  ∀ outer clock s rest, Spaced t.tokens s → EndsToken rest → s.length ≤ clock.length →
    Leads s.length clock (skipFrom clock outer (s ++ rest)) outer rest

/-- An item is passed over inside its brackets. -/
def IsItemPassed (b : Bracket) (item : List (List Char)) : Prop :=
  ∀ outer clock s rest, Spaced item s → EndsToken rest → s.length ≤ clock.length →
    Leads s.length clock (enter b (s ++ rest) >>= skipFrom clock (b :: outer)) (b :: outer) rest

section
variable {b : Bracket} {items : List (List (List Char))} {s : List Char}

theorem closing_eq (b : Bracket) : b.closing = ']' ∨ b.closing = '\x7d' := by
  cases b
  · exact .inl rfl
  · exact .inr rfl

theorem isBlank_closing (b : Bracket) : isBlank b.closing = false := by
  cases b <;> rfl

/-- The items after the first, and the closing bracket. -/
theorem leads_close (hitems : ∀ item ∈ items, IsItemPassed b item) (outer : List Bracket)
    (clock rest : List Char) (h : Spaced (joined false b.closing items) s)
    (hclock : s.length ≤ clock.length) :
    Leads s.length clock (close (b :: outer) (s ++ rest) >>= goOn clock) outer rest := by
  induction items generalizing s clock with
  | nil =>
    obtain ⟨u, hu, -, hdrop⟩ := exists_of_spaced (isBlank_closing b) h
    cases hu
    refine ⟨clock, by omega, ?_⟩
    have hcomma : b.closing ≠ ',' := by cases b <;> decide
    simp [close, hdrop, hcomma]
  | cons item items ih =>
    obtain ⟨hitem, hitems'⟩ := List.forall_mem_cons.mp hitems
    obtain ⟨u, hu, hlength, hdrop⟩ := exists_of_spaced (c := ',') (by decide) h
    obtain ⟨v, w, rfl, hv, hw⟩ := spaced_append_iff.mp hu
    rw [List.length_append] at hlength
    have hends := endsToken_of_joined (closing_eq b) hw rest
    obtain ⟨clock₁, hclock₁, hpassed⟩ := hitem outer clock v (w ++ rest) hv hends (by omega)
    obtain ⟨clock₂, hclock₂, hclosed⟩ := ih hitems' clock₁ hw (by omega)
    refine ⟨clock₂, by omega, ?_⟩
    rw [← hclosed, ← hpassed]
    simp only [close, hdrop, List.nil_append, List.append_assoc]
    cases enter b (v ++ (w ++ rest)) <;> rfl

/-- The items after the opening bracket, and the closing bracket. -/
theorem leads_opened (hopens : ∀ item ∈ items, Opens item)
    (hitems : ∀ item ∈ items, IsItemPassed b item) (outer : List Bracket) (clock rest : List Char)
    (h : Spaced (joined true b.closing items) s) (hclock : s.length ≤ clock.length) :
    Leads s.length clock (opened b outer (s ++ rest) >>= goOn clock) outer rest := by
  cases items with
  | nil =>
    obtain ⟨u, hu, -, hdrop⟩ := exists_of_spaced (isBlank_closing b) h
    cases hu
    refine ⟨clock, by omega, ?_⟩
    simp [opened, hdrop]
  | cons item items =>
    obtain ⟨hopen, -⟩ := List.forall_mem_cons.mp hopens
    obtain ⟨hitem, hitems'⟩ := List.forall_mem_cons.mp hitems
    obtain ⟨v, w, rfl, hv, hw⟩ := spaced_append_iff.mp h
    obtain ⟨c, v', hv', hlength, hdrop, -, hclosing⟩ := hopen.exists_of_spaced hv
    rw [List.length_append] at hclock
    have hends := endsToken_of_joined (closing_eq b) hw rest
    obtain ⟨clock₁, hclock₁, hpassed⟩ :=
      hitem outer clock (c :: v') (w ++ rest) hv' hends (by omega)
    obtain ⟨clock₂, hclock₂, hclosed⟩ := leads_close hitems' outer clock₁ rest hw (by omega)
    refine ⟨clock₂, by rw [List.length_append]; omega, ?_⟩
    rw [← hclosed, ← hpassed]
    have hne : c ≠ b.closing := by
      rcases closing_eq b with hb | hb
      · exact hb ▸ hclosing.1
      · exact hb ▸ hclosing.2
    simp only [opened, hdrop, List.append_assoc, beq_eq_false_iff_ne.mpr hne, List.cons_append]
    cases enter b (c :: (v' ++ (w ++ rest))) <;> rfl

end

/-! ## Values -/

theorem skipStep_of_ne {s more : List Char} {c : Char} (hdrop : dropBlanks s = c :: more)
    (hlist : c ≠ '[') (hobject : c ≠ '\x7b') (outer : List Bracket) :
    skipStep outer s = skipScalar (c :: more) >>= close outer := by
  unfold skipStep
  rw [hdrop]
  split
  · next heq => exact absurd (List.cons.inj heq).1 hlist
  · next heq => exact absurd (List.cons.inj heq).1 hobject
  · rfl

theorem first_ne_opening {t : Tree} {token : List Char} (ht : t.tokens = [token]) :
    t.first ≠ '[' ∧ t.first ≠ '\x7b' := by
  cases t with
  | number n =>
    exact ⟨first_number_ne n (by decide) (by decide), first_number_ne n (by decide) (by decide)⟩
  | bool b => cases b <;> decide
  | null => decide
  | text l => simp [Tree.first]
  | list items => exact absurd (List.cons.inj ht).2 (joined_ne_nil _ _ _)
  | object members => exact absurd (List.cons.inj ht).2 (joined_ne_nil _ _ _)

theorem isPassed_scalar {t : Tree} {token : List Char} (ht : t.tokens = [token]) : IsPassed t := by
  intro outer clock s rest hs hrest hclock
  obtain ⟨more, tokens, htokens⟩ := t.exists_tokens
  rw [ht] at htokens
  cases htokens
  rw [ht] at hs
  obtain ⟨u, hu, hlength, hdrop⟩ := exists_of_spaced t.first_spec.1 hs
  cases hu
  obtain ⟨k, clock, rfl⟩ := List.exists_cons_of_length_pos (by omega : 0 < clock.length)
  obtain ⟨hlist, hobject⟩ := first_ne_opening ht
  refine ⟨clock, by rw [List.length_cons]; omega, ?_⟩
  rw [skipFrom_cons, skipStep_of_ne (hdrop rest) hlist hobject, List.nil_append, ← List.cons_append,
    skipScalar_append ht hrest]
  rfl

def Bracket.opening : Bracket → Char
  | list => '['
  | object => '\x7b'

/-- Items in brackets. -/
theorem isPassed_bracketed {t : Tree} {b : Bracket} {items : List (List (List Char))}
    (ht : t.tokens = [b.opening] :: joined true b.closing items)
    (hopens : ∀ item ∈ items, Opens item) (hitems : ∀ item ∈ items, IsItemPassed b item) :
    IsPassed t := by
  intro outer clock s rest hs _ hclock
  rw [ht] at hs
  obtain ⟨u, hu, hlength, hdrop⟩ := exists_of_spaced (by cases b <;> rfl) hs
  obtain ⟨k, clock, rfl⟩ := List.exists_cons_of_length_pos (by omega : 0 < clock.length)
  rw [List.length_cons] at hclock
  obtain ⟨clock', hclock', hopened⟩ :=
    leads_opened hopens hitems outer clock rest hu (by omega)
  refine ⟨clock', by rw [List.length_cons]; omega, ?_⟩
  rw [skipFrom_cons, ← hopened, skipStep, hdrop]
  cases b <;> rfl

theorem isItemPassed_list {t : Tree} (h : IsPassed t) : IsItemPassed .list t.tokens :=
  fun outer clock s rest hs hrest hclock => h (.list :: outer) clock s rest hs hrest hclock

theorem isItemPassed_object {t : Tree} (h : IsPassed t) (l : Literal) :
    IsItemPassed .object (l.text :: [':'] :: t.tokens) := by
  intro outer clock s rest hs hrest hclock
  obtain ⟨u, hu, hlength, hname⟩ := Literal.exists_of_spaced hs
  obtain ⟨v, hv, hlength', hcolon⟩ := exists_of_spaced (c := ':') (by decide) hu
  obtain ⟨clock', hclock', hpassed⟩ := h (.object :: outer) clock v rest hv hrest (by omega)
  refine ⟨clock', by omega, ?_⟩
  have hskip : skipText (l.body ++ '"' :: (u ++ rest)) = .ok (u ++ rest) := skipText_body l _
  have hread : readColon (u ++ rest) = .ok (v ++ rest) := by
    rw [readColon, hcolon]
    rfl
  have henter : enter .object (s ++ rest) = .ok (v ++ rest) := by
    rw [enter, hname]
    exact bind_ok_iff.mpr ⟨_, hskip, hread⟩
  rw [← hpassed, henter]
  rfl

theorem isPassed (t : Tree) : IsPassed t := by
  induction t using Tree.induction with
  | null => exact isPassed_scalar rfl
  | bool b => exact isPassed_scalar rfl
  | number n => exact isPassed_scalar rfl
  | text l => exact isPassed_scalar rfl
  | list items ih =>
    have htokens : (Tree.list items).tokens =
        [Bracket.list.opening] :: joined true Bracket.list.closing (itemTokens items) := rfl
    refine isPassed_bracketed htokens (fun item hitem => ?_) (fun item hitem => ?_)
    all_goals
      rw [itemTokens_eq] at hitem
      obtain ⟨t, ht, rfl⟩ := List.mem_map.mp hitem
    · exact t.opens
    · exact isItemPassed_list (ih t ht)
  | object members ih =>
    have htokens : (Tree.object members).tokens =
        [Bracket.object.opening] :: joined true Bracket.object.closing (memberTokens members) :=
      rfl
    refine isPassed_bracketed htokens (fun item hitem => ?_) (fun item hitem => ?_)
    all_goals
      rw [memberTokens_eq] at hitem
      obtain ⟨m, hm, rfl⟩ := List.mem_map.mp hitem
    · exact m.1.opens _
    · exact isItemPassed_object (ih m hm) m.1

/-- **Every value is passed over up to its end.** -/
theorem skip_append {t : Tree} {s rest : List Char} (hs : Spaced t.tokens s)
    (hrest : EndsToken rest) : skip (s ++ rest) = .ok rest := by
  obtain ⟨clock', -, hpassed⟩ :=
    isPassed t [] (s ++ rest) s rest hs hrest (by rw [List.length_append]; omega)
  rw [skip, hpassed]
  rfl

/-! ## Nothing else -/

/-- An item inside a bracket. -/
def IsItem (b : Bracket) (item : List (List Char)) : Prop :=
  match b with
  | .list => ∃ t : Tree, item = t.tokens
  | .object => ∃ (l : Literal) (t : Tree), item = l.text :: [':'] :: t.tokens

/-- What the open brackets ask of the text after a value: there are more items in each, and it is
closed. -/
def Closes : List Bracket → List Char → List Char → Prop
  | [], s, rest => s = rest
  | b :: outer, s, rest => ∃ items v u, (∀ item ∈ items, IsItem b item) ∧ s = v ++ u ∧
      Spaced (joined false b.closing items) v ∧ Closes outer u rest

/-- Items in brackets are a value. -/
theorem exists_tree {b : Bracket} {items : List (List (List Char))}
    (h : ∀ item ∈ items, IsItem b item) :
    ∃ t : Tree, t.tokens = [b.opening] :: joined true b.closing items := by
  cases b with
  | list =>
    have hrange : items ∈ Set.range (List.map Tree.tokens) := by
      rw [Set.range_list_map]
      exact fun item hitem => (h item hitem).imp fun t ht => ht.symm
    obtain ⟨ts, rfl⟩ := hrange
    exact ⟨.list ts, by rw [Tree.tokens, itemTokens_eq]; rfl⟩
  | object =>
    have hrange : items ∈ Set.range
        (List.map fun m : Literal × Tree => m.1.text :: [':'] :: m.2.tokens) := by
      rw [Set.range_list_map]
      intro item hitem
      obtain ⟨l, t, rfl⟩ := h item hitem
      exact ⟨(l, t), rfl⟩
    obtain ⟨ms, rfl⟩ := hrange
    exact ⟨.object ms, by rw [Tree.tokens, memberTokens_eq]; rfl⟩

theorem exists_of_readColon {s rest : List Char} (h : readColon s = .ok rest) :
    ∃ blanks, s = blanks ++ ':' :: rest ∧ ∀ c ∈ blanks, isBlank c = true := by
  unfold readColon at h
  split at h
  · cases h
  · next hdrop =>
    cases h
    exact blanks_of_dropBlanks hdrop
  · cases h

/-- What is entered is an item, if a value follows. -/
theorem exists_of_enter {b : Bracket} {s u w : List Char} {t : Tree}
    (h : enter b s = .ok (w ++ u)) (hw : Spaced t.tokens w) :
    ∃ item v, IsItem b item ∧ Spaced item v ∧ s = v ++ u := by
  cases b with
  | list =>
    cases h
    exact ⟨t.tokens, w, ⟨t, rfl⟩, hw, rfl⟩
  | object =>
    simp only [enter] at h
    split at h
    · cases h
    · next r hdrop =>
      obtain ⟨r₁, htext, hcolon⟩ := bind_ok_iff.mp h
      obtain ⟨l, hl⟩ := exists_of_skipText htext
      obtain ⟨blanks₁, rfl, hblanks₁⟩ := exists_of_readColon hcolon
      obtain ⟨blanks, rfl, hblanks⟩ := blanks_of_dropBlanks hdrop
      refine ⟨l.text :: [':'] :: t.tokens, blanks ++ (l.text ++ (blanks₁ ++ ([':'] ++ w))),
        ⟨l, t, rfl⟩, .cons hblanks (.cons hblanks₁ hw), ?_⟩
      rw [hl]
      simp
    · cases h

section
variable {clock : List Char}
  (hskip : ∀ {outer : List Bracket} {s rest : List Char}, skipFrom clock outer s = .ok rest →
    ∃ (t : Tree) (w u : List Char), s = w ++ u ∧ Spaced t.tokens w ∧ Closes outer u rest)
include hskip

theorem closes_of_close {outer : List Bracket} {s rest : List Char}
    (h : close outer s >>= goOn clock = .ok rest) : Closes outer s rest := by
  induction outer generalizing s with
  | nil =>
    cases h
    rfl
  | cons b outer ih =>
    unfold close at h
    split at h
    · cases h
    · next c r hdrop =>
      obtain ⟨blanks, rfl, hblanks⟩ := blanks_of_dropBlanks hdrop
      split at h
      · next hcomma =>
        obtain rfl := beq_iff_eq.mp hcomma
        obtain ⟨p, hp, hgo⟩ := bind_ok_iff.mp h
        obtain ⟨s', henter, hs'⟩ := bind_ok_iff.mp hp
        cases hs'
        obtain ⟨t, w, u, rfl, hw, items, v, u', hitems, rfl, hv, hcloses⟩ := hskip hgo
        obtain ⟨item, v', hitem, hv', rfl⟩ := exists_of_enter henter hw
        refine ⟨item :: items, blanks ++ ([','] ++ (v' ++ v)), u',
          List.forall_mem_cons.mpr ⟨hitem, hitems⟩, by simp, ?_, hcloses⟩
        exact .cons hblanks (hv'.append hv)
      · split at h
        · next hclosing =>
          obtain rfl := beq_iff_eq.mp hclosing
          exact ⟨[], blanks ++ ([b.closing] ++ []), r, by simp, by simp, .cons hblanks .nil, ih h⟩
        · cases h

/-- What stands after an opening bracket goes with it. -/
theorem closes_of_opened {b : Bracket} {outer : List Bracket} {s rest : List Char}
    (h : opened b outer s >>= goOn clock = .ok rest) :
    ∃ items v u, (∀ item ∈ items, IsItem b item) ∧ s = v ++ u ∧
      Spaced (joined true b.closing items) v ∧ Closes outer u rest := by
  unfold opened at h
  split at h
  · cases h
  · next c r hdrop =>
    obtain ⟨blanks, rfl, hblanks⟩ := blanks_of_dropBlanks hdrop
    split at h
    · next hclosing =>
      obtain rfl := beq_iff_eq.mp hclosing
      exact ⟨[], blanks ++ ([b.closing] ++ []), r, by simp, by simp, .cons hblanks .nil,
        closes_of_close hskip h⟩
    · obtain ⟨p, hp, hgo⟩ := bind_ok_iff.mp h
      obtain ⟨s', henter, hs'⟩ := bind_ok_iff.mp hp
      cases hs'
      obtain ⟨t, w, u, rfl, hw, items, v, u', hitems, rfl, hv, hcloses⟩ := hskip hgo
      obtain ⟨item, v', hitem, hv', hs⟩ := exists_of_enter henter hw
      have hne : item ++ joined false b.closing items ≠ [] := fun hnil =>
        joined_ne_nil _ _ _ (List.append_eq_nil_iff.mp hnil).2
      exact ⟨item :: items, blanks ++ (v' ++ v), u', List.forall_mem_cons.mpr ⟨hitem, hitems⟩,
        by rw [hs]; simp, (hv'.append hv).blanks_append hblanks hne, hcloses⟩

end

/-- What is passed over up to the end of all brackets starts with a value. -/
theorem exists_of_skipFrom {clock : List Char} {outer : List Bracket} {s rest : List Char}
    (h : skipFrom clock outer s = .ok rest) :
    ∃ (t : Tree) (w u : List Char), s = w ++ u ∧ Spaced t.tokens w ∧ Closes outer u rest := by
  induction clock generalizing outer s rest with
  | nil => cases h
  | cons k clock ih =>
    rw [skipFrom_cons] at h
    have hbracketed {b : Bracket} {r : List Char} (hdrop : dropBlanks s = b.opening :: r)
        (hopened : opened b outer r >>= goOn clock = .ok rest) :
        ∃ (t : Tree) (w u : List Char), s = w ++ u ∧ Spaced t.tokens w ∧ Closes outer u rest := by
      obtain ⟨blanks, rfl, hblanks⟩ := blanks_of_dropBlanks hdrop
      obtain ⟨items, v, u, hitems, rfl, hv, hcloses⟩ := closes_of_opened ih hopened
      obtain ⟨t, ht⟩ := exists_tree hitems
      refine ⟨t, blanks ++ ([b.opening] ++ v), u, by simp, ?_, hcloses⟩
      rw [ht]
      exact .cons hblanks hv
    unfold skipStep at h
    split at h
    · next hdrop => exact hbracketed (b := .list) hdrop h
    · next hdrop => exact hbracketed (b := .object) hdrop h
    · obtain ⟨p, hp, hgo⟩ := bind_ok_iff.mp h
      obtain ⟨r, hscalar, hclose⟩ := bind_ok_iff.mp hp
      obtain ⟨t, token, ht, hs⟩ := exists_of_skipScalar hscalar
      obtain ⟨blanks, rfl, hblanks⟩ := blanks_of_dropBlanks hs
      refine ⟨t, blanks ++ (token ++ []), r, by simp, ?_,
        closes_of_close ih (bind_ok_iff.mpr ⟨p, hclose, hgo⟩)⟩
      rw [ht]
      exact .cons hblanks .nil

/-- **Only values are passed over.** -/
theorem exists_of_skip {s rest : List Char} (h : skip s = .ok rest) :
    ∃ (t : Tree) (w : List Char), s = w ++ rest ∧ Spaced t.tokens w := by
  obtain ⟨t, w, u, rfl, hw, rfl⟩ := exists_of_skipFrom h
  exact ⟨t, w, rfl, hw⟩

end ProxyRouting.Json
