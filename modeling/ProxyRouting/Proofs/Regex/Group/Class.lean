import Mathlib.Data.List.TakeDrop
import ProxyRouting.Proofs.Regex.Group.Escape

/-!
# Classes in a group

The readers of bracketed classes are steady.  They look at most two characters ahead, past blanks
where those are passed over; a class that is open at the end of an expression is a fault, so that a
class that can be read has something of it left wherever they look.
-/

namespace ProxyRouting.Regex

open Text (isBlank)

/-! ## The start of a class -/

theorem readHyphens_steady (blanks : Bool) (items : List ClassAst) :
    SteadyPair (readHyphens blanks items) := by
  intro s
  fun_induction readHyphens blanks items s with
  | case1 items s _ ih =>
    obtain ⟨hsuffix, hgroup⟩ := ih
    refine ⟨hsuffix.trans ((skip_suffix blanks s).trans (List.suffix_cons _ s)),
      fun body t ht => ?_⟩
    obtain rfl := ht.cons
    rw [readHyphens]
    exact hgroup _ _ (ht.tail.skip blanks)
  | case2 items s hhyphen =>
    refine ⟨List.suffix_refl _, fun body t ht => ?_⟩
    have hread : readHyphens blanks items t = (items, t) := by
      unfold readHyphens
      split
      · next more _ =>
        cases s with
        | nil =>
          rcases ht.nil with heq | heq
          · cases heq
          · cases heq
        | cons c s =>
          cases ht.cons
          exact absurd rfl (hhyphen s)
      · rfl
    rw [hread]
    exact ⟨rfl, ht⟩

/-- Opens a class after its negation. -/
def openItems (blanks negated : Bool) (s : List Char) : Except Fault (ClassLevel × List Char) :=
  match readHyphens blanks [] s with
  | (_, []) => .error .classUnclosed
  | ([], ']' :: rest) =>
    match skip blanks rest with
    | [] => .error .classUnclosed
    | s => .ok (⟨negated, none, [.literal (.verbatim ']')]⟩, s)
  | (items, s) => .ok (⟨negated, none, items⟩, s)

theorem openItems_steady (blanks negated : Bool) : Steady (openItems blanks negated) := by
  intro s x rest h
  obtain ⟨hsuffix, hgroup⟩ := readHyphens_steady blanks [] s
  unfold openItems at h
  cases hread : readHyphens blanks [] s with
  | mk items more =>
    rw [hread] at hsuffix hgroup
    simp only [hread] at h
    cases more with
    | nil => cases h
    | cons c more =>
      have hhyphens : ∀ body t, InGroup body s t →
          readHyphens blanks [] t = (items, c :: (more ++ closing)) := by
        intro body t ht
        obtain ⟨hfst, hsnd⟩ := hgroup body t ht
        exact Prod.ext hfst hsnd.cons
      split at h
      · next heq => cases heq
      · next heq =>
        cases heq
        cases hmore : skip blanks more with
        | nil =>
          rw [hmore] at h
          cases h
        | cons d after =>
          have hskipped := (InGroup.refl more).skip blanks
          have hafter := (skip_suffix blanks more).trans ((List.suffix_cons _ more).trans hsuffix)
          rw [hmore] at h hskipped hafter
          cases h
          refine ⟨hafter, fun body t ht => ⟨_, ?_, ht.append hafter⟩⟩
          unfold openItems
          simp only [hhyphens body t ht, hskipped.cons]
          rfl
      · next hbracket heq =>
        cases heq
        cases h
        refine ⟨hsuffix, fun body t ht => ⟨_, ?_, ht.append hsuffix⟩⟩
        unfold openItems
        simp only [hhyphens body t ht]
        split
        · next heq => cases heq
        · next heq =>
          cases heq
          exact absurd rfl (hbracket more rfl)
        · next heq =>
          cases heq
          rfl

theorem openClass_steady (blanks : Bool) : Steady (openClass blanks) := by
  refine .of_skip blanks (fun s hs => ⟨.classUnclosed, ?_⟩) fun c => ?_
  · simp [openClass, hs, readHyphens]
  · by_cases hc : c = '^'
    · rw [hc]
      refine ⟨_, (openItems_steady blanks true).skip blanks, .inl fun s more hs => ?_⟩
      unfold openClass openItems
      rw [hs]
      rfl
    · refine ⟨_, openItems_steady blanks false, .inr fun s more hs => ?_⟩
      unfold openClass openItems
      rw [hs]
      split
      next negated from' heq =>
        have hstart : (negated, from') = (false, c :: more) := by
          rw [← heq]
          split
          · next heq =>
            cases heq
            exact absurd rfl hc
          · rfl
        cases hstart
        rfl

/-! ## Classes of ASCII characters -/

/-- A class of ASCII characters after its negation. -/
def readAsciiName (negated : Bool) (s : List Char) : Option (ClassAst × List Char) :=
  match s.span (· != ':') with
  | (name, ':' :: ']' :: rest) => (asciiClass? name).map fun kind => (.ascii kind negated, rest)
  | _ => none

theorem readAsciiName_append (negated : Bool) (s : List Char) :
    readAsciiName negated (s ++ closing) =
      (readAsciiName negated s).map fun r => (r.1, r.2 ++ closing) := by
  have hclosing : closing.dropWhile (· != ':') = [] := by decide
  have hs := List.takeWhile_append_dropWhile (p := (· != ':')) (l := s)
  unfold readAsciiName
  rw [List.span_eq_takeWhile_dropWhile, List.span_eq_takeWhile_dropWhile, List.dropWhile_append]
  cases hdrop : s.dropWhile (· != ':') with
  | nil =>
    rw [hclosing]
    rfl
  | cons c rest =>
    have htake : (s ++ closing).takeWhile (· != ':') = s.takeWhile (· != ':') := by
      rw [List.takeWhile_append, if_neg]
      intro hlen
      rw [hdrop] at hs
      have := congrArg List.length hs
      rw [List.length_append, List.length_cons] at this
      omega
    rw [htake]
    simp only [List.isEmpty_cons, Bool.false_eq_true, if_false, List.cons_append]
    split
    · next name rest' heq =>
      obtain ⟨rfl, hc, htail⟩ : _ ∧ c = ':' ∧ rest ++ closing = ']' :: rest' := by
        simpa using heq
      cases rest with
      | nil => cases htail
      | cons d rest =>
        cases htail
        rw [hc]
        show _ = Option.map _ (Option.map _ (asciiClass? (s.takeWhile (· != ':'))))
        rw [Option.map_map]
        rfl
    · next hnone =>
      split
      · next name rest' heq =>
        obtain ⟨rfl, rfl, rfl⟩ : _ ∧ c = ':' ∧ rest = ']' :: rest' := by simpa using heq
        exact absurd rfl (hnone _ _)
      · rfl

theorem readAsciiName_suffix {negated : Bool} {s : List Char} {r : ClassAst × List Char}
    (h : readAsciiName negated s = some r) : r.2 <:+ s := by
  unfold readAsciiName at h
  rw [List.span_eq_takeWhile_dropWhile] at h
  split at h
  · next name rest heq =>
    obtain ⟨kind, -, rfl⟩ := Option.map_eq_some_iff.mp h
    have hdrop := List.dropWhile_suffix (l := s) (· != ':')
    rw [(Prod.mk.inj heq).2] at hdrop
    exact ((List.suffix_cons _ rest).trans (List.suffix_cons _ _)).trans hdrop
  · cases h

theorem readAscii_caret (s : List Char) : readAscii (':' :: '^' :: s) = readAsciiName true s := rfl

theorem readAscii_colon {s : List Char} (h : ∀ more, s ≠ '^' :: more) :
    readAscii (':' :: s) = readAsciiName false s := by
  unfold readAscii readAsciiName
  split
  · next start heq =>
    cases heq
    split
    next negated from' heq =>
      have hstart : (negated, from') = (false, s) := by
        rw [← heq]
        split
        · next more => exact absurd rfl (h more)
        · rfl
      cases hstart
      rfl
  · next hcolon => exact absurd rfl (hcolon s)

theorem readAscii_of_ne {s : List Char} (h : ∀ more, s ≠ ':' :: more) : readAscii s = none := by
  simp [readAscii]

theorem readAscii_append (s : List Char) :
    readAscii (s ++ closing) = (readAscii s).map fun r => (r.1, r.2 ++ closing) := by
  by_cases hcolon : ∃ more, s = ':' :: more
  · obtain ⟨more, rfl⟩ := hcolon
    by_cases hcaret : ∃ name, more = '^' :: name
    · obtain ⟨name, rfl⟩ := hcaret
      exact readAsciiName_append true name
    · have hmore := fun name heq => hcaret ⟨name, heq⟩
      rw [readAscii_colon hmore]
      exact (readAscii_colon ((InGroup.refl _).ne (by decide) hmore)).trans
        (readAsciiName_append false more)
  · have hs := fun more heq => hcolon ⟨more, heq⟩
    rw [readAscii_of_ne hs, readAscii_of_ne ((InGroup.refl s).ne (by decide) hs)]
    rfl

theorem readAscii_suffix {s : List Char} {r : ClassAst × List Char} (h : readAscii s = some r) :
    r.2 <:+ s := by
  by_cases hcolon : ∃ more, s = ':' :: more
  · obtain ⟨more, rfl⟩ := hcolon
    by_cases hcaret : ∃ name, more = '^' :: name
    · obtain ⟨name, rfl⟩ := hcaret
      rw [readAscii_caret] at h
      exact (readAsciiName_suffix h).trans
        ((List.suffix_cons _ name).trans (List.suffix_cons _ _))
    · rw [readAscii_colon fun name heq => hcaret ⟨name, heq⟩] at h
      exact (readAsciiName_suffix h).trans (List.suffix_cons _ more)
  · rw [readAscii_of_ne fun more heq => hcolon ⟨more, heq⟩] at h
    cases h

/-! ## Items -/

/-- Whether a hyphen before the character is one for itself. -/
def endsItem (after : Option Char) : Bool :=
  after == some ']' || after == some '-'

/-- What follows blanks, and a number sign and more blanks. -/
def pastComment (s : List Char) : List Char :=
  match s.dropWhile isBlank with
  | '#' :: more => more.dropWhile isBlank
  | s => s

theorem endsItem_of_passed {c : Char} (s : List Char) (h : isBlank c = true ∨ c = '#') :
    endsItem (c :: s).head? = false := by
  rw [endsItem, List.head?_cons, Bool.or_eq_false_iff, beq_eq_false_iff_ne, beq_eq_false_iff_ne]
  constructor
  · rintro ⟨⟩
    revert h
    decide
  · rintro ⟨⟩
    revert h
    decide

/-- Where nothing but blanks follow it makes no difference which of them is seen. -/
theorem endsItem_peekPast_blanks (s : List Char) :
    endsItem (peekPast true s) = endsItem (pastComment s).head? := by
  unfold peekPast pastComment
  rw [if_pos rfl]
  have hpassed (hs : s.dropWhile isBlank = [] ∨ ∃ more, s.dropWhile isBlank = '#' :: more) :
      endsItem s.head? = false := by
    cases s with
    | nil => rfl
    | cons c s =>
      refine endsItem_of_passed s ?_
      by_cases hc : isBlank c = true
      · exact .inl hc
      · rw [List.dropWhile_cons_of_neg hc] at hs
        rcases hs with hs | ⟨more, hs⟩
        · cases hs
        · cases hs
          exact .inr rfl
  split
  · next heq =>
    rw [heq, hpassed (.inl heq)]
    rfl
  · next more heq =>
    rw [heq]
    show _ = endsItem (more.dropWhile isBlank).head?
    split
    · next hmore =>
      rw [hmore, hpassed (.inr ⟨more, heq⟩)]
      rfl
    · next hmore =>
      rw [hmore]
      rfl
  · next c more hc heq =>
    rw [heq]
    split
    · next heq' =>
      cases heq'
      exact absurd rfl hc
    · rfl

theorem InGroup.pastComment {body s t : List Char} (h : InGroup body s t) :
    InGroup body (pastComment s) (pastComment t) := by
  have hdrop := h.dropWhile isBlank_parenthesis
  unfold Regex.pastComment
  split
  · next more heq =>
    rw [heq] at hdrop
    rw [hdrop.cons]
    exact hdrop.tail.dropWhile isBlank_parenthesis
  · next hnumber =>
    split
    · next more heq =>
      rw [heq] at hdrop
      cases hs : s.dropWhile isBlank with
      | nil =>
        rw [hs] at hdrop
        rcases hdrop.nil with heq | heq
        · cases heq
        · cases heq
      | cons c rest =>
        rw [hs] at hdrop
        cases hdrop.cons
        exact absurd hs (hnumber rest)
    · exact hdrop

theorem InGroup.endsItem_head {body s t : List Char} (h : InGroup body s t) :
    endsItem t.head? = endsItem s.head? := by
  cases s with
  | nil =>
    rcases h.nil with rfl | rfl
    · rfl
    · rfl
  | cons c s =>
    rw [h.cons]
    rfl

theorem InGroup.endsItem_peekPast {body s t : List Char} (blanks : Bool) (h : InGroup body s t) :
    endsItem (peekPast blanks t) = endsItem (peekPast blanks s) := by
  cases blanks with
  | false => exact h.endsItem_head
  | true =>
    rw [endsItem_peekPast_blanks, endsItem_peekPast_blanks]
    exact h.pastComment.endsItem_head

theorem readClassPrimitive_steady (blanks : Bool) : Steady (readClassPrimitive blanks) := by
  refine .of_cons rfl fun c => ?_
  by_cases hc : c = '\\'
  · rw [hc]
    exact readEscape_steady blanks
  · have hread : (fun s => readClassPrimitive blanks (c :: s)) =
        fun s => .ok (.literal (.verbatim c), s) := by
      funext s
      unfold readClassPrimitive
      split
      · next heq => cases heq
      · next heq =>
        cases heq
        exact absurd rfl hc
      · next heq =>
        cases heq
        rfl
    rw [hread]
    exact .ok _

/-- The range between two boundaries. -/
def rangeOf (first second : Primitive) : Except Fault ClassAst := do
  let low ← first.toBoundary
  let high ← second.toBoundary
  if low.char ≤ high.char then return .range low high else .error .classRangeInvalid

/-- Reads what may follow the first character of an item, past blanks. -/
def readRange (blanks : Bool) (first : Primitive) :
    List Char → Except Fault (ClassAst × List Char)
  | [] => .error .classUnclosed
  | '-' :: rest =>
    if endsItem (peekPast blanks rest) then first.toItem.map fun item => (item, '-' :: rest)
    else do
      let (second, s) ← readClassPrimitive blanks (skip blanks rest)
      (rangeOf first second).map fun item => (item, s)
  | s => first.toItem.map fun item => (item, s)

theorem readRange_hyphen (blanks : Bool) (first : Primitive) (s : List Char) :
    readRange blanks first ('-' :: s) =
      if endsItem (peekPast blanks s) then first.toItem.map fun item => (item, '-' :: s)
      else readClassPrimitive blanks (skip blanks s) >>= fun second =>
        (rangeOf first second.1).map fun item => (item, second.2) := rfl

theorem readRange_of_ne {blanks : Bool} {first : Primitive} {c : Char} (hc : c ≠ '-')
    (s : List Char) :
    readRange blanks first (c :: s) = first.toItem.map fun item => (item, c :: s) := by
  unfold readRange
  split
  · next heq => cases heq
  · next heq =>
    cases heq
    exact absurd rfl hc
  · rfl

theorem readRange_steady (blanks : Bool) (first : Primitive) : Steady (readRange blanks first) := by
  intro s x rest h
  cases s with
  | nil => cases h
  | cons c s =>
    by_cases hc : c = '-'
    · obtain rfl := hc
      rw [readRange_hyphen] at h
      by_cases hends : endsItem (peekPast blanks s) = true
      · rw [if_pos hends] at h
        obtain ⟨item, hitem, heq⟩ := map_ok_iff.mp h
        cases heq
        refine ⟨List.suffix_refl _, fun body t ht => ⟨t, ?_, ht⟩⟩
        obtain rfl := ht.cons
        rw [readRange_hyphen, ht.tail.endsItem_peekPast, if_pos hends, hitem]
        rfl
      · rw [if_neg hends] at h
        have hsecond := ((readClassPrimitive_steady blanks).skip blanks).bind fun second =>
          .const (rangeOf first second)
        obtain ⟨hsuffix, hgroup⟩ := hsecond s x rest h
        refine ⟨hsuffix.trans (List.suffix_cons _ s), fun body t ht => ?_⟩
        obtain rfl := ht.cons
        rw [readRange_hyphen, ht.tail.endsItem_peekPast, if_neg hends]
        exact hgroup _ _ ht.tail
    · rw [readRange_of_ne hc] at h
      obtain ⟨item, hitem, heq⟩ := map_ok_iff.mp h
      cases heq
      refine ⟨List.suffix_refl _, fun body t ht => ⟨t, ?_, ht⟩⟩
      obtain rfl := ht.cons
      rw [readRange_of_ne hc, hitem]
      rfl

theorem readItem_eq (blanks : Bool) (s : List Char) :
    readItem blanks s =
      readClassPrimitive blanks s >>= fun r => readRange blanks r.1 (skip blanks r.2) := by
  unfold readItem
  refine bind_congr fun r => ?_
  obtain ⟨first, rest⟩ := r
  cases hrest : skip blanks rest with
  | nil =>
    simp only [hrest]
    rfl
  | cons c rest =>
    simp only [hrest]
    by_cases hc : c = '-'
    · rw [hc, readRange_hyphen]
      show (if endsItem (peekPast blanks rest) then _ else _) = _
      split
      · cases first.toItem with
        | error e => rfl
        | ok item => rfl
      · refine bind_congr fun r => ?_
        unfold rangeOf
        cases first.toBoundary with
        | error e => rfl
        | ok low =>
          cases r.1.toBoundary with
          | error e => rfl
          | ok high =>
            show (if low.char ≤ high.char then _ else _) =
              Except.map _ (if low.char ≤ high.char then _ else _)
            split
            · rfl
            · rfl
    · rw [readRange_of_ne hc]
      split
      · next heq => cases heq
      · next heq =>
        cases heq
        exact absurd rfl hc
      · cases first.toItem with
        | error e => rfl
        | ok item => rfl

theorem readItem_steady (blanks : Bool) : Steady (readItem blanks) := by
  have hitem := (readClassPrimitive_steady blanks).bind fun first =>
    (readRange_steady blanks first).skip blanks
  rwa [← funext (readItem_eq blanks)] at hitem

/-! ## Whole classes -/

/-- The operation that two characters in a row stand for. -/
def operatorOf? (c d : Char) : Option SetOp :=
  if c = d then
    match c with
    | '&' => some .inter
    | '-' => some .diff
    | '~' => some .symmDiff
    | _ => none
  else none

/-- The operator at the start of a text, and what follows it. -/
def operator? : List Char → Option (SetOp × List Char)
  | c :: d :: rest => (operatorOf? c d).map fun kind => (kind, rest)
  | _ => none

theorem operatorOf?_parenthesis (c : Char) : operatorOf? c ')' = none := by
  unfold operatorOf?
  split
  · next heq =>
    rw [heq]
    rfl
  · rfl

theorem operator?_append (c : Char) (s : List Char) :
    operator? (c :: (s ++ closing)) = (operator? (c :: s)).map fun r => (r.1, r.2 ++ closing) := by
  cases s with
  | nil =>
    show (operatorOf? c ')').map _ = none
    rw [operatorOf?_parenthesis, Option.map_none]
  | cons d s =>
    show (operatorOf? c d).map _ = ((operatorOf? c d).map _).map _
    rw [Option.map_map]
    rfl

theorem operator?_suffix {s : List Char} {r : SetOp × List Char} (h : operator? s = some r) :
    r.2 <:+ s := by
  unfold operator? at h
  split at h
  · next c d rest =>
    obtain ⟨kind, -, rfl⟩ := Option.map_eq_some_iff.mp h
    exact (List.suffix_cons d rest).trans (List.suffix_cons c _)
  · cases h

namespace ClassReader

/-- A step that neither opens nor closes a bracket. -/
theorem step_of_ne {c : Char} (hopen : c ≠ '[') (hclose : c ≠ ']') (blanks : Bool)
    (r : ClassReader) (s : List Char) :
    r.step blanks (c :: s) =
      match operator? (c :: s) with
      | some (kind, rest) => .ok (.inr (r.operate kind), rest)
      | none => (readItem blanks (c :: s)).map fun i => (.inr (r.push i.1), i.2) := by
  unfold step
  split
  · next heq => cases heq
  · next heq =>
    cases heq
    exact absurd rfl hopen
  · next heq =>
    cases heq
    exact absurd rfl hclose
  · next heq =>
    cases heq
    rfl
  · next heq =>
    cases heq
    rfl
  · next heq =>
    cases heq
    rfl
  · next hinter hdiff hsymm =>
    have hnone : operator? (c :: s) = none := by
      cases s with
      | nil => rfl
      | cons d s =>
        show (operatorOf? c d).map _ = none
        rw [Option.map_eq_none_iff]
        unfold operatorOf?
        split
        · next heq =>
          obtain rfl := heq
          split
          · exact absurd rfl (hinter s)
          · exact absurd rfl (hdiff s)
          · exact absurd rfl (hsymm s)
          · rfl
        · rfl
    rw [hnone]

theorem step_open (blanks : Bool) (r : ClassReader) (s : List Char) :
    r.step blanks ('[' :: s) =
      match readAscii s with
      | some (item, rest) => .ok (.inr (r.push item), rest)
      | none => (openClass blanks s).map fun o => (.inr ⟨o.1, r.level :: r.outer⟩, o.2) := rfl

theorem step_close (blanks : Bool) (r : ClassReader) (s : List Char) :
    r.step blanks (']' :: s) =
      match r.outer with
      | [] => .ok (.inl (.bracket r.level.negated r.level.inside), s)
      | level :: outer =>
        .ok (.inr ⟨level.push (.bracket r.level.negated r.level.inside), outer⟩, s) := rfl

theorem step_steady (blanks : Bool) (r : ClassReader) : Steady (r.step blanks) := by
  intro s x rest h
  cases s with
  | nil => cases h
  | cons c s =>
    by_cases hopen : c = '['
    · obtain rfl := hopen
      rw [step_open] at h
      cases hascii : readAscii s with
      | some found =>
        rw [hascii] at h
        cases h
        have hfound := (readAscii_suffix hascii).trans (List.suffix_cons '[' s)
        refine ⟨hfound, fun body t ht => ?_⟩
        obtain rfl := ht.cons
        refine ⟨_, ?_, ht.append hfound⟩
        rw [step_open, readAscii_append, hascii]
        rfl
      | none =>
        rw [hascii] at h
        have hlevel := (openClass_steady blanks).map fun level =>
          (Sum.inr ⟨level, r.level :: r.outer⟩ : Ast ⊕ ClassReader)
        obtain ⟨hsuffix, hgroup⟩ := hlevel s x rest h
        refine ⟨hsuffix.trans (List.suffix_cons _ s), fun body t ht => ?_⟩
        obtain rfl := ht.cons
        rw [step_open, readAscii_append, hascii]
        exact hgroup _ _ ht.tail
    · by_cases hclose : c = ']'
      · obtain rfl := hclose
        have hrest : rest = s ∧ ∀ t, r.step blanks (']' :: t) = .ok (x, t) := by
          rw [step_close] at h
          simp only [step_close]
          cases houter : r.outer with
          | nil =>
            rw [houter] at h
            cases h
            exact ⟨rfl, fun _ => rfl⟩
          | cons level outer =>
            rw [houter] at h
            cases h
            exact ⟨rfl, fun _ => rfl⟩
        obtain ⟨rfl, hstep⟩ := hrest
        refine ⟨List.suffix_cons _ rest, fun body t ht => ?_⟩
        obtain rfl := ht.cons
        exact ⟨_, hstep _, ht.tail⟩
      · rw [step_of_ne hopen hclose] at h
        cases hop : operator? (c :: s) with
        | some found =>
          rw [hop] at h
          cases h
          have hfound := operator?_suffix hop
          refine ⟨hfound, fun body t ht => ?_⟩
          obtain rfl := ht.cons
          refine ⟨_, ?_, ht.append hfound⟩
          rw [step_of_ne hopen hclose, operator?_append, hop]
          rfl
        | none =>
          rw [hop] at h
          have hitem := (readItem_steady blanks).map fun item =>
            (Sum.inr (r.push item) : Ast ⊕ ClassReader)
          obtain ⟨hsuffix, hgroup⟩ := hitem (c :: s) x rest h
          refine ⟨hsuffix, fun body t ht => ?_⟩
          obtain rfl := ht.cons
          rw [step_of_ne hopen hclose, operator?_append, hop]
          exact hgroup _ _ ht

end ClassReader

namespace Reader

/-- More steps than there are characters make no difference. -/
theorem runClass_group (blanks : Bool) (fuel : Nat) :
    ∀ c s ast rest, runClass fuel blanks c s = .ok (ast, rest) → rest <:+ s ∧
      ∀ fuel' body t, fuel ≤ fuel' → InGroup body s t →
        ∃ rest', runClass fuel' blanks c t = .ok (ast, rest') ∧ InGroup body rest rest' := by
  induction fuel with
  | zero =>
    intro c s ast rest h
    cases h
  | succ fuel ih =>
    intro c s ast rest h
    rw [runClass] at h
    obtain ⟨⟨x, more⟩, hstep, hrun⟩ := bind_ok_iff.mp h
    obtain ⟨hsuffix, hgroup⟩ := (c.step_steady blanks).skip blanks s x more hstep
    -- one step on each side, and the rest by induction
    have hfuel : ∀ fuel', fuel + 1 ≤ fuel' → ∃ n, fuel' = n + 1 ∧ fuel ≤ n :=
      fun fuel' hle => ⟨fuel' - 1, by omega, by omega⟩
    cases x with
    | inl ast =>
      cases hrun
      refine ⟨hsuffix, fun fuel' body t hle ht => ?_⟩
      obtain ⟨n, rfl, -⟩ := hfuel fuel' hle
      obtain ⟨rest', hrest, hin⟩ := hgroup body t ht
      exact ⟨rest', bind_ok_iff.mpr ⟨_, hrest, rfl⟩, hin⟩
    | inr c =>
      obtain ⟨hsuffix', hgroup'⟩ := ih c more ast rest hrun
      refine ⟨hsuffix'.trans hsuffix, fun fuel' body t hle ht => ?_⟩
      obtain ⟨n, rfl, hle'⟩ := hfuel fuel' hle
      obtain ⟨middle, hmiddle, hin⟩ := hgroup body t ht
      obtain ⟨rest', hrest, hin'⟩ := hgroup' n body middle hle' hin
      exact ⟨rest', bind_ok_iff.mpr ⟨_, hmiddle, hrest⟩, hin'⟩

theorem readClass_steady (blanks : Bool) : Steady (readClass blanks) := by
  intro s ast rest h
  obtain ⟨⟨level, more⟩, hopen, hrun⟩ := bind_ok_iff.mp h
  obtain ⟨hsuffix, hgroup⟩ := openClass_steady blanks s level more hopen
  obtain ⟨hsuffix', hgroup'⟩ := runClass_group blanks _ _ _ _ _ hrun
  refine ⟨hsuffix'.trans hsuffix, fun body t ht => ?_⟩
  obtain ⟨middle, hmiddle, hin⟩ := hgroup body t ht
  obtain ⟨rest', hrest, hin'⟩ := hgroup' (middle.length + 1) body middle
    (Nat.succ_le_succ hin.length_le) hin
  exact ⟨rest', bind_ok_iff.mpr ⟨_, hmiddle, hrest⟩, hin'⟩

end Reader

end ProxyRouting.Regex
