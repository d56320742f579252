import ProxyRouting.Json.Reader
import ProxyRouting.Proofs.Json.Skip

/-!
# What a reader sees of a value

A reader is given a text, but what it reads depends on the value alone: neither on the blanks in it
nor on what follows it.  So a reader gives a value a meaning, `t.read? read`, and a text that it
takes something off starts with a value.

    Spaced t.tokens s → EndsToken rest →
      (read (s ++ rest)).toOption = (t.read? read).map (·, rest)
    (Tree.list items).read? (readList read) = items.mapM (·.read? read)
-/

namespace ProxyRouting.Json

section
variable {α β : Type} {read : Reader α} {t : Tree} {a? : Option α}

/-- What is read of a value does not depend on its blanks or on what follows it. -/
def Settles (read : Reader α) (t : Tree) (a? : Option α) : Prop :=
  ∀ s rest, Spaced t.tokens s → EndsToken rest → (read (s ++ rest)).toOption = a?.map (·, rest)

/-- What is read of a value, if it can be read. -/
def Tree.read? (t : Tree) (read : Reader α) : Option α :=
  (read t.compact).toOption.map Prod.fst

/-- What is taken off is a value. -/
def TakesTrees (read : Reader α) : Prop :=
  ∀ s a rest, read s = .ok (a, rest) →
    ∃ (t : Tree) (w : List Char), s = w ++ rest ∧ Spaced t.tokens w

/-- A reader that reads values, and nothing else. -/
structure ReadsTrees (read : Reader α) : Prop where
  settles : ∀ t : Tree, Settles read t (t.read? read)
  takes : TakesTrees read

theorem Settles.read?_eq (h : Settles read t a?) : t.read? read = a? := by
  have hcompact := h t.compact [] (spaced_flatten t.tokens) nofun
  rw [List.append_nil] at hcompact
  rw [Tree.read?, hcompact]
  cases a? <;> rfl

theorem ReadsTrees.of (settles : ∀ t, ∃ a?, Settles read t a?) (takes : TakesTrees read) :
    ReadsTrees read where
  settles t := by
    obtain ⟨a?, ha⟩ := settles t
    rwa [ha.read?_eq]
  takes := takes

/-- Where a reader wants another first character nothing is read. -/
theorem settles_none (h : ∀ s rest, dropBlanks s = t.first :: rest → (read s).toOption = none) :
    Settles read t none := by
  intro s rest hs _
  obtain ⟨v, -, -, hdrop⟩ := Tree.exists_of_spaced hs
  exact h _ _ (hdrop rest)

/-- A value of one token, with blanks before it. -/
theorem exists_spaced_of_dropBlanks {s token rest : List Char} (ht : t.tokens = [token])
    (h : dropBlanks s = token ++ rest) : ∃ w, s = w ++ rest ∧ Spaced t.tokens w := by
  obtain ⟨blanks, rfl, hblanks⟩ := blanks_of_dropBlanks h
  refine ⟨blanks ++ (token ++ []), by simp, ?_⟩
  rw [ht]
  exact .cons hblanks .nil

/-! ## Scalars -/

theorem readBool_of_ne {s rest : List Char} {c : Char} (h : dropBlanks s = c :: rest)
    (ht : c ≠ 't') (hf : c ≠ 'f') : (readBool s).toOption = none := by
  unfold readBool
  rw [h]
  split
  · next heq => exact absurd (List.cons.inj heq).1 ht
  · next heq => exact absurd (List.cons.inj heq).1 hf
  · rfl

theorem settles_readBool (t : Tree) : ∃ b?, Settles readBool t b? := by
  cases t with
  | bool b =>
    refine ⟨some b, fun s rest hs _ => toOption_eq_some_iff.mpr ?_⟩
    cases b with
    | true =>
      obtain ⟨u, hu, -, hdrop⟩ := exists_of_spaced (by decide) hs
      cases hu
      rw [readBool, hdrop]
      exact bind_ok_iff.mpr ⟨rest, readWord_append "rue".toList rest, rfl⟩
    | false =>
      obtain ⟨u, hu, -, hdrop⟩ := exists_of_spaced (by decide) hs
      cases hu
      rw [readBool, hdrop]
      exact bind_ok_iff.mpr ⟨rest, readWord_append "alse".toList rest, rfl⟩
  | number n =>
    exact ⟨none, settles_none fun s rest h => readBool_of_ne h
      (first_number_ne n (by decide) (by decide)) (first_number_ne n (by decide) (by decide))⟩
  | null | text l | list items | object members =>
    exact ⟨none, settles_none fun s rest h =>
      readBool_of_ne h (by simp [Tree.first]) (by simp [Tree.first])⟩

theorem takes_readBool : TakesTrees readBool := by
  intro s b rest h
  unfold readBool at h
  split at h
  · next hdrop =>
    obtain ⟨r, hword, hr⟩ := bind_ok_iff.mp h
    cases hr
    rw [eq_of_readWord hword] at hdrop
    exact ⟨.bool true, exists_spaced_of_dropBlanks rfl hdrop⟩
  · next hdrop =>
    obtain ⟨r, hword, hr⟩ := bind_ok_iff.mp h
    cases hr
    rw [eq_of_readWord hword] at hdrop
    exact ⟨.bool false, exists_spaced_of_dropBlanks rfl hdrop⟩
  · cases h

theorem readsTrees_readBool : ReadsTrees readBool :=
  .of settles_readBool takes_readBool

theorem readString_of_ne {s rest : List Char} {c : Char} (h : dropBlanks s = c :: rest)
    (hquote : c ≠ '"') : (readString s).toOption = none := by
  unfold readString
  rw [h]
  split
  · next heq => exact absurd (List.cons.inj heq).1 hquote
  · rfl

theorem settles_readString_text (l : Literal) : Settles readString (.text l) l.value? := by
  intro s rest hs _
  obtain ⟨u, hu, -, hdrop⟩ := Literal.exists_of_spaced hs
  cases hu
  rw [readString, hdrop]
  exact readText_body l rest

theorem settles_readString (t : Tree) : ∃ s?, Settles readString t s? := by
  cases t with
  | text l => exact ⟨_, settles_readString_text l⟩
  | number n =>
    exact ⟨none, settles_none fun s rest h =>
      readString_of_ne h (first_number_ne n (by decide) (by decide))⟩
  | bool b =>
    exact ⟨none, settles_none fun s rest h =>
      readString_of_ne h (by cases b <;> simp [Tree.first])⟩
  | null | list items | object members =>
    exact ⟨none, settles_none fun s rest h => readString_of_ne h (by simp [Tree.first])⟩

theorem takes_readString : TakesTrees readString := by
  intro s text rest h
  unfold readString at h
  split at h
  · next hdrop =>
    obtain ⟨l, hl⟩ := exists_of_readText h
    rw [hl] at hdrop
    exact ⟨.text l, exists_spaced_of_dropBlanks rfl hdrop⟩
  · cases h

theorem readsTrees_readString : ReadsTrees readString :=
  .of settles_readString takes_readString

theorem readPort_of_ne {s rest : List Char} {c : Char} (h : dropBlanks s = c :: rest)
    (hminus : c ≠ '-') (hc : c.isDigit = false) : (readPort s).toOption = none := by
  unfold readPort
  rw [h]
  split
  · next heq => exact absurd (List.cons.inj heq).1 hminus
  · next heq =>
    cases heq
    rw [if_neg (by simp [hc])]
    rfl
  · next heq => cases heq

/-- The port that a number is. -/
def portOf (r : Number × List Char) : Except Error (UInt16 × List Char) := do
  return (← r.1.toPort, r.2)

theorem toOption_portOf (n : Number) (rest : List Char) :
    (portOf (n, rest)).toOption = n.toPort.toOption.map (·, rest) := by
  unfold portOf
  cases n.toPort <;> rfl

theorem readPort_minus {s more : List Char} (h : dropBlanks s = '-' :: more) :
    readPort s = readNumber true more >>= portOf := by
  rw [readPort, h]
  rfl

theorem readPort_digit {s more : List Char} {c : Char} (hc : c.isDigit = true)
    (h : dropBlanks s = c :: more) : readPort s = readNumber false (c :: more) >>= portOf := by
  unfold readPort
  rw [h]
  split
  · next heq => exact absurd (List.cons.inj heq).1 (ne_of_isDigit hc (by decide))
  · next heq =>
    cases heq
    rw [if_pos hc]
    rfl
  · next heq => cases heq

theorem settles_readPort_number (n : Numeral) : ∃ port?, Settles readPort (.number n) port? := by
  obtain ⟨r, hr⟩ := takesUp_readNumber n n.isNegative
  refine ⟨r.toOption.bind fun n => n.toPort.toOption, fun s rest hs hrest => ?_⟩
  have hread : readPort (s ++ rest) = r.map (·, rest) >>= portOf := by
    obtain ⟨blanks, u, rfl, hblanks, hu⟩ := spaced_cons_iff.mp hs
    cases hu
    rw [← hr rest hrest.endsNumber]
    obtain ⟨c, more, htext, ⟨rfl, hsign, rfl⟩ | ⟨hc, hsign, hunsigned⟩⟩ := n.exists_text
    · rw [hsign, htext]
      refine readPort_minus ?_
      simpa using dropBlanks_append hblanks (by decide) (n.unsigned ++ rest)
    · rw [hsign, ← hunsigned, htext]
      refine readPort_digit hc ?_
      simpa using dropBlanks_append hblanks (isBlank_of_isDigit hc) (more ++ rest)
  rw [hread, toOption_bind]
  cases r with
  | error e => rfl
  | ok n => exact toOption_portOf n rest

theorem settles_readPort (t : Tree) : ∃ port?, Settles readPort t port? := by
  cases t with
  | number n => exact settles_readPort_number n
  | bool b =>
    exact ⟨none, settles_none fun s rest h => readPort_of_ne h
      (by cases b <;> simp [Tree.first]) (by cases b <;> decide)⟩
  | null | text l | list items | object members =>
    exact ⟨none, settles_none fun s rest h =>
      readPort_of_ne h (by simp [Tree.first]) (by simp [Tree.first])⟩

theorem takes_readPort : TakesTrees readPort := by
  intro s port rest h
  have hnumber {negative : Bool} {more : List Char}
      (hread : readNumber negative more >>= portOf = .ok (port, rest)) (isNegative : Bool) :
      ∃ n : Numeral, n.isNegative = isNegative ∧ more = n.unsigned ++ rest := by
    obtain ⟨⟨x, left⟩, hx, hport⟩ := bind_ok_iff.mp hread
    obtain ⟨port', -, heq⟩ := bind_ok_iff.mp hport
    cases heq
    exact exists_of_readNumber isNegative hx
  cases hdrop : dropBlanks s with
  | nil =>
    rw [readPort, hdrop] at h
    cases h
  | cons c more =>
    by_cases hminus : c = '-'
    · subst hminus
      rw [readPort_minus hdrop] at h
      obtain ⟨n, hn, rfl⟩ := hnumber h true
      refine ⟨.number n, exists_spaced_of_dropBlanks rfl ?_⟩
      rw [hdrop, Numeral.text, if_pos hn, List.cons_append]
    · by_cases hc : c.isDigit = true
      · rw [readPort_digit hc hdrop] at h
        obtain ⟨n, hn, hmore⟩ := hnumber h false
        refine ⟨.number n, exists_spaced_of_dropBlanks rfl ?_⟩
        rw [hdrop, Numeral.text, if_neg (by simp [hn]), hmore]
      · have hnone := readPort_of_ne hdrop hminus (Bool.eq_false_of_not_eq_true hc)
        rw [h] at hnone
        cases hnone

theorem readsTrees_readPort : ReadsTrees readPort :=
  .of settles_readPort takes_readPort

/-! ## Options -/

theorem readOption_of_ne {s more : List Char} {c : Char} (h : dropBlanks s = c :: more)
    (hn : c ≠ 'n') : (readOption read s).toOption =
      (read (c :: more)).toOption.map fun r => (some r.1, r.2) := by
  unfold readOption
  rw [h]
  split
  · next heq => exact absurd (List.cons.inj heq).1 hn
  · cases read (c :: more) <;> rfl

theorem settles_readOption (h : ReadsTrees read) (t : Tree) :
    ∃ a?, Settles (readOption read) t a? := by
  have hother (ht : t.first ≠ 'n') : ∃ a?, Settles (readOption read) t a? := by
    refine ⟨(t.read? read).map some, fun s rest hs hrest => ?_⟩
    obtain ⟨v, hv, -, hdrop⟩ := Tree.exists_of_spaced hs
    have hsettles := h.settles t _ _ hv hrest
    rw [List.cons_append] at hsettles
    rw [readOption_of_ne (hdrop rest) ht, hsettles, Option.map_map, Option.map_map]
    rfl
  cases t with
  | null =>
    refine ⟨some none, fun s rest hs _ => toOption_eq_some_iff.mpr ?_⟩
    obtain ⟨u, hu, -, hdrop⟩ := exists_of_spaced (by decide) hs
    cases hu
    rw [readOption, hdrop]
    exact bind_ok_iff.mpr ⟨rest, readWord_append "ull".toList rest, rfl⟩
  | number n => exact hother (first_number_ne n (by decide) (by decide))
  | bool b => exact hother (by cases b <;> decide)
  | text l | list items | object members => exact hother (by simp [Tree.first])

theorem takes_readOption (h : TakesTrees read) : TakesTrees (readOption read) := by
  intro s a rest hread
  unfold readOption at hread
  split at hread
  · next hdrop =>
    obtain ⟨r, hword, hr⟩ := bind_ok_iff.mp hread
    cases hr
    rw [eq_of_readWord hword] at hdrop
    exact ⟨.null, exists_spaced_of_dropBlanks rfl hdrop⟩
  · obtain ⟨⟨a', rest'⟩, hr, heq⟩ := bind_ok_iff.mp hread
    cases heq
    obtain ⟨t, w, hw, ht⟩ := h _ _ _ hr
    obtain ⟨blanks, rfl, hblanks⟩ := blanks_of_dropBlanks hw
    exact ⟨t, blanks ++ w, by simp, ht.blanks_append hblanks t.tokens_ne_nil⟩

theorem ReadsTrees.option (h : ReadsTrees read) : ReadsTrees (readOption read) :=
  .of (settles_readOption h) (takes_readOption h.takes)

/-! ## Values made of what is read -/

theorem Settles.bind (h : Settles read t a?) (f : α → Except Error β) :
    Settles (fun s => read s >>= fun r => (f r.1).map (·, r.2)) t
      (a?.bind fun a => (f a).toOption) := by
  intro s rest hs hrest
  rw [toOption_bind, h s rest hs hrest]
  cases a? with
  | none => rfl
  | some a =>
    show ((f a).map (·, rest)).toOption = (f a).toOption.map (·, rest)
    cases f a <;> rfl

theorem ReadsTrees.bind (h : ReadsTrees read) (f : α → Except Error β) :
    ReadsTrees fun s => read s >>= fun r => (f r.1).map (·, r.2) := by
  refine .of (fun t => ⟨_, (h.settles t).bind f⟩) fun s b rest hread => ?_
  obtain ⟨⟨a, left⟩, ha, hb⟩ := bind_ok_iff.mp hread
  obtain ⟨b', -, heq⟩ := map_ok_iff.mp hb
  cases heq
  exact h.takes s a left ha

/-- The value is changed after it is read. -/
theorem ReadsTrees.map (h : ReadsTrees read) (g : α → β) :
    ReadsTrees fun s => do let (a, rest) ← read s; return (g a, rest) :=
  h.bind fun a => .ok (g a)

theorem read?_map (g : α → β) (t : Tree) :
    t.read? (fun s => do let (a, rest) ← read s; return (g a, rest)) = (t.read? read).map g := by
  simp only [Tree.read?]
  cases read t.compact <;> rfl

/-! ## Lists -/

section
variable {items : List (List (List Char))} {item : List (List Char)} {isFirst : Bool}
  {s : List Char}

/-- At the closing bracket. -/
theorem nextItem_end (h : Spaced (joined isFirst ']' []) s) : 0 < s.length ∧ ∀ rest,
    nextItem isFirst (s ++ rest) = .ok none ∧ readListEnd (s ++ rest) = .ok rest := by
  obtain ⟨u, hu, hlength, hdrop⟩ := exists_of_spaced (by decide) h
  cases hu
  refine ⟨hlength, fun rest => ?_⟩
  rw [nextItem, readListEnd, hdrop]
  exact ⟨rfl, rfl⟩

/-- In front of an item. -/
theorem nextItem_item (hopens : Opens item) (h : Spaced (joined isFirst ']' (item :: items)) s) :
    ∃ v w, Spaced item v ∧ Spaced (joined false ']' items) w ∧ w.length < s.length ∧
      ∀ rest, nextItem isFirst (s ++ rest) = .ok (some (v ++ (w ++ rest))) := by
  cases isFirst with
  | true =>
    obtain ⟨v₀, w, rfl, hv₀, hw⟩ := spaced_append_iff.mp h
    obtain ⟨c, v, hv, hlength, hdrop, -, hbracket, -⟩ := hopens.exists_of_spaced hv₀
    rw [List.length_cons] at hlength
    refine ⟨c :: v, w, hv, hw, by rw [List.length_append]; omega, fun rest => ?_⟩
    unfold nextItem
    rw [List.append_assoc, hdrop]
    split
    · next heq => cases heq
    · next heq => exact absurd (List.cons.inj heq).1 hbracket
    · next heq =>
      cases heq
      rfl
  | false =>
    obtain ⟨u, hu, hcomma, hdrop⟩ := exists_of_spaced (c := ',') (by decide) h
    obtain ⟨v₀, w, rfl, hv₀, hw⟩ := spaced_append_iff.mp hu
    obtain ⟨c, v, hv, hlength, hdrop', -, hbracket, -⟩ := hopens.exists_of_spaced hv₀
    rw [List.length_cons] at hlength
    rw [List.length_append] at hcomma
    refine ⟨c :: v, w, hv, hw, by omega, fun rest => ?_⟩
    rw [nextItem, hdrop, List.append_assoc, List.nil_append]
    simp [hdrop', hbracket]

/-- What goes on to an item stands in front of it. -/
theorem exists_of_nextItem {next u v : List Char} (h : nextItem isFirst s = .ok (some next))
    (hnext : next = v ++ u) (hv : Spaced item v) (hne : item ≠ []) :
    ∃ w, s = w ++ u ∧ Spaced (if isFirst then item else [','] :: item) w := by
  unfold nextItem at h
  split at h
  · cases h
  · cases h
  · next c rest _ hdrop =>
    obtain ⟨blanks, rfl, hblanks⟩ := blanks_of_dropBlanks hdrop
    split at h
    · next hfirst =>
      cases h
      rw [if_pos hfirst, hnext]
      exact ⟨blanks ++ v, by simp, hv.blanks_append hblanks hne⟩
    · next hfirst =>
      rw [if_neg hfirst]
      split at h
      · cases h
      · next hcomma =>
        have hcomma : c = ',' := by simpa using hcomma
        subst hcomma
        split at h
        · cases h
        · cases h
        · cases h
          obtain ⟨blanks', rfl, hblanks'⟩ := blanks_of_dropBlanks hnext
          exact ⟨blanks ++ ([','] ++ (blanks' ++ v)), by simp,
            .cons hblanks (hv.blanks_append hblanks' hne)⟩

theorem exists_of_readListEnd {rest : List Char} (h : readListEnd s = .ok rest) :
    ∃ w, s = w ++ rest ∧ Spaced [[']']] w := by
  unfold readListEnd at h
  split at h
  · cases h
  · next hdrop =>
    cases h
    obtain ⟨blanks, rfl, hblanks⟩ := blanks_of_dropBlanks hdrop
    exact ⟨blanks ++ ([']'] ++ []), by simp, .cons hblanks .nil⟩
  · split at h <;> cases h
  · cases h

end

/-- What is read of each item. -/
def readEach? (read : Reader α) (items : List Tree) : Option (List α) :=
  items.mapM fun t => t.read? read

theorem readEach?_cons (t : Tree) (items : List Tree) : readEach? read (t :: items) =
    (t.read? read).bind fun a => (readEach? read items).map (a :: ·) := by
  rw [readEach?, List.mapM_cons]
  cases t.read? read with
  | none => rfl
  | some a => cases h : items.mapM fun t => t.read? read <;> simp [readEach?, h]

/-- What is read of one item says all that it adds. -/
theorem readEach?_replace {t' : Tree} (h : t.read? read = t'.read? read) (first last : List Tree) :
    readEach? read (first ++ t :: last) = readEach? read (first ++ t' :: last) := by
  induction first with
  | nil => rw [List.nil_append, List.nil_append, readEach?_cons, readEach?_cons, h]
  | cons u first ih => rw [List.cons_append, List.cons_append, readEach?_cons, readEach?_cons, ih]

theorem readEach?_eq_none {items : List Tree} (ht : t ∈ items) (h : t.read? read = none) :
    readEach? read items = none := by
  induction items with
  | nil => cases ht
  | cons u items ih =>
    rw [readEach?_cons]
    rcases List.mem_cons.mp ht with rfl | ht
    · rw [h, Option.bind_none]
    · simp [ih ht]

theorem readItems_joined (h : ReadsTrees read) (items : List Tree) :
    ∀ clock done s rest, Spaced (joined done.isEmpty ']' (itemTokens items)) s →
      s.length ≤ clock.length → (readItems read clock done (s ++ rest)).toOption =
        (readEach? read items).map fun as => (done.reverse ++ as, rest) := by
  induction items with
  | nil =>
    intro clock done s rest hs hclock
    obtain ⟨hpos, hat⟩ := nextItem_end hs
    obtain ⟨hnext, hend⟩ := hat rest
    obtain ⟨k, clock, rfl⟩ := List.exists_cons_of_length_pos (by omega : 0 < clock.length)
    rw [readItems, hnext]
    simp only [hend]
    rw [show readEach? read [] = some [] from rfl, Option.map_some, List.append_nil]
    rfl
  | cons t items ih =>
    intro clock done s rest hs hclock
    obtain ⟨v, w, hv, hw, hlength, hnext⟩ := nextItem_item t.opens hs
    obtain ⟨k, clock, rfl⟩ := List.exists_cons_of_length_pos (by omega : 0 < clock.length)
    rw [List.length_cons] at hclock
    have hsettles := h.settles t v (w ++ rest) hv (endsToken_of_joined (.inl rfl) hw rest)
    rw [readItems, hnext, readEach?_cons]
    cases ha : t.read? read with
    | none =>
      rw [ha] at hsettles
      cases hread : read (v ++ (w ++ rest)) with
      | error e => simp only [hread]; rfl
      | ok r =>
        rw [hread] at hsettles
        cases hsettles
    | some a =>
      rw [ha] at hsettles
      have hread := toOption_eq_some_iff.mp hsettles
      simp only [hread]
      rw [ih clock (a :: done) w rest hw (by omega), Option.bind_some, Option.map_map]
      simp [Function.comp_def]

theorem settles_readList_list (h : ReadsTrees read) (items : List Tree) :
    Settles (readList read) (.list items) (readEach? read items) := by
  intro s rest hs _
  obtain ⟨u, hu, -, hdrop⟩ := exists_of_spaced (by decide) hs
  rw [readList, hdrop]
  exact readItems_joined h items (u ++ rest) [] u rest hu (by simp)

theorem readList_of_ne {s rest : List Char} {c : Char} (h : dropBlanks s = c :: rest)
    (hlist : c ≠ '[') : (readList read s).toOption = none := by
  unfold readList
  rw [h]
  split
  · next heq => exact absurd (List.cons.inj heq).1 hlist
  · rfl

theorem settles_readList (h : ReadsTrees read) (t : Tree) :
    ∃ as?, Settles (readList read) t as? := by
  cases t with
  | list items => exact ⟨_, settles_readList_list h items⟩
  | number n =>
    exact ⟨none, settles_none fun s rest h =>
      readList_of_ne h (first_number_ne n (by decide) (by decide))⟩
  | bool b =>
    exact ⟨none, settles_none fun s rest h => readList_of_ne h (by cases b <;> simp [Tree.first])⟩
  | null | text l | object members =>
    exact ⟨none, settles_none fun s rest h => readList_of_ne h (by simp [Tree.first])⟩

theorem exists_of_readItems (h : TakesTrees read) {clock : List Char} :
    ∀ {done : List α} {s : List Char} {as : List α} {rest : List Char},
      readItems read clock done s = .ok (as, rest) → ∃ (items : List Tree) (w : List Char),
        s = w ++ rest ∧ Spaced (joined done.isEmpty ']' (itemTokens items)) w := by
  induction clock with
  | nil =>
    intro done s as rest hread
    cases hread
  | cons k clock ih =>
    intro done s as rest hread
    unfold readItems at hread
    split at hread
    · cases hread
    · obtain ⟨rest', hend, heq⟩ := bind_ok_iff.mp hread
      cases heq
      obtain ⟨w, rfl, hw⟩ := exists_of_readListEnd hend
      exact ⟨[], w, rfl, hw⟩
    · next next hnext =>
      split at hread
      · cases hread
      · next a left ha =>
        obtain ⟨t, v, hv, ht⟩ := h _ _ _ ha
        obtain ⟨items, w, rfl, hw⟩ := ih hread
        obtain ⟨u, rfl, hu⟩ := exists_of_nextItem hnext hv ht t.tokens_ne_nil
        exact ⟨t :: items, u ++ w, by simp, hu.append hw⟩

theorem takes_readList (h : TakesTrees read) : TakesTrees (readList read) := by
  intro s as rest hread
  unfold readList at hread
  split at hread
  · next hdrop =>
    obtain ⟨items, w, rfl, hw⟩ := exists_of_readItems h hread
    obtain ⟨blanks, rfl, hblanks⟩ := blanks_of_dropBlanks hdrop
    exact ⟨.list items, blanks ++ (['['] ++ w), by simp, .cons hblanks hw⟩
  · cases hread

theorem ReadsTrees.list (h : ReadsTrees read) : ReadsTrees (readList read) :=
  .of (settles_readList h) (takes_readList h.takes)

/-- **A list is read item by item.** -/
theorem ReadsTrees.read?_list (h : ReadsTrees read) (items : List Tree) :
    (Tree.list items).read? (readList read) = readEach? read items :=
  (settles_readList_list h items).read?_eq

/-! ## Whole texts -/

/-- **What is read of a text is what is read of its value.** -/
theorem ReadsTrees.toOption_readAll (h : ReadsTrees read) {text : String} (ht : t.IsWritten text) :
    (readAll read text).toOption = t.read? read := by
  obtain ⟨s, blanks, htext, hs, hblanks⟩ := ht
  have hends : EndsToken blanks := fun c hc => .inl (hblanks c (List.mem_of_mem_head? hc))
  have hdrop : dropBlanks blanks = [] := List.dropWhile_eq_nil_iff.mpr hblanks
  rw [readAll, htext, toOption_bind, h.settles t s blanks hs hends]
  cases t.read? read with
  | none => rfl
  | some a =>
    simp only [Option.map_some, Option.bind_some, hdrop]
    rfl

theorem ReadsTrees.exists_isWritten (h : ReadsTrees read) {text : String} {a : α}
    (hread : readAll read text = .ok a) : ∃ t : Tree, t.IsWritten text := by
  obtain ⟨⟨a', rest⟩, ha, hrest⟩ := bind_ok_iff.mp hread
  obtain ⟨t, w, htext, hw⟩ := h.takes _ _ _ ha
  refine ⟨t, w, rest, htext, hw, ?_⟩
  simp only at hrest
  split at hrest
  · next hempty => exact List.dropWhile_eq_nil_iff.mp (List.isEmpty_iff.mp hempty)
  · cases hrest

end

end ProxyRouting.Json
