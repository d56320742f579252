import ProxyRouting.Proofs.Json.Reader

/-!
# What a reader sees of a record

An object is read member by member: a name that no field has changes nothing, and the value of a
known one is taken by its field, unless that is read already.  Nothing else of the object is seen.

    (Tree.object ms).read? (readRecord name fields start) =
      ms.foldl (takeMember fields) (some start)
    (Tree.list items).read? (readRecord name fields start) = takeInOrder start fields items
-/

namespace ProxyRouting.Json

section
variable {σ : Type}

/-- A field takes a value, if it has none yet. -/
def RecordField.take (f : RecordField σ) (state : σ) (t : Tree) : Option σ :=
  if f.isRead state then none else t.read? (f.read state)

/-- A value is taken by the field of its name, if there is one. -/
def takeNamed (fields : List (RecordField σ)) (name : String) (state : σ) (t : Tree) : Option σ :=
  match fields.find? (·.hasName name) with
  | none => some state
  | some f => f.take state t

/-- A member is taken, if its name can be read. -/
def takeMember (fields : List (RecordField σ)) (state? : Option σ) (m : Literal × Tree) :
    Option σ :=
  state?.bind fun state => m.1.value?.bind fun name => takeNamed fields name state m.2

/-- The items of a list are taken by the fields in their order. -/
def takeInOrder (state : σ) : List (RecordField σ) → List Tree → Option σ
  | _, [] => some state
  | [], _ :: _ => none
  | f :: fields, t :: items =>
    (t.read? (f.read state)).bind fun next => takeInOrder next fields items

variable {fields : List (RecordField σ)} {state : σ} {isFirst : Bool} {s rest : List Char}
  {items : List (List (List Char))} {tokens : List (List Char)} {l : Literal}

theorem foldl_takeMember_none (fields : List (RecordField σ)) (ms : List (Literal × Tree)) :
    ms.foldl (takeMember fields) none = none := by
  induction ms with
  | nil => rfl
  | cons m ms ih => exact ih

/-! ## Names -/

theorem nextName_end (h : Spaced (joined isFirst '\x7d' []) s) :
    0 < s.length ∧ ∀ rest, nextName isFirst (s ++ rest) = .ok (none, rest) := by
  obtain ⟨u, hu, hlength, hdrop⟩ := exists_of_spaced (by decide) h
  cases hu
  refine ⟨hlength, fun rest => ?_⟩
  rw [nextName, hdrop]
  rfl

theorem nextName_comma {u v : List Char} (hcomma : dropBlanks s = ',' :: u)
    (hquote : dropBlanks u = '"' :: v) : nextName false s = do
      let (name, rest) ← readText v
      return (some name, rest) := by
  simp [nextName, hcomma, hquote]

/-- In front of a name. -/
theorem nextName_member (h : Spaced (joined isFirst '\x7d' ((l.text :: tokens) :: items)) s) :
    ∃ u, Spaced (tokens ++ joined false '\x7d' items) u ∧ u.length < s.length ∧
      ∀ rest, (nextName isFirst (s ++ rest)).toOption =
        l.value?.map fun name => (some name, u ++ rest) := by
  have hname (u : List Char) :
      (readText (l.body ++ '"' :: u) >>= fun r =>
        (pure (some r.1, r.2) : Except Error _)).toOption =
      l.value?.map fun name => (some name, u) := by
    rw [toOption_bind, readText_body]
    cases l.value? <;> rfl
  cases isFirst with
  | true =>
    obtain ⟨u, hu, hlength, hdrop⟩ := Literal.exists_of_spaced h
    refine ⟨u, hu, hlength, fun rest => ?_⟩
    rw [← hname, nextName, hdrop]
    rfl
  | false =>
    obtain ⟨v, hv, hlength, hcomma⟩ := exists_of_spaced (c := ',') (by decide) h
    obtain ⟨u, hu, hlength', hdrop⟩ := Literal.exists_of_spaced hv
    refine ⟨u, hu, by omega, fun rest => ?_⟩
    rw [← hname, nextName_comma (hcomma rest) (hdrop rest)]

theorem readColon_value (h : Spaced ([':'] :: tokens) s) : ∃ v, Spaced tokens v ∧
    v.length < s.length ∧ ∀ rest, readColon (s ++ rest) = .ok (v ++ rest) := by
  obtain ⟨v, hv, hlength, hdrop⟩ := exists_of_spaced (by decide) h
  refine ⟨v, hv, hlength, fun rest => ?_⟩
  rw [readColon, hdrop]
  rfl

/-! ## Members -/

variable (hfields : ∀ f ∈ fields, ∀ state, ReadsTrees (f.read state))

include hfields in
theorem readMember_value {name : String} {t : Tree} {v : List Char}
    (hs : readColon s = .ok (v ++ rest)) (hv : Spaced t.tokens v) (hrest : EndsToken rest) :
    (readMember fields name state s).toOption =
      (takeNamed fields name state t).map (·, rest) := by
  unfold readMember takeNamed
  cases hfind : fields.find? (·.hasName name) with
  | none =>
    simp only [hs, skip_append hv hrest, bind, Except.bind]
    rfl
  | some f =>
    simp only [RecordField.take]
    by_cases hread : f.isRead state = true
    · rw [if_pos hread, if_pos hread]
      rfl
    · rw [if_neg hread, if_neg hread, hs]
      exact (hfields f (List.mem_of_find?_eq_some hfind) state).settles t v rest hv hrest

theorem toOption_readMembers (k : Char) (clock : List Char) (isFirst : Bool) (state : σ)
    (s : List Char) : (readMembers fields (k :: clock) isFirst state s).toOption =
      (nextName isFirst s).toOption.bind fun r =>
        match r.1 with
        | none => some (state, r.2)
        | some name => (readMember fields name state r.2).toOption.bind fun p =>
            (readMembers fields clock false p.1 p.2).toOption := by
  rw [readMembers]
  cases nextName isFirst s with
  | error e => rfl
  | ok r =>
    obtain ⟨name?, rest⟩ := r
    cases name? with
    | none => rfl
    | some name => cases h : readMember fields name state rest <;> simp [h, Except.toOption]

include hfields in
theorem readMembers_joined (ms : List (Literal × Tree)) :
    ∀ clock isFirst state s rest, Spaced (joined isFirst '\x7d' (memberTokens ms)) s →
      s.length ≤ clock.length → (readMembers fields clock isFirst state (s ++ rest)).toOption =
        (ms.foldl (takeMember fields) (some state)).map (·, rest) := by
  induction ms with
  | nil =>
    intro clock isFirst state s rest hs hclock
    obtain ⟨hpos, hnext⟩ := nextName_end hs
    obtain ⟨k, clock, rfl⟩ := List.exists_cons_of_length_pos (by omega : 0 < clock.length)
    rw [readMembers, hnext]
    rfl
  | cons m ms ih =>
    intro clock isFirst state s rest hs hclock
    obtain ⟨l, t⟩ := m
    obtain ⟨u, hu, hlength, hnext⟩ := nextName_member hs
    obtain ⟨vw, hvw, hlength', hcolon⟩ := readColon_value hu
    obtain ⟨v, w, rfl, hv, hw⟩ := spaced_append_iff.mp hvw
    obtain ⟨k, clock, rfl⟩ := List.exists_cons_of_length_pos (by omega : 0 < clock.length)
    rw [List.length_cons] at hclock
    rw [List.length_append] at hlength'
    simp only [List.append_assoc] at hcolon
    have hends := endsToken_of_joined (.inr rfl) hw rest
    rw [toOption_readMembers, hnext, List.foldl_cons, takeMember, Option.bind_some]
    cases l.value? with
    | none => simp [foldl_takeMember_none]
    | some name =>
      simp only [Option.map_some, Option.bind_some]
      rw [readMember_value hfields (hcolon rest) hv hends]
      cases takeNamed fields name state t with
      | none => simp [foldl_takeMember_none]
      | some next => exact ih clock false next w rest hw (by omega)

/-! ## Fields in their order -/

/-- A list may not end in front of an item. -/
theorem readListEnd_item {item : List (List Char)} (hopens : Opens item)
    (h : Spaced (joined isFirst ']' (item :: items)) s) (rest : List Char) :
    (readListEnd (s ++ rest)).toOption = none := by
  cases isFirst with
  | true =>
    obtain ⟨v₀, w, rfl, hv₀, hw⟩ := spaced_append_iff.mp h
    obtain ⟨c, v, -, -, hdrop, hcomma, hbracket, -⟩ := hopens.exists_of_spaced hv₀
    unfold readListEnd
    rw [List.append_assoc, hdrop]
    split
    · rfl
    · next heq => exact absurd (List.cons.inj heq).1 hbracket
    · next heq => exact absurd (List.cons.inj heq).1 hcomma
    · rfl
  | false =>
    obtain ⟨u, -, -, hdrop⟩ := exists_of_spaced (c := ',') (by decide) h
    unfold readListEnd
    rw [hdrop]
    simp only
    split <;> rfl

include hfields in
theorem readInOrder_joined : ∀ (isFirst : Bool) (state : σ) (items : List Tree)
    (s rest : List Char), Spaced (joined isFirst ']' (itemTokens items)) s →
      (readInOrder isFirst state fields (s ++ rest)).toOption =
        (takeInOrder state fields items).map (·, rest) := by
  induction fields with
  | nil =>
    intro isFirst state items s rest hs
    cases items with
    | nil =>
      rw [readInOrder, ((nextItem_end hs).2 rest).2]
      rfl
    | cons t items =>
      rw [readInOrder, toOption_bind, readListEnd_item t.opens hs]
      rfl
  | cons f fields ih =>
    intro isFirst state items s rest hs
    obtain ⟨hf, hfields'⟩ := List.forall_mem_cons.mp hfields
    cases items with
    | nil =>
      obtain ⟨hnext, hend⟩ := (nextItem_end hs).2 rest
      rw [readInOrder, hnext]
      simp only [hend]
      rfl
    | cons t items =>
      obtain ⟨v, w, hv, hw, -, hnext⟩ := nextItem_item t.opens hs
      have hends := endsToken_of_joined (.inl rfl) hw rest
      rw [readInOrder, hnext]
      simp only
      rw [toOption_bind, (hf state).settles t v _ hv hends, takeInOrder]
      cases t.read? (f.read state) with
      | none => rfl
      | some next => exact ih hfields' false next items w rest hw

/-! ## Records -/

variable (name : String) (start : σ)

include hfields in
theorem settles_readRecord_object (ms : List (Literal × Tree)) :
    Settles (readRecord name fields start) (.object ms)
      (ms.foldl (takeMember fields) (some start)) := by
  intro s rest hs _
  obtain ⟨u, hu, -, hdrop⟩ := exists_of_spaced (by decide) hs
  rw [readRecord, hdrop]
  exact readMembers_joined hfields ms (u ++ rest) true start u rest hu (by simp)

include hfields in
theorem settles_readRecord_list (items : List Tree) :
    Settles (readRecord name fields start) (.list items) (takeInOrder start fields items) := by
  intro s rest hs _
  obtain ⟨u, hu, -, hdrop⟩ := exists_of_spaced (by decide) hs
  rw [readRecord, hdrop]
  exact readInOrder_joined hfields true start items u rest hu

theorem readRecord_of_ne {s rest : List Char} {c : Char} (h : dropBlanks s = c :: rest)
    (hlist : c ≠ '[') (hobject : c ≠ '\x7b') :
    (readRecord name fields start s).toOption = none := by
  unfold readRecord
  rw [h]
  split
  · next heq => exact absurd (List.cons.inj heq).1 hlist
  · next heq => exact absurd (List.cons.inj heq).1 hobject
  · rfl

include hfields in
theorem settles_readRecord (t : Tree) :
    ∃ state?, Settles (readRecord name fields start) t state? := by
  cases t with
  | object ms => exact ⟨_, settles_readRecord_object hfields name start ms⟩
  | list items => exact ⟨_, settles_readRecord_list hfields name start items⟩
  | number n =>
    exact ⟨none, settles_none fun s rest h => readRecord_of_ne name start h
      (first_number_ne n (by decide) (by decide)) (first_number_ne n (by decide) (by decide))⟩
  | bool b =>
    exact ⟨none, settles_none fun s rest h => readRecord_of_ne name start h
      (by cases b <;> simp [Tree.first]) (by cases b <;> simp [Tree.first])⟩
  | null | text l =>
    exact ⟨none, settles_none fun s rest h =>
      readRecord_of_ne name start h (by simp [Tree.first]) (by simp [Tree.first])⟩

/-! ## Nothing else -/

/-- Reads a name in quotes. -/
def readName : List Char → Except Error (Option String × List Char)
  | '"' :: rest => do
    let (name, rest) ← readText rest
    return (some name, rest)
  | _ => .error .keyNotString

theorem nextName_eq (isFirst : Bool) (s : List Char) : nextName isFirst s =
    match dropBlanks s with
    | [] => .error .endInObject
    | '\x7d' :: rest => .ok (none, rest)
    | c :: rest =>
      if isFirst then readName (c :: rest)
      else if c != ',' then .error .expectedObjectEnd
      else
        match dropBlanks rest with
        | [] => .error .endInValue
        | '\x7d' :: _ => .error .trailingComma
        | rest => readName rest :=
  rfl

theorem exists_of_readName {name? : Option String} {u : List Char}
    (h : readName s = .ok (name?, u)) : name?.isSome = true ∧ ∃ l : Literal, s = l.text ++ u := by
  unfold readName at h
  split at h
  · obtain ⟨⟨text, rest⟩, htext, heq⟩ := bind_ok_iff.mp h
    cases heq
    exact ⟨rfl, exists_of_readText htext⟩
  · cases h

/-- What goes on to a name, or past the closing bracket, stands in front of it. -/
theorem exists_of_nextName {name? : Option String} {u : List Char}
    (h : nextName isFirst s = .ok (name?, u)) :
    name? = none ∧ (∃ w, s = w ++ u ∧ Spaced [['\x7d']] w) ∨
      name?.isSome = true ∧ ∃ (l : Literal) (w : List Char),
        s = w ++ u ∧ Spaced (if isFirst then [l.text] else [[','], l.text]) w := by
  rw [nextName_eq] at h
  split at h
  · cases h
  · next hdrop =>
    cases h
    obtain ⟨blanks, rfl, hblanks⟩ := blanks_of_dropBlanks hdrop
    exact .inl ⟨rfl, blanks ++ (['\x7d'] ++ []), by simp, .cons hblanks .nil⟩
  · next c rest _ hdrop =>
    obtain ⟨blanks, rfl, hblanks⟩ := blanks_of_dropBlanks hdrop
    split at h
    · next hfirst =>
      subst hfirst
      obtain ⟨hname, l, hl⟩ := exists_of_readName h
      rw [hl]
      exact .inr ⟨hname, l, blanks ++ (l.text ++ []), by simp, .cons hblanks .nil⟩
    · next hfirst =>
      obtain rfl := Bool.eq_false_of_not_eq_true hfirst
      split at h
      · cases h
      · next hcomma =>
        have hcomma : c = ',' := by simpa using hcomma
        subst hcomma
        split at h
        · cases h
        · cases h
        · obtain ⟨hname, l, hl⟩ := exists_of_readName h
          obtain ⟨blanks', rfl, hblanks'⟩ := blanks_of_dropBlanks hl
          exact .inr ⟨hname, l, blanks ++ ([','] ++ (blanks' ++ (l.text ++ []))), by simp,
            .cons hblanks (.cons hblanks' .nil)⟩

include hfields in
theorem exists_of_readMember {next : σ} {read : String}
    (h : readMember fields read state s = .ok (next, rest)) :
    ∃ (t : Tree) (w : List Char), s = w ++ rest ∧ Spaced ([':'] :: t.tokens) w := by
  have hvalue {u : List Char} (hcolon : readColon s = .ok u)
      (hu : ∃ (t : Tree) (w : List Char), u = w ++ rest ∧ Spaced t.tokens w) :
      ∃ (t : Tree) (w : List Char), s = w ++ rest ∧ Spaced ([':'] :: t.tokens) w := by
    obtain ⟨t, w, rfl, hw⟩ := hu
    obtain ⟨blanks, rfl, hblanks⟩ := exists_of_readColon hcolon
    exact ⟨t, blanks ++ ([':'] ++ w), by simp, .cons hblanks hw⟩
  unfold readMember at h
  split at h
  · obtain ⟨u, hcolon, hleft⟩ := bind_ok_iff.mp h
    obtain ⟨left, hskip, heq⟩ := bind_ok_iff.mp hleft
    cases heq
    exact hvalue hcolon (exists_of_skip hskip)
  · next f hfind =>
    split at h
    · cases h
    · obtain ⟨u, hcolon, hread⟩ := bind_ok_iff.mp h
      exact hvalue hcolon ((hfields f (List.mem_of_find?_eq_some hfind) state).takes _ _ _ hread)

include hfields in
theorem exists_of_readMembers {clock : List Char} : ∀ {isFirst : Bool} {state next : σ}
    {s rest : List Char}, readMembers fields clock isFirst state s = .ok (next, rest) →
      ∃ (ms : List (Literal × Tree)) (w : List Char),
        s = w ++ rest ∧ Spaced (joined isFirst '\x7d' (memberTokens ms)) w := by
  induction clock with
  | nil =>
    intro isFirst state next s rest h
    cases h
  | cons k clock ih =>
    intro isFirst state next s rest h
    unfold readMembers at h
    split at h
    · cases h
    · next hnext =>
      cases h
      obtain ⟨-, w, rfl, hw⟩ | ⟨hsome, -⟩ := exists_of_nextName hnext
      · exact ⟨[], w, rfl, hw⟩
      · cases hsome
    · next hnext =>
      obtain ⟨hnone, -⟩ | ⟨-, l, w, rfl, hw⟩ := exists_of_nextName hnext
      · cases hnone
      · split at h
        · cases h
        · next hmember =>
          obtain ⟨t, v, rfl, hv⟩ := exists_of_readMember hfields hmember
          obtain ⟨ms, u, rfl, hu⟩ := ih h
          refine ⟨(l, t) :: ms, w ++ (v ++ u), by simp, ?_⟩
          have happend := hw.append (hv.append hu)
          cases isFirst <;> exact happend

include hfields in
theorem exists_of_readInOrder : ∀ {isFirst : Bool} {state next : σ} {s rest : List Char},
    readInOrder isFirst state fields s = .ok (next, rest) →
      ∃ (items : List Tree) (w : List Char),
        s = w ++ rest ∧ Spaced (joined isFirst ']' (itemTokens items)) w := by
  have hend {isFirst : Bool} {state next : σ} {s rest : List Char}
      (h : (do return (state, ← readListEnd s) : Except Error (σ × List Char)) = .ok (next, rest)) :
      ∃ (items : List Tree) (w : List Char),
        s = w ++ rest ∧ Spaced (joined isFirst ']' (itemTokens items)) w := by
    obtain ⟨left, hleft, heq⟩ := bind_ok_iff.mp h
    cases heq
    obtain ⟨w, rfl, hw⟩ := exists_of_readListEnd hleft
    exact ⟨[], w, rfl, hw⟩
  induction fields with
  | nil =>
    intro isFirst state next s rest h
    exact hend h
  | cons f fields ih =>
    intro isFirst state next s rest h
    obtain ⟨hf, hfields'⟩ := List.forall_mem_cons.mp hfields
    unfold readInOrder at h
    split at h
    · cases h
    · exact hend h
    · next u hnext =>
      obtain ⟨⟨state', left⟩, hread, hrest⟩ := bind_ok_iff.mp h
      obtain ⟨t, v, hv, ht⟩ := (hf state).takes _ _ _ hread
      obtain ⟨items, w, rfl, hw⟩ := ih hfields' hrest
      obtain ⟨x, rfl, hx⟩ := exists_of_nextItem hnext hv ht t.tokens_ne_nil
      exact ⟨t :: items, x ++ w, by simp, hx.append hw⟩

include hfields in
theorem takes_readRecord : TakesTrees (readRecord name fields start) := by
  intro s next rest h
  unfold readRecord at h
  split at h
  · next hdrop =>
    obtain ⟨items, w, rfl, hw⟩ := exists_of_readInOrder hfields h
    obtain ⟨blanks, rfl, hblanks⟩ := blanks_of_dropBlanks hdrop
    exact ⟨.list items, blanks ++ (['['] ++ w), by simp, .cons hblanks hw⟩
  · next hdrop =>
    obtain ⟨ms, w, rfl, hw⟩ := exists_of_readMembers hfields h
    obtain ⟨blanks, rfl, hblanks⟩ := blanks_of_dropBlanks hdrop
    exact ⟨.object ms, blanks ++ (['\x7b'] ++ w), by simp, .cons hblanks hw⟩
  · cases h

include hfields in
theorem ReadsTrees.record : ReadsTrees (readRecord name fields start) :=
  .of (settles_readRecord hfields name start) (takes_readRecord hfields name start)

include hfields in
/-- **An object is read member by member.** -/
theorem read?_record (ms : List (Literal × Tree)) :
    (Tree.object ms).read? (readRecord name fields start) =
      ms.foldl (takeMember fields) (some start) :=
  (settles_readRecord_object hfields name start ms).read?_eq

include hfields in
theorem read?_record_list (items : List Tree) :
    (Tree.list items).read? (readRecord name fields start) = takeInOrder start fields items :=
  (settles_readRecord_list hfields name start items).read?_eq

end

end ProxyRouting.Json
