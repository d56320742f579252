import ProxyRouting.Proofs.ProxyVariable.Port
import ProxyRouting.Proofs.Redaction.Stars
import ProxyRouting.Proofs.Regex.Step
import ProxyRouting.Proofs.Url.Authority
import ProxyRouting.Proofs.Url.Percent

/-!
# Whose credentials a proxy variable has

Host and port are those of the URL; username and password are looked for in the value itself.  So
they are the credentials of the URL just where the authority as it is written holds the same as the
one that the reader of URLs finds.  That is not so for every value: of a special scheme, surplus
slashes and backslashes before the authority, and a backslash after it, are no part of the authority
that is read.

    v.HasLoginOf url ↔ SameLogin (the authority that is read) (the authority as it is written)
    v.HasLoginOf url ↔ FindsLogin layout                                 (parse_hasLoginOf_iff)
-/

namespace ProxyRouting.ProxyVariable

open Text (cut? cutLast? cutAt? trim)
open Destination (authorityMark upToDelimiter isDelimiter upToDelimiter_append
  upToDelimiter_append_of_delimiter cutAt?_mark_append)
open Url (Layout)
open Url.Percent (decode? decodedSize)

/-! ## Credentials -/

/-- The credentials of a URL that has some are those of the variable, decoded, if they can be
decoded; of a URL without, the variable has none. -/
structure HasLoginOf (v : ProxyVariable) (url : Url) : Prop where
  kept : url.username ≠ [] ∨ url.password ≠ [] → ∀ user password,
    decode? url.username = some user → decode? url.password = some password →
      v.username = some (String.ofList user) ∧ v.password = some (String.ofList password)
  none_added : url.username = [] → url.password = [] →
    (∀ user ∈ v.username, user = "") ∧ ∀ password ∈ v.password, password = ""

/-- Username and password of user information, as they are written. -/
def parts (info : List Char) : List Char × List Char :=
  (cut? ':' info).getD (info, [])

/-- Username and password of an authority, as they are written, if it has an at-sign. -/
def login? (authority : List Char) : Option (List Char × List Char) :=
  (splitUserInfo authority).1.map parts

/-- The same, with nothing for what is missing. -/
def login (authority : List Char) : List Char × List Char :=
  (login? authority).getD ([], [])

/-- What the second authority holds, decoded or as it is, is what the first one holds, decoded; and
it holds nothing where the first holds nothing. -/
structure SameLogin (read written : List Char) : Prop where
  kept : login read ≠ ([], []) → ∀ user password,
    decode? (login read).1 = some user → decode? (login read).2 = some password →
      ∃ r, login? written = some r ∧ decoded r.1 = String.ofList user ∧
        decoded r.2 = String.ofList password
  none_added : login read = ([], []) → login written = ([], [])

/-! ## Parts of an authority -/

theorem login?_append {host : List Char} (h : '@' ∉ host) (info : List Char) :
    login? (info ++ '@' :: host) = some (parts info) := by
  unfold login? splitUserInfo
  rw [Text.cutLast?_append h]
  rfl

theorem login?_eq_none {authority : List Char} (h : '@' ∉ authority) :
    login? authority = none := by
  unfold login? splitUserInfo
  rw [Text.cutLast?_eq_none_iff.mpr h]
  rfl

theorem splitUserInfo_withUserInfo {hostPort : List Char} (h : '@' ∉ hostPort)
    (info : Option (List Char)) :
    splitUserInfo (Url.withUserInfo info hostPort) = (info, hostPort) := by
  have hcut := Url.cutLast?_withUserInfo h info
  unfold splitUserInfo
  rw [hcut]
  cases info with
  | none => rfl
  | some info => rfl

theorem credentials_eq (info : List Char) :
    credentials info = (decoded (parts info).1, decoded (parts info).2) := by
  unfold credentials parts
  cases cut? ':' info with
  | some r => rfl
  | none => rfl

theorem readUserInfo_eq (info : List Char) :
    Url.readUserInfo info = (Url.Percent.encode Url.Percent.isUserInfoMark (parts info).1,
      Url.Percent.encode Url.Percent.isUserInfoMark (parts info).2) := by
  unfold Url.readUserInfo parts
  cases cut? ':' info with
  | some r => rfl
  | none => rfl

theorem decoded_eq_empty_iff {s : List Char} : decoded s = "" ↔ s = [] := by
  unfold decoded
  rw [String.ofList_eq_empty_iff]
  constructor
  · intro h
    by_contra hs
    have := Url.Percent.decodedSize_pos hs
    cases hd : decode? s with
    | none =>
      rw [hd] at h
      exact hs h
    | some t =>
      rw [hd] at h
      obtain rfl : t = [] := h
      rw [decodedSize, Url.Percent.decode?_eq_some_iff.mp hd] at this
      exact absurd this (by decide)
  · rintro rfl
    rfl

theorem decoded_of_decode? {s t : List Char} (h : decode? s = some t) :
    decoded s = String.ofList t := by
  rw [decoded, h, Option.getD_some]

/-! ## What is read of a value -/

theorem isUserInfoMark_of_hexValue? {c : Char} {n : Nat} (h : Text.hexValue? c = some n) :
    Url.Percent.isUserInfoMark c = false := by
  let P (c : Char) : Prop :=
    (Text.hexValue? c).isSome = true → Url.Percent.isUserInfoMark c = false
  have hall : P c :=
    Text.forall_ascii (P := P) (by decide +kernel) (Url.Percent.toNat_lt_of_hexValue? h)
  exact hall (by rw [h]; rfl)

theorem decode?_encode_userInfo (s : List Char) :
    decode? (Url.Percent.encode Url.Percent.isUserInfoMark s) = decode? s :=
  Url.Percent.decode?_encode_eq rfl (fun _ _ => isUserInfoMark_of_hexValue?) s

theorem dropSlashPairs_eq_self {s : List Char} (h : ∀ r, s ≠ '/' :: '/' :: r) :
    dropSlashPairs s = s := by
  unfold dropSlashPairs
  split
  · exact absurd rfl (h _)
  · rfl

/-- Only a URL with a host is accepted. -/
theorem exists_of_ofValue {protocol : String} {value : List Char} {noProxy : Option String}
    {v : ProxyVariable} (h : ofValue protocol value noProxy = .ok v) :
    ∃ url host, Url.parse (withScheme value) = .ok url ∧ url.hostText? = some host ∧ host ≠ [] := by
  unfold ofValue at h
  cases hurl : Url.parse (withScheme value) with
  | error fault =>
    simp only [hurl] at h
    cases h
  | ok url =>
    simp only [hurl] at h
    obtain ⟨_, ⟨⟩, h⟩ := bind_ok_iff.mp h
    split at h
    · next c host hhost => exact ⟨url, _, rfl, hhost, List.cons_ne_nil _ _⟩
    · cases h

/-- What a variable says is read of the URL, but for username and password, which are those of the
authority as it is written. -/
theorem ofValue_of_url {value host : List Char} {url : Url}
    (hurl : Url.parse (withScheme value) = .ok url) (hhost : url.hostText? = some host)
    (hne : host ≠ []) (protocol : String) (noProxy : Option String) :
    ofValue protocol value noProxy =
      match port? url (splitUserInfo (authority (withScheme value))).2 with
      | some port => .ok ⟨protocol, String.ofList url.scheme,
          String.ofList (Destination.withoutBrackets host), port, (noProxy.map splitList).getD [],
          (login? (authority (withScheme value))).map fun r => decoded r.1,
          (login? (authority (withScheme value))).map fun r => decoded r.2⟩
      | none => .error .portMissing := by
  have huser (info? : Option (List Char)) :
      (info?.map fun info => (credentials info).1) = (info?.map parts).map fun r => decoded r.1 := by
    cases info? <;> simp [credentials_eq]
  have hpassword (info? : Option (List Char)) :
      (info?.map fun info => (credentials info).2) = (info?.map parts).map fun r => decoded r.2 := by
    cases info? <;> simp [credentials_eq]
  obtain ⟨c, t, rfl⟩ := List.exists_cons_of_ne_nil hne
  unfold ofValue
  simp only [hurl, hhost, huser, hpassword, bind, Except.bind, pure, Except.pure]
  cases port? url (splitUserInfo (authority (withScheme value))).2 with
  | none => rfl
  | some port => rfl

/-- Scheme, host and port are those of the URL; username and password are those of the authority as
it is written. -/
theorem ofValue_url {protocol : String} {value : List Char} {noProxy : Option String}
    {v : ProxyVariable} (h : ofValue protocol value noProxy = .ok v) :
    ∃ url, Url.parse (withScheme value) = .ok url ∧ v.scheme = String.ofList url.scheme ∧
      (url.hostText?.map fun host => String.ofList (Destination.withoutBrackets host)) =
        some v.host ∧
      url.effectivePort? = some v.port ∧
      v.username = (login? (authority (withScheme value))).map (fun r => decoded r.1) ∧
      v.password = (login? (authority (withScheme value))).map fun r => decoded r.2 := by
  obtain ⟨url, host, hurl, hhost, hne⟩ := exists_of_ofValue h
  rw [ofValue_of_url hurl hhost hne] at h
  split at h
  · next port hport =>
    cases h
    exact ⟨url, hurl, rfl, by rw [hhost]; rfl, effectivePort?_of_port? hport, rfl, rfl⟩
  · cases h

theorem ofValue_nil (protocol : String) (noProxy : Option String) :
    ofValue protocol [] noProxy = .error (.url .emptyHost) := by
  have hurl : Url.parse (withScheme []) = .error .emptyHost := by decide
  unfold ofValue
  simp only [hurl]
  rfl

section
variable {protocol value : String} {noProxy : Option String}

theorem parse_of_ok {v : ProxyVariable} (h : ofValue protocol (trim value.toList) noProxy = .ok v) :
    parse protocol (some value) noProxy = (some v, []) := by
  unfold parse
  rw [Option.map_some]
  cases htrim : trim value.toList with
  | nil =>
    rw [htrim, ofValue_nil] at h
    cases h
  | cons c rest =>
    rw [htrim] at h
    simp only [h]

theorem parse_of_error {fault : Fault} (hne : trim value.toList ≠ [])
    (h : ofValue protocol (trim value.toList) noProxy = .error fault) :
    parse protocol (some value) noProxy =
      (none, [.variableRefused protocol (String.ofList (redacted (trim value.toList))) fault]) := by
  unfold parse
  rw [Option.map_some]
  obtain ⟨c, rest, htrim⟩ := List.exists_cons_of_ne_nil hne
  rw [htrim] at h ⊢
  simp only [h]

theorem parse_eq_some_iff {v : ProxyVariable} : (parse protocol (some value) noProxy).1 = some v ↔
    ofValue protocol (trim value.toList) noProxy = .ok v := by
  constructor
  · intro h
    cases hvalue : ofValue protocol (trim value.toList) noProxy with
    | ok v' =>
      rw [parse_of_ok hvalue] at h
      rw [Option.some.inj h]
    | error fault =>
      by_cases hne : trim value.toList = []
      · unfold parse at h
        simp only [Option.map_some, hne] at h
        cases h
      · rw [parse_of_error hne hvalue] at h
        cases h
  · intro h
    rw [parse_of_ok h]

end

/-- The credentials of the authority that is read are those of the URL. -/
theorem hasLoginOf_iff_sameLogin {v : ProxyVariable} {url : Url} {scheme read written : List Char}
    {isLast : Bool} (hread : Url.readAuthority scheme isLast read = .ok url)
    (huser : v.username = (login? written).map fun r => decoded r.1)
    (hpassword : v.password = (login? written).map fun r => decoded r.2) :
    v.HasLoginOf url ↔ SameLogin read written := by
  have hinfo := (Url.readAuthority_parts hread).2.1.symm
  have hlogin : parts (((cutLast? '@' read).map Prod.fst).getD []) = login read := by
    unfold login login? splitUserInfo
    cases cutLast? '@' read <;> rfl
  rw [readUserInfo_eq, hlogin, Prod.mk.injEq] at hinfo
  have hdecodeUser : decode? url.username = decode? (login read).1 := by
    rw [← hinfo.1, decode?_encode_userInfo]
  have hdecodePassword : decode? url.password = decode? (login read).2 := by
    rw [← hinfo.2, decode?_encode_userInfo]
  have hempty : url.username = [] ∧ url.password = [] ↔ login read = ([], []) := by
    rw [← hinfo.1, ← hinfo.2, Url.Percent.encode_eq_nil_iff, Url.Percent.encode_eq_nil_iff,
      Prod.ext_iff]
  have hnonempty : url.username ≠ [] ∨ url.password ≠ [] ↔ login read ≠ ([], []) := by
    rw [← not_and_or, hempty]
  have hnone : login written = ([], []) ↔
      (∀ user ∈ v.username, user = "") ∧ ∀ password ∈ v.password, password = "" := by
    rw [huser, hpassword, login]
    cases login? written <;> simp [decoded_eq_empty_iff, Prod.ext_iff]
  have hkept (user password : List Char) :
      (∃ r, login? written = some r ∧ decoded r.1 = String.ofList user ∧
        decoded r.2 = String.ofList password) ↔
      v.username = some (String.ofList user) ∧ v.password = some (String.ofList password) := by
    rw [huser, hpassword]
    cases login? written <;> simp
  constructor
  · intro h
    refine ⟨fun hne user password hu hp => ?_, fun he => ?_⟩
    · rw [hkept]
      exact h.kept (hnonempty.mpr hne) user password (hdecodeUser.trans hu)
        (hdecodePassword.trans hp)
    · rw [hnone]
      exact h.none_added (hempty.mpr he).1 (hempty.mpr he).2
  · intro h
    refine ⟨fun hne user password hu hp => ?_, fun hu hp => ?_⟩
    · rw [← hkept]
      exact h.kept (hnonempty.mp hne) user password (hdecodeUser.symm.trans hu)
        (hdecodePassword.symm.trans hp)
    · rw [← hnone]
      exact h.none_added (hempty.mp ⟨hu, hp⟩)

/-! ## Where the two authorities differ -/

/-- The credentials are found: nothing stands between the mark and the authority, and no at-sign
follows the authority before a delimiter; or there is nothing to be found, and no at-sign. -/
def FindsLogin (l : Layout) : Prop :=
  (l.slashes = [] ∧ '@' ∉ upToDelimiter l.tail) ∨
    (login l.authority = ([], []) ∧ '@' ∉ upToDelimiter (l.slashes ++ (l.authority ++ l.tail)))

section
variable (l : Layout)

theorem isDelimiter_of_authority : ∀ c ∈ l.authority, isDelimiter c = false := by
  intro c hc
  have := (l.authority_inner c hc).1
  simp only [Url.isAuthorityEnd, Bool.or_eq_false_iff] at this
  simp [isDelimiter, this.1]

/-- The authority as it is written starts after the mark. -/
theorem authority_text :
    authority l.text = upToDelimiter (l.slashes ++ (l.authority ++ l.tail)) := by
  have hcolon : ':' ∉ l.blanks ++ l.scheme := by
    rw [List.mem_append, not_or]
    refine ⟨fun h => ?_, fun h => ?_⟩
    · have := l.blanks_blank _ h
      revert this
      decide
    · have := l.scheme_chars _ h
      revert this
      decide
  have htext : l.text = l.blanks ++ l.scheme ++
      (authorityMark ++ (l.slashes ++ (l.authority ++ l.tail))) := by
    have hmark : authorityMark = [':', '/', '/'] := by decide
    rw [Layout.text, hmark]
    simp
  have hcut : cutAt? authorityMark l.text =
      some (l.blanks ++ l.scheme, l.slashes ++ (l.authority ++ l.tail)) := by
    rw [htext, cutAt?_mark_append hcolon, Text.cutAt?_of_append rfl]
    simp
  rw [authority, splitAuthority_of_mark hcut]

/-- A tail that does not end the authority as it is written starts with a backslash. -/
theorem upToDelimiter_tail : upToDelimiter l.tail = [] ∨ ∃ t, upToDelimiter l.tail = '\\' :: t := by
  cases ht : l.tail with
  | nil => exact .inl rfl
  | cons c t =>
    cases hc : isDelimiter c with
    | true => exact .inl (List.takeWhile_cons_of_neg (by simp [hc]))
    | false =>
      have hend := l.tail_end c (by rw [ht]; rfl)
      have hbackslash : c = '\\' := by
        simp only [isDelimiter, Bool.or_eq_false_iff] at hc
        simp only [Url.isAuthorityEnd, hc, Bool.false_or, Bool.and_eq_true, beq_iff_eq] at hend
        exact hend.2
      subst hbackslash
      exact .inr ⟨_, List.takeWhile_cons_of_pos (by decide)⟩

end

/-! ## A measure of credentials

What stands beside the authority that is read makes the credentials longer, never other ones of the
same length. -/

/-- How many bytes a username and a password are decoded to. -/
def loginSize (r : List Char × List Char) : Nat :=
  decodedSize r.1 + decodedSize r.2

theorem decodedSize_mark {c : Char} (hc : c ∈ [':', '@', '\\']) (s t : List Char) :
    decodedSize (s ++ c :: t) = decodedSize s + decodedSize t + 1 := by
  have hmark : Text.hexValue? c = none ∧ c ≠ '%' ∧ c.toNat < 0x80 := by
    simp only [List.mem_cons, List.not_mem_nil, or_false] at hc
    rcases hc with rfl | rfl | rfl
    all_goals decide
  rw [Url.Percent.decodedSize_append_cons hmark.1, Url.Percent.decodedSize_cons hmark.2.1 hmark.2.2]
  omega

theorem decodedSize_backslashes {a : List Char} (h : ∀ c ∈ a, c = '\\') (s : List Char) :
    decodedSize (a ++ s) = a.length + decodedSize s := by
  induction a with
  | nil => simp
  | cons c a ih =>
    obtain rfl := h c List.mem_cons_self
    have hrest := ih fun d hd => h d (List.mem_cons_of_mem _ hd)
    rw [List.cons_append, Url.Percent.decodedSize_cons (by decide) (by decide), hrest,
      List.length_cons]
    omega

/-- Only the colon between username and password is lost. -/
theorem loginSize_parts (info : List Char) :
    loginSize (parts info) + (if ':' ∈ info then 1 else 0) = decodedSize info := by
  unfold parts loginSize
  cases hcut : cut? ':' info with
  | none =>
    rw [if_neg (Text.cut?_eq_none_iff.mp hcut)]
    rfl
  | some r =>
    obtain ⟨rfl, -⟩ := Text.cut?_eq_some_iff.mp hcut
    rw [decodedSize_mark (by simp), if_pos (by simp)]
    rfl

theorem SameLogin.loginSize_le {read written user password : List Char}
    (h : SameLogin read written) (hu : decode? (login read).1 = some user)
    (hp : decode? (login read).2 = some password) :
    loginSize (login written) ≤ loginSize (login read) := by
  by_cases hempty : login read = ([], [])
  · rw [h.none_added hempty, hempty]
  · obtain ⟨r, hr, hru, hrp⟩ := h.kept hempty user password hu hp
    have hwritten : login written = r := by rw [login, hr, Option.getD_some]
    have hsize {a b t : List Char} (ha : decode? a = some t)
        (hb : decoded b = String.ofList t) : decodedSize b ≤ decodedSize a :=
      Url.Percent.decodedSize_le ha (String.ofList_injective hb)
    rw [hwritten]
    exact Nat.add_le_add (hsize hu hru) (hsize hp hrp)

theorem login_append {host : List Char} (h : '@' ∉ host) (info : List Char) :
    login (info ++ '@' :: host) = parts info := by
  rw [login, login?_append h, Option.getD_some]

theorem login_eq_nil {authority : List Char} (h : '@' ∉ authority) :
    login authority = ([], []) := by
  rw [login, login?_eq_none h, Option.getD_none]

/-- A text with an at-sign, cut at the last one. -/
theorem exists_last_at {s : List Char} (h : '@' ∈ s) :
    ∃ info host, s = info ++ '@' :: host ∧ '@' ∉ host := by
  cases hcut : cutLast? '@' s with
  | none => exact absurd h (Text.cutLast?_eq_none_iff.mp hcut)
  | some r => exact ⟨r.1, r.2, Text.cutLast?_eq_some_iff.mp hcut⟩

section
variable {before : List Char} (hbefore : ∀ c ∈ before, c = '\\')

include hbefore

theorem colon_mem_append_iff (s : List Char) : ':' ∈ before ++ s ↔ ':' ∈ s := by
  have hcolon : ':' ∉ before := fun h => absurd (hbefore _ h) (by decide)
  simp [hcolon]

/-- Backslashes are taken for a part of the username. -/
theorem loginSize_parts_backslashes (info : List Char) :
    loginSize (parts (before ++ info)) = before.length + loginSize (parts info) := by
  have hinfo := loginSize_parts info
  have hlong := loginSize_parts (before ++ info)
  rw [decodedSize_backslashes hbefore, if_congr (colon_mem_append_iff hbefore info) rfl rfl] at hlong
  omega

end

/-- An at-sign that follows later makes the first one a part of the credentials. -/
theorem loginSize_parts_lt (info rest : List Char) :
    loginSize (parts info) < loginSize (parts (info ++ '@' :: rest)) := by
  have hinfo := loginSize_parts info
  have hlong := loginSize_parts (info ++ '@' :: rest)
  rw [decodedSize_mark (by simp)] at hlong
  by_cases hrest : ':' ∈ rest
  · have := Url.Percent.decodedSize_pos (List.ne_nil_of_mem hrest)
    split at hlong <;> split at hinfo <;> omega
  · have hsame : ':' ∈ info ++ '@' :: rest ↔ ':' ∈ info := by simp [hrest]
    rw [if_congr hsame rfl rfl] at hlong
    omega

/-- What is taken for credentials after some text is not empty. -/
theorem loginSize_parts_pos {inner : List Char} (h : inner ≠ []) (rest : List Char) :
    0 < loginSize (parts (inner ++ '\\' :: rest)) := by
  have hlong := loginSize_parts (inner ++ '\\' :: rest)
  have := Url.Percent.decodedSize_pos h
  rw [decodedSize_mark (by simp)] at hlong
  split at hlong <;> omega

/-- Backslashes before an authority with an at-sign, or an at-sign in what follows a backslash after
it, make the credentials longer. -/
theorem loginSize_lt {before inner after : List Char} (hbefore : ∀ c ∈ before, c = '\\')
    (hinner : inner ≠ []) (hafter : after = [] ∨ ∃ t, after = '\\' :: t)
    (hat : '@' ∈ inner ++ after) (hsome : ¬ (before = [] ∧ '@' ∉ after)) :
    loginSize (login inner) < loginSize (login (before ++ (inner ++ after))) := by
  -- the last at-sign decides: one after the authority takes all that stands before it for
  -- credentials; otherwise it is that of the authority, and only the backslashes are added
  by_cases hat' : '@' ∈ after
  · obtain ⟨more, last, hmore, hlast⟩ := exists_last_at hat'
    have htext : before ++ (inner ++ after) = (before ++ (inner ++ more)) ++ '@' :: last := by
      simp [hmore]
    rw [htext, login_append hlast, loginSize_parts_backslashes hbefore]
    by_cases hin : '@' ∈ inner
    · obtain ⟨info, host, rfl, hhost⟩ := exists_last_at hin
      have hlt := loginSize_parts_lt info (host ++ more)
      rw [login_append hhost, List.append_assoc, List.cons_append]
      omega
    · obtain ⟨rest, rfl⟩ : ∃ rest, more = '\\' :: rest := by
        rcases hafter with rfl | ⟨t, rfl⟩
        · cases hat'
        · cases more with
          | nil => cases hmore
          | cons c rest =>
            cases hmore
            exact ⟨rest, rfl⟩
      have hnone : loginSize (login inner) = 0 := by
        rw [login_eq_nil hin]
        rfl
      have hpos := loginSize_parts_pos hinner rest
      omega
  · have hin : '@' ∈ inner := (List.mem_append.mp hat).resolve_right hat'
    obtain ⟨info, host, rfl, hhost⟩ := exists_last_at hin
    have hne : before ≠ [] := fun h => hsome ⟨h, hat'⟩
    have htext : before ++ (info ++ '@' :: host ++ after) =
        (before ++ info) ++ '@' :: (host ++ after) := by simp
    have hlong := loginSize_parts_backslashes hbefore info
    have hlast : '@' ∉ host ++ after := by simp [hhost, hat']
    have := List.length_pos_iff.mpr hne
    rw [htext, login_append hlast, login_append hhost]
    omega

/-! ## Where the credentials are found -/

theorem sameLogin_of_login?_eq {read written : List Char} (h : login? written = login? read) :
    SameLogin read written := by
  refine ⟨fun hne user password hu hp => ?_, fun he => ?_⟩
  · cases hr : login? read with
    | none =>
      rw [login, hr] at hne
      exact absurd rfl hne
    | some r =>
      have hlogin : login read = r := by rw [login, hr, Option.getD_some]
      rw [hlogin] at hu hp
      exact ⟨r, h.trans hr, decoded_of_decode? hu, decoded_of_decode? hp⟩
  · rw [login, h]
    exact he

theorem sameLogin_of_nothing {read written : List Char} (hread : login read = ([], []))
    (h : '@' ∉ written) : SameLogin read written :=
  ⟨fun hne => absurd hread hne, fun _ => login_eq_nil h⟩

section
variable (l : Layout)

theorem upToDelimiter_text (h : ∀ c ∈ l.slashes, isDelimiter c = false) :
    upToDelimiter (l.slashes ++ (l.authority ++ l.tail)) =
      l.slashes ++ (l.authority ++ upToDelimiter l.tail) := by
  rw [upToDelimiter_append h, upToDelimiter_append (isDelimiter_of_authority l)]

/-- A slash before the authority leaves nothing to be found. -/
theorem at_notMem_of_slash (h : ¬ ∀ c ∈ l.slashes, isDelimiter c = false) :
    '@' ∉ upToDelimiter (l.slashes ++ (l.authority ++ l.tail)) := by
  rw [(upToDelimiter_append_of_delimiter h _).1]
  intro hat
  have := l.slashes_slash _ ((List.takeWhile_sublist _).subset hat)
  revert this
  decide

theorem FindsLogin.sameLogin (h : FindsLogin l) :
    SameLogin l.authority (upToDelimiter (l.slashes ++ (l.authority ++ l.tail))) := by
  rcases h with ⟨hslashes, hat⟩ | ⟨hread, hat⟩
  · refine sameLogin_of_login?_eq ?_
    rw [upToDelimiter_text l (by simp [hslashes]), hslashes, List.nil_append]
    by_cases hin : '@' ∈ l.authority
    · obtain ⟨info, host, htext, hhost⟩ := exists_last_at hin
      rw [htext, List.append_assoc, List.cons_append, login?_append (by simp [hhost, hat]),
        login?_append hhost]
    · rw [login?_eq_none (by simp [hin, hat]), login?_eq_none hin]
  · exact sameLogin_of_nothing hread hat

theorem SameLogin.findsLogin {user password : List Char}
    (h : SameLogin l.authority (upToDelimiter (l.slashes ++ (l.authority ++ l.tail))))
    (hu : decode? (login l.authority).1 = some user)
    (hp : decode? (login l.authority).2 = some password) : FindsLogin l := by
  by_cases hat : '@' ∈ upToDelimiter (l.slashes ++ (l.authority ++ l.tail))
  · have hplain : ∀ c ∈ l.slashes, isDelimiter c = false := by
      by_contra hslash
      exact at_notMem_of_slash l hslash hat
    have hbackslash : ∀ c ∈ l.slashes, c = '\\' := by
      intro c hc
      have hslash := l.slashes_slash c hc
      have hnot := hplain c hc
      simp only [isDelimiter, Bool.or_eq_false_iff, beq_eq_false_iff_ne] at hnot
      simpa [Url.isSlash, hnot.1.1] using hslash
    left
    by_contra hsome
    have hle := h.loginSize_le hu hp
    rw [upToDelimiter_text l hplain] at hat hle
    have hat' : '@' ∈ l.authority ++ upToDelimiter l.tail := by
      refine (List.mem_append.mp hat).resolve_left fun hmem => ?_
      exact absurd (hbackslash _ hmem) (by decide)
    have := loginSize_lt hbackslash l.authority_ne (upToDelimiter_tail l) hat' hsome
    omega
  · refine .inr ⟨?_, hat⟩
    by_contra hne
    obtain ⟨r, hr, -⟩ := h.kept hne user password hu hp
    rw [login?_eq_none hat] at hr
    cases hr

/-- Of a scheme that is not special the authority is read as it is written. -/
theorem findsLogin_of_not_special (h : Url.isSpecial l.lowerScheme = false) : FindsLogin l := by
  refine .inl ⟨l.slashes_special h, ?_⟩
  cases ht : l.tail with
  | nil => exact List.not_mem_nil
  | cons c t =>
    have hend := l.tail_end c (by rw [ht]; rfl)
    rw [show Url.isSpecial (l.scheme.map Char.toLower) = false from h] at hend
    have hc : isDelimiter c = true := by
      simpa [Url.isAuthorityEnd, isDelimiter] using hend
    rw [upToDelimiter, List.takeWhile_cons_of_neg (by simp [hc])]
    exact List.not_mem_nil

end

/-! ## Top theorem -/

/-- **Whose credentials a variable has.**  A value that is accepted has scheme, host and port of the
URL that it is read as.  It has the credentials of that URL just where the authority as it is
written holds the same as the one that is read; and if the value is put together from its parts,
just where the credentials are found, as they always are if the scheme is not special. -/
theorem parse_hasLoginOf_iff {protocol value : String} {noProxy : Option String}
    {v : ProxyVariable} (h : (parse protocol (some value) noProxy).1 = some v) :
    let text := withScheme (trim value.toList)
    ∃ url read, Url.parse text = .ok url ∧ v.scheme = String.ofList url.scheme ∧
      (url.hostText?.map fun host => String.ofList (Destination.withoutBrackets host)) =
        some v.host ∧
      url.effectivePort? = some v.port ∧
      Url.authority? text = some read ∧
      (v.HasLoginOf url ↔ SameLogin read (authority text)) ∧
      ∀ l : Layout, text = l.text →
        (FindsLogin l → v.HasLoginOf url) ∧
        (∀ user password, decode? (login l.authority).1 = some user →
          decode? (login l.authority).2 = some password → v.HasLoginOf url → FindsLogin l) ∧
        (Url.isSpecial l.lowerScheme = false → FindsLogin l) := by
  intro text
  obtain ⟨url, hurl, hscheme, hhost, hport, huser, hpassword⟩ := ofValue_url (parse_eq_some_iff.mp h)
  have hsome : url.host ≠ none := by
    intro hnone
    rw [Url.hostText?, hnone] at hhost
    cases hhost
  have hfile : url.scheme ≠ "file".toList := by
    intro hfile
    rw [Url.effectivePort?_of_file hurl hfile] at hport
    cases hport
  obtain ⟨read, isLast, hread, hauthority⟩ := Url.parse_authority hurl hsome hfile
  have hiff := hasLoginOf_iff_sameLogin hauthority huser hpassword
  refine ⟨url, read, hurl, hscheme, hhost, hport, hread, hiff, fun l hl => ?_⟩
  have hlread : read = l.authority := by
    have := l.authority?_text
    rw [← hl, hread] at this
    exact Option.some.inj this
  have htext : withScheme (trim value.toList) = l.text := hl
  rw [htext, authority_text l, hlread] at hiff
  refine ⟨fun hfinds => hiff.mpr (hfinds.sameLogin l), fun user password hu hp hhas => ?_,
    findsLogin_of_not_special l⟩
  exact (hiff.mp hhas).findsLogin l hu hp

/-- A third slash: the proxy is accepted, and its credentials are lost. -/
theorem parse_hasLoginOf_iff_slashes :
    let value := "http:///user:pw@[::1]:8080"
    let v : ProxyVariable := ⟨"http", "http", "::1", 8080, [], none, none⟩
    (parse "http" (some value) none).1 = some v ∧
      ∃ url, Url.parse value.toList = .ok url ∧ url.username = "user".toList ∧
        url.password = "pw".toList ∧ ¬ v.HasLoginOf url := by
  intro value v
  have hv : (parse "http" (some value) none).1 = some v := by decide +kernel
  have htext : withScheme (trim value.toList) = value.toList := by decide +kernel
  let l : Layout :=
    { blanks := [], scheme := "http".toList, slashes := ['/']
      authority := "user:pw@[::1]:8080".toList, tail := []
      blanks_blank := by simp
      scheme_ne := by simp
      scheme_first := by simp
      scheme_chars := by simp [Url.isSchemeChar]
      scheme_file := by decide
      slashes_slash := by simp [Url.isSlash]
      slashes_special := by decide
      authority_ne := by simp
      authority_inner := by simp [Url.isAuthorityEnd, Url.isDropped]
      tail_end := by simp
      authority_last := by simp [Url.isBlank] }
  have hl : withScheme (trim value.toList) = l.text := by decide +kernel
  obtain ⟨url, -, hurl, -, -, -, -, -, hlayout⟩ := parse_hasLoginOf_iff hv
  obtain ⟨-, hfinds, -⟩ := hlayout l hl
  rw [htext] at hurl
  have hread : Url.parse value.toList = .ok ⟨"http".toList, "user".toList, "pw".toList,
      some (.ipv6 ⟨#v[0, 0, 0, 0, 0, 0, 0, 1]⟩), some 8080⟩ := by decide +kernel
  have hsame := Except.ok.inj (hurl.symm.trans hread)
  refine ⟨hv, url, hurl, by rw [hsame], by rw [hsame], fun hhas => ?_⟩
  have hdecode : decode? (login l.authority).1 = some "user".toList ∧
      decode? (login l.authority).2 = some "pw".toList :=
    ⟨Url.Percent.decode?_eq_self (by decide), Url.Percent.decode?_eq_self (by decide)⟩
  rcases hfinds _ _ hdecode.1 hdecode.2 hhas with ⟨hslashes, -⟩ | ⟨hnothing, -⟩
  · cases hslashes
  · revert hnothing
    decide

end ProxyRouting.ProxyVariable
