import ProxyRouting.Credential
import ProxyRouting.Proofs.Text.Base64
import ProxyRouting.Proofs.Text.Cut
import ProxyRouting.Proofs.Url.Percent

/-!
# Credentials in the header of basic authentication

The header is the word of the scheme and, in base64, the bytes of username and password with a colon
between them.  A reader of the header cuts at the first colon, so the credentials come back where the
username has none; a colon in the password does no harm.

    ofBasicAuth? c.basicAuth = some c                       (no colon in the username)
-/

namespace ProxyRouting.Credential

/-- The word before the digits. -/
def basicMark : List Char := "Basic ".toList

/-- The credentials that a header stands for. -/
def ofBasicAuth? (header : String) : Option Credential := do
  let digits ← basicMark.isPrefixOf? header.toList
  let bytes ← Text.Base64.decode digits
  let text ← String.fromUTF8? ⟨bytes.toArray⟩
  let (username, password) ← Text.cut? ':' text.toList
  return ⟨String.ofList username, String.ofList password⟩

/-- The text that is written in base64. -/
def joined (c : Credential) : String :=
  c.username ++ ":" ++ c.password

theorem toList_basicAuth (c : Credential) :
    c.basicAuth.toList = basicMark ++ Text.Base64.encode c.joined.toUTF8.data.toList := by
  simp [basicAuth, basicMark, joined]

theorem toList_joined (c : Credential) :
    c.joined.toList = c.username.toList ++ ':' :: c.password.toList := by
  simp [joined]

/-- Of any header the text is read that was written, whatever colons there are. -/
theorem ofBasicAuth?_basicAuth (c : Credential) :
    ofBasicAuth? c.basicAuth = (Text.cut? ':' c.joined.toList).map fun r =>
      ⟨String.ofList r.1, String.ofList r.2⟩ := by
  have hmark : basicMark.isPrefixOf? c.basicAuth.toList =
      some (Text.Base64.encode c.joined.toUTF8.data.toList) :=
    List.isPrefixOf?_eq_some_iff_append_eq.mpr c.toList_basicAuth.symm
  have htext : String.fromUTF8? ⟨c.joined.toUTF8.data.toList.toArray⟩ = some c.joined :=
    Url.Percent.fromUTF8?_eq_some_iff.mpr rfl
  unfold ofBasicAuth?
  rw [hmark]
  simp only [Option.bind_eq_bind, Option.bind_some, Text.Base64.decode_encode, htext]
  cases Text.cut? ':' c.joined.toList with
  | none => rfl
  | some r => rfl

theorem ofBasicAuth?_of_colon_notMem {c : Credential} (h : ':' ∉ c.username.toList) :
    ofBasicAuth? c.basicAuth = some c := by
  rw [ofBasicAuth?_basicAuth, toList_joined, Text.cut?_append h, Option.map_some,
    String.ofList_toList, String.ofList_toList]

/-! ## Top theorem -/

/-- **The header tells the credentials**: they are read back from it, and no others give the same
header. -/
theorem basicAuth_identifies {c : Credential} (h : ':' ∉ c.username.toList) :
    ofBasicAuth? c.basicAuth = some c ∧
      ∀ d : Credential, ':' ∉ d.username.toList → d.basicAuth = c.basicAuth → d = c := by
  have hread := ofBasicAuth?_of_colon_notMem h
  refine ⟨hread, fun d hd heq => ?_⟩
  have hsame : some d = some c := by
    rw [← ofBasicAuth?_of_colon_notMem hd, heq, hread]
  exact Option.some.inj hsame

/-- A colon and letters beyond ASCII in the password. -/
theorem basicAuth_identifies_colon :
    let c : Credential := ⟨"user", "p:ä€"⟩
    c.basicAuth = "Basic dXNlcjpwOsOk4oKs" ∧ ofBasicAuth? c.basicAuth = some c ∧
      ∀ d : Credential, ':' ∉ d.username.toList → d.basicAuth = c.basicAuth → d = c := by
  intro c
  exact ⟨by decide +kernel, basicAuth_identifies (by decide)⟩

/-- A colon in the username is taken for the one after it. -/
example : Credential.basicAuth ⟨"a:b", "c"⟩ = Credential.basicAuth ⟨"a", "b:c"⟩ := by
  decide +kernel

end ProxyRouting.Credential
