import ProxyRouting.Proofs.Redaction.Login

/-!
# Passwords in the log

A value that is refused is told of, with the stars in it.  Whether that hides the password does not
depend on why the value was refused.

    the password is told ↔ the value is refused ∧ ¬ value.Shielded        (parse_tells_password_iff)
-/

namespace ProxyRouting.ProxyVariable

open Text (trim OnceIn)

/-! ## What is told -/

/-- An event holds a word, in its message or in one of its fields. -/
def Tells (e : Event) (w : List Char) : Prop :=
  w <:+: e.message.toList ∨ ∃ f ∈ e.fields, w <:+: f.1.toList ∨ w <:+: f.2.toList

/-- The message about a refused value, as it is with nothing hidden. -/
def openMessage (protocol : String) (value : List Char) (fault : Fault) : List Char :=
  (Event.variableRefused protocol (String.ofList value) fault).message.toList

/-- What stands before the value. -/
def opening (protocol : String) : Fault → List Char
  | .url _ => "Could not decode proxy configuration for ".toList ++ protocol.toList ++ ": ".toList
  | .hostMissing | .portMissing =>
    "Invalid proxy configuration URL for ".toList ++ protocol.toList ++ ": ".toList

/-- What stands after the value. -/
def ending : Fault → List Char
  | .url fault => " - ".toList ++ fault.message.toList
  | .hostMissing => " - host not specified".toList
  | .portMissing => " - port not specified".toList

theorem openMessage_eq (protocol : String) (value : List Char) (fault : Fault) :
    openMessage protocol value fault = opening protocol fault ++ value ++ ending fault := by
  have hlist : ∀ before after : String,
      (before ++ protocol ++ ": " ++ String.ofList value ++ after).toList =
        before.toList ++ protocol.toList ++ ": ".toList ++ value ++ after.toList := by
    intro before after
    simp only [String.toList_append, String.toList_ofList]
  cases fault with
  | url fault =>
    show ("Could not decode proxy configuration for " ++ protocol ++ ": " ++ String.ofList value ++
      " - " ++ fault.message).toList = _
    rw [String.append_assoc, hlist, String.toList_append]
    rfl
  | hostMissing => exact hlist "Invalid proxy configuration URL for " " - host not specified"
  | portMissing => exact hlist "Invalid proxy configuration URL for " " - port not specified"

theorem tells_variableRefused_iff {protocol : String} {shown w : List Char} {fault : Fault} :
    Tells (.variableRefused protocol (String.ofList shown) fault) w ↔
      w <:+: openMessage protocol shown fault := by
  unfold Tells openMessage
  refine ⟨fun h => ?_, .inl⟩
  rcases h with h | ⟨f, hf, -⟩
  · exact h
  · cases hf

/-- Only a refused value is told of, with stars. -/
theorem parse_eq {value : List Char} (h : trim value ≠ []) (protocol : String)
    (noProxy : Option String) :
    parse protocol (some (String.ofList value)) noProxy =
      match ofValue protocol (trim value) noProxy with
      | .ok v => (some v, [])
      | .error fault =>
        (none, [.variableRefused protocol (String.ofList (redacted (trim value))) fault]) := by
  unfold parse
  rw [Option.map_some, String.toList_ofList]
  cases ht : trim value with
  | nil => exact absurd ht h
  | cons c rest => rfl

/-! ## Top theorem -/

/-- **What hides a password.** A password that stands nowhere else, neither in the value nor in the
protocol or the fixed texts around them, is told just when the value is refused and the password is
not shielded. -/
theorem parse_tells_password_iff (v : Login) (protocol : String) (noProxy : Option String)
    (hstars : AvoidsStars v.password)
    (honce : ∀ fault, OnceIn v.password (openMessage protocol (trim v.text) fault)) :
    (∃ e ∈ (parse protocol (some (String.ofList v.text)) noProxy).2, Tells e v.password) ↔
      (parse protocol (some (String.ofList v.text)) noProxy).1 = none ∧ ¬ v.Shielded := by
  have htrim : trim v.text = v.trimmed.head ++ v.password ++ '@' :: v.trimmed.rest :=
    v.trimmed_text.symm
  have hne : trim v.text ≠ [] := by
    rw [htrim]
    simp
  rw [parse_eq hne]
  cases hv : ofValue protocol (trim v.text) noProxy with
  | ok p => simp
  | error fault =>
    have ho := honce fault
    rw [openMessage_eq, htrim] at ho
    simp only [List.mem_singleton, exists_eq_left, true_and]
    rw [tells_variableRefused_iff, openMessage_eq, htrim, infix_redacted_iff hstars ho,
      ← v.shielded_trimmed, ← v.trimmed.covers_iff_shielded]
    rfl

/-- A third slash leaves the authority empty: no host is found, and the password is told. -/
theorem parse_tells_password_iff_slashes :
    ∃ e ∈ (parse "http" (some "socks5:///user:secret@proxy:1080") none).2,
      Tells e "secret".toList := by
  let v : Login :=
    { lead := .schemed "socks5".toList (List.all_eq_true.mp rfl) 1, user := "user".toList,
      password := "secret".toList, rest := "proxy:1080".toList,
      user_plain := by simp, password_ne := by simp }
  have htext : String.ofList v.text = "socks5:///user:secret@proxy:1080" := by decide +kernel
  have honce : ∀ fault, OnceIn v.password (openMessage "http" (trim v.text) fault) := by
    intro fault
    rw [Text.onceIn_iff v.password_ne, openMessage_eq]
    rcases fault with (_ | _ | _ | _ | _ | _ | _) | _ | _
    all_goals decide +kernel
  have hshielded : ¬ v.Shielded := by
    rintro (⟨h, -⟩ | ⟨h, -⟩ | ⟨⟨n, h⟩, -⟩ | ⟨⟨n, h⟩, -⟩)
    · exact Nat.one_ne_zero h
    · exact Nat.one_ne_zero h
    · cases h
    · cases h
  have hstars : AvoidsStars v.password := avoidsStars_of_not_mem (by decide +kernel)
  rw [← htext]
  refine (parse_tells_password_iff v "http" none hstars honce).mpr ⟨?_, hshielded⟩
  rw [htext]
  decide +kernel

end ProxyRouting.ProxyVariable
