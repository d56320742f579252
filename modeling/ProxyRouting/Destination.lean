import ProxyRouting.Error

/-!
# Destinations

Where a request goes to, as far as routing looks at it: a scheme and a host, neither of them empty.
-/

namespace ProxyRouting

structure Destination where
  scheme : String
  host : String
  scheme_ne : scheme ≠ ""
  host_ne : host ≠ ""
  deriving DecidableEq

namespace Destination

def of (scheme host : String) : Except Error Destination :=
  if hs : scheme = "" then .error (.request scheme host)
  else if hh : host = "" then .error (.request scheme host)
  else .ok ⟨scheme, host, hs, hh⟩

theorem of_eq_ok_iff {scheme host : String} {d : Destination} :
    of scheme host = .ok d ↔ d.scheme = scheme ∧ d.host = host := by
  unfold of
  obtain ⟨s, h, hs, hh⟩ := d
  constructor
  · intro hof
    split at hof
    · cases hof
    · split at hof
      · cases hof
      · cases hof; exact ⟨rfl, rfl⟩
  · rintro ⟨rfl, rfl⟩
    rw [dif_neg hs, dif_neg hh]

/-- Only a missing scheme or host is refused. -/
theorem of_eq_error_iff {scheme host : String} {e : Error} :
    of scheme host = .error e ↔ (scheme = "" ∨ host = "") ∧ e = .request scheme host := by
  unfold of
  by_cases hs : scheme = ""
  · simp [hs, eq_comm]
  · by_cases hh : host = ""
    · simp [hs, hh, eq_comm]
    · simp [hs, hh]

def text (d : Destination) : String :=
  "\x7bprotocol='" ++ d.scheme ++ "', host='" ++ d.host ++ "'\x7d"

end Destination

end ProxyRouting
