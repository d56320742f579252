import ProxyRouting.CommandLine.Arguments
import ProxyRouting.Proofs.Regex.Step
import ProxyRouting.Proofs.Text.Cut

/-!
# What arguments are read as

Arguments that ask for routes give at least one URL, and a settings file that they give has a name.
So every one of their URLs can be asked for alone, with the same settings file:

    read arguments = .ok (.route a) → read (alone a.config url) = .ok (.route ⟨a.config, [url]⟩)
-/

namespace ProxyRouting.CommandLine

/-- The arguments that ask for one URL. -/
def alone (config : Option String) (url : String) : List String :=
  match config with
  | some path => ["--config=" ++ path, "--", url]
  | none => ["--", url]

namespace State

variable {s s' : State}

/-- No settings file without a name is taken up. -/
theorem settle_config (hs : s.config ≠ some "") (h : s.settle = .ok s') :
    s'.config ≠ some "" := by
  unfold settle at h
  split at h
  · cases h
    exact hs
  · cases h
  · next value _ =>
    split at h
    · cases h
    · split at h
      · cases h
      · next hne =>
        cases h
        simpa using hne

theorem option_config {value : Option (List Char)} (hs : s.config ≠ some "")
    (h : s.option value = .ok s') : s'.config ≠ some "" := by
  obtain ⟨t, ht, h⟩ := bind_ok_iff.mp h
  have hconfig := settle_config hs ht
  cases value with
  | none =>
    cases h
    exact hconfig
  | some v =>
    refine settle_config ?_ h
    exact hconfig

theorem plain_config {argument : List Char} (hs : s.config ≠ some "")
    (h : s.plain argument = .ok s') : s'.config ≠ some "" := by
  unfold plain at h
  split at h
  · cases h
    exact hs
  · obtain ⟨t, ht, h⟩ := bind_ok_iff.mp h
    have hconfig := settle_config hs ht
    cases h
    exact hconfig

theorem finish_route {urls : List String} {a : Arguments} (hs : s.config ≠ some "")
    (h : s.finish urls = .ok (.route a)) : a.config ≠ some "" ∧ a.urls ≠ [] := by
  obtain ⟨t, ht, h⟩ := bind_ok_iff.mp h
  have hconfig := settle_config hs ht
  split at h
  · cases h
  · next hne =>
    cases h
    exact ⟨hconfig, hne⟩

end State

theorem instead_ne_route {s : State} {i : Invocation} {a : Arguments} (hi : i ≠ .route a) :
    instead s i ≠ .ok (.route a) := by
  intro h
  obtain ⟨t, -, h⟩ := bind_ok_iff.mp h
  cases h
  exact hi rfl

theorem readFrom_route (arguments : List String) : ∀ {s : State} {a : Arguments},
    s.config ≠ some "" → readFrom s arguments = .ok (.route a) →
      a.config ≠ some "" ∧ a.urls ≠ [] := by
  -- on the arguments, for any state that has not taken an empty name for the settings file
  induction arguments with
  | nil => exact fun hs h => State.finish_route hs h
  | cons argument rest ih =>
    intro s a hs h
    rw [readFrom] at h
    split at h
    · exact State.finish_route hs h
    · obtain ⟨t, ht, h⟩ := bind_ok_iff.mp h
      exact ih (State.plain_config hs ht) h
    · split at h
      · obtain ⟨t, ht, h⟩ := bind_ok_iff.mp h
        exact ih (State.option_config hs ht) h
      · split at h
        · exact absurd h (instead_ne_route (by simp))
        · split at h
          · exact absurd h (instead_ne_route (by simp))
          · cases h
    · next name value _ =>
      by_cases hconfig : "--" ++ String.ofList name = "--config"
      · simp only [hconfig, if_true] at h
        obtain ⟨t, ht, h⟩ := bind_ok_iff.mp h
        exact ih (State.option_config hs ht) h
      · simp only [hconfig, if_false] at h
        split at h
        · next i hi _ =>
          refine absurd h (instead_ne_route ?_)
          rintro rfl
          split at hi
          · cases hi
          · split at hi <;> cases hi
        · cases h
        · cases h

theorem read_route {arguments : List String} {a : Arguments}
    (h : read arguments = .ok (.route a)) : a.config ≠ some "" ∧ a.urls ≠ [] :=
  readFrom_route arguments (by simp [State.start]) h

theorem shape_long {name value : List Char} (h : '=' ∉ name) (hne : name ≠ []) :
    shape ('-' :: '-' :: (name ++ '=' :: value)) = .long name (some value) := by
  obtain ⟨c, t, rfl⟩ := List.exists_cons_of_ne_nil hne
  have hcut := Text.cut?_append h value
  rw [List.cons_append] at hcut
  simp only [List.cons_append, shape, hcut]

/-- One URL alone is read as that URL. -/
theorem read_alone {config : Option String} (hconfig : config ≠ some "") (url : String) :
    read (alone config url) = .ok (.route ⟨config, [url]⟩) := by
  cases config with
  | none => rfl
  | some path =>
    have hpath : path ≠ "" := fun h => hconfig (congrArg some h)
    have hshape : shape ("--config=" ++ path).toList = .long "config".toList (some path.toList) := by
      have hlist : ("--config=" ++ path).toList =
          '-' :: '-' :: ("config".toList ++ '=' :: path.toList) := by
        simp
      rw [hlist, shape_long (by decide) (by decide)]
    have hoption : State.start.option (some path.toList) =
        .ok ⟨some path, .none, []⟩ := by
      show State.settle ⟨none, .given (String.ofList path.toList), []⟩ = _
      simp [State.settle, hpath]
    show readFrom .start ["--config=" ++ path, "--", url] = _
    rw [readFrom, hshape]
    show (State.start.option (some path.toList) >>= fun s => readFrom s ["--", url]) = _
    rw [hoption]
    rfl

end ProxyRouting.CommandLine
