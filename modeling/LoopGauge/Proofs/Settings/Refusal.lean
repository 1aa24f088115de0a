import LoopGauge.Proofs.EnvFile.Readable
import LoopGauge.Proofs.Settings.Priority
import LoopGauge.Settings.Advice

/-!
# Settings that are refused and settings that are not

Whatever keeps an invocation from its settings is a fault of the configuration. Settings that were
resolved come from an env file that has been loaded, and nothing is objected to them later.

## Main statements

* `kind_of_resolve_error`: settings are only refused as a fault of the configuration.
* `review_of_resolve`: resolved settings are acceptable.
-/

namespace LoopGauge

variable {c : CommandLine} {env : Environment} {found : FileState} {s : Settings}

namespace Settings

theorem kind_of_mergeEach {vs : List Variable} {s' : Settings} {f : Fault}
    (h : mergeEach env vs s = (s', some f)) : f.kind = .configuration := by
  induction vs generalizing s with
  | nil => cases h
  | cons v vs ih =>
    rw [mergeEach] at h
    split at h
    · exact ih h
    · split at h
      · exact ih h
      · cases h
        rfl

theorem review_eq_ok (h : s.problem? = none) : s.review = .ok s.advice := by
  rw [review, h]

end Settings

/-- A file that cannot be checked is a fault of the configuration. -/
theorem EnvFile.kind_of_check_error {path : Text.RawText} {f : Fault}
    (h : EnvFile.check path found = .error f) : f.kind = .configuration := by
  unfold EnvFile.check at h
  split at h <;> cases h <;> rfl

open Settings

theorem kind_of_resolveIn_error {f : Fault} (h : resolveIn c env = .error f) :
    f.kind = .configuration := by
  rw [resolveIn] at h
  split at h
  next s' f' hmerge =>
    obtain rfl := Except.error.inj h
    exact kind_of_mergeEach hmerge
  next =>
    dsimp only at h
    split at h
    · cases h
      rfl
    · cases h

/-- Settings are only refused as a fault of the configuration. -/
theorem kind_of_resolve_error {stop : Stop} (henv : env.NulFree) (hfound : found.Proper)
    (h : (resolve c env found).settings = .error stop) :
    ∃ f, stop = .fault f ∧ f.kind = .configuration := by
  have hstorable := EnvFile.load_ne_unstorable henv hfound
  rw [settings_resolve] at h
  split at h
  next hload => exact absurd hload hstorable
  next f _ hload =>
    cases h
    exact ⟨_, rfl, rfl⟩
  next hload =>
    cases hresolve : resolveIn c (EnvFile.load env found).1 with
    | ok s =>
      rw [hresolve] at h
      cases h
    | error f =>
      rw [hresolve] at h
      cases h
      exact ⟨f, rfl, kind_of_resolveIn_error hresolve⟩

/-- Settings come from an env file that has been loaded. -/
theorem resolveIn_of_resolve (h : (resolve c env found).settings = .ok s) :
    (EnvFile.load env found).2 = none ∧ resolveIn c (EnvFile.load env found).1 = .ok s := by
  rw [settings_resolve] at h
  split at h
  · cases h
  · cases h
  next hload => exact ⟨hload, mapError_eq_ok_iff.1 h⟩

/-- Resolved settings are acceptable. -/
theorem review_of_resolve (h : (resolve c env found).settings = .ok s) :
    s.review = .ok s.advice := by
  obtain ⟨-, hresolve⟩ := resolveIn_of_resolve h
  obtain ⟨-, hpos, hle, -⟩ := (resolveIn_eq_ok_iff c _ s).1 hresolve
  exact review_eq_ok ((problem?_eq_none_iff s).2 ⟨hpos, hle⟩)

end LoopGauge
