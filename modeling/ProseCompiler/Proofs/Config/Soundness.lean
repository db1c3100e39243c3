import Mathlib.Data.Option.Basic
import ProseCompiler.Config.Validation

/-!
# Sound configurations

What the rest of the program relies on, stated as ranges of the values.  The check compares the
timeout with zero, and an undefined number is not refused by that: `validate_eq_ok_iff` says what
is accepted, and `IsSound.of_validate` that it is sound if the timeout is a number at all.
-/

namespace ProseCompiler

namespace Binary64

variable {x : Binary64}

/-- A number above zero, be it finite or not. -/
def IsPositive (x : Binary64) : Prop :=
  x.view = .infinite false ∨ ∃ m e, x.view = .finite false m e ∧ 0 < m

/-- What is not refused is positive, or undefined. -/
theorem isNonPositive_eq_false_iff :
    x.isNonPositive = false ↔ x.isNan = true ∨ x.IsPositive := by
  rw [isNonPositive, isNan, IsPositive]
  cases hview : x.view with
  | nan => simp
  | infinite negative => simp
  | finite negative m e => simp [Nat.pos_iff_ne_zero, and_assoc]

theorem IsPositive.isNan_eq_false (h : x.IsPositive) : x.isNan = false := by
  rw [isNan]
  rcases h with hview | ⟨m, e, hview, -⟩ <;> rw [hview] <;> rfl

end Binary64

namespace Config

variable {config : Config}

/-- There are a key and a model, no timeout or one of a certain kind, a number of slots that is
not negative, and an extension with its dot. -/
structure InRange (wait : Binary64 → Prop) (config : Config) : Prop where
  key : ∃ key, config.apiKey = some key ∧ key ≠ []
  model : config.model ≠ []
  timeout : ∀ x, config.requestTimeout = some x → wait x
  maxConcurrent : 0 ≤ config.maxConcurrent
  extension : config.documentExtension.head? = some ('.' : CodePoint)

/-- What a configuration has to be like before anything is sent with it. -/
def IsSound (config : Config) : Prop := config.InRange Binary64.IsPositive

/-- The timeout is not an undefined number. -/
def HasDefinedTimeout (config : Config) : Prop :=
  ∀ x, config.requestTimeout = some x → x.isNan = false

theorem IsSound.hasDefinedTimeout (h : config.IsSound) : config.HasDefinedTimeout :=
  fun x hx => (h.timeout x hx).isNan_eq_false

theorem key_missing_iff {given : Option Text} :
    (match given with
      | none | some [] => true
      | some _ => false) = false ↔ ∃ key, given = some key ∧ key ≠ [] := by
  rcases given with _ | _ | ⟨c, key⟩ <;> simp

theorem timeout_refused_iff {given : Option Binary64} :
    (match given with
      | some x => x.isNonPositive
      | none => false) = false ↔ ∀ x, given = some x → x.isNan = true ∨ x.IsPositive := by
  cases given <;> simp [Binary64.isNonPositive_eq_false_iff]

/-- A check that finds nothing is passed, and so are those behind it. -/
theorem check_eq_none_iff {p : Prop} [Decidable p] {flaw : CompilerError}
    {rest : Option CompilerError} :
    (if p then some flaw else rest) = none ↔ ¬p ∧ rest = none := by
  split <;> simp [*]

/-- Accepted is what is in range, with any timeout that is positive or undefined. -/
theorem validate_eq_ok_iff :
    config.validate = .ok () ↔ config.InRange fun x => x.isNan = true ∨ x.IsPositive := by
  have hvalidate : config.validate = .ok () ↔ config.flaw? = none := by
    rw [validate]
    cases config.flaw? <;> simp
  rw [hvalidate, flaw?]
  simp only [check_eq_none_iff, Bool.not_eq_true, Int.not_lt, not_not, and_true]
  constructor
  · rintro ⟨hkey, hmodel, htimeout, hmax, hextension⟩
    exact ⟨key_missing_iff.mp hkey, hmodel, timeout_refused_iff.mp htimeout, hmax, hextension⟩
  · rintro ⟨hkey, hmodel, htimeout, hmax, hextension⟩
    exact ⟨key_missing_iff.mpr hkey, hmodel, timeout_refused_iff.mpr htimeout, hmax, hextension⟩

/-- What is accepted is sound if its timeout is defined, and what is sound is accepted. -/
theorem isSound_iff_of_defined (h : config.HasDefinedTimeout) :
    config.IsSound ↔ config.validate = .ok () := by
  rw [validate_eq_ok_iff]
  constructor
  · rintro ⟨hkey, hmodel, htimeout, hmax, hextension⟩
    exact ⟨hkey, hmodel, fun x hx => .inr (htimeout x hx), hmax, hextension⟩
  · rintro ⟨hkey, hmodel, htimeout, hmax, hextension⟩
    refine ⟨hkey, hmodel, fun x hx => ?_, hmax, hextension⟩
    rcases htimeout x hx with hnan | hpositive
    · rw [h x hx] at hnan
      cases hnan
    · exact hpositive

end Config

end ProseCompiler
