import Scl.Proofs.CommandLine.Ending
import Scl.Proofs.Excerpt.Line

/-! # When a run breaks off

The padding that moves a caret to its column has an end, so a run that has to print a diagnostic
with its caret behind this end breaks off. Nothing else makes a run break off
(`Ends.code_eq_broken_iff`), and no program that is short enough does: a caret is never further to
the right than all the words of the program together are wide.
-/

namespace Scl.CommandLine

/-- No diagnostic that the run prints has its caret too far to the right. -/
structure Writable (files : Files) (arguments : Arguments) : Prop where
  error : ∀ {tokens oracle error}, Loaded files arguments tokens oracle →
    parse tokens oracle = .error error → (Excerpt.around tokens error.position).Fits
  warnings : ∀ {tokens oracle tree}, Loaded files arguments tokens oracle →
    parse tokens oracle = .ok tree → ∀ warning ∈ parseWarnings tokens oracle,
      (Excerpt.around tokens warning.position).Fits

section Writable

variable {files : Files} {arguments : Arguments} {surroundings : Surroundings} {ending : Ending}

/-- What is loaded is determined by the files. -/
theorem Loaded.unique {tokens others : List Token} {oracle other : Option Oracle}
    (loaded : Loaded files arguments tokens oracle)
    (otherLoaded : Loaded files arguments others other) : others = tokens ∧ other = oracle := by
  have same := loaded.tokens.symm.trans otherLoaded.tokens
  refine ⟨(Except.ok.inj same).symm, ?_⟩
  cases given : arguments.identifiers with
  | none => rw [loaded.unchecked given, otherLoaded.unchecked given]
  | some path =>
    obtain ⟨names, read, rfl⟩ := loaded.names path given
    obtain ⟨otherNames, otherRead, rfl⟩ := otherLoaded.names path given
    rw [Except.ok.inj (read.symm.trans otherRead)]

theorem writable_of_not_loaded
    (unloaded : ∀ {tokens oracle}, ¬ Loaded files arguments tokens oracle) :
    Writable files arguments where
  error loaded := (unloaded loaded).elim
  warnings loaded := (unloaded loaded).elim

theorem Loaded.writable_of_error {tokens : List Token} {oracle : Option Oracle}
    {error : ParseError} (loaded : Loaded files arguments tokens oracle)
    (failed : parse tokens oracle = .error error)
    (fits : (Excerpt.around tokens error.position).Fits) : Writable files arguments := by
  constructor
  · intro others other otherError otherLoaded otherFailed
    obtain ⟨rfl, rfl⟩ := loaded.unique otherLoaded
    rwa [Except.error.inj (otherFailed.symm.trans failed)]
  · intro others other tree otherLoaded read
    obtain ⟨rfl, rfl⟩ := loaded.unique otherLoaded
    rw [failed] at read
    cases read

theorem Loaded.writable_of_ok {tokens : List Token} {oracle : Option Oracle} {tree : Tree}
    (loaded : Loaded files arguments tokens oracle) (read : parse tokens oracle = .ok tree)
    (fits : ∀ warning ∈ parseWarnings tokens oracle,
      (Excerpt.around tokens warning.position).Fits) : Writable files arguments := by
  constructor
  · intro others other error otherLoaded failed
    obtain ⟨rfl, rfl⟩ := loaded.unique otherLoaded
    rw [read] at failed
    cases failed
  · intro others other otherTree otherLoaded _
    obtain ⟨rfl, rfl⟩ := loaded.unique otherLoaded
    exact fits

/-- A run breaks off exactly when one of its diagnostics cannot be written. -/
theorem Ends.code_eq_broken_iff (ends : Ends surroundings arguments ending) :
    ending.code = 101 ↔ ¬ Writable surroundings.files arguments := by
  constructor
  · intro broken writable
    cases ends with
    | wideError loaded failed wide => exact wide (writable.error loaded failed)
    | wideWarning loaded read cut _ wide =>
      apply wide
      apply writable.warnings loaded read
      rw [cut]
      exact List.mem_append_right _ (List.mem_cons_self ..)
    | _ => cases broken
  · intro unwritable
    cases ends with
    | wideError | wideWarning => rfl
    | tokensUnloaded unloaded =>
      refine (unwritable (writable_of_not_loaded fun loaded => ?_)).elim
      have read := loaded.tokens
      rw [unloaded] at read
      cases read
    | namesUnloaded _ given unloaded =>
      refine (unwritable (writable_of_not_loaded fun loaded => ?_)).elim
      obtain ⟨_, read, _⟩ := loaded.names _ given
      rw [unloaded] at read
      cases read
    | rejected loaded failed fits => exact (unwritable (loaded.writable_of_error failed fits)).elim
    | accepted loaded read fits => exact (unwritable (loaded.writable_of_ok read fits)).elim

end Writable

end Scl.CommandLine
