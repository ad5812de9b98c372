import LiveShell.Proofs.PlainDescriptions
import LiveShell.Proofs.ShortenedText

/-!
Descriptions of values. A value is told of by its form, shortened to a width. What is told is the form itself just when
the form is tidy, with single blanks between words, and keeps the width; a tidy form that is wider is cut and marked.
Other forms lose blanks, whatever their width.
-/

namespace LiveShell.Environment

open Completion (Description Evaluation)

set_option autoImplicit false

variable {environment : Environment} {world between after : World} {value : Value} {form text : String} {silent : Bool}

/-- A form is told of as it is when it keeps the width, and else by a front part of it with dots. -/
structure IsFaithful (form told : String) : Prop where
  whole : form.toList.length ≤ widest → told = form
  cut : widest < form.toList.length → told.toList.length ≤ widest ∧
    ∃ front, told = String.ofList front ++ "..." ∧ front <+: form.toList

/-! ### What is told of a form -/

theorem briefly_length (form : String) : (briefly form).toList.length ≤ widest := by
  rw [briefly, String.toList_ofList]
  exact Text.shorten_length (by decide)

theorem briefly_eq_self_iff (form : String) :
    briefly form = form ↔ Text.IsTidy form.toList ∧ form.toList.length ≤ widest := by
  rw [← Text.shorten_eq_self_iff (by decide : "...".toList.length ≤ widest), ← String.toList_inj, briefly,
    String.toList_ofList]

theorem briefly_faithful (tidy : Text.IsTidy form.toList) : IsFaithful form (briefly form) where
  whole fits := (briefly_eq_self_iff form).mpr ⟨tidy, fits⟩
  cut wide := by
    obtain ⟨front, same, within⟩ := Text.shorten_tidy_wide "...".toList tidy wide
    refine ⟨briefly_length form, front, ?_, within⟩
    rw [briefly, same, String.ofList_append, String.ofList_toList]

/-! ### Values and their descriptions -/

/-- A value whose form can be shown comes back with a handle and with what is told of its form. -/
theorem evaluate_of_form (comes : (valueOf environment.space text silent).runIn world = (.ok value, between))
    (shows : (Run.shown engine value).runIn between = (.ok form, after)) :
    ∃ evaluation, (environment.evaluate text silent).runIn world =
        (.ok (evaluation, (environment.retain value).2), after) ∧
      evaluation.failure = none ∧ evaluation.result.shown = some (briefly form) ∧
      evaluation.result.handle = some (environment.retain value).1 := by
  obtain ⟨description, described, told⟩ := describe_of_form shows
  rw [evaluate, Run.run_in_bind, or_failure_ok.mpr comes]
  simp only [Run.run_in_bind, described]
  exact ⟨_, rfl, rfl, told, rfl⟩

theorem preview_of_form (comes : (valueOf environment.space text true).runIn world = (.ok value, between))
    (shows : (Run.shown engine value).runIn between = (.ok form, after)) :
    (environment.preview text).runIn world =
      (.ok (some (briefly form), (environment.retain value).2.release (environment.retain value).1), after) := by
  obtain ⟨evaluation, evaluated, succeeded, told, handle⟩ := evaluate_of_form comes shows
  rw [preview, Run.run_in_bind, evaluated]
  simp only [succeeded, handle, told]
  rfl

/-- What an evaluation and a preview tell of a value whose form can be shown. It keeps the width; it is the form just
when that is tidy and keeps the width; and of every tidy form it is faithful. -/
theorem forms_told_faithfully (environment : Environment) (text form : String) (silent : Bool) (value : Value)
    (world between after : World)
    (comes : (valueOf environment.space text silent).runIn world = (.ok value, between))
    (shows : (Run.shown engine value).runIn between = (.ok form, after)) :
    ∃ told evaluation, (environment.evaluate text silent).runIn world =
        (.ok (evaluation, (environment.retain value).2), after) ∧
      evaluation.failure = none ∧ evaluation.result.shown = some told ∧
      (silent = true → (environment.preview text).runIn world =
        (.ok (some told, (environment.retain value).2.release (environment.retain value).1), after)) ∧
      told.toList.length ≤ widest ∧ (told = form ↔ Text.IsTidy form.toList ∧ form.toList.length ≤ widest) ∧
      (Text.IsTidy form.toList → IsFaithful form told) := by
  obtain ⟨evaluation, evaluated, succeeded, told, _⟩ := evaluate_of_form comes shows
  refine ⟨briefly form, evaluation, evaluated, succeeded, told, ?_, briefly_length form, briefly_eq_self_iff form,
    briefly_faithful⟩
  rintro rfl
  exact preview_of_form comes shows

/-- What a preview in a namespace that is the first cell gives. -/
def previewOf (text : String) (world : World) : Option String :=
  ((preview { space := 0 } text).runIn world).1.toOption.bind (·.1)

theorem two_words_told_faithfully :
    let world : World := { cells := #[.dict #[] none] }
    ∃ value between after told, (valueOf 0 "'a b'" true).runIn world = (.ok value, between) ∧
      (Run.shown engine value).runIn between = (.ok "'a b'", after) ∧
      Text.IsTidy "'a b'".toList ∧ IsFaithful "'a b'" told ∧ previewOf "'a b'" world = some told := by
  intro world
  have tidy : Text.IsTidy "'a b'".toList := Text.tidy_iff.mpr (by decide +kernel)
  have form : ((valueOf 0 "'a b'" true >>= Run.shown engine).runIn world).1.toOption = some "'a b'" := by
    decide +kernel
  rcases shown : (valueOf 0 "'a b'" true >>= Run.shown engine).runIn world with ⟨result, after⟩
  rw [shown] at form
  obtain rfl : result = .ok "'a b'" := Run.ok_of_some form
  obtain ⟨value, between, comes, shows⟩ := Run.run_of_bind shown
  obtain ⟨told, _, _, _, _, previewed, _, _, faithful⟩ :=
    forms_told_faithfully { space := 0 } "'a b'" "'a b'" true value world between after comes shows
  refine ⟨value, between, after, told, comes, shows, tidy, faithful tidy, ?_⟩
  rw [previewOf, previewed rfl]
  rfl

/-- A form with two blanks in a row is told of with one. -/
theorem double_blank_told_as_one :
    let world : World := { cells := #[.dict #[] none] }
    ((valueOf 0 "'a  b'" true >>= Run.shown engine).runIn world).1.toOption = some "'a  b'" ∧
      previewOf "'a  b'" world = some "'a b'" := by
  decide +kernel

end LiveShell.Environment
