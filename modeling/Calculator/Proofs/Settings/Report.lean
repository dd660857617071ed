import Calculator.Proofs.Settings.Section

/-!
# Reports on settings

Settings that break rules are refused with the broken rules. What the check cannot
answer for, or what passes it without being a record, makes loading fail without a report,
and so does a value without a text.
-/

namespace Calculator
namespace Settings

variable {document : Document} {profile : Option Key}

/-- Merged settings that are either read or refused with a report: the check answers for
every section, what passes it consists of records, and the values that it refuses can be
written. -/
structure Reportable (merged : Entries) : Prop where
  checkable : Checkable merged
  records :
    check (.record merged) = .ok [] →
      ∀ name ∈ sectionNames, ∀ given, merged.find? name = some given → given.IsRecord
  texts :
    ∀ errors, check (.record merged) = .ok errors →
      ∀ error ∈ errors, error.value.isWritable = true

theorem requireTexts_eq_ok_iff {errors : List SettingError} :
    SettingError.requireTexts errors = .ok () ↔
      ∀ error ∈ errors, error.value.isWritable = true := by
  rw [SettingError.requireTexts]
  split
  · next written => simpa using written
  · next unwritten => simpa using unwritten

/-- A failure to read a shape is known by its fault. -/
theorem eq_shape_of_test
    {outcome : Except SettingsFailure Settings}
    {fault : ShapeFault}
    (tested : (match outcome with
      | .error (.shape found) => decide (found = fault)
      | _ => false) = true) :
    outcome = .error (.shape fault) := by
  split at tested
  · exact congrArg _ (congrArg _ (of_decide_eq_true tested))
  · cases tested

/-- What is loaded has passed the check. -/
theorem load_eq_ok_iff {overrides : Value} {settings : Settings} :
    load document profile overrides = .ok settings ↔
      ∃ merged, merge document profile overrides = .ok merged ∧
        check (.record merged) = .ok [] ∧ read merged = .ok settings := by
  rw [load, Outcome.bind_eq_ok_iff]
  simp only [Outcome.mapError_eq_ok_iff]
  refine exists_congr fun merged => and_congr_right fun _ => ?_
  rw [Outcome.bind_eq_ok_iff]
  simp only [Outcome.mapError_eq_ok_iff]
  constructor
  · rintro ⟨errors, checked, loaded⟩
    cases errors with
    | nil => exact ⟨checked, Outcome.mapError_eq_ok_iff.mp loaded⟩
    | cons error rest =>
        obtain ⟨-, -, loaded⟩ := Outcome.bind_eq_ok_iff.mp loaded
        cases loaded
  · rintro ⟨checked, settled⟩
    exact ⟨[], checked, Outcome.mapError_eq_ok_iff.mpr settled⟩

/-- A failure to read a shape is no report on rules. -/
theorem mapError_shape_ne_rejected
    {β : Type}
    {computation : Except ShapeFault β}
    {errors : List SettingError} :
    computation.mapError SettingsFailure.shape ≠ .error (.rejected profile errors) := by
  intro refused
  obtain ⟨fault, -, same⟩ := Outcome.mapError_eq_error_iff.mp refused
  cases same

/-- What is refused with a report breaks the rules that the report lists. -/
theorem load_eq_rejected_iff {overrides : Value} {errors : List SettingError} :
    load document profile overrides = .error (.rejected profile errors) ↔
      ∃ merged, merge document profile overrides = .ok merged ∧
        check (.record merged) = .ok errors ∧ errors ≠ [] ∧
          ∀ error ∈ errors, error.value.isWritable = true := by
  rw [load, Outcome.bind_eq_error_iff]
  simp only [Outcome.mapError_eq_ok_iff, mapError_shape_ne_rejected, false_or]
  refine exists_congr fun merged => and_congr_right fun _ => ?_
  rw [Outcome.bind_eq_error_iff]
  simp only [Outcome.mapError_eq_ok_iff, mapError_shape_ne_rejected, false_or]
  constructor
  · rintro ⟨broken, checked, refused⟩
    cases broken with
    | nil => exact absurd refused mapError_shape_ne_rejected
    | cons error rest =>
        rcases Outcome.bind_eq_error_iff.mp refused with unwritten | ⟨done, written, refused⟩
        · exact absurd unwritten mapError_shape_ne_rejected
        · cases refused
          exact ⟨checked, List.cons_ne_nil _ _,
            requireTexts_eq_ok_iff.mp (Outcome.mapError_eq_ok_iff.mp written)⟩
  · rintro ⟨checked, broken, written⟩
    refine ⟨errors, checked, ?_⟩
    rw [if_neg (by simpa using broken), requireTexts_eq_ok_iff.mpr written]
    rfl

/-- Records of settings are loaded, or refused with the broken rules, exactly when they can
be reported on. -/
theorem load_ok_or_rejected_iff
    {content : Entries}
    (contributes : document.Contributes profile content)
    (overrides : Entries) :
    ((∃ settings, load document profile (.record overrides) = .ok settings) ∨
      ∃ errors, errors ≠ [] ∧
        check (.record ((standard.toEntries.overlay content).overlay overrides)) = .ok errors ∧
        load document profile (.record overrides) = .error (.rejected profile errors)) ↔
      Reportable ((standard.toEntries.overlay content).overlay overrides) := by
  simp only [load_eq_ok_iff, load_eq_rejected_iff, merge_eq contributes overrides,
    Except.ok.injEq, exists_eq_left']
  generalize (standard.toEntries.overlay content).overlay overrides = merged
  constructor
  · rintro (⟨settings, checked, settled⟩ | ⟨errors, broken, checked, -, -, written⟩)
    · refine ⟨exists_check_iff.mp ⟨[], checked⟩,
        fun _ => exists_read_iff.mp ⟨settings, settled⟩, ?_⟩
      intro errors listed
      rw [checked] at listed
      cases listed
      simp
    · refine ⟨exists_check_iff.mp ⟨errors, checked⟩, ?_, ?_⟩
      · intro passed
        rw [checked] at passed
        exact absurd (Except.ok.inj passed) broken
      · intro others listed
        rw [checked] at listed
        cases listed
        exact written
  · rintro ⟨checkable, records, texts⟩
    obtain ⟨errors, checked⟩ := exists_check_iff.mpr checkable
    by_cases broken : errors = []
    · subst broken
      obtain ⟨settings, settled⟩ := exists_read_iff.mpr (records checked)
      exact .inl ⟨settings, checked, settled⟩
    · exact .inr ⟨errors, broken, checked, checked, broken, texts errors checked⟩

/-- Room for no expression breaks a rule over a shipped profile, and is reported. -/
theorem ok_or_rejected_of_no_room :
    Document.shipped.Contributes (some "graphing-hires")
      [("sampler", .record [("column_count", .int 1920)])] ∧
    ((∃ settings,
      load Document.shipped (some "graphing-hires")
        (.record [("cache", .record [("max_expressions", .int 0)])]) = .ok settings) ∨
      ∃ errors, errors ≠ [] ∧
        check (.record ((standard.toEntries.overlay
          [("sampler", .record [("column_count", .int 1920)])]).overlay
          [("cache", .record [("max_expressions", .int 0)])])) = .ok errors ∧
        load Document.shipped (some "graphing-hires")
          (.record [("cache", .record [("max_expressions", .int 0)])]) =
            .error (.rejected (some "graphing-hires") errors)) := by
  have contributes :
      Document.shipped.Contributes (some "graphing-hires")
        [("sampler", .record [("column_count", .int 1920)])] := rfl
  have reported :
      ∃ errors, check (.record ((standard.toEntries.overlay
        [("sampler", .record [("column_count", .int 1920)])]).overlay
        [("cache", .record [("max_expressions", .int 0)])])) = .ok errors ∧
          (!errors.isEmpty && errors.all fun error => error.value.isWritable) = true :=
    Outcome.exists_of_any (by decide +kernel)
  obtain ⟨errors, checked, tested⟩ := reported
  obtain ⟨broken, written⟩ := Bool.and_eq_true_iff.mp tested
  refine ⟨contributes, (load_ok_or_rejected_iff contributes _).mpr ⟨?_, ?_, ?_⟩⟩
  · exact exists_check_iff.mp ⟨errors, checked⟩
  · intro passed
    rw [checked] at passed
    cases passed
    cases broken
  · intro others listed
    rw [checked] at listed
    cases listed
    simpa using written

/-- A section without a value, a list or a text in place of a section, and a bound beyond
all doubles make loading fail without a report. -/
theorem not_reported_of_null_section :
    load none none (.record [("sampler", .null)]) = .error (.shape .noMember) ∧
    load none none (.record [("sampler", .list [])]) = .error (.shape .noEntries) ∧
    load none none (.record [("cache", .text "")]) = .error (.shape .noEntries) ∧
    load none none
      (.record [("root_finder", .record [("initial_guess", .int (powerOfTen 400))])]) =
        .error (.shape (.arithmetic .integerTooLarge)) := by
  refine ⟨eq_shape_of_test ?_, eq_shape_of_test ?_, eq_shape_of_test ?_, eq_shape_of_test ?_⟩ <;>
    decide +kernel

end Settings
end Calculator
