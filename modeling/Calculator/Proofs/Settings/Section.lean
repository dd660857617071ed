import Calculator.Proofs.Arithmetic.Order
import Calculator.Proofs.Settings.Layer

/-!
# Sections that can be checked

A section is checked setting by setting. A record can be asked for every setting, and a
text or a list only for one that it does not hold. A check fails where a setting cannot
be asked for, and where one that has to be finite is an integer beyond all doubles.
-/

namespace Calculator

open Scalar

namespace Value

/-- A value with entries. -/
def IsRecord (value : Value) : Prop :=
  ∃ entries, value = .record entries

/-- A value that can be asked for a name: a record, or a text or list that does not hold
the name. -/
inductive Searchable (name : String) : Value → Prop
  | record (entries : Entries) : Searchable name (.record entries)
  | text
      {content : String}
      (absent : holdsPart name.toList content.toList = false) :
      Searchable name (.text content)
  | list
      {items : List Value}
      (absent : items.any (isText name) = false) :
      Searchable name (.list items)

/-- A value whose integer at a name, if it has one, is within the range of doubles. -/
def InRange (name : String) (value : Value) : Prop :=
  ∀ (entries : Entries) n, value = .record entries → entries.find? name = some (.int n) →
    isFinite (ofInt n : Float) = true

theorem isRecord_record (entries : Entries) : (record entries).IsRecord :=
  ⟨entries, rfl⟩

theorem IsRecord.searchable
    {value : Value}
    (isRecord : value.IsRecord)
    (name : String) :
    value.Searchable name := by
  obtain ⟨entries, rfl⟩ := isRecord
  exact .record entries

@[simp] theorem member?_record (name : String) (entries : Entries) :
    (record entries).member? name = .ok (entries.find? name) := by
  rw [member?, hasMember]
  cases found : entries.find? name with
  | none => rfl
  | some value => simp [member, found]

/-- What a value that is no record holds cannot be looked up. -/
theorem member?_eq_ok_some_iff {name : String} {value member : Value} :
    value.member? name = .ok (some member) ↔
      ∃ entries : Entries, value = .record entries ∧ entries.find? name = some member := by
  cases value with
  | record entries => simp
  | text content =>
      rw [member?, hasMember]
      cases holdsPart name.toList content.toList <;> simp [Value.member]
  | list items =>
      rw [member?, hasMember]
      cases items.any (isText name) <;> simp [Value.member]
  | _ => simp [member?, hasMember]

theorem exists_entries_iff {value : Value} :
    (∃ entries, value.entries = .ok entries) ↔ value.IsRecord := by
  cases value with
  | record entries => simp [Value.entries, IsRecord]
  | _ => simp [Value.entries, IsRecord]

/-- A look-up does not fail in a value that can be asked for the name. -/
theorem exists_member?_iff {name : String} {value : Value} :
    (∃ found, value.member? name = .ok found) ↔ value.Searchable name := by
  constructor
  · rintro ⟨found, looked⟩
    cases value with
    | record entries => exact .record entries
    | text content =>
        rw [member?, hasMember] at looked
        cases present : holdsPart name.toList content.toList with
        | false => exact .text present
        | true => simp [present, member] at looked
    | list items =>
        rw [member?, hasMember] at looked
        cases present : items.any (isText name) with
        | false => exact .list present
        | true => simp [present, member] at looked
    | _ => simp [member?, hasMember] at looked
  · intro searchable
    cases searchable with
    | record entries => exact ⟨_, member?_record name entries⟩
    | text absent => exact ⟨none, by simp [member?, hasMember, absent]⟩
    | list absent => exact ⟨none, by simp [member?, hasMember, absent]⟩

end Value

namespace Setting

variable {given : Value} {field message : String} {passes : Value → Except Fault Bool}

/-- A rule fails where its setting cannot be asked for, and where its test fails. -/
theorem exists_rule_iff :
    (∃ errors, rule given field message passes = .ok errors) ↔
      given.Searchable field ∧
        ∀ entries value, given = .record entries → Entries.find? field entries = some value →
          ∃ passed, passes value = .ok passed := by
  rw [← Value.exists_member?_iff]
  constructor
  · rintro ⟨errors, ruled⟩
    obtain ⟨found, looked, ruled⟩ := Outcome.bind_eq_ok_iff.mp ruled
    refine ⟨⟨found, looked⟩, ?_⟩
    rintro entries value rfl present
    rw [Value.member?_record, present] at looked
    cases looked
    obtain ⟨passed, tested, -⟩ := Outcome.bind_eq_ok_iff.mp ruled
    exact ⟨passed, Outcome.mapError_eq_ok_iff.mp tested⟩
  · rintro ⟨⟨found, looked⟩, tests⟩
    rw [rule, looked]
    cases found with
    | none => exact ⟨[], rfl⟩
    | some value =>
        obtain ⟨entries, rfl, present⟩ := Value.member?_eq_ok_some_iff.mp looked
        obtain ⟨passed, tested⟩ := tests entries value rfl present
        cases passed with
        | true => exact ⟨[], by simp [tested]⟩
        | false => exact ⟨[⟨field, message, value⟩], by simp [tested]⟩

theorem exists_simpleRule_iff {passes : Value → Bool} :
    (∃ errors, simpleRule given field message passes = .ok errors) ↔ given.Searchable field := by
  rw [simpleRule, exists_rule_iff]
  exact and_iff_left fun _ value _ _ => ⟨passes value, rfl⟩

/-- The test for a finite number fails on integers beyond the doubles. -/
theorem exists_isFinite_iff {value : Value} :
    (∃ finite, isFinite value = .ok finite) ↔
      ∀ n, value = .int n → Scalar.isFinite (ofInt n : Float) = true := by
  cases value with
  | int n =>
      simp [isFinite, Value.number?, Number.isFinite?, Outcome.map_eq_ok_iff,
        Number.ofInt?_eq_ok_iff]
  | _ => simp [isFinite, Value.number?, Number.isFinite?]

theorem exists_isRate_iff {value : Value} :
    (∃ passed, isRate value = .ok passed) ↔
      ∀ n, value = .int n → Scalar.isFinite (ofInt n : Float) = true := by
  rw [isRate, Outcome.exists_bind_iff, ← exists_isFinite_iff]
  simp

/-- The rule for a number that has to be finite fails where the setting cannot be asked for
and on integers beyond the doubles. -/
theorem exists_finiteRule_iff
    (tests : ∀ value, (∃ passed, passes value = .ok passed) ↔
      ∀ n, value = .int n → Scalar.isFinite (ofInt n : Float) = true) :
    (∃ errors, rule given field message passes = .ok errors) ↔
      given.Searchable field ∧ given.InRange field := by
  rw [exists_rule_iff]
  refine and_congr_right fun _ => ?_
  simp only [tests]
  constructor
  · exact fun inRange entries n same found => inRange entries _ same found n rfl
  · rintro inRange entries _ same found n rfl
    exact inRange entries n same found

end Setting

namespace Settings

open Setting

variable {given : Value}

theorem exists_checkParser_iff :
    (∃ errors, checkParser given = .ok errors) ↔ given.Searchable "variable" := by
  rw [checkParser, Outcome.exists_bind_iff, ← Value.exists_member?_iff]
  refine exists_congr fun found => and_iff_left ?_
  cases found with
  | none => exact ⟨[], rfl⟩
  | some value =>
      dsimp only
      split <;> exact ⟨_, rfl⟩

theorem exists_checkSampler_iff :
    (∃ errors, checkSampler given = .ok errors) ↔
      given.IsRecord ∧ given.InRange "x_min" ∧ given.InRange "x_max" := by
  simp only [checkSampler, Outcome.exists_bind_iff, Outcome.pure_eq_ok, Except.ok.injEq,
    exists_eq', and_true, exists_and_right, exists_simpleRule_iff,
    exists_finiteRule_iff fun _ => exists_isFinite_iff, Value.exists_entries_iff]
  constructor
  · rintro ⟨⟨-, left⟩, ⟨-, right⟩, isRecord, -⟩
    exact ⟨isRecord, left, right⟩
  · rintro ⟨isRecord, left, right⟩
    exact ⟨⟨isRecord.searchable _, left⟩, ⟨isRecord.searchable _, right⟩, isRecord,
      isRecord.searchable _⟩

theorem exists_checkRootFinder_iff :
    (∃ errors, checkRootFinder given = .ok errors) ↔
      (∀ field ∈ ["initial_guess", "tolerance", "max_iterations", "derivative_floor"],
        given.Searchable field) ∧
        given.InRange "initial_guess" := by
  simp only [checkRootFinder, Outcome.exists_bind_iff, Outcome.pure_eq_ok, Except.ok.injEq,
    exists_eq', and_true, exists_and_right, exists_simpleRule_iff,
    exists_finiteRule_iff fun _ => exists_isRate_iff]
  simp only [List.forall_mem_cons, List.not_mem_nil, false_implies, implies_true, and_true]
  exact and_right_comm

theorem exists_checkCalculus_iff :
    (∃ errors, checkCalculus given = .ok errors) ↔
      ∀ field ∈ ["derivative_step", "limit_step", "limit_tolerance", "simpson_intervals"],
        given.Searchable field := by
  simp only [checkCalculus, Outcome.exists_bind_iff, Outcome.pure_eq_ok, Except.ok.injEq,
    exists_eq', and_true, exists_and_right, exists_simpleRule_iff, Outcome.exists_mapM_iff]
  simp only [List.forall_mem_cons, List.not_mem_nil, false_implies, implies_true, and_true,
    and_assoc]

theorem exists_checkCache_iff :
    (∃ errors, checkCache given = .ok errors) ↔ given.Searchable "max_expressions" :=
  exists_simpleRule_iff

/-- Merged settings whose sections can be checked. -/
structure Checkable (merged : Entries) : Prop where
  parser : ∀ {given}, merged.find? "parser" = some given → given.Searchable "variable"
  sampler :
    ∀ {given}, merged.find? "sampler" = some given →
      given.IsRecord ∧ given.InRange "x_min" ∧ given.InRange "x_max"
  rootFinder :
    ∀ {given}, merged.find? "root_finder" = some given →
      (∀ field ∈ ["initial_guess", "tolerance", "max_iterations", "derivative_floor"],
        given.Searchable field) ∧
        given.InRange "initial_guess"
  calculus :
    ∀ {given}, merged.find? "calculus" = some given →
      ∀ field ∈ ["derivative_step", "limit_step", "limit_tolerance", "simpson_intervals"],
        given.Searchable field
  cache : ∀ {given}, merged.find? "cache" = some given → given.Searchable "max_expressions"

/-- A section that is there is checked, and one that is not is passed over. -/
theorem exists_checkIn_iff
    {merged : Entries}
    {name : String}
    {checkSection : Value → CheckResult} :
    (∃ found, (Value.record merged).member? name = .ok found ∧
      ∃ errors, (match found with
        | none => Except.ok []
        | some given => checkSection given : CheckResult) = .ok errors) ↔
      ∀ given, merged.find? name = some given → ∃ errors, checkSection given = .ok errors := by
  rw [Value.member?_record]
  cases merged.find? name with
  | none => simp
  | some given => simp

/-- A check lists the broken rules where the sections can be checked, and fails elsewhere. -/
theorem exists_check_iff {merged : Entries} :
    (∃ errors, check (.record merged) = .ok errors) ↔ Checkable merged := by
  simp only [check, Outcome.exists_bind_iff, Outcome.pure_eq_ok, Except.ok.injEq, exists_eq',
    and_true, Outcome.exists_mapM_iff]
  refine Iff.trans (forall₂_congr fun _ _ => exists_checkIn_iff) ?_
  simp only [sections, List.forall_mem_cons, List.not_mem_nil, false_implies, implies_true,
    and_true]
  simp only [exists_checkParser_iff, exists_checkSampler_iff, exists_checkRootFinder_iff,
    exists_checkCalculus_iff, exists_checkCache_iff]
  constructor
  · rintro ⟨parser, sampler, rootFinder, calculus, cache⟩
    exact ⟨parser _, sampler _, rootFinder _, calculus _, cache _⟩
  · rintro ⟨parser, sampler, rootFinder, calculus, cache⟩
    exact ⟨fun _ => parser, fun _ => sampler, fun _ => rootFinder, fun _ => calculus,
      fun _ => cache⟩

/-- Settings are read where every section that is there is a record. -/
theorem exists_read_iff {merged : Entries} :
    (∃ settings, read merged = .ok settings) ↔
      ∀ name ∈ sectionNames, ∀ given, merged.find? name = some given → given.IsRecord := by
  have section_iff (name : String) :
      (∃ entries, sectionEntries merged name = .ok entries) ↔
        ∀ given, merged.find? name = some given → given.IsRecord := by
    rw [sectionEntries, Value.exists_entries_iff]
    cases merged.find? name with
    | none => simp [Value.isRecord_record]
    | some given => simp
  simp only [read, Outcome.exists_bind_iff, Outcome.pure_eq_ok, Except.ok.injEq, exists_eq',
    and_true, exists_and_right, section_iff]
  simp only [sectionNames, List.forall_mem_cons, List.not_mem_nil, false_implies, implies_true,
    and_true]

end Settings
end Calculator
