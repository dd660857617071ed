import Calculator.Proofs.Settings.Accepted

/-!
# Parameters

The parameters of settings are the fields of their sections. What is read from a record
that has passed its check is what stands there at the parameters. Neither the check nor
the reading looks at anything else.
-/

namespace Calculator

namespace Entries

variable {entries part : Entries}

/-- The entries of a section, none when there is no record in its place. -/
def fieldsOf (entries : Entries) (name : String) : Entries :=
  match entries.find? name with
  | some (.record fields) => fields
  | _ => []

/-- What stands at a field of a section. -/
def setting? (entries : Entries) (name field : String) : Option Value :=
  (entries.fieldsOf name).find? field

theorem fieldsOf_of_find?
    {name : String}
    {fields : Entries}
    (found : entries.find? name = some (.record fields)) :
    entries.fieldsOf name = fields := by
  rw [fieldsOf, found]

/-- Entries that a record has, at the same keys. -/
def Holds (entries part : Entries) : Prop :=
  ∀ entry ∈ part, entries.find? entry.1 = some entry.2

@[simp] theorem holds_nil (entries : Entries) : entries.Holds [] :=
  List.forall_mem_nil _

@[simp] theorem holds_cons {entry : Key × Value} :
    entries.Holds (entry :: part) ↔
      entries.find? entry.1 = some entry.2 ∧ entries.Holds part :=
  List.forall_mem_cons

theorem exists_mem_of_find?
    {key : Key}
    {value : Value}
    (found : entries.find? key = some value) :
    ∃ name, (name, value) ∈ entries ∧ name.identity = key.identity := by
  induction entries with
  | nil => cases found
  | cons entry rest restHypothesis =>
      rw [find?] at found
      split at found
      · rename_i same
        cases found
        exact ⟨entry.1, List.mem_cons_self, same⟩
      · obtain ⟨name, present, same⟩ := restHypothesis found
        exact ⟨name, List.mem_cons_of_mem _ present, same⟩

theorem Holds.find?_eq_some
    (holds : entries.Holds part)
    {key : Key}
    {value : Value}
    (found : part.find? key = some value) :
    entries.find? key = some value := by
  obtain ⟨name, present, same⟩ := exists_mem_of_find? found
  rw [← find?_congr same]
  exact holds _ present

/-- A record that has the fields of a section, with values of its own. -/
def HasFieldsOf (entries part : Entries) : Prop :=
  ∀ field : String, (part.find? field).isSome → (entries.find? field).isSome

/-- Records that have the same values at the fields of a section. -/
def AgreesOn (part entries others : Entries) : Prop :=
  ∀ field : String, (part.find? field).isSome → entries.find? field = others.find? field

end Entries

namespace Value

theorem ofNumber_of_number?
    {value : Value}
    {number : Number Float}
    (isNumber : value.number? = some number) :
    ofNumber number = value := by
  cases value with
  | int _ | float _ =>
      cases isNumber
      rfl
  | _ => cases isNumber

theorem int_of_positiveInteger?
    {value : Value}
    {n : Nat}
    (isPositive : value.positiveInteger? = some n) :
    int n = value := by
  cases value with
  | int m =>
      match m with
      | .ofNat (k + 1) =>
          cases isPositive
          rfl
  | _ => cases isPositive

theorem not_isRecord_of_key? {value : Value} (isKey : value.key?.isSome) : ¬value.IsRecord := by
  rintro ⟨entries, rfl⟩
  cases isKey

theorem not_isRecord_ofNumber (number : Number Float) : ¬(ofNumber number).IsRecord := by
  cases number <;> exact not_isRecord_of_key? rfl

theorem not_isRecord_ofOption (number : Option (Number Float)) :
    ¬(ofOption ofNumber number).IsRecord := by
  cases number with
  | none => exact not_isRecord_of_key? rfl
  | some number => exact not_isRecord_ofNumber number

end Value

namespace Settings

open Setting

/-! ## Reading parameters back -/

variable {entries : Entries} {key : String}

/-- A number that is read is what stands at its key. -/
theorem find?_numberOr
    {default : Number Float}
    {sound : Number Float → Prop}
    (present : (entries.find? key).isSome)
    (tested : ∀ value, entries.find? key = some value →
      ∃ number, value.number? = some number ∧ sound number) :
    entries.find? key = some (.ofNumber (numberOr entries key default)) := by
  obtain ⟨value, found⟩ := Option.isSome_iff_exists.mp present
  obtain ⟨number, isNumber, -⟩ := tested value found
  simp [numberOr, found, isNumber, Value.ofNumber_of_number? isNumber]

/-- An integer that is read is what stands at its key. -/
theorem find?_integerOr
    {default least : Nat}
    (present : (entries.find? key).isSome)
    (tested : ∀ value, entries.find? key = some value → isInteger least value = true) :
    entries.find? key = some (.int (integerOr entries key default)) := by
  obtain ⟨value, found⟩ := Option.isSome_iff_exists.mp present
  obtain ⟨n, isPositive, -⟩ := isInteger_iff.mp (tested value found)
  simp [integerOr, found, isPositive, Value.int_of_positiveInteger? isPositive]

theorem holds_readParser
    (passed : checkParser (.record entries) = .ok [])
    (full : entries.HasFieldsOf standard.parser.toEntries) :
    entries.Holds (readParser entries).toEntries := by
  obtain ⟨value, found⟩ := Option.isSome_iff_exists.mp (full "variable" rfl)
  obtain ⟨variableName, usable⟩ := usable_of_checkParser passed found
  obtain ⟨rfl, -, -⟩ := Variable.check_eq_ok_iff.mp usable
  simp [ParserSettings.toEntries, readParser, found]

theorem holds_readSampler
    (passed : checkSampler (.record entries) = .ok [])
    (full : entries.HasFieldsOf standard.sampler.toEntries) :
    entries.Holds (readSampler entries).toEntries := by
  obtain ⟨finite, -, columns, limited⟩ := tests_of_checkSampler passed
  obtain ⟨limit, found⟩ := Option.isSome_iff_exists.mp (full "y_limit" rfl)
  have limitRead : limit = .ofOption .ofNumber (readSampler entries).yLimit := by
    rw [readSampler, found]
    rcases test_of_checkJumpLimit limited found with rfl | tested
    · rfl
    · obtain ⟨number, isNumber, -⟩ := isNotAtMost_iff.mp tested
      simp [isNumber, Value.ofOption, Value.ofNumber_of_number? isNumber]
  simp only [SamplerSettings.toEntries, Entries.holds_cons, Entries.holds_nil, and_true]
  exact ⟨find?_numberOr (full "x_min" rfl) (finite "x_min" (by simp)),
    find?_numberOr (full "x_max" rfl) (finite "x_max" (by simp)),
    find?_integerOr (full "column_count" rfl) columns, limitRead ▸ found⟩

theorem holds_readRootFinder
    (passed : checkRootFinder (.record entries) = .ok [])
    (full : entries.HasFieldsOf standard.rootFinder.toEntries) :
    entries.Holds (readRootFinder entries).toEntries := by
  obtain ⟨guess, tolerance, rounds, floor⟩ := tests_of_checkRootFinder passed
  simp only [RootSearch.toEntries, Entries.holds_cons, Entries.holds_nil, and_true]
  exact ⟨find?_numberOr (full "initial_guess" rfl) guess,
    find?_numberOr (full "tolerance" rfl) tolerance,
    find?_integerOr (full "max_iterations" rfl) rounds,
    find?_numberOr (full "derivative_floor" rfl) floor⟩

theorem holds_readCalculus
    (passed : checkCalculus (.record entries) = .ok [])
    (full : entries.HasFieldsOf standard.calculus.toEntries) :
    entries.Holds (readCalculus entries).toEntries := by
  obtain ⟨steps, intervals⟩ := tests_of_checkCalculus passed
  simp only [CalculusSettings.toEntries, Entries.holds_cons, Entries.holds_nil, and_true]
  exact ⟨find?_numberOr (full "derivative_step" rfl) (steps "derivative_step" (by simp)),
    find?_integerOr (full "simpson_intervals" rfl) intervals,
    find?_numberOr (full "limit_step" rfl) (steps "limit_step" (by simp)),
    find?_numberOr (full "limit_tolerance" rfl) (steps "limit_tolerance" (by simp))⟩

theorem holds_readCache
    (passed : checkCache (.record entries) = .ok [])
    (full : entries.HasFieldsOf standard.cache.toEntries) :
    entries.Holds (readCache entries).toEntries := by
  simp only [CacheSettings.toEntries, Entries.holds_cons, Entries.holds_nil, and_true]
  exact find?_integerOr (full "max_expressions" rfl) (simpleRule_eq_nil_iff.mp passed)

/-! ## What a section depends on -/

variable {others : Entries}

theorem rule_congr
    {field : String}
    (same : entries.find? field = others.find? field)
    (message : String)
    (passes : Value → Except Fault Bool) :
    rule (.record entries) field message passes = rule (.record others) field message passes := by
  simp only [rule, Value.member?_record, same]

theorem checkParser_congr (same : standard.parser.toEntries.AgreesOn entries others) :
    checkParser (.record entries) = checkParser (.record others) := by
  simp only [checkParser, Value.member?_record, same "variable" rfl]

theorem readParser_congr (same : standard.parser.toEntries.AgreesOn entries others) :
    readParser entries = readParser others := by
  simp only [readParser, same "variable" rfl]

theorem checkSampler_congr (same : standard.sampler.toEntries.AgreesOn entries others) :
    checkSampler (.record entries) = checkSampler (.record others) := by
  simp only [checkSampler, simpleRule, rule_congr (same "x_min" rfl),
    rule_congr (same "x_max" rfl), rule_congr (same "column_count" rfl), Value.entries,
    Outcome.ok_bind, checkOrder, same "x_min" rfl, same "x_max" rfl, checkJumpLimit,
    same "y_limit" rfl]

theorem readSampler_congr (same : standard.sampler.toEntries.AgreesOn entries others) :
    readSampler entries = readSampler others := by
  simp only [readSampler, numberOr, integerOr, same "x_min" rfl, same "x_max" rfl,
    same "column_count" rfl, same "y_limit" rfl]

theorem checkRootFinder_congr (same : standard.rootFinder.toEntries.AgreesOn entries others) :
    checkRootFinder (.record entries) = checkRootFinder (.record others) := by
  simp only [checkRootFinder, simpleRule, rule_congr (same "initial_guess" rfl),
    rule_congr (same "tolerance" rfl), rule_congr (same "max_iterations" rfl),
    rule_congr (same "derivative_floor" rfl)]

theorem readRootFinder_congr (same : standard.rootFinder.toEntries.AgreesOn entries others) :
    readRootFinder entries = readRootFinder others := by
  simp only [readRootFinder, numberOr, integerOr, same "initial_guess" rfl,
    same "tolerance" rfl, same "max_iterations" rfl, same "derivative_floor" rfl]

theorem checkCalculus_congr (same : standard.calculus.toEntries.AgreesOn entries others) :
    checkCalculus (.record entries) = checkCalculus (.record others) := by
  simp only [checkCalculus, List.mapM_cons, List.mapM_nil, simpleRule,
    rule_congr (same "derivative_step" rfl), rule_congr (same "limit_step" rfl),
    rule_congr (same "limit_tolerance" rfl), rule_congr (same "simpson_intervals" rfl)]

theorem readCalculus_congr (same : standard.calculus.toEntries.AgreesOn entries others) :
    readCalculus entries = readCalculus others := by
  simp only [readCalculus, numberOr, integerOr, same "derivative_step" rfl,
    same "simpson_intervals" rfl, same "limit_step" rfl, same "limit_tolerance" rfl]

theorem checkCache_congr (same : standard.cache.toEntries.AgreesOn entries others) :
    checkCache (.record entries) = checkCache (.record others) :=
  rule_congr (same "max_expressions" rfl) _ _

theorem readCache_congr (same : standard.cache.toEntries.AgreesOn entries others) :
    readCache entries = readCache others := by
  simp only [readCache, integerOr, same "max_expressions" rfl]

/-! ## All parameters -/

/-- A field of a section of the settings. -/
def IsParameter (name field : String) : Prop :=
  (standard.toEntries.setting? name field).isSome

instance (name field : String) : Decidable (IsParameter name field) :=
  inferInstanceAs (Decidable (_ = true))

/-- Records of sections that have the same values at all parameters. -/
def SameParameters (entries others : Entries) : Prop :=
  ∀ name field, IsParameter name field → entries.setting? name field = others.setting? name field

/-- A record that has a record for every section. -/
def HasSections (merged : Entries) : Prop :=
  ∀ name ∈ sectionNames, merged.find? name = some (.record (merged.fieldsOf name))

variable {merged others : Entries}

theorem HasSections.member?_eq
    (hasSections : HasSections merged)
    {name : String}
    (isSection : name ∈ sectionNames) :
    (Value.record merged).member? name = .ok (some (.record (merged.fieldsOf name))) := by
  rw [Value.member?_record, hasSections name isSection]

/-- The check of a record of sections depends on its parameters. -/
theorem check_congr
    (hasSections : HasSections merged)
    (othersHaveSections : HasSections others)
    (same : SameParameters merged others) :
    check (.record merged) = check (.record others) := by
  rw [check, check, Outcome.mapM_congr]
  simp only [sections, List.forall_mem_cons]
  refine ⟨?parser, ?sampler, ?rootFinder, ?calculus, ?cache, List.forall_mem_nil _⟩ <;>
    rw [hasSections.member?_eq (by decide), othersHaveSections.member?_eq (by decide)]
  case parser => exact checkParser_congr (same "parser")
  case sampler => exact checkSampler_congr (same "sampler")
  case rootFinder => exact checkRootFinder_congr (same "root_finder")
  case calculus => exact checkCalculus_congr (same "calculus")
  case cache => exact checkCache_congr (same "cache")

theorem HasSections.sectionEntries_eq
    (hasSections : HasSections merged)
    {name : String}
    (isSection : name ∈ sectionNames) :
    sectionEntries merged name = .ok (merged.fieldsOf name) := by
  rw [sectionEntries, hasSections name isSection]
  rfl

/-- Settings are read section by section. -/
theorem read_eq (hasSections : HasSections merged) :
    read merged = .ok
      { parser := readParser (merged.fieldsOf "parser")
        sampler := readSampler (merged.fieldsOf "sampler")
        rootFinder := readRootFinder (merged.fieldsOf "root_finder")
        calculus := readCalculus (merged.fieldsOf "calculus")
        cache := readCache (merged.fieldsOf "cache") } := by
  rw [read, hasSections.sectionEntries_eq (by decide), hasSections.sectionEntries_eq (by decide),
    hasSections.sectionEntries_eq (by decide), hasSections.sectionEntries_eq (by decide),
    hasSections.sectionEntries_eq (by decide)]
  rfl

/-- Settings depend on the parameters of the record that they are read from. -/
theorem read_congr
    (hasSections : HasSections merged)
    (othersHaveSections : HasSections others)
    (same : SameParameters merged others) :
    read merged = read others := by
  rw [read_eq hasSections, read_eq othersHaveSections, readParser_congr (same "parser"),
    readSampler_congr (same "sampler"), readRootFinder_congr (same "root_finder"),
    readCalculus_congr (same "calculus"), readCache_congr (same "cache")]

/-! ## The parameters of settings -/

variable {name field : String}

theorem fieldsOf_toEntries_of_not_mem
    (settings : Settings)
    (absent : name ∉ sectionNames) :
    settings.toEntries.fieldsOf name = [] := by
  simp only [sectionNames, List.mem_cons, List.not_mem_nil, or_false, not_or,
    eq_comm (a := name)] at absent
  simp [Entries.fieldsOf, toEntries, Entries.find?, absent]

/-- All settings have the same fields. -/
theorem keys_fieldsOf_toEntries (settings other : Settings) (name : String) :
    (settings.toEntries.fieldsOf name).keys = (other.toEntries.fieldsOf name).keys := by
  by_cases isSection : name ∈ sectionNames
  · revert name
    simp only [sectionNames, List.forall_mem_cons]
    exact ⟨rfl, rfl, rfl, rfl, rfl, List.forall_mem_nil _⟩
  · rw [fieldsOf_toEntries_of_not_mem settings isSection,
      fieldsOf_toEntries_of_not_mem other isSection]

theorem isParameter_iff (settings : Settings) :
    IsParameter name field ↔ (settings.toEntries.setting? name field).isSome := by
  rw [IsParameter, Entries.setting?, Entries.setting?, Option.isSome_iff_ne_none,
    Option.isSome_iff_ne_none, Ne, Ne, Entries.find?_eq_none_iff, Entries.find?_eq_none_iff,
    keys_fieldsOf_toEntries standard settings]

theorem IsParameter.mem_sectionNames (isParameter : IsParameter name field) :
    name ∈ sectionNames := by
  by_cases isSection : name ∈ sectionNames
  · exact isSection
  · rw [IsParameter, Entries.setting?, fieldsOf_toEntries_of_not_mem standard isSection]
      at isParameter
    cases isParameter

/-- No parameter of settings is a record. -/
theorem not_isRecord_of_setting?_toEntries
    {settings : Settings}
    {value : Value}
    (found : settings.toEntries.setting? name field = some value) :
    ¬value.IsRecord := by
  have plain :
      ∀ name ∈ sectionNames, ∀ entry ∈ settings.toEntries.fieldsOf name, ¬entry.2.IsRecord := by
    have number := Value.not_isRecord_ofNumber
    have limit := Value.not_isRecord_ofOption settings.sampler.yLimit
    simp only [sectionNames, List.forall_mem_cons]
    refine ⟨?parser, ?sampler, ?rootFinder, ?calculus, ?cache, List.forall_mem_nil _⟩
    case parser | cache => exact List.forall_mem_singleton.mpr (Value.not_isRecord_of_key? rfl)
    case sampler =>
      change ∀ entry ∈ settings.sampler.toEntries, ¬entry.2.IsRecord
      simp only [SamplerSettings.toEntries, List.forall_mem_cons]
      exact ⟨number _, number _, Value.not_isRecord_of_key? rfl, limit, List.forall_mem_nil _⟩
    case rootFinder =>
      change ∀ entry ∈ settings.rootFinder.toEntries, ¬entry.2.IsRecord
      simp only [RootSearch.toEntries, List.forall_mem_cons]
      exact ⟨number _, number _, Value.not_isRecord_of_key? rfl, number _, List.forall_mem_nil _⟩
    case calculus =>
      change ∀ entry ∈ settings.calculus.toEntries, ¬entry.2.IsRecord
      simp only [CalculusSettings.toEntries, List.forall_mem_cons]
      exact ⟨number _, Value.not_isRecord_of_key? rfl, number _, number _, List.forall_mem_nil _⟩
  have isSome := congrArg Option.isSome found
  obtain ⟨key, present, -⟩ := Entries.exists_mem_of_find? found
  exact plain name ((isParameter_iff settings).mpr isSome).mem_sectionNames _ present

/-- What is read from a record of sections that has passed its check, and that has all
parameters, is what stands at the parameters. -/
theorem setting?_toEntries_of_read
    {settings : Settings}
    (hasSections : HasSections merged)
    (full : ∀ name field, IsParameter name field → (merged.setting? name field).isSome)
    (passed : check (.record merged) = .ok [])
    (settled : read merged = .ok settings)
    (isParameter : IsParameter name field) :
    settings.toEntries.setting? name field = merged.setting? name field := by
  have passes {name : String} {checkSection : Value → CheckResult}
      (isName : name ∈ sectionNames)
      (isSection : (name, checkSection) ∈ sections) :
      checkSection (.record (merged.fieldsOf name)) = .ok [] :=
    check_sectionEntries passed isSection (hasSections.sectionEntries_eq isName)
  have holds :
      ∀ name ∈ sectionNames, (merged.fieldsOf name).Holds (settings.toEntries.fieldsOf name) := by
    rw [read_eq hasSections] at settled
    cases settled
    simp only [sectionNames, List.forall_mem_cons]
    exact ⟨holds_readParser (passes (by decide) (by simp [sections])) (full "parser"),
      holds_readSampler (passes (by decide) (by simp [sections])) (full "sampler"),
      holds_readRootFinder (passes (by decide) (by simp [sections])) (full "root_finder"),
      holds_readCalculus (passes (by decide) (by simp [sections])) (full "calculus"),
      holds_readCache (passes (by decide) (by simp [sections])) (full "cache"),
      List.forall_mem_nil _⟩
  obtain ⟨value, found⟩ := Option.isSome_iff_exists.mp ((isParameter_iff _).mp isParameter)
  rw [found]
  exact ((holds name isParameter.mem_sectionNames).find?_eq_some found).symm

end Settings
end Calculator
