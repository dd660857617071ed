import Calculator.Proofs.Settings.Report

/-!
# Accepted settings

What the check has found of the settings that are loaded. A setting that is given has
passed its test, and one that is not keeps its default, which would pass too.
-/

namespace Calculator

open Scalar Setting

/-! ## Tests of one setting -/

variable {entries : Entries}

namespace Setting

variable {field message : String} {value : Value}

/-- A rule is kept by a record whose setting, where it is present, passes the test. -/
theorem rule_eq_nil_iff {passes : Value → Except Fault Bool} :
    rule (.record entries) field message passes = .ok [] ↔
      ∀ value, entries.find? field = some value → passes value = .ok true := by
  rw [rule, Value.member?_record, Outcome.ok_bind]
  cases entries.find? field with
  | none => simp
  | some value =>
      rcases passed : passes value with fault | _ | _ <;> simp [passed]

theorem simpleRule_eq_nil_iff {passes : Value → Bool} :
    simpleRule (.record entries) field message passes = .ok [] ↔
      ∀ value, entries.find? field = some value → passes value = true := by
  simp [simpleRule, rule_eq_nil_iff]

theorem isFinite_eq_true_iff :
    isFinite value = .ok true ↔
      ∃ number, value.number? = some number ∧ number.isFinite? = .ok true := by
  rw [isFinite]
  cases value.number? <;> simp

theorem isNotAtMost_iff {bound : Int} :
    isNotAtMost bound value = true ↔
      ∃ number, value.number? = some number ∧ number.atMost (.int bound) = false := by
  rw [isNotAtMost]
  cases value.number? <;> simp

theorem isNotBelow_iff {bound : Int} :
    isNotBelow bound value = true ↔
      ∃ number, value.number? = some number ∧ number.less (.int bound) = false := by
  rw [isNotBelow]
  cases value.number? <;> simp

theorem isInteger_iff {least : Nat} :
    isInteger least value = true ↔ ∃ n, value.positiveInteger? = some n ∧ least ≤ n := by
  rw [isInteger]
  cases value.positiveInteger? <;> simp

theorem finite_of_isRate (passed : isRate value = .ok true) : isFinite value = .ok true := by
  obtain ⟨finite, tested, both⟩ := Outcome.bind_eq_ok_iff.mp passed
  rw [tested, (Bool.and_eq_true_iff.mp (Except.ok.inj both)).1]

end Setting

namespace Settings

/-- A number that is read has passed its test or is the default. -/
theorem numberOr_of_tested
    {key : String}
    {default : Number Float}
    {sound : Number Float → Prop}
    (tested : ∀ value, entries.find? key = some value →
      ∃ number, value.number? = some number ∧ sound number)
    (ofDefault : sound default) :
    sound (numberOr entries key default) := by
  rw [numberOr]
  cases found : entries.find? key with
  | none => exact ofDefault
  | some value =>
      obtain ⟨number, isNumber, isSound⟩ := tested value found
      simpa [isNumber] using isSound

/-- An integer that is read has passed its test or is the default. -/
theorem le_integerOr_of_tested
    {key : String}
    {default least : Nat}
    (tested : ∀ value, entries.find? key = some value → isInteger least value = true)
    (ofDefault : least ≤ default) :
    least ≤ integerOr entries key default := by
  rw [integerOr]
  cases found : entries.find? key with
  | none => exact ofDefault
  | some value =>
      obtain ⟨n, isPositive, enough⟩ := isInteger_iff.mp (tested value found)
      simpa [isPositive] using enough

end Settings

/-! ## Sections -/

/-- What the check has found of the plot window and the jump limit. The comparison that it
makes does not refuse an undefined limit. -/
structure SamplerSettings.Accepted (sampler : SamplerSettings) : Prop where
  xMin : sampler.xMin.isFinite? = .ok true
  xMax : sampler.xMax.isFinite? = .ok true
  columnCount : 0 < sampler.columnCount
  yLimit : ∀ limit ∈ sampler.yLimit, limit.atMost (.int 0) = false

/-- What the check has found of the search for roots. -/
structure RootSearch.Accepted (search : RootSearch Float) : Prop where
  initialGuess : search.initialGuess.isFinite? = .ok true
  tolerance : search.tolerance.atMost (.int 0) = false
  maxIterations : 0 < search.maxIterations
  derivativeFloor : search.derivativeFloor.less (.int 0) = false

/-- What the check has found of the steps of numeric calculus. -/
structure CalculusSettings.Accepted (calculus : CalculusSettings) : Prop where
  derivativeStep : calculus.derivativeStep.atMost (.int 0) = false
  limitStep : calculus.limitStep.atMost (.int 0) = false
  limitTolerance : calculus.limitTolerance.atMost (.int 0) = false
  simpsonIntervals : 2 ≤ calculus.simpsonIntervals

namespace Settings

/-- What a check of the sampler that finds no broken rule has tested. -/
theorem tests_of_checkSampler (passed : checkSampler (.record entries) = .ok []) :
    (∀ field ∈ ["x_min", "x_max"], ∀ value, entries.find? field = some value →
        ∃ number, value.number? = some number ∧ number.isFinite? = .ok true) ∧
      checkOrder entries = [] ∧
      (∀ value, entries.find? "column_count" = some value → isInteger 1 value = true) ∧
      checkJumpLimit entries = [] := by
  simp only [checkSampler, Outcome.bind_eq_ok_iff, Value.entries, Outcome.pure_eq_ok,
    Except.ok.injEq, exists_eq_left', List.append_eq_nil_iff] at passed
  obtain ⟨_, left, _, right, _, columns, ⟨⟨⟨rfl, rfl⟩, ordered⟩, rfl⟩, limited⟩ := passed
  refine ⟨?_, ordered, simpleRule_eq_nil_iff.mp columns, limited⟩
  simpa using
    ⟨fun value found => isFinite_eq_true_iff.mp (rule_eq_nil_iff.mp left value found),
      fun value found => isFinite_eq_true_iff.mp (rule_eq_nil_iff.mp right value found)⟩

/-- A jump limit that is given has passed its test. -/
theorem test_of_checkJumpLimit
    (passed : checkJumpLimit entries = [])
    {value : Value}
    (found : entries.find? "y_limit" = some value) :
    value = .null ∨ isNotAtMost 0 value = true := by
  rw [checkJumpLimit, found] at passed
  cases value with
  | null => exact .inl rfl
  | _ => exact .inr (by simpa using passed)

/-- A jump limit that is read has passed its test. -/
theorem atMost_of_checkJumpLimit
    (passed : checkJumpLimit entries = [])
    {limit : Number Float}
    (isLimit : (entries.find? "y_limit").bind Value.number? = some limit) :
    limit.atMost (.int 0) = false := by
  obtain ⟨value, found, isNumber⟩ := Option.bind_eq_some_iff.mp isLimit
  rcases test_of_checkJumpLimit passed found with rfl | tested
  · cases isNumber
  · obtain ⟨number, same, above⟩ := isNotAtMost_iff.mp tested
    rw [isNumber] at same
    cases same
    exact above

theorem accepted_readSampler (passed : checkSampler (.record entries) = .ok []) :
    (readSampler entries).Accepted := by
  obtain ⟨finite, -, columns, limited⟩ := tests_of_checkSampler passed
  exact
    { xMin := numberOr_of_tested (finite "x_min" (by simp)) rfl
      xMax := numberOr_of_tested (finite "x_max" (by simp)) rfl
      columnCount := le_integerOr_of_tested columns (by decide)
      yLimit := fun limit isLimit => atMost_of_checkJumpLimit limited isLimit }

/-- Bounds that are both given, or both left out, are in order. -/
theorem ordered_readSampler
    (passed : checkSampler (.record entries) = .ok [])
    (together : (entries.find? "x_min").isSome ↔ (entries.find? "x_max").isSome) :
    Number.atMost (readSampler entries).xMax (readSampler entries).xMin = false := by
  obtain ⟨finite, ordered, -, -⟩ := tests_of_checkSampler passed
  rw [checkOrder] at ordered
  rw [readSampler]
  dsimp only [numberOr]
  -- Two given bounds have been compared by the check, and the default ones are in order.
  cases left : entries.find? "x_min" with
  | none =>
      have right : entries.find? "x_max" = none := by simpa [left] using together
      rw [right]
      decide +kernel
  | some leftValue =>
      obtain ⟨rightValue, right⟩ : ∃ value, entries.find? "x_max" = some value := by
        simpa [left, Option.isSome_iff_exists] using together
      obtain ⟨xMin, isMin, -⟩ := finite "x_min" (by simp) _ left
      obtain ⟨xMax, isMax, -⟩ := finite "x_max" (by simp) _ right
      simpa [left, right, isMin, isMax] using ordered

/-- The variable that is given in a section that passes its check is usable. -/
theorem usable_of_checkParser
    (passed : checkParser (.record entries) = .ok [])
    {value : Value}
    (found : entries.find? "variable" = some value) :
    ∃ variableName, Variable.check value = .ok variableName := by
  rw [checkParser, Value.member?_record, found, Outcome.ok_bind] at passed
  dsimp only at passed
  split at passed
  · exact ⟨_, ‹_›⟩
  · cases passed
  · cases passed

/-- What a check of the search for roots that finds no broken rule has tested. -/
theorem tests_of_checkRootFinder (passed : checkRootFinder (.record entries) = .ok []) :
    (∀ value, entries.find? "initial_guess" = some value →
        ∃ number, value.number? = some number ∧ number.isFinite? = .ok true) ∧
      (∀ value, entries.find? "tolerance" = some value →
        ∃ number, value.number? = some number ∧ number.atMost (.int 0) = false) ∧
      (∀ value, entries.find? "max_iterations" = some value → isInteger 1 value = true) ∧
      ∀ value, entries.find? "derivative_floor" = some value →
        ∃ number, value.number? = some number ∧ number.less (.int 0) = false := by
  simp only [checkRootFinder, Outcome.bind_eq_ok_iff, Outcome.pure_eq_ok, Except.ok.injEq,
    List.append_eq_nil_iff] at passed
  obtain ⟨_, guess, _, tolerance, _, rounds, _, floor, ⟨⟨rfl, rfl⟩, rfl⟩, rfl⟩ := passed
  rw [rule_eq_nil_iff] at guess
  rw [simpleRule_eq_nil_iff] at tolerance rounds floor
  exact ⟨fun value found => isFinite_eq_true_iff.mp (finite_of_isRate (guess value found)),
    fun value found => isNotAtMost_iff.mp (tolerance value found), rounds,
    fun value found => isNotBelow_iff.mp (floor value found)⟩

theorem accepted_readRootFinder (passed : checkRootFinder (.record entries) = .ok []) :
    (readRootFinder entries).Accepted := by
  obtain ⟨guess, tolerance, rounds, floor⟩ := tests_of_checkRootFinder passed
  exact
    { initialGuess := numberOr_of_tested guess rfl
      tolerance := numberOr_of_tested tolerance (by decide +kernel)
      maxIterations := Int.ofNat_lt.mpr (le_integerOr_of_tested rounds (by decide))
      derivativeFloor := numberOr_of_tested floor (by decide +kernel) }

/-- What a check of the steps of calculus that finds no broken rule has tested. -/
theorem tests_of_checkCalculus (passed : checkCalculus (.record entries) = .ok []) :
    (∀ field ∈ ["derivative_step", "limit_step", "limit_tolerance"], ∀ value,
        entries.find? field = some value →
          ∃ number, value.number? = some number ∧ number.atMost (.int 0) = false) ∧
      ∀ value, entries.find? "simpson_intervals" = some value → isInteger 2 value = true := by
  simp only [checkCalculus, Outcome.bind_eq_ok_iff, Outcome.pure_eq_ok, Except.ok.injEq,
    List.append_eq_nil_iff] at passed
  obtain ⟨steps, tested, _, intervals, unbroken, rfl⟩ := passed
  refine ⟨fun field isStep value found => ?_, simpleRule_eq_nil_iff.mp intervals⟩
  have unbrokenRule := Outcome.eq_nil_of_mapM_flatten tested unbroken field isStep
  exact isNotAtMost_iff.mp (simpleRule_eq_nil_iff.mp unbrokenRule value found)

theorem accepted_readCalculus (passed : checkCalculus (.record entries) = .ok []) :
    (readCalculus entries).Accepted := by
  obtain ⟨steps, intervals⟩ := tests_of_checkCalculus passed
  exact
    { derivativeStep := numberOr_of_tested (steps "derivative_step" (by simp)) (by decide +kernel)
      limitStep := numberOr_of_tested (steps "limit_step" (by simp)) (by decide +kernel)
      limitTolerance := numberOr_of_tested (steps "limit_tolerance" (by simp)) (by decide +kernel)
      simpsonIntervals := le_integerOr_of_tested intervals (by decide) }

/-- A section without settings passes its check. -/
theorem check_empty : ∀ known ∈ sections, known.2 (.record []) = .ok [] := by
  simp only [sections, List.forall_mem_cons, List.not_mem_nil, false_implies, implies_true,
    and_true]
  exact ⟨rfl, rfl, rfl, rfl, rfl⟩

/-- A section that is read has passed its check, also one that is missing. -/
theorem check_sectionEntries
    {merged entries : Entries}
    (passed : check (.record merged) = .ok [])
    {name : String}
    {checkSection : Value → CheckResult}
    (isSection : (name, checkSection) ∈ sections)
    (isRead : sectionEntries merged name = .ok entries) :
    checkSection (.record entries) = .ok [] := by
  obtain ⟨results, checked, joined⟩ := Outcome.bind_eq_ok_iff.mp passed
  have sectionPassed :=
    Outcome.eq_nil_of_mapM_flatten checked (Except.ok.inj joined) _ isSection
  dsimp only at sectionPassed
  rw [Value.member?_record, Outcome.ok_bind] at sectionPassed
  rw [sectionEntries] at isRead
  cases found : merged.find? name with
  | none =>
      rw [found] at isRead
      cases isRead
      exact check_empty _ isSection
  | some given =>
      rw [found] at isRead sectionPassed
      cases given with
      | record given =>
          cases isRead
          exact sectionPassed
      | _ => cases isRead

/-! ## All settings -/

/-- What the check has found of settings. -/
structure Accepted (settings : Settings) : Prop where
  sampler : settings.sampler.Accepted
  rootFinder : settings.rootFinder.Accepted
  calculus : settings.calculus.Accepted

variable
  {document : Document}
  {profile : Option Key}
  {overrides : Value}
  {settings : Settings}
  {merged : Entries}

/-- The settings that are loaded are read from sections that pass their checks. -/
theorem exists_sections_of_load
    (mergedTo : merge document profile overrides = .ok merged)
    (loaded : load document profile overrides = .ok settings) :
    (∃ entries, sectionEntries merged "sampler" = .ok entries ∧
        checkSampler (.record entries) = .ok [] ∧ settings.sampler = readSampler entries) ∧
      (∃ entries, sectionEntries merged "root_finder" = .ok entries ∧
        checkRootFinder (.record entries) = .ok [] ∧
          settings.rootFinder = readRootFinder entries) ∧
      ∃ entries, sectionEntries merged "calculus" = .ok entries ∧
        checkCalculus (.record entries) = .ok [] ∧ settings.calculus = readCalculus entries := by
  obtain ⟨_, same, passed, settled⟩ := load_eq_ok_iff.mp loaded
  rw [mergedTo] at same
  cases same
  simp only [read, Outcome.bind_eq_ok_iff, Outcome.pure_eq_ok, Except.ok.injEq] at settled
  obtain ⟨_, -, sampler, samplerRead, rootFinder, rootFinderRead, calculus, calculusRead, _, -,
    rfl⟩ := settled
  exact
    ⟨⟨sampler, samplerRead, check_sectionEntries passed (by simp [sections]) samplerRead, rfl⟩,
      ⟨rootFinder, rootFinderRead,
        check_sectionEntries passed (by simp [sections]) rootFinderRead, rfl⟩,
      ⟨calculus, calculusRead, check_sectionEntries passed (by simp [sections]) calculusRead, rfl⟩⟩

/-- The settings that are loaded have been accepted. -/
theorem accepted_of_load (loaded : load document profile overrides = .ok settings) :
    settings.Accepted := by
  obtain ⟨merged, mergedTo, -, -⟩ := load_eq_ok_iff.mp loaded
  obtain ⟨⟨sampler, -, samplerPassed, isSampler⟩, ⟨rootFinder, -, rootFinderPassed, isRootFinder⟩,
    ⟨calculus, -, calculusPassed, isCalculus⟩⟩ := exists_sections_of_load mergedTo loaded
  exact
    { sampler := isSampler ▸ accepted_readSampler samplerPassed
      rootFinder := isRootFinder ▸ accepted_readRootFinder rootFinderPassed
      calculus := isCalculus ▸ accepted_readCalculus calculusPassed }

/-- Merged settings whose sampler gives both bounds of the window, or neither. -/
def BoundsTogether (merged : Entries) : Prop :=
  ∀ entries : Entries, sectionEntries merged "sampler" = .ok entries →
    ((entries.find? "x_min").isSome ↔ (entries.find? "x_max").isSome)

/-- The bounds of the plot window are in order when the settings give both or neither. -/
theorem ordered_of_load
    (mergedTo : merge document profile overrides = .ok merged)
    (loaded : load document profile overrides = .ok settings)
    (together : BoundsTogether merged) :
    Number.atMost settings.sampler.xMax settings.sampler.xMin = false := by
  obtain ⟨⟨entries, isRead, passed, isSampler⟩, -⟩ := exists_sections_of_load mergedTo loaded
  rw [isSampler]
  exact ordered_readSampler passed (together entries isRead)

end Settings

end Calculator
