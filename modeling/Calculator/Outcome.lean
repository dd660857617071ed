/-!
# Outcomes

How a computation that may fail comes to succeed: each of its parts does, in
order, and hands its result to the next.
-/

namespace Calculator
namespace Outcome

variable {ε ε' β γ : Type}

@[simp] theorem ok_bind (x : β) (next : β → Except ε γ) :
    (Except.ok x >>= next) = next x := rfl

@[simp] theorem error_bind (error : ε) (next : β → Except ε γ) :
    ((Except.error error : Except ε β) >>= next) = .error error := rfl

@[simp] theorem mapError_ok (f : ε → ε') (x : β) :
    (Except.ok x : Except ε β).mapError f = .ok x := rfl

@[simp] theorem mapError_error (f : ε → ε') (error : ε) :
    (Except.error error : Except ε β).mapError f = .error (f error) := rfl

@[simp] theorem pure_eq_ok (x : β) : (pure x : Except ε β) = .ok x := rfl

/-- Two computations in a row succeed when the first does and the second does
on its result. -/
theorem bind_eq_ok_iff {first : Except ε β} {next : β → Except ε γ} {y : γ} :
    first >>= next = .ok y ↔ ∃ x, first = .ok x ∧ next x = .ok y := by
  cases first with
  | error error => simp
  | ok x => simp

/-- Two computations in a row fail where the first does, or where the second
does on its result. -/
theorem bind_eq_error_iff {first : Except ε β} {next : β → Except ε γ} {error : ε} :
    first >>= next = .error error ↔
      first = .error error ∨ ∃ x, first = .ok x ∧ next x = .error error := by
  cases first with
  | error other => simp
  | ok x => simp

theorem map_eq_ok_iff {computation : Except ε β} {f : β → γ} {y : γ} :
    computation.map f = .ok y ↔ ∃ x, computation = .ok x ∧ f x = y := by
  cases computation with
  | error error => simp [Except.map]
  | ok x => simp [Except.map]

theorem map_eq_error_iff {computation : Except ε β} {f : β → γ} {error : ε} :
    computation.map f = .error error ↔ computation = .error error := by
  cases computation with
  | error other => simp [Except.map]
  | ok x => simp [Except.map]

/-- Computations with the same results behind a map that tells values apart are the same. -/
theorem map_injective
    {f : β → γ}
    (injective : ∀ x y, f x = f y → x = y)
    {computation other : Except ε β}
    (same : computation.map f = other.map f) :
    computation = other := by
  cases computation with
  | error error =>
      cases other with
      | error error' => exact congrArg Except.error (Except.error.inj same)
      | ok y => cases same
  | ok x =>
      cases other with
      | error error => cases same
      | ok y => exact congrArg Except.ok (injective x y (Except.ok.inj same))

theorem mapError_eq_ok_iff {computation : Except ε β} {f : ε → ε'} {x : β} :
    computation.mapError f = .ok x ↔ computation = .ok x := by
  constructor
  · intro succeeds
    cases computation with
    | error error => cases succeeds
    | ok y =>
        cases succeeds
        rfl
  · rintro rfl
    rfl

theorem mapError_eq_error_iff {computation : Except ε β} {f : ε → ε'} {error : ε'} :
    computation.mapError f = .error error ↔
      ∃ cause, computation = .error cause ∧ f cause = error := by
  constructor
  · intro fails
    cases computation with
    | ok x => cases fails
    | error cause =>
        cases fails
        exact ⟨cause, rfl, rfl⟩
  · rintro ⟨cause, rfl, rfl⟩
    rfl

/-- A computation that succeeds on each entry of a list succeeds on the list. -/
theorem mapM_eq_ok
    {list : List β}
    {computation : β → Except ε γ}
    {f : β → γ}
    (each : ∀ x, computation x = .ok (f x)) :
    list.mapM computation = .ok (list.map f) := by
  induction list with
  | nil => rfl
  | cons x rest restHypothesis =>
      rw [List.mapM_cons, each, restHypothesis]
      rfl

/-- Computations that agree on each entry of a list agree on the list. -/
theorem mapM_congr
    {list : List β}
    {computation other : β → Except ε γ}
    (each : ∀ x ∈ list, computation x = other x) :
    list.mapM computation = list.mapM other := by
  induction list with
  | nil => rfl
  | cons x rest restHypothesis =>
      obtain ⟨first, others⟩ := List.forall_mem_cons.mp each
      rw [List.mapM_cons, List.mapM_cons, first, restHypothesis others]

/-- Two computations in a row succeed when the first does and then the second. -/
theorem exists_bind_iff {first : Except ε β} {next : β → Except ε γ} :
    (∃ y, first >>= next = .ok y) ↔ ∃ x, first = .ok x ∧ ∃ y, next x = .ok y := by
  cases first with
  | error error => simp
  | ok x => simp

/-- A computation succeeds on a list when it does on each entry. -/
theorem exists_mapM_iff
    {list : List β}
    {computation : β → Except ε γ} :
    (∃ results, list.mapM computation = .ok results) ↔
      ∀ x ∈ list, ∃ y, computation x = .ok y := by
  induction list with
  | nil => simp
  | cons x rest restHypothesis =>
      simp [List.mapM_cons, exists_bind_iff, ← restHypothesis]

/-- A fold succeeds on a list when every step does. -/
theorem exists_foldlM
    {step : γ → β → Except ε γ}
    (total : ∀ state x, ∃ next, step state x = .ok next)
    (list : List β)
    (start : γ) :
    ∃ last, list.foldlM step start = .ok last := by
  induction list generalizing start with
  | nil => exact ⟨start, rfl⟩
  | cons x rest restHypothesis =>
      obtain ⟨next, stepped⟩ := total start x
      obtain ⟨last, folded⟩ := restHypothesis next
      exact ⟨last, by rw [List.foldlM_cons, stepped, ok_bind, folded]⟩

/-- Lists that are computed for each entry and join to nothing are all empty. -/
theorem eq_nil_of_mapM_flatten
    {list : List β}
    {computation : β → Except ε (List γ)}
    {results : List (List γ)}
    (computed : list.mapM computation = .ok results)
    (empty : results.flatten = []) :
    ∀ x ∈ list, computation x = .ok [] := by
  induction list generalizing results with
  | nil => simp
  | cons x rest restHypothesis =>
      rw [List.mapM_cons] at computed
      obtain ⟨first, isFirst, computed⟩ := bind_eq_ok_iff.mp computed
      obtain ⟨others, areOthers, same⟩ := bind_eq_ok_iff.mp computed
      cases same
      obtain ⟨rfl, othersEmpty⟩ := List.append_eq_nil_iff.mp empty
      exact List.forall_mem_cons.mpr ⟨isFirst, restHypothesis areOthers othersEmpty⟩

/-- A computation whose result passes a test succeeds. -/
theorem exists_of_any
    {computation : Except ε β}
    {test : β → Bool}
    (tested : computation.toOption.any test = true) :
    ∃ x, computation = .ok x ∧ test x = true := by
  cases computation with
  | error error => cases tested
  | ok x => exact ⟨x, rfl, tested⟩

theorem toOption_eq_some_iff {computation : Except ε β} {x : β} :
    computation.toOption = some x ↔ computation = .ok x := by
  cases computation with
  | error error => exact ⟨nofun, nofun⟩
  | ok y => exact ⟨fun same => congrArg _ (Option.some.inj same), fun same => congrArg _ same⟩

end Outcome
end Calculator
