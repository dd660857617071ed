/-!
# Parts of texts

Texts between marks, and texts within texts.
-/

namespace Calculator

/-- The parts of a text between the marks. -/
def separated (mark : Char) : List Char → List (List Char)
  | [] => [[]]
  | c :: rest =>
      if c = mark then [] :: separated mark rest
      else
        match separated mark rest with
        | [] => [[c]]
        | part :: others => (c :: part) :: others

theorem separated_ne_nil (mark : Char) (text : List Char) : separated mark text ≠ [] := by
  cases text with
  | nil => simp [separated]
  | cons c rest =>
      unfold separated
      split
      · simp
      · split <;> simp

/-- A text has one part more than it has marks. -/
theorem length_separated (mark : Char) (text : List Char) :
    (separated mark text).length = text.count mark + 1 := by
  induction text with
  | nil => rfl
  | cons c rest restHypothesis =>
      by_cases same : c = mark
      · simp [separated, same, restHypothesis]
      · cases parts : separated mark rest with
        | nil => exact absurd parts (separated_ne_nil mark rest)
        | cons part others =>
            rw [parts] at restHypothesis
            simp [separated, same, parts, ← restHypothesis]

/-- A text without marks is one part. -/
theorem separated_of_not_mem {mark : Char} {text : List Char} (absent : mark ∉ text) :
    separated mark text = [text] := by
  induction text with
  | nil => rfl
  | cons c rest restHypothesis =>
      rw [List.mem_cons, not_or] at absent
      rw [separated, if_neg (Ne.symm absent.1), restHypothesis absent.2]

/-- A part without marks comes before what is behind the first mark. -/
theorem separated_append {mark : Char} {part : List Char} (absent : mark ∉ part)
    (rest : List Char) :
    separated mark (part ++ mark :: rest) = part :: separated mark rest := by
  induction part with
  | nil => rw [List.nil_append, separated, if_pos rfl]
  | cons c part partHypothesis =>
      rw [List.mem_cons, not_or] at absent
      rw [List.cons_append, separated, if_neg (Ne.symm absent.1), partHypothesis absent.2]

/-- The parts come back from the text that joins them when none of them has a mark. -/
theorem separated_intercalate
    {mark : Char}
    {parts : List (List Char)}
    (nonempty : parts ≠ [])
    (absent : ∀ part ∈ parts, mark ∉ part) :
    separated mark (List.intercalate [mark] parts) = parts := by
  induction parts with
  | nil => exact absurd rfl nonempty
  | cons part others othersHypothesis =>
      have partAbsent := absent part List.mem_cons_self
      cases others with
      | nil => rw [List.intercalate_singleton, separated_of_not_mem partAbsent]
      | cons next others =>
          rw [List.intercalate_cons_cons, List.append_assoc, List.singleton_append,
            separated_append partAbsent, othersHypothesis (List.cons_ne_nil _ _)
              fun part present => absent part (List.mem_cons_of_mem _ present)]

/-- Whether a text holds another one. -/
def holdsPart (part : List Char) : List Char → Bool
  | [] => part.isEmpty
  | c :: rest => part.isPrefixOf (c :: rest) || holdsPart part rest

end Calculator
