import Calculator.Failure.Basic
import Calculator.Proofs.Decimal.RoundTrip
import Mathlib.Data.List.Forall2

/-!
# Reading cash flows

A text of numbers between commas is a series when it has a comma and every entry writes a finite
number. Else the first entry that does not is told, and where there is none the single entry is too
few. The texts of finite doubles between commas are read as these doubles.
-/

namespace Calculator
namespace CashFlow

open Scalar

section Entries

variable {α : Type} [Scalar α]

/-- An entry, without the blanks around it, writes a finite number. -/
def Writes (entry : List Char) (flow : α) : Prop :=
  Decimal.read? (trimmed isBlank entry) = some flow ∧ isFinite flow = true

/-- An entry that writes no finite number comes behind entries that do. -/
def IsFirstBad (α : Type) [Scalar α] (entries : List (List Char)) (index : Nat) : Prop :=
  (∃ entry, entries[index]? = some entry ∧ ∀ flow : α, ¬Writes entry flow) ∧
    ∀ earlier < index, ∃ entry, entries[earlier]? = some entry ∧ ∃ flow : α, Writes entry flow

/-- What is told of entries that are no series: the first bad one, or none where a single one is
good. -/
def Tells (α : Type) [Scalar α] (entries : List (List Char)) : Option Nat → Prop
  | some index => IsFirstBad α entries index
  | none => ∃ (entry : List Char) (flow : α), entries = [entry] ∧ Writes entry flow

theorem readEntry_eq_ok_iff {index : Nat} {entry : List Char} {flow : α} :
    readEntry index entry = .ok flow ↔ Writes entry flow := by
  rw [readEntry, Writes]
  cases (Decimal.read? (trimmed isBlank entry) : Option α) with
  | none => exact iff_of_false nofun (by rintro ⟨⟨⟩, -⟩)
  | some value =>
      dsimp only
      split
      · next finite =>
        rw [Except.ok.injEq, Option.some_inj]
        exact ⟨fun same => ⟨same, same ▸ finite⟩, And.left⟩
      · next infinite =>
        refine iff_of_false nofun ?_
        rintro ⟨same, finite⟩
        cases same
        exact infinite finite

/-- A refused entry is told by the index it was read under. -/
theorem index?_of_readEntry_error
    {index : Nat}
    {entry : List Char}
    {defect : CashFlowDefect}
    (refused : (readEntry index entry : Except CashFlowDefect α) = .error defect) :
    defect.index? = some index := by
  rw [readEntry] at refused
  split at refused
  · cases refused
    rfl
  · split at refused
    · cases refused
    · cases refused
      rfl

/-- Entries are read when each of them writes the number in its place. -/
theorem readEntries_eq_ok_iff {index : Nat} {entries : List (List Char)} {flows : List α} :
    readEntries index entries = .ok flows ↔ List.Forall₂ Writes entries flows := by
  induction entries generalizing index flows with
  | nil =>
      rw [readEntries, List.forall₂_nil_left_iff, Except.ok.injEq, eq_comm]
  | cons entry rest restHypothesis =>
      rw [readEntries, Outcome.bind_eq_ok_iff, List.forall₂_cons_left_iff]
      simp only [readEntry_eq_ok_iff, Outcome.bind_eq_ok_iff, restHypothesis, Outcome.pure_eq_ok,
        Except.ok.injEq]
      constructor
      · rintro ⟨flow, writes, others, written, rfl⟩
        exact ⟨flow, others, writes, written, rfl⟩
      · rintro ⟨flow, others, writes, written, rfl⟩
        exact ⟨flow, writes, others, written, rfl⟩

/-- Entries that are not read have a first bad one among them, and it is told. -/
theorem isFirstBad_of_readEntries_error
    {index : Nat}
    {entries : List (List Char)}
    {defect : CashFlowDefect}
    (refused : (readEntries index entries : Except CashFlowDefect (List α)) = .error defect) :
    ∃ offset, defect.index? = some (index + offset) ∧ IsFirstBad α entries offset := by
  induction entries generalizing index with
  | nil => cases refused
  | cons entry rest restHypothesis =>
      rw [readEntries, Outcome.bind_eq_error_iff] at refused
      rcases refused with refused | ⟨flow, isFlow, refused⟩
      · refine ⟨0, index?_of_readEntry_error refused, ⟨entry, rfl, fun flow writes => ?_⟩, nofun⟩
        rw [readEntry_eq_ok_iff.mpr writes] at refused
        cases refused
      · rcases Outcome.bind_eq_error_iff.mp refused with refused | ⟨flows, -, ⟨⟩⟩
        obtain ⟨offset, told, bad, before⟩ := restHypothesis refused
        refine ⟨offset + 1, by rw [told]; congr 1; omega, bad, fun earlier below => ?_⟩
        cases earlier with
        | zero => exact ⟨entry, rfl, flow, readEntry_eq_ok_iff.mp isFlow⟩
        | succ earlier => exact before earlier (Nat.lt_of_succ_lt_succ below)

end Entries

section Text

variable {α : Type} [Scalar α] {text : String}

/-- A text has two entries or more when it has a comma. -/
theorem length_lt_two_iff {flows : List α}
    (written : List.Forall₂ Writes (separated ',' text.toList) flows) :
    flows.length < 2 ↔ ',' ∉ text.toList := by
  rw [← written.length_eq, length_separated, ← List.count_eq_zero]
  omega

/-- A text is read as a series when it has a comma and its entries write the flows in their
order. -/
theorem read_eq_ok_iff {flows : List α} :
    read text = .ok flows ↔
      ',' ∈ text.toList ∧ List.Forall₂ Writes (separated ',' text.toList) flows := by
  rw [read, Outcome.mapError_eq_ok_iff, Outcome.bind_eq_ok_iff]
  simp only [readEntries_eq_ok_iff]
  constructor
  · rintro ⟨others, written, enough⟩
    have few := length_lt_two_iff written
    split at enough
    · cases enough
    · next many =>
      cases enough
      exact ⟨not_not.mp (mt few.mpr many), written⟩
  · rintro ⟨comma, written⟩
    have many := mt (length_lt_two_iff written).mp (not_not.mpr comma)
    exact ⟨flows, written, by rw [if_neg many]; rfl⟩

/-- A refused text is told with its first bad entry, or without one where its single entry is
good. -/
theorem tells_of_read_error
    {error : CashFlowError}
    (refused : (read text : Except CashFlowError (List α)) = .error error) :
    error.source = text ∧ Tells α (separated ',' text.toList) error.defect.index? := by
  rw [read, Outcome.mapError_eq_error_iff] at refused
  obtain ⟨defect, refused, rfl⟩ := refused
  refine ⟨rfl, ?_⟩
  -- Entries are counted only when all of them are good.
  rcases Outcome.bind_eq_error_iff.mp refused with refused | ⟨flows, isRead, refused⟩
  · obtain ⟨index, told, first⟩ := isFirstBad_of_readEntries_error refused
    rw [told, Nat.zero_add]
    exact first
  · have written := readEntries_eq_ok_iff.mp isRead
    split at refused
    · next few =>
      cases refused
      have comma := (length_lt_two_iff written).mp few
      rw [separated_of_not_mem comma] at written ⊢
      obtain ⟨flow, -, writes, -⟩ := List.forall₂_cons_left_iff.mp written
      exact ⟨_, flow, rfl, writes⟩
    · cases refused

end Text

/-- The text of a finite double writes it. -/
theorem writes_text {flow : Float} (finite : isFinite flow = true) :
    Writes (Double.text flow).toList flow := by
  rw [Writes, trimmed_eq fun c present => (Double.isPlain_of_mem_text finite present).notBlank]
  exact ⟨Double.read?_text finite, finite⟩

/-- The texts of finite doubles between commas are the entries. -/
theorem separated_texts {flows : List Float} (nonempty : flows ≠ [])
    (finite : ∀ flow ∈ flows, isFinite flow = true) :
    separated ',' (",".intercalate (flows.map Double.text)).toList =
      flows.map fun flow => (Double.text flow).toList := by
  rw [String.toList_intercalate, List.map_map]
  refine separated_intercalate (by simpa using nonempty) fun part present comma => ?_
  obtain ⟨flow, isFlow, rfl⟩ := List.mem_map.mp present
  exact (Double.isPlain_of_mem_text (finite flow isFlow) comma).notComma rfl

/-- The texts of two or more finite doubles between commas are read as these doubles. -/
theorem read_texts {flows : List Float} (enough : 2 ≤ flows.length)
    (finite : ∀ flow ∈ flows, isFinite flow = true) :
    read (",".intercalate (flows.map Double.text)) = .ok flows := by
  have nonempty := List.ne_nil_of_length_pos (Nat.zero_lt_of_lt enough)
  have written : List.Forall₂ Writes
      (separated ',' (",".intercalate (flows.map Double.text)).toList) flows := by
    rw [separated_texts nonempty finite, List.forall₂_map_left_iff, List.forall₂_same]
    exact fun flow present => writes_text (finite flow present)
  refine read_eq_ok_iff.mpr ⟨?_, written⟩
  by_contra absent
  exact absurd ((length_lt_two_iff written).mpr absent) (by omega)

/-- A text is read as a series of finite doubles when it has a comma and each of its entries,
without the blanks around it, writes the double in its place. Else it is refused, and its first bad
entry is told, or none where its single entry is good. The texts of two or more finite doubles
between commas are read as these doubles. -/
theorem read_series_or_refuse :
    (∀ (text : String) (flows : List Float), read text = .ok flows ↔
        ',' ∈ text.toList ∧ List.Forall₂ Writes (separated ',' text.toList) flows) ∧
      (∀ (text : String) (error : CashFlowError),
        (read text : Except CashFlowError (List Float)) = .error error →
          ∃ message index?, Tells Float (separated ',' text.toList) index? ∧
            error.report = .failure .cashFlowFormat message
              [("raw_data", .text text),
                ("index", .ofOption (fun index => .int (Int.ofNat index)) index?)]) ∧
      ∀ flows : List Float, 2 ≤ flows.length → (∀ flow ∈ flows, isFinite flow = true) →
        read (",".intercalate (flows.map Double.text)) = .ok flows := by
  refine ⟨fun text flows => read_eq_ok_iff, fun text error refused => ?_, ?_⟩
  · obtain ⟨rfl, tells⟩ := tells_of_read_error refused
    exact ⟨_, _, tells, rfl⟩
  · intro flows enough finite
    exact read_texts enough finite

/-- An outlay and a payback come back from their texts, and an entry that is missing between commas
is told. -/
theorem read_series_or_refuse_of_outlay :
    (∃ error, (read "-100,,60.5" : Except CashFlowError (List Float)) = .error error ∧
      ∃ message index?, Tells Float (separated ',' "-100,,60.5".toList) index? ∧
        error.report = .failure .cashFlowFormat message
          [("raw_data", .text "-100,,60.5"),
            ("index", .ofOption (fun index => .int (Int.ofNat index)) index?)]) ∧
      2 ≤ [(-100.0 : Float), 60.5].length ∧
      (∀ flow ∈ [(-100.0 : Float), 60.5], isFinite flow = true) ∧
      read (",".intercalate ([(-100.0 : Float), 60.5].map Double.text)) = .ok [-100.0, 60.5] := by
  obtain ⟨-, refuses, reads⟩ := read_series_or_refuse
  have refused : (read "-100,,60.5" : Except CashFlowError (List Float)) =
      .error ⟨"-100,,60.5", .notNumber 1 ""⟩ := by
    rfl
  have finite : ∀ flow ∈ [(-100.0 : Float), 60.5], isFinite flow = true := by
    intro flow present
    rcases List.mem_pair.mp present with rfl | rfl <;> rfl
  exact ⟨⟨_, refused, refuses _ _ refused⟩, le_rfl, finite, reads _ le_rfl finite⟩

end CashFlow
end Calculator
