import Calculator.Plot.Sample

/-!
# What a sweep joins

A sweep over the indices below a count keeps them in order, and joins two of
them when all indices between them are kept and no step between them is a jump.
-/

namespace Calculator

/-- All indices from the first to the last are kept, and no step on the way is a
jump. -/
def Linked
    (keeps : Nat → Bool)
    (jumps : Nat → Nat → Bool)
    (first last : Nat) : Prop :=
  (∀ index, first ≤ index → index ≤ last → keeps index = true) ∧
    ∀ index, first ≤ index → index < last → jumps index (index + 1) = false

/-- Runs that hold the kept indices below a count in their order, two of them in
the same run if and only if they are linked. -/
structure IsSegmentation
    (keeps : Nat → Bool)
    (jumps : Nat → Nat → Bool)
    (count : Nat)
    (runs : List (List Nat)) : Prop where
  nonempty : ∀ run ∈ runs, run ≠ []
  flatten_eq : runs.flatten = (List.range count).filter keeps
  together_iff : ∀ first last, first ≤ last → last < count →
    ((∃ run ∈ runs, first ∈ run ∧ last ∈ run) ↔ Linked keeps jumps first last)

variable {keeps : Nat → Bool} {jumps : Nat → Nat → Bool} {count : Nat}

theorem IsSegmentation.kept
    {runs : List (List Nat)}
    (isSegmentation : IsSegmentation keeps jumps count runs)
    {run : List Nat}
    (present : run ∈ runs)
    {index : Nat}
    (inRun : index ∈ run) :
    keeps index = true := by
  have inRuns : index ∈ runs.flatten := List.mem_flatten.mpr ⟨run, present, inRun⟩
  rw [isSegmentation.flatten_eq] at inRuns
  exact (List.mem_filter.mp inRuns).2

theorem linked_self
    (index : Nat) :
    Linked keeps jumps index index ↔ keeps index = true := by
  constructor
  · intro linked
    exact linked.1 index (Nat.le_refl _) (Nat.le_refl _)
  · intro kept
    refine ⟨?_, fun between above below => by omega⟩
    intro between above below
    rwa [Nat.le_antisymm below above]

/-- A link reaches one step further where the next index is kept and not beyond
a jump. -/
theorem linked_succ
    {first last : Nat}
    (ordered : first ≤ last) :
    Linked keeps jumps first (last + 1) ↔
      Linked keeps jumps first last ∧ keeps (last + 1) = true ∧
        jumps last (last + 1) = false := by
  constructor
  · rintro ⟨kept, smooth⟩
    refine ⟨⟨?_, ?_⟩, kept (last + 1) (by omega) (Nat.le_refl _), smooth last ordered (by omega)⟩
    · exact fun index above below => kept index above (by omega)
    · exact fun index above below => smooth index above (by omega)
  · rintro ⟨⟨kept, smooth⟩, keptNext, smoothNext⟩
    constructor
    · intro index above below
      rcases Nat.lt_or_eq_of_le below with before | rfl
      · exact kept index above (by omega)
      · exact keptNext
    · intro index above below
      rcases Nat.lt_or_eq_of_le (Nat.le_of_lt_succ below) with before | rfl
      · exact smooth index above before
      · exact smoothNext

theorem Linked.kept_last
    {first last : Nat}
    (ordered : first ≤ last)
    (linked : Linked keeps jumps first last) :
    keeps last = true :=
  linked.1 last ordered (Nat.le_refl _)

namespace Sweep

/-! ## Closing the open segment -/

@[simp] theorem current_close {β : Type} (sweep : Sweep β) : sweep.close.current = [] := by
  rw [close]
  split
  · rename_i isEmpty
    exact List.isEmpty_iff.mp isEmpty
  · rfl

/-- Closing the open segment takes it among the closed ones. -/
theorem mem_closed_close
    {β : Type}
    {sweep : Sweep β}
    {run : List β} :
    run ∈ sweep.close.closed ↔
      run ∈ sweep.closed ∨ run = sweep.current.reverse ∧ sweep.current ≠ [] := by
  rw [close]
  split
  · rename_i isEmpty
    simp [List.isEmpty_iff.mp isEmpty]
  · rename_i notEmpty
    have nonempty : sweep.current ≠ [] := by simpa using notEmpty
    simp [nonempty, or_comm]

/-- All points taken so far, in order. -/
def taken {β : Type} (sweep : Sweep β) : List β :=
  sweep.closed.reverse.flatten ++ sweep.current.reverse

@[simp] theorem taken_close {β : Type} (sweep : Sweep β) : sweep.close.taken = sweep.taken := by
  rw [taken, taken, current_close, close]
  split
  · rename_i isEmpty
    simp [List.isEmpty_iff.mp isEmpty]
  · simp

@[simp] theorem taken_push {β : Type} (sweep : Sweep β) (point : β) :
    (sweep.push point).taken = sweep.taken ++ [point] := by
  simp [taken, push]

/-- Two points are in the same segment. -/
def Joins {β : Type} (sweep : Sweep β) (first last : β) : Prop :=
  (∃ run ∈ sweep.closed, first ∈ run ∧ last ∈ run) ∨
    first ∈ sweep.current ∧ last ∈ sweep.current

@[simp] theorem joins_close
    {β : Type}
    (sweep : Sweep β)
    (first last : β) :
    sweep.close.Joins first last ↔ sweep.Joins first last := by
  simp only [Joins, mem_closed_close, current_close]
  constructor
  · rintro (⟨run, closed | ⟨rfl, -⟩, firstIn, lastIn⟩ | ⟨impossible, -⟩)
    · exact Or.inl ⟨run, closed, firstIn, lastIn⟩
    · exact Or.inr ⟨List.mem_reverse.mp firstIn, List.mem_reverse.mp lastIn⟩
    · cases impossible
  · rintro (⟨run, closed, firstIn, lastIn⟩ | ⟨firstIn, lastIn⟩)
    · exact Or.inl ⟨run, Or.inl closed, firstIn, lastIn⟩
    · exact Or.inl ⟨_, Or.inr ⟨rfl, List.ne_nil_of_mem firstIn⟩,
        List.mem_reverse.mpr firstIn, List.mem_reverse.mpr lastIn⟩

theorem Joins.mem_taken
    {β : Type}
    {sweep : Sweep β}
    {first last : β}
    (joins : sweep.Joins first last) :
    last ∈ sweep.taken := by
  rcases joins with ⟨run, closed, -, lastIn⟩ | ⟨-, lastIn⟩
  · exact List.mem_append_left _ (List.mem_flatten.mpr ⟨run, List.mem_reverse.mpr closed, lastIn⟩)
  · exact List.mem_append_right _ (List.mem_reverse.mpr lastIn)

/-! ## What each step preserves -/

/-- What has been made of the indices below a count: no closed segment is empty,
the kept indices are taken in order, and the linked ones are joined. -/
structure Tidy
    (keeps : Nat → Bool)
    (jumps : Nat → Nat → Bool)
    (count : Nat)
    (sweep : Sweep Nat) : Prop where
  nonempty : ∀ run ∈ sweep.closed, run ≠ []
  taken_eq : sweep.taken = (List.range count).filter keeps
  joins_iff : ∀ first last, first ≤ last → last < count →
    (sweep.Joins first last ↔ Linked keeps jumps first last)

/-- A tidy sweep whose open segment holds the indices that the next one might be
linked to. -/
structure Ready
    (keeps : Nat → Bool)
    (jumps : Nat → Nat → Bool)
    (count : Nat)
    (sweep : Sweep Nat) : Prop extends Tidy keeps jumps count sweep where
  latest : ∀ last ∈ sweep.current.head?, last + 1 = count
  mem_current_iff : ∀ first,
    first ∈ sweep.current ↔ first < count ∧ Linked keeps jumps first (count - 1)

variable {sweep : Sweep Nat}

theorem Tidy.lt_of_mem_taken
    (tidy : Tidy keeps jumps count sweep)
    {index : Nat}
    (mem : index ∈ sweep.taken) :
    index < count := by
  rw [tidy.taken_eq] at mem
  exact List.mem_range.mp (List.mem_filter.mp mem).1

theorem Tidy.close
    (tidy : Tidy keeps jumps count sweep) :
    Tidy keeps jumps count sweep.close where
  nonempty := by
    intro run closed
    rcases mem_closed_close.mp closed with closed | ⟨rfl, nonempty⟩
    · exact tidy.nonempty run closed
    · simpa using nonempty
  taken_eq := by rw [taken_close, tidy.taken_eq]
  joins_iff := by
    intro first last ordered below
    rw [joins_close, tidy.joins_iff first last ordered below]

/-- An index that is not kept is passed over. -/
theorem Tidy.skip
    (tidy : Tidy keeps jumps count sweep)
    (dropped : keeps count = false) :
    Tidy keeps jumps (count + 1) sweep where
  nonempty := tidy.nonempty
  taken_eq := by simp [List.range_succ, List.filter_append, tidy.taken_eq, dropped]
  joins_iff := by
    intro first last ordered below
    rcases Nat.lt_or_eq_of_le (Nat.le_of_lt_succ below) with before | rfl
    · exact tidy.joins_iff first last ordered before
    · constructor
      · intro joins
        exact absurd (tidy.lt_of_mem_taken joins.mem_taken) (Nat.lt_irrefl last)
      · intro linked
        rw [linked.kept_last ordered] at dropped
        cases dropped

/-- Putting an index into the open segment leaves the others there as they were. -/
theorem mem_current_push_of_ne
    {point index : Nat}
    (other : index ≠ point) :
    index ∈ (sweep.push point).current ↔ index ∈ sweep.current := by
  simp [Sweep.push, other]

theorem joins_push_of_ne
    {point first last : Nat}
    (firstOther : first ≠ point)
    (lastOther : last ≠ point) :
    (sweep.push point).Joins first last ↔ sweep.Joins first last := by
  rw [Joins, Joins, mem_current_push_of_ne firstOther, mem_current_push_of_ne lastOther]
  rfl

/-- What is joined to the index that has just been put into the open segment is
there, too. -/
theorem Tidy.joins_push_self
    (tidy : Tidy keeps jumps count sweep)
    (first : Nat) :
    (sweep.push count).Joins first count ↔ first ∈ (sweep.push count).current := by
  constructor
  · rintro (⟨run, closed, -, inRun⟩ | ⟨firstIn, -⟩)
    · have taken : count ∈ sweep.taken :=
        Joins.mem_taken (Or.inl ⟨run, closed, inRun, inRun⟩)
      exact absurd (tidy.lt_of_mem_taken taken) (Nat.lt_irrefl count)
    · exact firstIn
  · intro firstIn
    exact Or.inr ⟨firstIn, List.mem_cons_self⟩

/-- An index that is kept is put into the open segment when that holds just the
indices it is linked to. -/
theorem Tidy.push
    (tidy : Tidy keeps jumps count sweep)
    (kept : keeps count = true)
    (reaches : ∀ first < count, first ∈ sweep.current ↔ Linked keeps jumps first count) :
    Ready keeps jumps (count + 1) (sweep.push count) := by
  have mem_iff (first : Nat) (ordered : first ≤ count) :
      first ∈ (sweep.push count).current ↔ Linked keeps jumps first count := by
    rcases Nat.lt_or_eq_of_le ordered with before | rfl
    · rw [mem_current_push_of_ne (Nat.ne_of_lt before), reaches first before]
    · rw [linked_self]
      exact iff_of_true List.mem_cons_self kept
  constructor
  · constructor
    · exact tidy.nonempty
    · simp [List.range_succ, List.filter_append, tidy.taken_eq, kept]
    · intro first last ordered below
      rcases Nat.lt_or_eq_of_le (Nat.le_of_lt_succ below) with before | rfl
      · rw [joins_push_of_ne (by omega) (by omega), tidy.joins_iff first last ordered before]
      · rw [tidy.joins_push_self, mem_iff first ordered]
  · rintro last ⟨⟩
    rfl
  · intro first
    rw [Nat.add_sub_cancel]
    constructor
    · intro firstIn
      have ordered : first ≤ count := by
        rcases List.mem_cons.mp firstIn with rfl | inCurrent
        · exact Nat.le_refl first
        · have taken : first ∈ sweep.taken := Joins.mem_taken (Or.inr ⟨inCurrent, inCurrent⟩)
          exact Nat.le_of_lt (tidy.lt_of_mem_taken taken)
      exact ⟨Nat.lt_succ_of_le ordered, (mem_iff first ordered).mp firstIn⟩
    · rintro ⟨below, linked⟩
      exact (mem_iff first (Nat.le_of_lt_succ below)).mpr linked

/-- The next index breaks a sweep whose latest index it lies beyond a jump from. -/
theorem Ready.breaks_eq
    {last : Nat}
    (ready : Ready keeps jumps (last + 1) sweep)
    (nonempty : sweep.current ≠ []) :
    sweep.breaks jumps (last + 1) = jumps last (last + 1) := by
  rw [breaks]
  cases current : sweep.current with
  | nil => exact absurd current nonempty
  | cons latest rest =>
      have same : latest + 1 = last + 1 := ready.latest latest (by rw [current]; rfl)
      rw [Nat.succ.inj same]

/-- The next index, if it is kept, is linked to the indices of the open segment
unless it breaks the sweep, and to no others. -/
theorem Ready.linked_iff
    (ready : Ready keeps jumps count sweep)
    (kept : keeps count = true)
    {first : Nat}
    (before : first < count) :
    Linked keeps jumps first count ↔
      first ∈ sweep.current ∧ sweep.breaks jumps count = false := by
  obtain ⟨last, rfl⟩ : ∃ last, count = last + 1 := ⟨count - 1, by omega⟩
  have inCurrent := ready.mem_current_iff first
  rw [Nat.add_sub_cancel] at inCurrent
  rw [linked_succ (Nat.le_of_lt_succ before)]
  constructor
  · rintro ⟨linked, -, smooth⟩
    have mem : first ∈ sweep.current := inCurrent.mpr ⟨before, linked⟩
    exact ⟨mem, by rw [ready.breaks_eq (List.ne_nil_of_mem mem), smooth]⟩
  · rintro ⟨mem, unbroken⟩
    rw [ready.breaks_eq (List.ne_nil_of_mem mem)] at unbroken
    exact ⟨(inCurrent.mp mem).2, kept, unbroken⟩

/-- One step makes a ready sweep ready for the next index. -/
theorem Ready.take
    (ready : Ready keeps jumps count sweep) :
    Ready keeps jumps (count + 1) (sweep.take keeps jumps count) := by
  rw [Sweep.take]
  cases kept : keeps count with
  | false =>
      have skipped : Tidy keeps jumps (count + 1) sweep.close := ready.toTidy.close.skip kept
      refine ⟨skipped, by simp, ?_⟩
      intro first
      rw [Nat.add_sub_cancel]
      constructor
      · simp
      · rintro ⟨below, linked⟩
        rw [linked.kept_last (Nat.le_of_lt_succ below)] at kept
        cases kept
  | true =>
      cases broken : sweep.breaks jumps count with
      | true =>
          refine ready.toTidy.close.push kept fun first before => ?_
          rw [ready.linked_iff kept before, current_close, broken]
          simp
      | false =>
          refine ready.toTidy.push kept fun first before => ?_
          rw [ready.linked_iff kept before, broken]
          simp

theorem ready_start : Ready keeps jumps 0 start := by
  constructor
  · constructor
    · simp [start]
    · simp [start, taken]
    · intro first last ordered below
      exact absurd below (Nat.not_lt_zero last)
  · simp [start]
  · simp [start]

/-- A sweep over the indices below a count is ready for the count. -/
theorem ready_across (count : Nat) :
    Ready keeps jumps count (across keeps jumps (List.range count)) := by
  induction count with
  | zero => exact ready_start
  | succ count countHypothesis =>
      rw [across, List.range_succ, List.foldl_append]
      exact countHypothesis.take

/-- The segments of a sweep over indices are the runs of linked ones. -/
theorem isSegmentation_across (count : Nat) :
    IsSegmentation keeps jumps count (across keeps jumps (List.range count)).segments := by
  have closed : Tidy keeps jumps count (across keeps jumps (List.range count)).close :=
    (ready_across count).toTidy.close
  constructor
  · intro run present
    exact closed.nonempty run (List.mem_reverse.mp present)
  · have taken := closed.taken_eq
    rwa [Sweep.taken, current_close, List.reverse_nil, List.append_nil] at taken
  · intro first last ordered below
    rw [← closed.joins_iff first last ordered below]
    simp [segments, Joins]

/-! ## Sweeps over what indices stand for -/

variable {β : Type} {label : Nat → β}

/-- Replace the indices of a sweep by what they stand for. -/
def map (label : Nat → β) (sweep : Sweep Nat) : Sweep β :=
  ⟨sweep.closed.map (List.map label), sweep.current.map label⟩

theorem close_map (label : Nat → β) (sweep : Sweep Nat) :
    (sweep.map label).close = sweep.close.map label := by
  rw [close, close]
  cases current : sweep.current with
  | nil => simp [map, current]
  | cons latest rest => simp [map, current]

theorem breaks_map
    (jumps : β → β → Bool)
    (sweep : Sweep Nat)
    (index : Nat) :
    (sweep.map label).breaks jumps (label index) =
      sweep.breaks (fun i j => jumps (label i) (label j)) index := by
  rw [breaks, breaks]
  cases current : sweep.current with
  | nil => simp [map, current]
  | cons latest rest => simp [map, current]

theorem take_map
    (keeps : β → Bool)
    (jumps : β → β → Bool)
    (sweep : Sweep Nat)
    (index : Nat) :
    (sweep.map label).take keeps jumps (label index) =
      (sweep.take (fun i => keeps (label i)) (fun i j => jumps (label i) (label j)) index).map
        label := by
  rw [take, take, breaks_map, close_map]
  split
  · rfl
  split
  · rfl
  · rfl

/-- A sweep over what indices stand for does what the one over the indices does. -/
theorem across_map
    (keeps : β → Bool)
    (jumps : β → β → Bool)
    (indices : List Nat) :
    across keeps jumps (indices.map label) =
      (across (fun i => keeps (label i)) (fun i j => jumps (label i) (label j)) indices).map
        label := by
  have resumed (sweep : Sweep Nat) :
      (indices.map label).foldl (take keeps jumps) (sweep.map label) =
        (indices.foldl (take (fun i => keeps (label i)) fun i j => jumps (label i) (label j))
          sweep).map label := by
    induction indices generalizing sweep with
    | nil => rfl
    | cons index rest restHypothesis =>
        rw [List.map_cons, List.foldl_cons, take_map, restHypothesis]
        rfl
  exact resumed start

theorem segments_map (label : Nat → β) (sweep : Sweep Nat) :
    (sweep.map label).segments = sweep.segments.map (List.map label) := by
  rw [segments, segments, close_map, map, List.map_reverse]

end Sweep
end Calculator
