import Calculator.Proofs.Settings.Parameter

/-!
# Records along paths

A path of keys leads through nested records. What stands at its end under a layer comes from
the layer or, where the layer leaves the path open, from what lies below. Laying the same layer
once more changes nothing.
-/

namespace Calculator

/-- A value whose records have distinct keys, down to the innermost. -/
inductive Value.IsNested : Value → Prop
  | plain
      {value : Value}
      (notRecord : ¬value.IsRecord) :
      IsNested value
  | record
      {entries : Entries}
      (distinct : entries.HasDistinctKeys)
      (each : ∀ entry ∈ entries, IsNested entry.2) :
      IsNested (.record entries)

namespace Entries

variable {base upper : Entries} {key : Key} {value : Value}

/-! ## One level -/

theorem put_eq_self (found : base.find? key = some value) : base.put key value = base := by
  induction base with
  | nil => cases found
  | cons entry rest restHypothesis =>
      rw [find?] at found
      rw [put]
      split at found
      · rename_i same
        cases found
        rw [if_pos same]
      · rename_i different
        rw [if_neg different, restHypothesis found]

theorem put_of_absent
    (absent : key.identity ∉ base.keys.map Key.identity) :
    base.put key value = base ++ [(key, value)] := by
  induction base with
  | nil => rfl
  | cons entry rest restHypothesis =>
      rw [keys_cons, List.map_cons, List.mem_cons, not_or] at absent
      rw [put, if_neg (Ne.symm absent.1), restHypothesis absent.2]
      rfl

theorem find?_of_mem
    (distinct : upper.HasDistinctKeys)
    (present : (key, value) ∈ upper) :
    upper.find? key = some value := by
  induction upper with
  | nil => cases present
  | cons entry rest restHypothesis =>
      obtain ⟨absent, restDistinct⟩ := List.nodup_cons.mp distinct
      rw [find?]
      rcases List.mem_cons.mp present with rfl | later
      · rw [if_pos rfl]
      · rw [if_neg, restHypothesis restDistinct later]
        intro same
        exact absent (same ▸ List.mem_map_of_mem (List.mem_map_of_mem later))

/-- Laying a layer over a record keeps its keys in their order and adds the new ones in theirs. -/
theorem keys_overlay (distinct : upper.HasDistinctKeys) (base : Entries) :
    (base.overlay upper).keys =
      base.keys ++ upper.keys.filter (·.identity ∉ base.keys.map Key.identity) := by
  induction upper generalizing base with
  | nil => simp [overlay, keys]
  | cons entry rest restHypothesis =>
      obtain ⟨name, value⟩ := entry
      obtain ⟨absent, restDistinct⟩ := List.nodup_cons.mp distinct
      rw [overlay, restHypothesis restDistinct, keys_put, keys_cons]
      by_cases present : name.identity ∈ base.keys.map Key.identity
      · rw [if_pos present, List.filter_cons_of_neg (by simpa using present)]
      · -- The name does not come again, so it makes no other key old.
        have others : (keys rest).filter (·.identity ∉ (base.keys ++ [name]).map Key.identity) =
            (keys rest).filter (·.identity ∉ base.keys.map Key.identity) := by
          refine List.filter_congr fun other later => ?_
          have different : other.identity ≠ name.identity :=
            fun same => absent (same ▸ List.mem_map_of_mem later)
          simp [different]
        rw [if_neg present, others, List.filter_cons_of_pos (by simpa using present),
          List.append_assoc]
        rfl

theorem overlay_nil (base : Entries) : base.overlay [] = base := by
  rw [overlay]

theorem overlay_of_disjoint
    (distinct : upper.HasDistinctKeys)
    (absent : ∀ entry ∈ upper, entry.1.identity ∉ base.keys.map Key.identity) :
    base.overlay upper = base ++ upper := by
  induction upper generalizing base with
  | nil => rw [overlay_nil, List.append_nil]
  | cons entry rest restHypothesis =>
      obtain ⟨name, value⟩ := entry
      obtain ⟨later, restDistinct⟩ := List.nodup_cons.mp distinct
      obtain ⟨nameAbsent, restAbsent⟩ := List.forall_mem_cons.mp absent
      have nothing : base.find? name = none := find?_eq_none_iff.mpr nameAbsent
      rw [overlay, nothing, Value.overlay, put_of_absent nameAbsent, restHypothesis restDistinct,
        List.append_assoc]
      · rfl
      · intro other present
        have different : other.1.identity ≠ name.identity :=
          fun same => later (same ▸ List.mem_map_of_mem (List.mem_map_of_mem present))
        simpa [keys, different] using restAbsent other present
      · simp

theorem nil_overlay (distinct : upper.HasDistinctKeys) : overlay [] upper = upper :=
  overlay_of_disjoint distinct fun _ _ => List.not_mem_nil

/-- A layer changes nothing where each of its values leaves what stands in its place as it is. -/
theorem overlay_eq_self
    (settled : ∀ entry ∈ upper, ∃ value, base.find? entry.1 = some value ∧
      Value.overlay (some value) entry.2 = value) :
    base.overlay upper = base := by
  induction upper with
  | nil => exact overlay_nil base
  | cons entry rest restHypothesis =>
      obtain ⟨⟨value, found, same⟩, others⟩ := List.forall_mem_cons.mp settled
      rw [overlay, found, same, put_eq_self found, restHypothesis others]

end Entries

namespace Value

/-- A value that is no record takes the place of whatever stands there. -/
theorem overlay_of_not_isRecord
    {upper : Value}
    (notRecord : ¬upper.IsRecord)
    (lower : Option Value) :
    overlay lower upper = upper := by
  rw [overlay.eq_def]
  split
  · exact absurd (isRecord_record _) notRecord
  · rfl

/-- So does a record where no record stands. -/
theorem overlay_record_of_not_isRecord
    {lower : Option Value}
    (notRecord : ∀ value, lower = some value → ¬value.IsRecord)
    (entries : Entries) :
    overlay lower (.record entries) = .record entries := by
  rw [overlay.eq_def]
  split
  · exact absurd (isRecord_record _) (notRecord _ rfl)
  · rfl

/-- Laying a value over a place twice is laying it once. -/
theorem overlay_overlay
    {upper : Value}
    (nested : upper.IsNested)
    (lower : Option Value) :
    overlay (some (overlay lower upper)) upper = overlay lower upper := by
  induction nested generalizing lower with
  | plain notRecord => rw [overlay_of_not_isRecord notRecord, overlay_of_not_isRecord notRecord]
  | @record entries distinct each eachHypothesis =>
      -- What an entry leaves in its place stays there when the entry is laid over it again.
      have again (base : Entries) :
          (base.overlay entries).overlay entries = base.overlay entries := by
        refine Entries.overlay_eq_self fun entry present => ?_
        refine ⟨overlay (base.find? entry.1) entry.2, ?_, eachHypothesis entry present _⟩
        rw [Entries.find?_overlay distinct, Entries.find?_of_mem distinct present]
        rfl
      by_cases below : ∃ base, lower = some (.record base)
      · obtain ⟨base, rfl⟩ := below
        rw [overlay, overlay, again]
      · have replaced : overlay lower (.record entries) = .record entries := by
          refine overlay_record_of_not_isRecord ?_ entries
          rintro value rfl ⟨base, rfl⟩
          exact below ⟨base, rfl⟩
        have alone := again []
        rw [Entries.nil_overlay distinct] at alone
        rw [replaced, overlay, alone]

/-! ## Paths -/

/-- What stands at the end of a path of keys through nested records. -/
def at? (value : Value) : List Key → Option Value
  | [] => some value
  | key :: rest =>
      match value with
      | .record entries => (Entries.find? key entries).bind fun inner => inner.at? rest
      | _ => none

theorem at?_record_cons (entries : Entries) (key : Key) (rest : List Key) :
    (record entries).at? (key :: rest) = (entries.find? key).bind fun inner => inner.at? rest :=
  rfl

/-- Only a record has anything behind it. -/
theorem isRecord_of_at?_cons
    {value found : Value}
    {key : Key}
    {rest : List Key}
    (reached : value.at? (key :: rest) = some found) :
    value.IsRecord := by
  cases value with
  | record entries => exact isRecord_record entries
  | _ => cases reached

/-- A layer leaves a path open when nothing of it stands at the end and nothing but records on
the way there. -/
def LeavesOpen (upper : Value) (path : List Key) : Prop :=
  upper.at? path = none ∧
    ∀ front key rest, path = front ++ key :: rest →
      ∀ value, upper.at? front = some value → value.IsRecord

theorem leavesOpen_record_cons {entries : Entries} {key : Key} {rest : List Key} :
    (record entries).LeavesOpen (key :: rest) ↔
      ∀ value, entries.find? key = some value → value.LeavesOpen rest := by
  constructor
  · rintro ⟨nothing, onTheWay⟩ value found
    rw [at?_record_cons, found] at nothing
    refine ⟨nothing, fun front next others same inner reached => ?_⟩
    refine onTheWay (key :: front) next others (by rw [same]; rfl) inner ?_
    rw [at?_record_cons, found]
    exact reached
  · intro inside
    constructor
    · rw [at?_record_cons]
      cases found : entries.find? key with
      | none => rfl
      | some value => exact (inside value found).1
    · rintro (_ | ⟨first, front⟩) next others same inner reached
      · cases reached
        exact isRecord_record entries
      · cases same
        rw [at?_record_cons] at reached
        obtain ⟨value, found, reached⟩ := Option.bind_eq_some_iff.mp reached
        exact (inside value found).2 front next others rfl inner reached

/-- A value that is no record closes every path. -/
theorem not_leavesOpen_of_not_isRecord
    {value : Value}
    (notRecord : ¬value.IsRecord)
    (path : List Key) :
    ¬value.LeavesOpen path := by
  rintro ⟨nothing, onTheWay⟩
  cases path with
  | nil => cases nothing
  | cons key rest => exact notRecord (onTheWay [] key rest rfl value rfl)

end Value

namespace Entries

open Value

variable {lower upper : Entries}

theorem IsNested.parts (nested : (record upper).IsNested) :
    upper.HasDistinctKeys ∧
      ∀ key value, upper.find? key = some value → value.IsNested := by
  cases nested with
  | plain notRecord => exact absurd (isRecord_record upper) notRecord
  | record distinct each =>
      refine ⟨distinct, fun key value found => ?_⟩
      obtain ⟨name, present, -⟩ := exists_mem_of_find? found
      exact each _ present

/-- A value that is no record stands at the end of a path when the layer has it there, or when
the record below does and the layer leaves the path open. -/
theorem at?_overlay_iff
    (nested : (record upper).IsNested)
    {leaf : Value}
    (notRecord : ¬leaf.IsRecord)
    (path : List Key) :
    (record (lower.overlay upper)).at? path = some leaf ↔
      (record upper).at? path = some leaf ∨
        (record lower).at? path = some leaf ∧ (record upper).LeavesOpen path := by
  induction path generalizing lower upper with
  | nil =>
      have different (entries : Entries) : (record entries).at? [] ≠ some leaf := by
        rintro ⟨⟩
        exact notRecord (isRecord_record entries)
      simp only [different, false_and, or_self]
  | cons key rest restHypothesis =>
      obtain ⟨distinct, inner⟩ := IsNested.parts nested
      rw [leavesOpen_record_cons, at?_record_cons, at?_record_cons, at?_record_cons,
        find?_overlay distinct]
      cases above : upper.find? key with
      | none => simp [layered]
      | some given =>
          simp only [layered, Option.bind_some, Option.some.injEq, forall_eq']
          by_cases isRecord : given.IsRecord
          · obtain ⟨entries, rfl⟩ := isRecord
            by_cases below : ∃ base, lower.find? key = some (.record base)
            · obtain ⟨base, found⟩ := below
              rw [found, Value.overlay]
              exact restHypothesis (inner key _ above)
            · -- What is no record below reaches no further, and the layer has something there.
              have closed : ¬((lower.find? key).bind (fun inner => inner.at? rest) = some leaf ∧
                  (record entries).LeavesOpen rest) := by
                rintro ⟨reached, nothing, -⟩
                obtain ⟨value, found, reached⟩ := Option.bind_eq_some_iff.mp reached
                cases rest with
                | nil => cases nothing
                | cons next others =>
                    obtain ⟨base, rfl⟩ := isRecord_of_at?_cons reached
                    exact below ⟨base, found⟩
              rw [overlay_record_of_not_isRecord, or_iff_left closed]
              rintro value found ⟨base, rfl⟩
              exact below ⟨base, found⟩
          · rw [overlay_of_not_isRecord isRecord,
              or_iff_left fun both => not_leavesOpen_of_not_isRecord isRecord rest both.2]

/-- Where both records have a record at the end of a path, the keys below come first there and
then the new ones of the layer. -/
theorem keys_at?_overlay
    (nested : (record upper).IsNested)
    {path : List Key}
    {base given : Entries}
    (below : (record lower).at? path = some (.record base))
    (above : (record upper).at? path = some (.record given)) :
    ∃ merged : Entries,
      (record (lower.overlay upper)).at? path = some (.record merged) ∧
        merged.keys =
          base.keys ++ given.keys.filter (·.identity ∉ base.keys.map Key.identity) := by
  induction path generalizing lower upper with
  | nil =>
      cases below
      cases above
      exact ⟨_, rfl, keys_overlay (IsNested.parts nested).1 _⟩
  | cons key rest restHypothesis =>
      obtain ⟨distinct, inner⟩ := IsNested.parts nested
      rw [at?_record_cons] at below above
      obtain ⟨value, found, below⟩ := Option.bind_eq_some_iff.mp below
      obtain ⟨value', found', above⟩ := Option.bind_eq_some_iff.mp above
      have isRecord {value : Value} {entries : Entries}
          (reached : value.at? rest = some (.record entries)) : value.IsRecord := by
        cases rest with
        | nil =>
            cases reached
            exact isRecord_record entries
        | cons next others => exact isRecord_of_at?_cons reached
      obtain ⟨entries, rfl⟩ := isRecord below
      obtain ⟨entries', rfl⟩ := isRecord above
      rw [at?_record_cons, find?_overlay distinct, found, found', layered, Value.overlay]
      exact restHypothesis (inner key _ found') below above

/-- The record under a layer, along all paths. A value of the layer that is no record stands in
its place. One of the record below stands in its place just where the layer leaves the path to it
open, and there is no other. At every level that both share the keys below come first and then
the new ones of the layer. The same layer once more changes nothing, and the empty record is
neutral on both sides. -/
theorem overlay_along_paths
    (lower : Entries)
    {upper : Entries}
    (nested : (record upper).IsNested) :
    (∀ path leaf, ¬leaf.IsRecord →
        ((record (lower.overlay upper)).at? path = some leaf ↔
          (record upper).at? path = some leaf ∨
            (record lower).at? path = some leaf ∧ (record upper).LeavesOpen path)) ∧
      (∀ path base given, (record lower).at? path = some (.record base) →
        (record upper).at? path = some (.record given) →
        ∃ merged : Entries,
          (record (lower.overlay upper)).at? path = some (.record merged) ∧
            merged.keys =
              keys base ++ (keys given).filter (·.identity ∉ (keys base).map Key.identity)) ∧
      (lower.overlay upper).overlay upper = lower.overlay upper ∧
      lower.overlay [] = lower ∧
      overlay [] upper = upper := by
  refine ⟨?_, ?_, ?_, overlay_nil lower, nil_overlay (IsNested.parts nested).1⟩
  · intro path leaf notRecord
    exact at?_overlay_iff nested notRecord path
  · intro path base given below above
    exact keys_at?_overlay nested below above
  · have twice := overlay_overlay nested (some (.record lower))
    simpa only [Value.overlay, Value.record.injEq] using twice

/-- A section that is given in part keeps its other fields. -/
theorem overlay_along_paths_of_sampler :
    let lower : Entries :=
      [("sampler", .record [("x_min", .int 0), ("y_limit", .null)]), ("cache", .null)]
    let upper : Entries :=
      [("cache", .record []), ("sampler", .record [("y_limit", .int 5), ("x_max", .int 9)])]
    (record upper).IsNested ∧
      (record (lower.overlay upper)).at? ["sampler", "y_limit"] = some (.int 5) ∧
      (record (lower.overlay upper)).at? ["sampler", "x_min"] = some (.int 0) ∧
      ∃ merged : Entries,
        (record (lower.overlay upper)).at? ["sampler"] = some (.record merged) ∧
          merged.keys = [.text "x_min", .text "y_limit", .text "x_max"] := by
  intro lower upper
  have plain (n : Int) : ¬(int n).IsRecord := nofun
  have nested : (record upper).IsNested := by
    refine .record (by decide) (List.forall_mem_cons.mpr ⟨?_, List.forall_mem_singleton.mpr ?_⟩)
    · exact .record (by decide) (List.forall_mem_nil _)
    · refine .record (by decide) (List.forall_mem_cons.mpr ⟨?_, List.forall_mem_singleton.mpr ?_⟩)
      · exact .plain (plain 5)
      · exact .plain (plain 9)
  obtain ⟨leaves, levels, -⟩ := overlay_along_paths lower nested
  have leftOpen : (record upper).LeavesOpen ["sampler", "x_min"] := by
    refine leavesOpen_record_cons.mpr ?_
    rintro value ⟨⟩
    exact leavesOpen_record_cons.mpr nofun
  obtain ⟨merged, reached, inOrder⟩ := levels ["sampler"] _ _ rfl rfl
  exact ⟨nested, (leaves _ _ (plain 5)).mpr (.inl rfl),
    (leaves _ _ (plain 0)).mpr (.inr ⟨rfl, leftOpen⟩), merged, reached, inOrder⟩

end Entries
end Calculator
