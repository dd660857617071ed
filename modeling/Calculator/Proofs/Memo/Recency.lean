import Calculator.Memo

/-!
# What a memo keeps

A memo keeps the keys that were used last, as many distinct ones as it has room for.
A use is a call that has a result. So a key is kept as long as fewer distinct other
keys have been used since than there is room for.
-/

namespace Calculator
namespace Memo

/-! ## Distinct keys by their last use -/

section Distinct

variable {κ : Type} [DecidableEq κ]

/-- Repetitions may be erased before or after a selection. -/
theorem eraseDups_filter (selects : κ → Bool) (uses : List κ) :
    (uses.filter selects).eraseDups = uses.eraseDups.filter selects := by
  -- What follows a key is filtered before repetitions are erased from it, so the
  -- induction is on the length.
  induction length : uses.length using Nat.strongRecOn generalizing uses with
  | ind size sizeHypothesis =>
      cases uses with
      | nil => rfl
      | cons key earlier =>
          let others := earlier.filter fun other => !other == key
          have shorter : others.length < size := by
            rw [← length, List.length_cons]
            exact Nat.lt_succ_of_le (List.length_filter_le _ _)
          have othersHypothesis := sizeHypothesis _ shorter others rfl
          cases selected : selects key with
          | true =>
              rw [List.filter_cons_of_pos selected, List.eraseDups_cons, List.eraseDups_cons,
                List.filter_cons_of_pos selected, ← othersHypothesis, List.filter_filter,
                List.filter_filter]
              simp only [Bool.and_comm]
          | false =>
              have same : earlier.filter selects = others.filter selects := by
                rw [List.filter_filter]
                refine List.filter_congr fun other _ => ?_
                by_cases isKey : other = key
                · simp [isKey, selected]
                · simp [isKey]
              rw [List.filter_cons_of_neg (by simp [selected]), List.eraseDups_cons,
                List.filter_cons_of_neg (by simp [selected]), ← othersHypothesis, same]

/-- The key used last comes first, and the other keys keep their order. -/
theorem eraseDups_cons_eq (key : κ) (earlier : List κ) :
    (key :: earlier).eraseDups = key :: earlier.eraseDups.filter (· ≠ key) := by
  rw [List.eraseDups_cons, eraseDups_filter]
  exact congrArg _ (List.filter_congr fun other _ => decide_not.symm)

theorem nodup_eraseDups (uses : List κ) : uses.eraseDups.Nodup := by
  induction uses with
  | nil => exact .nil
  | cons key earlier earlierHypothesis =>
      rw [eraseDups_cons_eq]
      exact List.nodup_cons.mpr ⟨by simp, earlierHypothesis.filter _⟩

/-- A key is among the first `room` distinct ones when fewer others were used since. -/
theorem mem_take_eraseDups_iff
    {room : Nat}
    {key : κ}
    {uses : List κ} :
    key ∈ uses.eraseDups.take room ↔
      key ∈ uses ∧ (uses.takeWhile (· ≠ key)).eraseDups.length < room := by
  by_cases used : key ∈ uses
  · obtain ⟨since, earlier, rfl, fresh⟩ := List.eq_append_cons_of_mem used
    have span : (since ++ key :: earlier).takeWhile (· ≠ key) = since := by
      rw [List.takeWhile_append_of_pos, List.takeWhile_cons_of_neg (by simp), List.append_nil]
      exact fun other inSince => decide_eq_true fun same => fresh (same ▸ inSince)
    have notInFront : key ∉ since.eraseDups.take room := fun inFront =>
      fresh (List.mem_eraseDups.mp (List.mem_of_mem_take inFront))
    have behind : (key :: earlier).removeAll since = key :: earlier.removeAll since := by
      simp [List.cons_removeAll, fresh]
    rw [span, and_iff_right used, List.eraseDups_append, List.take_append, List.mem_append,
      or_iff_right notInFront, behind, List.eraseDups_cons]
    cases left : room - since.eraseDups.length with
    | zero =>
        refine iff_of_false nofun ?_
        omega
    | succ left' =>
        refine iff_of_true List.mem_cons_self ?_
        omega
  · refine iff_of_false (fun inFront => used ?_) (fun found => used found.1)
    exact List.mem_eraseDups.mp (List.mem_of_mem_take inFront)

/-- A key that is not among the first ones is not missed there. -/
theorem take_filter_ne
    {room : Nat}
    {key : κ}
    {list : List κ}
    (absent : key ∉ list.take room) :
    (list.filter (· ≠ key)).take room = list.take room := by
  induction list generalizing room with
  | nil => rfl
  | cons first rest restHypothesis =>
      cases room with
      | zero => rfl
      | succ room =>
          rw [List.take_succ_cons, List.mem_cons, not_or] at absent
          rw [List.filter_cons_of_pos (by simpa using Ne.symm absent.1), List.take_succ_cons,
            List.take_succ_cons, restHypothesis absent.2]

/-- A key that is among the first ones makes room for one more. -/
theorem filter_ne_take
    {room : Nat}
    {key : κ}
    {list : List κ}
    (distinct : list.Nodup)
    (present : key ∈ list.take (room + 1)) :
    (list.take (room + 1)).filter (· ≠ key) = (list.filter (· ≠ key)).take room := by
  induction list generalizing room with
  | nil => cases present
  | cons first rest restHypothesis =>
      obtain ⟨notFirst, restDistinct⟩ := List.nodup_cons.mp distinct
      rw [List.take_succ_cons] at present ⊢
      by_cases isFirst : first = key
      · subst isFirst
        have absent : first ∉ rest.take room := fun inRest =>
          notFirst (List.mem_of_mem_take inRest)
        rw [List.filter_cons_of_neg (by simp), List.filter_cons_of_neg (by simp),
          take_filter_ne absent, List.filter_eq_self]
        rintro other inFront
        exact decide_eq_true fun same => absent (same ▸ inFront)
      · have inRest : key ∈ rest.take room :=
          (List.mem_cons.mp present).resolve_left fun same => isFirst same.symm
        cases room with
        | zero => cases inRest
        | succ room =>
            rw [List.filter_cons_of_pos (by simpa using isFirst),
              List.filter_cons_of_pos (by simpa using isFirst), List.take_succ_cons,
              restHypothesis restDistinct inRest]

/-- The first distinct keys after a key among them has been used again. -/
theorem take_eraseDups_of_mem
    {room : Nat}
    {key : κ}
    {uses : List κ}
    (kept : key ∈ uses.eraseDups.take room) :
    (key :: uses).eraseDups.take room = key :: (uses.eraseDups.take room).filter (· ≠ key) := by
  cases room with
  | zero => cases kept
  | succ room =>
      rw [eraseDups_cons_eq, List.take_succ_cons, filter_ne_take (nodup_eraseDups uses) kept]

/-- The first distinct keys after another key has been used. -/
theorem take_eraseDups_of_not_mem
    {room : Nat}
    {key : κ}
    {uses : List κ}
    (missing : key ∉ uses.eraseDups.take room) :
    (key :: uses).eraseDups.take room = (key :: uses.eraseDups.take room).take room := by
  cases room with
  | zero => rfl
  | succ room =>
      have absent : key ∉ uses.eraseDups.take room := fun inFront =>
        missing (List.take_subset_take_left _ (Nat.le_succ room) inFront)
      rw [eraseDups_cons_eq, List.take_succ_cons, take_filter_ne absent, List.take_succ_cons,
        List.take_take, Nat.min_eq_left (Nat.le_succ room)]

end Distinct

/-! ## Calls -/

variable {κ ν ε : Type} [DecidableEq κ]

/-- The keys that are kept, the one used last first. -/
def keys (memo : Memo κ ν) : List κ :=
  memo.entries.map MemoEntry.key

variable {key : κ} {memo : Memo κ ν}

theorem find?_eq_none_iff :
    (memo.entries.find? fun entry => entry.key = key) = none ↔ key ∉ memo.keys := by
  simp [keys]

/-- A call on a key that is kept has the kept result, which becomes the one used
last. -/
theorem call_of_mem (compute : κ → Except ε ν) (kept : key ∈ memo.keys) :
    ∃ entry ∈ memo.entries, entry.key = key ∧
      memo.call compute key =
        (.ok entry, ⟨memo.capacity, entry :: memo.entries.filter fun other => other.key ≠ key,
          memo.hits + 1, memo.misses⟩) := by
  cases found : memo.entries.find? fun entry => entry.key = key with
  | none => exact absurd kept (find?_eq_none_iff.mp found)
  | some entry =>
      refine ⟨entry, List.mem_of_find?_eq_some found, by simpa using List.find?_some found, ?_⟩
      rw [call, found]

/-- A call on a key that is not kept computes its result. -/
theorem call_of_not_mem (compute : κ → Except ε ν) (missing : key ∉ memo.keys) :
    memo.call compute key =
      match compute key with
      | .error error =>
          (.error error, ⟨memo.capacity, memo.entries, memo.hits, memo.misses + 1⟩)
      | .ok value =>
          (.ok ⟨key, value, memo.misses⟩,
            ⟨memo.capacity, (⟨key, value, memo.misses⟩ :: memo.entries).take memo.capacity,
              memo.hits, memo.misses + 1⟩) := by
  cases computed : compute key with
  | error error => simp only [call, find?_eq_none_iff.mpr missing, computed]
  | ok value => simp only [call, find?_eq_none_iff.mpr missing, computed]

/-- A call finds its result when its key is kept. -/
theorem hits_call (compute : κ → Except ε ν) (key : κ) (memo : Memo κ ν) :
    (memo.call compute key).2.hits = memo.hits + if key ∈ memo.keys then 1 else 0 := by
  by_cases kept : key ∈ memo.keys
  · obtain ⟨entry, -, -, called⟩ := call_of_mem compute kept
    rw [called, if_pos kept]
  · rw [call_of_not_mem compute kept, if_neg kept]
    split <;> rfl

/-! ## Uses -/

/-- What a memo keeps after the given uses, the last one first. -/
structure Recalls (meaning : κ → Option ν) (uses : List κ) (memo : Memo κ ν) : Prop where
  keys : memo.keys = uses.eraseDups.take memo.capacity
  means : ∀ entry ∈ memo.entries, meaning entry.key = some entry.value

variable {meaning : κ → Option ν} {uses : List κ}

theorem recalls_empty (meaning : κ → Option ν) (capacity : Nat) :
    Recalls meaning [] (empty capacity) where
  keys := by simp [Memo.keys, empty]
  means := nofun

/-- A key is kept when fewer distinct other keys have been used since its last use
than there is room for. -/
theorem Recalls.mem_keys_iff (recalls : Recalls meaning uses memo) :
    key ∈ memo.keys ↔
      key ∈ uses ∧ (uses.takeWhile (· ≠ key)).eraseDups.length < memo.capacity := by
  rw [recalls.keys, mem_take_eraseDups_iff]

theorem Recalls.size_eq (recalls : Recalls meaning uses memo) :
    memo.size = min memo.capacity uses.eraseDups.length := by
  rw [size, ← List.length_map MemoEntry.key, ← List.length_take]
  exact congrArg List.length recalls.keys

/-- A call that has a result is a use, whether the result was kept or not. -/
theorem Recalls.call_ok
    (recalls : Recalls meaning uses memo)
    (compute : κ → Except ε ν)
    {value : ν}
    (computed : compute key = .ok value)
    (meant : meaning key = some value) :
    (∃ entry, (memo.call compute key).1 = .ok entry ∧ entry.value = value) ∧
      Recalls meaning (key :: uses) (memo.call compute key).2 := by
  by_cases kept : key ∈ memo.keys
  · obtain ⟨entry, present, rfl, called⟩ := call_of_mem compute kept
    have known := recalls.means entry present
    rw [called]
    refine ⟨⟨entry, rfl, ?_⟩, ?_, ?_⟩
    · exact Option.some.inj (known.symm.trans meant)
    · have others : (memo.entries.filter fun other => other.key ≠ entry.key).map MemoEntry.key =
          memo.keys.filter (· ≠ entry.key) := by
        rw [Memo.keys, List.filter_map]
        rfl
      rw [recalls.keys] at kept
      rw [take_eraseDups_of_mem kept, ← recalls.keys, ← others]
      rfl
    · exact List.forall_mem_cons.mpr
        ⟨known, fun other inOthers => recalls.means other (List.mem_filter.mp inOthers).1⟩
  · rw [call_of_not_mem compute kept, computed]
    refine ⟨⟨_, rfl, rfl⟩, ?_, ?_⟩
    · rw [recalls.keys] at kept
      rw [take_eraseDups_of_not_mem kept, ← recalls.keys, Memo.keys, List.map_take]
      rfl
    · rintro entry present
      rcases List.mem_cons.mp (List.mem_of_mem_take present) with rfl | earlier
      · exact meant
      · exact recalls.means entry earlier

/-- A call that fails is no use, and changes nothing that is kept. -/
theorem Recalls.call_error
    (recalls : Recalls meaning uses memo)
    (compute : κ → Except ε ν)
    {error : ε}
    (failed : compute key = .error error)
    (meaningless : meaning key = none) :
    (memo.call compute key).1 = .error error ∧
      (memo.call compute key).2.entries = memo.entries ∧
      Recalls meaning uses (memo.call compute key).2 := by
  have missing : key ∉ memo.keys := by
    intro kept
    obtain ⟨entry, present, rfl⟩ := List.mem_map.mp kept
    rw [recalls.means entry present] at meaningless
    cases meaningless
  rw [call_of_not_mem compute missing, failed]
  exact ⟨rfl, rfl, recalls.keys, recalls.means⟩

end Memo
end Calculator
