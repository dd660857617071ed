/-!
# Memos of bounded size

A memo keeps the results of the calls that were used last and counts how many
calls found their result and how many had to compute it. Failures are not kept.
-/

namespace Calculator

/-- A kept result. The serial number tells apart results that were computed for
the same key at different times. -/
structure MemoEntry (κ ν : Type) where
  key : κ
  value : ν
  serial : Nat
  deriving Repr

/-- The kept results, the one used last first, and the counts of calls. -/
structure Memo (κ ν : Type) where
  capacity : Nat
  entries : List (MemoEntry κ ν)
  hits : Nat
  misses : Nat
  deriving Repr

namespace Memo

variable {κ ν ε : Type}

/-- A memo before its first call. -/
def empty (capacity : Nat) : Memo κ ν :=
  ⟨capacity, [], 0, 0⟩

/-- The number of kept results. -/
def size (memo : Memo κ ν) : Nat :=
  memo.entries.length

/-- Call a function through a memo. A kept result becomes the one used last. A
new one is kept in front, and the result that has not been used for longest
gives way when there is no room. -/
def call [DecidableEq κ] (compute : κ → Except ε ν) (key : κ) (memo : Memo κ ν) :
    Except ε (MemoEntry κ ν) × Memo κ ν :=
  match memo.entries.find? fun entry => entry.key = key with
  | some entry =>
      let others := memo.entries.filter fun other => other.key ≠ key
      (.ok entry, ⟨memo.capacity, entry :: others, memo.hits + 1, memo.misses⟩)
  | none =>
      match compute key with
      | .error error =>
          (.error error, ⟨memo.capacity, memo.entries, memo.hits, memo.misses + 1⟩)
      | .ok value =>
          let entry : MemoEntry κ ν := ⟨key, value, memo.misses⟩
          let kept := (entry :: memo.entries).take memo.capacity
          (.ok entry, ⟨memo.capacity, kept, memo.hits, memo.misses + 1⟩)

@[simp] theorem capacity_call [DecidableEq κ] (compute : κ → Except ε ν) (key : κ)
    (memo : Memo κ ν) : (memo.call compute key).2.capacity = memo.capacity := by
  unfold call
  split
  · rfl
  · split <;> rfl

/-- Every call is counted once. -/
theorem hits_add_misses_call [DecidableEq κ] (compute : κ → Except ε ν) (key : κ)
    (memo : Memo κ ν) :
    (memo.call compute key).2.hits + (memo.call compute key).2.misses =
      memo.hits + memo.misses + 1 := by
  unfold call
  split
  · simp only []
    omega
  · split <;> simp only [] <;> omega

end Memo

end Calculator
