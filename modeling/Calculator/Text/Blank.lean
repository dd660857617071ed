/-!
# Blank characters

White space between the parts of an expression and around the entries of a
list.
-/

namespace Calculator
namespace Blank

/-- Inclusive ranges of the blank code points, in increasing order. -/
def ranges : List (Nat × Nat) :=
  [(0x9, 0xD), (0x1C, 0x20), (0x85, 0x85), (0xA0, 0xA0), (0x1680, 0x1680),
    (0x2000, 0x200A), (0x2028, 0x2029), (0x202F, 0x202F), (0x205F, 0x205F),
    (0x3000, 0x3000)]

end Blank

/-- Whether a character is blank. -/
def isBlank (c : Char) : Bool :=
  Blank.ranges.any fun (first, last) => first ≤ c.toNat && c.toNat ≤ last

/-- Drop the characters of a class from both ends. -/
def trimmed (drop : Char → Bool) (text : List Char) : List Char :=
  ((text.dropWhile drop).reverse.dropWhile drop).reverse

/-- A text without characters of the class keeps both its ends. -/
theorem trimmed_eq
    {drop : Char → Bool}
    {text : List Char}
    (kept : ∀ c ∈ text, drop c = false) :
    trimmed drop text = text := by
  have dropWhile_eq (text : List Char) (kept : ∀ c ∈ text, drop c = false) :
      text.dropWhile drop = text := by
    cases text with
    | nil => rfl
    | cons c rest => rw [List.dropWhile_cons_of_neg (by simp [kept c List.mem_cons_self])]
  rw [trimmed, dropWhile_eq text kept, dropWhile_eq text.reverse (by simpa using kept),
    List.reverse_reverse]

end Calculator
