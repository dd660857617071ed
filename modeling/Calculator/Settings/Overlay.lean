import Calculator.Value.Basic

/-!
# Laying one record over another

Where both records hold a record at a key the two are merged in turn, and
elsewhere the upper value replaces the lower one. Keys keep their places, and
new keys come last.
-/

namespace Calculator

mutual

/-- Lay the entries of a record over another record. -/
def Entries.overlay (base : Entries) : List (Key × Value) → Entries
  | [] => base
  | (key, value) :: rest =>
      Entries.overlay (base.put key (Value.overlay (base.find? key) value)) rest

/-- Lay a value over what stands in its place, if anything does. -/
def Value.overlay : Option Value → Value → Value
  | some (.record lower), .record upper => .record (Entries.overlay lower upper)
  | _, upper => upper

end

end Calculator
