import Calculator.Outcome
import Calculator.Settings.Profile

/-!
# Layers of settings

The defaults, a profile and overrides are records that are laid over each other. Where the keys of a
layer are distinct, what stands at a key depends on what stands there below and in the layer.
-/

namespace Calculator

/-- What stands in a place when a layer has been laid over it. -/
def Value.layered (lower : Option Value) : Option Value → Option Value
  | some upper => some (Value.overlay lower upper)
  | none => lower

namespace Entries

/-- Keys of one identity find the same value. -/
theorem find?_congr
    {key other : Key}
    (same : key.identity = other.identity)
    (entries : Entries) :
    entries.find? key = entries.find? other := by
  induction entries with
  | nil => rfl
  | cons entry rest restHypothesis => rw [find?, find?, same, restHypothesis]

theorem find?_eq_none_iff {key : Key} {entries : Entries} :
    entries.find? key = none ↔ key.identity ∉ entries.keys.map Key.identity := by
  induction entries with
  | nil => simp [find?, keys]
  | cons entry rest restHypothesis =>
      by_cases same : entry.1.identity = key.identity
      · simp [find?, same]
      · rw [find?, if_neg same, restHypothesis, keys_cons, List.map_cons, List.mem_cons,
          not_or]
        exact (and_iff_right (Ne.symm same)).symm

/-- Entries whose keys are distinct, as those of a record are. -/
def HasDistinctKeys (entries : Entries) : Prop :=
  (entries.keys.map Key.identity).Nodup

instance (entries : Entries) : Decidable entries.HasDistinctKeys :=
  inferInstanceAs (Decidable (List.Nodup _))

/-- What stands at a key when a layer has been laid over a record. -/
theorem find?_overlay
    {upper : Entries}
    (distinct : upper.HasDistinctKeys)
    (base : Entries)
    (key : Key) :
    (base.overlay upper).find? key = Value.layered (base.find? key) (upper.find? key) := by
  induction upper generalizing base with
  | nil => rfl
  | cons entry rest restHypothesis =>
      obtain ⟨name, value⟩ := entry
      obtain ⟨absent, restDistinct⟩ := List.nodup_cons.mp distinct
      rw [overlay, restHypothesis restDistinct, find?]
      by_cases same : name.identity = key.identity
      · -- The key does not come again, so the first entry settles it.
        have settled : find? key rest = none := find?_eq_none_iff.mpr (same ▸ absent)
        rw [settled, if_pos same, ← find?_congr same, ← find?_congr same]
        exact find?_put_self name _ base
      · rw [if_neg same, find?_put_of_ne (Ne.symm same)]

end Entries

namespace Document

/-- The entries that a profile contributes to the settings, none when it is not named. -/
def Contributes (document : Document) : Option Key → Entries → Prop
  | some name, content =>
      if name.isTruthy then document.profile name = .ok (.record content) else content = []
  | none, content => content = []

end Document

namespace Settings

/-- Only a record can be a layer. -/
theorem layer_eq_ok_iff {base merged : Entries} {upper : Value} :
    layer base upper = .ok merged ↔
      ∃ entries, upper = .record entries ∧ base.overlay entries = merged := by
  rw [layer, Outcome.map_eq_ok_iff]
  cases upper with
  | record entries => simp [Value.entries]
  | _ => simp [Value.entries]

/-- Overrides that are empty change nothing, like those that are laid over the settings. -/
theorem overlay_of_truthy (named overrides : Entries) :
    (if (Value.record overrides).isTruthy then layer named (.record overrides) else .ok named) =
      .ok (named.overlay overrides) := by
  cases overrides with
  | nil => rfl
  | cons entry rest => rfl

variable {document : Document} {profile : Option Key}

/-- Records are laid over the defaults, the overrides last. -/
theorem merge_eq
    {content : Entries}
    (contributes : document.Contributes profile content)
    (overrides : Entries) :
    merge document profile (.record overrides) =
      .ok ((standard.toEntries.overlay content).overlay overrides) := by
  cases profile with
  | none =>
      obtain rfl : content = [] := contributes
      exact overlay_of_truthy standard.toEntries overrides
  | some name =>
      rw [Document.Contributes] at contributes
      rw [merge]
      split at contributes
      · rename_i truthy
        simp only [truthy, if_true, contributes, Outcome.ok_bind,
          layer_eq_ok_iff.mpr ⟨content, rfl, rfl⟩]
        exact overlay_of_truthy _ overrides
      · rename_i falsy
        subst contributes
        simp only [falsy, Outcome.pure_eq_ok, Outcome.ok_bind]
        exact overlay_of_truthy standard.toEntries overrides

/-- The names of the sections. -/
def sectionNames : List String :=
  ["parser", "sampler", "root_finder", "calculus", "cache"]

end Settings
end Calculator
