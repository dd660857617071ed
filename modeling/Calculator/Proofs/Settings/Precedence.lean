import Calculator.Proofs.Settings.Parameter

/-!
# Which layer decides

The overrides decide on the parameters that they give, then the profile on those that it
gives, and the defaults on the others. Whatever else a layer holds is without influence.
-/

namespace Calculator

namespace Value

/-- A record with distinct keys, which can stand in the place of a section. -/
def IsSection : Value → Prop
  | .record fields => Entries.HasDistinctKeys fields
  | _ => False

instance (value : Value) : Decidable value.IsSection :=
  match value with
  | .record fields => inferInstanceAs (Decidable (Entries.HasDistinctKeys fields))
  | .null | .bool _ | .int _ | .float _ | .text _ | .list _ => .isFalse id

/-- The entries that overrides contribute to the settings, none when they are empty. -/
def Contributes (overrides : Value) (given : Entries) : Prop :=
  if overrides.isTruthy then overrides = .record given else given = []

/-- A value over another one is the upper value, or else a record. -/
theorem overlay_eq_of_not_isRecord
    {lower : Option Value}
    {upper : Value}
    (plain : ¬(overlay lower upper).IsRecord) :
    overlay lower upper = upper := by
  rw [overlay.eq_def] at plain ⊢
  split at plain
  · exact absurd (isRecord_record _) plain
  · rfl

theorem isSome_layered
    {lower : Option Value}
    (present : lower.isSome)
    (upper : Option Value) :
    (layered lower upper).isSome := by
  cases upper with
  | none => exact present
  | some given => rfl

/-- What stands in a place and is no record comes from the upper layer if that gives any. -/
theorem or_eq_some_of_layered
    {lower upper : Option Value}
    {value : Value}
    (stands : layered lower upper = some value)
    (plain : ¬value.IsRecord) :
    upper.or lower = some value := by
  cases upper with
  | none => exact stands
  | some given =>
      obtain rfl := Option.some.inj stands
      exact congrArg some (overlay_eq_of_not_isRecord plain).symm

end Value

namespace Settings

/-- A record of settings: its keys are distinct, and every section that it gives is a record
with distinct keys. -/
structure IsLayer (entries : Entries) : Prop where
  distinct : entries.HasDistinctKeys
  sections : ∀ name ∈ sectionNames, ∀ value ∈ entries.find? name, value.IsSection

instance (entries : Entries) : Decidable (IsLayer entries) :=
  decidable_of_iff
    (entries.HasDistinctKeys ∧
      ∀ name ∈ sectionNames, ∀ value ∈ entries.find? name, value.IsSection)
    ⟨fun ⟨distinct, sections⟩ => ⟨distinct, sections⟩,
      fun ⟨distinct, sections⟩ => ⟨distinct, sections⟩⟩

variable {base upper content given : Entries} {name field : String}

/-- A section of a record is laid over that of the record below. -/
theorem find?_section_overlay
    (layer : IsLayer upper)
    (isSection : name ∈ sectionNames)
    (found : base.find? name = some (.record (base.fieldsOf name))) :
    (base.overlay upper).find? name =
      some (.record ((base.fieldsOf name).overlay (upper.fieldsOf name))) := by
  rw [Entries.find?_overlay layer.distinct, found, Entries.fieldsOf.eq_def upper]
  cases present : upper.find? name with
  | none => rfl
  | some value =>
      have isRecord := layer.sections name isSection value present
      cases value with
      | record fields => rfl
      | _ => cases isRecord

theorem HasSections.overlay
    (hasSections : HasSections base)
    (layer : IsLayer upper) :
    HasSections (base.overlay upper) := by
  intro name isSection
  have found := find?_section_overlay layer isSection (hasSections name isSection)
  rw [Entries.fieldsOf_of_find? found, found]

theorem IsLayer.hasDistinctKeys_fieldsOf
    (layer : IsLayer upper)
    (isSection : name ∈ sectionNames) :
    (upper.fieldsOf name).HasDistinctKeys := by
  rw [Entries.fieldsOf.eq_def]
  split
  · rename_i fields present
    exact layer.sections name isSection _ present
  · exact List.nodup_nil

/-- What stands at a field of a section when a layer has been laid over a record. -/
theorem setting?_overlay
    (layer : IsLayer upper)
    (hasSections : HasSections base)
    (isSection : name ∈ sectionNames)
    (field : String) :
    (base.overlay upper).setting? name field =
      Value.layered (base.setting? name field) (upper.setting? name field) := by
  have found := find?_section_overlay layer isSection (hasSections name isSection)
  rw [Entries.setting?, Entries.fieldsOf_of_find? found,
    Entries.find?_overlay (layer.hasDistinctKeys_fieldsOf isSection)]
  rfl

/-! ## Merged settings -/

theorem hasSections_toEntries (settings : Settings) : HasSections settings.toEntries := by
  simp only [HasSections, sectionNames, List.forall_mem_cons]
  exact ⟨rfl, rfl, rfl, rfl, rfl, List.forall_mem_nil _⟩

section Merged

variable (contentLayer : IsLayer content) (givenLayer : IsLayer given)

include contentLayer givenLayer

theorem hasSections_merged : HasSections ((standard.toEntries.overlay content).overlay given) :=
  ((hasSections_toEntries standard).overlay contentLayer).overlay givenLayer

/-- What stands at a parameter of merged settings. -/
theorem setting?_merged (isParameter : IsParameter name field) :
    ((standard.toEntries.overlay content).overlay given).setting? name field =
      Value.layered
        (Value.layered (standard.toEntries.setting? name field) (content.setting? name field))
        (given.setting? name field) := by
  have isSection := isParameter.mem_sectionNames
  have hasSections := hasSections_toEntries standard
  rw [setting?_overlay givenLayer (hasSections.overlay contentLayer) isSection,
    setting?_overlay contentLayer hasSections isSection]

/-- Merged settings have all parameters, and so settings that are read from them, once they
have passed the check, have what stands there. -/
theorem setting?_toEntries_eq
    {settings : Settings}
    (passed :
      check (.record ((standard.toEntries.overlay content).overlay given)) = .ok [])
    (settled : read ((standard.toEntries.overlay content).overlay given) = .ok settings)
    (isParameter : IsParameter name field) :
    settings.toEntries.setting? name field =
      ((standard.toEntries.overlay content).overlay given).setting? name field := by
  refine setting?_toEntries_of_read (hasSections_merged contentLayer givenLayer) ?_ passed settled
    isParameter
  intro name field isParameter
  rw [setting?_merged contentLayer givenLayer isParameter]
  exact Value.isSome_layered (Value.isSome_layered isParameter _) _

/-- At a parameter, settings that are read from merged ones have what the uppermost layer
gives that gives any. -/
theorem setting?_toEntries_merged
    {settings : Settings}
    (passed :
      check (.record ((standard.toEntries.overlay content).overlay given)) = .ok [])
    (settled : read ((standard.toEntries.overlay content).overlay given) = .ok settings)
    (isParameter : IsParameter name field) :
    settings.toEntries.setting? name field =
      (given.setting? name field).or
        ((content.setting? name field).or (standard.toEntries.setting? name field)) := by
  obtain ⟨value, found⟩ :=
    Option.isSome_iff_exists.mp ((isParameter_iff settings).mp isParameter)
  have plain := not_isRecord_of_setting?_toEntries found
  have stands := setting?_toEntries_eq contentLayer givenLayer passed settled isParameter
  rw [found, setting?_merged contentLayer givenLayer isParameter] at stands
  -- A layer that gives nothing passes on what stands below it.
  have above := Value.or_eq_some_of_layered stands.symm plain
  rw [found, ← above]
  cases atGiven : given.setting? name field with
  | some _ => rfl
  | none =>
      rw [atGiven] at above
      exact above.trans (Value.or_eq_some_of_layered above plain).symm

end Merged

variable {document : Document} {profile : Option Key} {overrides : Value}

/-- Settings are merged from what the profile and the overrides contribute. -/
theorem merge_of_contributes
    (contributes : document.Contributes profile content)
    (overriding : overrides.Contributes given) :
    merge document profile overrides =
      .ok ((standard.toEntries.overlay content).overlay given) := by
  rw [← merge_eq contributes given]
  rw [Value.Contributes] at overriding
  split at overriding
  · rw [overriding]
  · rename_i falsy
    subst overriding
    have empty : ¬(Value.record []).isTruthy = true := Bool.false_ne_true
    simp only [merge, if_neg falsy, if_neg empty]

/-- Settings that are loaded would pass the check themselves. -/
theorem check_toEntries_of_load
    {settings : Settings}
    (contributes : document.Contributes profile content)
    (overriding : overrides.Contributes given)
    (contentLayer : IsLayer content)
    (givenLayer : IsLayer given)
    (loaded : load document profile overrides = .ok settings) :
    check (.record settings.toEntries) = .ok [] := by
  obtain ⟨merged, mergedTo, passed, settled⟩ := load_eq_ok_iff.mp loaded
  rw [merge_of_contributes contributes overriding] at mergedTo
  cases mergedTo
  rw [← passed]
  exact check_congr (hasSections_toEntries settings) (hasSections_merged contentLayer givenLayer)
    fun name field isParameter =>
      setting?_toEntries_eq contentLayer givenLayer passed settled isParameter

/-- Whatever layers are loaded, the settings have at every parameter what the overrides give
there, or else the profile, or else the defaults, and the merged settings that they are read
from pass the check. Layers that give the same parameters are loaded to the same settings or
refused for the same reasons, whatever else they hold. -/
theorem load_precedence
    (contributes : document.Contributes profile content)
    (overriding : overrides.Contributes given)
    (contentLayer : IsLayer content)
    (givenLayer : IsLayer given) :
    (∀ settings, load document profile overrides = .ok settings →
      (∀ name field, IsParameter name field →
        settings.toEntries.setting? name field =
          (given.setting? name field).or
            ((content.setting? name field).or (standard.toEntries.setting? name field))) ∧
      ∃ merged, merge document profile overrides = .ok merged ∧
        check (.record merged) = .ok []) ∧
    ∀ {otherDocument : Document} {otherOverrides : Value} {otherContent otherGiven : Entries},
      otherDocument.Contributes profile otherContent →
      otherOverrides.Contributes otherGiven →
      IsLayer otherContent →
      IsLayer otherGiven →
      SameParameters content otherContent →
      SameParameters given otherGiven →
        load otherDocument profile otherOverrides = load document profile overrides := by
  have mergedTo := merge_of_contributes contributes overriding
  refine ⟨fun settings loaded => ?_, ?_⟩
  · obtain ⟨merged, same, passed, settled⟩ := load_eq_ok_iff.mp loaded
    refine ⟨fun name field isParameter => ?_, merged, same, passed⟩
    rw [mergedTo] at same
    cases same
    exact setting?_toEntries_merged contentLayer givenLayer passed settled isParameter
  · intro otherDocument otherOverrides otherContent otherGiven otherContributes otherOverriding
      otherContentLayer otherGivenLayer sameContent sameGiven
    have hasSections := hasSections_merged contentLayer givenLayer
    have othersHaveSections := hasSections_merged otherContentLayer otherGivenLayer
    have same :
        SameParameters ((standard.toEntries.overlay otherContent).overlay otherGiven)
          ((standard.toEntries.overlay content).overlay given) := by
      intro name field isParameter
      rw [setting?_merged contentLayer givenLayer isParameter,
        setting?_merged otherContentLayer otherGivenLayer isParameter,
        sameContent name field isParameter, sameGiven name field isParameter]
    rw [load, load, mergedTo, merge_of_contributes otherContributes otherOverriding,
      Outcome.mapError_ok, Outcome.mapError_ok, Outcome.ok_bind, Outcome.ok_bind,
      check_congr othersHaveSections hasSections same,
      read_congr othersHaveSections hasSections same]

/-- A right bound is laid over a shipped profile and the defaults, and what is no parameter is
passed over. -/
theorem load_precedence_of_right_bound :
    let content : Entries := [("sampler", .record [("column_count", .int 1920)])]
    let given : Entries := [("sampler", .record [("x_max", .int 20)])]
    let more : Entries :=
      [("sampler", .record [("colour", .text "blue"), ("x_max", .int 20)]), ("print", .null)]
    Document.shipped.Contributes (some "graphing-hires") content ∧
      (Value.record given).Contributes given ∧
      IsLayer content ∧
      IsLayer given ∧
      ∃ settings, load Document.shipped (some "graphing-hires") (.record given) = .ok settings ∧
        settings.toEntries.setting? "sampler" "x_max" = some (.int 20) ∧
        settings.toEntries.setting? "sampler" "column_count" = some (.int 1920) ∧
        settings.toEntries.setting? "sampler" "x_min" = some (.float (-10.0)) ∧
        load Document.shipped (some "graphing-hires") (.record more) = .ok settings := by
  intro content given more
  have contributes : Document.shipped.Contributes (some "graphing-hires") content := rfl
  have overriding : (Value.record given).Contributes given := rfl
  have contentLayer : IsLayer content := by decide
  have givenLayer : IsLayer given := by decide
  have same : SameParameters given more := by
    intro name field isParameter
    by_cases isSampler : name = "sampler"
    · subst isSampler
      have known : "colour" ≠ field := by
        rintro rfl
        exact absurd isParameter (by decide)
      simp [given, more, Entries.setting?, Entries.fieldsOf, Entries.find?, known]
    · have known : "print" ≠ name := by
        rintro rfl
        exact absurd isParameter.mem_sectionNames (by decide)
      simp [given, more, Entries.setting?, Entries.fieldsOf, Entries.find?, known,
        Ne.symm isSampler]
  obtain ⟨settings, loaded, -⟩ :
      ∃ settings, load Document.shipped (some "graphing-hires") (.record given) = .ok settings ∧
        true = true :=
    Outcome.exists_of_any (by decide +kernel)
  obtain ⟨precedence, influence⟩ :=
    load_precedence contributes overriding contentLayer givenLayer
  obtain ⟨stands, -⟩ := precedence settings loaded
  refine ⟨contributes, overriding, contentLayer, givenLayer, settings, loaded,
    stands _ _ rfl, stands _ _ rfl, stands _ _ rfl, ?_⟩
  have moreLayer : IsLayer more := by decide
  have moreOverriding : (Value.record more).Contributes more := rfl
  rw [influence contributes moreOverriding contentLayer moreLayer (fun _ _ _ => rfl) same, loaded]

end Settings
end Calculator
