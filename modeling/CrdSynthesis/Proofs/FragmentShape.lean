import CrdSynthesis.Proofs.Table
import CrdSynthesis.SchemaMerge

/-!
# The shape of a fragment

An author describes `spec` and nothing above it. A fragment of any other shape is rejected for
the first of its defects, in the order type, keywords and properties of the root, then type and
keywords of `spec`; what a fragment of the right shape says about `spec` is kept unchanged.

## Main definitions

* `Schema.Sets`: the keywords that a schema sets
* `Schema.WellShaped`: fragments that describe `spec` and nothing else
* `Schema.FirstDefect`: what is wrong first with a fragment
* `authoredSpec`, `authoredProperties`: what a fragment describes

## Main results

* `Schema.specTemplate_eq_error_iff`: a fragment is rejected for its first defect
* `Schema.specTemplate_eq_ok_iff`: the template of a fragment of the right shape
* `Schema.not_wellShaped_iff`: a fragment has a defect exactly if it has another shape
-/

namespace CrdSynthesis

namespace Schema

variable {schema : Schema}

/-! ## Keywords that are set -/

/-- The schema sets the keyword, to whatever value. -/
def Sets (schema : Schema) (keyword : Keyword) : Prop :=
  ∃ setting ∈ schema.settings, setting.keyword = keyword

/-- The check of keywords, as a statement on the keywords that are set. -/
theorem setsOnly_iff {keywords : List Keyword} :
    schema.setsOnly keywords = true ↔ ∀ keyword, schema.Sets keyword → keyword ∈ keywords := by
  simp only [setsOnly, List.all_eq_true, List.contains_iff_mem]
  constructor
  · rintro h _ ⟨setting, hs, rfl⟩
    exact h setting hs
  · exact fun h setting hs => h _ ⟨setting, hs, rfl⟩

/-- The type of the schema is not set, or is `object`. -/
def IsObject (schema : Schema) : Prop := ∀ type, schema.type? = some type → type = "object"

/-- A type other than `object` is found if it is set. -/
theorem otherType?_eq_some_iff {type : String} :
    schema.otherType? = some type ↔ schema.type? = some type ∧ type ≠ "object" := by
  simp [otherType?, Option.filter_eq_some_iff]

theorem otherType?_eq_none_iff : schema.otherType? = none ↔ schema.IsObject := by
  simp [otherType?, Option.filter_eq_none_iff, IsObject]

/-- The schema of a property, if it is described. -/
def property? (schema : Schema) (name : String) : Option Schema :=
  schema.properties?.bind (Table.find? name)

/-- The names of the described properties. -/
def propertyNames (schema : Schema) : List String := Table.keys (schema.properties?.getD [])

/-! ## Defects -/

/-- Nothing but the type and the properties is set. -/
def HasRootKeywords (schema : Schema) : Prop :=
  ∀ keyword, schema.Sets keyword → keyword = .text .type ∨ keyword = .table .properties

/-- Nothing but the type, the properties, the required names and the description is set. -/
def HasSpecKeywords (schema : Schema) : Prop :=
  ∀ keyword, schema.Sets keyword → keyword = .text .type ∨ keyword = .table .properties ∨
    keyword = .names .required ∨ keyword = .text .description

/-- The fragment is an object of which at most `spec` is described. -/
structure DescribesSpecAlone (fragment : Schema) : Prop where
  type : fragment.IsObject
  keywords : fragment.HasRootKeywords
  properties : ∀ name ∈ fragment.propertyNames, name = "spec"

/-- The fragment describes at most `spec`, which is an object with fields. -/
structure WellShaped (fragment : Schema) : Prop extends fragment.DescribesSpecAlone where
  specType : ∀ spec, fragment.property? "spec" = some spec → spec.IsObject
  specKeywords : ∀ spec, fragment.property? "spec" = some spec → spec.HasSpecKeywords

/-- The fragment has a defect and none that is looked for before it. -/
def FirstDefect (fragment : Schema) : TemplateDefect → Prop
  | .rootType type => fragment.type? = some type ∧ type ≠ "object"
  | .rootKeyword => fragment.IsObject ∧ ¬ fragment.HasRootKeywords
  | .rootProperty name =>
    fragment.IsObject ∧ fragment.HasRootKeywords ∧
      Table.IsLeastName (fun other => other ∈ fragment.propertyNames ∧ other ≠ "spec") name
  | .specType type =>
    fragment.DescribesSpecAlone ∧
      ∃ spec, fragment.property? "spec" = some spec ∧ spec.type? = some type ∧ type ≠ "object"
  | .specKeyword =>
    fragment.DescribesSpecAlone ∧
      ∃ spec, fragment.property? "spec" = some spec ∧ spec.IsObject ∧ ¬ spec.HasSpecKeywords

theorem setsOnly_rootKeywords_iff :
    schema.setsOnly rootKeywords = true ↔ schema.HasRootKeywords := by
  simp [setsOnly_iff, rootKeywords, HasRootKeywords]

theorem setsOnly_specKeywords_iff :
    schema.setsOnly specKeywords = true ↔ schema.HasSpecKeywords := by
  simp [setsOnly_iff, specKeywords, HasSpecKeywords]

/-- The name that is reported is the least one besides `spec`. -/
theorem leastKey?_other_eq_some_iff {name : String} :
    Table.leastKey? (· != "spec") (schema.properties?.getD []) = some name ↔
      Table.IsLeastName (fun other => other ∈ schema.propertyNames ∧ other ≠ "spec") name := by
  rw [Table.leastKey?_eq_some_iff]
  simp only [bne_iff_ne, propertyNames]

theorem not_isObject_iff :
    ¬ schema.IsObject ↔ ∃ type, schema.type? = some type ∧ type ≠ "object" := by
  simp [IsObject]

end Schema

/-! ## What is described under `spec` -/

/-- The schema of `spec` that a fragment gives. -/
def authoredSpec (fragment : Option Schema) : Option Schema := fragment.bind (·.property? "spec")

/-- The properties that a fragment describes under `spec`. -/
def authoredProperties (fragment : Option Schema) : Table Schema :=
  ((fragment.bind (·.property? "spec")).bind (·.properties?)).getD []

/-- What a fragment says about `spec`, whatever its shape. -/
def keptTemplate (fragment : Option Schema) : SpecTemplate where
  description := (authoredSpec fragment).bind (·.description?)
  properties := (authoredSpec fragment).bind (·.properties?)
  required := (authoredSpec fragment).bind (·.required?)

namespace Schema

/-! ## The first defect decides -/

section Template

variable {fragment : Schema}

/-- The steps before `spec` is looked at. -/
theorem specTemplate_of_object (ht : fragment.IsObject) (hk : fragment.HasRootKeywords) :
    fragment.specTemplate =
      match Table.leastKey? (· != "spec") (fragment.properties?.getD []) with
      | some name => .error (.rootProperty name)
      | none =>
        match fragment.property? "spec" with
        | some spec => spec.specNodeTemplate
        | none => .ok {} := by
  unfold specTemplate
  rw [otherType?_eq_none_iff.mpr ht]
  dsimp only
  rw [if_pos (setsOnly_rootKeywords_iff.mpr hk), property?]
  cases fragment.properties? <;> rfl

/-- For a fragment that describes at most `spec`, all depends on that node. -/
theorem specTemplate_of_describesSpecAlone (h : fragment.DescribesSpecAlone) :
    fragment.specTemplate =
      match fragment.property? "spec" with
      | some spec => spec.specNodeTemplate
      | none => .ok {} := by
  have hl : Table.leastKey? (· != "spec") (fragment.properties?.getD []) = none := by
    rw [Table.leastKey?_eq_none_iff]
    intro name hn
    simp [h.properties name hn]
  rw [specTemplate_of_object h.type h.keywords, hl]

/-- A fragment is rejected for the defect that is looked for first. -/
theorem specTemplate_of_firstDefect {defect : TemplateDefect} (h : fragment.FirstDefect defect) :
    fragment.specTemplate = .error defect := by
  cases defect with
  | rootType type =>
    unfold specTemplate
    rw [otherType?_eq_some_iff.mpr h]
  | rootKeyword =>
    obtain ⟨ht, hk⟩ := h
    unfold specTemplate
    rw [otherType?_eq_none_iff.mpr ht]
    dsimp only
    rw [if_neg (mt setsOnly_rootKeywords_iff.mp hk)]
  | rootProperty name =>
    obtain ⟨ht, hk, hleast⟩ := h
    rw [specTemplate_of_object ht hk, leastKey?_other_eq_some_iff.mpr hleast]
  | specType type =>
    obtain ⟨halone, spec, hs, hother⟩ := h
    rw [specTemplate_of_describesSpecAlone halone, hs]
    dsimp only
    rw [specNodeTemplate, otherType?_eq_some_iff.mpr hother]
  | specKeyword =>
    obtain ⟨halone, spec, hs, ht, hk⟩ := h
    rw [specTemplate_of_describesSpecAlone halone, hs]
    dsimp only
    rw [specNodeTemplate, otherType?_eq_none_iff.mpr ht]
    dsimp only
    rw [if_neg (mt setsOnly_specKeywords_iff.mp hk)]

/-- A fragment of the right shape is kept as it is. -/
theorem specTemplate_of_wellShaped (h : fragment.WellShaped) :
    fragment.specTemplate = .ok (keptTemplate (some fragment)) := by
  rw [specTemplate_of_describesSpecAlone h.toDescribesSpecAlone, keptTemplate, authoredSpec,
    Option.bind_some]
  cases hs : fragment.property? "spec" with
  | none => rfl
  | some spec =>
    dsimp only
    rw [specNodeTemplate, otherType?_eq_none_iff.mpr (h.specType spec hs)]
    dsimp only
    rw [if_pos (setsOnly_specKeywords_iff.mpr (h.specKeywords spec hs))]
    rfl

/-- A fragment that is not well-shaped has a first defect: the checks follow one another, and each
one fails with its defect or lets the next one decide. -/
theorem wellShaped_or_firstDefect (fragment : Schema) :
    fragment.WellShaped ∨ ∃ defect, fragment.FirstDefect defect := by
  by_cases ht : fragment.IsObject
  case neg =>
    obtain ⟨type, hother⟩ := not_isObject_iff.mp ht
    exact .inr ⟨.rootType type, hother⟩
  by_cases hk : fragment.HasRootKeywords
  case neg => exact .inr ⟨.rootKeyword, ht, hk⟩
  cases hl : Table.leastKey? (· != "spec") (fragment.properties?.getD []) with
  | some name => exact .inr ⟨.rootProperty name, ht, hk, leastKey?_other_eq_some_iff.mp hl⟩
  | none =>
    have halone : fragment.DescribesSpecAlone :=
      ⟨ht, hk, fun name hn => by simpa using Table.leastKey?_eq_none_iff.mp hl name hn⟩
    cases hs : fragment.property? "spec" with
    | none => exact .inl ⟨halone, by simp [hs], by simp [hs]⟩
    | some spec =>
      by_cases hst : spec.IsObject
      case neg =>
        obtain ⟨type, hother⟩ := not_isObject_iff.mp hst
        exact .inr ⟨.specType type, halone, spec, hs, hother⟩
      by_cases hsk : spec.HasSpecKeywords
      case neg => exact .inr ⟨.specKeyword, halone, spec, hs, hst, hsk⟩
      exact .inl ⟨halone, by simpa [hs] using hst, by simpa [hs] using hsk⟩

/-- A fragment is rejected for its first defect. -/
theorem specTemplate_eq_error_iff {defect : TemplateDefect} :
    fragment.specTemplate = .error defect ↔ fragment.FirstDefect defect := by
  refine ⟨fun h => ?_, specTemplate_of_firstDefect⟩
  obtain hw | ⟨first, hf⟩ := fragment.wellShaped_or_firstDefect
  · rw [specTemplate_of_wellShaped hw] at h
    cases h
  · rw [specTemplate_of_firstDefect hf] at h
    cases h
    exact hf

/-- A fragment is accepted exactly if it has the right shape, and then as it is. -/
theorem specTemplate_eq_ok_iff {template : SpecTemplate} :
    fragment.specTemplate = .ok template ↔
      fragment.WellShaped ∧ template = keptTemplate (some fragment) := by
  constructor
  · intro h
    obtain hw | ⟨first, hf⟩ := fragment.wellShaped_or_firstDefect
    · rw [specTemplate_of_wellShaped hw] at h
      cases h
      exact ⟨hw, rfl⟩
    · rw [specTemplate_of_firstDefect hf] at h
      cases h
  · rintro ⟨hw, rfl⟩
    exact specTemplate_of_wellShaped hw

/-- A fragment has a defect exactly if it has another shape. -/
theorem not_wellShaped_iff : ¬ fragment.WellShaped ↔ ∃ defect, fragment.FirstDefect defect := by
  constructor
  · exact fragment.wellShaped_or_firstDefect.resolve_left
  · rintro ⟨defect, hf⟩ hw
    have h := specTemplate_of_wellShaped hw
    rw [specTemplate_of_firstDefect hf] at h
    cases h

end Template

end Schema

/-- The template of an optional fragment is what the fragment says about `spec`. -/
theorem eq_keptTemplate_of_authoredTemplate {fragment : Option Schema} {template : SpecTemplate}
    (h : authoredTemplate fragment = .ok template) : template = keptTemplate fragment := by
  cases fragment with
  | none =>
    cases h
    rfl
  | some fragment =>
    cases ht : fragment.specTemplate with
    | error defect =>
      rw [authoredTemplate, ht] at h
      cases h
    | ok other =>
      rw [authoredTemplate, ht] at h
      cases h
      exact (Schema.specTemplate_eq_ok_iff.mp ht).2

/-- Nothing but the shape of a fragment can be wrong with it. -/
theorem malformed_of_authoredTemplate {fragment : Option Schema} {error : GenerationError}
    (h : authoredTemplate fragment = .error error) :
    ∃ defect, error = .malformedTemplate defect := by
  cases fragment with
  | none => cases h
  | some fragment =>
    cases ht : fragment.specTemplate with
    | error defect =>
      rw [authoredTemplate, ht] at h
      cases h
      exact ⟨defect, rfl⟩
    | ok template =>
      rw [authoredTemplate, ht] at h
      cases h

theorem properties_of_authoredTemplate {fragment : Option Schema} {template : SpecTemplate}
    (h : authoredTemplate fragment = .ok template) :
    template.properties.getD [] = authoredProperties fragment := by
  rw [eq_keptTemplate_of_authoredTemplate h]
  rfl

end CrdSynthesis
