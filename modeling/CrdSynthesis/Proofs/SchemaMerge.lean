import CrdSynthesis.Proofs.FragmentShape

/-!
# The merged schema

Merging succeeds for a well-shaped fragment that describes no reserved property of the mode.
The template of a fragment does not depend on the mode, so that two modes differ only in
the names they reserve.

## Main definitions

* `mergedSchema`: the schema of a template in a mode

## Main results

* `mergeSchema_of_template`: merging fails with the least reserved name that is described
* `mergeSchema_verdict`: when merging succeeds, and with which error it fails otherwise
* `leastKey?_claim`, `leastKey?_composite`: what the modes reserve beyond each other
-/

namespace CrdSynthesis

/-! ## Keywords of the built schemas -/

section Keywords

variable (template : SpecTemplate) (properties : Table Schema)

@[simp]
theorem properties?_specSchema :
    (specSchema template properties).properties? = some properties := by
  rcases template with ⟨_ | _, _, _ | _⟩ <;> rfl

@[simp]
theorem type?_specSchema : (specSchema template properties).type? = some "object" := by
  rcases template with ⟨_ | _, _, _ | _⟩ <;> rfl

/-- The required names of `spec` are those of the template. -/
@[simp]
theorem required?_specSchema : (specSchema template properties).required? = template.required := by
  rcases template with ⟨_ | _, _, _ | _⟩ <;> rfl

@[simp]
theorem description?_specSchema :
    (specSchema template properties).description? = template.description := by
  rcases template with ⟨_ | _, _, _ | _⟩ <;> rfl

@[simp]
theorem properties?_objectSchema : (objectSchema properties).properties? = some properties := rfl

end Keywords

/-- The properties of `spec` are those that it is made of. -/
theorem property?_specSchema (template : SpecTemplate) (properties : Table Schema)
    (name : String) :
    (specSchema template properties).property? name = Table.find? name properties := by
  rw [Schema.property?, properties?_specSchema, Option.bind_some]

@[simp]
theorem property?_rootSchema_spec (spec : Schema) :
    (rootSchema spec).property? "spec" = some spec := rfl

/-- Beside `spec`, the root is the same for every schema. -/
theorem property?_rootSchema_of_ne {name : String} (h : name ≠ "spec") (spec other : Schema) :
    (rootSchema spec).property? name = (rootSchema other).property? name := by
  simp [Schema.property?, rootSchema, Ne.symm h]

/-! ## Merging -/

/-- The schema of a template in a mode. -/
def mergedSchema (template : SpecTemplate) (mode : Mode) : Schema :=
  rootSchema (specSchema template (mode.reservedProperties.insertAll (template.properties.getD [])))

/-- A fragment of the wrong shape fails before any name is compared. -/
theorem mergeSchema_of_defect {fragment : Option Schema} {error : GenerationError}
    (h : authoredTemplate fragment = .error error) (mode : Mode) :
    mergeSchema fragment mode = .error error := by
  rw [mergeSchema, h]
  rfl

/-- Merging fails with the least reserved name that is described, if there is one. -/
theorem mergeSchema_of_template {fragment : Option Schema} {template : SpecTemplate}
    (h : authoredTemplate fragment = .ok template) (mode : Mode) :
    mergeSchema fragment mode =
      match mode.reservedProperties.leastKey? (authoredProperties fragment).contains with
      | some name => .error (.reservedFieldName name)
      | none => .ok (mergedSchema template mode) := by
  rw [mergeSchema, h, ← properties_of_authoredTemplate h]
  change (mergeProperties _ _).bind _ = _
  unfold mergeProperties
  cases Table.leastKey? (template.properties.getD []).contains mode.reservedProperties <;> rfl

/-- Merging succeeds exactly if the fragment has a template that takes no reserved name. -/
theorem mergeSchema_eq_ok_iff {fragment : Option Schema} {mode : Mode} {schema : Schema} :
    mergeSchema fragment mode = .ok schema ↔
      ∃ template, authoredTemplate fragment = .ok template ∧
        (∀ name ∈ mode.reservedProperties.keys,
          (authoredProperties fragment).contains name = false) ∧
        schema = mergedSchema template mode := by
  cases h : authoredTemplate fragment with
  | error error =>
    rw [mergeSchema_of_defect h]
    simp
  | ok template =>
    rw [mergeSchema_of_template h, ← Table.leastKey?_eq_none_iff]
    split <;> rename_i hl <;> simp [hl, eq_comm]

/-! ## The verdict on a fragment -/

section Verdict

variable {fragment : Schema}

/-- A fragment is rejected for its first defect, whatever the mode. -/
theorem mergeSchema_of_firstDefect {defect : TemplateDefect} (h : fragment.FirstDefect defect)
    (mode : Mode) : mergeSchema (some fragment) mode = .error (.malformedTemplate defect) := by
  refine mergeSchema_of_defect ?_ mode
  rw [authoredTemplate, Schema.specTemplate_of_firstDefect h]
  rfl

/-- A fragment of the right shape is rejected for a reserved name, or merged as it is. -/
theorem mergeSchema_of_wellShaped (h : fragment.WellShaped) (mode : Mode) :
    mergeSchema (some fragment) mode =
      match mode.reservedProperties.leastKey? (authoredProperties (some fragment)).contains with
      | some name => .error (.reservedFieldName name)
      | none => .ok (mergedSchema (keptTemplate (some fragment)) mode) := by
  refine mergeSchema_of_template ?_ mode
  rw [authoredTemplate, Schema.specTemplate_of_wellShaped h]
  rfl

/-- A fragment that is malformed in one mode is malformed in every mode. -/
theorem mergeSchema_eq_malformed_iff {defect : TemplateDefect} {mode : Mode} :
    mergeSchema (some fragment) mode = .error (.malformedTemplate defect) ↔
      fragment.FirstDefect defect := by
  rw [← Schema.specTemplate_eq_error_iff]
  cases ht : fragment.specTemplate with
  | error first =>
    have hdefect : authoredTemplate (some fragment) = .error (.malformedTemplate first) := by
      rw [authoredTemplate, ht]
      rfl
    rw [mergeSchema_of_defect hdefect]
    simp
  | ok template =>
    have hshaped : authoredTemplate (some fragment) = .ok template := by
      rw [authoredTemplate, ht]
      rfl
    rw [mergeSchema_of_template hshaped]
    split <;> simp

/-- The reserved name that is reported is the least one of those that the fragment describes. -/
theorem mergeSchema_eq_reserved_iff {name : String} {mode : Mode} :
    mergeSchema (some fragment) mode = .error (.reservedFieldName name) ↔
      fragment.WellShaped ∧
        Table.IsLeastName (fun other => other ∈ mode.reservedProperties.keys ∧
          other ∈ (authoredProperties (some fragment)).keys) name := by
  rw [← Table.leastKey?_contains_eq_some_iff]
  by_cases hw : fragment.WellShaped
  · rw [mergeSchema_of_wellShaped hw]
    split <;> rename_i hl <;> simp [hl, hw]
  · obtain ⟨first, hf⟩ := Schema.not_wellShaped_iff.mp hw
    rw [mergeSchema_of_firstDefect hf]
    simp [hw]

/-- A fragment is merged exactly if it has the right shape and describes no reserved name. -/
theorem exists_mergeSchema_eq_ok_iff {mode : Mode} :
    (∃ schema, mergeSchema (some fragment) mode = .ok schema) ↔
      fragment.WellShaped ∧ ∀ name ∈ mode.reservedProperties.keys,
        name ∉ (authoredProperties (some fragment)).keys := by
  rw [← Table.leastKey?_contains_eq_none_iff]
  by_cases hw : fragment.WellShaped
  · rw [mergeSchema_of_wellShaped hw]
    split <;> rename_i hl <;> simp [hl, hw]
  · obtain ⟨first, hf⟩ := Schema.not_wellShaped_iff.mp hw
    rw [mergeSchema_of_firstDefect hf]
    simp [hw]

/-- Without a fragment nothing can be wrong. -/
theorem mergeSchema_none (mode : Mode) : mergeSchema none mode = .ok (mergedSchema {} mode) := by
  refine mergeSchema_eq_ok_iff.mpr ⟨{}, rfl, fun name _ => rfl, rfl⟩

/-- Merging fails for the shape of a fragment or for a reserved name, and for nothing else. -/
theorem mergeSchema_eq_error {fragment : Option Schema} {mode : Mode} {error : GenerationError}
    (h : mergeSchema fragment mode = .error error) :
    (∃ defect, error = .malformedTemplate defect) ∨ ∃ name, error = .reservedFieldName name := by
  cases ht : authoredTemplate fragment with
  | error first =>
    rw [mergeSchema_of_defect ht] at h
    cases h
    exact .inl (malformed_of_authoredTemplate ht)
  | ok template =>
    rw [mergeSchema_of_template ht] at h
    split at h
    · cases h
      exact .inr ⟨_, rfl⟩
    · cases h

end Verdict

/-- A fragment is malformed if it is not well-shaped, for its first defect and in every mode
alike; a well-shaped one fails for the least reserved name that it describes, if there is one,
and merges otherwise. Without a fragment merging always succeeds. -/
theorem mergeSchema_verdict (fragment : Schema) (mode : Mode) :
    ((∃ defect, mergeSchema (some fragment) mode = .error (.malformedTemplate defect)) ↔
      ¬ fragment.WellShaped) ∧
    (∀ defect, mergeSchema (some fragment) mode = .error (.malformedTemplate defect) ↔
      fragment.FirstDefect defect) ∧
    (∀ name, mergeSchema (some fragment) mode = .error (.reservedFieldName name) ↔
      fragment.WellShaped ∧
        Table.IsLeastName (fun other => other ∈ mode.reservedProperties.keys ∧
          other ∈ (authoredProperties (some fragment)).keys) name) ∧
    ((∃ schema, mergeSchema (some fragment) mode = .ok schema) ↔
      fragment.WellShaped ∧ ∀ name ∈ mode.reservedProperties.keys,
        name ∉ (authoredProperties (some fragment)).keys) ∧
    (∀ error, mergeSchema (some fragment) mode = .error error →
      (∃ defect, error = .malformedTemplate defect) ∨ ∃ name, error = .reservedFieldName name) ∧
    ∃ schema, mergeSchema none mode = .ok schema := by
  refine ⟨?_, fun _ => mergeSchema_eq_malformed_iff, fun _ => mergeSchema_eq_reserved_iff,
    exists_mergeSchema_eq_ok_iff, fun _ => mergeSchema_eq_error, _, mergeSchema_none mode⟩
  rw [Schema.not_wellShaped_iff]
  exact exists_congr fun _ => mergeSchema_eq_malformed_iff

/-! ## What the modes reserve -/

/-- A claim reserves one name that a composite resource does not. -/
theorem leastKey?_claim {p : String → Bool}
    (h : ∀ name ∈ Mode.composite.reservedProperties.keys, p name = false) :
    Mode.claim.reservedProperties.leastKey? p =
      if p "resourceRef" then some "resourceRef" else none := by
  have hc : p "compositionRef" = false := h _ (by decide)
  have hs : p "compositionSelector" = false := h _ (by decide)
  have hw : p "writeConnectionSecretToRef" = false := h _ (by decide)
  simp [Mode.reservedProperties, ReservedProperties.claim, Table.leastKey?, hc, hs, hw,
    Table.lesser]

/-- A composite resource reserves two names that a claim does not, of which the first in the order
of names is reported. -/
theorem leastKey?_composite {p : String → Bool}
    (h : ∀ name ∈ Mode.claim.reservedProperties.keys, p name = false) :
    Mode.composite.reservedProperties.leastKey? p =
      if p "claimRef" then some "claimRef"
      else if p "resourceRefs" then some "resourceRefs" else none := by
  have hc : p "compositionRef" = false := h _ (by decide)
  have hs : p "compositionSelector" = false := h _ (by decide)
  have hw : p "writeConnectionSecretToRef" = false := h _ (by decide)
  have hlt : ¬ "resourceRefs" < "claimRef" := by decide
  by_cases hr : p "resourceRefs" = true <;>
    simp [Mode.reservedProperties, ReservedProperties.composite, Table.leastKey?, hc, hs, hw, hr,
      Table.lesser, hlt]

end CrdSynthesis
