import CrdSynthesis.Proofs.WellFormed

/-!
# Required properties of `spec`

A merged `spec` requires exactly the names that its author requires: merging itself makes nothing
mandatory, and it does not ask what the required names stand for. So a required name is an authored
property, or a reserved one that has become mandatory, or a name that `spec` does not describe at
all. The last two are a conflict with the generated properties that nothing rejects.

## Main definitions

* `Schema.requiredNames`, `authoredRequired`: what a schema and a fragment require
* `RequiresOwn`: a fragment requires only properties that it describes

## Main results

* `SpecUnion.mem_authored_iff`: authored names are those that are described and not reserved
* `mergeSchema_required`: when a merged `spec` requires authored properties only
-/

namespace CrdSynthesis

/-! ## What is required -/

/-- The names of the properties that must be given. -/
def Schema.requiredNames (schema : Schema) : List String := schema.required?.getD []

/-- The names that a fragment requires under `spec`. -/
def authoredRequired (fragment : Option Schema) : List String :=
  ((authoredSpec fragment).bind (·.required?)).getD []

/-- The fragment requires only properties that it describes itself. -/
def RequiresOwn (fragment : Option Schema) : Prop :=
  ∀ name ∈ authoredRequired fragment, name ∈ (authoredProperties fragment).keys

namespace SpecUnion

variable {fragment : Option Schema} {mode : Mode} {spec : Schema} {name : String}

/-- A joined `spec` requires what the fragment requires. -/
theorem requiredNames_eq (h : SpecUnion fragment mode spec) :
    spec.requiredNames = authoredRequired fragment := by
  rw [Schema.requiredNames, h.required, authoredRequired]

/-- A name is not described in a joined `spec` exactly if it is neither reserved nor authored. -/
theorem property?_eq_none_iff (h : SpecUnion fragment mode spec) :
    spec.property? name = none ↔
      name ∉ mode.reservedProperties.keys ∧ name ∉ (authoredProperties fragment).keys := by
  rw [h.property, Option.or_eq_none_iff, Table.find?_eq_none_iff, Table.find?_eq_none_iff]

/-- Of the names of a joined `spec`, the authored ones are those that are described and not
reserved; a reserved name is never authored. -/
theorem mem_authored_iff (h : SpecUnion fragment mode spec) :
    name ∈ (authoredProperties fragment).keys ↔
      name ∉ mode.reservedProperties.keys ∧ ∃ property, spec.property? name = some property := by
  rw [← Option.ne_none_iff_exists', ne_eq, h.property?_eq_none_iff]
  by_cases hr : name ∈ mode.reservedProperties.keys
  · simpa [hr] using h.disjoint name hr
  · simp [hr]

/-- What another mode reserves and this one does not is not described, if the fragment is accepted
in the other mode. -/
theorem property?_eq_none_of_reserved {other : Mode} {otherSpec : Schema}
    (h : SpecUnion fragment mode spec) (ho : SpecUnion fragment other otherSpec)
    (hr : name ∈ other.reservedProperties.keys) (hn : name ∉ mode.reservedProperties.keys) :
    spec.property? name = none :=
  h.property?_eq_none_iff.mpr ⟨hn, ho.disjoint name hr⟩

end SpecUnion

/-! ## Merged schemas -/

section Merged

variable {fragment : Option Schema} {mode : Mode} {schema : Schema}

/-- A merged schema has a `spec` that joins the two tables. -/
theorem specUnion_of_mergeSchema (h : mergeSchema fragment mode = .ok schema) :
    ∃ spec, schema.property? "spec" = some spec ∧ SpecUnion fragment mode spec := by
  obtain ⟨rfl, hdisjoint⟩ := mergeSchema_eq_mergedSchema h
  exact (mergedUnion_mergedSchema hdisjoint).spec

/-- A merged `spec` requires what its author requires. It requires authored properties only, and
so no reserved property and none that it does not describe, exactly if the fragment does. A
reserved property that is mandatory in one mode is required but not described in a mode that
does not reserve it. -/
theorem mergeSchema_required (h : mergeSchema fragment mode = .ok schema) :
    ∃ spec, schema.property? "spec" = some spec ∧
      spec.required? = (authoredSpec fragment).bind (·.required?) ∧
      ((∀ name ∈ spec.requiredNames, name ∈ (authoredProperties fragment).keys) ↔
        RequiresOwn fragment) ∧
      ((∀ name ∈ spec.requiredNames, name ∉ mode.reservedProperties.keys ∧
        ∃ property, spec.property? name = some property) ↔ RequiresOwn fragment) ∧
      ∀ other otherSchema, mergeSchema fragment other = .ok otherSchema →
        ∃ otherSpec, otherSchema.property? "spec" = some otherSpec ∧
          ∀ name ∈ spec.requiredNames, name ∈ mode.reservedProperties.keys →
            name ∉ other.reservedProperties.keys →
            name ∈ otherSpec.requiredNames ∧ otherSpec.property? name = none := by
  obtain ⟨spec, hspec, hunion⟩ := specUnion_of_mergeSchema h
  have hown : (∀ name ∈ spec.requiredNames, name ∈ (authoredProperties fragment).keys) ↔
      RequiresOwn fragment := by
    rw [hunion.requiredNames_eq, RequiresOwn]
  refine ⟨spec, hspec, hunion.required, hown, ?_, ?_⟩
  · rw [← hown]
    exact forall₂_congr fun _ _ => hunion.mem_authored_iff.symm
  · intro other otherSchema ho
    obtain ⟨otherSpec, hotherSpec, hotherUnion⟩ := specUnion_of_mergeSchema ho
    refine ⟨otherSpec, hotherSpec, ?_⟩
    intro name hname hr hn
    rw [hunion.requiredNames_eq, ← hotherUnion.requiredNames_eq] at hname
    exact ⟨hname, hotherUnion.property?_eq_none_of_reserved hunion hr hn⟩

end Merged

/-- A claim may require its own `size`, though it also describes what is reserved elsewhere. -/
theorem mergeSchema_required_bucket :
    ∃ schema spec, mergeSchema (some bucketFragment) .claim = .ok schema ∧
      schema.property? "spec" = some spec ∧ spec.required? = some ["size"] ∧
      ∀ name ∈ spec.requiredNames, name ∉ Mode.claim.reservedProperties.keys ∧
        ∃ property, spec.property? name = some property := by
  obtain ⟨spec, hspec, hrequired, -, hiff, -⟩ :=
    @mergeSchema_required (some bucketFragment) .claim _ rfl
  refine ⟨_, spec, rfl, hspec, hrequired, hiff.mpr ?_⟩
  rw [RequiresOwn]
  decide

/-- What a fragment requires beside its own `size` is a reserved property of a claim, which so
becomes mandatory, and nothing at all for a composite resource. -/
theorem mergeSchema_required_resourceRef :
    (∃ schema spec, mergeSchema (some requiringFragment) .claim = .ok schema ∧
      schema.property? "spec" = some spec ∧ "resourceRef" ∈ spec.requiredNames ∧
      "resourceRef" ∈ Mode.claim.reservedProperties.keys ∧
      "resourceRef" ∉ (authoredProperties (some requiringFragment)).keys) ∧
    ∃ schema spec, mergeSchema (some requiringFragment) .composite = .ok schema ∧
      schema.property? "spec" = some spec ∧ "resourceRef" ∈ spec.requiredNames ∧
      spec.property? "resourceRef" = none :=
  ⟨⟨_, _, rfl, rfl, by decide, by decide, by decide⟩, _, _, rfl, rfl, by decide, rfl⟩

end CrdSynthesis
