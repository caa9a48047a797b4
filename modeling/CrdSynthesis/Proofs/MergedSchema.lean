import CrdSynthesis.Proofs.SchemaMerge

/-!
# The merged schema as a union

A merged schema is an envelope that is the same for every fragment and both modes, around a
schema of `spec` that joins the reserved properties with the authored ones. Nothing that the
author describes is lost, changed or overwritten, so the merged schema tells what was authored.

## Main definitions

* `SpecUnion`: a schema of `spec` that joins what is reserved with what is authored
* `MergedUnion`: a merged schema
* `SameSpec`: two fragments say the same about `spec`

## Main results

* `mergeSchema_eq_mergedSchema`: a merged schema is made of what the fragment says
* `mergedSchema_inj`: and tells what that was
* `mergeSchema_union`: what a merged schema consists of
-/

namespace CrdSynthesis

/-! ## What a merged schema is -/

/-- A schema of `spec` that joins the reserved and the authored properties and has, beside its
type, nothing but what the author says. -/
structure SpecUnion (fragment : Option Schema) (mode : Mode) (spec : Schema) : Prop where
  type : spec.type? = some "object"
  keywords : spec.HasSpecKeywords
  property : ∀ name, spec.property? name =
    (mode.reservedProperties.find? name).or ((authoredProperties fragment).find? name)
  disjoint : ∀ name ∈ mode.reservedProperties.keys, name ∉ (authoredProperties fragment).keys
  count : spec.propertyNames.length =
    mode.reservedProperties.length + (authoredProperties fragment).length
  required : spec.required? = (authoredSpec fragment).bind (·.required?)
  description : spec.description? = (authoredSpec fragment).bind (·.description?)

/-- A schema with five properties, of which all but `spec` are fixed. -/
structure MergedUnion (fragment : Option Schema) (mode : Mode) (schema : Schema) : Prop where
  type : schema.type? = some "object"
  keywords : schema.HasRootKeywords
  properties : schema.propertyNames = ["apiVersion", "kind", "metadata", "spec", "status"]
  apiVersion : schema.property? "apiVersion" = some .string
  kind : schema.property? "kind" = some .string
  metadata : schema.property? "metadata" = some (.typed "object")
  spec : ∃ spec, schema.property? "spec" = some spec ∧ SpecUnion fragment mode spec
  status : schema.property? "status" = some (objectSchema ReservedProperties.status)

/-- Two fragments agree on all that is kept of them; no properties are as good as an
empty table. -/
structure SameSpec (fragment other : Option Schema) : Prop where
  properties : authoredProperties fragment = authoredProperties other
  required : (authoredSpec fragment).bind (·.required?) = (authoredSpec other).bind (·.required?)
  description :
    (authoredSpec fragment).bind (·.description?) = (authoredSpec other).bind (·.description?)

/-! ## The schema of `spec` -/

/-- No name is reserved twice. -/
theorem nodup_reservedProperties (mode : Mode) : mode.reservedProperties.keys.Nodup := by
  cases mode <;> decide

/-- The schema of `spec` sets the keywords that an author may set, the description and the
required names only if the template has them. -/
theorem hasSpecKeywords_specSchema (template : SpecTemplate) (properties : Table Schema) :
    (specSchema template properties).HasSpecKeywords := by
  rintro keyword ⟨setting, hs, rfl⟩
  rcases template with ⟨_ | description, _, _ | required⟩ <;>
    simp only [specSchema, Schema.settings, Option.map_none, Option.map_some, Option.toList_none,
      Option.toList_some, List.nil_append, List.cons_append, List.mem_cons,
      List.not_mem_nil, or_false] at hs
  · obtain rfl | rfl := hs <;> simp [Schema.Setting.keyword]
  · obtain rfl | rfl | rfl := hs <;> simp [Schema.Setting.keyword]
  · obtain rfl | rfl | rfl := hs <;> simp [Schema.Setting.keyword]
  · obtain rfl | rfl | rfl | rfl := hs <;> simp [Schema.Setting.keyword]

theorem hasRootKeywords_rootSchema (spec : Schema) : (rootSchema spec).HasRootKeywords := by
  rintro keyword ⟨setting, hs, rfl⟩
  simp only [rootSchema, objectSchema, Schema.settings, List.mem_cons, List.not_mem_nil,
    or_false] at hs
  obtain rfl | rfl := hs <;> simp [Schema.Setting.keyword]

section Merged

variable {fragment : Option Schema} {mode : Mode}

/-- A merged schema is made of what the fragment says about `spec`. -/
theorem mergeSchema_eq_mergedSchema {schema : Schema}
    (h : mergeSchema fragment mode = .ok schema) :
    schema = mergedSchema (keptTemplate fragment) mode ∧
      ∀ name ∈ mode.reservedProperties.keys, name ∉ (authoredProperties fragment).keys := by
  obtain ⟨template, ht, hr, rfl⟩ := mergeSchema_eq_ok_iff.mp h
  refine ⟨by rw [eq_keptTemplate_of_authoredTemplate ht], fun name hn ha => ?_⟩
  exact Bool.eq_false_iff.mp (hr name hn) (Table.contains_iff.mpr ha)

/-- Joined tables that have no name in common keep what either holds; the authored properties are
what is left without the reserved names. -/
theorem specUnion_specSchema
    (hd : ∀ name ∈ mode.reservedProperties.keys, name ∉ (authoredProperties fragment).keys) :
    SpecUnion fragment mode
      (specSchema (keptTemplate fragment)
        (mode.reservedProperties.insertAll (authoredProperties fragment))) where
  type := type?_specSchema ..
  keywords := hasSpecKeywords_specSchema _ _
  property name := by
    rw [property?_specSchema, Table.find?_insertAll (nodup_reservedProperties mode)]
  disjoint := hd
  count := by
    rw [Schema.propertyNames, properties?_specSchema, Option.getD_some, Table.keys,
      List.length_map, Table.length_insertAll (nodup_reservedProperties mode) hd]
  required := required?_specSchema ..
  description := description?_specSchema ..

theorem mergedUnion_mergedSchema
    (hd : ∀ name ∈ mode.reservedProperties.keys, name ∉ (authoredProperties fragment).keys) :
    MergedUnion fragment mode (mergedSchema (keptTemplate fragment) mode) where
  type := rfl
  keywords := hasRootKeywords_rootSchema _
  properties := rfl
  apiVersion := rfl
  kind := rfl
  metadata := rfl
  spec := ⟨_, property?_rootSchema_spec _, specUnion_specSchema hd⟩
  status := rfl

end Merged

/-! ## What a merged schema tells -/

/-- A merged schema tells what was said about `spec`. -/
theorem mergedSchema_inj {fragment other : Option Schema} {mode : Mode}
    (hf : ∀ name ∈ mode.reservedProperties.keys, name ∉ (authoredProperties fragment).keys)
    (ho : ∀ name ∈ mode.reservedProperties.keys, name ∉ (authoredProperties other).keys) :
    mergedSchema (keptTemplate fragment) mode = mergedSchema (keptTemplate other) mode ↔
      SameSpec fragment other := by
  constructor
  · intro h
    have hspec := Option.some.inj (congrArg (·.property? "spec") h)
    have hproperties := congrArg (·.properties?) hspec
    have hrequired := congrArg (·.required?) hspec
    have hdescription := congrArg (·.description?) hspec
    simp only [properties?_specSchema, required?_specSchema, description?_specSchema,
      Option.some.injEq] at hproperties hrequired hdescription
    exact ⟨(Table.insertAll_inj hf ho).mp hproperties, hrequired, hdescription⟩
  · rintro ⟨hproperties, hrequired, hdescription⟩
    change rootSchema (specSchema _ (mode.reservedProperties.insertAll (authoredProperties _))) =
      rootSchema (specSchema _ (mode.reservedProperties.insertAll (authoredProperties _)))
    rw [hproperties, specSchema, specSchema, keptTemplate, keptTemplate, hrequired, hdescription]

/-- A merged schema joins the reserved and the authored properties of `spec`; all else is the
same for every fragment and both modes. So two fragments merge to one schema exactly if they say
the same about `spec`. -/
theorem mergeSchema_union :
    (∀ fragment mode schema, mergeSchema fragment mode = .ok schema →
      MergedUnion fragment mode schema) ∧
    (∀ fragment other mode mode' schema schema', mergeSchema fragment mode = .ok schema →
      mergeSchema other mode' = .ok schema' →
      ∀ name, name ≠ "spec" → schema.property? name = schema'.property? name) ∧
    ∀ fragment other mode schema schema', mergeSchema fragment mode = .ok schema →
      mergeSchema other mode = .ok schema' → (schema = schema' ↔ SameSpec fragment other) := by
  refine ⟨fun _ _ _ h => ?_, fun _ _ _ _ _ _ h h' _ hn => ?_, fun _ _ _ _ _ h h' => ?_⟩
  · obtain ⟨rfl, hd⟩ := mergeSchema_eq_mergedSchema h
    exact mergedUnion_mergedSchema hd
  · obtain ⟨rfl, -⟩ := mergeSchema_eq_mergedSchema h
    obtain ⟨rfl, -⟩ := mergeSchema_eq_mergedSchema h'
    exact property?_rootSchema_of_ne hn _ _
  · obtain ⟨rfl, hf⟩ := mergeSchema_eq_mergedSchema h
    obtain ⟨rfl, ho⟩ := mergeSchema_eq_mergedSchema h'
    exact mergedSchema_inj hf ho

/-- A fragment with two properties, an empty description and one required name. -/
def bucketFragment : Schema :=
  .ofSettings [.table .properties [("spec", .ofSettings [
    .text .description "",
    .table .properties [("claimRef", Schema.string), ("size", Schema.integer)],
    .names .required ["size"],
    .text .type "object"])]]

/-- A fragment without properties. -/
def emptyFragment : Schema := objectSchema [("spec", .typed "object")]

/-- The name `claimRef` is free in a claim, and no properties are as good as no fragment. -/
theorem mergeSchema_union_bucket :
    ∃ schema empty none', mergeSchema (some bucketFragment) .claim = .ok schema ∧
      mergeSchema (some emptyFragment) .composite = .ok empty ∧
      mergeSchema none .composite = .ok none' ∧
      MergedUnion (some bucketFragment) .claim schema ∧
      schema.property? "status" = empty.property? "status" ∧ empty = none' :=
  ⟨_, _, _, rfl, rfl, rfl, mergeSchema_union.1 (some bucketFragment) .claim _ rfl,
    mergeSchema_union.2.1 (some bucketFragment) (some emptyFragment) .claim .composite _ _ rfl rfl
      "status" (by decide),
    (mergeSchema_union.2.2 (some emptyFragment) none .composite _ _ rfl rfl).mpr
      ⟨rfl, rfl, rfl⟩⟩

end CrdSynthesis
