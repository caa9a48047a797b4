import CrdSynthesis.Proofs.MergedSchema

/-!
# Well-formed schemas

A schema is well-formed if every schema in it has a type and requires no property that it does
not describe. What merging adds is well-formed in both modes, so that a merged schema is
well-formed exactly if the authored properties are and no unknown property is required.

## Main definitions

* `Schema.Nests`: the schemas right within a schema
* `Schema.WellFormed`: a schema that is well-formed at any depth

## Main results

* `Schema.wellFormed_iff_of_fields`: a schema that describes fields and nothing else
* `wellFormed_reservedProperties`, `wellFormed_status`: what merging adds is well-formed
* `wellFormed_mergeSchema_iff`: when a merged schema is well-formed
-/

namespace CrdSynthesis

namespace Schema

/-! ## Schemas within schemas -/

/-- A schema stands right within another one: as that of a property, of the items, or of the
properties that are not described. -/
inductive Nests (schema : Schema) : Schema → Prop
  | property {name : String} {child : Schema}
    (h : (name, child) ∈ schema.properties?.getD []) : Nests schema child
  | everyItem {child : Schema} (h : schema.items? = some (.each child)) : Nests schema child
  | oneItem {children : List Schema} {child : Schema} (h : schema.items? = some (.list children))
    (hm : child ∈ children) : Nests schema child
  | additional {child : Schema} (h : schema.additional? .properties = some (.schema child)) :
    Nests schema child

/-- The schema has a type and describes every property that it requires, and so does every
schema within it. -/
inductive WellFormed : Schema → Prop
  | intro {schema : Schema} (type : ∃ type, schema.type? = some type)
    (required : ∀ name ∈ schema.required?.getD [], name ∈ schema.propertyNames)
    (nested : ∀ child, schema.Nests child → WellFormed child) : WellFormed schema

variable {schema items : Schema} {properties : Table Schema}

/-- A schema is well-formed if its own keywords are and every schema within it is. -/
theorem wellFormed_iff :
    schema.WellFormed ↔ (∃ type, schema.type? = some type) ∧
      (∀ name ∈ schema.required?.getD [], name ∈ schema.propertyNames) ∧
      ∀ child, schema.Nests child → child.WellFormed := by
  constructor
  · rintro ⟨htype, hrequired, hnested⟩
    exact ⟨htype, hrequired, hnested⟩
  · rintro ⟨htype, hrequired, hnested⟩
    exact .intro htype hrequired hnested

/-- A schema that says nothing about items and other properties holds schemas as properties only;
it is well-formed if what it requires is described, by well-formed schemas. -/
theorem wellFormed_iff_of_fields (ht : ∃ type, schema.type? = some type) (hi : schema.items? = none)
    (ha : schema.additional? .properties = none) :
    schema.WellFormed ↔
      (∀ name ∈ schema.required?.getD [], name ∈ schema.propertyNames) ∧
        ∀ entry ∈ schema.properties?.getD [], entry.2.WellFormed := by
  rw [wellFormed_iff]
  constructor
  · rintro ⟨-, hrequired, hnested⟩
    refine ⟨hrequired, ?_⟩
    rintro ⟨name, child⟩ hm
    exact hnested child (.property hm)
  · rintro ⟨hrequired, hproperties⟩
    refine ⟨ht, hrequired, ?_⟩
    intro child hn
    cases hn with
    | property hm => exact hproperties _ hm
    | everyItem h => rw [hi] at h; cases h
    | oneItem h _ => rw [hi] at h; cases h
    | additional h => rw [ha] at h; cases h

/-! ## Common shapes -/

/-- A schema in which no other one stands is well-formed if it has a type and requires nothing. -/
theorem wellFormed_of_leaf (ht : ∃ type, schema.type? = some type) (hr : schema.required? = none)
    (hp : schema.properties? = none) (hi : schema.items? = none)
    (ha : schema.additional? .properties = none) : schema.WellFormed := by
  rw [wellFormed_iff_of_fields ht hi ha, hr, hp]
  exact ⟨List.forall_mem_nil _, List.forall_mem_nil _⟩

theorem wellFormed_typed (type : String) : (typed type).WellFormed :=
  wellFormed_of_leaf ⟨type, rfl⟩ rfl rfl rfl rfl

theorem wellFormed_choice (values : List String) : (choice values).WellFormed :=
  wellFormed_of_leaf ⟨"string", rfl⟩ rfl rfl rfl rfl

/-- A record is well-formed if it describes what it requires by well-formed schemas. -/
theorem wellFormed_record {required : List String} (hr : ∀ name ∈ required, name ∈ properties.keys)
    (hp : ∀ entry ∈ properties, entry.2.WellFormed) : (record required properties).WellFormed := by
  apply (wellFormed_iff_of_fields ⟨"object", rfl⟩ rfl rfl).mpr
  exact ⟨hr, hp⟩

/-- An object that requires nothing is well-formed if its properties are. -/
theorem wellFormed_objectSchema_iff :
    (objectSchema properties).WellFormed ↔ ∀ entry ∈ properties, entry.2.WellFormed := by
  rw [wellFormed_iff_of_fields ⟨"object", rfl⟩ rfl rfl]
  exact and_iff_right (List.forall_mem_nil _)

/-- An array of well-formed items is well-formed, whatever its other keywords. -/
theorem wellFormed_of_items (ht : ∃ type, schema.type? = some type) (hr : schema.required? = none)
    (hp : schema.properties? = none) (hi : schema.items? = some (.each items))
    (ha : schema.additional? .properties = none) (h : items.WellFormed) : schema.WellFormed := by
  rw [wellFormed_iff, hr]
  refine ⟨ht, List.forall_mem_nil _, ?_⟩
  intro child hn
  cases hn with
  | property hm => rw [hp] at hm; cases hm
  | everyItem hc => rw [hi] at hc; cases hc; exact h
  | oneItem hc _ => rw [hi] at hc; cases hc
  | additional hc => rw [ha] at hc; cases hc

/-- A record of strings requires some of them. -/
theorem wellFormed_strings {required names : List String} (h : ∀ name ∈ required, name ∈ names) :
    (ReservedProperties.strings required names).WellFormed := by
  apply wellFormed_record
  · intro name hn
    simpa [Table.keys] using h name hn
  · intro entry hm
    obtain ⟨name, -, rfl⟩ := List.mem_map.mp hm
    exact wellFormed_typed "string"

end Schema

open Schema

/-! ## What merging adds -/

/-- The labels of a selector are not described one by one, but their values are. -/
theorem wellFormed_compositionSelector : ReservedProperties.compositionSelector.WellFormed := by
  apply wellFormed_record
  · decide
  · intro entry hm
    obtain rfl := List.mem_singleton.mp hm
    refine .intro ⟨"object", rfl⟩ (List.forall_mem_nil _) ?_
    intro child hn
    cases hn with
    | property hm => cases hm
    | everyItem h => cases h
    | oneItem h _ => cases h
    | additional h => cases h; exact wellFormed_typed "string"

/-- A condition is described by plain texts and a time. -/
theorem wellFormed_conditions : ReservedProperties.conditions.WellFormed := by
  have hcondition : ReservedProperties.condition.WellFormed := by
    apply wellFormed_record
    · decide
    · rw [List.forall_mem_cons]
      refine ⟨wellFormed_of_leaf ⟨"string", rfl⟩ rfl rfl rfl rfl, ?_⟩
      intro entry hm
      simp only [List.mem_cons, List.not_mem_nil, or_false] at hm
      rcases hm with rfl | rfl | rfl | rfl <;> exact wellFormed_typed "string"
  exact wellFormed_of_items ⟨"array", rfl⟩ rfl rfl rfl rfl hcondition

/-- The reserved properties of both modes are well-formed. -/
theorem wellFormed_reservedProperties (mode : Mode) :
    ∀ entry ∈ mode.reservedProperties, entry.2.WellFormed := by
  have hreference : ReservedProperties.compositionRef.WellFormed := wellFormed_strings (by decide)
  have hselector := wellFormed_compositionSelector
  cases mode with
  | composite =>
    have hresources : (sequence (ReservedProperties.strings ["apiVersion", "kind", "name"]
        ["apiVersion", "kind", "name", "uid"])).WellFormed :=
      wellFormed_of_items ⟨"array", rfl⟩ rfl rfl rfl rfl (wellFormed_strings (by decide))
    simp only [Mode.reservedProperties, ReservedProperties.composite, List.forall_mem_cons]
    exact ⟨wellFormed_strings (by decide), hreference, hselector, hresources,
      wellFormed_strings (by decide), List.forall_mem_nil _⟩
  | claim =>
    simp only [Mode.reservedProperties, ReservedProperties.claim, List.forall_mem_cons]
    exact ⟨hreference, hselector, wellFormed_strings (by decide), wellFormed_strings (by decide),
      List.forall_mem_nil _⟩

theorem wellFormed_status : (objectSchema ReservedProperties.status).WellFormed := by
  rw [wellFormed_objectSchema_iff]
  simp only [ReservedProperties.status, List.forall_mem_cons]
  exact ⟨wellFormed_choice _, wellFormed_typed "integer", wellFormed_conditions,
    wellFormed_typed "integer", List.forall_mem_nil _⟩

/-! ## Merged schemas -/

/-- The schema of `spec` is well-formed if its properties are and it requires none but them. -/
theorem wellFormed_specSchema_iff {template : SpecTemplate} {properties : Table Schema} :
    (specSchema template properties).WellFormed ↔
      (∀ name ∈ template.required.getD [], name ∈ properties.keys) ∧
        ∀ entry ∈ properties, entry.2.WellFormed := by
  have hitems : (specSchema template properties).items? = none := by
    rcases template with ⟨_ | _, _, _ | _⟩ <;> rfl
  have hadditional : (specSchema template properties).additional? .properties = none := by
    rcases template with ⟨_ | _, _, _ | _⟩ <;> rfl
  rw [wellFormed_iff_of_fields ⟨_, type?_specSchema ..⟩ hitems hadditional, propertyNames,
    required?_specSchema, properties?_specSchema, Option.getD_some]

/-- Around `spec` everything is well-formed. -/
theorem wellFormed_rootSchema_iff {spec : Schema} :
    (rootSchema spec).WellFormed ↔ spec.WellFormed := by
  rw [rootSchema, wellFormed_objectSchema_iff]
  simp only [List.forall_mem_cons, Schema.string, wellFormed_typed, wellFormed_status,
    List.not_mem_nil, false_imp_iff, implies_true, and_true, true_and]

/-- A merged schema is well-formed exactly if the authored properties of `spec` are and
every required name is authored or reserved. The joined properties are those of both tables,
each unchanged. -/
theorem wellFormed_mergeSchema_iff {fragment : Option Schema} {mode : Mode} {schema : Schema}
    (h : mergeSchema fragment mode = .ok schema) :
    schema.WellFormed ↔
      (∀ entry ∈ authoredProperties fragment, entry.2.WellFormed) ∧
        ∀ name ∈ ((authoredSpec fragment).bind (·.required?)).getD [],
          name ∈ (authoredProperties fragment).keys ∨ name ∈ mode.reservedProperties.keys := by
  obtain ⟨rfl, hdisjoint⟩ := mergeSchema_eq_mergedSchema h
  have hnodup := nodup_reservedProperties mode
  change (rootSchema (specSchema (keptTemplate fragment)
    (mode.reservedProperties.insertAll (authoredProperties fragment)))).WellFormed ↔ _
  rw [wellFormed_rootSchema_iff, wellFormed_specSchema_iff]
  simp only [Table.mem_keys_insertAll_iff hnodup hdisjoint,
    Table.mem_insertAll_iff hnodup hdisjoint]
  constructor
  · rintro ⟨hrequired, hproperties⟩
    exact ⟨fun entry hm => hproperties entry (.inr hm), fun name hn => (hrequired name hn).symm⟩
  · rintro ⟨hproperties, hrequired⟩
    refine ⟨fun name hn => (hrequired name hn).symm, ?_⟩
    rintro entry (hm | hm)
    · exact wellFormed_reservedProperties mode entry hm
    · exact hproperties entry hm

/-- A fragment with one property that requires it and a reserved property of claims. -/
def requiringFragment : Schema :=
  objectSchema [("spec", record ["size", "resourceRef"] [("size", Schema.integer)])]

/-- What a claim may require is neither authored nor reserved for a composite resource. -/
theorem wellFormed_mergeSchema_iff_requiring :
    ∃ claim composite, mergeSchema (some requiringFragment) .claim = .ok claim ∧
      claim.WellFormed ∧ mergeSchema (some requiringFragment) .composite = .ok composite ∧
      ¬ composite.WellFormed := by
  refine ⟨_, _, rfl, ?_, rfl, ?_⟩
  · apply (@wellFormed_mergeSchema_iff (some requiringFragment) .claim _ rfl).mpr
    constructor
    · intro entry hm
      obtain rfl := List.mem_singleton.mp hm
      exact wellFormed_typed "integer"
    · decide
  · intro h
    obtain ⟨-, hrequired⟩ :=
      (@wellFormed_mergeSchema_iff (some requiringFragment) .composite _ rfl).mp h
    exact absurd (hrequired "resourceRef" (by decide)) (by decide)

end CrdSynthesis
