import CrdSynthesis.Crd
import CrdSynthesis.Proofs.DefinitionCodec

/-!
# Generated resources read back

A resource that is generated from a definition that was read is read back from what is written,
field by field: what the author described was definite before, merging leaves it so, and the
reserved properties hold no sample at all.

## Main results

* `Codec.crd_returns`: a resource is read back if its parts are
* `definite_mergeSchema`: merging keeps schemas definite
* `Generator.crd_decode_encode`: a generated resource is read back
-/

namespace CrdSynthesis

open Outcome

/-! ## Parts of resources -/

namespace Codec

/-- A column is read back whatever its texts are. -/
@[simp]
theorem column_lawful : column.Lawful := by
  refine fun c => ⟨?_, Json.noConfusion⟩
  simp [column]

@[simp]
theorem selectableField_lawful : selectableField.Lawful := by
  refine fun s => ⟨?_, Json.noConfusion⟩
  simp [selectableField]

@[simp]
theorem scale_lawful : scale.Lawful := by
  refine fun s => ⟨?_, Json.noConfusion⟩
  simp [scale]

/-- An empty status is written as an object, which does not read as absent. -/
theorem subresources_returns {s : Crd.Subresources} (h : ∀ value ∈ s.status, value ≠ .null) :
    subresources.Returns s := by
  refine ⟨?_, Json.noConfusion⟩
  simp [subresources, ofFound_map fun value hv => json_returns (h value hv)]

/-- A version is read back if its schema and its subresources are. -/
theorem version_returns {v : Crd.Version} (hs : ∀ s ∈ v.schema, validation.Returns s)
    (hr : ∀ r ∈ v.subresources, subresources.Returns r) : version.Returns v := by
  refine ⟨?_, Json.noConfusion⟩
  simp [version, ofFound_map hs, ofFound_map hr]

/-- A specification is read back if its conversion and its versions are. -/
theorem crdSpec_returns {s : Crd.Spec} (hc : ∀ c ∈ s.conversion, conversion.Returns c)
    (hv : ∀ v ∈ s.versions, version.Returns v) : crdSpec.Returns s := by
  refine ⟨?_, Json.noConfusion⟩
  have hversions : version.list.Returns s.versions :=
    list_returns fun v hm => (hv v hm).decode_encode
  simp [crdSpec, ofFound_map hc, ofFound_some hversions]

/-- A resource is read back if its three parts are; its type is the right one. -/
theorem crd_returns {c : Crd} (hm : metadata.Returns c.metadata) (hs : crdSpec.Returns c.spec)
    (hst : ∀ s ∈ c.status, crdStatus.Returns s) : crd.Returns c := by
  refine ⟨?_, Json.noConfusion⟩
  simp [crd, checkText, readPresent, (string_lawful _).decode_encode, ofFound_some hm,
    ofFound_some hs, ofFound_map hst]

end Codec

/-! ## Merged schemas -/

namespace Schema

/-- The described properties of a definite schema are definite. -/
theorem Definite.properties {schema : Schema} {properties : Table Schema} (h : schema.Definite)
    (hp : schema.properties? = some properties) : DefiniteTable properties := by
  obtain ⟨setting, hm, hs⟩ := List.exists_of_findSome?_eq_some hp
  cases schema with
  | ofSettings settings =>
    have hsetting := definiteSettings_iff.mp h setting hm
    cases setting with
    | table keyword schemas =>
      dsimp only at hs
      split at hs
      · cases hs
        exact hsetting
      · cases hs
    | _ => cases hs

/-- What is said of a schema holds of each property that it describes. -/
theorem Definite.property {schema property : Schema} {name : String} (h : schema.Definite)
    (hp : schema.property? name = some property) : property.Definite := by
  obtain ⟨properties, hs, hf⟩ := Option.bind_eq_some_iff.mp hp
  exact definiteTable_iff.mp (h.properties hs) _ (Table.mem_of_find? hf)

end Schema

open Schema

/-- Authored properties hold what the fragment holds. -/
theorem definite_authoredProperties {fragment : Option Schema}
    (h : ∀ s ∈ fragment, s.Definite) : DefiniteTable (authoredProperties fragment) := by
  rw [authoredProperties]
  cases hp : (fragment.bind (·.property? "spec")).bind (·.properties?) with
  | none => trivial
  | some properties =>
    obtain ⟨spec, hs, hproperties⟩ := Option.bind_eq_some_iff.mp hp
    obtain ⟨root, hr, hspec⟩ := Option.bind_eq_some_iff.mp hs
    exact ((h root hr).property hspec).properties hproperties

theorem definite_typed (type : String) : (typed type).Definite := ⟨trivial, trivial⟩

/-- A record holds no value of any kind but those of its properties. -/
theorem definite_record {properties : Table Schema} (required : List String)
    (h : DefiniteTable properties) : (record required properties).Definite :=
  ⟨h, trivial, trivial, trivial⟩

theorem definite_sequence {items : Schema} (h : items.Definite) : (sequence items).Definite :=
  ⟨h, trivial, trivial⟩

theorem definite_objectSchema {properties : Table Schema} (h : DefiniteTable properties) :
    (objectSchema properties).Definite :=
  ⟨h, trivial, trivial⟩

theorem definite_strings (required names : List String) :
    (ReservedProperties.strings required names).Definite := by
  refine definite_record required (definiteTable_iff.mpr fun entry hm => ?_)
  obtain ⟨name, -, rfl⟩ := List.mem_map.mp hm
  exact definite_typed "string"

theorem definite_compositionSelector : ReservedProperties.compositionSelector.Definite :=
  definite_record _ ⟨⟨definite_typed "string", trivial, trivial⟩, trivial⟩

/-- The reserved properties of either mode are definite. -/
theorem definite_reservedProperties (mode : Mode) : DefiniteTable mode.reservedProperties := by
  have hselector := definite_compositionSelector
  cases mode with
  | composite =>
    exact ⟨definite_strings .., definite_strings .., hselector,
      definite_sequence (definite_strings ..), definite_strings .., trivial⟩
  | claim =>
    exact ⟨definite_strings .., hselector, definite_strings .., definite_strings .., trivial⟩

theorem definite_status : DefiniteTable ReservedProperties.status := by
  have hcondition : ReservedProperties.condition.Definite :=
    definite_record _
      ⟨⟨trivial, trivial, trivial⟩, definite_typed _, definite_typed _, definite_typed _,
        definite_typed _, trivial⟩
  exact ⟨⟨trivial, trivial, trivial⟩, definite_typed _, ⟨trivial, hcondition, trivial, trivial⟩,
    definite_typed _, trivial⟩

/-- The schema of `spec` is definite if its properties are. -/
theorem definite_specSchema {template : SpecTemplate} {properties : Table Schema}
    (h : DefiniteTable properties) : (specSchema template properties).Definite := by
  rcases template with ⟨_ | _, _, _ | _⟩ <;>
    simpa [specSchema, Schema.Definite, DefiniteSettings, Setting.Definite] using h

/-- What stands beside `spec` is definite. -/
theorem definite_rootSchema {spec : Schema} (h : spec.Definite) : (rootSchema spec).Definite :=
  definite_objectSchema
    ⟨definite_typed _, definite_typed _, definite_typed _, h, definite_objectSchema definite_status,
      trivial⟩

/-- Merging keeps schemas definite. -/
theorem definite_mergeSchema {fragment : Option Schema} {mode : Mode} {schema : Schema}
    (h : ∀ s ∈ fragment, s.Definite) (hm : mergeSchema fragment mode = .ok schema) :
    schema.Definite := by
  obtain ⟨template, ht, -, rfl⟩ := mergeSchema_eq_ok_iff.mp hm
  refine definite_rootSchema (definite_specSchema (definiteTable_iff.mpr ?_))
  refine Table.forall_mem_insertAll (definiteTable_iff.mp (definite_reservedProperties mode)) ?_
  rw [properties_of_authoredTemplate ht]
  exact definiteTable_iff.mp (definite_authoredProperties h)

/-! ## Generated resources -/

namespace Generator

variable {generator : Generator} {d : Definition} {mode : Mode} {c : Crd}

/-- A generated resource is read back if its schema is. It has neither moments nor managed fields
nor a status, and all but the schema is read back whatever it holds. -/
theorem crd_returns (names : Names) (owner : OwnerReference) {schema : Schema}
    (h : schema.Definite) : Codec.crd.Returns (crd d mode names owner schema) := by
  have hversion : Codec.version.Returns (crdVersion d mode schema) := by
    refine Codec.version_returns ?_ ?_
    · rintro _ ⟨⟩
      exact Codec.validation_returns fun s hs => Option.some.inj hs ▸ h
    · rintro _ ⟨⟩
      refine Codec.subresources_returns ?_
      rintro _ ⟨⟩
      exact Json.noConfusion
  refine Codec.crd_returns ?_ ?_ (by rintro _ ⟨⟩)
  · refine Codec.metadata_returns_of_fields ?_ ?_ ?_ <;> rintro _ ⟨⟩
  · refine Codec.crdSpec_returns (by rintro _ ⟨⟩) fun v hv => ?_
    rw [List.mem_singleton.mp hv]
    exact hversion

/-- A resource that is generated from a definition that was read is read back. -/
theorem crd_decode_encode {value : Json} (h : Definition.ofValue value = .ok d)
    (hg : (generator.generate d mode).outcome = .ok c) :
    Codec.crd.decode (Codec.crd.encode c) = .ok c := by
  rw [outcome_generate] at hg
  obtain ⟨names, -, hg⟩ := bind_eq_ok_iff.mp hg
  obtain ⟨owner, -, hg⟩ := bind_eq_ok_iff.mp hg
  obtain ⟨schema, hs, hg⟩ := bind_eq_ok_iff.mp hg
  cases hg
  have hfragment := (Definition.definite_of_ofValue h).fragment
  exact (crd_returns names owner (definite_mergeSchema hfragment hs)).decode_encode

/-- The resource of a definition that was written as an array is read back. -/
theorem crd_decode_encode_arrayDefinition :
    ∃ c, (({} : Generator).generate Definition.arrayDefinition .composite).outcome = .ok c ∧
      Codec.crd.decode (Codec.crd.encode c) = .ok c :=
  ⟨_, rfl, @crd_decode_encode {} _ .composite _ _ Definition.ofValue_arrayForm rfl⟩

end Generator

end CrdSynthesis
