import CrdSynthesis.Loading
import CrdSynthesis.Proofs.CompositeAndClaim
import CrdSynthesis.Proofs.Metadata
import CrdSynthesis.Proofs.SchemaCodec

/-!
# Definitions read back

A definition that was read is written in one form, whatever form it was read from: its type is
named, its own records are objects, and what was `null` or of an unknown name is left out. That
form is read as the same definition again.

## Main definitions

* `Definition.Definite`: what holds of a definition that was read

## Main results

* `Codec.definition_returns`: a definite definition is read back
* `Codec.definite_of_decode_definition`: a definition that was read is definite
* `Definition.ofValue_encode`: a definition is read back with its type
* `Definition.ofValue_stable`: what is generated does not depend on the form that was read
-/

namespace CrdSynthesis

open Outcome

/-- The metadata and the schema of the definition are definite. -/
structure Definition.Definite (d : Definition) : Prop where
  metadata : d.metadata.Definite
  fragment : ∀ s ∈ d.schemaFragment?, s.Definite

namespace Codec

variable {α : Type} {codec : Codec α}

/-! ## Fields that are required -/

@[simp]
theorem require_some (name : String) (value : α) : require name (some value) = .ok value := rfl

/-- A required field has a value if it is present. -/
theorem require_eq_ok_iff {name : String} {field : Option α} {value : α} :
    require name field = .ok value ↔ field = some value := by
  cases field <;> simp [require]

/-- A field that is present was decoded from a member. -/
theorem readPresent_eq_ok_some {name : String} {entries : Table Json} {value : α}
    (h : codec.readPresent name entries = .ok (some value)) :
    ∃ found, codec.decode found = .ok value := by
  rw [readPresent] at h
  split at h
  · cases h
  · rename_i found _
    obtain ⟨decoded, hd, heq⟩ := map_eq_ok_iff.mp h
    cases heq
    exact ⟨found, hd⟩

/-- An element that is present was decoded from one of an array. -/
theorem readElement_eq_ok_some {items : List Json} {value : α}
    (h : codec.readElement items = .ok (some value)) :
    ∃ found, codec.decode found = .ok value := by
  unfold readElement at h
  split at h
  · cases h
  · cases h
  · rename_i found _ _
    obtain ⟨decoded, hd, heq⟩ := map_eq_ok_iff.mp h
    cases heq
    exact ⟨found, hd⟩

theorem requireElement_eq_ok {expected : String} {index : Nat} {items : List Json} {value : α}
    (h : codec.requireElement expected index items = .ok value) :
    ∃ found, codec.decode found = .ok value := by
  cases items with
  | nil => cases h
  | cons found rest => exact ⟨found, h⟩

/-! ## The parts of a definition -/

/-- A template is read back if its validation is. -/
theorem template_returns {t : Template} (h : ∀ v ∈ t.validation, validation.Returns v) :
    template.Returns t := by
  refine ⟨?_, Json.noConfusion⟩
  simp [template, templateMembers, readPresent, ofFound_map h, (names_lawful _).decode_encode,
    (string_lawful _).decode_encode]

/-- A specification is read back if its template is. -/
theorem definitionSpec_returns {s : DefinitionSpec} (h : template.Returns s.template) :
    definitionSpec.Returns s := by
  refine ⟨?_, Json.noConfusion⟩
  simp [definitionSpec, definitionSpecMembers, readPresent, h.decode_encode]

/-- A definite definition with years of four digits is read back: the one schema within is
its fragment. -/
theorem definition_returns {d : Definition} (h : d.Definite)
    (hy : ∀ t ∈ d.metadata.timestamps, 0 ≤ t.year ∧ t.year ≤ 9999) : definition.Returns d := by
  have hmetadata := metadata_returns h.metadata hy
  have hspec : definitionSpec.Returns d.spec := by
    refine definitionSpec_returns (template_returns fun v hv => validation_returns fun s hs => ?_)
    refine h.fragment s ?_
    rw [Definition.schemaFragment?, Option.mem_def.mp hv]
    exact hs
  refine ⟨?_, Json.noConfusion⟩
  simp [definition, readPresent, hmetadata.decode_encode, hspec.decode_encode]

/-! ## What is read is definite -/

/-- The schema of a decoded template is definite; the two forms of a template read it by the
same codec. -/
theorem definite_of_decode_template {value : Json} {t : Template}
    (h : template.decode value = .ok t) :
    ∀ v ∈ t.validation, ∀ s ∈ v.openAPIV3Schema, s.Definite := by
  rintro v hv
  cases value with
  | object entries =>
    simp only [template, templateMembers, step_eq_ok_iff, pure_eq_ok, Except.ok.injEq] at h
    obtain ⟨_, -, _, -, _, hvalidation, _, -, _, -, _, -, _, -, rfl⟩ := h
    cases hv
    obtain ⟨found, -, hd⟩ := readOptional_eq_ok_some hvalidation
    exact definite_of_decode_validation hd
  | array items =>
    simp only [template, templateElements, step_eq_ok_iff, pure_eq_ok, Except.ok.injEq] at h
    obtain ⟨_, -, _, -, _, -, _, hvalidation, _, -, rfl⟩ := h
    cases hv
    obtain ⟨found, hd⟩ := readElement_eq_ok_some hvalidation
    exact definite_of_decode_validation hd
  | _ => cases h

/-- The template of a decoded specification was decoded itself, in either form. -/
theorem exists_of_decode_definitionSpec {value : Json} {s : DefinitionSpec}
    (h : definitionSpec.decode value = .ok s) :
    ∃ found, template.decode found = .ok s.template := by
  cases value with
  | object entries =>
    simp only [definitionSpec, definitionSpecMembers, step_eq_ok_iff, pure_eq_ok,
      Except.ok.injEq, require_eq_ok_iff] at h
    obtain ⟨_, -, _, htemplate, _, rfl, rfl⟩ := h
    exact readPresent_eq_ok_some htemplate
  | array items =>
    simp only [definitionSpec, definitionSpecElements, step_eq_ok_iff, pure_eq_ok,
      Except.ok.injEq] at h
    obtain ⟨_, -, _, htemplate, _, -, rfl⟩ := h
    exact requireElement_eq_ok htemplate
  | _ => cases h

/-- Every decoded definition is definite. -/
theorem definite_of_decode_definition {value : Json} {d : Definition}
    (h : definition.decode value = .ok d) : d.Definite := by
  simp only [definition, step_eq_ok_iff, pure_eq_ok, Except.ok.injEq, require_eq_ok_iff] at h
  obtain ⟨_, -, _, hmetadata, _, hspec, _, rfl, _, rfl, rfl⟩ := h
  obtain ⟨_, hm⟩ := readPresent_eq_ok_some hmetadata
  obtain ⟨_, hs⟩ := readPresent_eq_ok_some hspec
  obtain ⟨_, ht⟩ := exists_of_decode_definitionSpec hs
  refine ⟨definite_of_decode_metadata hm, fun s hsome => ?_⟩
  obtain ⟨v, hv, hschema⟩ := Option.bind_eq_some_iff.mp hsome
  exact definite_of_decode_template ht v hv s hschema

end Codec

namespace Definition

variable {value : Json} {d : Definition}

/-- A definition is loaded exactly from a value of its type that decodes. -/
theorem ofValue_eq_ok_iff :
    ofValue value = .ok d ↔ value.memberText "apiVersion" = apiVersion ∧
      value.memberText "kind" = kind ∧ Codec.definition.decode value = .ok d := by
  rw [ofValue]
  split
  next h =>
    cases Codec.definition.decode value <;> simp [h]
  next h =>
    simp only [reduceCtorEq, false_iff]
    rintro ⟨hv, hk, -⟩
    exact h ⟨hv, hk⟩

theorem definite_of_ofValue (h : ofValue value = .ok d) : d.Definite :=
  Codec.definite_of_decode_definition (ofValue_eq_ok_iff.mp h).2.2

theorem member?_apiVersion_encode (d : Definition) :
    (Codec.definition.encode d).member? "apiVersion" = some (.string apiVersion) := by
  simp [Codec.definition, Json.member?, Codec.string]

theorem member?_kind_encode (d : Definition) :
    (Codec.definition.encode d).member? "kind" = some (.string kind) := by
  simp [Codec.definition, Json.member?, Codec.string]

/-- What is written of a definition loads as the same definition. -/
theorem ofValue_encode (h : d.Definite)
    (hy : ∀ t ∈ d.metadata.timestamps, 0 ≤ t.year ∧ t.year ≤ 9999) :
    ofValue (Codec.definition.encode d) = .ok d := by
  refine ofValue_eq_ok_iff.mpr ⟨?_, ?_, (Codec.definition_returns h hy).decode_encode⟩
  · rw [Json.memberText, member?_apiVersion_encode]
    rfl
  · rw [Json.memberText, member?_kind_encode]
    rfl

/-- A definition that was read is written with its type, in a form that is read again, is
written alike and yields the same resources. -/
theorem ofValue_stable (h : ofValue value = .ok d)
    (hy : ∀ t ∈ d.metadata.timestamps, 0 ≤ t.year ∧ t.year ≤ 9999) :
    (Codec.definition.encode d).member? "apiVersion" = some (.string apiVersion) ∧
      (Codec.definition.encode d).member? "kind" = some (.string kind) ∧
      ∃ e, ofValue (Codec.definition.encode d) = .ok e ∧
        Codec.definition.encode e = Codec.definition.encode d ∧
        validateClaimNames e = validateClaimNames d ∧
        (∀ mode, ({} : Generator).generate e mode = ({} : Generator).generate d mode) ∧
        ({} : Generator).generateAll e = ({} : Generator).generateAll d :=
  ⟨member?_apiVersion_encode d, member?_kind_encode d, d,
    ofValue_encode (definite_of_ofValue h) hy, rfl, rfl, fun _ => rfl, rfl⟩

/-- A definition whose own records are arrays, with a time of day east of UTC. -/
def arrayForm : Json :=
  .object
    [("apiVersion", .string apiVersion), ("kind", .string kind),
      ("metadata", .object
        [("creationTimestamp", .string "2024-03-01 00:30:00.5+01:00"), ("labels", .null),
          ("name", .string "stores.example.org"), ("uid", .string "4711")]),
      ("spec", .array
        [.null, .array
          [.string "example.org", .string "v1",
            .object [("kind", .string "Store"), ("plural", .string "stores")],
            .object [("openAPIV3Schema", .object [("properties", .object [("spec", .object
              [("properties", .object [("size", .object
                [("default", .array [.null]), ("minimum", .integer 3),
                  ("type", .null)])])])])])]]])]

/-- The definition that the form stands for. -/
def arrayDefinition : Definition where
  metadata := {
    creationTimestamp := some ⟨2024, 2, 29, 23, 30, 0⟩
    name := some "stores.example.org", uid := some "4711" }
  spec := {
    template := {
      group := "example.org", version := "v1"
      names := { kind := "Store", plural := "stores" }
      validation := some {
        openAPIV3Schema := some (.ofSettings [.table .properties [("spec",
          .ofSettings [.table .properties [("size",
            .ofSettings [.sample .default (.array [.null]),
              .bound .minimum (Double.ofInt 3)])]])]]) } } }

theorem ofValue_arrayForm : ofValue arrayForm = .ok arrayDefinition := rfl

/-- A definition in the form of an array, with `null` fields and a moment with an offset,
is stable. -/
theorem ofValue_stable_arrayForm :
    ofValue arrayForm = .ok arrayDefinition ∧
      ∃ e, ofValue (Codec.definition.encode arrayDefinition) = .ok e ∧
        Codec.definition.encode e = Codec.definition.encode arrayDefinition := by
  obtain ⟨-, -, e, he, hw, -⟩ := ofValue_stable ofValue_arrayForm (by decide)
  exact ⟨ofValue_arrayForm, e, he, hw⟩

end Definition

end CrdSynthesis
