import CrdSynthesis.Metadata
import CrdSynthesis.Proofs.Timestamp

/-!
# Names and metadata read back

Names and references to owners are read back whatever they hold. Metadata is read back if its
timestamps are and no set of managed fields is `null`; both hold of metadata that was read,
within four digits of years.

## Main definitions

* `Metadata.timestamps`: every moment that the metadata names
* `Metadata.Definite`: what holds of metadata that was read

## Main results

* `Codec.names_lawful`, `Codec.ownerReference_lawful`: read back without a condition
* `Codec.metadata_returns`: definite metadata is read back
* `Codec.definite_of_decode_metadata`: metadata that was read is definite
-/

namespace CrdSynthesis

open Outcome

/-- The moments of the metadata, those of its managed fields last. -/
def Metadata.timestamps (m : Metadata) : List Timestamp :=
  m.creationTimestamp.toList ++ m.deletionTimestamp.toList ++
    (m.managedFields.getD []).filterMap (·.time)

/-- Every moment lies in the calendar, and no set of managed fields is `null`. -/
structure Metadata.Definite (m : Metadata) : Prop where
  valid_timestamps : ∀ t ∈ m.timestamps, t.Valid
  definite_fields : ∀ fields ∈ m.managedFields.getD [], fields.fieldsV1 ≠ some .null

namespace Codec

@[simp]
theorem names_lawful : names.Lawful := by
  refine fun n => ⟨?_, Json.noConfusion⟩
  simp [names]

@[simp]
theorem ownerReference_lawful : ownerReference.Lawful := by
  refine fun r => ⟨?_, Json.noConfusion⟩
  simp [ownerReference]

/-- Managed fields are read back if they are definite and their moment is. -/
theorem managedFields_returns {m : ManagedFields} (hf : ∀ value ∈ m.fieldsV1, json.Returns value)
    (ht : ∀ t ∈ m.time, timestamp.Returns t) : managedFields.Returns m := by
  refine ⟨?_, Json.noConfusion⟩
  simp [managedFields, ofFound_map hf, ofFound_map ht]

/-- Metadata is read back if its moments and its managed fields are. -/
theorem metadata_returns_of_fields {m : Metadata}
    (hc : ∀ t ∈ m.creationTimestamp, timestamp.Returns t)
    (hd : ∀ t ∈ m.deletionTimestamp, timestamp.Returns t)
    (hf : ∀ fields ∈ m.managedFields, managedFields.list.Returns fields) :
    metadata.Returns m := by
  refine ⟨?_, Json.noConfusion⟩
  simp [metadata, ofFound_map hc, ofFound_map hd, ofFound_map hf]

/-- Definite metadata with years of four digits is read back: three of the fields hold moments,
and one of these the sets of managed fields. -/
theorem metadata_returns {m : Metadata} (h : m.Definite)
    (hy : ∀ t ∈ m.timestamps, 0 ≤ t.year ∧ t.year ≤ 9999) : metadata.Returns m := by
  have hreturns : ∀ t ∈ m.timestamps, timestamp.Returns t := fun t ht =>
    timestamp_returns (h.valid_timestamps t ht) (hy t ht)
  simp only [Metadata.timestamps, List.mem_append, List.mem_filterMap] at hreturns
  refine metadata_returns_of_fields ?_ ?_ ?_
  · intro t ht
    exact hreturns t (.inl (.inl (Option.mem_toList.mpr ht)))
  · intro t ht
    exact hreturns t (.inl (.inr (Option.mem_toList.mpr ht)))
  · rintro list hlist
    have hdefinite := h.definite_fields
    rw [Option.mem_def.mp hlist] at hdefinite hreturns
    refine list_returns fun fields hm => (managedFields_returns ?_ ?_).decode_encode
    · rintro value hv
      refine json_returns ?_
      rintro rfl
      exact hdefinite fields hm hv
    · intro t ht
      exact hreturns t (.inr ⟨fields, hm, ht⟩)

/-! ## What is read is definite -/

/-- A moment that was read is valid. -/
theorem valid_of_readOptional {name : String} {entries : Table Json} {moment : Option Timestamp}
    (h : timestamp.readOptional name entries = .ok moment) : ∀ t ∈ moment, t.Valid := by
  rintro t ht
  cases ht
  obtain ⟨found, -, hd⟩ := readOptional_eq_ok_some h
  exact valid_of_decode_timestamp hd

/-- Decoded managed fields are definite. -/
theorem definite_of_decode_managedFields {value : Json} {m : ManagedFields}
    (h : managedFields.decode value = .ok m) :
    m.fieldsV1 ≠ some .null ∧ ∀ t ∈ m.time, t.Valid := by
  simp only [managedFields, step_eq_ok_iff, pure_eq_ok, Except.ok.injEq] at h
  obtain ⟨_, -, _, -, _, -, _, hfields, _, -, _, -, _, -, _, htime, rfl⟩ := h
  refine ⟨?_, valid_of_readOptional htime⟩
  rintro rfl
  obtain ⟨found, hne, hd⟩ := readOptional_eq_ok_some hfields
  cases hd
  exact hne rfl

theorem definite_of_readOptional {name : String} {entries : Table Json}
    {list : Option (List ManagedFields)}
    (h : managedFields.list.readOptional name entries = .ok list) :
    ∀ fields ∈ list.getD [], fields.fieldsV1 ≠ some .null ∧ ∀ t ∈ fields.time, t.Valid := by
  intro fields hm
  cases list with
  | none => cases hm
  | some values =>
    obtain ⟨found, -, hd⟩ := readOptional_eq_ok_some h
    obtain ⟨item, hi⟩ := exists_of_decode_list hd fields hm
    exact definite_of_decode_managedFields hi

/-- Decoded metadata is definite. -/
theorem definite_of_decode_metadata {value : Json} {m : Metadata}
    (h : metadata.decode value = .ok m) : m.Definite := by
  simp only [metadata, step_eq_ok_iff, pure_eq_ok, Except.ok.injEq] at h
  obtain ⟨_, -, _, -, _, hcreation, _, -, _, hdeletion, _, -, _, -, _, -, _, -, _, hmanaged, _, -,
    _, -, _, -, _, -, _, -, _, -, rfl⟩ := h
  have hfields := definite_of_readOptional hmanaged
  refine ⟨fun t ht => ?_, fun fields hm => (hfields fields hm).1⟩
  simp only [Metadata.timestamps, List.mem_append, List.mem_filterMap, Option.mem_toList] at ht
  obtain (ht | ht) | ⟨fields, hm, ht⟩ := ht
  · exact valid_of_readOptional hcreation t ht
  · exact valid_of_readOptional hdeletion t ht
  · exact (hfields fields hm).2 t ht

end Codec

end CrdSynthesis
