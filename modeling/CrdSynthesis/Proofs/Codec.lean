import CrdSynthesis.Codec
import CrdSynthesis.Proofs.Outcome
import CrdSynthesis.Proofs.Table

/-!
# Reading back what is written

A codec returns a value if it reads the value back from what it writes, and never writes it as
`null`, which would read as an absent field. A record is returned if its fields are: the
members that are written for one field are not mistaken for those of another.

## Main definitions

* `Codec.Returns`: a value is read back
* `Codec.Lawful`: every value is read back

## Main results

* `Codec.list_returns`, `Codec.table_returns`: collections
* `Codec.readOptional_eq_ofFound`, `Codec.ofFound_map`: the fields of a record
* `Codec.readOptional_eq_ok_some`: what a field that is present was read from
-/

namespace CrdSynthesis.Codec

variable {α : Type} {codec : Codec α}

/-- The value is not written as `null`, and it is read back from what is written. -/
structure Returns (codec : Codec α) (value : α) : Prop where
  decode_encode : codec.decode (codec.encode value) = .ok value
  ne_null : codec.encode value ≠ .null

/-- Every value is read back. -/
def Lawful (codec : Codec α) : Prop := ∀ value, codec.Returns value

/-! ## Scalars -/

@[simp]
theorem string_lawful : string.Lawful := fun _ => ⟨rfl, Json.noConfusion⟩

@[simp]
theorem bool_lawful : bool.Lawful := fun _ => ⟨rfl, Json.noConfusion⟩

/-- The integers of a type are in the range that is looked for when one is read. -/
@[simp]
theorem int64_lawful : int64.Lawful := by
  refine fun value => ⟨?_, Json.noConfusion⟩
  have hrange : Int64.minValue.toInt ≤ value.toInt ∧ value.toInt ≤ Int64.maxValue.toInt :=
    ⟨Int64.minValue_le_toInt value, Int64.toInt_le value⟩
  simp only [int64, if_pos hrange, Int64.ofInt_toInt]

@[simp]
theorem int32_lawful : int32.Lawful := by
  refine fun value => ⟨?_, Json.noConfusion⟩
  have hrange : Int32.minValue.toInt ≤ value.toInt ∧ value.toInt ≤ Int32.maxValue.toInt :=
    ⟨Int32.minValue_le_toInt value, Int32.toInt_le value⟩
  simp only [int32, if_pos hrange, Int32.ofInt_toInt]

/-- Of the values that stand for themselves, `null` alone would read as absent. -/
theorem json_returns {value : Json} (h : value ≠ .null) : json.Returns value := ⟨rfl, h⟩

/-! ## Collections -/

/-- Items are read back one by one. -/
theorem mapM_decode_encode {values : List α}
    (h : ∀ value ∈ values, codec.decode (codec.encode value) = .ok value) :
    (values.map codec.encode).mapM codec.decode = .ok values := by
  induction values with
  | nil => rfl
  | cons value values ih =>
    rw [List.forall_mem_cons] at h
    rw [List.map_cons, List.mapM_cons, h.1, ih h.2]
    rfl

/-- Within a list `null` is a value like any other. -/
theorem list_returns {values : List α}
    (h : ∀ value ∈ values, codec.decode (codec.encode value) = .ok value) :
    codec.list.Returns values :=
  ⟨mapM_decode_encode h, Json.noConfusion⟩

/-- The values of a list were decoded from items. -/
theorem exists_of_decode_list {found : Json} {values : List α}
    (h : codec.list.decode found = .ok values) :
    ∀ value ∈ values, ∃ item, codec.decode item = .ok value := by
  intro value hm
  cases found with
  | array items =>
    obtain ⟨item, -, hd⟩ := Outcome.exists_of_mapM_eq_ok h value hm
    exact ⟨item, hd⟩
  | _ => cases h

/-- Entries are read back one by one, and their names are kept. -/
theorem decodeEntries_encode {entries : Table α}
    (h : ∀ entry ∈ entries, codec.decode (codec.encode entry.2) = .ok entry.2) :
    decodeEntries codec.decode (entries.map fun (name, value) => (name, codec.encode value)) =
      .ok entries := by
  induction entries with
  | nil => rfl
  | cons entry entries ih =>
    rw [List.forall_mem_cons] at h
    rw [List.map_cons, decodeEntries, h.1, ih h.2]
    rfl

/-- Within a table `null` is a value like any other. -/
theorem table_returns {entries : Table α}
    (h : ∀ entry ∈ entries, codec.decode (codec.encode entry.2) = .ok entry.2) :
    codec.table.Returns entries :=
  ⟨decodeEntries_encode h, Json.noConfusion⟩

/-- If every value is read back, so is every list of them. -/
@[simp]
theorem Lawful.list (h : codec.Lawful) : codec.list.Lawful :=
  fun _ => list_returns fun value _ => (h value).decode_encode

/-- If every value is read back, so is every table of them. -/
@[simp]
theorem Lawful.table (h : codec.Lawful) : codec.table.Lawful :=
  fun _ => table_returns fun entry _ => (h entry.2).decode_encode

theorem json_list_lawful : json.list.Lawful := fun _ => list_returns fun _ _ => rfl

/-! ## The members of a record -/

/-- A member that is written for one field is not found under the name of another. -/
@[simp]
theorem find?_field (name key : String) (value : α) :
    Table.find? name (codec.field key value) =
      if key = name then some (codec.encode value) else none := rfl

@[simp]
theorem find?_optional (name key : String) (value : Option α) :
    Table.find? name (codec.optional key value) =
      if key = name then value.map codec.encode else none := by
  cases value <;> simp

/-- The members of an object are those of its record. -/
@[simp]
theorem members_object (type : String) (entries : List (String × Json)) :
    members type (.object entries) = .ok entries := rfl

/-! ## The fields of a record -/

/-- The field whose member is given; a `null` counts as absent. -/
def ofFound (codec : Codec α) : Option Json → Except DecodeError (Option α)
  | none => .ok none
  | some .null => .ok none
  | some value => (codec.decode value).map some

@[simp]
theorem readOptional_eq_ofFound (codec : Codec α) (name : String) (entries : Table Json) :
    codec.readOptional name entries = codec.ofFound (Table.find? name entries) := rfl

@[simp]
theorem readOr_eq_ofFound (codec : Codec α) (default : α) (name : String)
    (entries : Table Json) :
    codec.readOr default name entries =
      (codec.ofFound (Table.find? name entries)).map (·.getD default) := rfl

theorem ofFound_of_ne_null {found : Json} (h : found ≠ .null) :
    codec.ofFound (some found) = (codec.decode found).map some := by
  rw [ofFound]
  exact h

/-- A value is not written as `null`, so its field does not count as absent. -/
theorem ofFound_some {value : α} (h : codec.Returns value) :
    codec.ofFound (some (codec.encode value)) = .ok (some value) := by
  rw [ofFound_of_ne_null h.ne_null, h.decode_encode, Outcome.map_ok]

/-- A field that was written is read back. -/
theorem ofFound_map {value : Option α} (h : ∀ x ∈ value, codec.Returns x) :
    codec.ofFound (value.map codec.encode) = .ok value := by
  cases value with
  | none => rfl
  | some value => exact ofFound_some (h value rfl)

@[simp]
theorem Lawful.ofFound_some (h : codec.Lawful) (value : α) :
    codec.ofFound (some (codec.encode value)) = .ok (some value) := Codec.ofFound_some (h value)

@[simp]
theorem Lawful.ofFound_map (h : codec.Lawful) (value : Option α) :
    codec.ofFound (value.map codec.encode) = .ok value := Codec.ofFound_map fun x _ => h x

/-- A field that is present was decoded from a member other than `null`, which would have read
as absent. -/
theorem readOptional_eq_ok_some {name : String} {entries : Table Json} {value : α}
    (h : codec.readOptional name entries = .ok (some value)) :
    ∃ found, found ≠ .null ∧ codec.decode found = .ok value := by
  rw [readOptional_eq_ofFound] at h
  cases hf : Table.find? name entries with
  | none =>
    rw [hf] at h
    cases h
  | some found =>
    rw [hf] at h
    have hne : found ≠ .null := by
      rintro rfl
      cases h
    rw [ofFound_of_ne_null hne] at h
    obtain ⟨decoded, hd, heq⟩ := Outcome.map_eq_ok_iff.mp h
    cases heq
    exact ⟨found, hne, hd⟩

end CrdSynthesis.Codec
