import CrdSynthesis.Proofs.Codec
import CrdSynthesis.Schema.Codec

/-!
# Schemas read back

A keyword that is `null` is not set, so a schema that was read holds no sample that is `null`.
Every such schema is read back from what is written, its settings in their order, at any depth.

## Main definitions

* `Schema.Definite`: no sample of a schema is `null`, at any depth
* `Schema.Setting.decode`: the setting of a keyword that a value stands for

## Main results

* `Schema.decode_encode`: a definite schema is read back
* `Codec.definite_of_decode_schema`: a schema that was read is definite
-/

namespace CrdSynthesis

open Outcome

namespace Codec

@[simp]
theorem externalDocs_lawful : externalDocs.Lawful := by
  refine fun docs => ⟨?_, Json.noConfusion⟩
  simp [externalDocs]

@[simp]
theorem rule_lawful : rule.Lawful := by
  refine fun r => ⟨?_, Json.noConfusion⟩
  simp [rule]

end Codec

namespace Schema

/-! ## Keywords -/

/-- No keyword is left out of the list. -/
theorem Keyword.mem_all (keyword : Keyword) : keyword ∈ all := by
  cases keyword with
  | enum | externalDocs | rules | items | not | dependencies => decide
  | text keyword | flag keyword | count keyword | bound keyword | sample keyword | names keyword
  | group keyword | table keyword | additional keyword => cases keyword <;> decide

/-- No two keywords have one name. -/
theorem Keyword.ofName?_name (keyword : Keyword) : ofName? keyword.name = some keyword := by
  have hall : ∀ keyword ∈ all, ofName? keyword.name = some keyword := by decide +kernel
  exact hall keyword keyword.mem_all

/-! ## Definite schemas -/

mutual

/-- No sample is `null`, at any depth. -/
def Definite : Schema → Prop
  | .ofSettings settings => DefiniteSettings settings

/-- No sample within the settings is `null`. -/
def DefiniteSettings : List Setting → Prop
  | [] => True
  | setting :: settings => setting.Definite ∧ DefiniteSettings settings

/-- A sample is not `null`, and what stands in another setting is definite. -/
def Setting.Definite : Setting → Prop
  | .sample _ value => value ≠ .null
  | .group _ schemas => DefiniteSchemas schemas
  | .table _ schemas => DefiniteTable schemas
  | .additional _ (.schema schema) => schema.Definite
  | .items (.each schema) => schema.Definite
  | .items (.list schemas) => DefiniteSchemas schemas
  | .not schema => schema.Definite
  | .dependencies dependencies => DefiniteDependencies dependencies
  | _ => True

/-- No sample within the schemas is `null`. -/
def DefiniteSchemas : List Schema → Prop
  | [] => True
  | schema :: schemas => schema.Definite ∧ DefiniteSchemas schemas

/-- No sample within the schemas of a table is `null`. -/
def DefiniteTable : List (String × Schema) → Prop
  | [] => True
  | (_, schema) :: rest => schema.Definite ∧ DefiniteTable rest

/-- No sample within the schemas of dependencies is `null`. -/
def DefiniteDependencies : List (String × Dependency) → Prop
  | [] => True
  | (_, .schema schema) :: rest => schema.Definite ∧ DefiniteDependencies rest
  | (_, .names _) :: rest => DefiniteDependencies rest

end

theorem definiteSettings_iff {settings : List Setting} :
    DefiniteSettings settings ↔ ∀ setting ∈ settings, setting.Definite := by
  induction settings with
  | nil => simp [DefiniteSettings]
  | cons setting settings ih => rw [DefiniteSettings, ih, List.forall_mem_cons]

theorem definiteTable_iff {schemas : Table Schema} :
    DefiniteTable schemas ↔ ∀ entry ∈ schemas, entry.2.Definite := by
  induction schemas with
  | nil => simp [DefiniteTable]
  | cons entry rest ih => rw [DefiniteTable, ih, List.forall_mem_cons]

/-! ## Settings as members -/

/-- The setting of a keyword that a value stands for. -/
def Setting.decode (keyword : Keyword) (value : Json) : Except DecodeError Setting :=
  match keyword with
  | .text keyword => do pure (.text keyword (← Codec.string.decode value))
  | .flag keyword => do pure (.flag keyword (← Codec.bool.decode value))
  | .count keyword => do pure (.count keyword (← Codec.int64.decode value))
  | .bound keyword => do pure (.bound keyword (← Codec.double.decode value))
  | .sample keyword => do pure (.sample keyword (← Codec.json.decode value))
  | .names keyword => do pure (.names keyword (← Codec.string.list.decode value))
  | .group keyword => do pure (.group keyword (← decodeSchemaList value))
  | .table keyword => do pure (.table keyword (← decodeSchemaTable value))
  | .additional keyword => do pure (.additional keyword (← decodeAdditional value))
  | .enum => do pure (.enum (← Codec.json.list.decode value))
  | .externalDocs => do pure (.externalDocs (← Codec.externalDocs.decode value))
  | .rules => do pure (.rules (← Codec.rule.list.decode value))
  | .items => do pure (.items (← decodeItems value))
  | .not => do pure (.not (← Schema.decode value))
  | .dependencies => do pure (.dependencies (← decodeDependencyTable value))

/-- A member whose name is a keyword is read as its setting, and then the other members; each kind
of keyword has a branch of its own. -/
theorem decodeSettings_cons {name : String} {keyword : Keyword} {value : Json}
    (hn : Keyword.ofName? name = some keyword) (hv : value ≠ .null)
    (rest : List (String × Json)) :
    decodeSettings ((name, value) :: rest) =
      (Setting.decode keyword value).bind fun setting =>
        (decodeSettings rest).bind fun settings => .ok (setting :: settings) := by
  rw [decodeSettings]
  · simp only [hn]
    cases keyword <;> exact (bind_assoc (m := Except DecodeError) _ _ _).symm
  · exact hv

/-- A member of another name is passed over. -/
theorem decodeSettings_cons_of_none {name : String} (hn : Keyword.ofName? name = none)
    (value : Json) (rest : List (String × Json)) :
    decodeSettings ((name, value) :: rest) = decodeSettings rest := by
  by_cases hv : value = .null
  · rw [hv, decodeSettings]
  · rw [decodeSettings]
    · simp only [hn]
    · exact hv

/-- Nothing but a sample is ever written as `null`. -/
theorem encodeSetting_ne_null {setting : Setting} (h : setting.Definite) :
    encodeSetting setting ≠ .null := by
  cases setting with
  | sample keyword value => exact h
  | additional keyword value =>
    cases value with
    | allowed value => exact Json.noConfusion
    | schema schema =>
      cases schema
      exact Json.noConfusion
  | items items =>
    cases items with
    | each schema =>
      cases schema
      exact Json.noConfusion
    | list schemas => exact Json.noConfusion
  | not schema =>
    cases schema
    exact Json.noConfusion
  | _ => exact Json.noConfusion

/-! ## Reading what is written -/

theorem decodeDependency_names (names : List String) :
    decodeDependency (Codec.string.list.encode names) = .ok (.names names) := by
  have hlist := (Codec.string_lawful.list names).decode_encode
  simp only [Codec.list] at hlist ⊢
  rw [decodeDependency]
  simp only [Codec.list, hlist, ok_bind]
  rfl

-- The recursion is on the schema. A keyword that takes a schema among other forms is read by the
-- form of its value, so the settings within are reached without the step of a schema of its own.
mutual

/-- A definite schema is read back. -/
theorem decode_encode : ∀ schema : Schema, schema.Definite → decode schema.encode = .ok schema
  | .ofSettings settings, h => by
    rw [encode, decode, decodeSettings_encodeSettings settings h]
    rfl

/-- Definite settings are read back. -/
theorem decodeSettings_encodeSettings : ∀ settings : List Setting, DefiniteSettings settings →
    decodeSettings (encodeSettings settings) = .ok settings
  | [], _ => by rw [encodeSettings, decodeSettings]
  | setting :: settings, h => by
    rw [encodeSettings, decodeSettings_cons (Keyword.ofName?_name _) (encodeSetting_ne_null h.1),
      decode_encodeSetting setting h.1, decodeSettings_encodeSettings settings h.2]
    rfl

/-- The value of a definite setting is read back by its keyword. -/
theorem decode_encodeSetting : ∀ setting : Setting, setting.Definite →
    Setting.decode setting.keyword (encodeSetting setting) = .ok setting
  | .text _ _, _ => rfl
  | .flag _ _, _ => rfl
  | .count _ value, _ => by
    rw [encodeSetting, Setting.keyword, Setting.decode, (Codec.int64_lawful value).decode_encode]
    rfl
  | .bound _ _, _ => rfl
  | .sample _ _, _ => rfl
  | .names _ values, _ => by
    rw [encodeSetting, Setting.keyword, Setting.decode,
      (Codec.string_lawful.list values).decode_encode]
    rfl
  | .group _ schemas, h => by
    rw [encodeSetting, Setting.keyword, Setting.decode, decodeSchemaList,
      decodeSchemas_encodeSchemas schemas h]
    rfl
  | .table _ schemas, h => by
    rw [encodeSetting, Setting.keyword, Setting.decode, decodeSchemaTable,
      decodeTable_encodeTable schemas h]
    rfl
  | .additional _ (.allowed _), _ => by
    rw [encodeSetting, Setting.keyword, Setting.decode, Codec.bool, decodeAdditional]
    rfl
  | .additional _ (.schema (.ofSettings settings)), h => by
    rw [encodeSetting, Setting.keyword, Setting.decode, encode, decodeAdditional,
      decodeSettings_encodeSettings settings h]
    rfl
  | .enum values, _ => by
    rw [encodeSetting, Setting.keyword, Setting.decode,
      (Codec.json_list_lawful values).decode_encode]
    rfl
  | .externalDocs docs, _ => by
    rw [encodeSetting, Setting.keyword, Setting.decode,
      (Codec.externalDocs_lawful docs).decode_encode]
    rfl
  | .rules rules, _ => by
    rw [encodeSetting, Setting.keyword, Setting.decode,
      (Codec.rule_lawful.list rules).decode_encode]
    rfl
  | .items (.each (.ofSettings settings)), h => by
    rw [encodeSetting, Setting.keyword, Setting.decode, encode, decodeItems,
      decodeSettings_encodeSettings settings h]
    rfl
  | .items (.list schemas), h => by
    rw [encodeSetting, Setting.keyword, Setting.decode, decodeItems,
      decodeSchemas_encodeSchemas schemas h]
    rfl
  | .not schema, h => by
    rw [encodeSetting, Setting.keyword, Setting.decode, decode_encode schema h]
    rfl
  | .dependencies dependencies, h => by
    rw [encodeSetting, Setting.keyword, Setting.decode, decodeDependencyTable,
      decodeDependencies_encodeDependencies dependencies h]
    rfl

/-- Definite schemas are read back from an array. -/
theorem decodeSchemas_encodeSchemas : ∀ schemas : List Schema, DefiniteSchemas schemas →
    decodeSchemas (encodeSchemas schemas) = .ok schemas
  | [], _ => by rw [encodeSchemas, decodeSchemas]
  | schema :: schemas, h => by
    rw [encodeSchemas, decodeSchemas, decode_encode schema h.1,
      decodeSchemas_encodeSchemas schemas h.2]
    rfl

/-- Definite schemas are read back from an object, with their names. -/
theorem decodeTable_encodeTable : ∀ schemas : List (String × Schema), DefiniteTable schemas →
    decodeTable (encodeTable schemas) = .ok schemas
  | [], _ => by rw [encodeTable, decodeTable]
  | (_, schema) :: rest, h => by
    rw [encodeTable, decodeTable, decode_encode schema h.1, decodeTable_encodeTable rest h.2]
    rfl

/-- Definite dependencies are read back. -/
theorem decodeDependencies_encodeDependencies :
    ∀ dependencies : List (String × Dependency), DefiniteDependencies dependencies →
      decodeDependencies (encodeDependencies dependencies) = .ok dependencies
  | [], _ => by rw [encodeDependencies, decodeDependencies]
  | (_, .schema (.ofSettings settings)) :: rest, h => by
    rw [encodeDependencies, decodeDependencies, encode, decodeDependency,
      decodeSettings_encodeSettings settings h.1, decodeDependencies_encodeDependencies rest h.2]
    rfl
  | (_, .names names) :: rest, h => by
    rw [encodeDependencies, decodeDependencies, decodeDependency_names,
      decodeDependencies_encodeDependencies rest h]
    rfl

end

/-! ## What a value was read from -/

theorem decode_eq_ok_iff {value : Json} {schema : Schema} :
    decode value = .ok schema ↔ ∃ members settings, value = .object members ∧
      decodeSettings members = .ok settings ∧ ofSettings settings = schema := by
  cases value <;> simp [decode, fmap_eq_ok_iff]

theorem decodeSchemaList_eq_ok_iff {value : Json} {schemas : List Schema} :
    decodeSchemaList value = .ok schemas ↔
      ∃ items, value = .array items ∧ decodeSchemas items = .ok schemas := by
  cases value <;> simp [decodeSchemaList]

theorem decodeSchemaTable_eq_ok_iff {value : Json} {schemas : List (String × Schema)} :
    decodeSchemaTable value = .ok schemas ↔
      ∃ members, value = .object members ∧ decodeTable members = .ok schemas := by
  cases value <;> simp [decodeSchemaTable]

theorem decodeDependencyTable_eq_ok_iff {value : Json}
    {dependencies : List (String × Dependency)} :
    decodeDependencyTable value = .ok dependencies ↔
      ∃ members, value = .object members ∧ decodeDependencies members = .ok dependencies := by
  cases value <;> simp [decodeDependencyTable]

theorem decodeAdditional_eq_ok_iff {value : Json} {additional : Additional} :
    decodeAdditional value = .ok additional ↔
      (∃ b, value = .bool b ∧ .allowed b = additional) ∨
        ∃ members settings, value = .object members ∧ decodeSettings members = .ok settings ∧
          .schema (.ofSettings settings) = additional := by
  cases value <;> simp [decodeAdditional, fmap_eq_ok_iff]

theorem decodeItems_eq_ok_iff {value : Json} {items : Items} :
    decodeItems value = .ok items ↔
      (∃ members settings, value = .object members ∧ decodeSettings members = .ok settings ∧
          .each (.ofSettings settings) = items) ∨
        ∃ values schemas, value = .array values ∧ decodeSchemas values = .ok schemas ∧
          .list schemas = items := by
  cases value <;> simp [decodeItems, fmap_eq_ok_iff]

theorem decodeDependency_eq_ok_iff {value : Json} {dependency : Dependency} :
    decodeDependency value = .ok dependency ↔
      (∃ members settings, value = .object members ∧ decodeSettings members = .ok settings ∧
          .schema (.ofSettings settings) = dependency) ∨
        ∃ items names, value = .array items ∧ Codec.string.list.decode value = .ok names ∧
          .names names = dependency := by
  cases value <;> simp [decodeDependency, fmap_eq_ok_iff]

/-! ## What is read is definite -/

-- The recursion is on the value that was read, as the reader's is.
mutual

/-- Settings that were read are definite, since a keyword that is `null` is not set. -/
theorem definiteSettings_of_decode : ∀ (members : List (String × Json)) (settings : List Setting),
    decodeSettings members = .ok settings → DefiniteSettings settings
  | [], _, h => by
    rw [decodeSettings] at h
    cases h
    trivial
  | (name, value) :: rest, settings, h => by
    by_cases hv : value = .null
    · subst hv
      rw [decodeSettings] at h
      exact definiteSettings_of_decode rest settings h
    cases hn : Keyword.ofName? name with
    | none =>
      rw [decodeSettings_cons_of_none hn] at h
      exact definiteSettings_of_decode rest settings h
    | some keyword =>
      rw [decodeSettings_cons hn hv] at h
      obtain ⟨setting, hs, h⟩ := bind_eq_ok_iff.mp h
      obtain ⟨others, ho, h⟩ := bind_eq_ok_iff.mp h
      cases h
      exact ⟨definite_of_decodeSetting value keyword setting hv hs,
        definiteSettings_of_decode rest others ho⟩

/-- A setting that was read from a value other than `null` is definite; a sample is that
value itself. -/
theorem definite_of_decodeSetting : ∀ (value : Json) (keyword : Keyword) (setting : Setting),
    value ≠ .null → Setting.decode keyword value = .ok setting → setting.Definite
  | value, keyword, setting, hv, h => by
    cases keyword with
    | text keyword | flag keyword | count keyword | bound keyword | names keyword =>
      obtain ⟨_, _, h⟩ := bind_eq_ok_iff.mp h
      cases h
      trivial
    | enum | externalDocs | rules =>
      obtain ⟨_, _, h⟩ := bind_eq_ok_iff.mp h
      cases h
      trivial
    | sample keyword =>
      cases h
      exact hv
    | group keyword =>
      obtain ⟨schemas, hs, h⟩ := bind_eq_ok_iff.mp h
      cases h
      obtain ⟨items, rfl, hs⟩ := decodeSchemaList_eq_ok_iff.mp hs
      exact definiteSchemas_of_decode items schemas hs
    | table keyword =>
      obtain ⟨schemas, hs, h⟩ := bind_eq_ok_iff.mp h
      cases h
      obtain ⟨members, rfl, hs⟩ := decodeSchemaTable_eq_ok_iff.mp hs
      exact definiteTable_of_decode members schemas hs
    | additional keyword =>
      obtain ⟨additional, ha, h⟩ := bind_eq_ok_iff.mp h
      cases h
      obtain ⟨_, _, rfl⟩ | ⟨members, settings, rfl, hs, rfl⟩ :=
        decodeAdditional_eq_ok_iff.mp ha
      · trivial
      · exact definiteSettings_of_decode members settings hs
    | items =>
      obtain ⟨items, hi, h⟩ := bind_eq_ok_iff.mp h
      cases h
      obtain ⟨members, settings, rfl, hs, rfl⟩ | ⟨values, schemas, rfl, hs, rfl⟩ :=
        decodeItems_eq_ok_iff.mp hi
      · exact definiteSettings_of_decode members settings hs
      · exact definiteSchemas_of_decode values schemas hs
    | not =>
      obtain ⟨schema, hd, h⟩ := bind_eq_ok_iff.mp h
      cases h
      obtain ⟨members, settings, rfl, hs, rfl⟩ := decode_eq_ok_iff.mp hd
      exact definiteSettings_of_decode members settings hs
    | dependencies =>
      obtain ⟨dependencies, hd, h⟩ := bind_eq_ok_iff.mp h
      cases h
      obtain ⟨members, rfl, hd⟩ := decodeDependencyTable_eq_ok_iff.mp hd
      exact definiteDependencies_of_decode members dependencies hd

/-- Schemas that were read from an array are definite. -/
theorem definiteSchemas_of_decode : ∀ (items : List Json) (schemas : List Schema),
    decodeSchemas items = .ok schemas → DefiniteSchemas schemas
  | [], _, h => by
    rw [decodeSchemas] at h
    cases h
    trivial
  | item :: items, _, h => by
    rw [decodeSchemas] at h
    obtain ⟨schema, hd, h⟩ := bind_eq_ok_iff.mp h
    obtain ⟨schemas, ho, h⟩ := bind_eq_ok_iff.mp h
    cases h
    obtain ⟨members, settings, rfl, hs, rfl⟩ := decode_eq_ok_iff.mp hd
    exact ⟨definiteSettings_of_decode members settings hs,
      definiteSchemas_of_decode items schemas ho⟩

/-- Schemas that were read from an object are definite. -/
theorem definiteTable_of_decode : ∀ (members : List (String × Json))
    (schemas : List (String × Schema)), decodeTable members = .ok schemas → DefiniteTable schemas
  | [], _, h => by
    rw [decodeTable] at h
    cases h
    trivial
  | (name, value) :: rest, _, h => by
    rw [decodeTable] at h
    obtain ⟨schema, hd, h⟩ := bind_eq_ok_iff.mp h
    obtain ⟨schemas, ho, h⟩ := bind_eq_ok_iff.mp h
    cases h
    obtain ⟨members, settings, rfl, hs, rfl⟩ := decode_eq_ok_iff.mp hd
    exact ⟨definiteSettings_of_decode members settings hs,
      definiteTable_of_decode rest schemas ho⟩

/-- Dependencies that were read are definite. -/
theorem definiteDependencies_of_decode : ∀ (members : List (String × Json))
    (dependencies : List (String × Dependency)), decodeDependencies members = .ok dependencies →
      DefiniteDependencies dependencies
  | [], _, h => by
    rw [decodeDependencies] at h
    cases h
    trivial
  | (name, value) :: rest, _, h => by
    rw [decodeDependencies] at h
    obtain ⟨dependency, hd, h⟩ := bind_eq_ok_iff.mp h
    obtain ⟨others, ho, h⟩ := bind_eq_ok_iff.mp h
    cases h
    obtain ⟨members, settings, rfl, hs, rfl⟩ | ⟨_, _, _, _, rfl⟩ :=
      decodeDependency_eq_ok_iff.mp hd
    · exact ⟨definiteSettings_of_decode members settings hs,
        definiteDependencies_of_decode rest others ho⟩
    · exact definiteDependencies_of_decode rest others ho

end

end Schema

namespace Codec

theorem schema_returns {s : Schema} (h : s.Definite) : schema.Returns s := by
  refine ⟨Schema.decode_encode s h, ?_⟩
  cases s
  exact Json.noConfusion

/-- Every decoded schema is definite. -/
theorem definite_of_decode_schema {value : Json} {s : Schema} (h : schema.decode value = .ok s) :
    s.Definite := by
  obtain ⟨members, settings, -, hs, rfl⟩ := Schema.decode_eq_ok_iff.mp h
  exact Schema.definiteSettings_of_decode members settings hs

/-- A validation is read back if its schema is. -/
theorem validation_returns {v : Validation} (h : ∀ s ∈ v.openAPIV3Schema, s.Definite) :
    validation.Returns v := by
  refine ⟨?_, Json.noConfusion⟩
  simp [validation, ofFound_map fun s hs => schema_returns (h s hs)]

/-- The schema of a decoded validation is definite. -/
theorem definite_of_decode_validation {value : Json} {v : Validation}
    (h : validation.decode value = .ok v) : ∀ s ∈ v.openAPIV3Schema, s.Definite := by
  rintro s hs
  simp only [validation, step_eq_ok_iff, pure_eq_ok, Except.ok.injEq] at h
  obtain ⟨_, -, _, hr, rfl⟩ := h
  cases hs
  obtain ⟨found, -, hd⟩ := readOptional_eq_ok_some hr
  exact definite_of_decode_schema hd

end Codec

end CrdSynthesis
