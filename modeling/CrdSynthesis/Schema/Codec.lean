import CrdSynthesis.Codec
import CrdSynthesis.Schema

/-!
# Schemas as JSON

A schema is an object with a member for each keyword that it sets. A keyword that is
`null` counts as not set, and members of other names are ignored.

## Main definitions

* `Schema.encode`, `Schema.decode`: a schema as JSON and back
* `Codec.schema`: the two as a codec
* `Validation`, `Codec.validation`: the schema of a version's objects, if there is one
-/

namespace CrdSynthesis

namespace Codec

/-- Either part of the documentation may be absent. -/
def externalDocs : Codec Schema.ExternalDocs where
  encode docs := .object <|
    string.optional "description" docs.description ++ string.optional "url" docs.url
  decode value := do
    let members ← members "ExternalDocumentation" value
    let description ← string.readOptional "description" members
    let url ← string.readOptional "url" members
    return { description, url }

/-- A rule must be given, all else about it may be absent. -/
def rule : Codec Schema.Rule where
  encode r := .object <|
    string.optional "fieldPath" r.fieldPath ++ string.optional "message" r.message ++
      string.optional "messageExpression" r.messageExpression ++
      bool.optional "optionalOldSelf" r.optionalOldSelf ++ string.optional "reason" r.reason ++
      string.field "rule" r.rule
  decode value := do
    let members ← members "ValidationRule" value
    let fieldPath ← string.readOptional "fieldPath" members
    let message ← string.readOptional "message" members
    let messageExpression ← string.readOptional "messageExpression" members
    let optionalOldSelf ← bool.readOptional "optionalOldSelf" members
    let reason ← string.readOptional "reason" members
    let rule ← string.readOr "" "rule" members
    return { fieldPath, message, messageExpression, optionalOldSelf, reason, rule }

end Codec

namespace Schema

/-! ## Writing -/

mutual

/-- A schema as an object. -/
def encode : Schema → Json
  | .ofSettings settings => .object (encodeSettings settings)

/-- The members of a schema, one for each setting. -/
def encodeSettings : List Setting → List (String × Json)
  | [] => []
  | setting :: settings =>
    (setting.keyword.name, encodeSetting setting) :: encodeSettings settings

/-- The value of a setting. -/
def encodeSetting : Setting → Json
  | .text _ value => Codec.string.encode value
  | .flag _ value => Codec.bool.encode value
  | .count _ value => Codec.int64.encode value
  | .bound _ value => Codec.double.encode value
  | .sample _ value => Codec.json.encode value
  | .names _ values => Codec.string.list.encode values
  | .group _ schemas => .array (encodeSchemas schemas)
  | .table _ schemas => .object (encodeTable schemas)
  | .additional _ (.allowed value) => Codec.bool.encode value
  | .additional _ (.schema schema) => encode schema
  | .enum values => Codec.json.list.encode values
  | .externalDocs docs => Codec.externalDocs.encode docs
  | .rules rules => Codec.rule.list.encode rules
  | .items (.each schema) => encode schema
  | .items (.list schemas) => .array (encodeSchemas schemas)
  | .not schema => encode schema
  | .dependencies dependencies => .object (encodeDependencies dependencies)

/-- Schemas as the items of an array. -/
def encodeSchemas : List Schema → List Json
  | [] => []
  | schema :: schemas => encode schema :: encodeSchemas schemas

/-- Schemas as the members of an object, under the names they have. -/
def encodeTable : List (String × Schema) → List (String × Json)
  | [] => []
  | (name, schema) :: rest => (name, encode schema) :: encodeTable rest

/-- Dependencies as the members of an object. -/
def encodeDependencies : List (String × Dependency) → List (String × Json)
  | [] => []
  | (name, .schema schema) :: rest => (name, encode schema) :: encodeDependencies rest
  | (name, .names names) :: rest =>
    (name, Codec.string.list.encode names) :: encodeDependencies rest

end

/-! ## Reading -/

mutual

/-- The schema of an object. -/
def decode : Json → Except DecodeError Schema
  | .object members => do return .ofSettings (← decodeSettings members)
  | found => .error (.wrongType found "JSONSchemaProps")

/-- The settings of the members in their order. Members that are `null` or of another name are
passed over; the first other one that does not decode decides the error. -/
def decodeSettings : List (String × Json) → Except DecodeError (List Setting)
  | [] => .ok []
  | (_, .null) :: rest => decodeSettings rest
  | (name, value) :: rest =>
    match Keyword.ofName? name with
    | none => decodeSettings rest
    | some keyword => do
      let setting ← match keyword with
        | .text keyword => do pure (.text keyword (← Codec.string.decode value))
        | .flag keyword => do pure (.flag keyword (← Codec.bool.decode value))
        | .count keyword => do pure (.count keyword (← Codec.int64.decode value))
        | .bound keyword => do pure (.bound keyword (← Codec.double.decode value))
        | .sample keyword => do pure (.sample keyword (← Codec.json.decode value))
        | .names keyword => do pure (.names keyword (← Codec.string.list.decode value))
        | .group keyword => do pure (.group keyword (← decodeSchemaList value))
        | .table keyword => do pure (.table keyword (← decodeSchemaTable value))
        | .additional keyword => do pure (.additional keyword (← decodeAdditional value))
        | .enum => do pure (.enum (← Codec.json.list.decode value))
        | .externalDocs => do pure (.externalDocs (← Codec.externalDocs.decode value))
        | .rules => do pure (.rules (← Codec.rule.list.decode value))
        | .items => do pure (.items (← decodeItems value))
        | .not => do pure (.not (← decode value))
        | .dependencies => do pure (.dependencies (← decodeDependencyTable value))
      return setting :: (← decodeSettings rest)

/-- The schemas of an array. -/
def decodeSchemaList : Json → Except DecodeError (List Schema)
  | .array items => decodeSchemas items
  | found => .error (.wrongType found "a sequence")

/-- The schemas of an object, under the names of its members. -/
def decodeSchemaTable : Json → Except DecodeError (List (String × Schema))
  | .object members => decodeTable members
  | found => .error (.wrongType found "a map")

/-- A truth value or a schema. An object is read as a schema by its members. -/
def decodeAdditional : Json → Except DecodeError Additional
  | .bool value => .ok (.allowed value)
  | .object members => do return .schema (.ofSettings (← decodeSettings members))
  | found => .error (.wrongType found "JSONSchemaPropsOrBool")

/-- One schema for every item, or an array of schemas. -/
def decodeItems : Json → Except DecodeError Items
  | .array items => do return .list (← decodeSchemas items)
  | .object members => do return .each (.ofSettings (← decodeSettings members))
  | found => .error (.wrongType found "JSONSchemaPropsOrArray")

/-- The dependencies of an object, under the names of its members. -/
def decodeDependencyTable : Json → Except DecodeError (List (String × Dependency))
  | .object members => decodeDependencies members
  | found => .error (.wrongType found "a map")

/-- The schemas of the items of an array. -/
def decodeSchemas : List Json → Except DecodeError (List Schema)
  | [] => .ok []
  | item :: items => do
    let schema ← decode item
    return schema :: (← decodeSchemas items)

/-- The schemas of members, under their names. -/
def decodeTable : List (String × Json) → Except DecodeError (List (String × Schema))
  | [] => .ok []
  | (name, value) :: rest => do
    let schema ← decode value
    return (name, schema) :: (← decodeTable rest)

/-- The dependencies of members, under their names. -/
def decodeDependencies : List (String × Json) → Except DecodeError (List (String × Dependency))
  | [] => .ok []
  | (name, value) :: rest => do
    let dependency ← decodeDependency value
    return (name, dependency) :: (← decodeDependencies rest)

/-- A schema, or the names of properties that are demanded. -/
def decodeDependency : Json → Except DecodeError Dependency
  | .object members => do return .schema (.ofSettings (← decodeSettings members))
  | .array items => do return .names (← Codec.string.list.decode (.array items))
  | found => .error (.wrongType found "JSONSchemaPropsOrStringArray")

end

end Schema

/-- Schemas as JSON. -/
def Codec.schema : Codec Schema := ⟨Schema.encode, Schema.decode⟩

/-! ## Validations -/

/-- The schema by which objects are validated, if there is one. -/
structure Validation where
  openAPIV3Schema : Option Schema := none
  deriving Inhabited

/-- A validation as an object with at most the schema. -/
def Codec.validation : Codec Validation where
  encode v := .object (schema.optional "openAPIV3Schema" v.openAPIV3Schema)
  decode value := do
    let members ← members "CustomResourceValidation" value
    let openAPIV3Schema ← schema.readOptional "openAPIV3Schema" members
    return { openAPIV3Schema }

end CrdSynthesis
