import CrdSynthesis.Json

/-!
# Schemas

An OpenAPI schema is a list of settings, one for each keyword that it sets, in the
order of the keywords' names. Keywords are grouped by the kind of their value, so a
setting always holds a value of its keyword's kind.

## Main definitions

* `Schema`, `Schema.Setting`: schemas and their settings
* `Schema.Keyword`: the keywords, with their names
* `Schema.type?`, `Schema.properties?`, `Schema.required?`, `Schema.description?`,
  `Schema.items?`: the value of a keyword
* `Schema.typed`, `Schema.record`, `Schema.sequence`: schemas of common shapes
-/

namespace CrdSynthesis

namespace Schema

/-! ## Keywords -/

/-- Keywords with a string. -/
inductive TextKeyword where
  | ref | dialect | description | format | id | pattern | title | type | listType | mapType
  deriving DecidableEq

/-- Keywords with a truth value. -/
inductive FlagKeyword where
  | exclusiveMaximum | exclusiveMinimum | nullable | uniqueItems | embeddedResource
  | intOrString | preserveUnknownFields
  deriving DecidableEq

/-- Keywords with a count. -/
inductive CountKeyword where
  | maxItems | maxLength | maxProperties | minItems | minLength | minProperties
  deriving DecidableEq

/-- Keywords with a number. -/
inductive BoundKeyword where
  | maximum | minimum | multipleOf
  deriving DecidableEq

/-- Keywords with a value of any kind. -/
inductive SampleKeyword where
  | default | example
  deriving DecidableEq

/-- Keywords with a list of names. -/
inductive NamesKeyword where
  | required | listMapKeys
  deriving DecidableEq

/-- Keywords with a list of schemas. -/
inductive GroupKeyword where
  | allOf | anyOf | oneOf
  deriving DecidableEq

/-- Keywords with a table of schemas. -/
inductive TableKeyword where
  | definitions | patternProperties | properties
  deriving DecidableEq

/-- Keywords with a schema or a truth value. -/
inductive AdditionalKeyword where
  | items | properties
  deriving DecidableEq

/-- All keywords, grouped by the kind of their value. -/
inductive Keyword where
  | text (keyword : TextKeyword)
  | flag (keyword : FlagKeyword)
  | count (keyword : CountKeyword)
  | bound (keyword : BoundKeyword)
  | sample (keyword : SampleKeyword)
  | names (keyword : NamesKeyword)
  | group (keyword : GroupKeyword)
  | table (keyword : TableKeyword)
  | additional (keyword : AdditionalKeyword)
  | enum
  | externalDocs
  | rules
  | items
  | not
  | dependencies
  deriving DecidableEq

namespace Keyword

/-- The name of a keyword as it is written. -/
def name : Keyword → String
  | text .ref => "$ref"
  | text .dialect => "$schema"
  | text .description => "description"
  | text .format => "format"
  | text .id => "id"
  | text .pattern => "pattern"
  | text .title => "title"
  | text .type => "type"
  | text .listType => "x-kubernetes-list-type"
  | text .mapType => "x-kubernetes-map-type"
  | flag .exclusiveMaximum => "exclusiveMaximum"
  | flag .exclusiveMinimum => "exclusiveMinimum"
  | flag .nullable => "nullable"
  | flag .uniqueItems => "uniqueItems"
  | flag .embeddedResource => "x-kubernetes-embedded-resource"
  | flag .intOrString => "x-kubernetes-int-or-string"
  | flag .preserveUnknownFields => "x-kubernetes-preserve-unknown-fields"
  | count .maxItems => "maxItems"
  | count .maxLength => "maxLength"
  | count .maxProperties => "maxProperties"
  | count .minItems => "minItems"
  | count .minLength => "minLength"
  | count .minProperties => "minProperties"
  | bound .maximum => "maximum"
  | bound .minimum => "minimum"
  | bound .multipleOf => "multipleOf"
  | sample .default => "default"
  | sample .example => "example"
  | names .required => "required"
  | names .listMapKeys => "x-kubernetes-list-map-keys"
  | group .allOf => "allOf"
  | group .anyOf => "anyOf"
  | group .oneOf => "oneOf"
  | table .definitions => "definitions"
  | table .patternProperties => "patternProperties"
  | table .properties => "properties"
  | additional .items => "additionalItems"
  | additional .properties => "additionalProperties"
  | enum => "enum"
  | externalDocs => "externalDocs"
  | rules => "x-kubernetes-validations"
  | items => "items"
  | not => "not"
  | dependencies => "dependencies"

/-- All keywords, in the order of their names. -/
def all : List Keyword :=
  [text .ref, text .dialect, additional .items, additional .properties, group .allOf,
    group .anyOf, sample .default, table .definitions, dependencies, text .description, enum,
    sample .example, flag .exclusiveMaximum, flag .exclusiveMinimum, externalDocs, text .format,
    text .id, items, count .maxItems, count .maxLength, count .maxProperties, bound .maximum,
    count .minItems, count .minLength, count .minProperties, bound .minimum, bound .multipleOf,
    not, flag .nullable, group .oneOf, text .pattern, table .patternProperties,
    table .properties, names .required, text .title, text .type, flag .uniqueItems,
    flag .embeddedResource, flag .intOrString, names .listMapKeys, text .listType,
    text .mapType, flag .preserveUnknownFields, rules]

/-- The keyword of a name. -/
def ofName? (name : String) : Option Keyword := all.find? (·.name == name)

end Keyword

/-- Where the documentation of a schema is kept. -/
structure ExternalDocs where
  description : Option String
  url : Option String
  deriving DecidableEq

/-- A validation rule of a schema. -/
structure Rule where
  fieldPath : Option String
  message : Option String
  messageExpression : Option String
  optionalOldSelf : Option Bool
  reason : Option String
  rule : String
  deriving DecidableEq

end Schema

/-! ## Schemas and settings -/

mutual

/-- A schema, by the keywords that it sets. -/
inductive Schema where
  | ofSettings (settings : List Schema.Setting)

/-- A keyword with its value. -/
inductive Schema.Setting where
  | text (keyword : Schema.TextKeyword) (value : String)
  | flag (keyword : Schema.FlagKeyword) (value : Bool)
  | count (keyword : Schema.CountKeyword) (value : Int64)
  | bound (keyword : Schema.BoundKeyword) (value : Double)
  | sample (keyword : Schema.SampleKeyword) (value : Json)
  | names (keyword : Schema.NamesKeyword) (values : List String)
  | group (keyword : Schema.GroupKeyword) (schemas : List Schema)
  | table (keyword : Schema.TableKeyword) (schemas : List (String × Schema))
  | additional (keyword : Schema.AdditionalKeyword) (value : Schema.Additional)
  | enum (values : List Json)
  | externalDocs (docs : Schema.ExternalDocs)
  | rules (rules : List Schema.Rule)
  | items (items : Schema.Items)
  | not (schema : Schema)
  | dependencies (dependencies : List (String × Schema.Dependency))

/-- What may stand beside the described items or properties. -/
inductive Schema.Additional where
  | allowed (value : Bool)
  | schema (schema : Schema)

/-- The schema of every item, or one for each. -/
inductive Schema.Items where
  | each (schema : Schema)
  | list (schemas : List Schema)

/-- What the presence of a property demands. -/
inductive Schema.Dependency where
  | schema (schema : Schema)
  | names (names : List String)

end

namespace Schema

instance : Inhabited Schema := ⟨.ofSettings []⟩

/-- The settings of a schema, in the order of their keywords. -/
def settings : Schema → List Setting
  | .ofSettings settings => settings

/-- The keyword that a setting sets. -/
def Setting.keyword : Setting → Keyword
  | text keyword _ => .text keyword
  | flag keyword _ => .flag keyword
  | count keyword _ => .count keyword
  | bound keyword _ => .bound keyword
  | sample keyword _ => .sample keyword
  | names keyword _ => .names keyword
  | group keyword _ => .group keyword
  | table keyword _ => .table keyword
  | additional keyword _ => .additional keyword
  | enum _ => .enum
  | externalDocs _ => .externalDocs
  | rules _ => .rules
  | items _ => .items
  | not _ => .not
  | dependencies _ => .dependencies

/-- The schema sets no keyword but those of the list. -/
def setsOnly (schema : Schema) (keywords : List Keyword) : Bool :=
  schema.settings.all fun setting => keywords.contains setting.keyword

/-! ## The value of a keyword -/

/-- The string under a keyword, if the schema sets it. -/
def text? (schema : Schema) (keyword : TextKeyword) : Option String :=
  schema.settings.findSome? fun
    | .text k value => if k = keyword then some value else none
    | _ => none

/-- The names under a keyword, if the schema sets it. -/
def names? (schema : Schema) (keyword : NamesKeyword) : Option (List String) :=
  schema.settings.findSome? fun
    | .names k values => if k = keyword then some values else none
    | _ => none

/-- The schemas under a keyword, if the schema sets it. -/
def table? (schema : Schema) (keyword : TableKeyword) : Option (Table Schema) :=
  schema.settings.findSome? fun
    | .table k schemas => if k = keyword then some schemas else none
    | _ => none

/-- What the items of an array are, if the schema says so. -/
def items? (schema : Schema) : Option Items :=
  schema.settings.findSome? fun
    | .items items => some items
    | _ => none

/-- What else may stand beside what is described, if the schema says so. -/
def additional? (schema : Schema) (keyword : AdditionalKeyword) : Option Additional :=
  schema.settings.findSome? fun
    | .additional k value => if k = keyword then some value else none
    | _ => none

/-- The type of the values that a schema describes. -/
def type? (schema : Schema) : Option String := schema.text? .type

/-- The description in words. -/
def description? (schema : Schema) : Option String := schema.text? .description

/-- The names of the properties that must be given. -/
def required? (schema : Schema) : Option (List String) := schema.names? .required

/-- The described properties. -/
def properties? (schema : Schema) : Option (Table Schema) := schema.table? .properties

/-! ## Common shapes -/

/-- A schema that sets the type and nothing else. -/
def typed (type : String) : Schema := .ofSettings [.text .type type]

/-- Any string. -/
def string : Schema := typed "string"

/-- Any integer. -/
def integer : Schema := typed "integer"

/-- An object with required names and described properties. -/
def record (required : List String) (properties : Table Schema) : Schema :=
  .ofSettings [.table .properties properties, .names .required required, .text .type "object"]

/-- An array of items of one schema. -/
def sequence (items : Schema) : Schema :=
  .ofSettings [.items (.each items), .text .type "array"]

/-- One of several strings. -/
def choice (values : List String) : Schema :=
  .ofSettings [.enum (values.map .string), .text .type "string"]

end Schema

end CrdSynthesis
