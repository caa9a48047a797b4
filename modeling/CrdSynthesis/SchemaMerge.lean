import CrdSynthesis.Mode

/-!
# Merging schemas

The schema of a generated resource joins what its author describes, which may be the
properties of `spec` and nothing else, with the envelope of every object and with the
reserved properties of `spec` and `status`.

## Main definitions

* `GenerationError`, `TemplateDefect`: why no resource is generated, with the message
* `SpecTemplate`: what an author may say about `spec`
* `Schema.specTemplate`: what a schema fragment says about it, if its shape is allowed
* `authoredTemplate`: the same of a fragment that may be absent
* `mergeSchema`: the complete schema
-/

namespace CrdSynthesis

/-! ## Errors of generation -/

/-- What is wrong with the shape of an authored schema, at its root or at its `spec`. -/
inductive TemplateDefect where
  | rootType (type : String)
  | rootKeyword
  | rootProperty (name : String)
  | specType (type : String)
  | specKeyword
  deriving DecidableEq

/-- The text that tells the author what is wrong with the fragment. -/
def TemplateDefect.message : TemplateDefect → String
  | rootType type => String.join ["root type must be object, got ", type]
  | rootKeyword => "only type and properties.spec may be set at the root"
  | rootProperty name =>
    String.join ["unexpected root property '", name, "', only spec may be described"]
  | specType type => String.join ["spec type must be object, got ", type]
  | specKeyword => "only type, properties, required and description may be set on spec"

/-- Why a definition yields no resource; every cause is a defect of the definition. -/
inductive GenerationError where
  | missingClaimNames
  | conflictingClaimName (name : String)
  | reservedFieldName (name : String)
  | malformedTemplate (defect : TemplateDefect)
  | ownerReference (name : String)
  | serialization (text : String)
  deriving DecidableEq

/-- The text that tells the author why nothing is generated. -/
def GenerationError.message : GenerationError → String
  | missingClaimNames =>
    "claim names must be fully specified (kind, listKind, singular and plural)"
  | conflictingClaimName name =>
    String.join ["claim name '", name, "' conflicts with a composite resource name"]
  | reservedFieldName name =>
    String.join
      ["spec property '", name, "' is reserved and cannot be set in the schema template"]
  | malformedTemplate defect => String.join ["malformed schema template: ", defect.message]
  | ownerReference name =>
    String.join
      ["cannot build an owner reference to definition '", name, "': name and uid are required"]
  | serialization text => String.join ["serialization error: ", text]

/-- The error of a resource that is not written as JSON. -/
def GenerationError.ofJsonFault (fault : Json.Fault) : GenerationError :=
  .serialization fault.message

/-! ## The authored template -/

/-- What an author says about `spec`. -/
structure SpecTemplate where
  description : Option String := none
  properties : Option (Table Schema) := none
  required : Option (List String) := none

namespace Schema

/-- The keywords that may be set at the root of a fragment. -/
def rootKeywords : List Keyword := [.text .type, .table .properties]

/-- The keywords that may be set at the `spec` of a fragment. -/
def specKeywords : List Keyword :=
  [.text .type, .table .properties, .names .required, .text .description]

/-- The type that a schema sets, if it is not `object`. -/
def otherType? (schema : Schema) : Option String :=
  schema.type?.filter (· != "object")

/-- What the `spec` of a fragment says, if its shape is allowed. -/
def specNodeTemplate (spec : Schema) : Except TemplateDefect SpecTemplate :=
  match spec.otherType? with
  | some type => .error (.specType type)
  | none =>
    if spec.setsOnly specKeywords then
      .ok {
        description := spec.description?
        properties := spec.properties?
        required := spec.required? }
    else .error .specKeyword

/-- What a fragment says about `spec`, if the shape of the fragment is allowed. -/
def specTemplate (fragment : Schema) : Except TemplateDefect SpecTemplate :=
  match fragment.otherType? with
  | some type => .error (.rootType type)
  | none =>
    if fragment.setsOnly rootKeywords then
      let properties := fragment.properties?.getD []
      match properties.leastKey? (· != "spec") with
      | some name => .error (.rootProperty name)
      | none =>
        match properties.find? "spec" with
        | some spec => spec.specNodeTemplate
        | none => .ok {}
    else .error .rootKeyword

end Schema

/-- The authored properties joined with the reserved ones, if they share no name. -/
def mergeProperties (authored reserved : Table Schema) :
    Except GenerationError (Table Schema) :=
  match reserved.leastKey? authored.contains with
  | some name => .error (.reservedFieldName name)
  | none => .ok (reserved.insertAll authored)

/-- The schema of `spec` with all its properties. -/
def specSchema (template : SpecTemplate) (properties : Table Schema) : Schema :=
  .ofSettings <|
    (template.description.map (.text .description)).toList ++ [.table .properties properties] ++
      (template.required.map (.names .required)).toList ++ [.text .type "object"]

/-- An object that describes properties and requires none. -/
def objectSchema (properties : Table Schema) : Schema :=
  .ofSettings [.table .properties properties, .text .type "object"]

/-- The schema of an object with a given schema of `spec`. -/
def rootSchema (spec : Schema) : Schema :=
  objectSchema
    [("apiVersion", Schema.string), ("kind", Schema.string), ("metadata", .typed "object"),
      ("spec", spec), ("status", objectSchema ReservedProperties.status)]

/-- What the author of an optional fragment says about `spec`. -/
def authoredTemplate : Option Schema → Except GenerationError SpecTemplate
  | none => .ok {}
  | some fragment => fragment.specTemplate.mapError .malformedTemplate

/-- The complete schema of a resource generated in a mode. -/
def mergeSchema (fragment : Option Schema) (mode : Mode) : Except GenerationError Schema := do
  let template ← authoredTemplate fragment
  let properties ← mergeProperties (template.properties.getD []) mode.reservedProperties
  return rootSchema (specSchema template properties)

end CrdSynthesis
