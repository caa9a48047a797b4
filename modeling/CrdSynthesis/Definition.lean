import CrdSynthesis.Metadata
import CrdSynthesis.Schema.Codec

/-!
# Composite resource definitions

The authored description of a composite resource: its names, its group and version, a
fragment of its schema, and the names of the claim that it may offer.

## Main definitions

* `Definition`: an authored definition
* `Definition.schemaFragment?`: the authored part of the schema
* `Codec.definition`: a definition as JSON
-/

namespace CrdSynthesis

/-- The parts of the generated resource that the author controls. -/
structure Template where
  group : String := ""
  version : String := ""
  names : Names := {}
  validation : Option Validation := none
  deriving Inhabited

/-- What the author asks for: the template, and the names of a claim if one is offered. -/
structure DefinitionSpec where
  claimNames : Option Names := none
  template : Template := {}
  deriving Inhabited

/-- An authored definition. -/
structure Definition where
  metadata : Metadata := {}
  spec : DefinitionSpec := {}
  deriving Inhabited

namespace Definition

/-- The version of the interface to which definitions belong. -/
def apiVersion : String := "apiextensions.crossplane.io/v1alpha1"

/-- The kind of definitions. -/
def kind : String := "CompositeResourceDefinition"

/-- The group in which the generated resources are served. -/
def group (d : Definition) : String := d.spec.template.group

/-- The version under which the generated resources are served. -/
def version (d : Definition) : String := d.spec.template.version

/-- The names of the composite resource. -/
def compositeNames (d : Definition) : Names := d.spec.template.names

/-- The names of the claim, if one is offered. -/
def claimNames? (d : Definition) : Option Names := d.spec.claimNames

/-- A claim is offered, even if its names are not complete. -/
def offersClaim (d : Definition) : Bool := d.spec.claimNames.isSome

/-- The authored part of the schema; an empty validation has none. -/
def schemaFragment? (d : Definition) : Option Schema :=
  d.spec.template.validation.bind (·.openAPIV3Schema)

end Definition

namespace Codec

variable {α : Type}

/-! ## Records that may be written as arrays

The records of a definition's own types may also be written as arrays of their fields in
the order of declaration. Fields that have a value when absent may be missing at the end.
-/

/-- The value of a required field. -/
def require (name : String) : Option α → Except DecodeError α
  | none => .error (.missingField name)
  | some value => .ok value

/-- An element that may be missing, where `null` counts as absent. -/
def readElement (codec : Codec α) : List Json → Except DecodeError (Option α)
  | [] => .ok none
  | .null :: _ => .ok none
  | value :: _ => (codec.decode value).map some

/-- The element at the place `index` of an array for a record described by `expected`. -/
def requireElement (codec : Codec α) (expected : String) (index : Nat) :
    List Json → Except DecodeError α
  | [] => .error (.tooShort index expected)
  | value :: _ => codec.decode value

/-- An array of at most `count` elements. -/
def checkLength (items : List Json) (count : Nat) : Except DecodeError Unit :=
  if count < items.length then .error (.tooLong items.length) else .ok ()

/-- A template as an object. Wrong fields are reported in the order of their names, and then
missing ones in the order of declaration. -/
def templateMembers (members : Table Json) : Except DecodeError Template := do
  let group ← string.readPresent "group" members
  let names ← names.readPresent "names" members
  let validation ← validation.readOptional "validation" members
  let version ← string.readPresent "version" members
  let group ← require "group" group
  let version ← require "version" version
  let names ← require "names" names
  return { group, version, names, validation }

/-- A template as an array, whose last element may be missing. -/
def templateElements (items : List Json) : Except DecodeError Template := do
  let expected := "struct CrdSpecTemplate with 4 elements"
  let group ← string.requireElement expected 0 items
  let version ← string.requireElement expected 1 (items.drop 1)
  let names ← names.requireElement expected 2 (items.drop 2)
  let validation ← validation.readElement (items.drop 3)
  checkLength items 4
  return { group, version, names, validation }

/-- A template in either form; it is written as an object. -/
def template : Codec Template where
  encode t := .object <|
    string.field "group" t.group ++ names.field "names" t.names ++
      validation.optional "validation" t.validation ++ string.field "version" t.version
  decode
    | .object members => templateMembers members
    | .array items => templateElements items
    | found => .error (.wrongType found "struct CrdSpecTemplate")

/-- A specification as an object, which must hold a template. -/
def definitionSpecMembers (members : Table Json) : Except DecodeError DefinitionSpec := do
  let claimNames ← names.readOptional "claimNames" members
  let template ← template.readPresent "crdSpecTemplate" members
  let template ← require "crdSpecTemplate" template
  return { claimNames, template }

/-- A specification as an array; the names of the claim come first and may be `null`. -/
def definitionSpecElements (items : List Json) : Except DecodeError DefinitionSpec := do
  let expected := "struct CompositeResourceDefinitionSpec with 2 elements"
  let claimNames ← names.readElement items
  let template ← template.requireElement expected 1 (items.drop 1)
  checkLength items 2
  return { claimNames, template }

/-- A specification in either form; it is written as an object. -/
def definitionSpec : Codec DefinitionSpec where
  encode s := .object <|
    names.optional "claimNames" s.claimNames ++ template.field "crdSpecTemplate" s.template
  decode
    | .object members => definitionSpecMembers members
    | .array items => definitionSpecElements items
    | found => .error (.wrongType found "struct CompositeResourceDefinitionSpec")

/-- A definition as JSON; its type is written, and not checked when it is read. -/
def definition : Codec Definition where
  encode d := .object <|
    string.field "apiVersion" Definition.apiVersion ++ string.field "kind" Definition.kind ++
      metadata.field "metadata" d.metadata ++ definitionSpec.field "spec" d.spec
  decode value := do
    let members ← members "CompositeResourceDefinition" value
    let metadata ← metadata.readPresent "metadata" members
    let spec ← definitionSpec.readPresent "spec" members
    let metadata ← require "metadata" metadata
    let spec ← require "spec" spec
    return { metadata, spec }

end Codec

end CrdSynthesis
