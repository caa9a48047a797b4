import CrdSynthesis.Crd

/-!
# Modes of generation

A definition yields a resource for the composite and one for its claim. What differs between
the two is decided by the mode: the scope, the printed columns, and the reserved properties,
which every generated resource has, whatever its author describes.

## Main definitions

* `JsonPath`: the path from an object to a value within it
* `ReservedProperties.composite`, `ReservedProperties.claim`: the reserved properties of
  the `spec` of a composite resource and of a claim
* `ReservedProperties.status`: the properties of the `status` of both
* `Mode`: composite or claim
* `Mode.scope`, `Mode.columns`, `Mode.reservedProperties`: what the mode decides
-/

namespace CrdSynthesis

/-! ## Paths into objects

A path leads from an object to a value within it, by the names of fields and by the types of
the entries of lists.
-/

/-- A step of a path. -/
inductive JsonPath.Step where
  /-- The field of a name. -/
  | field (name : String)
  /-- The entries of a list whose field `type` holds a text. -/
  | entryOfType (type : String)
  deriving DecidableEq

/-- A path, step by step. -/
abbrev JsonPath := List JsonPath.Step

namespace JsonPath

/-- The written step. -/
def Step.text : Step → String
  | field name => String.join [".", name]
  | entryOfType type => String.join ["[?(@.type=='", type, "')]"]

/-- The written path; the object at which it starts is not named. -/
def text (path : JsonPath) : String := String.join (path.map Step.text)

end JsonPath

/-! ## Reserved properties

The references that bind a composite resource or a claim, and the fields of its status.
-/

namespace ReservedProperties

open Schema

/-- The phases of the binding between a composite resource and its claim. -/
def bindingPhases : List String := ["Unbindable", "Unbound", "Bound", "Released"]

/-- A record of strings. -/
def strings (required names : List String) : Schema :=
  record required (names.map fun name => (name, Schema.string))

/-- The composition in use is known by its name. -/
def compositionRef : Schema := strings ["name"] ["name"]

/-- A composition is selected by labels, whose values are strings. -/
def compositionSelector : Schema :=
  record ["matchLabels"]
    [("matchLabels",
      .ofSettings [.additional .properties (.schema Schema.string), .text .type "object"])]

/-- A condition, which must tell its type, its status, and since when and why. -/
def condition : Schema :=
  record ["lastTransitionTime", "reason", "status", "type"]
    [("lastTransitionTime", .ofSettings [.text .format "date-time", .text .type "string"]),
      ("message", Schema.string), ("reason", Schema.string), ("status", Schema.string),
      ("type", Schema.string)]

/-- The conditions of a resource. -/
def conditions : Schema :=
  .ofSettings
    [.text .description "Conditions of the resource.", .items (.each condition),
      .text .type "array"]

/-- A composite resource refers to its claim, to its composition and to the resources that it is
composed of. -/
def composite : Table Schema :=
  [("claimRef",
      strings ["apiVersion", "kind", "namespace", "name"]
        ["apiVersion", "kind", "name", "namespace"]),
    ("compositionRef", compositionRef),
    ("compositionSelector", compositionSelector),
    ("resourceRefs",
      sequence (strings ["apiVersion", "kind", "name"] ["apiVersion", "kind", "name", "uid"])),
    ("writeConnectionSecretToRef", strings ["name", "namespace"] ["name", "namespace"])]

/-- A claim lives in a namespace, so its connection secret needs none of its own. -/
def claim : Table Schema :=
  [("compositionRef", compositionRef),
    ("compositionSelector", compositionSelector),
    ("resourceRef", strings ["apiVersion", "kind", "name"] ["apiVersion", "kind", "name"]),
    ("writeConnectionSecretToRef", strings ["name"] ["name"])]

/-- The status of either resource. -/
def status : Table Schema :=
  [("bindingPhase", choice bindingPhases),
    ("composedResources", integer),
    ("conditions", conditions),
    ("readyResources", integer)]

end ReservedProperties

/-! ## Modes -/

/-- Which of the two resources of a definition is generated. -/
inductive Mode where
  | composite
  | claim
  deriving DecidableEq

/-- Where the objects of a resource live. -/
inductive Scope where
  | namespaced
  | cluster
  deriving DecidableEq

/-- The name of a scope. -/
def Scope.text : Scope → String
  | namespaced => "Namespaced"
  | cluster => "Cluster"

/-- A column that is printed for each object, with the path of its value. -/
structure PrinterColumn where
  name : String
  path : JsonPath
  deriving DecidableEq

namespace PrinterColumn

/-- The column as it is printed: a text, with the written path. -/
def toColumn (column : PrinterColumn) : Crd.Column :=
  { name := column.name, type := "string", jsonPath := column.path.text }

/-- The status of the condition of a type. -/
def condition (name type : String) : PrinterColumn where
  name := name
  path := [.field "status", .field "conditions", .entryOfType type, .field "status"]

/-- The name that a reference in `spec` holds. -/
def reference (name field : String) : PrinterColumn where
  name := name
  path := [.field "spec", .field field, .field "name"]

/-- Whether the resource can be used. -/
def ready : PrinterColumn := condition "READY" "Ready"

/-- Whether the resource is as it was asked for. -/
def synced : PrinterColumn := condition "SYNCED" "Synced"

/-- The composition that a composite resource uses. -/
def composition : PrinterColumn := reference "COMPOSITION" "compositionRef"

/-- The secret to which a claim writes how to connect. -/
def connectionSecret : PrinterColumn :=
  reference "CONNECTION-SECRET" "writeConnectionSecretToRef"

end PrinterColumn

namespace Mode

/-- The name of a mode. -/
def text : Mode → String
  | composite => "composite"
  | claim => "claim"

/-- Composite resources belong to the cluster, claims to a namespace. -/
def scope : Mode → Scope
  | composite => .cluster
  | claim => .namespaced

/-- The columns in the order in which they are printed. -/
def columns : Mode → List PrinterColumn
  | composite => [.ready, .synced, .composition]
  | claim => [.ready, .synced, .connectionSecret]

/-- The properties of `spec` that no author may describe. -/
def reservedProperties : Mode → Table Schema
  | composite => ReservedProperties.composite
  | claim => ReservedProperties.claim

end Mode

end CrdSynthesis
