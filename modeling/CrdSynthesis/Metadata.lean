import CrdSynthesis.Codec

/-!
# Metadata and names

The metadata that every stored object carries, references from an object to its owner, and the
names under which a kind of resource is served.

## Main definitions

* `OwnerReference`, `ManagedFields`, `Metadata`: what is known of an object
* `Names`, `Names.identity`: the names of a kind, and the four that tell kinds apart
* `Codec.ownerReference`, `Codec.metadata`, `Codec.names`: their codecs
-/

namespace CrdSynthesis

/-- A reference to the object that owns another. -/
structure OwnerReference where
  apiVersion : String
  blockOwnerDeletion : Option Bool
  controller : Option Bool
  kind : String
  name : String
  uid : String
  deriving DecidableEq

/-- The fields of an object that one manager has set. -/
structure ManagedFields where
  apiVersion : Option String
  fieldsType : Option String
  fieldsV1 : Option Json
  manager : Option String
  operation : Option String
  subresource : Option String
  time : Option Timestamp

/-- What is known of a stored object, none of which need be given. -/
structure Metadata where
  annotations : Option (Table String) := none
  creationTimestamp : Option Timestamp := none
  deletionGracePeriodSeconds : Option Int64 := none
  deletionTimestamp : Option Timestamp := none
  finalizers : Option (List String) := none
  generateName : Option String := none
  generation : Option Int64 := none
  labels : Option (Table String) := none
  managedFields : Option (List ManagedFields) := none
  name : Option String := none
  namespaceName : Option String := none
  ownerReferences : Option (List OwnerReference) := none
  resourceVersion : Option String := none
  selfLink : Option String := none
  uid : Option String := none
  deriving Inhabited

namespace Codec

/-- A missing text of a reference reads as empty. -/
def ownerReference : Codec OwnerReference where
  encode r := .object <|
    string.field "apiVersion" r.apiVersion ++
      bool.optional "blockOwnerDeletion" r.blockOwnerDeletion ++
      bool.optional "controller" r.controller ++ string.field "kind" r.kind ++
      string.field "name" r.name ++ string.field "uid" r.uid
  decode value := do
    let members ← members "OwnerReference" value
    let apiVersion ← string.readOr "" "apiVersion" members
    let blockOwnerDeletion ← bool.readOptional "blockOwnerDeletion" members
    let controller ← bool.readOptional "controller" members
    let kind ← string.readOr "" "kind" members
    let name ← string.readOr "" "name" members
    let uid ← string.readOr "" "uid" members
    return { apiVersion, blockOwnerDeletion, controller, kind, name, uid }

/-- A set of managed fields, whose own structure is kept as it is. -/
def managedFields : Codec ManagedFields where
  encode m := .object <|
    string.optional "apiVersion" m.apiVersion ++ string.optional "fieldsType" m.fieldsType ++
      json.optional "fieldsV1" m.fieldsV1 ++ string.optional "manager" m.manager ++
      string.optional "operation" m.operation ++ string.optional "subresource" m.subresource ++
      timestamp.optional "time" m.time
  decode value := do
    let members ← members "ManagedFieldsEntry" value
    let apiVersion ← string.readOptional "apiVersion" members
    let fieldsType ← string.readOptional "fieldsType" members
    let fieldsV1 ← json.readOptional "fieldsV1" members
    let manager ← string.readOptional "manager" members
    let operation ← string.readOptional "operation" members
    let subresource ← string.readOptional "subresource" members
    let time ← timestamp.readOptional "time" members
    return { apiVersion, fieldsType, fieldsV1, manager, operation, subresource, time }

/-- Metadata, of which every part may be absent. -/
def metadata : Codec Metadata where
  encode m := .object <|
    string.table.optional "annotations" m.annotations ++
      timestamp.optional "creationTimestamp" m.creationTimestamp ++
      int64.optional "deletionGracePeriodSeconds" m.deletionGracePeriodSeconds ++
      timestamp.optional "deletionTimestamp" m.deletionTimestamp ++
      string.list.optional "finalizers" m.finalizers ++
      string.optional "generateName" m.generateName ++
      int64.optional "generation" m.generation ++ string.table.optional "labels" m.labels ++
      managedFields.list.optional "managedFields" m.managedFields ++
      string.optional "name" m.name ++ string.optional "namespace" m.namespaceName ++
      ownerReference.list.optional "ownerReferences" m.ownerReferences ++
      string.optional "resourceVersion" m.resourceVersion ++
      string.optional "selfLink" m.selfLink ++ string.optional "uid" m.uid
  decode value := do
    let members ← members "ObjectMeta" value
    let annotations ← string.table.readOptional "annotations" members
    let creationTimestamp ← timestamp.readOptional "creationTimestamp" members
    let deletionGracePeriodSeconds ← int64.readOptional "deletionGracePeriodSeconds" members
    let deletionTimestamp ← timestamp.readOptional "deletionTimestamp" members
    let finalizers ← string.list.readOptional "finalizers" members
    let generateName ← string.readOptional "generateName" members
    let generation ← int64.readOptional "generation" members
    let labels ← string.table.readOptional "labels" members
    let managedFields ← managedFields.list.readOptional "managedFields" members
    let name ← string.readOptional "name" members
    let namespaceName ← string.readOptional "namespace" members
    let ownerReferences ← ownerReference.list.readOptional "ownerReferences" members
    let resourceVersion ← string.readOptional "resourceVersion" members
    let selfLink ← string.readOptional "selfLink" members
    let uid ← string.readOptional "uid" members
    return {
      annotations, creationTimestamp, deletionGracePeriodSeconds, deletionTimestamp, finalizers,
      generateName, generation, labels, managedFields, name, namespaceName, ownerReferences,
      resourceVersion, selfLink, uid }

end Codec

/-! ## Names of resources -/

/-- The names of a kind. An absent list kind or singular is not filled in. -/
structure Names where
  categories : Option (List String) := none
  kind : String := ""
  listKind : Option String := none
  plural : String := ""
  shortNames : Option (List String) := none
  singular : Option String := none
  deriving DecidableEq, Inhabited

/-- The kind, the kind of lists, the singular and the plural; an absent name is empty. -/
def Names.identity (names : Names) : List String :=
  [names.kind, names.listKind.getD "", names.singular.getD "", names.plural]

/-- Names as JSON; the kind and the plural are written even if they are empty. -/
def Codec.names : Codec Names where
  encode n := .object <|
    string.list.optional "categories" n.categories ++ string.field "kind" n.kind ++
      string.optional "listKind" n.listKind ++ string.field "plural" n.plural ++
      string.list.optional "shortNames" n.shortNames ++ string.optional "singular" n.singular
  decode value := do
    let members ← members "CustomResourceDefinitionNames" value
    let categories ← string.list.readOptional "categories" members
    let kind ← string.readOr "" "kind" members
    let listKind ← string.readOptional "listKind" members
    let plural ← string.readOr "" "plural" members
    let shortNames ← string.list.readOptional "shortNames" members
    let singular ← string.readOptional "singular" members
    return { categories, kind, listKind, plural, shortNames, singular }

end CrdSynthesis
