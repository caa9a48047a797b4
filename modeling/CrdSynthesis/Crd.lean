import CrdSynthesis.Metadata
import CrdSynthesis.Schema.Codec
import CrdSynthesis.Yaml.Printer

/-!
# Custom resource definitions

The object by which a kind of resource is registered, with its versions and its status, as
JSON and as a rendered document, and when its status says that the kind is served.

## Main definitions

* `Crd`: a custom resource definition
* `Crd.Version`, `Crd.Column`, `Crd.Status`, `Crd.Condition`: its parts
* `Crd.Conversion`: how its versions are converted into one another
* `Codec.crd`, `Codec.crdStatus`, `Codec.condition`, `Codec.column`: the codecs
* `Crd.isEstablished`, `Crd.conditionsEstablished`: whether the kind is served
* `Crd.toYaml`, `Crd.toPrettyJson`, `Crd.toYamlStream`: the rendered documents
-/

namespace CrdSynthesis

namespace Crd

/-- The service that answers for a webhook. -/
structure ServiceReference where
  name : String := ""
  namespaceName : String := ""
  path : Option String := none
  servicePort : Option Int32 := none

/-- How a webhook is reached; the bundle of certificates is kept as base64 text. -/
structure WebhookClient where
  caBundle : Option String := none
  service : Option ServiceReference := none
  url : Option String := none

/-- The webhook that converts objects, with the versions of reviews that it understands. -/
structure WebhookConversion where
  clientConfig : Option WebhookClient := none
  conversionReviewVersions : List String := []

/-- How objects of one version become objects of another. -/
structure Conversion where
  strategy : String := ""
  webhook : Option WebhookConversion := none

/-- A column that is printed for each object. -/
structure Column where
  description : Option String := none
  format : Option String := none
  jsonPath : String := ""
  name : String := ""
  priority : Option Int32 := none
  type : String := ""
  deriving DecidableEq

/-- A field by which objects can be selected. -/
structure SelectableField where
  jsonPath : String := ""
  deriving DecidableEq

/-- Where an object keeps what scales it. -/
structure Scale where
  labelSelectorPath : Option String := none
  specReplicasPath : String := ""
  statusReplicasPath : String := ""
  deriving DecidableEq

/-- The parts of an object that are served on their own; whatever stands for the status turns
it on. -/
structure Subresources where
  scale : Option Scale := none
  status : Option Json := none

/-- A version of the kind, with the schema of its objects. It may be served, and one is stored. -/
structure Version where
  additionalPrinterColumns : Option (List Column) := none
  deprecated : Option Bool := none
  deprecationWarning : Option String := none
  name : String := ""
  schema : Option Validation := none
  selectableFields : Option (List SelectableField) := none
  served : Bool := false
  storage : Bool := false
  subresources : Option Subresources := none

/-- What is asked of the cluster: the names, the scope and the versions of the kind. -/
structure Spec where
  conversion : Option Conversion := none
  group : String := ""
  names : Names := {}
  preserveUnknownFields : Option Bool := none
  scope : String := ""
  versions : List Version := []

/-- A statement of the cluster about the kind, of a type and with a status. -/
structure Condition where
  lastTransitionTime : Option Timestamp := none
  message : Option String := none
  reason : Option String := none
  status : String := ""
  type : String := ""
  deriving DecidableEq

/-- What the cluster says of the kind. -/
structure Status where
  acceptedNames : Option Names := none
  conditions : Option (List Condition) := none
  storedVersions : Option (List String) := none
  deriving DecidableEq

/-- The version of the interface to which such objects belong. -/
def apiVersion : String := "apiextensions.k8s.io/v1"

/-- The kind of such objects. -/
def kind : String := "CustomResourceDefinition"

end Crd

/-- A custom resource definition. -/
structure Crd where
  metadata : Metadata := {}
  spec : Crd.Spec := {}
  status : Option Crd.Status := none

/-! ## Resources as JSON

Every missing or `null` field takes its default. The type of the object is written; on reading
it may be missing, and where it is given it must be the right one.
-/

namespace Codec

/-- Base64 text, kept as it is written. -/
def base64 : Codec String where
  encode := .string
  decode
    | .string value => if Text.isBase64 value then .ok value else .error .badBase64
    | found => .error (.wrongType found "a base64-encoded string")

/-- The name and the namespace of a service are written even if they are empty. -/
def serviceReference : Codec Crd.ServiceReference where
  encode s := .object <|
    string.field "name" s.name ++ string.field "namespace" s.namespaceName ++
      string.optional "path" s.path ++ int32.optional "port" s.servicePort
  decode value := do
    let members ← members "ServiceReference" value
    let name ← string.readOr "" "name" members
    let namespaceName ← string.readOr "" "namespace" members
    let path ← string.readOptional "path" members
    let servicePort ← int32.readOptional "port" members
    return { name, namespaceName, path, servicePort }

/-- Any of the parts of a webhook client may be absent. -/
def webhookClient : Codec Crd.WebhookClient where
  encode c := .object <|
    base64.optional "caBundle" c.caBundle ++ serviceReference.optional "service" c.service ++
      string.optional "url" c.url
  decode value := do
    let members ← members "WebhookClientConfig" value
    let caBundle ← base64.readOptional "caBundle" members
    let service ← serviceReference.readOptional "service" members
    let url ← string.readOptional "url" members
    return { caBundle, service, url }

/-- The list of versions is written even if it is empty. -/
def webhookConversion : Codec Crd.WebhookConversion where
  encode w := .object <|
    webhookClient.optional "clientConfig" w.clientConfig ++
      string.list.field "conversionReviewVersions" w.conversionReviewVersions
  decode value := do
    let members ← members "WebhookConversion" value
    let clientConfig ← webhookClient.readOptional "clientConfig" members
    let conversionReviewVersions ← string.list.readOr [] "conversionReviewVersions" members
    return { clientConfig, conversionReviewVersions }

/-- The strategy is written even if it is empty. -/
def conversion : Codec Crd.Conversion where
  encode c := .object <|
    string.field "strategy" c.strategy ++ webhookConversion.optional "webhook" c.webhook
  decode value := do
    let members ← members "CustomResourceConversion" value
    let strategy ← string.readOr "" "strategy" members
    let webhook ← webhookConversion.readOptional "webhook" members
    return { strategy, webhook }

/-- The path, the name and the type of a column are written even if they are empty. -/
def column : Codec Crd.Column where
  encode c := .object <|
    string.optional "description" c.description ++ string.optional "format" c.format ++
      string.field "jsonPath" c.jsonPath ++ string.field "name" c.name ++
      int32.optional "priority" c.priority ++ string.field "type" c.type
  decode value := do
    let members ← members "CustomResourceColumnDefinition" value
    let description ← string.readOptional "description" members
    let format ← string.readOptional "format" members
    let jsonPath ← string.readOr "" "jsonPath" members
    let name ← string.readOr "" "name" members
    let priority ← int32.readOptional "priority" members
    let type ← string.readOr "" "type" members
    return { description, format, jsonPath, name, priority, type }

/-- A selectable field is an object that holds its path. -/
def selectableField : Codec Crd.SelectableField where
  encode s := .object (string.field "jsonPath" s.jsonPath)
  decode value := do
    let members ← members "SelectableField" value
    let jsonPath ← string.readOr "" "jsonPath" members
    return { jsonPath }

/-- The paths of the replicas are written even if they are empty, that of the selector may
be absent. -/
def scale : Codec Crd.Scale where
  encode s := .object <|
    string.optional "labelSelectorPath" s.labelSelectorPath ++
      string.field "specReplicasPath" s.specReplicasPath ++
      string.field "statusReplicasPath" s.statusReplicasPath
  decode value := do
    let members ← members "CustomResourceSubresourceScale" value
    let labelSelectorPath ← string.readOptional "labelSelectorPath" members
    let specReplicasPath ← string.readOr "" "specReplicasPath" members
    let statusReplicasPath ← string.readOr "" "statusReplicasPath" members
    return { labelSelectorPath, specReplicasPath, statusReplicasPath }

/-- The status is kept as it is written, whatever it holds. -/
def subresources : Codec Crd.Subresources where
  encode s := .object (scale.optional "scale" s.scale ++ json.optional "status" s.status)
  decode value := do
    let members ← members "CustomResourceSubresources" value
    let scale ← scale.readOptional "scale" members
    let status ← json.readOptional "status" members
    return { scale, status }

/-- A version says whether it is served and stored, and is neither where it does not. -/
def version : Codec Crd.Version where
  encode v := .object <|
    column.list.optional "additionalPrinterColumns" v.additionalPrinterColumns ++
      bool.optional "deprecated" v.deprecated ++
      string.optional "deprecationWarning" v.deprecationWarning ++ string.field "name" v.name ++
      validation.optional "schema" v.schema ++
      selectableField.list.optional "selectableFields" v.selectableFields ++
      bool.field "served" v.served ++ bool.field "storage" v.storage ++
      subresources.optional "subresources" v.subresources
  decode value := do
    let members ← members "CustomResourceDefinitionVersion" value
    let additionalPrinterColumns ← column.list.readOptional "additionalPrinterColumns" members
    let deprecated ← bool.readOptional "deprecated" members
    let deprecationWarning ← string.readOptional "deprecationWarning" members
    let name ← string.readOr "" "name" members
    let schema ← validation.readOptional "schema" members
    let selectableFields ← selectableField.list.readOptional "selectableFields" members
    let served ← bool.readOr false "served" members
    let storage ← bool.readOr false "storage" members
    let subresources ← subresources.readOptional "subresources" members
    return {
      additionalPrinterColumns, deprecated, deprecationWarning, name, schema, selectableFields,
      served, storage, subresources }

/-- The names and the list of versions are written even if nothing is in them. -/
def crdSpec : Codec Crd.Spec where
  encode s := .object <|
    conversion.optional "conversion" s.conversion ++ string.field "group" s.group ++
      names.field "names" s.names ++
      bool.optional "preserveUnknownFields" s.preserveUnknownFields ++
      string.field "scope" s.scope ++ version.list.field "versions" s.versions
  decode value := do
    let members ← members "CustomResourceDefinitionSpec" value
    let conversion ← conversion.readOptional "conversion" members
    let group ← string.readOr "" "group" members
    let names ← names.readOr {} "names" members
    let preserveUnknownFields ← bool.readOptional "preserveUnknownFields" members
    let scope ← string.readOr "" "scope" members
    let versions ← version.list.readOr [] "versions" members
    return { conversion, group, names, preserveUnknownFields, scope, versions }

/-- The status and the type of a condition are written even if they are empty. -/
def condition : Codec Crd.Condition where
  encode c := .object <|
    timestamp.optional "lastTransitionTime" c.lastTransitionTime ++
      string.optional "message" c.message ++ string.optional "reason" c.reason ++
      string.field "status" c.status ++ string.field "type" c.type
  decode value := do
    let members ← members "CustomResourceDefinitionCondition" value
    let lastTransitionTime ← timestamp.readOptional "lastTransitionTime" members
    let message ← string.readOptional "message" members
    let reason ← string.readOptional "reason" members
    let status ← string.readOr "" "status" members
    let type ← string.readOr "" "type" members
    return { lastTransitionTime, message, reason, status, type }

/-- Any of the parts of a status may be absent. -/
def crdStatus : Codec Crd.Status where
  encode s := .object <|
    names.optional "acceptedNames" s.acceptedNames ++
      condition.list.optional "conditions" s.conditions ++
      string.list.optional "storedVersions" s.storedVersions
  decode value := do
    let members ← members "CustomResourceDefinitionStatus" value
    let acceptedNames ← names.readOptional "acceptedNames" members
    let conditions ← condition.list.readOptional "conditions" members
    let storedVersions ← string.list.readOptional "storedVersions" members
    return { acceptedNames, conditions, storedVersions }

/-- A field that must hold a given text where it is present. -/
def checkText (name expected : String) (members : Table Json) : Except DecodeError Unit := do
  match ← string.readPresent name members with
  | none => .ok ()
  | some found => if found = expected then .ok () else .error (.unexpectedText found expected)

/-- A definition with its type and its metadata. -/
def crd : Codec Crd where
  encode c := .object <|
    string.field "apiVersion" Crd.apiVersion ++ string.field "kind" Crd.kind ++
      metadata.field "metadata" c.metadata ++ crdSpec.field "spec" c.spec ++
      crdStatus.optional "status" c.status
  decode value := do
    let members ← members Crd.kind value
    checkText "apiVersion" Crd.apiVersion members
    checkText "kind" Crd.kind members
    let metadata ← metadata.readOr {} "metadata" members
    let spec ← crdSpec.readOr {} "spec" members
    let status ← crdStatus.readOptional "status" members
    return { metadata, spec, status }

end Codec

/-! ## Establishment

A resource is established once it is served, which its conditions say. Of several conditions of
that type the first decides.
-/

namespace Crd

/-- The type of the condition that says whether a resource is served. -/
def established : String := "Established"

/-- The first condition of the type decides, and without one the kind is not served. -/
def conditionsEstablished (conditions : List Condition) : Bool :=
  match conditions.find? (·.type == established) with
  | some condition => condition.status == "True"
  | none => false

/-- The status has such conditions; absent conditions are none. -/
def Status.isEstablished (status : Status) : Bool :=
  conditionsEstablished (status.conditions.getD [])

end Crd

/-- The kind is served. Before the cluster has said anything it is not. -/
def Crd.isEstablished (crd : Crd) : Bool :=
  match crd.status with
  | some status => status.isEstablished
  | none => false

/-! ## Rendering -/

namespace Crd

/-- The resource as a YAML document. -/
def toYaml (crd : Crd) : String := Yaml.print (Codec.crd.encode crd)

/-- The resource as an indented JSON text. -/
def toPrettyJson (crd : Crd) : String := (Codec.crd.encode crd).pretty

/-- The line between two documents of a stream. -/
def separatorLine : String := "---\n"

/-- The documents of several resources, with a separator between two of them. -/
def toYamlStream (crds : List Crd) : String :=
  separatorLine.intercalate (crds.map toYaml)

end Crd

end CrdSynthesis
