import CrdSynthesis.Definition
import CrdSynthesis.Logged
import CrdSynthesis.SchemaMerge

/-!
# Generating resources

A generator turns a definition into the custom resource definition of its composite resource
and into that of its claim. A claim is served beside its composite resource in one group, so
its four names must be given and differ from the four names of the composite. A generated
resource is owned by its definition.

## Main definitions

* `validateClaimNames`: checks the claim names of a definition
* `OwnerLinker`: how a reference to a definition is built
* `Generator.generate`: the resource of one mode
* `Generator.generateAll`: the composite resource, and the claim if there is one
-/

namespace CrdSynthesis

/-! ## Claim names -/

/-- The first name of a claim that is also a name of the composite. -/
def conflictingName? (claim composite : Names) : Option String :=
  claim.identity.find? composite.identity.contains

/-- Checks the names of an offered claim. Incomplete names are reported before any conflict,
and of several conflicts the first in the order of `Names.identity`. -/
def validateClaimNames (d : Definition) : Logged Event GenerationError Unit :=
  match d.claimNames? with
  | none => pure ()
  | some claim =>
    if claim.identity.contains "" then .fail .missingClaimNames
    else
      match conflictingName? claim d.compositeNames with
      | none => pure ()
      | some name => do
        .report (.claimNameConflict name (d.metadata.name.getD ""))
        .fail (.conflictingClaimName name)

/-! ## Owners -/

/-- Builds a reference to a definition, if the definition can be referred to. -/
abbrev OwnerLinker := Definition → Option OwnerReference

namespace OwnerLinker

/-- Refers to a definition that has a name and a uid as the controlling owner, which may not
be deleted first. -/
def controller : OwnerLinker := fun d => do
  let name ← d.metadata.name
  let uid ← d.metadata.uid
  return {
    apiVersion := Definition.apiVersion
    blockOwnerDeletion := some true
    controller := some true
    kind := Definition.kind
    name
    uid }

/-- The same answer for every definition. -/
def fixed (reference : Option OwnerReference) : OwnerLinker := fun _ => reference

end OwnerLinker

/-! ## Generation -/

/-- Generates resources that are owned as `owner` says. -/
structure Generator where
  owner : OwnerLinker := OwnerLinker.controller

/-- The resources of one definition. -/
structure GeneratedCrds where
  composite : Crd
  claim : Option Crd

/-- The generated resources, the composite first. -/
def GeneratedCrds.toList (crds : GeneratedCrds) : List Crd :=
  crds.composite :: crds.claim.toList

namespace Generator

/-- A generator as it is shown; the linker is not. -/
def summary : String := "CrdGenerator \x7b .. \x7d"

/-- The names of the resource of a mode; those of a claim are validated. -/
def resourceNames (d : Definition) : Mode → Logged Event GenerationError Names
  | .composite => pure d.compositeNames
  | .claim => do
    validateClaimNames d
    match d.claimNames? with
    | some names => pure names
    | none => .fail .missingClaimNames

/-- The reference to the definition, or the error that names it. -/
def ownerReference (generator : Generator) (d : Definition) :
    Except GenerationError OwnerReference :=
  match generator.owner d with
  | some reference => .ok reference
  | none => .error (.ownerReference (d.metadata.name.getD ""))

/-- The name under which a resource is registered. -/
def crdName (names : Names) (group : String) : String := names.plural ++ "." ++ group

/-- The one version of a generated resource, which has a status of its own. -/
def crdVersion (d : Definition) (mode : Mode) (schema : Schema) : Crd.Version where
  additionalPrinterColumns := some (mode.columns.map (·.toColumn))
  name := d.version
  schema := some { openAPIV3Schema := some schema }
  served := true
  storage := true
  subresources := some { status := some (.object []) }

/-- The resource of a mode, made of the names, the owner and the schema that were found for it. -/
def crd (d : Definition) (mode : Mode) (names : Names) (owner : OwnerReference)
    (schema : Schema) : Crd where
  metadata := {
    name := some (crdName names d.group)
    labels := d.metadata.labels
    annotations := d.metadata.annotations
    ownerReferences := some [owner] }
  spec := {
    group := d.group
    names
    scope := mode.scope.text
    preserveUnknownFields := some false
    versions := [crdVersion d mode schema] }

/-- The resource of a mode. The names are checked first, then the owner, then the schema. -/
def generate (generator : Generator) (d : Definition) (mode : Mode) :
    Logged Event GenerationError Crd := do
  let names ← resourceNames d mode
  let owner ← .ofExcept (generator.ownerReference d)
  let schema ← .ofExcept (mergeSchema d.schemaFragment? mode)
  .report (.generated mode (crdName names d.group))
  return crd d mode names owner schema

/-- The composite resource, and the claim if the definition offers one. -/
def generateAll (generator : Generator) (d : Definition) :
    Logged Event GenerationError GeneratedCrds := do
  let composite ← generator.generate d .composite
  if d.offersClaim then
    let claim ← generator.generate d .claim
    return { composite, claim := some claim }
  else return { composite, claim := none }

end Generator

end CrdSynthesis
