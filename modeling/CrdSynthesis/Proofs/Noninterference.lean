import CrdSynthesis.Proofs.CompositeAndClaim

/-!
# What a resource depends on

Two definitions with the same basis may differ in all else without a difference in what is
generated: the names of a claim never reach the composite resource, and the names of the
composite reach the claim through the verdict on its names alone.

## Main definitions

* `Definition.SameBasis`: two definitions agree on what both resources are made of

## Main results

* `validateClaimNames_congr`: the verdict on the names decides what is reported about them
* `Generator.generate_congr`: with the same names, the same resource or the same error
* `Generator.generate_noninterference`: what the two resources do not depend on
-/

namespace CrdSynthesis

/-- The definitions agree on all that is read for either resource, the names apart. -/
structure Definition.SameBasis (d e : Definition) : Prop where
  name : d.metadata.name = e.metadata.name
  uid : d.metadata.uid = e.metadata.uid
  labels : d.metadata.labels = e.metadata.labels
  annotations : d.metadata.annotations = e.metadata.annotations
  group : d.group = e.group
  version : d.version = e.version
  fragment : d.schemaFragment? = e.schemaFragment?

attribute [ext] Logged

/-! ## The verdict on the names -/

section ClaimNames

variable {d e : Definition}

/-- A definition enters the log of the check by its name alone. -/
theorem validateClaimNames_congr (hname : d.metadata.name = e.metadata.name)
    (h : (validateClaimNames d).outcome = (validateClaimNames e).outcome) :
    validateClaimNames d = validateClaimNames e := by
  refine Logged.ext h ?_
  rw [events_validateClaimNames, events_validateClaimNames, h, hname]

end ClaimNames

/-! ## Owners -/

/-- A controlling owner is known by the name and the uid of its definition. -/
theorem OwnerLinker.controller_congr {d e : Definition} (h : d.SameBasis e) :
    controller d = controller e := by
  rw [controller, controller, h.name, h.uid]

namespace Generator

variable {d e : Definition}

/-- The error of a missing owner names the definition, whose name belongs to the basis. -/
theorem ownerReference_congr {generator : Generator} (h : d.SameBasis e)
    (ho : generator.owner d = generator.owner e) :
    generator.ownerReference d = generator.ownerReference e := by
  rw [ownerReference, ownerReference, ho, h.name]

/-! ## Resources -/

/-- A resource is made of the basis, besides what was found for it. -/
theorem crd_congr (h : d.SameBasis e) (mode : Mode) (names : Names) (owner : OwnerReference)
    (schema : Schema) : crd d mode names owner schema = crd e mode names owner schema := by
  rw [crd, crd, crdVersion, crdVersion, h.group, h.version, h.labels, h.annotations]

/-- With the same names and the same owner, two definitions of one basis yield the same
resource or fail alike, and the same is reported. -/
theorem generate_congr {generator : Generator} {mode : Mode} (h : d.SameBasis e)
    (ho : generator.owner d = generator.owner e)
    (hn : resourceNames d mode = resourceNames e mode) :
    generator.generate d mode = generator.generate e mode := by
  -- every step reads the basis or what an earlier step returned
  simp only [generate, hn, ownerReference_congr h ho, h.fragment, h.group, crd_congr h]

theorem resourceNames_composite_congr (hc : d.compositeNames = e.compositeNames) :
    resourceNames d .composite = resourceNames e .composite := by
  rw [resourceNames, resourceNames, hc]

/-- The names of a composite are seen by its claim through the verdict alone. -/
theorem resourceNames_claim_congr (h : d.SameBasis e) (hk : d.claimNames? = e.claimNames?)
    (hv : (validateClaimNames d).outcome = (validateClaimNames e).outcome) :
    resourceNames d .claim = resourceNames e .claim := by
  rw [resourceNames, resourceNames, validateClaimNames_congr h.name hv, hk]

/-- Neither the claim nor any metadata outside of the basis reaches the composite resource,
and the composite's names reach the claim through the verdict on the claim's names alone. -/
theorem generate_noninterference :
    (∀ d e : Definition, d.SameBasis e → d.compositeNames = e.compositeNames →
      ({} : Generator).generate d .composite = ({} : Generator).generate e .composite) ∧
    ∀ d e : Definition, d.SameBasis e → d.claimNames? = e.claimNames? →
      (validateClaimNames d).outcome = (validateClaimNames e).outcome →
      ({} : Generator).generate d .claim = ({} : Generator).generate e .claim :=
  ⟨fun _ _ h hc =>
    generate_congr h (OwnerLinker.controller_congr h) (resourceNames_composite_congr hc),
    fun _ _ h hk hv =>
      generate_congr h (OwnerLinker.controller_congr h) (resourceNames_claim_congr h hk hv)⟩

/-- The storage definition without its claim, held by a finalizer in a namespace. -/
def claimlessStorage : Definition where
  metadata := {
    storageDefinition.metadata with
    namespaceName := some "infra", finalizers := some ["hold"], resourceVersion := some "7" }
  spec := { storageDefinition.spec with claimNames := none }

/-- The storage definition with other names of its composite resource. -/
def depotDefinition : Definition where
  metadata := storageDefinition.metadata
  spec := {
    storageDefinition.spec with
    template := {
      storageDefinition.spec.template with
      names := {
        kind := "Depot", listKind := some "DepotList", singular := some "depot",
        plural := "depots" } } }

/-- A claim, a finalizer and a namespace do not reach the composite resource, and names of the
composite that its claim does not share do not reach the claim. -/
theorem generate_noninterference_storage :
    ({} : Generator).generate storageDefinition .composite =
        ({} : Generator).generate claimlessStorage .composite ∧
      ({} : Generator).generate storageDefinition .claim =
        ({} : Generator).generate depotDefinition .claim :=
  ⟨generate_noninterference.1 storageDefinition claimlessStorage
      ⟨rfl, rfl, rfl, rfl, rfl, rfl, rfl⟩ rfl,
    generate_noninterference.2 storageDefinition depotDefinition
      ⟨rfl, rfl, rfl, rfl, rfl, rfl, rfl⟩ rfl rfl⟩

end Generator

end CrdSynthesis
