import CrdSynthesis.Proofs.Generation

/-!
# A composite resource and its claim

One definition yields a composite resource and a claim. Generation of the one nearly decides
that of the other: beyond the names of the claim, only the names that one mode reserves and
the other does not can make a difference. Two generated resources can be served side by
side, and their schemas differ in reserved properties alone.

## Main definitions

* `Crd.schemas`: the schemas of a resource, one for each version
* `DistinctNames`, `SameOrigin`, `SchemasAgree`: how a composite resource and its claim are
  related

## Main results

* `Generator.generate_modes`: what each mode says about the other, and about both
* `Generator.generateAll_related`: the relations between two generated resources
-/

namespace CrdSynthesis

/-- The schemas of a resource, one for each version that has any. -/
def Crd.schemas (c : Crd) : List Schema :=
  c.spec.versions.filterMap fun version => version.schema.bind (·.openAPIV3Schema)

/-- The names of a claim are complete and differ from those of its composite resource, and so
do the names under which the two are registered. -/
structure DistinctNames (composite claim : Crd) : Prop where
  complete : ∀ name ∈ claim.spec.names.identity, name ≠ ""
  disjoint : ∀ name ∈ claim.spec.names.identity, name ∉ composite.spec.names.identity
  compositeName :
    composite.metadata.name = some (composite.spec.names.plural ++ "." ++ composite.spec.group)
  claimName : claim.metadata.name = some (claim.spec.names.plural ++ "." ++ claim.spec.group)
  name_ne : composite.metadata.name ≠ claim.metadata.name

/-- What both resources take from the definition, and the scopes that differ. -/
structure SameOrigin (composite claim : Crd) : Prop where
  group : composite.spec.group = claim.spec.group
  versions : composite.spec.versions.map (·.name) = claim.spec.versions.map (·.name)
  labels : composite.metadata.labels = claim.metadata.labels
  annotations : composite.metadata.annotations = claim.metadata.annotations
  owners : composite.metadata.ownerReferences = claim.metadata.ownerReferences
  compositeScope : composite.spec.scope = "Cluster"
  claimScope : claim.spec.scope = "Namespaced"

/-- The schemas of the two `spec` differ in reserved properties alone, and neither has a
property that only the other mode reserves. -/
structure SpecsAgree (composite claim : Schema) : Prop where
  type : composite.type? = claim.type?
  required : composite.required? = claim.required?
  description : composite.description? = claim.description?
  property : ∀ name, name ∉ Mode.composite.reservedProperties.keys →
    name ∉ Mode.claim.reservedProperties.keys →
    composite.property? name = claim.property? name
  resourceRef : composite.property? "resourceRef" = none
  claimRef : claim.property? "claimRef" = none
  resourceRefs : claim.property? "resourceRefs" = none

/-- Outside of `spec` the two schemas are the same. -/
structure SchemasAgree (composite claim : Schema) : Prop where
  type : composite.type? = claim.type?
  envelope : ∀ name ∈ ["apiVersion", "kind", "metadata", "status"],
    (composite.property? name).isSome = true
  property : ∀ name, name ≠ "spec" → composite.property? name = claim.property? name
  spec : ∃ c k, composite.property? "spec" = some c ∧ claim.property? "spec" = some k ∧
    SpecsAgree c k

/-! ## The properties that each mode adds -/

/-- Two modes merge one template alike: what neither mode reserves is the authored property, and
what one of them reserves the other does not add. -/
theorem schemasAgree_mergedSchema {template : SpecTemplate}
    (hc : ∀ name ∈ Mode.composite.reservedProperties.keys,
      (template.properties.getD []).contains name = false)
    (hk : ∀ name ∈ Mode.claim.reservedProperties.keys,
      (template.properties.getD []).contains name = false) :
    SchemasAgree (mergedSchema template .composite) (mergedSchema template .claim) where
  type := rfl
  envelope := by
    intro name hn
    simp only [List.mem_cons, List.not_mem_nil, or_false] at hn
    obtain rfl | rfl | rfl | rfl := hn <;> rfl
  property := fun _ hn => property?_rootSchema_of_ne hn _ _
  spec := by
    refine ⟨_, _, property?_rootSchema_spec _, property?_rootSchema_spec _, ?_⟩
    have hfind : ∀ {mode : Mode} {name : String}, name ∉ mode.reservedProperties.keys →
        (specSchema template
          (mode.reservedProperties.insertAll (template.properties.getD []))).property? name =
            Table.find? name (template.properties.getD []) := by
      intro mode name hn
      rw [property?_specSchema, Table.find?_insertAll_of_notMem hn]
    constructor
    · rw [type?_specSchema, type?_specSchema]
    · rw [required?_specSchema, required?_specSchema]
    · rw [description?_specSchema, description?_specSchema]
    · intro name hn hn'
      rw [hfind hn, hfind hn']
    · rw [hfind (by decide)]
      exact Table.contains_eq_false_iff.mp (hk _ (by decide))
    · rw [hfind (by decide)]
      exact Table.contains_eq_false_iff.mp (hc _ (by decide))
    · rw [hfind (by decide)]
      exact Table.contains_eq_false_iff.mp (hc _ (by decide))

namespace Generator

variable {generator : Generator} {d : Definition}

/-! ## One mode after the other -/

/-- After its composite resource, whose owner and template it shares, a claim with valid names
fails exactly if `resourceRef` is described. -/
theorem generate_claim_of_composite {c : Crd} {names : Names}
    (h : (generator.generate d .composite).outcome = .ok c)
    (hn : (resourceNames d .claim).outcome = .ok names) :
    if (authoredProperties d.schemaFragment?).contains "resourceRef" then
      (generator.generate d .claim).outcome = .error (.reservedFieldName "resourceRef")
    else ∃ k, (generator.generate d .claim).outcome = .ok k := by
  obtain ⟨_, owner, template, _, ho, ht, hr, _⟩ := generate_eq_ok_iff.mp h
  rw [generate_of_steps hn ho ht, leastKey?_claim hr]
  cases (authoredProperties d.schemaFragment?).contains "resourceRef" with
  | true => rfl
  | false => exact ⟨_, rfl⟩

/-- After its claim, a composite resource, whose names are never wrong, fails exactly if
`claimRef` or `resourceRefs` is described. -/
theorem generate_composite_of_claim {k : Crd}
    (h : (generator.generate d .claim).outcome = .ok k) :
    if (authoredProperties d.schemaFragment?).contains "claimRef" then
      (generator.generate d .composite).outcome = .error (.reservedFieldName "claimRef")
    else if (authoredProperties d.schemaFragment?).contains "resourceRefs" then
      (generator.generate d .composite).outcome = .error (.reservedFieldName "resourceRefs")
    else ∃ c, (generator.generate d .composite).outcome = .ok c := by
  obtain ⟨_, owner, template, _, ho, ht, hr, _⟩ := generate_eq_ok_iff.mp h
  rw [generate_of_steps (outcome_resourceNames_composite d) ho ht, leastKey?_composite hr]
  cases (authoredProperties d.schemaFragment?).contains "claimRef" with
  | true => rfl
  | false =>
    cases (authoredProperties d.schemaFragment?).contains "resourceRefs" with
    | true => rfl
    | false => exact ⟨_, rfl⟩

/-- A claim fails for its names, which are looked at first, or for the one name that only claims
reserve, if its composite resource was generated. -/
theorem generate_claim_cases {c : Crd}
    (h : (generator.generate d .composite).outcome = .ok c) :
    (∃ k, (generator.generate d .claim).outcome = .ok k) ∨
      (generator.generate d .claim).outcome = .error .missingClaimNames ∨
      (∃ name, (generator.generate d .claim).outcome = .error (.conflictingClaimName name)) ∨
      (generator.generate d .claim).outcome = .error (.reservedFieldName "resourceRef") := by
  cases hn : (resourceNames d .claim).outcome with
  | error error =>
    have he : (generator.generate d .claim).outcome = .error error := by
      rw [outcome_generate, hn]
      rfl
    obtain rfl | ⟨name, rfl⟩ := resourceNames_claim_eq_error hn
    · exact .inr (.inl he)
    · exact .inr (.inr (.inl ⟨name, he⟩))
  | ok names =>
    have hk := generate_claim_of_composite h hn
    split at hk
    · exact .inr (.inr (.inr hk))
    · exact .inl hk

/-- Each mode nearly decides the other, and both resources are generated exactly if each of
them is that is offered. -/
theorem generate_modes (generator : Generator) (d : Definition) :
    (∀ c, (generator.generate d .composite).outcome = .ok c →
      ((∃ k, (generator.generate d .claim).outcome = .ok k) ∨
        (generator.generate d .claim).outcome = .error .missingClaimNames ∨
        (∃ name, (generator.generate d .claim).outcome = .error (.conflictingClaimName name)) ∨
        (generator.generate d .claim).outcome = .error (.reservedFieldName "resourceRef")) ∧
      (d.offersClaim = true → (validateClaimNames d).outcome = .ok () →
        if (authoredProperties d.schemaFragment?).contains "resourceRef" then
          (generator.generate d .claim).outcome = .error (.reservedFieldName "resourceRef")
        else ∃ k, (generator.generate d .claim).outcome = .ok k)) ∧
    (∀ k, (generator.generate d .claim).outcome = .ok k →
      if (authoredProperties d.schemaFragment?).contains "claimRef" then
        (generator.generate d .composite).outcome = .error (.reservedFieldName "claimRef")
      else if (authoredProperties d.schemaFragment?).contains "resourceRefs" then
        (generator.generate d .composite).outcome = .error (.reservedFieldName "resourceRefs")
      else ∃ c, (generator.generate d .composite).outcome = .ok c) ∧
    (∀ crds, (generator.generateAll d).outcome = .ok crds ↔
      (generator.generate d .composite).outcome = .ok crds.composite ∧
        (d.claimNames? = none ∧ crds.claim = none ∨
          ∃ names claim, d.claimNames? = some names ∧
            (generator.generate d .claim).outcome = .ok claim ∧ crds.claim = some claim)) ∧
    (∀ error, (generator.generateAll d).outcome = .error error ↔
      (generator.generate d .composite).outcome = .error error ∨
        ∃ c, (generator.generate d .composite).outcome = .ok c ∧ d.offersClaim = true ∧
          (generator.generate d .claim).outcome = .error error) := by
  refine ⟨fun c hc => ⟨generate_claim_cases hc, fun ho hv => ?_⟩,
    fun k hk => generate_composite_of_claim hk, fun _ => generateAll_eq_ok_iff,
    fun _ => generateAll_eq_error_iff⟩
  obtain ⟨names, hn⟩ := Option.isSome_iff_exists.mp ho
  exact generate_claim_of_composite hc (resourceNames_claim_eq_ok_iff.mpr ⟨hn, hv⟩)

/-! ## Both resources -/

/-- The two resources of a definition have distinct names and one origin, and their schemas agree.
Registered names with one group differ in their plurals. -/
theorem generateAll_related {crds : GeneratedCrds} {claim : Crd}
    (h : (generator.generateAll d).outcome = .ok crds) (hk : crds.claim = some claim) :
    DistinctNames crds.composite claim ∧ SameOrigin crds.composite claim ∧
      ∃ sc sk, crds.composite.schemas = [sc] ∧ claim.schemas = [sk] ∧ SchemasAgree sc sk := by
  obtain ⟨hcomposite, ⟨_, hnone⟩ | ⟨names, _, hnames, hclaim, hsome⟩⟩ :=
    generateAll_eq_ok_iff.mp h
  · rw [hk] at hnone
    cases hnone
  rw [hk] at hsome
  cases hsome
  obtain ⟨cnames, owner, template, hcn, ho, ht, hcr, hc⟩ := generate_eq_ok_iff.mp hcomposite
  obtain ⟨knames, owner', template', hkn, ho', ht', hkr, rfl⟩ := generate_eq_ok_iff.mp hclaim
  -- both runs found the same owner and the same template
  cases hcn
  cases ho.symm.trans ho'
  cases ht.symm.trans ht'
  obtain ⟨hcl, hv⟩ := resourceNames_claim_eq_ok_iff.mp hkn
  obtain ⟨hne, hdis⟩ := validateClaimNames_eq_ok_iff.mp hv knames hcl
  rw [← properties_of_authoredTemplate ht] at hcr hkr
  rw [hc]
  refine ⟨⟨hne, hdis, rfl, rfl, ?_⟩, ⟨rfl, rfl, rfl, rfl, rfl, rfl, rfl⟩, _, _, rfl, rfl,
    schemasAgree_mergedSchema hcr hkr⟩
  intro heq
  have hp : d.compositeNames.plural = knames.plural := by
    simpa [crd, crdName, String.append_left_inj] using heq
  apply hdis knames.plural (by simp [Names.identity])
  rw [← hp]
  simp [Names.identity]

/-- A definition with a claim and one authored property. -/
def storageDefinition : Definition where
  metadata := { name := some "stores.example.org", uid := some "4711" }
  spec := {
    claimNames := some {
      kind := "Claim", listKind := some "ClaimList", singular := some "claim", plural := "claims" }
    template := {
      group := "example.org"
      version := "v1"
      names := {
        kind := "Store", listKind := some "StoreList", singular := some "store",
        plural := "stores" }
      validation := some {
        openAPIV3Schema :=
          some (objectSchema [("spec", objectSchema [("size", Schema.integer)])]) } } }

/-- The composite resource and the claim of a definition with a fragment are related in all
three ways. -/
theorem generateAll_related_storage :
    ∃ crds claim, (({} : Generator).generateAll storageDefinition).outcome = .ok crds ∧
      crds.claim = some claim ∧ DistinctNames crds.composite claim ∧
      SameOrigin crds.composite claim ∧
      ∃ sc sk, crds.composite.schemas = [sc] ∧ claim.schemas = [sk] ∧ SchemasAgree sc sk :=
  ⟨_, _, rfl, rfl, @generateAll_related {} storageDefinition _ _ rfl rfl⟩

end Generator

end CrdSynthesis
