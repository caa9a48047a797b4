import CrdSynthesis.Proofs.CompositeAndClaim

/-!
# The first failing step

A resource is generated if its names can be used, its definition can be referred to and its
schema can be merged. Otherwise the first of these steps that fails decides the error, whatever
else is wrong with the definition.

## Main definitions

* `NamesUsable`, `NamesFailure`: whether the names of a resource can be used, and why not
* `Generator.FirstFailure`: the error of the first step that fails
* `OwnerLinker.controllerReference`: the reference to a definition as the controlling owner

## Main results

* `Generator.exists_generate_eq_ok_iff`, `Generator.generate_eq_error_iff`: all steps succeed,
  or the first one that does not decides
* `OwnerLinker.controller_eq_some_iff`: a definition with a name and a uid can be referred to
* `Generator.generate_precedence`: how generation ends, and with which owner
-/

namespace CrdSynthesis

/-! ## Names -/

/-- The names of a resource can be used: those of a composite in any case, those of a claim if
they are declared and valid. -/
def NamesUsable (d : Definition) : Mode → Prop
  | .composite => True
  | .claim => (∃ names, d.claimNames? = some names) ∧ (validateClaimNames d).outcome = .ok ()

/-- Why the names of a resource cannot be used. Names that are not declared are missing, though
their verdict is favourable. -/
inductive NamesFailure (d : Definition) : Mode → GenerationError → Prop
  | undeclared (h : d.claimNames? = none) : NamesFailure d .claim .missingClaimNames
  | invalid {error : GenerationError} (h : (validateClaimNames d).outcome = .error error) :
    NamesFailure d .claim error

namespace Generator

variable {generator : Generator} {d : Definition} {mode : Mode} {error : GenerationError}

/-- Names are found exactly if they can be used. -/
theorem exists_resourceNames_eq_ok_iff :
    (∃ names, (resourceNames d mode).outcome = .ok names) ↔ NamesUsable d mode := by
  cases mode with
  | composite => exact iff_of_true ⟨_, outcome_resourceNames_composite d⟩ trivial
  | claim =>
    simp only [resourceNames_claim_eq_ok_iff]
    constructor
    · rintro ⟨names, hn, hv⟩
      exact ⟨⟨names, hn⟩, hv⟩
    · rintro ⟨⟨names, hn⟩, hv⟩
      exact ⟨names, hn, hv⟩

/-- Names fail for one of these causes. A claim without names has passed the check, and then is
missing them. -/
theorem resourceNames_eq_error_iff :
    (resourceNames d mode).outcome = .error error ↔ NamesFailure d mode error := by
  cases mode with
  | composite =>
    rw [outcome_resourceNames_composite]
    constructor
    · intro h
      cases h
    · intro h
      cases h
  | claim =>
    rw [outcome_resourceNames_claim, Outcome.bind_eq_error_iff]
    constructor
    · rintro (hv | ⟨-, -, h⟩)
      · exact .invalid hv
      · split at h
        next => cases h
        next hd =>
          cases h
          exact .undeclared hd
    · intro h
      cases h with
      | invalid hv => exact .inl hv
      | undeclared hd =>
        refine .inr ⟨(), outcome_validateClaimNames_of_none hd, ?_⟩
        rw [hd]

/-! ## Owners -/

/-- The reference fails exactly if the linker has no answer, and the error names
the definition. -/
theorem ownerReference_eq_error_iff :
    generator.ownerReference d = .error error ↔
      generator.owner d = none ∧ error = .ownerReference (d.metadata.name.getD "") := by
  unfold ownerReference
  cases generator.owner d <;> simp [eq_comm]

end Generator

namespace OwnerLinker

/-- The reference to the definition of a name and a uid as the controlling owner. -/
def controllerReference (name uid : String) : OwnerReference where
  apiVersion := "apiextensions.crossplane.io/v1alpha1"
  kind := "CompositeResourceDefinition"
  name := name
  uid := uid
  controller := some true
  blockOwnerDeletion := some true

/-- A definition is a controlling owner exactly if it has a name and a uid. -/
theorem controller_eq_some_iff {d : Definition} {reference : OwnerReference} :
    controller d = some reference ↔
      ∃ name uid, d.metadata.name = some name ∧ d.metadata.uid = some uid ∧
        reference = controllerReference name uid := by
  unfold controller
  cases d.metadata.name with
  | none => simp
  | some name =>
    cases d.metadata.uid with
    | none => simp
    | some uid =>
      simp only [Option.bind_eq_bind, Option.bind_some, Option.pure_def, Option.some.injEq]
      constructor
      · rintro rfl
        exact ⟨name, uid, rfl, rfl, rfl⟩
      · rintro ⟨_, _, rfl, rfl, rfl⟩
        rfl

end OwnerLinker

/-! ## All steps -/

namespace Generator

/-- The first step that fails, in the order of names, owner and schema, and its error. -/
inductive FirstFailure (generator : Generator) (d : Definition) (mode : Mode) :
    GenerationError → Prop
  | names {error : GenerationError} (h : NamesFailure d mode error) :
    FirstFailure generator d mode error
  | owner (hnames : NamesUsable d mode) (h : generator.owner d = none) :
    FirstFailure generator d mode (.ownerReference (d.metadata.name.getD ""))
  | schema {reference : OwnerReference} {error : GenerationError} (hnames : NamesUsable d mode)
    (howner : generator.owner d = some reference)
    (h : mergeSchema d.schemaFragment? mode = .error error) : FirstFailure generator d mode error

variable {generator : Generator} {d : Definition} {mode : Mode} {error : GenerationError}

/-- A resource is generated exactly if every step succeeds. -/
theorem exists_generate_eq_ok_iff :
    (∃ c, (generator.generate d mode).outcome = .ok c) ↔
      NamesUsable d mode ∧ (∃ reference, generator.owner d = some reference) ∧
        ∃ schema, mergeSchema d.schemaFragment? mode = .ok schema := by
  simp only [outcome_generate, Outcome.bind_eq_ok_iff, ownerReference_eq_ok_iff,
    ← exists_resourceNames_eq_ok_iff]
  constructor
  · rintro ⟨_, names, hn, reference, ho, schema, hs, -⟩
    exact ⟨⟨names, hn⟩, ⟨reference, ho⟩, ⟨schema, hs⟩⟩
  · rintro ⟨⟨names, hn⟩, ⟨reference, ho⟩, ⟨schema, hs⟩⟩
    exact ⟨_, names, hn, reference, ho, schema, hs, rfl⟩

/-- An error of generation is the error of the first step that fails: the steps before that one
have succeeded, and steps that succeed lead on to it. -/
theorem generate_eq_error_iff :
    (generator.generate d mode).outcome = .error error ↔ generator.FirstFailure d mode error := by
  rw [outcome_generate]
  simp only [Outcome.bind_eq_error_iff, resourceNames_eq_error_iff, ownerReference_eq_error_iff,
    ownerReference_eq_ok_iff, reduceCtorEq, and_false, exists_false, or_false]
  constructor
  · rintro (h | ⟨names, hn, ⟨ho, rfl⟩ | ⟨reference, ho, hs⟩⟩)
    · exact .names h
    · exact .owner (exists_resourceNames_eq_ok_iff.mp ⟨names, hn⟩) ho
    · exact .schema (exists_resourceNames_eq_ok_iff.mp ⟨names, hn⟩) ho hs
  · intro h
    cases h with
    | names h => exact .inl h
    | owner hn ho =>
      obtain ⟨names, hn⟩ := exists_resourceNames_eq_ok_iff.mpr hn
      exact .inr ⟨names, hn, .inl ⟨ho, rfl⟩⟩
    | schema hn ho hs =>
      obtain ⟨names, hn⟩ := exists_resourceNames_eq_ok_iff.mpr hn
      exact .inr ⟨names, hn, .inr ⟨_, ho, hs⟩⟩

/-- A generated resource has one owner, the one that the generator found. -/
theorem ownerReferences_of_generate {c : Crd} (h : (generator.generate d mode).outcome = .ok c) :
    ∃ reference, generator.owner d = some reference ∧
      c.metadata.ownerReferences = some [reference] := by
  obtain ⟨_, reference, _, _, ho, _, _, rfl⟩ := generate_eq_ok_iff.mp h
  exact ⟨reference, ho, rfl⟩

/-- A resource is generated exactly if every step succeeds, and otherwise fails with the error of
the first step that does not. A claim without declared names is missing them, though the verdict
on its names is favourable. By default a definition with a name and a uid is referred to, and it
is then the one controlling owner of what is generated. -/
theorem generate_precedence (generator : Generator) (d : Definition) (mode : Mode) :
    ((∃ c, (generator.generate d mode).outcome = .ok c) ↔
      NamesUsable d mode ∧ (∃ reference, generator.owner d = some reference) ∧
        ∃ schema, mergeSchema d.schemaFragment? mode = .ok schema) ∧
    (∀ error, (generator.generate d mode).outcome = .error error ↔
      generator.FirstFailure d mode error) ∧
    (d.claimNames? = none → (validateClaimNames d).outcome = .ok () ∧
      (generator.generate d .claim).outcome = .error .missingClaimNames) ∧
    ((∃ reference, ({} : Generator).ownerReference d = .ok reference) ↔
      (∃ name, d.metadata.name = some name) ∧ ∃ uid, d.metadata.uid = some uid) ∧
    ∀ c, (({} : Generator).generate d mode).outcome = .ok c →
      ∃ name uid, d.metadata.name = some name ∧ d.metadata.uid = some uid ∧
        c.metadata.ownerReferences = some [OwnerLinker.controllerReference name uid] := by
  refine ⟨exists_generate_eq_ok_iff, fun _ => generate_eq_error_iff, ?_, ?_, ?_⟩
  · intro hd
    refine ⟨outcome_validateClaimNames_of_none hd, ?_⟩
    exact generate_eq_error_iff.mpr (.names (.undeclared hd))
  · simp only [ownerReference_eq_ok_iff, OwnerLinker.controller_eq_some_iff]
    constructor
    · rintro ⟨_, name, uid, hn, hu, -⟩
      exact ⟨⟨name, hn⟩, ⟨uid, hu⟩⟩
    · rintro ⟨⟨name, hn⟩, ⟨uid, hu⟩⟩
      exact ⟨_, name, uid, hn, hu, rfl⟩
  · intro c hc
    obtain ⟨reference, ho, hreferences⟩ := ownerReferences_of_generate hc
    obtain ⟨name, uid, hn, hu, rfl⟩ := OwnerLinker.controller_eq_some_iff.mp ho
    exact ⟨name, uid, hn, hu, hreferences⟩

/-- A definition of which everything is wrong: a name of its claim, its uid and its schema. -/
def defectiveDefinition : Definition where
  metadata := { name := some "stores.example.org" }
  spec := {
    claimNames := some {
      kind := "Claim", listKind := some "ClaimList", singular := some "store", plural := "claims" }
    template := {
      storageDefinition.spec.template with
      validation := some { openAPIV3Schema := some (.typed "array") } } }

/-- The names of the claim are reported first, and the owner where no name can be wrong; a
definition without defects is the owner of its resource. -/
theorem generate_precedence_defective :
    (({} : Generator).generate defectiveDefinition .claim).outcome =
        .error (.conflictingClaimName "store") ∧
      (({} : Generator).generate defectiveDefinition .composite).outcome =
        .error (.ownerReference "stores.example.org") ∧
      ∃ c, (({} : Generator).generate storageDefinition .composite).outcome = .ok c ∧
        ∃ name uid, storageDefinition.metadata.name = some name ∧
          storageDefinition.metadata.uid = some uid ∧
          c.metadata.ownerReferences = some [OwnerLinker.controllerReference name uid] := by
  refine ⟨?_, ?_, _, rfl, ?_⟩
  · exact ((generate_precedence {} defectiveDefinition .claim).2.1 _).mpr (.names (.invalid rfl))
  · exact ((generate_precedence {} defectiveDefinition .composite).2.1 _).mpr (.owner trivial rfl)
  · exact (generate_precedence {} storageDefinition .composite).2.2.2.2 _ rfl

end Generator

end CrdSynthesis
