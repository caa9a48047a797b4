import CrdSynthesis.Generator
import CrdSynthesis.Proofs.ClaimNames
import CrdSynthesis.Proofs.Outcome
import CrdSynthesis.Proofs.SchemaMerge

/-!
# How generation ends

A resource is generated exactly if its names are valid, its owner can be referred to and its
schema can be merged. The owner and the template of the schema are the same in both modes.

## Main results

* `Generator.generate_eq_ok_iff`: what a generated resource is made of
* `Generator.generate_of_steps`: after the first steps, only a reserved name can be wrong
* `Generator.generateAll_eq_ok_iff`, `Generator.generateAll_eq_error_iff`: both resources
* `Generator.resourceNames_of_generate`, `Generator.generate_of_generateAll`: what was generated
  has its names, and a claim has a composite resource beside it
-/

namespace CrdSynthesis

namespace Generator

variable {generator : Generator} {d : Definition} {mode : Mode}

/-! ## The steps of generation -/

@[simp]
theorem outcome_resourceNames_composite (d : Definition) :
    (resourceNames d .composite).outcome = .ok d.compositeNames := rfl

/-- The names of a claim are looked at before they are used. -/
theorem outcome_resourceNames_claim (d : Definition) :
    (resourceNames d .claim).outcome =
      (validateClaimNames d).outcome.bind fun _ =>
        match d.claimNames? with
        | some names => .ok names
        | none => .error .missingClaimNames := by
  rw [resourceNames, Logged.outcome_bind]
  congr
  funext _
  cases d.claimNames? <;> rfl

/-- A claim has names exactly if they are offered and valid. -/
theorem resourceNames_claim_eq_ok_iff {names : Names} :
    (resourceNames d .claim).outcome = .ok names ↔
      d.claimNames? = some names ∧ (validateClaimNames d).outcome = .ok () := by
  rw [outcome_resourceNames_claim, Outcome.bind_eq_ok_iff]
  cases d.claimNames? with
  | none => simp
  | some claim =>
    constructor
    · rintro ⟨_, hv, hn⟩
      cases hn
      exact ⟨rfl, hv⟩
    · rintro ⟨hn, hv⟩
      cases hn
      exact ⟨(), hv, rfl⟩

/-- Names fail in these two ways only. -/
theorem resourceNames_claim_eq_error {error : GenerationError}
    (h : (resourceNames d .claim).outcome = .error error) :
    error = .missingClaimNames ∨ ∃ name, error = .conflictingClaimName name := by
  rw [outcome_resourceNames_claim, Outcome.bind_eq_error_iff] at h
  obtain h | ⟨_, _, h⟩ := h
  · exact validateClaimNames_eq_error h
  · split at h
    · cases h
    · cases h
      exact .inl rfl

theorem ownerReference_eq_ok_iff {owner : OwnerReference} :
    generator.ownerReference d = .ok owner ↔ generator.owner d = some owner := by
  unfold ownerReference
  cases generator.owner d <;> simp

/-- The steps of a generation, apart from what they report. -/
theorem outcome_generate (generator : Generator) (d : Definition) (mode : Mode) :
    (generator.generate d mode).outcome =
      (resourceNames d mode).outcome.bind fun names =>
        (generator.ownerReference d).bind fun owner =>
          (mergeSchema d.schemaFragment? mode).bind fun schema =>
            .ok (crd d mode names owner schema) := by
  simp only [generate, Logged.outcome_bind, Logged.outcome_ofExcept, Logged.outcome_report]
  rfl

/-! ## One resource -/

/-- A generated resource is made of its names, its owner and the template of its schema. -/
theorem generate_eq_ok_iff {c : Crd} :
    (generator.generate d mode).outcome = .ok c ↔
      ∃ names owner template, (resourceNames d mode).outcome = .ok names ∧
        generator.owner d = some owner ∧
        authoredTemplate d.schemaFragment? = .ok template ∧
        (∀ name ∈ mode.reservedProperties.keys,
          (authoredProperties d.schemaFragment?).contains name = false) ∧
        c = crd d mode names owner (mergedSchema template mode) := by
  simp only [outcome_generate, Outcome.bind_eq_ok_iff, ownerReference_eq_ok_iff,
    mergeSchema_eq_ok_iff, Except.ok.injEq]
  constructor
  · rintro ⟨names, hn, owner, ho, _, ⟨template, ht, hr, rfl⟩, rfl⟩
    exact ⟨names, owner, template, hn, ho, ht, hr, rfl⟩
  · rintro ⟨names, owner, template, hn, ho, ht, hr, rfl⟩
    exact ⟨names, hn, owner, ho, _, ⟨template, ht, hr, rfl⟩, rfl⟩

/-- A resource carries the names of its mode unchanged. -/
theorem resourceNames_of_generate {c : Crd} (h : (generator.generate d mode).outcome = .ok c) :
    (resourceNames d mode).outcome = .ok c.spec.names := by
  obtain ⟨names, owner, template, hnames, -, -, -, rfl⟩ := generate_eq_ok_iff.mp h
  exact hnames

/-- With names, an owner and a template, only a reserved name can be wrong. -/
theorem generate_of_steps {names : Names} {owner : OwnerReference} {template : SpecTemplate}
    (hn : (resourceNames d mode).outcome = .ok names) (ho : generator.owner d = some owner)
    (ht : authoredTemplate d.schemaFragment? = .ok template) :
    (generator.generate d mode).outcome =
      match mode.reservedProperties.leastKey? (authoredProperties d.schemaFragment?).contains with
      | some name => .error (.reservedFieldName name)
      | none => .ok (crd d mode names owner (mergedSchema template mode)) := by
  rw [outcome_generate, hn, ownerReference_eq_ok_iff.mpr ho, mergeSchema_of_template ht]
  cases mode.reservedProperties.leastKey? (authoredProperties d.schemaFragment?).contains <;> rfl

/-! ## Both resources -/

/-- The steps of the generation of both resources, apart from what they report. -/
theorem outcome_generateAll (generator : Generator) (d : Definition) :
    (generator.generateAll d).outcome =
      (generator.generate d .composite).outcome.bind fun composite =>
        if d.offersClaim then
          (generator.generate d .claim).outcome.bind fun claim =>
            .ok { composite, claim := some claim }
        else .ok { composite, claim := none } := by
  rw [generateAll, Logged.outcome_bind]
  congr
  funext composite
  split
  · rw [Logged.outcome_bind]
    rfl
  · rfl

/-- Both resources are generated, or the composite alone where no claim is offered. -/
theorem generateAll_eq_ok_iff {crds : GeneratedCrds} :
    (generator.generateAll d).outcome = .ok crds ↔
      (generator.generate d .composite).outcome = .ok crds.composite ∧
        (d.claimNames? = none ∧ crds.claim = none ∨
          ∃ names claim, d.claimNames? = some names ∧
            (generator.generate d .claim).outcome = .ok claim ∧ crds.claim = some claim) := by
  rcases crds with ⟨c, k⟩
  have ho : d.offersClaim = d.claimNames?.isSome := rfl
  rw [outcome_generateAll, Outcome.bind_eq_ok_iff, ho]
  cases d.claimNames? with
  | none =>
    simp only [Option.isSome_none, Bool.false_eq_true, if_false, Except.ok.injEq,
      GeneratedCrds.mk.injEq]
    constructor
    · rintro ⟨_, hc, rfl, rfl⟩
      exact ⟨hc, .inl ⟨trivial, rfl⟩⟩
    · rintro ⟨hc, ⟨_, rfl⟩ | ⟨_, _, h, _⟩⟩
      · exact ⟨c, hc, rfl, rfl⟩
      · cases h
  | some names =>
    simp only [Option.isSome_some, if_true, Outcome.bind_eq_ok_iff, Except.ok.injEq,
      GeneratedCrds.mk.injEq]
    constructor
    · rintro ⟨_, hc, claim, hk, rfl, rfl⟩
      exact ⟨hc, .inr ⟨names, claim, rfl, hk, rfl⟩⟩
    · rintro ⟨hc, ⟨h, _⟩ | ⟨_, claim, _, hk, rfl⟩⟩
      · cases h
      · exact ⟨c, hc, claim, hk, rfl, rfl⟩

/-- If there is a claim among the resources, both modes have succeeded. -/
theorem generate_of_generateAll {crds : GeneratedCrds} {claim : Crd}
    (h : (generator.generateAll d).outcome = .ok crds) (hk : crds.claim = some claim) :
    (generator.generate d .composite).outcome = .ok crds.composite ∧
      (generator.generate d .claim).outcome = .ok claim := by
  obtain ⟨hcomposite, ⟨-, hnone⟩ | ⟨-, _, -, hclaim, hsome⟩⟩ := generateAll_eq_ok_iff.mp h
  · rw [hk] at hnone
    cases hnone
  · rw [hk] at hsome
    cases hsome
    exact ⟨hcomposite, hclaim⟩

/-- The composite resource fails, or the claim after it. -/
theorem generateAll_eq_error_iff {error : GenerationError} :
    (generator.generateAll d).outcome = .error error ↔
      (generator.generate d .composite).outcome = .error error ∨
        ∃ c, (generator.generate d .composite).outcome = .ok c ∧ d.offersClaim = true ∧
          (generator.generate d .claim).outcome = .error error := by
  rw [outcome_generateAll, Outcome.bind_eq_error_iff]
  cases d.offersClaim <;> simp [Outcome.bind_eq_error_iff]

end Generator

end CrdSynthesis
