import CrdSynthesis.Proofs.Noninterference

/-!
# Symmetry of conflicts

Whether the names of a claim and those of its composite can stand side by side is a matter of
which names there are, and not of where they stand: the two sides may be exchanged, and on
each side the four names may change places. Only the name that is reported depends on the
order of the claim's names.

## Main definitions

* `Names.Rearranges`: the four names of others, in whatever places
* `Names.Clash`: two kinds of resources have a name in common
* `Definition.exchangeNames`: a definition whose claim and composite have exchanged names
* `SameKind`: verdicts that agree but for the name of a conflict

## Main results

* `sameKind_of_iff`: completeness and clashes decide the kind of the verdict
* `sameKind_exchangeNames`, `validateClaimNames_withCompositeNames`, `sameKind_withClaimNames`:
  the verdict after an exchange, and after a rearrangement on each side
* `conflicts_symmetric`: all of these together
-/

namespace CrdSynthesis

/-! ## Four names in any places -/

namespace Names

variable {names other claim composite : Names}

/-- The four names that tell kinds apart are those of `other`, in whatever places; a name that
is absent reads as empty. -/
def Rearranges (names other : Names) : Prop := names.identity.Perm other.identity

/-- Two kinds of resources have a name in common. -/
def Clash (names other : Names) : Prop := ∃ name ∈ names.identity, name ∈ other.identity

/-- A name that has changed its place is still there. -/
theorem Rearranges.mem_iff (h : names.Rearranges other) {name : String} :
    name ∈ names.identity ↔ name ∈ other.identity :=
  List.Perm.mem_iff h

/-- Whether names are complete does not depend on their places. -/
theorem Rearranges.complete_iff (h : names.Rearranges other) :
    names.Complete ↔ other.Complete := by
  rw [Names.complete_iff, Names.complete_iff, h.mem_iff]

/-- Whether names clash does not depend on their places. -/
theorem Rearranges.clash_iff (h : names.Rearranges other) (composite : Names) :
    names.Clash composite ↔ other.Clash composite := by
  simp only [Clash, h.mem_iff]

/-- A clash is one from either side. -/
theorem clash_comm : names.Clash other ↔ other.Clash names := by
  constructor
  · rintro ⟨name, hn, ho⟩
    exact ⟨name, ho, hn⟩
  · rintro ⟨name, ho, hn⟩
    exact ⟨name, hn, ho⟩

/-- Names clash if some conflict is found. -/
theorem clash_iff_exists_conflictingName? :
    claim.Clash composite ↔ ∃ name, conflictingName? claim composite = some name := by
  rw [← Option.ne_none_iff_exists', ne_eq, conflictingName?_eq_none_iff]
  simp [Clash]

end Names

/-! ## Definitions with other names -/

namespace Definition

variable {d : Definition} {claim names : Names}

/-- The definition with other names of its composite. -/
def withCompositeNames (d : Definition) (names : Names) : Definition where
  metadata := d.metadata
  spec := { d.spec with template := { d.spec.template with names } }

/-- The definition with other names of its claim. -/
def withClaimNames (d : Definition) (names : Names) : Definition where
  metadata := d.metadata
  spec := { d.spec with claimNames := some names }

/-- The definition whose claim has the names of the composite, and the other way round. -/
def exchangeNames (d : Definition) : Definition :=
  match d.claimNames? with
  | none => d
  | some claim => (d.withClaimNames d.compositeNames).withCompositeNames claim

@[simp]
theorem compositeNames_withCompositeNames : (d.withCompositeNames names).compositeNames = names :=
  rfl

@[simp]
theorem claimNames?_withCompositeNames :
    (d.withCompositeNames names).claimNames? = d.claimNames? := rfl

@[simp]
theorem compositeNames_withClaimNames :
    (d.withClaimNames names).compositeNames = d.compositeNames := rfl

@[simp]
theorem claimNames?_withClaimNames : (d.withClaimNames names).claimNames? = some names := rfl

/-- An exchange gives the claim the names of the composite, and the composite those of
the claim. -/
theorem exchangeNames_eq (h : d.claimNames? = some claim) :
    d.exchangeNames = (d.withClaimNames d.compositeNames).withCompositeNames claim := by
  rw [exchangeNames, h]

theorem claimNames?_exchangeNames (h : d.claimNames? = some claim) :
    d.exchangeNames.claimNames? = some d.compositeNames := by
  rw [exchangeNames_eq h, claimNames?_withCompositeNames, claimNames?_withClaimNames]

theorem compositeNames_exchangeNames (h : d.claimNames? = some claim) :
    d.exchangeNames.compositeNames = claim := by
  rw [exchangeNames_eq h, compositeNames_withCompositeNames]

end Definition

/-! ## The kind of a verdict -/

/-- Two verdicts agree, but for the name of a conflict. -/
inductive SameKind : Except GenerationError Unit → Except GenerationError Unit → Prop
  | valid : SameKind (.ok ()) (.ok ())
  | missing : SameKind (.error .missingClaimNames) (.error .missingClaimNames)
  | conflict (name other : String) :
    SameKind (.error (.conflictingClaimName name)) (.error (.conflictingClaimName other))

/-- Verdicts of one kind are favourable together. -/
theorem SameKind.eq_ok_iff {first second : Except GenerationError Unit}
    (h : SameKind first second) : first = .ok () ↔ second = .ok () := by
  cases h with
  | valid => exact Iff.rfl
  | missing => exact Iff.rfl
  | conflict name other => simp

section Kind

variable {d e : Definition} {claim other names : Names}

/-- Whether the names of a claim are complete and whether they clash with those of the composite
decides the kind of the verdict. Missing names are reported before the names of the composite are
looked at. -/
theorem sameKind_of_iff (hd : d.claimNames? = some claim) (he : e.claimNames? = some other)
    (hcomplete : claim.Complete ↔ other.Complete)
    (hclash : claim.Clash d.compositeNames ↔ other.Clash e.compositeNames) :
    SameKind (validateClaimNames d).outcome (validateClaimNames e).outcome := by
  by_cases hc : claim.Complete
  case neg =>
    rw [outcome_validateClaimNames_of_not_complete hd hc,
      outcome_validateClaimNames_of_not_complete he (mt hcomplete.mpr hc)]
    exact .missing
  rw [outcome_validateClaimNames_of_complete hd hc,
    outcome_validateClaimNames_of_complete he (hcomplete.mp hc)]
  rw [Names.clash_iff_exists_conflictingName?, Names.clash_iff_exists_conflictingName?] at hclash
  cases hf : conflictingName? claim d.compositeNames with
  | some name =>
    obtain ⟨found, hs⟩ := hclash.mp ⟨name, hf⟩
    rw [hs]
    exact .conflict name found
  | none =>
    cases hs : conflictingName? other e.compositeNames with
    | none => exact .valid
    | some found =>
      obtain ⟨name, hn⟩ := hclash.mpr ⟨found, hs⟩
      rw [hf] at hn
      cases hn

/-- An exchange turns every clash of the claim with the composite into one of the composite with
the claim, and complete names stay complete. -/
theorem sameKind_exchangeNames (hd : d.claimNames? = some claim) (hc : claim.Complete)
    (hcomposite : d.compositeNames.Complete) :
    SameKind (validateClaimNames d.exchangeNames).outcome (validateClaimNames d).outcome := by
  have hclaim := Definition.claimNames?_exchangeNames hd
  have hnames := Definition.compositeNames_exchangeNames hd
  apply sameKind_of_iff hclaim hd
  · exact iff_of_true hcomposite hc
  · rw [hnames]
    exact Names.clash_comm

/-- Where the names of the composite stand makes no difference, also not to what is reported. -/
theorem validateClaimNames_withCompositeNames (h : names.Rearranges d.compositeNames) :
    validateClaimNames (d.withCompositeNames names) = validateClaimNames d := by
  have houtcome : (validateClaimNames (d.withCompositeNames names)).outcome =
      (validateClaimNames d).outcome := by
    apply outcome_validateClaimNames_congr Definition.claimNames?_withCompositeNames
    intro name _
    exact h.mem_iff.symm
  exact validateClaimNames_congr rfl houtcome

/-- Where the names of the claim stand makes a difference to the reported name alone. -/
theorem sameKind_withClaimNames (hd : d.claimNames? = some claim) (h : names.Rearranges claim) :
    SameKind (validateClaimNames (d.withClaimNames names)).outcome
      (validateClaimNames d).outcome := by
  apply sameKind_of_iff Definition.claimNames?_withClaimNames hd
  · exact h.complete_iff
  · rw [Definition.compositeNames_withClaimNames]
    exact h.clash_iff d.compositeNames

end Kind

/-- A definition whose claim has the kind and the kind of lists of its composite. -/
def clashingDefinition : Definition where
  spec := {
    claimNames := some {
      kind := "Store", listKind := some "StoreList", singular := some "claim",
      plural := "claims" }
    template := {
      names := {
        kind := "Store", listKind := some "StoreList", singular := some "store",
        plural := "stores" } } }

/-- The names of that claim, of which two have changed places. -/
def rearrangedClaim : Names where
  kind := "StoreList"
  listKind := some "Store"
  singular := some "claim"
  plural := "claims"

/-- Between complete names an exchange of the two sides keeps valid names valid. A rearrangement
of the composite's names changes nothing, and one of the claim's names at most the name that is
reported, which it can change. -/
theorem conflicts_symmetric :
    (∀ d claim, d.claimNames? = some claim → claim.Complete → d.compositeNames.Complete →
      ((validateClaimNames d.exchangeNames).outcome = .ok () ↔
        (validateClaimNames d).outcome = .ok ())) ∧
    (∀ d names, names.Rearranges d.compositeNames →
      validateClaimNames (d.withCompositeNames names) = validateClaimNames d) ∧
    (∀ d claim names, d.claimNames? = some claim → names.Rearranges claim →
      SameKind (validateClaimNames (d.withClaimNames names)).outcome
        (validateClaimNames d).outcome) ∧
    ∃ d claim names, ∃ first second, d.claimNames? = some claim ∧ names.Rearranges claim ∧
      (validateClaimNames d).outcome = .error (.conflictingClaimName first) ∧
      (validateClaimNames (d.withClaimNames names)).outcome =
        .error (.conflictingClaimName second) ∧ first ≠ second := by
  refine ⟨?_, ?_, ?_, ?_⟩
  · intro d claim hd hc hcomposite
    exact (sameKind_exchangeNames hd hc hcomposite).eq_ok_iff
  · intro d names h
    exact validateClaimNames_withCompositeNames h
  · intro d claim names hd h
    exact sameKind_withClaimNames hd h
  · exact ⟨clashingDefinition, _, rearrangedClaim, "Store", "StoreList", rfl,
      List.Perm.swap .., rfl, rfl, by decide⟩

/-- The names of that composite, each in another place. -/
def rearrangedComposite : Names where
  kind := "stores"
  listKind := some "Store"
  singular := some "StoreList"
  plural := "store"

/-- The names of a storage claim and its composite are valid on either side, and a conflict is
reported wherever the composite has the shared names. -/
theorem conflicts_symmetric_storage :
    (validateClaimNames Generator.storageDefinition.exchangeNames).outcome = .ok () ∧
      (validateClaimNames (clashingDefinition.withCompositeNames rearrangedComposite)).outcome =
        .error (.conflictingClaimName "Store") ∧
      SameKind (validateClaimNames (clashingDefinition.withClaimNames rearrangedClaim)).outcome
        (validateClaimNames clashingDefinition).outcome := by
  refine ⟨?_, ?_, ?_⟩
  · exact (conflicts_symmetric.1 Generator.storageDefinition _ rfl
      (Names.complete_iff.mpr (by decide)) (Names.complete_iff.mpr (by decide))).mpr rfl
  · rw [conflicts_symmetric.2.1 clashingDefinition rearrangedComposite
      (show List.Perm _ _ by decide)]
    rfl
  · exact conflicts_symmetric.2.2.1 clashingDefinition _ rearrangedClaim rfl (List.Perm.swap ..)

end CrdSynthesis
