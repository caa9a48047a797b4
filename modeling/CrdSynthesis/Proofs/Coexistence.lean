import CrdSynthesis.Proofs.CompositeAndClaim

/-!
# Types that coexist in one group

Two types of one group can both be served if they share no resource name, which are the plural,
the singular and the short names, and no kind. The names of a claim are checked against those of
its composite before anything is generated, but without the short names of either. So the two
generated resources never share a kind, a plural or a singular, and they can coexist exactly if
the short names do not get in the way.

## Main definitions

* `Names.resources`, `Names.kinds`: the names that a type takes in its group
* `Names.Coexist`: two types take no name in common
* `Names.ShortNamesFree`: no short name is in the way

## Main results

* `Names.coexist_iff`: what is left to check once the four names of each side differ
* `Generator.generateAll_coexist_iff`: when the two resources of a definition coexist
-/

namespace CrdSynthesis

namespace Names

variable {names other : Names} {name : String}

/-! ## Names within a group -/

/-- The names by which the objects of a type are asked for. -/
def resources (names : Names) : List String :=
  names.plural :: (names.singular.toList ++ names.shortNames.getD [])

/-- The names by which an object and a list of objects tell their type. -/
def kinds (names : Names) : List String := names.kind :: names.listKind.toList

/-- Both types can be served in one group. -/
structure Coexist (names other : Names) : Prop where
  resources : ∀ name ∈ names.resources, name ∉ other.resources
  kinds : ∀ kind ∈ names.kinds, kind ∉ other.kinds

/-- No short name of either type is a resource name of the other. -/
structure ShortNamesFree (names other : Names) : Prop where
  ours : ∀ name ∈ names.shortNames.getD [], name ∉ other.resources
  theirs : ∀ name ∈ other.shortNames.getD [], name ∉ names.resources

/-- The kind and the list kind are among the four names that are checked. -/
theorem mem_identity_of_mem_kinds (h : name ∈ names.kinds) : name ∈ names.identity := by
  rw [kinds, List.mem_cons, Option.mem_toList] at h
  rcases h with rfl | h
  · simp [identity]
  · simp [identity, Option.mem_def.mp h]

theorem mem_resources_of_short (h : name ∈ names.shortNames.getD []) : name ∈ names.resources :=
  List.mem_cons_of_mem _ (List.mem_append_right _ h)

/-- A resource name that is not short is one of the four that tell kinds apart. -/
theorem mem_identity_or_short (h : name ∈ names.resources) :
    name ∈ names.identity ∨ name ∈ names.shortNames.getD [] := by
  rw [resources, List.mem_cons, List.mem_append, Option.mem_toList] at h
  rcases h with rfl | h | h
  · exact .inl (by simp [identity])
  · exact .inl (by simp [identity, Option.mem_def.mp h])
  · exact .inr h

/-! ## What the four names leave open -/

section Distinct

variable (h : ∀ name ∈ names.identity, name ∉ other.identity)

include h

/-- Names without a conflict have no kind in common. -/
theorem kinds_disjoint : ∀ kind ∈ names.kinds, kind ∉ other.kinds := by
  intro kind hn ho
  exact h kind (mem_identity_of_mem_kinds hn) (mem_identity_of_mem_kinds ho)

/-- Types whose four names differ coexist exactly if their short names are free: a name that both
have is short on one side, or among the four on either. -/
theorem coexist_iff : names.Coexist other ↔ names.ShortNamesFree other := by
  constructor
  · rintro ⟨hresources, -⟩
    refine ⟨fun name hn => hresources name (mem_resources_of_short hn), fun name ho hn => ?_⟩
    exact hresources name hn (mem_resources_of_short ho)
  · rintro ⟨hours, htheirs⟩
    refine ⟨fun name hn ho => ?_, kinds_disjoint h⟩
    rcases mem_identity_or_short hn with hfour | hshort
    · rcases mem_identity_or_short ho with hfour' | hshort'
      · exact h name hfour hfour'
      · exact htheirs name hshort' hn
    · exact hours name hshort ho

end Distinct

end Names

namespace Generator

variable {generator : Generator} {d : Definition} {crds : GeneratedCrds} {claim : Crd}

/-! ## The names of generated resources -/

/-- Both resources have the names that the definition gives, and those of the claim are valid. -/
theorem names_of_generateAll (h : (generator.generateAll d).outcome = .ok crds)
    (hk : crds.claim = some claim) :
    d.claimNames? = some claim.spec.names ∧ d.compositeNames = crds.composite.spec.names ∧
      (validateClaimNames d).outcome = .ok () := by
  obtain ⟨hcomposite, hclaim⟩ := generate_of_generateAll h hk
  obtain ⟨hnames, hvalid⟩ := resourceNames_claim_eq_ok_iff.mp (resourceNames_of_generate hclaim)
  have hcompositeNames := resourceNames_of_generate hcomposite
  rw [outcome_resourceNames_composite, Except.ok.injEq] at hcompositeNames
  exact ⟨hnames, hcompositeNames, hvalid⟩

/-- The two resources of a definition share no kind, no plural and no singular. They
coexist exactly if no short name that the definition gives to one of them is a resource
name of the other. -/
theorem generateAll_coexist_iff (h : (generator.generateAll d).outcome = .ok crds)
    (hk : crds.claim = some claim) :
    d.claimNames? = some claim.spec.names ∧ d.compositeNames = crds.composite.spec.names ∧
      (∀ kind ∈ claim.spec.names.kinds, kind ∉ crds.composite.spec.names.kinds) ∧
      (∀ name ∈ claim.spec.names.identity, name ∉ crds.composite.spec.names.identity) ∧
      (claim.spec.names.Coexist crds.composite.spec.names ↔
        claim.spec.names.ShortNamesFree crds.composite.spec.names) := by
  obtain ⟨hclaim, hcomposite, hvalid⟩ := names_of_generateAll h hk
  obtain ⟨-, hdistinct⟩ := validateClaimNames_eq_ok_iff.mp hvalid _ hclaim
  rw [hcomposite] at hdistinct
  exact ⟨hclaim, hcomposite, Names.kinds_disjoint hdistinct, hdistinct,
    Names.coexist_iff hdistinct⟩

/-- A definition whose composite and claim have the given short names. -/
def nicknamedDefinition (composite claim : List String) : Definition where
  metadata := { name := some "stores.example.org", uid := some "4711" }
  spec := {
    claimNames := some {
      kind := "Claim", listKind := some "ClaimList", singular := some "claim", plural := "claims",
      shortNames := some claim }
    template := {
      group := "example.org"
      version := "v1"
      names := {
        kind := "Store", listKind := some "StoreList", singular := some "store",
        plural := "stores", shortNames := some composite } } }

/-- Short names that differ from each other and from all other names. -/
theorem generateAll_coexist_iff_nicknamed :
    ∃ crds claim,
      (({} : Generator).generateAll (nicknamedDefinition ["st"] ["cl"])).outcome = .ok crds ∧
      crds.claim = some claim ∧ claim.spec.names.shortNames = some ["cl"] ∧
      claim.spec.names.Coexist crds.composite.spec.names := by
  refine ⟨_, _, rfl, rfl, rfl, ?_⟩
  obtain ⟨-, -, -, -, hiff⟩ :=
    @generateAll_coexist_iff {} (nicknamedDefinition ["st"] ["cl"]) _ _ rfl rfl
  exact hiff.mpr ⟨by decide, by decide⟩

/-- A short name that both sides have is not noticed. -/
theorem generateAll_shared_short_name :
    ∃ crds claim,
      (({} : Generator).generateAll (nicknamedDefinition ["st"] ["st"])).outcome = .ok crds ∧
      crds.claim = some claim ∧ "st" ∈ claim.spec.names.resources ∧
      "st" ∈ crds.composite.spec.names.resources ∧
      ¬ claim.spec.names.Coexist crds.composite.spec.names := by
  refine ⟨_, _, rfl, rfl, by decide, by decide, ?_⟩
  intro h
  exact h.resources "st" (by decide) (by decide)

end Generator

end CrdSynthesis
