import CrdSynthesis.Generator

/-!
# The verdict on the names of a claim

The names of a claim are valid exactly if all four are given and none of them is a name of the
composite. Missing names are reported before any conflict, and of several conflicts the first
one; a conflict is also logged, and nothing else is.

## Main definitions

* `Names.Complete`: each of the four names that tell kinds apart is given
* `Names.FirstShared`: the first of these names that other names share

## Main results

* `outcome_validateClaimNames`, `events_validateClaimNames`: the verdict and its log
* `validateClaimNames_eq_ok_iff`: the names of a claim are complete and no names of the
  composite
* `validateClaimNames_verdict`: when each verdict is reached, and that names which are not
  given have no part in it
-/

namespace CrdSynthesis

/-! ## Four names -/

/-- Each of the four names that tell kinds apart is given, and none is empty. -/
structure Names.Complete (names : Names) : Prop where
  kind : names.kind ≠ ""
  listKind : ∃ name, names.listKind = some name ∧ name ≠ ""
  singular : ∃ name, names.singular = some name ∧ name ≠ ""
  plural : names.plural ≠ ""

/-- A name is the first, in the order of `Names.identity`, that `other` shares. -/
structure Names.FirstShared (names other : Names) (name : String) : Prop where
  shared : name ∈ other.identity
  first : ∃ before after, names.identity = before ++ name :: after ∧
    ∀ earlier ∈ before, earlier ∉ other.identity

namespace Names

variable {names other : Names} {name : String}

/-- A name that may be absent is given exactly if it does not read as empty. -/
theorem getD_ne_empty_iff {name : Option String} :
    name.getD "" ≠ "" ↔ ∃ given, name = some given ∧ given ≠ "" := by
  cases name <;> simp

/-- Names are complete if no name reads as empty. -/
theorem complete_iff : names.Complete ↔ "" ∉ names.identity := by
  simp only [identity, List.mem_cons, List.not_mem_nil, or_false, not_or, ← ne_eq]
  simp only [ne_comm (a := ""), getD_ne_empty_iff]
  constructor
  · rintro ⟨hk, hl, hs, hp⟩
    exact ⟨hk, hl, hs, hp⟩
  · rintro ⟨hk, hl, hs, hp⟩
    exact ⟨hk, hl, hs, hp⟩

theorem Complete.ne_empty (h : names.Complete) (hn : name ∈ names.identity) : name ≠ "" := by
  rintro rfl
  exact complete_iff.mp h hn

/-- A first shared name is one of the four. -/
theorem FirstShared.mem (h : names.FirstShared other name) : name ∈ names.identity := by
  obtain ⟨before, after, hsplit, -⟩ := h.first
  rw [hsplit]
  exact List.mem_append_right _ List.mem_cons_self

end Names

/-! ## The first conflict -/

section Conflict

variable {claim composite : Names}

/-- There is no conflict if the names have nothing in common. -/
theorem conflictingName?_eq_none_iff :
    conflictingName? claim composite = none ↔
      ∀ name ∈ claim.identity, name ∉ composite.identity := by
  simp [conflictingName?]

/-- The conflict that is found is the first. -/
theorem conflictingName?_eq_some_iff {name : String} :
    conflictingName? claim composite = some name ↔ claim.FirstShared composite name := by
  rw [conflictingName?, List.find?_eq_some_iff_append]
  simp only [Bool.not_eq_true', List.contains_eq_mem, decide_eq_true_eq, decide_eq_false_iff_not]
  constructor
  · rintro ⟨hshared, before, after, hsplit, hfirst⟩
    exact ⟨hshared, before, after, hsplit, hfirst⟩
  · rintro ⟨hshared, before, after, hsplit, hfirst⟩
    exact ⟨hshared, before, after, hsplit, hfirst⟩

/-- Only names that are given can conflict with those of a complete claim. -/
theorem conflictingName?_congr {other : Names} (hc : claim.Complete)
    (h : ∀ name, name ≠ "" → (name ∈ composite.identity ↔ name ∈ other.identity)) :
    conflictingName? claim composite = conflictingName? claim other := by
  have hfilter : claim.identity.filter composite.identity.contains =
      claim.identity.filter other.identity.contains := by
    refine List.filter_congr fun name hn => ?_
    rw [Bool.eq_iff_iff, List.contains_iff_mem, List.contains_iff_mem]
    exact h name (hc.ne_empty hn)
  rw [conflictingName?, conflictingName?, ← List.head?_filter, ← List.head?_filter, hfilter]

end Conflict

/-! ## The verdict -/

section Verdict

variable {d : Definition}

/-- The outcome of the check, apart from what it reports. -/
theorem outcome_validateClaimNames (d : Definition) :
    (validateClaimNames d).outcome =
      match d.claimNames? with
      | none => .ok ()
      | some claim =>
        if claim.identity.contains "" then .error .missingClaimNames
        else
          match conflictingName? claim d.compositeNames with
          | none => .ok ()
          | some name => .error (.conflictingClaimName name) := by
  unfold validateClaimNames
  cases d.claimNames? with
  | none => rfl
  | some claim =>
    dsimp only
    split
    · rfl
    · cases conflictingName? claim d.compositeNames <;> rfl

/-- Only a conflict is reported, with the name of the definition: of the four ends of the check
the last one alone reports anything. -/
theorem events_validateClaimNames (d : Definition) :
    (validateClaimNames d).events =
      match (validateClaimNames d).outcome with
      | .error (.conflictingClaimName name) =>
        [.claimNameConflict name (d.metadata.name.getD "")]
      | _ => [] := by
  unfold validateClaimNames
  cases d.claimNames? with
  | none => rfl
  | some claim =>
    dsimp only
    split
    · rfl
    · cases conflictingName? claim d.compositeNames <;> rfl

theorem outcome_validateClaimNames_of_none (h : d.claimNames? = none) :
    (validateClaimNames d).outcome = .ok () := by
  rw [outcome_validateClaimNames, h]

section Offered

variable {claim : Names} (h : d.claimNames? = some claim)

include h

/-- Incomplete names are reported whether or not one of them also conflicts. -/
theorem outcome_validateClaimNames_of_not_complete (hc : ¬ claim.Complete) :
    (validateClaimNames d).outcome = .error .missingClaimNames := by
  rw [Names.complete_iff, Decidable.not_not, ← List.contains_iff_mem] at hc
  simp only [outcome_validateClaimNames, h, if_pos hc]

/-- Complete names are left with the check for conflicts. -/
theorem outcome_validateClaimNames_of_complete (hc : claim.Complete) :
    (validateClaimNames d).outcome =
      match conflictingName? claim d.compositeNames with
      | none => .ok ()
      | some name => .error (.conflictingClaimName name) := by
  rw [Names.complete_iff, ← List.contains_iff_mem] at hc
  simp only [outcome_validateClaimNames, h, if_neg hc]

theorem outcome_validateClaimNames_eq_ok_iff :
    (validateClaimNames d).outcome = .ok () ↔
      claim.Complete ∧ ∀ name ∈ claim.identity, name ∉ d.compositeNames.identity := by
  by_cases hc : claim.Complete
  · rw [outcome_validateClaimNames_of_complete h hc, ← conflictingName?_eq_none_iff]
    cases conflictingName? claim d.compositeNames <;> simp [hc]
  · rw [outcome_validateClaimNames_of_not_complete h hc]
    simp [hc]

/-- Names are missing exactly if they are not complete, whatever else is wrong with them. -/
theorem outcome_validateClaimNames_eq_missing_iff :
    (validateClaimNames d).outcome = .error .missingClaimNames ↔ ¬ claim.Complete := by
  by_cases hc : claim.Complete
  · rw [outcome_validateClaimNames_of_complete h hc]
    cases conflictingName? claim d.compositeNames <;> simp [hc]
  · rw [outcome_validateClaimNames_of_not_complete h hc]
    simp [hc]

/-- A conflict is the first of complete names. -/
theorem outcome_validateClaimNames_eq_conflict_iff {name : String} :
    (validateClaimNames d).outcome = .error (.conflictingClaimName name) ↔
      claim.Complete ∧ claim.FirstShared d.compositeNames name := by
  by_cases hc : claim.Complete
  · rw [outcome_validateClaimNames_of_complete h hc, ← conflictingName?_eq_some_iff]
    cases conflictingName? claim d.compositeNames <;> simp [hc]
  · rw [outcome_validateClaimNames_of_not_complete h hc]
    simp [hc]

end Offered

/-- The names of a claim are valid exactly if none is empty or a name of the composite. -/
theorem validateClaimNames_eq_ok_iff :
    (validateClaimNames d).outcome = .ok () ↔
      ∀ claim, d.claimNames? = some claim →
        (∀ name ∈ claim.identity, name ≠ "") ∧
          ∀ name ∈ claim.identity, name ∉ d.compositeNames.identity := by
  cases h : d.claimNames? with
  | none => simp [outcome_validateClaimNames_of_none h]
  | some claim =>
    rw [outcome_validateClaimNames_eq_ok_iff h, Names.complete_iff]
    simp only [Option.some.injEq, forall_eq']
    rw [List.forall_mem_ne']

/-- The check fails in these two ways only. -/
theorem validateClaimNames_eq_error {error : GenerationError}
    (h : (validateClaimNames d).outcome = .error error) :
    error = .missingClaimNames ∨ ∃ name, error = .conflictingClaimName name := by
  rw [outcome_validateClaimNames] at h
  split at h
  · cases h
  split at h
  · cases h
    exact .inl rfl
  split at h
  · cases h
  · cases h
    exact .inr ⟨_, rfl⟩

/-- Composite names that are not given have no part in the verdict. -/
theorem outcome_validateClaimNames_congr {e : Definition} (hk : e.claimNames? = d.claimNames?)
    (h : ∀ name, name ≠ "" →
      (name ∈ d.compositeNames.identity ↔ name ∈ e.compositeNames.identity)) :
    (validateClaimNames e).outcome = (validateClaimNames d).outcome := by
  cases hd : d.claimNames? with
  | none =>
    rw [outcome_validateClaimNames_of_none hd, outcome_validateClaimNames_of_none (hk.trans hd)]
  | some claim =>
    by_cases hc : claim.Complete
    · rw [outcome_validateClaimNames_of_complete hd hc,
        outcome_validateClaimNames_of_complete (hk.trans hd) hc, conflictingName?_congr hc h]
    · rw [outcome_validateClaimNames_of_not_complete hd hc,
        outcome_validateClaimNames_of_not_complete (hk.trans hd) hc]

end Verdict

/-- Names that are not offered or are complete and free are valid, incomplete ones are missing,
and otherwise the first name that the composite has too is reported; a composite name that is
not given is never that name. -/
theorem validateClaimNames_verdict (d : Definition) :
    ((validateClaimNames d).outcome = .ok () ↔
      d.claimNames? = none ∨ ∃ claim, d.claimNames? = some claim ∧ claim.Complete ∧
        ∀ name ∈ claim.identity, name ∉ d.compositeNames.identity) ∧
    ((validateClaimNames d).outcome = .error .missingClaimNames ↔
      ∃ claim, d.claimNames? = some claim ∧ ¬ claim.Complete) ∧
    (∀ name, (validateClaimNames d).outcome = .error (.conflictingClaimName name) ↔
      ∃ claim, d.claimNames? = some claim ∧ claim.Complete ∧
        claim.FirstShared d.compositeNames name) ∧
    (∀ error, (validateClaimNames d).outcome = .error error →
      error = .missingClaimNames ∨ ∃ name, name ≠ "" ∧ error = .conflictingClaimName name) ∧
    ∀ e : Definition, e.claimNames? = d.claimNames? →
      (∀ name, name ≠ "" →
        (name ∈ d.compositeNames.identity ↔ name ∈ e.compositeNames.identity)) →
      (validateClaimNames e).outcome = (validateClaimNames d).outcome := by
  cases hd : d.claimNames? with
  | none =>
    rw [outcome_validateClaimNames_of_none hd]
    refine ⟨by simp, by simp, by simp, by simp, fun e hk _ => ?_⟩
    rw [outcome_validateClaimNames_of_none hk]
  | some claim =>
    refine ⟨?_, ?_, fun name => ?_, fun error herror => ?_, fun e hk h => ?_⟩
    · simpa using outcome_validateClaimNames_eq_ok_iff hd
    · simpa using outcome_validateClaimNames_eq_missing_iff hd
    · simpa using outcome_validateClaimNames_eq_conflict_iff hd
    · obtain rfl | ⟨name, rfl⟩ := validateClaimNames_eq_error herror
      · exact .inl rfl
      · obtain ⟨hc, hfirst⟩ := (outcome_validateClaimNames_eq_conflict_iff hd).mp herror
        exact .inr ⟨name, hc.ne_empty hfirst.mem, rfl⟩
    · exact outcome_validateClaimNames_congr (hk.trans hd.symm) h

/-- Of two names that the composite has too, the kind of lists stands first. -/
example :
    (validateClaimNames {
      spec := {
        claimNames := some {
          kind := "Claim", listKind := some "StoreList", singular := some "store",
          plural := "claims" }
        template := {
          names := { kind := "Store", listKind := some "StoreList", singular := some "store" } }
      } }).outcome = .error (.conflictingClaimName "StoreList") := rfl

end CrdSynthesis
