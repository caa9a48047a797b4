import CrdSynthesis.Loading
import CrdSynthesis.Proofs.CompositeAndClaim

/-!
# The log mirrors the outcome

What a computation has logged is known from how it ended: one line for each resource and each
file that was finished, one warning for a conflict of names, and nothing else. A failure keeps
the lines of what was finished before it.

## Main definitions

* `Logged.trace`: the lines that a computation has logged, in order
* `Definition.trace`: the lines that belong to an outcome

## Main results

* `trace_validateClaimNames`, `Generator.trace_generate`, `Generator.trace_generateAll`: the
  lines of each step
* `trace_mirrors_outcome`: the lines of every computation that logs any
-/

namespace CrdSynthesis

/-! ## Lines -/

/-- An event as it is shown. -/
def Event.line (event : Event) : Level × String := (event.level, event.message)

/-- The line of a resource that was generated, by its registered name. -/
def generatedLine (mode : Mode) (crdName : String) : Level × String :=
  (.debug, "Generated " ++ mode.text ++ " CRD " ++ crdName)

/-- The warning that a claim has a name of its composite. -/
def conflictLine (claimName definitionName : String) : Level × String :=
  (.warn, "Claim name " ++ claimName ++ " of " ++ definitionName ++
    " conflicts with its composite names")

/-- The line of a file whose definitions were read. -/
def loadedLine (count : Nat) (path : String) : Level × String :=
  (.debug, "Loaded " ++ toString count ++ " definition(s) from " ++ path)

@[simp]
theorem Event.line_generated (mode : Mode) (crdName : String) :
    line (.generated mode crdName) = generatedLine mode crdName := by
  simp [line, level, message, generatedLine, String.join]

@[simp]
theorem Event.line_claimNameConflict (claimName definitionName : String) :
    line (.claimNameConflict claimName definitionName) =
      conflictLine claimName definitionName := by
  simp [line, level, message, conflictLine, String.join]

@[simp]
theorem Event.line_loaded (count : Nat) (path : String) :
    line (.loaded count path) = loadedLine count path := by
  simp [line, level, message, loadedLine, String.join]

namespace Logged

variable {ε α β : Type}

/-- What a computation has logged, in order. -/
def trace (x : Logged Event ε α) : List (Level × String) := x.events.map Event.line

@[simp]
theorem trace_pure (a : α) : (pure a : Logged Event ε α).trace = [] := rfl

@[simp]
theorem trace_ofExcept (outcome : Except ε α) : (ofExcept outcome).trace = [] := rfl

/-- A failure shows the lines that came before it and no more. -/
theorem trace_bind_error {x : Logged Event ε α} {error : ε} (h : x.outcome = .error error)
    (f : α → Logged Event ε β) : (x >>= f).trace = x.trace := by
  rw [trace, events_bind_error h, trace]

/-- The lines of two steps stand one after the other. -/
theorem trace_bind_ok {x : Logged Event ε α} {a : α} (h : x.outcome = .ok a)
    (f : α → Logged Event ε β) : (x >>= f).trace = x.trace ++ (f a).trace := by
  rw [trace, events_bind_ok h, List.map_append, trace, trace]

end Logged

/-! ## The lines of an outcome -/

namespace Definition

/-- The lines of an outcome: those of the result if there is one, and a warning if the names of
the claim conflict. -/
def trace {α : Type} (d : Definition) (lines : α → List (Level × String)) :
    Except GenerationError α → List (Level × String)
  | .ok a => lines a
  | .error (.conflictingClaimName name) => [conflictLine name (d.metadata.name.getD "")]
  | .error _ => []

/-- An error has the same lines, whatever was to be returned. -/
theorem trace_error {α β : Type} (d : Definition) (lines : α → List (Level × String))
    (others : β → List (Level × String)) (error : GenerationError) :
    d.trace lines (.error error) = d.trace others (.error error) := by
  cases error <;> rfl

/-- Any other error has no lines. -/
theorem trace_of_ne {α : Type} {d : Definition} {lines : α → List (Level × String)}
    {error : GenerationError} (h : ∀ name, error ≠ .conflictingClaimName name) :
    d.trace lines (.error error) = [] := by
  cases error with
  | conflictingClaimName name => exact absurd rfl (h name)
  | _ => rfl

end Definition

/-! ## Names -/

/-- Only a conflict is shown when names are checked. -/
theorem trace_validateClaimNames (d : Definition) :
    (validateClaimNames d).trace = d.trace (fun _ => []) (validateClaimNames d).outcome := by
  rw [Logged.trace, events_validateClaimNames]
  cases (validateClaimNames d).outcome with
  | ok _ => rfl
  | error error => cases error <;> simp [Definition.trace]

namespace Generator

variable {generator : Generator} {d : Definition} {mode : Mode}

/-- The names of a resource leave no line but that of a conflict: names that are not given are
missing, which is not shown. -/
theorem trace_resourceNames (d : Definition) (mode : Mode) :
    (resourceNames d mode).trace = d.trace (fun _ => []) (resourceNames d mode).outcome := by
  cases mode with
  | composite => rfl
  | claim =>
    rw [outcome_resourceNames_claim]
    cases hv : (validateClaimNames d).outcome with
    | error error =>
      rw [resourceNames, Logged.trace_bind_error hv, trace_validateClaimNames, hv]
      exact d.trace_error _ _ error
    | ok _ =>
      rw [resourceNames, Logged.trace_bind_ok hv, trace_validateClaimNames, hv]
      cases d.claimNames? <;> rfl

/-! ## One resource -/

theorem ownerReference_ne_conflict {error : GenerationError}
    (h : generator.ownerReference d = .error error) (name : String) :
    error ≠ .conflictingClaimName name := by
  unfold ownerReference at h
  split at h <;> cases h
  exact GenerationError.noConfusion

theorem mergeSchema_ne_conflict {fragment : Option Schema} {error : GenerationError}
    (h : mergeSchema fragment mode = .error error) (name : String) :
    error ≠ .conflictingClaimName name := by
  obtain ⟨defect, rfl⟩ | ⟨other, rfl⟩ := mergeSchema_eq_error h <;>
    exact GenerationError.noConfusion

/-- A generated resource is shown by its registered name, and a conflict of names is shown; any
other failure leaves nothing. Names that are valid leave no line, so the line of the resource is
the only one. -/
theorem trace_generate (generator : Generator) (d : Definition) (mode : Mode) :
    (generator.generate d mode).trace =
      d.trace (fun c => [generatedLine mode (c.metadata.name.getD "")])
        (generator.generate d mode).outcome := by
  rw [outcome_generate, generate]
  cases hn : (resourceNames d mode).outcome with
  | error error =>
    rw [Logged.trace_bind_error hn, trace_resourceNames, hn]
    exact d.trace_error _ _ error
  | ok names =>
    rw [Logged.trace_bind_ok hn, trace_resourceNames, hn]
    cases ho : generator.ownerReference d with
    | error error => exact (Definition.trace_of_ne (ownerReference_ne_conflict ho)).symm
    | ok owner =>
      cases hm : mergeSchema d.schemaFragment? mode with
      | error error => exact (Definition.trace_of_ne (mergeSchema_ne_conflict hm)).symm
      | ok schema => exact congrArg (fun line => [line]) (Event.line_generated mode _)

/-- A resource is registered under its plural name in its group. -/
theorem name_of_generate {c : Crd} (h : (generator.generate d mode).outcome = .ok c) :
    c.metadata.name = some (c.spec.names.plural ++ "." ++ c.spec.group) := by
  obtain ⟨names, owner, template, -, -, -, -, rfl⟩ := generate_eq_ok_iff.mp h
  rfl

/-- The names of a composite resource never conflict. -/
theorem generate_composite_ne_conflict (name : String) :
    (generator.generate d .composite).outcome ≠ .error (.conflictingClaimName name) := by
  intro h
  rw [outcome_generate] at h
  obtain h | ⟨names, -, h⟩ := Outcome.bind_eq_error_iff.mp h
  · cases h
  obtain h | ⟨owner, -, h⟩ := Outcome.bind_eq_error_iff.mp h
  · exact ownerReference_ne_conflict h name rfl
  obtain h | ⟨schema, -, h⟩ := Outcome.bind_eq_error_iff.mp h
  · exact mergeSchema_ne_conflict h name rfl
  · cases h

/-- A composite resource that fails leaves no line. -/
theorem trace_generate_composite_of_error {error : GenerationError}
    (h : (generator.generate d .composite).outcome = .error error) :
    (generator.generate d .composite).trace = [] := by
  rw [trace_generate, h]
  refine Definition.trace_of_ne fun name heq => ?_
  exact generate_composite_ne_conflict name (h.trans (congrArg _ heq))

/-! ## Both resources -/

/-- The lines of the composite resource come first, and those of an offered claim after them if
the composite resource was generated. -/
theorem trace_generateAll (generator : Generator) (d : Definition) :
    (generator.generateAll d).trace =
      match (generator.generate d .composite).outcome with
      | .error _ => []
      | .ok _ =>
        (generator.generate d .composite).trace ++
          if d.offersClaim then (generator.generate d .claim).trace else [] := by
  rw [generateAll]
  cases hc : (generator.generate d .composite).outcome with
  | error error => rw [Logged.trace_bind_error hc, trace_generate_composite_of_error hc]
  | ok composite =>
    rw [Logged.trace_bind_ok hc]
    dsimp only
    split
    · cases hk : (generator.generate d .claim).outcome with
      | error error => rw [Logged.trace_bind_error hk]
      | ok claim => rw [Logged.trace_bind_ok hk, Logged.trace_pure, List.append_nil]
    · rfl

end Generator

/-! ## Files -/

namespace Definition

/-- A file is loaded by reading its text and all definitions in it. -/
theorem outcome_load (path : String) (file : File) :
    (load path file).outcome = (file.text.mapError .file).bind ofYamlStream := by
  simp only [load, Logged.outcome_bind, Logged.outcome_ofExcept, Logged.outcome_report]
  refine congrArg _ (funext fun text => ?_)
  cases ofYamlStream text <;> rfl

/-- A file is shown with the number of its definitions, and only if all of them were read. -/
theorem trace_load (path : String) (file : File) :
    (load path file).trace =
      match (load path file).outcome with
      | .ok definitions => [loadedLine definitions.length path]
      | .error _ => [] := by
  rw [outcome_load, load]
  cases file.text.mapError LoadError.file with
  | error error => rfl
  | ok text =>
    rw [Logged.trace_bind_ok rfl, Logged.trace_ofExcept, List.nil_append]
    change _ = match ofYamlStream text with
      | .ok definitions => [loadedLine definitions.length path]
      | .error _ => []
    cases ofYamlStream text with
    | error error => rfl
    | ok definitions => exact congrArg (fun line => [line]) (Event.line_loaded _ path)

end Definition

/-! ## All computations -/

/-- The lines of a check of claim names. -/
structure NamesTrace (d : Definition) : Prop where
  conflict : ∀ name, (validateClaimNames d).outcome = .error (.conflictingClaimName name) →
    (validateClaimNames d).trace = [conflictLine name (d.metadata.name.getD "")]
  silent : (∀ name, (validateClaimNames d).outcome ≠ .error (.conflictingClaimName name)) →
    (validateClaimNames d).trace = []

/-- The lines of the generation of one resource. -/
structure GenerateTrace (generator : Generator) (d : Definition) (mode : Mode) : Prop where
  generated : ∀ c, (generator.generate d mode).outcome = .ok c →
    ∃ name, c.metadata.name = some name ∧ name = c.spec.names.plural ++ "." ++ c.spec.group ∧
      (generator.generate d mode).trace = [generatedLine mode name]
  conflict : ∀ name,
    (generator.generate d mode).outcome = .error (.conflictingClaimName name) →
    (generator.generate d mode).trace = [conflictLine name (d.metadata.name.getD "")]
  silent : ∀ error, (generator.generate d mode).outcome = .error error →
    (∀ name, error ≠ .conflictingClaimName name) → (generator.generate d mode).trace = []
  composite : mode = .composite →
    ∀ line ∈ (generator.generate d mode).trace, line.1 = .debug

/-- The lines of the generation of both resources. -/
structure GenerateAllTrace (generator : Generator) (d : Definition) : Prop where
  compositeFailed : ∀ error, (generator.generate d .composite).outcome = .error error →
    (generator.generateAll d).trace = []
  noClaim : ∀ c, (generator.generate d .composite).outcome = .ok c → d.claimNames? = none →
    (generator.generateAll d).trace = [generatedLine .composite (c.metadata.name.getD "")]
  claimFailed : ∀ c error, (generator.generate d .composite).outcome = .ok c →
    d.offersClaim = true → (generator.generate d .claim).outcome = .error error →
    (∀ name, error ≠ .conflictingClaimName name) →
    (generator.generateAll d).trace = [generatedLine .composite (c.metadata.name.getD "")]
  conflict : ∀ c name, (generator.generate d .composite).outcome = .ok c →
    d.offersClaim = true →
    (generator.generate d .claim).outcome = .error (.conflictingClaimName name) →
    (generator.generateAll d).trace =
      [generatedLine .composite (c.metadata.name.getD ""),
        conflictLine name (d.metadata.name.getD "")]
  generated : ∀ c k, (generator.generate d .composite).outcome = .ok c →
    d.offersClaim = true → (generator.generate d .claim).outcome = .ok k →
    (generator.generateAll d).trace =
      [generatedLine .composite (c.metadata.name.getD ""),
        generatedLine .claim (k.metadata.name.getD "")]

/-- The lines of the reading of a file. -/
structure LoadTrace (path : String) (file : File) : Prop where
  loaded : ∀ definitions, (Definition.load path file).outcome = .ok definitions →
    (Definition.load path file).trace = [loadedLine definitions.length path]
  silent : ∀ error, (Definition.load path file).outcome = .error error →
    (Definition.load path file).trace = []

theorem namesTrace (d : Definition) : NamesTrace d where
  conflict name h := by rw [trace_validateClaimNames, h, Definition.trace]
  silent h := by
    rw [trace_validateClaimNames]
    cases hv : (validateClaimNames d).outcome with
    | ok _ => rfl
    | error error => exact Definition.trace_of_ne fun name heq => h name (hv.trans (heq ▸ rfl))

namespace Generator

variable {generator : Generator} {d : Definition} {mode : Mode}

theorem trace_of_generate {c : Crd} (h : (generator.generate d mode).outcome = .ok c) :
    (generator.generate d mode).trace = [generatedLine mode (c.metadata.name.getD "")] := by
  rw [trace_generate, h, Definition.trace]

theorem trace_of_conflict {name : String}
    (h : (generator.generate d mode).outcome = .error (.conflictingClaimName name)) :
    (generator.generate d mode).trace = [conflictLine name (d.metadata.name.getD "")] := by
  rw [trace_generate, h, Definition.trace]

theorem trace_of_failure {error : GenerationError}
    (h : (generator.generate d mode).outcome = .error error)
    (hne : ∀ name, error ≠ .conflictingClaimName name) :
    (generator.generate d mode).trace = [] := by
  rw [trace_generate, h, Definition.trace_of_ne hne]

theorem generateTrace (generator : Generator) (d : Definition) (mode : Mode) :
    GenerateTrace generator d mode where
  generated c h := by
    refine ⟨_, name_of_generate h, rfl, ?_⟩
    rw [trace_of_generate h, name_of_generate h, Option.getD_some]
  conflict _ h := trace_of_conflict h
  silent _ h hne := trace_of_failure h hne
  composite := by
    rintro rfl
    cases h : (generator.generate d .composite).outcome with
    | ok c => simp [trace_of_generate h, generatedLine]
    | error error => simp [trace_generate_composite_of_error h]

/-- Generating both resources leaves the lines of the composite resource and then those of
the claim. -/
theorem generateAllTrace (generator : Generator) (d : Definition) :
    GenerateAllTrace generator d where
  compositeFailed error h := by rw [trace_generateAll, h]
  noClaim c h hk := by
    have ho : d.offersClaim = false := by
      rw [Definition.offersClaim, ← Definition.claimNames?, hk, Option.isSome_none]
    simp only [trace_generateAll, h, trace_of_generate h, ho, Bool.false_eq_true, if_false,
      List.append_nil]
  claimFailed c error h ho hk hne := by
    simp only [trace_generateAll, h, trace_of_generate h, ho, if_true, trace_of_failure hk hne,
      List.append_nil]
  conflict c name h ho hk := by
    simp only [trace_generateAll, h, trace_of_generate h, ho, if_true, trace_of_conflict hk,
      List.singleton_append]
  generated c k h ho hk := by
    simp only [trace_generateAll, h, trace_of_generate h, ho, if_true, trace_of_generate hk,
      List.singleton_append]

end Generator

theorem loadTrace (path : String) (file : File) : LoadTrace path file where
  loaded definitions h := by rw [Definition.trace_load, h]
  silent error h := by rw [Definition.trace_load, h]

/-- Every computation that logs anything logs what belongs to its outcome, and no more. -/
theorem trace_mirrors_outcome :
    (∀ d, NamesTrace d) ∧ (∀ generator d mode, GenerateTrace generator d mode) ∧
      (∀ generator d, GenerateAllTrace generator d) ∧ ∀ path file, LoadTrace path file :=
  ⟨namesTrace, Generator.generateTrace, Generator.generateAllTrace, loadTrace⟩

/-- The storage definition with a claim of the same kind. -/
def twinDefinition : Definition where
  metadata := Generator.storageDefinition.metadata
  spec := {
    Generator.storageDefinition.spec with
    claimNames := some {
      kind := "Store", listKind := some "ClaimList", singular := some "claim",
      plural := "claims" } }

/-- The composite resource is shown before the conflict that its claim fails for. -/
theorem trace_mirrors_outcome_twin :
    (({} : Generator).generateAll twinDefinition).trace =
      [generatedLine .composite "stores.example.org", conflictLine "Store" "stores.example.org"] :=
  (trace_mirrors_outcome.2.2.1 {} twinDefinition).conflict _ "Store" rfl rfl rfl

end CrdSynthesis
