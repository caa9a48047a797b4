import CrdSynthesis.Crd
import CrdSynthesis.Proofs.CompositeAndClaim
import CrdSynthesis.Proofs.Yaml.WrittenStream

/-!
# Streams of generated resources

The stream of generated resources splits into the documents of the resources, whatever texts
their definitions hold. The first line of each document is the version of its type, and the last
one is the empty status among the subresources, so every document has content and ends in a line
feed.

## Main definitions

* `Generator.IsGenerated`: a resource that some generator makes

## Main results

* `Generator.isDocument_toYaml`: a generated resource is one document
* `Generator.splitDocuments_toYamlStream`: a stream of generated resources splits into them
-/

namespace CrdSynthesis

open Yaml (IsDocument Ended splitDocuments)

namespace Generator

variable {generator : Generator} {d : Definition} {mode : Mode}

/-- A version ends with its subresources, whose status is an empty object. -/
theorem ended_crdVersion (d : Definition) (mode : Mode) (schema : Schema) :
    Ended (Yaml.blockLines (Codec.version.encode (crdVersion d mode schema))) := by
  have hempty : Ended (Yaml.blockLines (.object [])) := Yaml.ended_leaf ['{', '}']
  have hsubresources :
      Ended (Yaml.blockLines (Codec.subresources.encode { status := some (.object []) })) :=
    Yaml.ended_object hempty [] "status"
  exact Yaml.ended_object hsubresources _ "subresources"

/-- A resource that has no status ends with its one version. -/
theorem ended_crd (d : Definition) (mode : Mode) (names : Names) (owner : OwnerReference)
    (schema : Schema) :
    Ended (Yaml.blockLines (Codec.crd.encode (crd d mode names owner schema))) := by
  have hversions :
      Ended (Yaml.blockLines (.array [Codec.version.encode (crdVersion d mode schema)])) :=
    Yaml.ended_singleton (ended_crdVersion d mode schema)
  have hspec :
      Ended (Yaml.blockLines (Codec.crdSpec.encode (crd d mode names owner schema).spec)) :=
    Yaml.ended_object hversions _ "versions"
  have hstatus : (crd d mode names owner schema).status = none := rfl
  rw [Codec.crd]
  dsimp only
  rw [hstatus, Codec.optional_none, List.append_nil]
  exact Yaml.ended_object hspec _ "spec"

/-- A generated resource is one document of a stream; its first line is the same for
every resource. -/
theorem isDocument_toYaml {c : Crd} (h : (generator.generate d mode).outcome = .ok c) :
    IsDocument c.toYaml := by
  obtain ⟨names, owner, template, -, -, -, -, rfl⟩ := generate_eq_ok_iff.mp h
  have hfirst : Yaml.entryLines "apiVersion" (.string Crd.apiVersion)
      (Yaml.blockLines (.string Crd.apiVersion)) =
      [{ body := "apiVersion: apiextensions.k8s.io/v1".toList }] := by decide
  exact Yaml.isDocument_print_object hfirst rfl (by decide) (ended_crd d mode names owner _)

/-- Some generator makes the resource of some definition, in some mode. -/
def IsGenerated (c : Crd) : Prop :=
  ∃ (generator : Generator) (d : Definition) (mode : Mode),
    (generator.generate d mode).outcome = .ok c

/-- Both resources of a definition are generated, each in its mode. -/
theorem exists_generate_of_mem_toList {crds : GeneratedCrds} {c : Crd}
    (h : (generator.generateAll d).outcome = .ok crds) (hc : c ∈ crds.toList) :
    ∃ mode, (generator.generate d mode).outcome = .ok c := by
  rcases List.mem_cons.mp hc with rfl | hc
  · exact ⟨.composite, (generateAll_eq_ok_iff.mp h).1⟩
  · exact ⟨.claim, (generate_of_generateAll h (Option.mem_toList.mp hc)).2⟩

/-- A stream of generated resources splits into their documents. -/
theorem splitDocuments_toYamlStream_of_isGenerated {crds : List Crd}
    (h : ∀ c ∈ crds, IsGenerated c) :
    splitDocuments (Crd.toYamlStream crds) = crds.map Crd.toYaml := by
  apply Yaml.splitDocuments_intercalate
  intro document hm
  obtain ⟨c, hc, rfl⟩ := List.mem_map.mp hm
  rcases h c hc with ⟨generator, d, mode, hg⟩
  exact isDocument_toYaml hg

/-- A stream of generated resources splits into their documents, and the stream of one
definition into that of its composite resource and, if there is one, that of its claim. -/
theorem splitDocuments_toYamlStream :
    (∀ crds : List Crd, (∀ c ∈ crds, IsGenerated c) →
      splitDocuments (Crd.toYamlStream crds) = crds.map Crd.toYaml) ∧
    ∀ (generator : Generator) (d : Definition) (crds : GeneratedCrds),
      (generator.generateAll d).outcome = .ok crds →
      splitDocuments (Crd.toYamlStream crds.toList) =
        crds.composite.toYaml :: (crds.claim.map Crd.toYaml).toList := by
  refine ⟨fun crds h => splitDocuments_toYamlStream_of_isGenerated h, ?_⟩
  intro generator d crds h
  have hgenerated : ∀ c ∈ crds.toList, IsGenerated c :=
    fun c hc => ⟨generator, d, exists_generate_of_mem_toList h hc⟩
  rw [splitDocuments_toYamlStream_of_isGenerated hgenerated]
  rcases crds with ⟨composite, _ | claim⟩ <;> rfl

/-- A definition with a label that looks like the end of a document. -/
def dividedDefinition : Definition where
  metadata := {
    storageDefinition.metadata with labels := some [("---", "a"), ("note", "b\n---\n# c")] }
  spec := storageDefinition.spec

/-- A label that holds a separator is written within quotes, and divides nothing. -/
theorem splitDocuments_toYamlStream_divided :
    ∃ crds claim, (({} : Generator).generateAll dividedDefinition).outcome = .ok crds ∧
      crds.claim = some claim ∧
      splitDocuments (Crd.toYamlStream crds.toList) = [crds.composite.toYaml, claim.toYaml] ∧
      splitDocuments (Crd.toYamlStream [claim]) = [claim.toYaml] := by
  refine ⟨_, _, rfl, rfl, splitDocuments_toYamlStream.2 {} dividedDefinition _ rfl,
    splitDocuments_toYamlStream.1 _ fun c hc => ?_⟩
  cases List.mem_singleton.mp hc
  exact ⟨{}, dividedDefinition, .claim, rfl⟩

end Generator

end CrdSynthesis
