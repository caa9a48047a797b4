import CrdSynthesis.Loading
import CrdSynthesis.Proofs.Outcome
import CrdSynthesis.Proofs.Yaml.Marker

/-!
# Streams of definitions

Reading a stream of definitions follows its separator lines: two streams with a separator
between them are read one after the other.

A text of one definition can be read by itself or as a stream. The stream is divided line by
line before any of it is read, so it keeps the definition only where its lines between two
separators are the definition alone: what stands beside a separator on its line is lost.

## Main definitions

* `Yaml.IsPreamble`: the lines above a document
* `Yaml.IsPlain`: a text of one document that a stream reads as it stands

## Main results

* `Definition.ofYamlStream_append_eq_ok_iff`, `Definition.ofYamlStream_append_eq_error_iff`:
  the definitions of two streams, and the first error
* `Definition.stream_homomorphism`: splitting and reading at a separator, and without one
* `Definition.ofYamlStream_eq_singleton_iff`: a stream of one definition
* `Definition.ofYamlStream_of_isPlain`: a plain text as a stream
* `Definition.stream_of_one_definition`: when a stream keeps the one definition of its text
-/

namespace CrdSynthesis

namespace Yaml

/-! ## Plain texts -/

/-- Lines above a document that add nothing to it: none, or a marker of its start with nothing
but quiet lines above. -/
inductive IsPreamble : List (List Char) → Prop where
  | none : IsPreamble []
  | marked (quiet : List (List Char)) (marker : List Char)
      (quiet_lines : ∀ line ∈ quiet, isQuiet true line = true)
      (bare : isBareMarker marker = true) (separates : isSeparator marker = true) :
      IsPreamble (quiet ++ [marker])

/-- A text of one document, perhaps below a marker, whose lines are those that a line
feed ends. -/
structure IsPlain (t : String) : Prop where
  ended : ∃ p, t = p ++ "\n"
  no_return : ∀ line ∈ Text.lines t.toList, line.getLast? ≠ some '\r'
  framed : ∃ preamble body, Text.lines t.toList = preamble ++ body ∧ IsPreamble preamble ∧
    (∀ line ∈ body, isSeparator line = false) ∧ ∃ line ∈ body, isIdle line = false

/-- A quiet line is idle; of a comment trimming keeps the mark. -/
theorem isIdle_of_isQuiet {line : List Char} (h : isQuiet true line = true) :
    isIdle line = true := by
  induction line with
  | nil => decide
  | cons c line ih =>
    rw [isQuiet] at h
    by_cases hc : (c == '#') = true
    · obtain rfl := beq_iff_eq.mp hc
      have hstart : Text.trimStart ('#' :: line) = '#' :: line := rfl
      have hblank : ¬Text.isBlank '#' = true := by decide
      rw [isIdle, Text.trim, hstart, Text.trimEnd_cons, if_neg hblank]
      split <;> rfl
    · rw [if_neg hc, Bool.and_eq_true] at h
      obtain rfl : c = ' ' := by simpa using h.1
      exact ih h.2

/-- Below a preamble the lines of a body are the only document of a stream. -/
theorem IsPreamble.surrounds {preamble body : List (List Char)} (h : IsPreamble preamble)
    (hs : ∀ line ∈ body, isSeparator line = false) (hi : ∃ line ∈ body, isIdle line = false) :
    Surrounds preamble body [] := by
  refine ⟨?_, .inl rfl, ?_, isVoid_nil, hs, hi⟩
  · cases h with
    | none => exact .inl rfl
    | marked quiet marker _ _ hm => exact .inr ⟨quiet, marker, rfl, hm⟩
  · cases h with
    | none => exact isVoid_nil
    | marked quiet marker hq _ hm =>
      refine isVoid_append.mpr ⟨fun line hl => .inr (isIdle_of_isQuiet (hq line hl)), ?_⟩
      exact (isVoid_cons_of_isSeparator hm).mpr isVoid_nil

/-- The lines below a preamble have the value of the text unless that is `null`: the characters
of the text are those of its lines, the marker's above the body's. -/
theorem read?_below {t : String} {preamble body : List (List Char)} {value : Json}
    (hend : ∃ p, t = p ++ "\n") (hret : ∀ line ∈ Text.lines t.toList, line.getLast? ≠ some '\r')
    (hlines : Text.lines t.toList = preamble ++ body) (hp : IsPreamble preamble)
    (hv : value ≠ .null) (h : read? t = some value) :
    read? (String.ofList (Text.unlines body)) = some value := by
  have hglyphs := glyphs?_unlines_lines hend hret
  rw [hlines, Text.unlines_append] at hglyphs
  cases hp with
  | none => rwa [read?, show glyphs? (String.ofList (Text.unlines body)) = glyphs? t from hglyphs]
  | marked quiet marker hq hb hm =>
    obtain ⟨gs, -, -, hgs, -⟩ := read?_eq_some_iff.mp h
    rw [hgs, glyphs?, String.toList_ofList] at hglyphs
    obtain ⟨hallowed, hplace⟩ := Option.ite_none_right_eq_some.mp hglyphs
    rw [List.all_append, Bool.and_eq_true] at hallowed
    rw [← hplace] at hgs
    exact read?_marker hq hb hgs hallowed.2 hv h

end Yaml

namespace Definition

open Yaml

/-! ## Two streams -/

section Append

variable {a s : String} (ha : a = "" ∨ ∃ p, a = p ++ "\n") (hn : '\n' ∉ s.toList)
  (hs : isSeparator s.toList = true) (b : String)

include ha hn hs

/-- The definitions of two streams are those of the first and then those of the second. -/
theorem ofYamlStream_append_eq_ok_iff {ds : List Definition} :
    ofYamlStream (a ++ s ++ "\n" ++ b) = .ok ds ↔
      ∃ xs ys, ofYamlStream a = .ok xs ∧ ofYamlStream b = .ok ys ∧ ds = xs ++ ys := by
  rw [ofYamlStream, splitDocuments_append ha hn hs]
  exact Outcome.mapM_append_eq_ok_iff

/-- The first stream that fails decides the error of two. -/
theorem ofYamlStream_append_eq_error_iff {error : LoadError} :
    ofYamlStream (a ++ s ++ "\n" ++ b) = .error error ↔
      ofYamlStream a = .error error ∨
        ∃ xs, ofYamlStream a = .ok xs ∧ ofYamlStream b = .error error := by
  rw [ofYamlStream, splitDocuments_append ha hn hs]
  exact Outcome.mapM_append_eq_error_iff

end Append

/-! ## One definition -/

variable {t : String} {d : Definition}

/-- A text is a definition if its value is. -/
theorem ofYaml_eq_ok_iff :
    ofYaml t = .ok d ↔ ∃ value, read? t = some value ∧ ofValue value = .ok d := by
  rw [ofYaml]
  cases read? t <;> simp

theorem ne_null_of_ofValue {value : Json} (h : ofValue value = .ok d) : value ≠ .null := by
  rintro rfl
  cases h

/-- A stream holds one definition where the lines of its only document are read as one. -/
theorem ofYamlStream_eq_singleton_iff :
    ofYamlStream t = .ok [d] ↔
      ∃ before body after, Text.lines t.toList = before ++ body ++ after ∧
        Surrounds before body after ∧ ofYaml (String.ofList (Text.unlines body)) = .ok d := by
  rw [ofYamlStream, Outcome.mapM_eq_ok_singleton_iff]
  constructor
  · rintro ⟨document, hs, hd⟩
    obtain ⟨before, body, after, hlines, hsur, rfl⟩ := splitDocuments_eq_singleton_iff.mp hs
    exact ⟨before, body, after, hlines, hsur, hd⟩
  · rintro ⟨before, body, after, hlines, hsur, hd⟩
    exact ⟨_, splitDocuments_eq_singleton_iff.mpr ⟨before, body, after, hlines, hsur, rfl⟩, hd⟩

/-- A stream holds no definition where no line of it belongs to a document. -/
theorem ofYamlStream_eq_nil_iff : ofYamlStream t = .ok [] ↔ IsVoid (Text.lines t.toList) := by
  rw [ofYamlStream, Outcome.mapM_eq_ok_nil_iff, splitDocuments_eq_nil_iff]

/-- A stream keeps the one definition of a text that it reads as it stands. -/
theorem ofYamlStream_of_isPlain (hp : IsPlain t) (h : ofYaml t = .ok d) :
    ofYamlStream t = .ok [d] := by
  obtain ⟨preamble, body, hlines, hpre, hs, hi⟩ := hp.framed
  obtain ⟨value, hr, hv⟩ := ofYaml_eq_ok_iff.mp h
  have hbody := read?_below hp.ended hp.no_return hlines hpre (ne_null_of_ofValue hv) hr
  refine ofYamlStream_eq_singleton_iff.mpr ⟨preamble, body, [], ?_, hpre.surrounds hs hi, ?_⟩
  · rw [hlines, List.append_nil]
  · exact ofYaml_eq_ok_iff.mpr ⟨value, hbody, hv⟩

/-! ## A definition in block style -/

/-- The lines of a definition. -/
def blockDefinition : List (List Char) :=
  ["apiVersion: apiextensions.crossplane.io/v1alpha1", "kind: CompositeResourceDefinition",
    "metadata:", "  name: xexamples.example.org", "spec:", "  crdSpecTemplate:",
    "    group: example.org", "    version: v1", "    names:", "      kind: XExample",
    "      plural: xexamples"].map (·.toList)

/-- The definition below a comment and a marker. -/
def blockText : String :=
  String.ofList (Text.unlines ("# examples".toList :: "---".toList :: blockDefinition))

theorem ended_blockText : ∃ p, blockText = p ++ "\n" := by
  have hlines : Text.unlines ("# examples".toList :: "---".toList :: blockDefinition) =
      Text.unlines ("# examples".toList :: "---".toList :: blockDefinition.dropLast) ++
        "      plural: xexamples".toList ++ ['\n'] := by
    decide +kernel
  rw [blockText, hlines, String.ofList_append]
  exact ⟨_, rfl⟩

theorem isPlain_blockText : IsPlain blockText := by
  have hlines : Text.lines blockText.toList =
      ["# examples".toList] ++ ["---".toList] ++ blockDefinition := by
    rw [blockText, String.toList_ofList]
    decide +kernel
  refine ⟨ended_blockText, ?_, _, _, hlines, ?_, ?_, ?_⟩
  · rw [hlines]
    decide +kernel
  · exact .marked _ _ (by decide) (by decide) (by decide)
  · decide +kernel
  · exact ⟨"metadata:".toList, by decide +kernel, by decide⟩

theorem exists_ofYaml_blockText :
    ∃ d, ofYaml blockText = .ok d ∧ d.compositeNames.kind = "XExample" := by
  have hkind : (ofYaml blockText).toOption.map (·.compositeNames.kind) = some "XExample" := by
    rw [ofYaml, read?, glyphs?, blockText, String.toList_ofList]
    decide +kernel
  obtain ⟨d, hd, hk⟩ := Option.map_eq_some_iff.mp hkind
  exact ⟨d, Outcome.toOption_eq_some_iff.mp hd, hk⟩

/-! ## Streams of definitions -/

/-- Separator lines divide a stream into streams that are read one after the other, and a
stream without any is one document or none. -/
theorem stream_homomorphism :
    (∀ a s b : String, (a = "" ∨ ∃ p, a = p ++ "\n") → '\n' ∉ s.toList →
      isSeparator s.toList = true →
      splitDocuments (a ++ s ++ "\n" ++ b) = splitDocuments a ++ splitDocuments b ∧
        (∀ ds, ofYamlStream (a ++ s ++ "\n" ++ b) = .ok ds ↔
          ∃ xs ys, ofYamlStream a = .ok xs ∧ ofYamlStream b = .ok ys ∧ ds = xs ++ ys) ∧
        ∀ error, ofYamlStream (a ++ s ++ "\n" ++ b) = .error error ↔
          ofYamlStream a = .error error ∨
            ∃ xs, ofYamlStream a = .ok xs ∧ ofYamlStream b = .error error) ∧
    ∀ t : String, (∀ line ∈ Text.lines t.toList, isSeparator line = false) →
      splitDocuments t =
        if ∀ line ∈ Text.lines t.toList, isIdle line = true then []
        else [String.ofList (Text.unlines (Text.lines t.toList))] :=
  ⟨fun _ _ b ha hn hs =>
    ⟨splitDocuments_append ha hn hs b,
      fun _ => ofYamlStream_append_eq_ok_iff ha hn hs b,
      fun _ => ofYamlStream_append_eq_error_iff ha hn hs b⟩,
    fun _ ht => splitDocuments_of_no_separator ht⟩

/-- A separator line with a comment and a carriage return, between a text that ends in a line
feed and one that does not, between two definitions, and between one and a text of none. -/
theorem stream_homomorphism_comment :
    (splitDocuments ("a: 1\n" ++ "--- # next\r" ++ "\n" ++ "b: 2") =
        splitDocuments "a: 1\n" ++ splitDocuments "b: 2" ∧
      splitDocuments "b: 2" = ["b: 2\n"]) ∧
    (∃ d, ofYamlStream (blockText ++ "--- # next\r" ++ "\n" ++ blockText) = .ok [d, d]) ∧
    ∃ error, ofYamlStream "b: 2" = .error error ∧
      ofYamlStream (blockText ++ "--- # next\r" ++ "\n" ++ "b: 2") = .error error := by
  obtain ⟨d, hd, -⟩ := exists_ofYaml_blockText
  have hblock : ofYamlStream blockText = .ok [d] := ofYamlStream_of_isPlain isPlain_blockText hd
  have hnone : (ofYamlStream "b: 2").toOption.isNone = true := by decide +kernel
  obtain ⟨error, hother⟩ := Outcome.toOption_eq_none_iff.mp (Option.isNone_iff_eq_none.mp hnone)
  have hdivided (a b : String) (ha : ∃ p, a = p ++ "\n") :=
    stream_homomorphism.1 a "--- # next\r" b (.inr ha) (by decide) (by decide)
  refine ⟨⟨?_, ?_⟩, ⟨d, ?_⟩, error, hother, ?_⟩
  · exact (hdivided "a: 1\n" "b: 2" ⟨"a: 1", rfl⟩).1
  · exact (stream_homomorphism.2 "b: 2" (by decide)).trans (by decide)
  · exact ((hdivided blockText blockText ended_blockText).2.1 _).mpr ⟨[d], [d], hblock, hblock, rfl⟩
  · exact ((hdivided blockText "b: 2" ended_blockText).2.2 error).mpr (.inr ⟨[d], hblock, hother⟩)

/-- A stream holds the one definition `d` exactly where the lines between two separators are
`d` by themselves and no other line has content. It holds none where every line separates or
is idle, whatever stands beside the separators. A plain text is the same definition as a
stream and by itself. -/
theorem stream_of_one_definition (t : String) (d : Definition) :
    (ofYamlStream t = .ok [d] ↔
      ∃ before body after, Text.lines t.toList = before ++ body ++ after ∧
        Surrounds before body after ∧ ofYaml (String.ofList (Text.unlines body)) = .ok d) ∧
    (ofYamlStream t = .ok [] ↔ IsVoid (Text.lines t.toList)) ∧
    (IsPlain t → ofYaml t = .ok d → ofYamlStream t = .ok [d]) :=
  ⟨ofYamlStream_eq_singleton_iff, ofYamlStream_eq_nil_iff, ofYamlStream_of_isPlain⟩

/-- A definition below a comment and a marker is the same as a stream and by itself. -/
theorem stream_of_one_definition_block :
    IsPlain blockText ∧ ∃ d, ofYaml blockText = .ok d ∧ d.compositeNames.kind = "XExample" ∧
      ofYamlStream blockText = .ok [d] := by
  obtain ⟨d, hd, hkind⟩ := exists_ofYaml_blockText
  exact ⟨isPlain_blockText, d, hd, hkind,
    (stream_of_one_definition blockText d).2.2 isPlain_blockText hd⟩

/-- A definition on the line of its marker. -/
def markedLine : String :=
  String.join
    ["--- \x7bapiVersion: apiextensions.crossplane.io/v1alpha1, ",
      "kind: CompositeResourceDefinition, metadata: \x7b\x7d, ",
      "spec: \x7bcrdSpecTemplate: \x7bgroup: example.org, version: v1, ",
      "names: \x7bkind: XExample, plural: xexamples\x7d\x7d\x7d\x7d\n"]

/-- A definition beside its marker is lost in a stream. -/
theorem ofYamlStream_markedLine :
    ofYamlStream markedLine = .ok [] ∧
      ∃ d, ofYaml markedLine = .ok d ∧ ofYamlStream markedLine ≠ .ok [d] := by
  have hstream : ofYamlStream markedLine = .ok [] := by
    rw [ofYamlStream_eq_nil_iff, ← splitDocuments_eq_nil_iff, splitDocuments, markedLine]
    simp only [String.join, List.foldl, String.toList_append]
    decide +kernel
  have hone : (ofYaml markedLine).toOption.isSome = true := by
    rw [ofYaml, read?, glyphs?, markedLine]
    simp only [String.join, List.foldl, String.toList_append]
    decide +kernel
  obtain ⟨d, hd⟩ := Option.isSome_iff_exists.mp hone
  refine ⟨hstream, d, Outcome.toOption_eq_some_iff.mp hd, ?_⟩
  rw [hstream]
  simp

end Definition

end CrdSynthesis
