import CrdSynthesis.Proofs.Yaml.Sections
import CrdSynthesis.Proofs.Yaml.WrittenLines

/-!
# Streams of written documents

A written document stands in a stream as it is. Its lines are those that were written, up to the
two Unicode separators, which a stream does not see; and no line of a collection starts with three
dashes, since whatever stands below the first level is indented and a key that looks like a marker
is quoted.

## Main definitions

* `Yaml.IsDocument`: a text that a stream keeps as one document
* `Yaml.Ended`: lines of which the last one ends in a line feed

## Main results

* `Yaml.not_dashes_memberLines`: no line of an object starts like a separator
* `Yaml.isDocument_textOfLines`, `Yaml.isDocument_print_object`: the written lines of a document
* `Yaml.splitDocuments_intercalate`: documents that are joined split apart again
-/

namespace CrdSynthesis

namespace Text

/-! ## Lines of a text -/

/-- A text within a line and its line feed are the first line. -/
theorem lines_append_of_unbroken {cs : List Char} (h : Unbroken cs) (rest : List Char) :
    lines (cs ++ '\n' :: rest) = cs :: lines rest := by
  induction cs with
  | nil => rfl
  | cons c cs ih =>
    obtain ⟨hn, hr, hcs⟩ := Unbroken.cons_iff.mp h
    rw [List.cons_append, lines_cons_of_ne hn (fun h => absurd h hr), ih hcs]
    rfl

/-- What stands on a line before others goes to the first of their lines. -/
theorem exists_lines_append_of_unbroken {cs : List Char} (h : Unbroken cs) (hne : cs ≠ [])
    (rest : List Char) :
    ∃ tail others, lines (cs ++ rest) = (cs ++ tail) :: others ∧
      ∀ line ∈ others, line ∈ lines rest := by
  induction cs with
  | nil => exact absurd rfl hne
  | cons c cs ih =>
    obtain ⟨hn, hr, hcs⟩ := Unbroken.cons_iff.mp h
    rw [List.cons_append, lines_cons_of_ne hn (fun h => absurd h hr)]
    cases cs with
    | nil =>
      rw [List.nil_append]
      cases lines rest with
      | nil => exact ⟨[], [], rfl, by simp⟩
      | cons first others => exact ⟨first, others, rfl, fun line hm => List.mem_cons_of_mem _ hm⟩
    | cons d cs =>
      obtain ⟨tail, others, hl, ho⟩ := ih hcs (List.cons_ne_nil d cs)
      rw [hl]
      exact ⟨tail, others, rfl, ho⟩

theorem unlines_prepend {c : Char} {ls : List (List Char)} (h : ls ≠ []) :
    unlines (prepend c ls) = c :: unlines ls := by
  cases ls with
  | nil => exact absurd rfl h
  | cons line ls => rfl

/-- A text without carriage returns is its lines, if it does not end within a line. -/
theorem unlines_lines {cs : List Char} (hr : '\r' ∉ cs)
    (hend : cs = [] ∨ cs.getLast? = some '\n') : unlines (lines cs) = cs := by
  induction cs using lines.induct with
  | case1 => rfl
  | case2 cs ih =>
    rw [lines, unlines_cons, ih (fun hm => hr (List.mem_cons_of_mem _ hm)) (ended_of_cons hend),
      List.nil_append]
  | case3 cs ih => exact absurd (List.mem_cons_self ..) hr
  | case4 c cs hn hcr ih =>
    have hne : lines cs ≠ [] := by
      intro hnil
      obtain rfl := lines_eq_nil_iff.mp hnil
      exact hn (Option.some.inj (hend.resolve_left (List.cons_ne_nil c [])))
    rw [lines_cons_of_ne (fun h => hn h) (head?_ne_line_feed hcr), unlines_prepend hne,
      ih (fun hm => hr (List.mem_cons_of_mem _ hm)) (ended_of_cons hend)]

theorem trimEnd_isPrefix (cs : List Char) : trimEnd cs <+: cs := by
  have hsuffix : trimStart cs.reverse <:+ cs.reverse := List.dropWhile_suffix _
  rw [← List.reverse_prefix, List.reverse_reverse] at hsuffix
  exact hsuffix

end Text

namespace Yaml

open Text

/-! ## Separators -/

/-- The start of a separator. -/
def dashes : List Char := ['-', '-', '-']

/-- A separator starts with three dashes. -/
theorem dashes_isPrefix_of_isSeparator {line : List Char} (h : isSeparator line = true) :
    dashes <+: line := by
  have htrim := trimEnd_isPrefix line
  simp only [isSeparator, Bool.or_eq_true, beq_iff_eq, List.isPrefixOf_iff_prefix] at h
  obtain h | h := h
  · rwa [h] at htrim
  · exact (List.prefix_append dashes [' ']).trans (h.trans htrim)

/-- A text that starts with a dash at most twice before another character. -/
theorem not_dashes_append_cons {cs rest : List Char} {c : Char} (hc : c ≠ '-')
    (h : ¬dashes <+: cs) : ¬dashes <+: cs ++ c :: rest := by
  intro hp
  match cs, h, hp with
  | [], _, hp => simp [dashes, Ne.symm hc] at hp
  | [a], _, hp => simp [dashes, Ne.symm hc] at hp
  | [a, b], _, hp => simp [dashes, Ne.symm hc] at hp
  | a :: b :: d :: cs, h, hp =>
    apply h
    simpa [dashes] using hp

/-! ## Lines that are no separators -/

theorem not_dashes_indent (line : Line) : ¬dashes <+: line.indent.body := by
  unfold Line.indent
  split
  · rename_i h
    rw [List.isEmpty_iff.mp h]
    decide
  · simp [dashes]

theorem not_dashes_map_indent (ls : List Line) :
    ∀ line ∈ ls.map Line.indent, ¬dashes <+: line.body := by
  intro line hm
  obtain ⟨l, -, rfl⟩ := List.mem_map.mp hm
  exact not_dashes_indent l

/-- Below its first line a block is indented. -/
theorem not_dashes_hang {lead : List Char} {ls : List Line}
    (h : ∀ cs, ¬dashes <+: lead ++ cs) : ∀ line ∈ hang lead ls, ¬dashes <+: line.body := by
  cases ls with
  | nil =>
    rw [hang, List.forall_mem_singleton]
    simpa using h []
  | cons first rest =>
    rw [hang, List.forall_mem_cons]
    exact ⟨h first.body, not_dashes_map_indent rest⟩

/-- A key that starts like a separator is quoted, since three dashes are an indicator. -/
theorem not_dashes_keyMark (key : String) (cs : List Char) :
    ¬dashes <+: keyMark key ++ cs := by
  rw [keyMark, List.append_assoc]
  refine not_dashes_append_cons (by decide) ?_
  have h := holds_styleOf key
  cases hs : styleOf key with
  | plain =>
    rw [hs] at h
    simp only [Style.holds, plainHolds, Bool.and_eq_true] at h
    intro hp
    obtain ⟨rest, hrest⟩ := hp
    have hindicator : startsAsIndicator key.toList = true := by
      rw [← show dashes ++ rest = key.toList from hrest]
      simp [dashes, startsAsIndicator]
    have hnot := h.1.2
    rw [hindicator] at hnot
    cases hnot
  | singleQuoted => simp [dashes, flowText, singleQuote]
  | doubleQuoted => simp [dashes, flowText, doubleQuote]
  | literal => simp [dashes, flowText, doubleQuote]

theorem not_dashes_itemLines (items : List Json) :
    ∀ line ∈ itemLines items, ¬dashes <+: line.body := by
  induction items with
  | nil => simp [itemLines]
  | cons item items ih =>
    rw [itemLines, List.forall_mem_append]
    exact ⟨not_dashes_hang fun cs => by simp [dashes], ih⟩

/-- No line of an entry starts like a separator; a key that is not simple stands behind a mark of
its own. -/
theorem not_dashes_entryLines (key : String) (value : Json) :
    ∀ line ∈ entryLines key value (blockLines value), ¬dashes <+: line.body := by
  have hmark : ¬dashes <+: keyMark key := by
    have := not_dashes_keyMark key []
    rwa [List.append_nil] at this
  unfold entryLines
  split
  · rw [List.forall_mem_append]
    exact ⟨not_dashes_hang fun cs => by simp [dashes], not_dashes_hang fun cs => by simp [dashes]⟩
  split
  · rename_i item items
    rw [List.forall_mem_cons, blockLines]
    exact ⟨hmark, not_dashes_itemLines (item :: items)⟩
  · rw [List.forall_mem_cons]
    exact ⟨hmark, not_dashes_map_indent _⟩
  · refine not_dashes_hang fun cs => ?_
    rw [List.append_assoc]
    exact not_dashes_keyMark key _

/-- No line of an object starts like a separator. -/
theorem not_dashes_memberLines (members : List (String × Json)) :
    ∀ line ∈ memberLines members, ¬dashes <+: line.body := by
  induction members with
  | nil => simp [memberLines]
  | cons member members ih =>
    rw [memberLines, List.forall_mem_append]
    exact ⟨not_dashes_entryLines member.1 member.2, ih⟩

/-! ## Documents -/

/-- A stream keeps the text as one document, whatever stands beyond the next separator. -/
structure IsDocument (text : String) : Prop where
  ended : ∃ p, text = p ++ "\n"
  undivided : splitDocuments text = [text]

/-- Documents that are joined by separators split apart again. -/
theorem splitDocuments_intercalate {documents : List String}
    (h : ∀ document ∈ documents, IsDocument document) :
    splitDocuments ("---\n".intercalate documents) = documents := by
  induction documents with
  | nil => rfl
  | cons document rest ih =>
    rw [List.forall_mem_cons] at h
    cases rest with
    | nil => exact h.1.undivided
    | cons next rest =>
      have hjoin : "---\n".intercalate (document :: next :: rest) =
          document ++ "---" ++ "\n" ++ "---\n".intercalate (next :: rest) := by
        have hline : document ++ "---" ++ "\n" = document ++ "---\n" := String.append_assoc
        rw [hline, String.intercalate_cons_cons]
      rw [hjoin, splitDocuments_append (.inr h.1.ended) (by decide) (by decide), ih h.2,
        h.1.undivided]
      rfl

/-! ## The last line -/

/-- The last of the lines ends in a line feed. -/
def Ended (ls : List Line) : Prop := ∃ front last, ls = front ++ [last] ∧ last.ending = '\n'

theorem ended_leaf (cs : List Char) : Ended [{ body := cs }] := ⟨[], _, rfl, rfl⟩

theorem Ended.append {ms : List Line} (h : Ended ms) (ls : List Line) : Ended (ls ++ ms) := by
  obtain ⟨front, last, rfl, hl⟩ := h
  exact ⟨ls ++ front, last, (List.append_assoc ..).symm, hl⟩

theorem Ended.cons {ls : List Line} (h : Ended ls) (line : Line) : Ended (line :: ls) :=
  h.append [line]

theorem Line.indent_ending (line : Line) : line.indent.ending = line.ending := by
  unfold indent
  split <;> rfl

theorem Ended.map_indent {ls : List Line} (h : Ended ls) : Ended (ls.map Line.indent) := by
  obtain ⟨front, last, rfl, hl⟩ := h
  refine ⟨front.map Line.indent, last.indent, List.map_append, ?_⟩
  rw [last.indent_ending, hl]

theorem Ended.hang {ls : List Line} (h : Ended ls) (lead : List Char) :
    Ended (Yaml.hang lead ls) := by
  obtain ⟨front, last, rfl, hl⟩ := h
  cases front with
  | nil => exact ⟨[], _, rfl, hl⟩
  | cons first front =>
    have hrest : Ended (front ++ [last]) := ⟨front, last, rfl, hl⟩
    exact hrest.map_indent.cons _

theorem Ended.entryLines {ls : List Line} (h : Ended ls) (key : String) (value : Json) :
    Ended (Yaml.entryLines key value ls) := by
  unfold Yaml.entryLines
  split
  · exact (h.hang _).append _
  split
  · exact h.cons _
  · exact h.map_indent.cons _
  · exact h.hang _

theorem memberLines_append (front back : List (String × Json)) :
    memberLines (front ++ back) = memberLines front ++ memberLines back := by
  induction front with
  | nil => rfl
  | cons member front ih =>
    rw [List.cons_append, memberLines, memberLines, ih, List.append_assoc]

/-- An object ends as its last member does. -/
theorem ended_object {value : Json} (h : Ended (blockLines value))
    (front : List (String × Json)) (key : String) :
    Ended (blockLines (.object (front ++ [(key, value)]))) := by
  have hmembers : Ended (memberLines (front ++ [(key, value)])) := by
    rw [memberLines_append]
    refine .append ?_ _
    rw [memberLines, memberLines, List.append_nil]
    exact h.entryLines key value
  cases front with
  | nil => rwa [List.nil_append, blockLines]
  | cons member front => rwa [List.cons_append, blockLines]

theorem ended_singleton {value : Json} (h : Ended (blockLines value)) :
    Ended (blockLines (.array [value])) := by
  rw [blockLines, itemLines, itemLines, List.append_nil]
  exact h.hang _

/-! ## Written documents -/

theorem textOfLines_cons (first : Line) (rest : List Line) :
    textOfLines (first :: rest) = first.body ++ first.ending :: textOfLines rest := by
  simp [textOfLines, Line.text]

/-- Each line of a written text begins as one of the lines that were written. -/
theorem exists_of_mem_lines {ls : List Line} (h : ∀ line ∈ ls, line.Whole) :
    ∀ line ∈ lines (textOfLines ls), ∃ l ∈ ls, line = l.body ∨ l.body ++ [l.ending] <+: line := by
  induction ls with
  | nil => simp [textOfLines, lines]
  | cons first rest ih =>
    rw [List.forall_mem_cons] at h
    have hrest : ∀ line ∈ lines (textOfLines rest), ∃ l ∈ first :: rest,
        line = l.body ∨ l.body ++ [l.ending] <+: line := by
      intro line hm
      obtain ⟨l, hl, hline⟩ := ih h.2 line hm
      exact ⟨l, List.mem_cons_of_mem first hl, hline⟩
    rw [textOfLines_cons]
    by_cases hfeed : first.ending = '\n'
    · rw [hfeed, lines_append_of_unbroken h.1.body, List.forall_mem_cons]
      exact ⟨⟨first, List.mem_cons_self .., .inl rfl⟩, hrest⟩
    · -- the line goes on beyond a break that the stream does not see
      have hunbroken : Unbroken (first.body ++ [first.ending]) := by
        refine h.1.body.append ⟨?_, ?_⟩
        · simpa using Ne.symm hfeed
        · simpa using Ne.symm h.1.not_return
      obtain ⟨tail, others, hl, ho⟩ :=
        exists_lines_append_of_unbroken hunbroken (by simp) (textOfLines rest)
      rw [List.append_cons, hl, List.forall_mem_cons]
      exact ⟨⟨first, List.mem_cons_self .., .inr (List.prefix_append _ _)⟩,
        fun line hm => hrest line (ho line hm)⟩

/-- No line of a text is a separator if none that was written starts with three dashes. -/
theorem isSeparator_eq_false_of_mem {ls : List Line} (hw : ∀ line ∈ ls, line.Whole)
    (hd : ∀ line ∈ ls, ¬dashes <+: line.body) :
    ∀ line ∈ lines (textOfLines ls), isSeparator line = false := by
  intro line hm
  rw [Bool.eq_false_iff]
  intro hs
  have hdashes := dashes_isPrefix_of_isSeparator hs
  obtain ⟨l, hl, rfl | ⟨rest, rfl⟩⟩ := exists_of_mem_lines hw line hm
  · exact hd l hl hdashes
  · have hne : l.ending ≠ '-' := by
      intro hc
      have := (hw l hl).is_break
      rw [hc] at this
      cases this
    rw [List.append_assoc] at hdashes
    exact not_dashes_append_cons hne (hd l hl) hdashes

theorem return_notMem_textOfLines {ls : List Line} (h : ∀ line ∈ ls, line.Whole) :
    '\r' ∉ textOfLines ls := by
  intro hm
  obtain ⟨line, hl, hc⟩ := List.mem_flatMap.mp hm
  rw [Line.text, List.mem_append, List.mem_singleton] at hc
  obtain hc | hc := hc
  · exact (h line hl).body.2 hc
  · exact (h line hl).not_return hc.symm

/-- A written text ends in a line feed if its last line does. -/
theorem Ended.exists_textOfLines {ls : List Line} (h : Ended ls) :
    ∃ cs, textOfLines ls = cs ++ ['\n'] := by
  obtain ⟨front, last, rfl, hl⟩ := h
  refine ⟨textOfLines front ++ last.body, ?_⟩
  simp [textOfLines, Line.text, hl]

/-- Lines are a document if none looks like a separator, the first one has content and the
last one ends in a line feed. -/
theorem isDocument_textOfLines {first : Line} {rest : List Line}
    (hw : ∀ line ∈ first :: rest, line.Whole)
    (hd : ∀ line ∈ first :: rest, ¬dashes <+: line.body) (hf : first.ending = '\n')
    (hi : isIdle first.body = false) (he : Ended (first :: rest)) :
    IsDocument (String.ofList (textOfLines (first :: rest))) := by
  obtain ⟨cs, hcs⟩ := he.exists_textOfLines
  refine ⟨⟨String.ofList cs, ?_⟩, ?_⟩
  · rw [hcs, String.ofList_append]
  have hcontent : first.body ∈ lines (textOfLines (first :: rest)) := by
    rw [textOfLines_cons, hf, lines_append_of_unbroken (hw first (List.mem_cons_self ..)).body]
    exact List.mem_cons_self ..
  have hseparators : ∀ line ∈ lines (String.ofList (textOfLines (first :: rest))).toList,
      isSeparator line = false := by
    rw [String.toList_ofList]
    exact isSeparator_eq_false_of_mem hw hd
  rw [splitDocuments_of_no_separator hseparators, String.toList_ofList, if_neg, unlines_lines]
  · exact return_notMem_textOfLines hw
  · exact .inr (by rw [hcs, List.getLast?_concat])
  · intro hidle
    rw [hidle first.body hcontent] at hi
    cases hi

/-- The lines of an object are a document if its first member is written on one line that has
content and its last member ends in a line feed. -/
theorem isDocument_print_object {key : String} {value : Json} {members : List (String × Json)}
    {line : Line} (hfirst : entryLines key value (blockLines value) = [line])
    (hfeed : line.ending = '\n') (hcontent : isIdle line.body = false)
    (hend : Ended (blockLines (.object ((key, value) :: members)))) :
    IsDocument (print (.object ((key, value) :: members))) := by
  have hlines : blockLines (.object ((key, value) :: members)) = line :: memberLines members := by
    rw [blockLines, memberLines, hfirst]
    rfl
  have hwhole := whole_blockLines (.object ((key, value) :: members))
  have hdashes := not_dashes_memberLines ((key, value) :: members)
  rw [← blockLines] at hdashes
  rw [hlines] at hwhole hdashes hend
  have hprint : print (.object ((key, value) :: members)) =
      String.ofList (textOfLines (line :: memberLines members)) := by
    rw [print, documentLines, hlines]
    rintro text ⟨⟩
  rw [hprint]
  exact isDocument_textOfLines hwhole hdashes hfeed hcontent hend

end Yaml

end CrdSynthesis
