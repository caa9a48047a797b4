import CrdSynthesis.Yaml.Document

/-!
# Sections of a stream

Lines and sections follow the text: what ends in a line feed splits off with its own lines,
and a separator line splits off the sections before it. A stream holds one document if its
lines with content all stand between two neighbouring separators, before the first or after
the last one.

## Main definitions

* `Yaml.Surrounds`: the lines around the one document of a stream

## Main results

* `Text.lines_append`: the lines of a text after a line feed
* `Text.lines_line`: a text without a line feed is one line, up to a carriage return
* `Yaml.sections_append`: the sections on both sides of a separator
* `Yaml.splitDocuments_append`: a stream of two streams
* `Yaml.splitDocuments_of_no_separator`: a stream of at most one document
* `Yaml.splitDocuments_eq_nil_iff`, `Yaml.splitDocuments_eq_singleton_iff`: a stream without
  documents, and a stream of one
-/

namespace CrdSynthesis

namespace Text

/-! ## Trimming -/

/-- The end of a text decides what is trimmed there. -/
theorem trimEnd_cons (c : Char) (cs : List Char) :
    trimEnd (c :: cs) =
      if trimEnd cs = [] then (if isBlank c then [] else [c]) else c :: trimEnd cs := by
  simp only [trimEnd, trimStart, List.reverse_cons, List.dropWhile_append, List.isEmpty_iff,
    List.reverse_eq_nil_iff]
  split
  · by_cases hc : isBlank c = true <;> simp [List.dropWhile, hc]
  · simp

/-- A character in front keeps two texts alike at their ends. -/
theorem trimEnd_cons_congr {cs ds : List Char} (h : trimEnd cs = trimEnd ds) (c : Char) :
    trimEnd (c :: cs) = trimEnd (c :: ds) := by
  rw [trimEnd_cons, trimEnd_cons, h]

/-! ## Lines -/

theorem prepend_append {c : Char} {ls : List (List Char)} (h : ls ≠ []) (rest : List (List Char)) :
    prepend c (ls ++ rest) = prepend c ls ++ rest := by
  cases ls with
  | nil => exact absurd rfl h
  | cons line ls => rfl

theorem prepend_ne_nil (c : Char) (ls : List (List Char)) : prepend c ls ≠ [] := by
  cases ls <;> simp [prepend]

/-- A character that ends no line stands on the first one. -/
theorem lines_cons_of_ne {c : Char} {cs : List Char} (hn : c ≠ '\n')
    (hr : c = '\r' → cs.head? ≠ some '\n') : lines (c :: cs) = prepend c (lines cs) := by
  rw [lines]
  · exact hn
  · rintro ds rfl rfl
    exact hr rfl rfl

theorem head?_ne_line_feed {c : Char} {cs : List Char}
    (h : ∀ ds, c = '\r' → cs = '\n' :: ds → False) (hc : c = '\r') : cs.head? ≠ some '\n' := by
  intro hd
  obtain ⟨ds, rfl⟩ := List.head?_eq_some_iff.mp hd
  exact h ds hc rfl

theorem lines_eq_nil_iff {cs : List Char} : lines cs = [] ↔ cs = [] := by
  fun_cases lines cs <;> simp [prepend_ne_nil]

/-- A text that has ended its last line has ended that of its rest. -/
theorem ended_of_cons {c : Char} {cs : List Char}
    (h : c :: cs = [] ∨ (c :: cs).getLast? = some '\n') : cs = [] ∨ cs.getLast? = some '\n' := by
  cases cs with
  | nil => exact .inl rfl
  | cons d cs => exact .inr (by simpa using h)

/-- The lines of a text after a line feed are its own; a carriage return before the line feed
belongs to it. -/
theorem lines_append (as bs : List Char) :
    lines (as ++ '\n' :: bs) = lines (as ++ ['\n']) ++ lines bs := by
  induction as using lines.induct with
  | case1 => simp [lines]
  | case2 cs ih => simp [lines, ih]
  | case3 cs ih => simp [lines, ih]
  | case4 c cs hn hr ih =>
    by_cases hlast : c = '\r' ∧ cs = []
    · obtain ⟨rfl, rfl⟩ := hlast
      simp [lines]
    · have hhead : ∀ ds, c = '\r' → (cs ++ '\n' :: ds).head? ≠ some '\n' := by
        rintro ds rfl
        cases cs with
        | nil => exact absurd ⟨rfl, rfl⟩ hlast
        | cons d cs =>
          rintro h
          cases h
          exact hr cs rfl rfl
      have hne : lines (cs ++ ['\n']) ≠ [] := by simp [lines_eq_nil_iff]
      rw [List.cons_append, List.cons_append, lines_cons_of_ne (fun h => hn h) (hhead bs),
        lines_cons_of_ne (fun h => hn h) (hhead []), ih, prepend_append hne]

/-- A text without a line feed is one line; a carriage return at its end makes no difference
where the end of the line is trimmed. -/
theorem lines_line {cs : List Char} (h : '\n' ∉ cs) :
    ∃ line, lines (cs ++ ['\n']) = [line] ∧ trimEnd line = trimEnd cs := by
  induction cs with
  | nil => exact ⟨[], rfl, rfl⟩
  | cons c cs ih =>
    rw [List.mem_cons, not_or] at h
    by_cases hlast : c = '\r' ∧ cs = []
    · obtain ⟨rfl, rfl⟩ := hlast
      exact ⟨[], rfl, by decide⟩
    · obtain ⟨line, hl, ht⟩ := ih h.2
      refine ⟨c :: line, ?_, trimEnd_cons_congr ht c⟩
      rw [List.cons_append, lines_cons_of_ne (Ne.symm h.1), hl, prepend]
      rintro rfl
      cases cs with
      | nil => exact absurd ⟨rfl, rfl⟩ hlast
      | cons d cs =>
        rintro hd
        cases hd
        exact h.2 (List.mem_cons_self ..)

end Text

namespace Yaml

/-! ## Sections -/

/-- Only what is left after trimming decides whether a line is a separator. -/
theorem isSeparator_congr {l m : List Char} (h : Text.trimEnd l = Text.trimEnd m) :
    isSeparator l = isSeparator m := by
  rw [isSeparator, h, isSeparator]

theorem sections_ne_nil (ls : List (List Char)) : sections ls ≠ [] := by
  fun_cases sections ls <;> simp

/-- A separator stands between the sections of the lines above it and those of the lines
below it. -/
theorem sections_append {line : List Char} (h : isSeparator line = true)
    (before after : List (List Char)) :
    sections (before ++ line :: after) = sections before ++ sections after := by
  induction before with
  | nil => simp [sections, h]
  | cons l before ih =>
    rw [List.cons_append, sections, sections, ih]
    by_cases hl : isSeparator l = true
    · simp [hl]
    · rw [if_neg hl, if_neg hl]
      cases hs : sections before with
      | nil => exact absurd hs (sections_ne_nil before)
      | cons first others => rfl

/-- Lines without a separator are one section. -/
theorem sections_of_no_separator {ls : List (List Char)}
    (h : ∀ line ∈ ls, isSeparator line = false) : sections ls = [ls] := by
  induction ls with
  | nil => rfl
  | cons line ls ih =>
    rw [List.forall_mem_cons] at h
    rw [sections, h.1, ih h.2]
    rfl

/-! ## Documents -/

/-- A text that is empty or ends in a line feed splits off with its own lines. -/
theorem lines_append_of_complete {a : String} (h : a = "" ∨ ∃ p, a = p ++ "\n")
    (bs : List Char) :
    Text.lines (a.toList ++ bs) = Text.lines a.toList ++ Text.lines bs := by
  obtain rfl | ⟨p, rfl⟩ := h
  · rfl
  · have he : (p ++ "\n").toList = p.toList ++ ['\n'] := String.toList_append
    rw [he, List.append_assoc]
    exact Text.lines_append p.toList bs

/-- A separator line divides a stream into two streams. -/
theorem splitDocuments_append {a s : String} (ha : a = "" ∨ ∃ p, a = p ++ "\n")
    (hn : '\n' ∉ s.toList) (hs : isSeparator s.toList = true) (b : String) :
    splitDocuments (a ++ s ++ "\n" ++ b) = splitDocuments a ++ splitDocuments b := by
  obtain ⟨line, hl, ht⟩ := Text.lines_line hn
  have hline : isSeparator line = true := by rw [isSeparator_congr ht, hs]
  have hlines : Text.lines (a ++ s ++ "\n" ++ b).toList =
      Text.lines a.toList ++ line :: Text.lines b.toList := by
    calc Text.lines (a ++ s ++ "\n" ++ b).toList
        = Text.lines (a.toList ++ (s.toList ++ '\n' :: b.toList)) := by
          simp [String.toList_append]
      _ = Text.lines a.toList ++ (Text.lines (s.toList ++ ['\n']) ++ Text.lines b.toList) := by
          rw [lines_append_of_complete ha, Text.lines_append]
      _ = Text.lines a.toList ++ line :: Text.lines b.toList := by rw [hl]; rfl
  rw [splitDocuments, hlines, sections_append hline, List.filterMap_append]
  rfl

/-- Without a separator line a stream holds all its lines as one document, or none. -/
theorem splitDocuments_of_no_separator {t : String}
    (h : ∀ line ∈ Text.lines t.toList, isSeparator line = false) :
    splitDocuments t =
      if ∀ line ∈ Text.lines t.toList, isIdle line = true then []
      else [String.ofList (Text.unlines (Text.lines t.toList))] := by
  rw [splitDocuments, sections_of_no_separator h, List.filterMap_cons, List.filterMap_nil,
    sectionDocument?]
  by_cases hi : (Text.lines t.toList).all isIdle = true
  · rw [if_pos hi, if_pos (List.all_eq_true.mp hi)]
  · rw [if_neg hi, if_neg fun h' => hi (List.all_eq_true.mpr h')]

/-! ## Streams of one document -/

variable {ls before body after : List (List Char)} {document : String}

/-- Lines are divided by a first separator, and those below it by the next one. -/
@[elab_as_elim]
theorem sections_induction {motive : List (List Char) → Prop}
    (undivided : ∀ ls, (∀ line ∈ ls, isSeparator line = false) → motive ls)
    (divided : ∀ before mark after, (∀ line ∈ before, isSeparator line = false) →
      isSeparator mark = true → motive after → motive (before ++ mark :: after))
    (ls : List (List Char)) : motive ls := by
  -- `before` are the lines that have been passed without a separator
  have hsplit : ∀ before rest, (∀ line ∈ before, isSeparator line = false) →
      motive (before ++ rest) := by
    intro before rest
    induction rest generalizing before with
    | nil =>
      intro h
      rw [List.append_nil]
      exact undivided before h
    | cons line rest ih =>
      intro h
      cases hl : isSeparator line with
      | true => exact divided before line rest h hl (ih [] (by simp))
      | false =>
        rw [List.append_cons]
        refine ih (before ++ [line]) fun l hm => ?_
        rcases List.mem_append.mp hm with hm | hm
        · exact h l hm
        · rwa [List.mem_singleton.mp hm]
  exact hsplit [] ls (by simp)

/-- No line belongs to a document. -/
def IsVoid (ls : List (List Char)) : Prop :=
  ∀ line ∈ ls, isSeparator line = true ∨ isIdle line = true

theorem isVoid_nil : IsVoid [] := List.forall_mem_nil _

theorem isVoid_append : IsVoid (before ++ after) ↔ IsVoid before ∧ IsVoid after := by
  simp only [IsVoid, List.forall_mem_append]

theorem isVoid_cons_of_isSeparator {mark : List Char} (h : isSeparator mark = true) :
    IsVoid (mark :: after) ↔ IsVoid after := by
  simp only [IsVoid, List.forall_mem_cons, h, true_or, true_and]

/-- The lines `body` are the only document of a stream, which holds `before` above them and
`after` below them. -/
structure Surrounds (before body after : List (List Char)) : Prop where
  opened : before = [] ∨ ∃ front mark, before = front ++ [mark] ∧ isSeparator mark = true
  closed : after = [] ∨ ∃ mark back, after = mark :: back ∧ isSeparator mark = true
  void_before : IsVoid before
  void_after : IsVoid after
  undivided : ∀ line ∈ body, isSeparator line = false
  written : ∃ line ∈ body, isIdle line = false

/-! ### Sections with content -/

/-- The documents of some lines. -/
def documents (ls : List (List Char)) : List String := (sections ls).filterMap sectionDocument?

/-- A separator stands between the documents above it and those below it. -/
theorem documents_append {mark : List Char} (h : isSeparator mark = true)
    (before after : List (List Char)) :
    documents (before ++ mark :: after) = documents before ++ documents after := by
  rw [documents, sections_append h, List.filterMap_append]
  rfl

/-- Lines without a separator are one document at most. -/
theorem documents_of_no_separator (h : ∀ line ∈ ls, isSeparator line = false) :
    documents ls = (sectionDocument? ls).toList := by
  rw [documents, sections_of_no_separator h, List.filterMap_cons, List.filterMap_nil]
  cases sectionDocument? ls <;> rfl

/-- A section is no document if none of its lines has content. -/
theorem sectionDocument?_eq_none_iff :
    sectionDocument? ls = none ↔ ∀ line ∈ ls, isIdle line = true := by
  rw [sectionDocument?]
  split
  next h => exact iff_of_true rfl (List.all_eq_true.mp h)
  next h => exact iff_of_false (by simp) fun hi => h (List.all_eq_true.mpr hi)

/-- A document is made of lines of which one has content. -/
theorem sectionDocument?_eq_some_iff :
    sectionDocument? ls = some document ↔
      (∃ line ∈ ls, isIdle line = false) ∧ document = String.ofList (Text.unlines ls) := by
  rw [sectionDocument?]
  split
  next h =>
    refine iff_of_false (by simp) ?_
    rintro ⟨⟨line, hm, hl⟩, -⟩
    exact Bool.false_ne_true (hl.symm.trans (List.all_eq_true.mp h line hm))
  next h =>
    have hwritten : ∃ line ∈ ls, isIdle line = false := by simpa using h
    rw [Option.some.injEq, eq_comm, and_iff_right hwritten]

/-- Lines hold no document exactly if each of them separates or is idle. -/
theorem documents_eq_nil_iff : documents ls = [] ↔ IsVoid ls := by
  have hidle : ∀ ls, (∀ line ∈ ls, isSeparator line = false) →
      (documents ls = [] ↔ IsVoid ls) := by
    intro ls h
    rw [documents_of_no_separator h, Option.toList_eq_nil_iff, sectionDocument?_eq_none_iff]
    refine forall_congr' fun line => forall_congr' fun hm => ?_
    simp only [h line hm, Bool.false_eq_true, false_or]
  induction ls using sections_induction with
  | undivided ls h => exact hidle ls h
  | divided before mark after h hm ih =>
    rw [documents_append hm, List.append_eq_nil_iff, isVoid_append,
      isVoid_cons_of_isSeparator hm]
    exact and_congr (hidle before h) ih

/-- The lines above and below a document add nothing to it. -/
theorem documents_of_surrounds (h : Surrounds before body after) :
    documents (before ++ body ++ after) = [String.ofList (Text.unlines body)] := by
  have hbody : documents body = [String.ofList (Text.unlines body)] := by
    rw [documents_of_no_separator h.undivided, sectionDocument?_eq_some_iff.mpr ⟨h.written, rfl⟩]
    rfl
  have hbelow : documents (body ++ after) = documents body := by
    obtain rfl | ⟨mark, back, rfl, hm⟩ := h.closed
    · rw [List.append_nil]
    · have hback : documents back = [] :=
        documents_eq_nil_iff.mpr ((isVoid_cons_of_isSeparator hm).mp h.void_after)
      rw [documents_append hm, hback, List.append_nil]
  obtain rfl | ⟨front, mark, rfl, hm⟩ := h.opened
  · rw [List.nil_append, hbelow, hbody]
  · have hfront : documents front = [] :=
      documents_eq_nil_iff.mpr (isVoid_append.mp h.void_before).1
    rw [List.append_assoc, List.append_assoc, List.singleton_append, documents_append hm, hfront,
      hbelow, hbody]
    rfl

/-- Lines hold one document exactly if it is surrounded by separators and idle lines: it is all of
them, or it stands above the first separator, or below it. -/
theorem documents_eq_singleton_iff :
    documents ls = [document] ↔
      ∃ before body after, ls = before ++ body ++ after ∧ Surrounds before body after ∧
        document = String.ofList (Text.unlines body) := by
  constructor
  · intro h
    induction ls using sections_induction with
    | undivided ls hs =>
      rw [documents_of_no_separator hs, Option.toList_eq_singleton_iff,
        sectionDocument?_eq_some_iff] at h
      exact ⟨[], ls, [], by simp, ⟨.inl rfl, .inl rfl, isVoid_nil, isVoid_nil, hs, h.1⟩,
        h.2⟩
    | divided front mark rest hs hm ih =>
      rw [documents_append hm, documents_of_no_separator hs] at h
      cases hd : sectionDocument? front with
      | none =>
        rw [hd] at h
        obtain ⟨before, body, after, rfl, hsur, rfl⟩ := ih h
        refine ⟨front ++ mark :: before, body, after, by simp, ?_, rfl⟩
        have hfront : IsVoid front := fun line hl =>
          .inr (sectionDocument?_eq_none_iff.mp hd line hl)
        refine ⟨.inr ?_, hsur.closed, isVoid_append.mpr ⟨hfront, ?_⟩, hsur.void_after,
          hsur.undivided, hsur.written⟩
        · obtain rfl | ⟨upper, last, rfl, hl⟩ := hsur.opened
          · exact ⟨front, mark, rfl, hm⟩
          · exact ⟨front ++ mark :: upper, last, by simp, hl⟩
        · exact (isVoid_cons_of_isSeparator hm).mpr hsur.void_before
      | some first =>
        rw [hd] at h
        obtain ⟨rfl, hrest⟩ := List.cons_eq_cons.mp h
        obtain ⟨hwritten, rfl⟩ := sectionDocument?_eq_some_iff.mp hd
        refine ⟨[], front, mark :: rest, rfl, ?_, rfl⟩
        exact ⟨.inl rfl, .inr ⟨mark, rest, rfl, hm⟩, isVoid_nil,
          (isVoid_cons_of_isSeparator hm).mpr (documents_eq_nil_iff.mp hrest), hs, hwritten⟩
  · rintro ⟨before, body, after, rfl, hs, rfl⟩
    exact documents_of_surrounds hs

/-! ### Streams -/

/-- A stream holds no document exactly if all its lines are void. -/
theorem splitDocuments_eq_nil_iff {t : String} :
    splitDocuments t = [] ↔ IsVoid (Text.lines t.toList) :=
  documents_eq_nil_iff

/-- A stream holds one document exactly if the other lines surround it. -/
theorem splitDocuments_eq_singleton_iff {t : String} :
    splitDocuments t = [document] ↔
      ∃ before body after, Text.lines t.toList = before ++ body ++ after ∧
        Surrounds before body after ∧ document = String.ofList (Text.unlines body) :=
  documents_eq_singleton_iff

end Yaml

end CrdSynthesis
