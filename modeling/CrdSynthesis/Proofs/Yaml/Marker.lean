import CrdSynthesis.Proofs.Yaml.Preceding
import CrdSynthesis.Proofs.Yaml.Sections

/-!
# A marker before a document

A document may stand after a line that marks its start. Where nothing but comments stands
above the marker and beside it, the text has the value of the lines below it. The lines of a
text, each ended by a line feed, have the characters and places of the text itself, as long as
the text has ended its last line and no line keeps a carriage return at its end.

## Main definitions

* `Yaml.isQuiet`, `Yaml.isBareMarker`: lines that add nothing to the document

## Main results

* `Yaml.place_unlines_lines`: a text and its lines
* `Yaml.tokens?_marker`: the tokens of a text with a marker
* `Yaml.read?_marker`: its value
-/

namespace CrdSynthesis.Yaml

/-! ## Placed lines -/

variable {c : Char} {cs : List Char} {column offset : Nat}

/-- A character is placed by itself, unless it is the first of two that end a line together. -/
theorem place_cons (h : c = '\r' → cs.head? ≠ some '\n') :
    place column offset (c :: cs) =
      if isBreak c then breakLine c column offset (place 0 0 cs)
      else
        ⟨c, linesLeft (place (column + 1) (offset + c.utf8Size) cs), column, offset⟩ ::
          place (column + 1) (offset + c.utf8Size) cs := by
  rw [place]
  rintro ds rfl rfl
  exact h rfl rfl

/-- After a line feed the places start again. -/
theorem place_line_feed :
    place column offset ('\n' :: cs) = breakLine '\n' column offset (place 0 0 cs) := by
  rw [place_cons fun h => absurd h (by decide)]
  rfl

/-- A character within a line. -/
theorem place_of_not_isBreak (h : isBreak c = false) :
    place column offset (c :: cs) =
      ⟨c, linesLeft (place (column + 1) (offset + c.utf8Size) cs), column, offset⟩ ::
        place (column + 1) (offset + c.utf8Size) cs := by
  rw [place_cons, if_neg (by simp [h])]
  rintro rfl
  exact absurd h (by decide)

/-- A line that is not empty starts as the text does. -/
theorem head?_of_lines {line : List Char} {rest : List (List Char)}
    (h : Text.lines cs = (c :: line) :: rest) : cs.head? = some c := by
  revert h
  fun_cases Text.lines cs with
  | case1 | case2 | case3 =>
    intro h
    cases h
  | case4 d ds hn hr =>
    intro h
    cases hds : Text.lines ds <;> rw [hds] at h <;> cases h <;> rfl

/-- The lines of a text have the places of the text, if it has ended its last line and no carriage
return stands alone at the end of one. -/
theorem place_unlines_lines (hend : cs = [] ∨ cs.getLast? = some '\n')
    (hret : ∀ line ∈ Text.lines cs, line.getLast? ≠ some '\r') (column offset : Nat) :
    place column offset (Text.unlines (Text.lines cs)) = place column offset cs := by
  induction cs using Text.lines.induct generalizing column offset with
  | case1 => rfl
  | case2 cs ih =>
    rw [Text.lines, List.forall_mem_cons] at hret
    rw [Text.lines, Text.unlines_cons, List.nil_append, place_line_feed, place_line_feed,
      ih (Text.ended_of_cons hend) hret.2]
  | case3 cs ih =>
    rw [Text.lines, List.forall_mem_cons] at hret
    rw [Text.lines, Text.unlines_cons, List.nil_append, place_line_feed, place,
      ih (Text.ended_of_cons (Text.ended_of_cons hend)) hret.2]
  | case4 c cs hn hr ih =>
    have hhead := Text.head?_ne_line_feed hr
    rw [Text.lines_cons_of_ne (fun h => hn h) hhead] at hret ⊢
    cases hl : Text.lines cs with
    | nil =>
      obtain rfl := Text.lines_eq_nil_iff.mp hl
      obtain h | h := hend
      · cases h
      · exact absurd (Option.some.inj h) hn
    | cons line rest =>
      rw [hl, Text.prepend, List.forall_mem_cons] at hret
      have hlines : ∀ l ∈ Text.lines cs, l.getLast? ≠ some '\r' := by
        rw [hl, List.forall_mem_cons]
        refine ⟨fun h => hret.1 ?_, hret.2⟩
        rw [List.getLast?_cons, h]
        rfl
      have hfed : c = '\r' → (Text.unlines (line :: rest)).head? ≠ some '\n' := by
        rintro rfl
        cases line with
        | nil => exact absurd rfl hret.1
        | cons d line =>
          have hd := head?_of_lines hl
          rw [Text.unlines_cons, List.cons_append, List.head?_cons, ← hd]
          exact hhead rfl
      have hih := ih (Text.ended_of_cons hend) hlines
      rw [hl] at hih
      rw [Text.prepend, Text.unlines_cons, List.cons_append, ← Text.unlines_cons,
        place_cons hfed, place_cons hhead, hih, hih]

/-- A text may stand in a stream if its lines may. -/
theorem all_isAllowed_unlines_lines (cs : List Char) :
    (Text.unlines (Text.lines cs)).all isAllowed = cs.all isAllowed := by
  have hfeed : isAllowed '\n' = true := by decide
  have hreturn : isAllowed '\r' = true := by decide
  induction cs using Text.lines.induct with
  | case1 => rfl
  | case2 cs ih =>
    rw [Text.lines, Text.unlines_cons, List.nil_append, List.all_cons, List.all_cons, ih]
  | case3 cs ih =>
    rw [Text.lines, Text.unlines_cons, List.nil_append, List.all_cons, List.all_cons,
      List.all_cons, ih, hfeed, hreturn, Bool.true_and, Bool.true_and]
  | case4 c cs hn hr ih =>
    rw [Text.lines_cons_of_ne (fun h => hn h) (Text.head?_ne_line_feed hr), List.all_cons, ← ih]
    cases Text.lines cs with
    | nil => simp [Text.prepend, hfeed]
    | cons line rest => simp [Text.prepend]

/-- A text and its lines are read alike. -/
theorem glyphs?_unlines_lines {t : String} (hend : ∃ p, t = p ++ "\n")
    (hret : ∀ line ∈ Text.lines t.toList, line.getLast? ≠ some '\r') :
    glyphs? (String.ofList (Text.unlines (Text.lines t.toList))) = glyphs? t := by
  have hlast : t.toList.getLast? = some '\n' := by
    obtain ⟨p, rfl⟩ := hend
    simp [String.toList_append]
  rw [glyphs?, glyphs?, String.toList_ofList, all_isAllowed_unlines_lines,
    place_unlines_lines (.inr hlast) hret]

/-! ## Quiet lines and markers -/

/-- A line holds nothing but spaces, or tabs where no key may start, and perhaps a comment
without any line break. -/
def isQuiet (keyAllowed : Bool) : List Char → Bool
  | [] => true
  | c :: cs =>
    if c == '#' then !cs.any isBreak
    else (c == ' ' || (c == '\t' && !keyAllowed)) && isQuiet keyAllowed cs

/-- A line marks the start of a document that stands below it. -/
def isBareMarker : List Char → Bool
  | '-' :: '-' :: '-' :: tail => tail.head?.all isBlank && isQuiet false tail
  | _ => false

/-- A blank ends no line. -/
theorem isBreak_of_isBlank {c : Char} (h : isBlank c = true) : isBreak c = false := by
  rw [isBlank, Bool.or_eq_true, beq_iff_eq, beq_iff_eq] at h
  rcases h with rfl | rfl <;> decide

/-! ### Skipping lines -/

namespace Lexer

variable {keyAllowed : Bool}

/-- A comment goes up to the end of its line. -/
theorem skipBetween_comment {comment : List Char} (h : comment.any isBreak = false)
    (cs : List Char) :
    skipBetween false true keyAllowed (place column offset (comment ++ '\n' :: cs)) =
      skipBetween false false true (place 0 0 cs) := by
  induction comment generalizing column offset with
  | nil => simp [place_line_feed, breakLine, skipBetween, isBreak]
  | cons c comment ih =>
    rw [List.any_cons, Bool.or_eq_false_iff] at h
    rw [List.cons_append, place_of_not_isBreak h.1]
    simp only [skipBetween, h.1]
    exact ih h.2

/-- A quiet line is skipped, and the next line may start with a key. -/
theorem skipBetween_quiet {line : List Char} (h : isQuiet keyAllowed line = true)
    (cs : List Char) :
    skipBetween false false keyAllowed (place column offset (line ++ '\n' :: cs)) =
      skipBetween false false true (place 0 0 cs) := by
  induction line generalizing column offset with
  | nil => simp [place_line_feed, breakLine, skipBetween, isBreak]
  | cons c line ih =>
    rw [isQuiet] at h
    by_cases hc : (c == '#') = true
    · rw [if_pos hc] at h
      obtain rfl := beq_iff_eq.mp hc
      rw [List.cons_append, place_of_not_isBreak (by decide)]
      exact skipBetween_comment (by simpa using h) cs
    · rw [if_neg hc, Bool.and_eq_true] at h
      have hblank : isBlank c = true := by
        obtain ⟨h, -⟩ := h
        rw [Bool.or_eq_true, Bool.and_eq_true] at h
        rw [isBlank, Bool.or_eq_true]
        exact h.imp_right And.left
      have hbreak := isBreak_of_isBlank hblank
      rw [List.cons_append, place_of_not_isBreak hbreak, skipBetween]
      simp only [hbreak, Bool.false_or, hc, h.1, Bool.true_or]
      exact ih h.2

/-- Quiet lines above a text are skipped. -/
theorem skipBetween_unlines {quiet : List (List Char)}
    (h : ∀ line ∈ quiet, isQuiet true line = true) (cs : List Char) :
    skipBetween false false true (place 0 0 (Text.unlines quiet ++ cs)) =
      skipBetween false false true (place 0 0 cs) := by
  induction quiet with
  | nil => rfl
  | cons line quiet ih =>
    rw [List.forall_mem_cons] at h
    rw [Text.unlines_cons, List.append_assoc, List.cons_append, skipBetween_quiet h.1, ih h.2]

/-! ### The marker -/

/-- What stands beside a marker is kept apart from it. -/
theorem blankAhead_place {tail : List Char} (h : tail.head?.all isBlank = true)
    (cs : List Char) : blankAhead (place column offset (tail ++ '\n' :: cs)) = true := by
  cases tail with
  | nil =>
    rw [List.nil_append, place_line_feed]
    rfl
  | cons c tail =>
    have hc : isBlank c = true := h
    rw [List.cons_append, place_of_not_isBreak (isBreak_of_isBlank hc)]
    simp [blankAhead, hc]

/-- A scan goes on from what is left after skipping. -/
theorem finish?_of_skipBetween {lexer : Lexer} {allowed : Bool} {gs hs : List Glyph} (fuel : Nat)
    (h : skipBetween lexer.inFlow false lexer.keyAllowed gs =
      skipBetween lexer.inFlow false allowed hs) :
    finish? (fuel + 1) lexer gs = finish? (fuel + 1) (lexer.allowKey allowed) hs := by
  have hflow : (lexer.allowKey allowed).inFlow = lexer.inFlow := rfl
  have hallowed : (lexer.allowKey allowed).keyAllowed = allowed := rfl
  rw [finish?, finish?, h, hflow, hallowed]
  rfl

/-- Three dashes at the start of the text are the marker of a document. -/
theorem finish?_dashes {a b c : Glyph} {gs : List Glyph} (ha : a.char = '-') (hb : b.char = '-')
    (hc : c.char = '-') (hcolumn : a.column = 0) (hgs : blankAhead gs = true) (fuel : Nat) :
    finish? (fuel + 1) {} (a :: b :: c :: gs) =
      finish? fuel { tokens := [.documentStart], keyAllowed := false } gs := by
  have hskip : skipBetween false false true (a :: b :: c :: gs) = (true, a :: b :: c :: gs) := by
    simp [skipBetween, ha, isBreak, nextLine, lineSeparator, paragraphSeparator, byteOrderMark]
  have hmark : documentMark? (a :: b :: c :: gs) = some '-' := by
    simp [documentMark?, ha, hb, hc, hcolumn, hgs]
  have hstep : step? a (b :: c :: gs) {} =
      some ({ tokens := [.documentStart], keyAllowed := false }, gs) := by
    simp only [step?, hcolumn, ha, hmark]
    rfl
  rw [finish?]
  simp only [inFlow, List.isEmpty_nil, Bool.not_true, hskip]
  change Option.bind (step? a (b :: c :: gs) {}) _ = _
  rw [hstep]
  rfl

/-- A marker in front is read as one, and what follows on its line is skipped; no key is allowed
there before the line ends. -/
theorem finish?_marker {marker : List Char} (h : isBareMarker marker = true) (cs : List Char)
    (fuel : Nat) :
    finish? (fuel + 2) {} (place 0 0 (marker ++ '\n' :: cs)) =
      finish? (fuel + 1) (({} : Lexer).after [.documentStart]) (place 0 0 cs) := by
  revert h
  fun_cases isBareMarker marker with
  | case2 => exact fun h => absurd h Bool.false_ne_true
  | case1 tail =>
    intro h
    rw [Bool.and_eq_true] at h
    have hdash : isBreak '-' = false := by decide
    rw [List.cons_append, List.cons_append, List.cons_append, place_of_not_isBreak hdash,
      place_of_not_isBreak hdash, place_of_not_isBreak hdash,
      finish?_dashes rfl rfl rfl rfl (blankAhead_place h.1 cs)]
    exact finish?_of_skipBetween fuel (skipBetween_quiet h.2 cs)

end Lexer

/-- The tokens of a text with a marker are the marker and the tokens below it. -/
theorem tokens?_marker {quiet : List (List Char)} {marker : List Char}
    (hq : ∀ line ∈ quiet, isQuiet true line = true) (hm : isBareMarker marker = true)
    (cs : List Char) :
    tokens? (place 0 0 (Text.unlines (quiet ++ [marker]) ++ cs)) =
      (tokens? (place 0 0 cs)).map (.documentStart :: ·) := by
  have hlines : Text.unlines (quiet ++ [marker]) ++ cs =
      Text.unlines quiet ++ (marker ++ '\n' :: cs) := by
    simp
  rw [hlines]
  -- with fuel for both texts, the scan of the whole one is followed down to the body
  generalize hgs : place 0 0 (Text.unlines quiet ++ (marker ++ '\n' :: cs)) = gs
  generalize hhs : place 0 0 cs = hs
  calc tokens? gs = Lexer.finish? (gs.length + hs.length + 2) {} gs :=
        Lexer.finish?_eq_of_length_lt {} gs (by omega) (by omega)
    _ = Lexer.finish? (gs.length + hs.length + 2) {} (place 0 0 (marker ++ '\n' :: cs)) := by
        rw [← hgs]
        exact Lexer.finish?_of_skipBetween _ (Lexer.skipBetween_unlines hq _)
    _ = Lexer.finish? (gs.length + hs.length + 1) (({} : Lexer).after [.documentStart]) hs := by
        rw [Lexer.finish?_marker hm, hhs]
    _ = (Lexer.finish? (gs.length + hs.length + 1) {} hs).map ([.documentStart] ++ ·) :=
        Lexer.finish?_after _ hs
    _ = (tokens? hs).map (.documentStart :: ·) := by
        rw [Lexer.finish?_eq_of_length_lt {} hs (by omega) (Nat.lt_succ_self hs.length)]
        rfl

/-! ### The document -/

/-- A marker makes no difference to a document with content, which is read from the
same tokens. -/
theorem document?_documentStart {token : Token} (h : isOutside token = false)
    (tokens : List Token) :
    document? (.documentStart :: token :: tokens) = document? (token :: tokens) := by
  have hmarked : documentContent? (.documentStart :: token :: tokens) =
      node? (withDefaults []) (2 * (token :: tokens).length + 2) .block (token :: tokens) :=
    if_neg (by simp [h])
  have hplain : documentContent? (token :: tokens) =
      node? (withDefaults []) (2 * (token :: tokens).length + 2) .block (token :: tokens) := by
    cases token <;> first | exact if_neg (Nat.lt_irrefl _) | cases h
  rw [document?, document?, hmarked, hplain]
  · exact List.cons_ne_nil _ _
  · exact List.cons_ne_nil _ _

/-- Below a marker a text without content has no value but `null`. -/
theorem document?_documentStart_absent {tokens : List Token} {node : Option Node}
    (h : tokens.head?.all isOutside = true)
    (hd : document? (.documentStart :: tokens) = some node) : node = some .absent := by
  have hcontent : documentContent? (.documentStart :: tokens) = some (.absent, tokens) := if_pos h
  rw [document?, hcontent] at hd
  · obtain ⟨-, hd⟩ := Option.ite_none_right_eq_some.mp hd
    exact (Option.some.inj hd).symm
  · exact List.cons_ne_nil _ _

/-- A text has a value if its characters are placed, its tokens read, its document parsed and its
node resolved. -/
theorem read?_eq_some_iff {text : String} {value : Json} :
    read? text = some value ↔
      ∃ gs tokens node, glyphs? text = some gs ∧ tokens? gs = some tokens ∧
        document? tokens = some node ∧ node.elim (some .null) valueOf? = some value := by
  constructor
  · intro h
    obtain ⟨gs, hgs, h⟩ := Option.bind_eq_some_iff.mp h
    obtain ⟨tokens, ht, h⟩ := Option.bind_eq_some_iff.mp h
    obtain ⟨node, hn, h⟩ := Option.bind_eq_some_iff.mp h
    refine ⟨gs, tokens, node, hgs, ht, hn, ?_⟩
    cases node <;> exact h
  · rintro ⟨gs, tokens, node, hgs, ht, hn, h⟩
    rw [read?, hgs]
    change Option.bind (tokens? gs) _ = _
    rw [ht]
    change Option.bind (document? tokens) _ = _
    rw [hn]
    cases node <;> exact h

/-- A text with a marker, whose characters are those of `quiet`, the marker and `cs`, has the
value of `cs` unless that is `null`. -/
theorem read?_marker {quiet : List (List Char)} {marker cs : List Char} {text : String}
    {value : Json} (hq : ∀ line ∈ quiet, isQuiet true line = true)
    (hm : isBareMarker marker = true)
    (htext : glyphs? text = some (place 0 0 (Text.unlines (quiet ++ [marker]) ++ cs)))
    (hcs : cs.all isAllowed = true) (hv : value ≠ .null) (h : read? text = some value) :
    read? (String.ofList cs) = some value := by
  obtain ⟨gs, tokens, node, hgs, ht, hn, h⟩ := read?_eq_some_iff.mp h
  obtain rfl := Option.some.inj (htext.symm.trans hgs)
  rw [tokens?_marker hq hm] at ht
  obtain ⟨tokens, htokens, rfl⟩ := Option.map_eq_some_iff.mp ht
  have hdocument : document? tokens = some node := by
    cases hout : tokens.head?.all isOutside with
    | true =>
      rw [document?_documentStart_absent hout hn] at h
      exact absurd (Option.some.inj h).symm hv
    | false =>
      cases tokens with
      | nil => cases hout
      | cons token tokens =>
        rwa [document?_documentStart hout] at hn
  refine read?_eq_some_iff.mpr ⟨_, tokens, node, ?_, htokens, hdocument, h⟩
  rw [glyphs?, String.toList_ofList, if_pos hcs]

end CrdSynthesis.Yaml
