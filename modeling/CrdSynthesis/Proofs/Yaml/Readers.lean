import CrdSynthesis.Yaml.Token

/-!
# What readers leave

A reader takes characters from the front of a text and leaves the rest. So whatever it
leaves is a suffix of the text, and a scan that reads token after token comes to an end.

## Main definitions

* `Yaml.Leaves`: a reader leaves a suffix of a text

## Main results

* `Yaml.Lexer.leaves_step?`: a token
* `Yaml.Lexer.finish?_eq_of_length_lt`: the fuel of a scan makes no difference
-/

namespace CrdSynthesis.Yaml

variable {α β : Type} {gs hs : List Glyph}

/-- A reader of `gs` leaves a suffix of it, if it reads anything; `rest` is the part of the
result that is left. -/
def Leaves (gs : List Glyph) (rest : α → List Glyph) (read : Option α) : Prop :=
  ∀ result, read = some result → rest result <:+ gs

namespace Leaves

variable {rest : α → List Glyph} {rest' : β → List Glyph} {read : Option α}

theorem of_none : Leaves gs rest none := by
  rintro result ⟨⟩

theorem of_some {result : α} (h : rest result <:+ gs) : Leaves gs rest (some result) := by
  rintro _ ⟨⟩
  exact h

/-- What is left of a part is left of the whole. -/
theorem trans (h : Leaves gs rest read) (hs' : gs <:+ hs) : Leaves hs rest read :=
  fun result hr => (h result hr).trans hs'

/-- A character in front may be taken first. -/
theorem cons (h : Leaves gs rest read) (g : Glyph) : Leaves (g :: gs) rest read :=
  h.trans (List.suffix_cons g gs)

/-- A reader that goes on from what another one left. -/
theorem bind {next : α → Option β} (h : Leaves gs rest read)
    (hn : ∀ result, rest result <:+ gs → Leaves (rest result) rest' (next result)) :
    Leaves gs rest' (read.bind next) := by
  intro result hr
  obtain ⟨first, hf, hl⟩ := Option.bind_eq_some_iff.mp hr
  exact (hn first (h first hf) result hl).trans (h first hf)

/-- A step before a reader that reads nothing. -/
theorem bind_left {σ : Type} {step : Option σ} {next : σ → Option α}
    (h : ∀ s, Leaves gs rest (next s)) : Leaves gs rest (step.bind next) := by
  intro result hr
  obtain ⟨s, -, hn⟩ := Option.bind_eq_some_iff.mp hr
  exact h s result hn

/-- A result that is changed leaves the same. -/
theorem map {f : α → β} (h : Leaves gs rest read) (hf : ∀ a, rest' (f a) = rest a) :
    Leaves gs rest' (read.map f) := by
  intro result hr
  obtain ⟨first, hr', rfl⟩ := Option.map_eq_some_iff.mp hr
  rw [hf]
  exact h first hr'

end Leaves

/-! ## Characters in front -/

theorem run_suffix (p : Char → Bool) (gs : List Glyph) : (run p gs).2 <:+ gs :=
  List.dropWhile_suffix _

theorem skipBlanks_suffix (gs : List Glyph) : skipBlanks gs <:+ gs := List.dropWhile_suffix _

/-- Blanks, a comment and a break are taken up to the end of a line. -/
theorem leaves_endLine? (gs : List Glyph) : Leaves gs id (endLine? gs) := by
  have hend : ∀ hs, hs <:+ gs →
      Leaves gs id (if breakAhead hs then some (hs.drop 1) else none) := by
    intro hs h
    split
    · exact .of_some ((List.drop_suffix 1 hs).trans h)
    · exact .of_none
  rw [endLine?]
  apply hend
  split
  · exact (List.dropWhile_suffix _).trans (skipBlanks_suffix gs)
  · exact skipBlanks_suffix gs

/-! ## Tags and directives -/

/-- Each character of a URI is taken, and three at once where it is escaped. -/
theorem leaves_uriFrom? (delimited : Bool) (due : Nat) (gs : List Glyph) :
    Leaves gs (·.2) (uriFrom? delimited due gs) := by
  fun_induction uriFrom? delimited due gs with
  | case1 due => exact .of_some (List.suffix_refl _)
  | case2 due => exact .of_none
  | case3 due _ _ _ a b gs ih =>
    refine .bind_left fun octet => .bind_left fun due' => .cons (.cons (.cons ?_ b) a) _
    exact .bind (ih due') fun _ _ => .of_some (List.suffix_refl _)
  | case4 => exact .of_none
  | case5 due g gs _ _ _ ih =>
    refine .cons ?_ g
    exact .map ih fun _ => rfl
  | case6 => exact .of_some (List.suffix_refl _)

theorem leaves_uri? (delimited : Bool) (gs : List Glyph) :
    Leaves gs (·.2) (uri? delimited gs) :=
  (leaves_uriFrom? delimited 0 gs).map fun _ => rfl

theorem leaves_someUri? (delimited : Bool) (gs : List Glyph) :
    Leaves gs (·.2) (someUri? delimited gs) := by
  rw [someUri?]
  split
  · exact leaves_uri? delimited gs
  · exact .of_none

theorem handleWord_suffix (gs : List Glyph) : (handleWord gs).2.2 <:+ gs := by
  simp only [handleWord]
  split
  · exact (List.drop_suffix 1 _).trans (run_suffix _ gs)
  · exact run_suffix _ gs

/-- A handle is taken between its exclamation marks. -/
theorem leaves_handle? (gs : List Glyph) : Leaves gs (·.2) (handle? gs) := by
  cases gs with
  | nil => exact .of_none
  | cons g gs =>
    have hw := handleWord_suffix gs
    rw [handle?]
    split
    · exact .of_none
    · refine .cons ?_ g
      split
      next h =>
        rw [h] at hw
        exact .of_some hw
      next h =>
        rw [h] at hw
        exact .of_some hw
      next => exact .of_none

/-- A tag is written in full, with a named handle, or with the primary one, whose suffix starts
with the word. -/
theorem leaves_tagParts? (gs : List Glyph) : Leaves gs (·.2) (tagParts? gs) := by
  have hw := handleWord_suffix gs
  fun_cases tagParts? gs with
  | case1 =>
    refine .cons (.bind (leaves_someUri? true _) ?_) _
    rintro ⟨uri, rest⟩ -
    dsimp only
    split
    · exact .of_some (List.drop_suffix 1 rest)
    · exact .of_none
  | case2 =>
    rename_i h
    rw [h] at hw
    refine .trans ?_ hw
    exact .bind (leaves_someUri? false _) fun _ _ => .of_some (List.suffix_refl _)
  | case3 =>
    rename_i h
    rw [h] at hw
    refine .trans (.bind (leaves_uri? false _) ?_) hw
    rintro ⟨suffix, rest⟩ -
    dsimp only
    split <;> exact .of_some (List.suffix_refl _)

theorem leaves_tag? (flow : Bool) (gs : List Glyph) : Leaves gs (·.2) (tag? flow gs) := by
  refine .bind (leaves_tagParts? gs) ?_
  rintro ⟨tag, rest⟩ -
  dsimp only
  split
  · exact .of_some (List.suffix_refl _)
  · exact .of_none

theorem leaves_shortNumber? (gs : List Glyph) : Leaves gs (·.2) (shortNumber? gs) := by
  rw [shortNumber?]
  dsimp only
  split
  · exact .of_none
  · intro result hr
    obtain ⟨n, -, rfl⟩ := Option.map_eq_some_iff.mp hr
    exact run_suffix _ gs

theorem leaves_versionNumber? (gs : List Glyph) : Leaves gs (·.2) (versionNumber? gs) := by
  refine .trans (.bind (leaves_shortNumber? _) ?_) (skipBlanks_suffix gs)
  rintro ⟨major, rest⟩ -
  dsimp only
  split
  · refine .trans ?_ (List.drop_suffix 1 rest)
    exact .bind (leaves_shortNumber? _) fun minor _ => .of_some (List.suffix_refl _)
  · exact .of_none

theorem leaves_handleExpansion? (gs : List Glyph) : Leaves gs (·.2) (handleExpansion? gs) := by
  refine .trans (.bind (leaves_handle? _) ?_) (skipBlanks_suffix gs)
  rintro ⟨name, rest⟩ -
  dsimp only
  split
  · refine .trans (.bind (leaves_someUri? true _) ?_) (skipBlanks_suffix rest)
    rintro ⟨expansion, rest⟩ -
    dsimp only
    split
    · exact .of_some (List.suffix_refl _)
    · exact .of_none
  · exact .of_none

theorem leaves_directive? (gs : List Glyph) : Leaves gs (·.2) (directive? gs) := by
  have hline : ∀ (read : Option (Token × List Glyph)) (hs : List Glyph), Leaves hs (·.2) read →
      Leaves hs (·.2) (read.bind fun p => (endLine? p.2).bind fun rest => some (p.1, rest)) := by
    intro read hs h
    refine .bind h fun p _ => ?_
    exact .bind (leaves_endLine? p.2) fun rest _ => .of_some (List.suffix_refl _)
  rw [directive?]
  dsimp only
  split
  · exact .of_none
  · refine .trans ?_ (run_suffix isWordChar gs)
    split
    · exact hline _ _ (leaves_versionNumber? _)
    · split
      · exact hline _ _ (leaves_handleExpansion? _)
      · exact hline _ _ .of_none

/-! ## Scalars -/

/-- A plain scalar ends before what cannot belong to it. -/
theorem leaves_plainFrom? (flow : Bool) (margin : Nat) (gap : Gap) (gs : List Glyph) :
    Leaves gs (·.rest) (plainFrom? flow margin gap gs) := by
  fun_induction plainFrom? flow margin gap gs with
  | case1 => exact .of_some (List.suffix_refl _)
  | case2 => exact .of_none
  | case3 gap g gs _ _ ih => exact ih.cons g
  | case4 gap g gs _ _ ih => exact ih.cons g
  | case5 => exact .of_some (List.suffix_refl _)
  | case6 => exact .of_none
  | case7 => exact .of_some (List.suffix_refl _)
  | case8 gap g gs _ _ _ _ _ ih =>
    refine .cons ?_ g
    exact .map ih fun _ => rfl

/-- A single-quoted scalar is taken with its end, and a quote that is written twice with both. -/
theorem leaves_singleQuotedFrom? (gap : Gap) (gs : List Glyph) :
    Leaves gs (·.2) (singleQuotedFrom? gap gs) := by
  fun_induction singleQuotedFrom? gap gs with
  | case1 => exact .of_none
  | case2 gap g gs _ ih => exact ih.cons g
  | case3 gap g gs _ _ ih => exact ih.cons g
  | case4 => exact .of_none
  | case5 gap g => exact .of_some (List.suffix_cons g [])
  | case6 gap g _ _ _ q rest _ _ ih =>
    refine .cons (.cons ?_ q) g
    exact .map ih fun _ => rfl
  | case7 gap g _ _ _ q rest => exact .of_some (List.suffix_cons g (q :: rest))
  | case8 gap g gs _ _ _ _ ih =>
    refine .cons ?_ g
    exact .map ih fun _ => rfl

/-- A double-quoted scalar is taken with its end and all its escapes. -/
theorem leaves_doubleQuotedFrom? (place : QuotedPlace) (gs : List Glyph) :
    Leaves gs (·.2) (doubleQuotedFrom? place gs) := by
  fun_induction doubleQuotedFrom? place gs with
  | case1 | case4 | case11 | case12 | case14 => exact .of_none
  | case2 gap g gs _ ih => exact ih.cons g
  | case3 gap g gs _ _ ih => exact ih.cons g
  | case5 gap g gs => exact .of_some (List.suffix_cons g gs)
  | case6 gap g gs _ _ _ _ _ ih =>
    refine .cons ?_ g
    exact .map ih fun _ => rfl
  | case7 gap g gs _ _ _ _ _ ih =>
    refine .cons ?_ g
    exact .map ih fun _ => rfl
  | case8 g gs _ ih => exact ih.cons g
  | case9 g gs _ c _ ih =>
    refine .cons ?_ g
    exact .map ih fun _ => rfl
  | case10 g gs _ length _ _ ih => exact ih.cons g
  | case13 left value g gs digit _ _ _ ih => exact ih.cons g
  | case15 left value g gs digit _ _ _ c _ ih =>
    refine .cons ?_ g
    exact .map ih fun _ => rfl

theorem leaves_chomping? (gs : List Glyph) : Leaves gs (·.2) (chomping? gs) := by
  fun_cases chomping? gs with
  | case1 => exact .of_none
  | case2 g gs => exact .of_some (List.suffix_cons g gs)
  | case3 g gs => exact .of_some (List.suffix_cons g gs)
  | case4 => exact .of_none

theorem leaves_indentationDigit? (gs : List Glyph) :
    Leaves gs (·.2) (indentationDigit? gs) := by
  fun_cases indentationDigit? gs with
  | case1 => exact .of_none
  | case2 g gs => exact .of_some (List.suffix_cons g gs)
  | case3 => exact .of_none

/-- Each of the three parts of a header may be missing. -/
theorem leaves_blockHeader? (gs : List Glyph) : Leaves gs (·.2) (blockHeader? gs) := by
  fun_cases blockHeader? gs with
  | case1 => exact .of_none
  | case2 first gs₁ h₁ indentation gs₂ h₂ second gs₃ h₃ =>
    have hfirst : gs₁ <:+ gs := by
      split at h₁
      next h =>
        obtain ⟨-, rfl⟩ := Prod.mk.inj h₁
        exact leaves_chomping? gs _ h
      next => exact (Prod.mk.inj h₁).2 ▸ List.suffix_refl gs
    have hdigit : gs₂ <:+ gs₁ := by
      split at h₂
      next h =>
        obtain ⟨-, rfl⟩ := Prod.mk.inj h₂
        exact leaves_indentationDigit? gs₁ _ h
      next => exact (Prod.mk.inj h₂).2 ▸ List.suffix_refl gs₁
    have hsecond : gs₃ <:+ gs₂ := by
      split at h₃
      next h _ =>
        obtain ⟨-, rfl⟩ := Prod.mk.inj h₃
        exact leaves_chomping? gs₂ _ h
      next => exact (Prod.mk.inj h₃).2 ▸ List.suffix_refl gs₂
    exact .of_some (hsecond.trans (hdigit.trans hfirst))

/-- Lines without text are taken with their breaks. -/
theorem leaves_emptyLines? (indentation : Option Nat) (reached : Nat) (gs : List Glyph) :
    Leaves gs (·.2.2) (emptyLines? indentation reached gs) := by
  fun_induction emptyLines? indentation reached gs with
  | case1 => exact .of_some (List.suffix_refl _)
  | case2 _ g _ _ _ ih => exact ih.cons g
  | case3 => exact .of_none
  | case4 _ g _ _ _ _ _ _ ih =>
    refine .cons ?_ g
    exact .map ih fun _ => rfl
  | case5 => exact .of_some (List.suffix_refl _)

/-- Each line of a block scalar is taken with its break and the empty lines below it. -/
theorem leaves_blockLines? (literal : Bool) (column fuel : Nat) (before : BlockText)
    (gs : List Glyph) : Leaves gs (·.2) (blockLines? literal column fuel before gs) := by
  induction fuel generalizing before gs with
  | zero => exact .of_some (List.suffix_refl _)
  | succ fuel ih =>
    rw [blockLines?.eq_def]
    dsimp only
    split
    · exact .of_some (List.suffix_refl _)
    · split
      · exact .of_some (List.suffix_refl _)
      · split
        · exact .of_none
        next h =>
          have hrest := leaves_emptyLines? _ _ _ _ h
          refine .trans (ih _ _) ?_
          exact hrest.trans ((List.drop_suffix 1 _).trans (run_suffix _ _))

theorem leaves_blockScalar? (literal : Bool) (parent : Option Nat) (gs : List Glyph) :
    Leaves gs (·.2) (blockScalar? literal parent gs) := by
  refine .bind (leaves_blockHeader? gs) ?_
  rintro ⟨header, gs⟩ -
  refine .bind (leaves_endLine? gs) fun gs _ => ?_
  refine .bind (leaves_emptyLines? _ _ gs) ?_
  rintro ⟨breaks, reached, gs⟩ -
  exact .bind (leaves_blockLines? _ _ _ _ gs) fun block _ => .of_some (List.suffix_refl _)

/-! ## Tokens -/

namespace Lexer

theorem leaves_nodeName? (gs : List Glyph) : Leaves gs (·.2) (nodeName? gs) := by
  rw [nodeName?]
  dsimp only
  split
  · exact .of_none
  · split
    · exact .of_some (run_suffix _ gs)
    · exact .of_none

/-- A scalar that may start with a character takes it: none of the places where a scalar ends
is there. -/
theorem leaves_plainFrom?_cons {flow : Bool} {margin : Nat} {g : Glyph}
    (hs : startsPlain flow g gs = true) (hm : documentMark? (g :: gs) = none) :
    Leaves gs (·.rest) (plainFrom? flow margin .none (g :: gs)) := by
  have hcolon : (g.char == ':' && blankAhead gs) = false := by
    by_cases hc : g.char = ':'
    · simp_all [startsPlain]
    · simp [hc]
  have hflow : flowIndicators.contains g.char = false := by
    cases hc : flowIndicators.contains g.char with
    | false => rfl
    | true =>
      simp only [flowIndicators, List.contains_iff_mem, List.mem_cons, List.not_mem_nil,
        or_false] at hc
      rcases hc with h | h | h | h | h <;> simp [startsPlain, indicators, h] at hs
  rw [plainFrom?, hcolon, hflow, hm]
  simp only [Gap.hasBreak, Gap.isNone, Bool.not_true, Bool.false_and, Bool.and_false,
    Option.isSome_none, Bool.or_self, Bool.false_eq_true, if_false]
  split
  · exact leaves_plainFrom? _ _ _ gs
  · split
    · exact leaves_plainFrom? _ _ _ gs
    · split
      · exact .of_none
      · exact .map (leaves_plainFrom? _ _ _ gs) fun _ => rfl

/-- Noting a key opens and closes no bracket. -/
theorem inFlow_of_saveKey? {g : Glyph} {lexer lexer' : Lexer}
    (h : lexer.saveKey? g = some lexer') : lexer'.inFlow = lexer.inFlow := by
  simp only [saveKey?, dropKey?] at h
  split at h
  · obtain ⟨dropped, hd, ⟨⟩⟩ := Option.bind_eq_some_iff.mp h
    split at hd
    · cases hd
    · obtain ⟨⟩ := hd
      rfl
  · obtain ⟨⟩ := h
    rfl

theorem leaves_plain? {g : Glyph} {lexer : Lexer}
    (hs : startsPlain lexer.inFlow g gs = true) (hm : documentMark? (g :: gs) = none) :
    Leaves gs (·.2) (lexer.plain? g gs) := by
  intro result hr
  obtain ⟨lexer', hl, hr⟩ := Option.bind_eq_some_iff.mp hr
  obtain ⟨scalar, hp, ⟨⟩⟩ := Option.bind_eq_some_iff.mp hr
  obtain ⟨saved, hsave, rfl⟩ := Option.map_eq_some_iff.mp hl
  rw [← inFlow_of_saveKey? hsave] at hs
  exact leaves_plainFrom?_cons hs hm scalar hp

theorem leaves_scalar? (g : Glyph) (lexer : Lexer) {scalar : Option (List Char × List Glyph)}
    (h : Leaves gs (·.2) scalar) : Leaves gs (·.2) (lexer.scalar? g scalar) :=
  .bind_left fun _ => .bind h fun _ _ => .of_some (List.suffix_refl _)

theorem leaves_literal? (folded : Bool) (lexer : Lexer) :
    Leaves gs (·.2) (lexer.literal? folded gs) :=
  .bind_left fun _ => .bind (leaves_blockScalar? _ _ gs) fun _ _ => .of_some (List.suffix_refl _)

/-- Reading a token of any kind takes its first character. -/
theorem leaves_step? (g : Glyph) (gs : List Glyph) (lexer : Lexer) :
    Leaves gs (·.2) (lexer.step? g gs) := by
  fun_cases step? g gs lexer with
  | case1 =>
    refine .bind (leaves_directive? gs) ?_
    rintro ⟨token, rest⟩ -
    exact .bind_left fun _ => .of_some (List.suffix_refl _)
  | case2 =>
    exact .bind_left fun _ => .of_some (List.drop_suffix 2 gs)
  | case3 | case4 | case5 | case6 | case7 | case13 | case14 | case15 =>
    exact .bind_left fun _ => .of_some (List.suffix_refl _)
  | case8 =>
    refine .bind (leaves_nodeName? gs) ?_
    rintro ⟨name, rest⟩ -
    exact .bind_left fun _ => .bind_left fun _ => .of_some (List.suffix_refl _)
  | case9 =>
    refine .bind (leaves_nodeName? gs) ?_
    rintro ⟨name, rest⟩ -
    exact .bind_left fun _ => .of_some (List.suffix_refl _)
  | case10 =>
    refine .bind (leaves_tag? lexer.inFlow gs) ?_
    rintro ⟨⟨handle, suffix⟩, rest⟩ -
    exact .bind_left fun _ => .of_some (List.suffix_refl _)
  | case11 =>
    exact leaves_scalar? g lexer (leaves_singleQuotedFrom? .none gs)
  | case12 => exact leaves_scalar? g lexer (leaves_doubleQuotedFrom? (.text .none) gs)
  | case16 => exact leaves_literal? _ lexer
  | case17 =>
    exact leaves_plain? ‹startsPlain lexer.inFlow g gs = true› ‹documentMark? (g :: gs) = none›
  | case18 => exact .of_none

/-- What stands between two tokens is taken. -/
theorem skipBetween_suffix (flow comment keyAllowed : Bool) (gs : List Glyph) :
    (skipBetween flow comment keyAllowed gs).2 <:+ gs := by
  fun_induction skipBetween flow comment keyAllowed gs with
  | case1 => exact List.suffix_refl _
  | case2 _ _ g gs _ ih => exact ih.trans (List.suffix_cons g gs)
  | case3 _ _ g gs _ _ ih => exact ih.trans (List.suffix_cons g gs)
  | case4 _ _ g gs _ _ _ ih => exact ih.trans (List.suffix_cons g gs)
  | case5 => exact List.suffix_refl _

/-- A scan that may take more tokens than the text has characters finds all of them. -/
theorem finish?_eq_of_length_lt {n m : Nat} (lexer : Lexer) (gs : List Glyph)
    (hn : gs.length < n) (hm : gs.length < m) : finish? n lexer gs = finish? m lexer gs := by
  -- a token takes a character, so the rest of the text stays shorter than the fuel
  induction n generalizing m lexer gs with
  | zero => exact absurd hn (Nat.not_lt_zero _)
  | succ n ih =>
    obtain ⟨m, rfl⟩ : ∃ k, m = k + 1 := ⟨m - 1, by omega⟩
    have hskip := (skipBetween_suffix lexer.inFlow false lexer.keyAllowed gs).length_le
    rw [finish?, finish?]
    rcases hs : skipBetween lexer.inFlow false lexer.keyAllowed gs with ⟨keyAllowed, rest⟩
    rw [hs] at hskip
    cases rest with
    | nil => rfl
    | cons g rest =>
      refine Option.bind_congr fun expired _ => Option.bind_congr fun result hr => ?_
      have hrest : result.2.length ≤ rest.length := (leaves_step? _ _ _ _ hr).length_le
      have hskip : rest.length + 1 ≤ gs.length := hskip
      exact ih _ _ (by omega) (by omega)

end Lexer

end CrdSynthesis.Yaml
