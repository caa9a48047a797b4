import CrdSynthesis.Yaml.Printer

/-!
# Written lines are whole

A stream is divided at line feeds, and a carriage return before one is lost. Neither stands
within a line that is written: numbers are written without them, a style that writes characters
as they are holds no carriage return, a scalar is cut into lines at all its breaks, and double
quotes hold only escapes.

## Main definitions

* `Text.Unbroken`: a text within a line
* `Yaml.Line.Whole`: a line that a stream does not divide
* `Yaml.Style.holds`: what a style can hold

## Main results

* `Text.unbroken_toString_int`, `Double.unbroken_text`: written numbers
* `Yaml.holds_styleOf`: a text is given a style that can hold it
* `Yaml.whole_blockLines`: every line of every value is whole
-/

namespace CrdSynthesis

/-! ## Texts within a line

A text is unbroken if it holds neither a line feed nor a carriage return. Numbers are written
without either.
-/

namespace Text

/-- The text holds neither a line feed nor a carriage return. -/
def Unbroken (cs : List Char) : Prop := '\n' ∉ cs ∧ '\r' ∉ cs

instance (cs : List Char) : Decidable (Unbroken cs) := inferInstanceAs (Decidable (_ ∧ _))

namespace Unbroken

variable {cs ds : List Char}

/-- A text is unbroken if each of its characters is. -/
theorem cons_iff {c : Char} :
    Unbroken (c :: cs) ↔ c ≠ '\n' ∧ c ≠ '\r' ∧ Unbroken cs := by
  simp only [Unbroken, List.mem_cons, not_or, ne_eq, eq_comm (b := c)]
  exact ⟨fun ⟨⟨hn, hn'⟩, hr, hr'⟩ => ⟨hn, hr, hn', hr'⟩,
    fun ⟨hn, hr, hn', hr'⟩ => ⟨⟨hn, hn'⟩, hr, hr'⟩⟩

theorem append (hc : Unbroken cs) (hd : Unbroken ds) : Unbroken (cs ++ ds) := by
  simp only [Unbroken, List.mem_append, not_or]
  exact ⟨⟨hc.1, hd.1⟩, hc.2, hd.2⟩

/-- A part of an unbroken text is unbroken. -/
theorem of_subset (h : Unbroken ds) (hs : ∀ c ∈ cs, c ∈ ds) : Unbroken cs :=
  ⟨fun hm => h.1 (hs _ hm), fun hm => h.2 (hs _ hm)⟩

/-- A text is unbroken if all its characters have a property that no break has. -/
theorem of_forall {p : Char → Bool} (h : ∀ c ∈ cs, p c = true) (hf : p '\n' = false)
    (hr : p '\r' = false) : Unbroken cs :=
  ⟨fun hm => Bool.false_ne_true (hf.symm.trans (h _ hm)),
    fun hm => Bool.false_ne_true (hr.symm.trans (h _ hm))⟩

end Unbroken

theorem unbroken_toDigits (n : Nat) : Unbroken (Nat.toDigits 10 n) :=
  .of_forall (fun _ hc => Nat.isDigit_of_mem_toDigits (by omega) (by omega) hc) rfl rfl

theorem unbroken_replicate_zero (n : Nat) : Unbroken (List.replicate n '0') := by
  refine .of_forall (p := (· == '0')) (fun c hc => ?_) rfl rfl
  simp [List.eq_of_mem_replicate hc]

theorem unbroken_toString_nat (n : Nat) : Unbroken (toString n).toList := by
  rw [Nat.toString_eq_ofList_toDigits, String.toList_ofList]
  exact unbroken_toDigits n

theorem unbroken_toString_int (n : Int) : Unbroken (toString n).toList := by
  cases n with
  | ofNat n => exact unbroken_toString_nat n
  | negSucc n =>
    change Unbroken ("-" ++ toString (n + 1)).toList
    rw [String.toList_append]
    exact Unbroken.append (by decide) (unbroken_toString_nat _)

end Text

namespace Double

open Text

theorem unbroken_zeros (n : Nat) : Unbroken (zeros n).toList := by
  rw [zeros, String.toList_ofList]
  exact unbroken_replicate_zero n

/-- A number is written within a line: with zeros behind its digits, with a point among them, with
zeros before them, or with an exponent. -/
theorem unbroken_magnitudeText {format : Format} (hf : Unbroken format.positiveExponent.toList)
    (d : Digits) : Unbroken (magnitudeText format d).toList := by
  have hdigits := unbroken_toDigits d.digits
  have hall : Unbroken (String.ofList (Nat.toDigits 10 d.digits)).toList := by
    rw [String.toList_ofList]
    exact hdigits
  have htake : ∀ n, Unbroken (String.ofList ((Nat.toDigits 10 d.digits).take n)).toList := by
    intro n
    rw [String.toList_ofList]
    exact hdigits.of_subset fun c hc => List.mem_of_mem_take hc
  have hdrop : ∀ n, Unbroken (String.ofList ((Nat.toDigits 10 d.digits).drop n)).toList := by
    intro n
    rw [String.toList_ofList]
    exact hdigits.of_subset fun c hc => List.mem_of_mem_drop hc
  unfold magnitudeText
  dsimp only
  split
  · simp only [String.toList_append]
    exact .append (.append hall (unbroken_zeros _)) (by decide)
  split
  · simp only [String.toList_append]
    exact .append (.append (htake _) (by decide)) (hdrop _)
  split
  · simp only [String.toList_append]
    exact .append (.append (by decide) (unbroken_zeros _)) hall
  · simp only [String.toList_append]
    refine .append (.append (.append (htake 1) ?_) ?_) (unbroken_toString_nat _)
    · split
      · decide
      · rw [String.toList_append]
        exact .append (by decide) (hdrop 1)
    · split
      · exact hf
      · decide

theorem unbroken_text {format : Format} (hf : Unbroken format.positiveExponent.toList)
    (x : Double) : Unbroken (x.text format).toList := by
  have hmagnitude :
      Unbroken (if x.isZero then "0.0" else magnitudeText format x.shortest).toList := by
    split
    · decide
    · exact unbroken_magnitudeText hf _
  unfold text
  dsimp only
  split
  · rw [String.toList_append]
    exact .append (by decide) hmagnitude
  · exact hmagnitude

end Double

namespace Yaml

open Text

/-! ## Scalars between quotes -/

/-- Each digit of a number is below its base. -/
theorem exists_of_mem_toDigits {b n : Nat} (hb : 1 < b) {c : Char} (h : c ∈ Nat.toDigits b n) :
    ∃ d < b, c = Nat.digitChar d := by
  induction n using Nat.strongRecOn with
  | ind n ih =>
    by_cases hn : n < b
    · rw [Nat.toDigits_of_lt_base hn, List.mem_singleton] at h
      exact ⟨n, hn, h⟩
    · rw [Nat.toDigits_of_base_le hb (by omega), List.mem_append, List.mem_singleton] at h
      rcases h with h | h
      · exact ih (n / b) (Nat.div_lt_self (by omega) hb) h
      · exact ⟨n % b, Nat.mod_lt _ (by omega), h⟩

/-- A code is written with letters and digits. -/
theorem unbroken_hexadecimal (width n : Nat) : Unbroken (hexadecimal width n) := by
  have halnum : ∀ d < 16, (Nat.digitChar d).toUpper.isAlphanum = true := by decide
  have hcodes : ∀ c ∈ (Nat.toDigits 16 n).map Char.toUpper, c.isAlphanum = true := by
    intro c hc
    obtain ⟨e, he, rfl⟩ := List.mem_map.mp hc
    obtain ⟨d, hd, rfl⟩ := exists_of_mem_toDigits (by omega) he
    exact halnum d hd
  exact (unbroken_replicate_zero _).append (.of_forall hcodes rfl rfl)

theorem unbroken_escapedCode (c : Char) : Unbroken (escapedCode c) := by
  unfold escapedCode
  dsimp only
  split
  · exact .append (by decide : Unbroken ['x']) (unbroken_hexadecimal 2 _)
  split
  · exact .append (by decide : Unbroken ['u']) (unbroken_hexadecimal 4 _)
  · exact .append (by decide : Unbroken ['U']) (unbroken_hexadecimal 8 _)

/-- A character is escaped within a line, for both breaks have escapes of their own. -/
theorem unbroken_escaped (c : Char) : Unbroken (escaped c) := by
  unfold escaped
  split
  all_goals try decide
  split
  · exact .append (by decide : Unbroken ['\\']) (unbroken_escapedCode c)
  · refine ⟨fun hm => ?_, fun hm => ?_⟩
    all_goals
      obtain rfl := List.mem_singleton.mp hm
      simp_all

/-- A double-quoted scalar stands on one line. -/
theorem unbroken_doubleQuote (cs : List Char) : Unbroken (doubleQuote cs) := by
  have hflat : Unbroken (cs.flatMap escaped) := by
    constructor
    all_goals
      intro hm
      obtain ⟨c, -, hc⟩ := List.mem_flatMap.mp hm
    · exact (unbroken_escaped c).1 hc
    · exact (unbroken_escaped c).2 hc
  have hopen : Unbroken ('"' :: cs.flatMap escaped) :=
    Unbroken.append (by decide : Unbroken ['"']) hflat
  exact hopen.append (by decide)

/-- Single quotes add nothing but quotes. -/
theorem mem_singleQuote {c : Char} {cs : List Char} (h : c ∈ singleQuote cs) :
    c = '\'' ∨ c ∈ cs := by
  simp only [singleQuote, List.mem_append, List.mem_cons, List.mem_flatMap, List.not_mem_nil,
    or_false] at h
  obtain (h | ⟨d, hd, h⟩) | h := h
  · exact .inl h
  · split at h
    · exact .inl (by simpa using h)
    · obtain rfl := List.mem_singleton.mp h
      exact .inr hd
  · exact .inl h

/-! ## Scalars in their style -/

/-- The style can hold the text. -/
def Style.holds (cs : List Char) : Style → Bool
  | .plain => plainHolds cs
  | .singleQuoted => singleHolds cs
  | .literal => literalHolds cs
  | .doubleQuoted => true

/-- A text is never given a style that cannot hold it. -/
theorem holds_styleOf (text : String) : (styleOf text).holds text.toList = true := by
  unfold styleOf
  dsimp only
  split
  · split
    · assumption
    · rfl
  split
  · rename_i h
    exact (Bool.and_eq_true_iff.mp h).2
  split
  · assumption
  · rfl

/-- Only double quotes hold a carriage return, which they escape. -/
theorem return_notMem_of_any_isSpecial {cs : List Char} (h : (!cs.any isSpecial) = true) :
    '\r' ∉ cs := by
  intro hm
  have hspecial : isSpecial '\r' = true := by decide
  rw [Bool.not_eq_true', List.any_eq_false] at h
  exact h _ hm hspecial

/-- No style leaves a carriage return as it is. -/
theorem return_notMem_flowText (text : String) :
    '\r' ∉ flowText (styleOf text) text.toList := by
  have h := holds_styleOf text
  cases hs : styleOf text with
  | plain =>
    rw [hs] at h
    simp only [Style.holds, plainHolds, Bool.and_eq_true] at h
    exact return_notMem_of_any_isSpecial h.1.1.2
  | singleQuoted =>
    rw [hs] at h
    simp only [Style.holds, singleHolds, Bool.and_eq_true] at h
    intro hm
    obtain hm | hm := mem_singleQuote hm
    · cases hm
    · exact return_notMem_of_any_isSpecial h.2 hm
  | doubleQuoted => exact (unbroken_doubleQuote _).2
  | literal => exact (unbroken_doubleQuote _).2

/-- A text without a line feed is written without one. -/
theorem feed_notMem_flowText {style : Style} {cs : List Char} (h : '\n' ∉ cs) :
    '\n' ∉ flowText style cs := by
  cases style with
  | plain => exact h
  | singleQuoted =>
    intro hm
    obtain hm | hm := mem_singleQuote hm
    · cases hm
    · exact h hm
  | doubleQuoted => exact (unbroken_doubleQuote _).1
  | literal => exact (unbroken_doubleQuote _).1

theorem unbroken_keyMark {key : String} (h : isSimpleKey key = true) : Unbroken (keyMark key) := by
  have hfeed : '\n' ∉ key.toList := by
    intro hm
    have hbreak : isBreak '\n' = true := by decide
    simp only [isSimpleKey, Bool.and_eq_true, Bool.not_eq_true', List.any_eq_false] at h
    exact h.1 _ hm hbreak
  exact .append ⟨feed_notMem_flowText hfeed, return_notMem_flowText key⟩ (by decide)

theorem unbroken_blockHeader (cs : List Char) : Unbroken (blockHeader cs) := by
  have hmark : Unbroken (chompingMark cs) := by
    unfold chompingMark
    split
    · decide
    · split <;> decide
    · split
      · decide
      · split <;> decide
  unfold blockHeader
  dsimp only
  split
  · exact .append (by decide : Unbroken ['|', '2']) hmark
  · exact .append (by decide : Unbroken ['|']) hmark

/-! ## Lines -/

/-- A stream sees no break within the line, and none that it drops at its end. -/
structure Line.Whole (line : Line) : Prop where
  body : Unbroken line.body
  is_break : isBreak line.ending = true
  not_return : line.ending ≠ '\r'

theorem Line.Whole.of_body {cs : List Char} (h : Unbroken cs) : Line.Whole { body := cs } :=
  ⟨h, rfl, by simp⟩

theorem Line.Whole.indent {line : Line} (h : line.Whole) : line.indent.Whole := by
  unfold Line.indent
  split
  · exact h
  · exact ⟨.append (by decide : Unbroken [' ', ' ']) h.body, h.is_break, h.not_return⟩

theorem whole_map_indent {ls : List Line} (h : ∀ line ∈ ls, line.Whole) :
    ∀ line ∈ ls.map Line.indent, line.Whole := by
  intro line hm
  obtain ⟨l, hl, rfl⟩ := List.mem_map.mp hm
  exact (h l hl).indent

/-- Lines that hang on a mark are whole if both are. -/
theorem whole_hang {lead : List Char} {ls : List Line} (hl : Unbroken lead)
    (h : ∀ line ∈ ls, line.Whole) : ∀ line ∈ hang lead ls, line.Whole := by
  cases ls with
  | nil =>
    intro line hm
    rw [List.mem_singleton.mp hm]
    exact .of_body hl
  | cons first rest =>
    rw [List.forall_mem_cons] at h
    rw [hang, List.forall_mem_cons]
    exact ⟨⟨hl.append h.1.body, h.1.is_break, h.1.not_return⟩, whole_map_indent h.2⟩

/-- A text without carriage returns is cut into whole lines. -/
theorem whole_splitLines {cs : List Char} (h : '\r' ∉ cs) :
    ∀ line ∈ splitLines cs, line.Whole := by
  induction cs with
  | nil => simp [splitLines]
  | cons c cs ih =>
    rw [List.mem_cons, not_or] at h
    have hrest := ih h.2
    rw [splitLines]
    split
    · rename_i hc
      rw [List.forall_mem_cons]
      exact ⟨⟨⟨by simp, by simp⟩, hc, Ne.symm h.1⟩, hrest⟩
    · rename_i hc
      have hone : Unbroken [c] := by
        refine ⟨fun hm => hc ?_, fun hm => h.1 (List.mem_singleton.mp hm)⟩
        rw [← List.mem_singleton.mp hm]
        decide
      split
      · rw [List.forall_mem_singleton]
        exact .of_body hone
      · rename_i line rest hs
        rw [hs, List.forall_mem_cons] at hrest
        rw [List.forall_mem_cons]
        exact ⟨⟨hone.append hrest.1.body, hrest.1.is_break, hrest.1.not_return⟩, hrest.2⟩

theorem whole_scalarLines (text : String) : ∀ line ∈ scalarLines text, line.Whole := by
  have hflow := return_notMem_flowText text
  have hholds := holds_styleOf text
  unfold scalarLines
  dsimp only
  split
  · rename_i hs
    rw [hs] at hholds
    simp only [Style.holds, literalHolds, Bool.and_eq_true] at hholds
    rw [List.forall_mem_cons]
    exact ⟨.of_body (unbroken_blockHeader _),
      whole_splitLines (return_notMem_of_any_isSpecial hholds.2)⟩
  · exact whole_splitLines hflow

theorem whole_entryLines {key : String} {value : Json} {ls : List Line}
    (h : ∀ line ∈ ls, line.Whole) : ∀ line ∈ entryLines key value ls, line.Whole := by
  unfold entryLines
  split
  · rw [List.forall_mem_append]
    exact ⟨whole_hang (by decide) (whole_scalarLines key), whole_hang (by decide) h⟩
  · rename_i hkey
    have hmark : Unbroken (keyMark key) := unbroken_keyMark (by simpa using hkey)
    split
    · rw [List.forall_mem_cons]
      exact ⟨.of_body hmark, h⟩
    · rw [List.forall_mem_cons]
      exact ⟨.of_body hmark, whole_map_indent h⟩
    · exact whole_hang (hmark.append (by decide)) h

theorem whole_leaf {cs : List Char} (h : Unbroken cs) :
    ∀ line ∈ [({ body := cs } : Line)], line.Whole := by
  rw [List.forall_mem_singleton]
  exact .of_body h

/-! ## Lines of values -/

mutual

/-- Every line of a value is whole. -/
theorem whole_blockLines : ∀ value : Json, ∀ line ∈ blockLines value, line.Whole
  | .string text => by
    rw [blockLines]
    exact whole_scalarLines text
  | .array (item :: items) => by
    rw [blockLines]
    exact whole_itemLines (item :: items)
  | .object (member :: members) => by
    rw [blockLines]
    exact whole_memberLines (member :: members)
  | .null => whole_leaf (by decide)
  | .bool true => whole_leaf (by decide)
  | .bool false => whole_leaf (by decide)
  | .integer value => whole_leaf (unbroken_toString_int value)
  | .double value => whole_leaf (Double.unbroken_text (by decide) value)
  | .array [] => whole_leaf (by decide)
  | .object [] => whole_leaf (by decide)

theorem whole_itemLines : ∀ items : List Json, ∀ line ∈ itemLines items, line.Whole
  | [] => by simp [itemLines]
  | item :: items => by
    rw [itemLines, List.forall_mem_append]
    exact ⟨whole_hang (by decide) (whole_blockLines item), whole_itemLines items⟩

theorem whole_memberLines : ∀ members : List (String × Json),
    ∀ line ∈ memberLines members, line.Whole
  | [] => by simp [memberLines]
  | (key, value) :: members => by
    rw [memberLines, List.forall_mem_append]
    exact ⟨whole_entryLines (whole_blockLines value), whole_memberLines members⟩

end

end Yaml

end CrdSynthesis
