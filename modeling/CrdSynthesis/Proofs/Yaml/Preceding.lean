import CrdSynthesis.Proofs.Yaml.Readers

/-!
# Tokens in front

A lexer adds to the tokens that it has, and numbers them to find the places of pending keys.
So it reads alike whatever tokens stand before its own.

## Main definitions

* `Yaml.Lexer.after`: the same lexer with other tokens before its own

## Main results

* `Yaml.Lexer.step?_after`: a token
* `Yaml.Lexer.finish?_after`: all tokens from a place on
-/

namespace CrdSynthesis.Yaml

variable {before : List Token} {lexer : Lexer}

/-- Two steps whose first results correspond by `f` and whose last ones by `f'`. -/
theorem bind_map_eq {α β γ δ : Type} {f : α → γ} {f' : β → δ} {step : Option α}
    {next : γ → Option δ} {next' : α → Option β} (h : ∀ a, next (f a) = (next' a).map f') :
    (step.map f).bind next = (step.bind next').map f' := by
  cases step with
  | none => rfl
  | some a => exact h a

/-- The pending key with `n` more tokens before it. -/
def PendingKey.after (n : Nat) (key : PendingKey) : PendingKey :=
  { key with number := key.number + n }

namespace Lexer

/-- The lexer with other tokens, the last one first, before its own. -/
def after (before : List Token) (lexer : Lexer) : Lexer :=
  { lexer with
    tokens := lexer.tokens ++ before
    key := lexer.key.map (.after before.length)
    outerKeys := lexer.outerKeys.map (Option.map (.after before.length)) }

@[simp]
theorem inFlow_after : (lexer.after before).inFlow = lexer.inFlow := by
  simp [inFlow, after]

@[simp]
theorem keyAllowed_after : (lexer.after before).keyAllowed = lexer.keyAllowed := rfl

@[simp]
theorem indents_after : (lexer.after before).indents = lexer.indents := rfl

theorem key_after : (lexer.after before).key = lexer.key.map (.after before.length) := rfl

theorem outerKeys_after :
    (lexer.after before).outerKeys = lexer.outerKeys.map (Option.map (.after before.length)) := rfl

@[simp]
theorem count_after : (lexer.after before).count = lexer.count + before.length :=
  List.length_append

@[simp]
theorem emit_after (token : Token) :
    (lexer.after before).emit token = (lexer.emit token).after before := rfl

@[simp]
theorem allowKey_after (allowed : Bool) :
    (lexer.after before).allowKey allowed = (lexer.allowKey allowed).after before := rfl

/-! ## Blocks -/

/-- A token is put at the same distance from the last one, behind which all tokens are the
lexer's own. -/
theorem insertAt_after (number : Nat) (token : Token) :
    (lexer.after before).insertAt (number + before.length) token =
      (lexer.insertAt number token).after before := by
  have hlater : (lexer.after before).count - (number + before.length) = lexer.count - number := by
    rw [count_after]
    omega
  have hle : lexer.count - number ≤ lexer.tokens.length := Nat.sub_le ..
  simp only [insertAt, hlater]
  simp [after, List.take_append_of_le_length hle, List.drop_append_of_le_length hle]

theorem closeBlocks_after (p : Nat → Bool) :
    (lexer.after before).closeBlocks p = (lexer.closeBlocks p).after before := by
  simp only [closeBlocks, inFlow_after]
  split
  · rfl
  · simp [after]

theorem openBlock_after (start : Token) (column number : Nat) :
    (lexer.after before).openBlock start column (number + before.length) =
      (lexer.openBlock start column number).after before := by
  simp only [openBlock, inFlow_after, indents_after, insertAt_after]
  split <;> rfl

theorem openEntry?_after (start : Token) (column : Nat) :
    openEntry? start column (lexer.after before) =
      (lexer.openEntry? start column).map (after before) := by
  unfold openEntry?
  simp only [inFlow_after, keyAllowed_after, count_after, openBlock_after]
  split
  · rfl
  · split <;> rfl

/-! ## Keys -/

theorem dropKey?_after :
    (lexer.after before).dropKey? = lexer.dropKey?.map (after before) := by
  have hrequired : (lexer.after before).key.any (·.required) = lexer.key.any (·.required) := by
    simp only [after, Option.any_map]
    rfl
  simp only [dropKey?, hrequired]
  split <;> rfl

/-- A key expires by its line and its length, and not by its number. -/
theorem expire?_after (g : Glyph) (n : Nat) (key : Option PendingKey) :
    expire? g (key.map (.after n)) = (expire? g key).map (Option.map (.after n)) := by
  cases key with
  | none => rfl
  | some pending =>
    simp only [expire?, Option.map_some, PendingKey.after]
    split
    · split <;> rfl
    · rfl

/-- The pending keys of outer brackets expire by themselves too. -/
theorem mapM_expire?_after (g : Glyph) (n : Nat) (keys : List (Option PendingKey)) :
    (keys.map (Option.map (.after n))).mapM (expire? g) =
      (keys.mapM (expire? g)).map (List.map (Option.map (.after n))) := by
  induction keys with
  | nil => rfl
  | cons key keys ih =>
    rw [List.map_cons, List.mapM_cons, List.mapM_cons, expire?_after, ih]
    exact bind_map_eq fun _ => bind_map_eq fun _ => rfl

theorem expireKeys?_after (g : Glyph) :
    (lexer.after before).expireKeys? g = (lexer.expireKeys? g).map (after before) := by
  rw [expireKeys?, key_after, expire?_after]
  refine bind_map_eq fun key => ?_
  rw [outerKeys_after, mapM_expire?_after]
  exact bind_map_eq fun outerKeys => rfl

/-- A key that may start is noted with its number among all tokens. -/
theorem saveKey?_after (g : Glyph) :
    (lexer.after before).saveKey? g = (lexer.saveKey? g).map (after before) := by
  rw [saveKey?, saveKey?, keyAllowed_after, dropKey?_after]
  by_cases hk : lexer.keyAllowed = true
  · rw [if_pos hk, if_pos hk]
    refine bind_map_eq fun dropped => ?_
    rw [inFlow_after, indents_after, count_after]
    rfl
  · rw [if_neg hk, if_neg hk]
    rfl

/-! ## Tokens -/

theorem flowStart?_after (start : Token) (g : Glyph) :
    (lexer.after before).flowStart? start g = (lexer.flowStart? start g).map (after before) := by
  rw [flowStart?, saveKey?_after]
  exact bind_map_eq fun saved => rfl

/-- A closing bracket goes back to the pending key outside of it. -/
theorem flowEnd?_after (token : Token) :
    (lexer.after before).flowEnd? token = (lexer.flowEnd? token).map (after before) := by
  rw [flowEnd?, dropKey?_after]
  refine bind_map_eq fun dropped => ?_
  obtain ⟨tokens, indents, key, outerKeys, keyAllowed, anchors⟩ := dropped
  cases outerKeys <;> rfl

theorem flowEntry?_after :
    flowEntry? (lexer.after before) = lexer.flowEntry?.map (after before) := by
  unfold flowEntry?
  rw [dropKey?_after]
  exact bind_map_eq fun dropped => rfl

theorem blockEntry?_after (g : Glyph) :
    blockEntry? g (lexer.after before) = (lexer.blockEntry? g).map (after before) := by
  unfold blockEntry?
  rw [openEntry?_after]
  refine bind_map_eq fun opened => ?_
  rw [dropKey?_after]
  exact bind_map_eq fun dropped => rfl

theorem explicitKey?_after (g : Glyph) :
    (lexer.after before).explicitKey? g = (lexer.explicitKey? g).map (after before) := by
  rw [explicitKey?, openEntry?_after]
  refine bind_map_eq fun opened => ?_
  rw [dropKey?_after]
  exact bind_map_eq fun dropped => by simp

/-- A value finds the key before it at the same token. -/
theorem value?_after (g : Glyph) :
    (lexer.after before).value? g = (lexer.value? g).map (after before) := by
  rw [value?, value?, key_after]
  cases lexer.key with
  | none =>
    simp only [Option.map_none, openEntry?_after]
    exact bind_map_eq fun opened => by simp
  | some pending =>
    simp only [Option.map_some, PendingKey.after, insertAt_after, openBlock_after]
    rfl

theorem documentMarker?_after (token : Token) :
    (lexer.after before).documentMarker? token =
      (lexer.documentMarker? token).map (after before) := by
  rw [documentMarker?, closeAllBlocks, closeBlocks_after, dropKey?_after]
  exact bind_map_eq fun dropped => rfl

theorem reference?_after (name : String) :
    (lexer.after before).reference? name = (lexer.reference? name).map (after before) := by
  simp only [reference?, Option.map_map]
  rfl

theorem leaf?_after (g : Glyph) :
    (lexer.after before).leaf? g = (lexer.leaf? g).map (after before) := by
  simp only [leaf?, saveKey?_after, Option.map_map]
  rfl

/-- A result with more tokens in front, and with what is left of the text. -/
abbrev afterLeft (before : List Token) (result : Lexer × List Glyph) : Lexer × List Glyph :=
  (result.1.after before, result.2)

theorem scalar?_after (g : Glyph) (scalar : Option (List Char × List Glyph)) :
    (lexer.after before).scalar? g scalar = (lexer.scalar? g scalar).map (afterLeft before) := by
  rw [scalar?, leaf?_after]
  refine bind_map_eq fun leaf => ?_
  cases scalar <;> rfl

theorem literal?_after (folded : Bool) (gs : List Glyph) :
    (lexer.after before).literal? folded gs =
      (lexer.literal? folded gs).map (afterLeft before) := by
  rw [literal?, dropKey?_after]
  refine bind_map_eq fun dropped => ?_
  rw [indents_after]
  cases blockScalar? (!folded) dropped.indents.head? gs <;> rfl

theorem plain?_after (g : Glyph) (gs : List Glyph) :
    (lexer.after before).plain? g gs = (lexer.plain? g gs).map (afterLeft before) := by
  rw [plain?, leaf?_after]
  refine bind_map_eq fun leaf => ?_
  rw [inFlow_after, indents_after]
  cases plainScalar? leaf.inFlow ((lexer.indents.head?.map (· + 1)).getD 0) (g :: gs) <;> rfl

/-- A step that reads nothing of the text further on. -/
theorem left_after {step step' : Option Lexer} (h : step = step'.map (after before))
    (rest : List Glyph) :
    (step.bind fun lexer => some (lexer, rest)) =
      (step'.bind fun lexer => some (lexer, rest)).map (afterLeft before) := by
  rw [h]
  exact bind_map_eq fun _ => rfl

/-- A part of the text is read before the lexer takes notice of it. -/
theorem read_after {α : Type} {read : Option α} {next next' : α → Option (Lexer × List Glyph)}
    (h : ∀ a, next a = (next' a).map (afterLeft before)) :
    read.bind next = (read.bind next').map (afterLeft before) := by
  rw [Option.map_bind]
  exact Option.bind_congr fun a _ => h a

/-- A token of any kind reads alike after other tokens. -/
theorem step?_after (g : Glyph) (gs : List Glyph) :
    (lexer.after before).step? g gs = (lexer.step? g gs).map (afterLeft before) := by
  simp only [step?, inFlow_after]
  split
  · exact read_after fun result => left_after (documentMarker?_after _) _
  · split
    · exact left_after (documentMarker?_after _) _
    · exact left_after (flowStart?_after _ g) gs
    · exact left_after (flowStart?_after _ g) gs
    · exact left_after (flowEnd?_after _) gs
    · exact left_after (flowEnd?_after _) gs
    · exact left_after flowEntry?_after gs
    · refine read_after fun name => ?_
      rw [leaf?_after]
      exact bind_map_eq fun leaf => left_after (reference?_after _) _
    · refine read_after fun name => ?_
      rw [leaf?_after]
      exact bind_map_eq fun leaf => rfl
    · refine read_after fun tag => ?_
      rw [leaf?_after]
      exact bind_map_eq fun leaf => rfl
    · exact scalar?_after g _
    · exact scalar?_after g _
    · split
      · exact left_after (blockEntry?_after g) gs
      · split
        · exact left_after (explicitKey?_after g) gs
        · split
          · exact left_after (value?_after g) gs
          · split
            · exact literal?_after _ gs
            · split
              · exact plain?_after g gs
              · rfl

/-- A scan that starts after other tokens finds the tokens that it finds without them, up to the
end of the text. -/
theorem finish?_after (fuel : Nat) (gs : List Glyph) :
    finish? fuel (lexer.after before) gs =
      (finish? fuel lexer gs).map (before.reverse ++ ·) := by
  induction fuel generalizing lexer gs with
  | zero => rfl
  | succ fuel ih =>
    rw [finish?, finish?, inFlow_after, keyAllowed_after]
    rcases skipBetween lexer.inFlow false lexer.keyAllowed gs with ⟨keyAllowed, rest⟩
    cases rest with
    | nil =>
      dsimp only
      rw [allowKey_after, closeAllBlocks, closeBlocks_after, dropKey?_after, Option.map_map,
        Option.map_map]
      congr 1
      funext lexer
      exact List.reverse_append
    | cons g rest =>
      dsimp only
      rw [allowKey_after, expireKeys?_after]
      refine bind_map_eq fun expired => ?_
      rw [closeBlocks_after, step?_after]
      exact bind_map_eq fun result => ih result.2

end Lexer

end CrdSynthesis.Yaml
