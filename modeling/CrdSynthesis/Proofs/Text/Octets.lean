/-!
# The order of octets

Names are compared by their code points. In UTF-8 this is the order of their octets: the first
octet of a code point grows with the number of octets that follow and then with its highest
bits, and each of the others holds the next six bits.

## Main definitions

* `Text.octets`: a text in UTF-8

## Main results

* `Text.octets_le_octets_iff`: texts are ordered as their octets are
-/

namespace CrdSynthesis.Text

/-- The octets of a text in UTF-8. -/
def octets (text : String) : List UInt8 := text.toUTF8.data.toList

/-- The octets of a text are those of its characters. -/
theorem octets_eq_flatMap (text : String) :
    octets text = text.toList.flatMap String.utf8EncodeChar := by
  rw [octets, String.toUTF8_eq_toByteArray, ← String.utf8Encode_toList, List.utf8Encode,
    List.data_toByteArray]

/-! ## One code point -/

/-- How many octets follow the first one of a code point. -/
def followers (v : Nat) : Nat :=
  if v ≤ 0x7f then 0 else if v ≤ 0x7ff then 1 else if v ≤ 0xffff then 2 else 3

/-- The first octet of a code point, which holds its highest bits. -/
def lead (v : Nat) : Nat :=
  if v ≤ 0x7f then v
  else if v ≤ 0x7ff then v / 64 + 0xc0
  else if v ≤ 0xffff then v / 4096 + 0xe0
  else v / 262144 + 0xf0

/-- The last `n` octets of a code point, each with six of its bits. -/
def continuation : Nat → Nat → List UInt8
  | 0, _ => []
  | n + 1, v => continuation n (v / 64) ++ [.ofNat (v % 64 + 0x80)]

/-- The bits of a code point above its last `n` octets. -/
def highBits : Nat → Nat → Nat
  | 0, v => v
  | n + 1, v => highBits n (v / 64)

/-- The four lengths of an encoding, with their first octets. -/
theorem lead_cases (v : Nat) :
    v ≤ 0x7f ∧ followers v = 0 ∧ lead v = v ∨
      (0x7f < v ∧ v ≤ 0x7ff) ∧ followers v = 1 ∧ lead v = v / 64 + 0xc0 ∨
      (0x7ff < v ∧ v ≤ 0xffff) ∧ followers v = 2 ∧ lead v = v / 4096 + 0xe0 ∨
      0xffff < v ∧ followers v = 3 ∧ lead v = v / 262144 + 0xf0 := by
  unfold lead followers
  by_cases h₁ : v ≤ 0x7f
  · simp [h₁]
  by_cases h₂ : v ≤ 0x7ff
  · simp [h₁, h₂]
    omega
  by_cases h₃ : v ≤ 0xffff
  · simp [h₁, h₂, h₃]
    omega
  · simp [h₁, h₂, h₃]
    omega

theorem toNat_val_lt (c : Char) : c.val.toNat < 0x110000 := by
  rcases c.valid with h | h
  · exact Nat.lt_trans h (by decide)
  · exact h.2

/-- A character is encoded by its first octet, which holds its highest bits uncut, and those
that follow. -/
theorem utf8EncodeChar_eq_cons (c : Char) :
    String.utf8EncodeChar c =
      .ofNat (lead c.val.toNat) :: continuation (followers c.val.toNat) c.val.toNat := by
  have hc := toNat_val_lt c
  unfold String.utf8EncodeChar lead followers
  generalize c.val.toNat = v at hc
  dsimp only
  split
  · rfl
  split
  · rw [Nat.mod_eq_of_lt (by omega : v / 64 < 0x20)]
    rfl
  split
  · rw [Nat.mod_eq_of_lt (by omega : v / 4096 < 0x10)]
    rfl
  · rw [Nat.mod_eq_of_lt (by omega : v / 262144 < 0x08)]
    simp [continuation, Nat.div_div_eq_div_mul]

/-! ## The order of code points -/

section CodePoints

variable {v w : Nat} (h : v < w)

include h

/-- A greater code point has a greater first octet, or as many octets and the same
highest bits. -/
theorem lead_lt_or_eq :
    lead v < lead w ∨
      lead v = lead w ∧ followers v = followers w ∧
        highBits (followers v) v = highBits (followers v) w := by
  obtain ⟨hv, fv, lv⟩ | ⟨hv, fv, lv⟩ | ⟨hv, fv, lv⟩ | ⟨hv, fv, lv⟩ := lead_cases v <;>
    obtain ⟨hw, fw, lw⟩ | ⟨hw, fw, lw⟩ | ⟨hw, fw, lw⟩ | ⟨hw, fw, lw⟩ := lead_cases w <;>
    simp only [fv, fw, lv, lw, highBits, true_and] <;> omega

/-- Of two encodings of one length, the one with the lesser bits comes first, whatever follows. -/
theorem continuation_append_lt {n : Nat} (hq : highBits n v = highBits n w)
    (s t : List UInt8) : continuation n v ++ s < continuation n w ++ t := by
  induction n generalizing v w s t with
  | zero => exact absurd hq (Nat.ne_of_lt h)
  | succ n ih =>
    simp only [continuation, List.append_assoc, List.singleton_append]
    rcases Nat.lt_or_ge (v / 64) (w / 64) with hlt | hge
    · exact ih hlt hq _ _
    · have hsize : ∀ u, u % 64 + 0x80 < UInt8.size := by
        unfold UInt8.size
        omega
      rw [Nat.le_antisymm (Nat.div_le_div_right (Nat.le_of_lt h)) hge]
      refine List.append_left_lt (List.cons_lt_cons_iff.mpr (.inl ?_))
      rw [UInt8.ofNat_lt_iff_lt (hsize v) (hsize w)]
      omega

end CodePoints

/-- The lesser character has the lesser octets, whatever follows. -/
theorem utf8EncodeChar_append_lt {c d : Char} (h : c < d) (s t : List UInt8) :
    String.utf8EncodeChar c ++ s < String.utf8EncodeChar d ++ t := by
  have hlt : c.val.toNat < d.val.toNat := h
  have hlead : lead d.val.toNat < UInt8.size := by
    unfold UInt8.size
    have hd := toNat_val_lt d
    obtain ⟨_, _, hl⟩ | ⟨_, _, hl⟩ | ⟨_, _, hl⟩ | ⟨_, _, hl⟩ := lead_cases d.val.toNat <;> omega
  rw [utf8EncodeChar_eq_cons, utf8EncodeChar_eq_cons, List.cons_append, List.cons_append,
    List.cons_lt_cons_iff]
  obtain hl | ⟨hl, hf, hq⟩ := lead_lt_or_eq hlt
  · exact .inl ((UInt8.ofNat_lt_iff_lt (Nat.lt_trans hl hlead) hlead).mpr hl)
  · rw [hl, ← hf]
    exact .inr ⟨rfl, continuation_append_lt hlt hq s t⟩

/-! ## The order of texts -/

/-- The lesser list of characters has the lesser octets. -/
theorem flatMap_utf8EncodeChar_lt {cs ds : List Char} (h : cs < ds) :
    cs.flatMap String.utf8EncodeChar < ds.flatMap String.utf8EncodeChar := by
  induction cs generalizing ds with
  | nil =>
    cases ds with
    | nil => exact absurd h (List.not_lt_nil _)
    | cons d ds =>
      rw [List.flatMap_nil, List.flatMap_cons, utf8EncodeChar_eq_cons]
      exact List.nil_lt_cons ..
  | cons c cs ih =>
    cases ds with
    | nil => exact absurd h (List.not_lt_nil _)
    | cons d ds =>
      rw [List.flatMap_cons, List.flatMap_cons]
      obtain hlt | ⟨rfl, hlt⟩ := List.cons_lt_cons_iff.mp h
      · exact utf8EncodeChar_append_lt hlt _ _
      · exact List.append_left_lt (ih hlt)

theorem octets_lt_octets {s t : String} (h : s < t) : octets s < octets t := by
  rw [octets_eq_flatMap, octets_eq_flatMap]
  exact flatMap_utf8EncodeChar_lt h

/-- Texts are ordered as their octets are. -/
theorem octets_le_octets_iff {s t : String} : octets s ≤ octets t ↔ s ≤ t := by
  constructor
  · intro h hlt
    exact h (octets_lt_octets hlt)
  · intro h
    by_cases heq : s = t
    · rw [heq]
      exact List.le_refl _
    · have hlt : s < t := String.not_le.mp fun hle => heq (String.le_antisymm h hle)
      exact List.le_of_lt (octets_lt_octets hlt)

end CrdSynthesis.Text
