import CrdSynthesis.Proofs.Text.Octets
import CrdSynthesis.Table

/-!
# Names of tables

What is found in a table depends on its names alone: a name is found exactly if it is one
of the table's, and the entries of another table are inserted without touching other names.

## Main definitions

* `Table.IsLeastName`: the first of the names with a property

## Main results

* `Table.contains_iff`: the names that are found
* `Table.leastKey?_eq_none_iff`, `Table.leastKey?_eq_some_iff`: no name has a property, or the
  least one that has it
* `Table.find?_insertAll_of_notMem`: inserting a table leaves other names alone
* `Table.find?_insertAll`, `Table.perm_insertAll`, `Table.insertAll_inj`: the union of two
  tables, whose names differ
* `Table.mem_of_find?`, `Table.forall_mem_insertAll`: what holds of all values
-/

namespace CrdSynthesis.Table

variable {α : Type}

@[simp]
theorem keys_nil : keys ([] : Table α) = [] := rfl

@[simp]
theorem keys_cons (entry : String × α) (rest : Table α) :
    keys (entry :: rest) = entry.1 :: keys rest := rfl

/-- A name is found exactly if it is one of the table's. -/
theorem find?_eq_none_iff {name : String} {table : Table α} :
    find? name table = none ↔ name ∉ table.keys := by
  induction table with
  | nil => simp
  | cons entry rest ih =>
    rw [find?_cons, keys_cons, List.mem_cons, not_or]
    by_cases h : entry.1 = name
    · simp [h]
    · rw [if_neg h, ih]
      simp [Ne.symm h]

/-- What stands first is found first. -/
@[simp]
theorem find?_append (name : String) (first second : Table α) :
    find? name (first ++ second) = (find? name first).or (find? name second) := by
  induction first with
  | nil => rfl
  | cons entry rest ih =>
    rw [List.cons_append, find?_cons, find?_cons, ih]
    split <;> rfl

/-- A table has an entry for each of its names. -/
theorem contains_iff {name : String} {table : Table α} :
    table.contains name = true ↔ name ∈ table.keys := by
  rw [contains, Option.isSome_iff_ne_none, ne_eq, find?_eq_none_iff, Decidable.not_not]

theorem contains_eq_false_iff {name : String} {table : Table α} :
    table.contains name = false ↔ find? name table = none := by
  rw [contains, Option.isSome_eq_false_iff, Option.isNone_iff_eq_none]

/-! ## Least names -/

/-- A name has a property and is the first, in the order of octets, that has it. -/
def IsLeastName (p : String → Prop) (name : String) : Prop :=
  p name ∧ ∀ other, p other → Text.octets name ≤ Text.octets other

/-- The least name with a property is missing exactly if no name has the property. -/
theorem leastKey?_eq_none_iff {p : String → Bool} {table : Table α} :
    table.leastKey? p = none ↔ ∀ name ∈ table.keys, p name = false := by
  induction table with
  | nil => simp [leastKey?]
  | cons entry rest ih =>
    rw [leastKey?, keys_cons, List.forall_mem_cons]
    by_cases h : p entry.1 = true
    · simp [h]
    · rw [if_neg h, ih]
      simp [Bool.eq_false_iff.mpr h]

/-- The name that is found has the property, and no name before it does. -/
theorem least_of_leastKey? {p : String → Bool} {table : Table α} {name : String}
    (h : table.leastKey? p = some name) :
    (name ∈ table.keys ∧ p name = true) ∧
      ∀ other ∈ table.keys, p other = true → name ≤ other := by
  induction table generalizing name with
  | nil => cases h
  | cons entry rest ih =>
    rw [leastKey?] at h
    rw [keys_cons, List.forall_mem_cons, List.mem_cons]
    by_cases hp : p entry.1 = true
    · rw [if_pos hp, Option.some.injEq] at h
      cases hr : leastKey? p rest with
      | none =>
        rw [hr] at h
        subst h
        refine ⟨⟨.inl rfl, hp⟩, fun _ => String.le_refl _, fun other ho hpo => ?_⟩
        rw [leastKey?_eq_none_iff.mp hr other ho] at hpo
        cases hpo
      | some found =>
        obtain ⟨⟨hf, hpf⟩, hleast⟩ := ih hr
        rw [hr, lesser] at h
        split at h
        next hlt =>
          subst h
          exact ⟨⟨.inr hf, hpf⟩, fun _ => String.lt_asymm hlt, hleast⟩
        next hle =>
          subst h
          exact ⟨⟨.inl rfl, hp⟩, fun _ => String.le_refl _,
            fun other ho hpo => String.le_trans hle (hleast other ho hpo)⟩
    · rw [if_neg hp] at h
      obtain ⟨⟨hn, hpn⟩, hleast⟩ := ih h
      exact ⟨⟨.inr hn, hpn⟩, fun hpe => absurd hpe hp, hleast⟩

/-- The name that is found has the property and comes before all others that have it. -/
theorem leastKey?_eq_some_iff {p : String → Bool} {table : Table α} {name : String} :
    table.leastKey? p = some name ↔
      IsLeastName (fun other => other ∈ table.keys ∧ p other = true) name := by
  simp only [IsLeastName, Text.octets_le_octets_iff, and_imp]
  refine ⟨least_of_leastKey?, fun ⟨⟨hn, hp⟩, hleast⟩ => ?_⟩
  cases hl : table.leastKey? p with
  | none =>
    rw [leastKey?_eq_none_iff.mp hl name hn] at hp
    cases hp
  | some found =>
    obtain ⟨⟨hf, hpf⟩, hleast'⟩ := least_of_leastKey? hl
    rw [String.le_antisymm (hleast' name hn hp) (hleast found hf hpf)]

section Shared

variable {table other : Table α}

/-- No least name is found exactly if two tables share no name. -/
theorem leastKey?_contains_eq_none_iff :
    table.leastKey? other.contains = none ↔ ∀ name ∈ table.keys, name ∉ other.keys := by
  simp only [leastKey?_eq_none_iff, Bool.eq_false_iff, ne_eq, contains_iff]

/-- Of the names that two tables share the least one is found. -/
theorem leastKey?_contains_eq_some_iff {name : String} :
    table.leastKey? other.contains = some name ↔
      IsLeastName (fun shared => shared ∈ table.keys ∧ shared ∈ other.keys) name := by
  simp only [leastKey?_eq_some_iff, contains_iff]

end Shared

/-! ## Inserting all entries of a table -/

/-- A name outside of `added` is found as before. -/
theorem find?_insertAll_of_notMem {name : String} {added : Table α} (h : name ∉ added.keys)
    (table : Table α) :
    find? name (added.insertAll table) = find? name table := by
  induction added generalizing table with
  | nil => rfl
  | cons entry rest ih =>
    rw [keys_cons, List.mem_cons, not_or] at h
    change find? name (insertAll rest (insert entry.1 entry.2 table)) = _
    rw [ih h.2, find?_insert_of_ne (Ne.symm h.1)]

/-- In a table whose names differ every entry is found after it was inserted. -/
theorem find?_insertAll {added : Table α} (h : added.keys.Nodup) (name : String)
    (table : Table α) :
    find? name (added.insertAll table) = (find? name added).or (find? name table) := by
  induction added generalizing table with
  | nil => rfl
  | cons entry rest ih =>
    rw [keys_cons, List.nodup_cons] at h
    change find? name (insertAll rest (insert entry.1 entry.2 table)) = _
    rw [ih h.2, find?_cons]
    by_cases hk : entry.1 = name
    · rw [if_pos hk, ← hk, find?_eq_none_iff.mpr h.1, find?_insert_self]
      rfl
    · rw [if_neg hk, find?_insert_of_ne hk]

/-- A new name adds its entry and nothing else. -/
theorem perm_insert {name : String} {table : Table α} (h : name ∉ table.keys) (value : α) :
    (insert name value table).Perm ((name, value) :: table) := by
  fun_induction insert name value table with
  | case1 => exact .refl _
  | case2 => exact absurd List.mem_cons_self h
  | case3 => exact .refl _
  | case4 key old rest _ _ ih =>
    rw [keys_cons, List.mem_cons, not_or] at h
    exact ((ih h.2).cons (key, old)).trans (.swap ..)

section Union

variable {added table : Table α} (h : added.keys.Nodup)
  (hd : ∀ name ∈ added.keys, name ∉ table.keys)

include h hd

/-- The union of two tables that share no name consists of the entries of both. -/
theorem perm_insertAll : (added.insertAll table).Perm (added ++ table) := by
  induction added generalizing table with
  | nil => exact .refl _
  | cons entry rest ih =>
    rw [keys_cons, List.nodup_cons] at h
    rw [keys_cons, List.forall_mem_cons] at hd
    -- the names still to come differ from the one that was just inserted
    have hrest : ∀ name ∈ keys rest, name ∉ keys (insert entry.1 entry.2 table) := by
      intro name hn
      have hne : entry.1 ≠ name := fun heq => h.1 (heq ▸ hn)
      rw [← find?_eq_none_iff, find?_insert_of_ne hne, find?_eq_none_iff]
      exact hd.2 name hn
    calc
      List.Perm _ (rest ++ insert entry.1 entry.2 table) := ih h.2 hrest
      List.Perm _ (rest ++ entry :: table) := (perm_insert hd.1 entry.2).append_left rest
      List.Perm _ (entry :: (rest ++ table)) := List.perm_middle

/-- No entry is lost in the union. -/
theorem length_insertAll : (added.insertAll table).length = added.length + table.length := by
  rw [(perm_insertAll h hd).length_eq, List.length_append]

/-- Every entry of the union is one of the two tables. -/
theorem mem_insertAll_iff {entry : String × α} :
    entry ∈ added.insertAll table ↔ entry ∈ added ∨ entry ∈ table := by
  rw [(perm_insertAll h hd).mem_iff, List.mem_append]

theorem mem_keys_insertAll_iff {name : String} :
    name ∈ (added.insertAll table).keys ↔ name ∈ added.keys ∨ name ∈ table.keys := by
  have hkeys := (perm_insertAll h hd).map Prod.fst
  rw [List.map_append] at hkeys
  rw [keys, hkeys.mem_iff, List.mem_append, keys, keys]

end Union

section Filter

variable {p : String → Bool}

/-- An entry of another name does not show among those with a property. -/
theorem filter_insert {name : String} (h : p name = false) (value : α) (table : Table α) :
    (insert name value table).filter (fun entry => p entry.1) =
      table.filter fun entry => p entry.1 := by
  fun_induction insert name value table with
  | case1 => simp [h]
  | case2 => simp [h]
  | case3 => simp [h]
  | case4 key old rest _ _ ih => rw [List.filter_cons, List.filter_cons, ih]

/-- What was inserted can be taken out again. -/
theorem filter_insertAll {added : Table α} (h : ∀ name ∈ added.keys, p name = false)
    (table : Table α) :
    (added.insertAll table).filter (fun entry => p entry.1) =
      table.filter fun entry => p entry.1 := by
  induction added generalizing table with
  | nil => rfl
  | cons entry rest ih =>
    rw [keys_cons, List.forall_mem_cons] at h
    change (insertAll rest (insert entry.1 entry.2 table)).filter _ = _
    rw [ih h.2, filter_insert h.1]

end Filter

/-- Tables that share no name with the inserted one are known from the result. -/
theorem insertAll_inj {added first second : Table α}
    (hf : ∀ name ∈ added.keys, name ∉ first.keys)
    (hs : ∀ name ∈ added.keys, name ∉ second.keys) :
    added.insertAll first = added.insertAll second ↔ first = second := by
  have hkeep : ∀ {table : Table α}, (∀ name ∈ added.keys, name ∉ table.keys) →
      (added.insertAll table).filter (fun entry => entry.1 ∉ added.keys) = table := by
    intro table hd
    rw [filter_insertAll (p := fun name => name ∉ added.keys) (by simp)]
    refine List.filter_eq_self.mpr fun entry he => decide_eq_true fun ha => ?_
    exact hd entry.1 ha (List.mem_map_of_mem he)
  constructor
  · intro h
    rw [← hkeep hf, h, hkeep hs]
  · rintro rfl
    rfl

/-! ## Values with a property -/

section Values

variable {p : α → Prop} {name : String} {value : α} {table : Table α}

theorem mem_of_find? (h : find? name table = some value) : (name, value) ∈ table := by
  induction table with
  | nil => cases h
  | cons entry rest ih =>
    rw [find?_cons] at h
    split at h
    next hkey =>
      cases h
      rw [← hkey]
      exact List.mem_cons_self ..
    next => exact List.mem_cons_of_mem _ (ih h)

theorem forall_mem_insert (hv : p value) (ht : ∀ entry ∈ table, p entry.2) :
    ∀ entry ∈ insert name value table, p entry.2 := by
  fun_induction insert name value table with
  | case1 => simpa
  | case2 old rest =>
    rw [List.forall_mem_cons] at ht ⊢
    exact ⟨hv, ht.2⟩
  | case3 key old rest _ _ =>
    rw [List.forall_mem_cons]
    exact ⟨hv, ht⟩
  | case4 key old rest _ _ ih =>
    rw [List.forall_mem_cons] at ht ⊢
    exact ⟨ht.1, ih ht.2⟩

/-- What holds of the entries of two tables holds of those of their union. -/
theorem forall_mem_insertAll {added : Table α} (ha : ∀ entry ∈ added, p entry.2)
    (ht : ∀ entry ∈ table, p entry.2) : ∀ entry ∈ added.insertAll table, p entry.2 := by
  induction added generalizing table with
  | nil => exact ht
  | cons entry rest ih =>
    rw [List.forall_mem_cons] at ha
    exact ih ha.2 (forall_mem_insert ha.1 ht)

end Values

end CrdSynthesis.Table
