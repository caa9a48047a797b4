/-!
# Tables

A table maps names to values. It is a list of pairs; `insert` keeps the names
increasing in the order of code points, and every table read from a text or
built by this library is increasing.

## Main definitions

* `Table.find?`: the value under a name
* `Table.insert`, `Table.insertAll`: a table with one name set, and with those of another
* `Table.leastKey?`: the least name with a property
-/

namespace CrdSynthesis

/-- A finite map from names to values. -/
abbrev Table (α : Type) := List (String × α)

namespace Table

variable {α : Type}

/-- The value under a name; of two entries with one name the first counts. -/
def find? (name : String) : Table α → Option α
  | [] => none
  | (key, value) :: rest => if key = name then some value else find? name rest

/-- The table has an entry with the name. -/
def contains (table : Table α) (name : String) : Bool :=
  (find? name table).isSome

/-- The names of all entries. -/
def keys (table : Table α) : List String :=
  table.map Prod.fst

/-- The table with `name` set to `value`, replacing an earlier value of that name. -/
def insert (name : String) (value : α) : Table α → Table α
  | [] => [(name, value)]
  | (key, old) :: rest =>
    if name = key then (name, value) :: rest
    else if name < key then (name, value) :: (key, old) :: rest
    else (key, old) :: insert name value rest

/-- The table with the entries of `added` set one after another. -/
def insertAll (added table : Table α) : Table α :=
  added.foldl (fun table entry => table.insert entry.1 entry.2) table

/-- The lesser of a name and a name already found. -/
def lesser (name : String) : Option String → String
  | none => name
  | some other => if other < name then other else name

/-- The least name of the table that satisfies `p`. -/
def leastKey? (p : String → Bool) : Table α → Option String
  | [] => none
  | (key, _) :: rest =>
    if p key then some (lesser key (leastKey? p rest)) else leastKey? p rest

@[simp]
theorem find?_nil (name : String) : find? name ([] : Table α) = none := rfl

@[simp]
theorem find?_cons (name key : String) (value : α) (rest : Table α) :
    find? name ((key, value) :: rest) = if key = name then some value else find? name rest := rfl

/-- The name that was set has its new value. -/
theorem find?_insert_self (name : String) (value : α) (table : Table α) :
    find? name (insert name value table) = some value := by
  fun_induction insert name value table with
  | case1 => simp
  | case2 => simp
  | case3 => simp
  | case4 key old rest hne _ ih => simp [ih, Ne.symm hne]

/-- Every other name keeps the value that it had. -/
theorem find?_insert_of_ne {name other : String} (h : name ≠ other) (value : α)
    (table : Table α) : find? other (insert name value table) = find? other table := by
  fun_induction insert name value table with
  | case1 => simp [h]
  | case2 => simp [h]
  | case3 => simp [h]
  | case4 key old rest _ _ ih => simp [ih]

end Table

end CrdSynthesis
