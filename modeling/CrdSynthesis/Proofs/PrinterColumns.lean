import CrdSynthesis.Proofs.CompositeAndClaim
import CrdSynthesis.Proofs.MergedSchema

/-!
# Printer columns point into the schema

A printed column names a value by its path. A written path can be read in one way only, if no
name in it holds a character that starts a step and no type a quote, so the text of a column
tells all of its steps. Every such path descends through the schema of the resource that
prints it and ends at a value of the column's type. The nodes that it passes are reserved or
fixed, so that nothing an author describes can stand in their places.

## Main definitions

* `JsonPath.Spells`: a path is what a text says
* `Schema.descend?`, `Schema.follow?`: the schema that a step and a path lead to
* `Crd.Column.PointsInto`: the path of a column leads to a value of its type

## Main results

* `JsonPath.Step.eq_of_append`: a step is known from a text that it starts
* `JsonPath.Spells.unique`: a text spells at most one path
* `follow?_condition`, `follow?_reference`: where the two kinds of columns lead
* `pointsInto_toColumn`: every column of a mode points into what is merged in the mode
* `Generator.columns_resolve`: so do the columns of a generated resource
-/

namespace CrdSynthesis

/-! ## Paths and their texts -/

namespace JsonPath

/-! ### Words and what follows them -/

/-- A character that may stand in the name of a field: none that starts a step. -/
def isNameCharacter (c : Char) : Bool := c != '.' && c != '['

/-- A text starts with a character that does not belong to a word, or is empty. -/
def Stops (p : Char → Bool) (rest : List Char) : Prop := ∀ c ∈ rest.head?, p c = false

/-- A word is known from any text that it starts and that goes on otherwise: it is the longest run
of its characters. -/
theorem eq_of_word_append {p : Char → Bool} {word other rest more : List Char}
    (hw : ∀ c ∈ word, p c = true) (ho : ∀ c ∈ other, p c = true) (hr : Stops p rest)
    (hm : Stops p more) (h : word ++ rest = other ++ more) : word = other ∧ rest = more := by
  have hstop : ∀ {tail : List Char}, Stops p tail → tail.takeWhile p = [] := by
    intro tail ht
    cases tail with
    | nil => rfl
    | cons c tail => rw [List.takeWhile_cons, ht c rfl]; rfl
  have hrun := congrArg (List.takeWhile p) h
  rw [List.takeWhile_append_of_pos hw, List.takeWhile_append_of_pos ho, hstop hr, hstop hm,
    List.append_nil, List.append_nil] at hrun
  subst hrun
  exact ⟨rfl, List.append_cancel_left h⟩

/-! ### Steps -/

namespace Step

/-- The end of the step is seen from its text. -/
def isPlain : Step → Bool
  | field name => name != "" && name.toList.all isNameCharacter
  | entryOfType type => type.toList.all (· != '\'')

theorem isPlain_field_iff {name : String} :
    (field name).isPlain = true ↔ name ≠ "" ∧ ∀ c ∈ name.toList, isNameCharacter c = true := by
  simp [isPlain]

theorem isPlain_entryOfType_iff {type : String} :
    (entryOfType type).isPlain = true ↔ ∀ c ∈ type.toList, (c != '\'') = true :=
  List.all_eq_true

theorem toList_text_field (name : String) : (field name).text.toList = '.' :: name.toList := by
  simp [text]

theorem toList_text_entryOfType (type : String) :
    (entryOfType type).text.toList = "[?(@.type=='".toList ++ (type.toList ++ "')]".toList) := by
  simp [text]

/-- Every step starts with a character that is in no name. -/
theorem stops_text_append (step : Step) (rest : List Char) :
    Stops isNameCharacter (step.text.toList ++ rest) := by
  cases step with
  | field name =>
    rw [toList_text_field]
    rintro c ⟨⟩
    rfl
  | entryOfType type =>
    rw [toList_text_entryOfType]
    rintro c ⟨⟩
    rfl

/-- A plain step is known from any text that it starts, if the text ends or goes on with a step.
The type of an entry ends at the quote that closes it. -/
theorem eq_of_append {step other : Step} {rest more : List Char} (hs : step.isPlain = true)
    (ho : other.isPlain = true) (hr : Stops isNameCharacter rest) (hm : Stops isNameCharacter more)
    (h : step.text.toList ++ rest = other.text.toList ++ more) : step = other ∧ rest = more := by
  cases step with
  | field name =>
    cases other with
    | field otherName =>
      rw [toList_text_field, toList_text_field, List.cons_append, List.cons_append,
        List.cons.injEq] at h
      rw [isPlain_field_iff] at hs ho
      obtain ⟨hname, hrest⟩ := eq_of_word_append hs.2 ho.2 hr hm h.2
      rw [String.toList_inj.mp hname]
      exact ⟨rfl, hrest⟩
    | entryOfType type =>
      rw [toList_text_field, toList_text_entryOfType] at h
      cases h
  | entryOfType type =>
    cases other with
    | field name =>
      rw [toList_text_field, toList_text_entryOfType] at h
      cases h
    | entryOfType otherType =>
      rw [toList_text_entryOfType, toList_text_entryOfType, List.append_assoc,
        List.append_assoc, List.append_assoc, List.append_assoc] at h
      rw [isPlain_entryOfType_iff] at hs ho
      have hquote : ∀ tail : List Char, Stops (· != '\'') ("')]".toList ++ tail) := by
        rintro tail c ⟨⟩
        rfl
      obtain ⟨htype, hrest⟩ :=
        eq_of_word_append hs ho (hquote rest) (hquote more) (List.append_cancel_left h)
      rw [String.toList_inj.mp htype]
      exact ⟨rfl, List.append_cancel_left hrest⟩

end Step

/-! ### Paths -/

/-- The path is what the text says: it is written so, and the end of each of its steps is seen. -/
structure Spells (path : JsonPath) (text : String) : Prop where
  plain : ∀ step ∈ path, step.isPlain = true
  text_eq : JsonPath.text path = text

theorem text_cons (step : Step) (path : JsonPath) :
    text (step :: path) = step.text ++ text path := by
  rw [text, List.map_cons, String.join_cons, text]

/-- The rest of a path starts with a step, or is empty. -/
theorem stops_text (path : JsonPath) : Stops isNameCharacter (text path).toList := by
  cases path with
  | nil => rintro c ⟨⟩
  | cons step path =>
    rw [text_cons, String.toList_append]
    exact step.stops_text_append _

/-- No step is written as nothing. -/
theorem text_cons_ne_nil (step : Step) (path : JsonPath) : (text (step :: path)).toList ≠ [] := by
  rw [text_cons, String.toList_append]
  cases step with
  | field name => rw [Step.toList_text_field]; exact List.cons_ne_nil _ _
  | entryOfType type => rw [Step.toList_text_entryOfType]; exact List.cons_ne_nil _ _

/-- A text spells at most one path: two paths are taken off it step by step. -/
theorem Spells.unique {path other : JsonPath} {text : String} (hp : path.Spells text)
    (ho : other.Spells text) : path = other := by
  induction path generalizing other text with
  | nil =>
    cases other with
    | nil => rfl
    | cons step other =>
      have h := congrArg String.toList (ho.text_eq.trans hp.text_eq.symm)
      exact absurd h (text_cons_ne_nil step other)
  | cons step path ih =>
    cases other with
    | nil =>
      have h := congrArg String.toList (hp.text_eq.trans ho.text_eq.symm)
      exact absurd h (text_cons_ne_nil step path)
    | cons otherStep other =>
      have h := congrArg String.toList (hp.text_eq.trans ho.text_eq.symm)
      rw [text_cons, text_cons, String.toList_append, String.toList_append] at h
      have hplain := List.forall_mem_cons.mp hp.plain
      have hother := List.forall_mem_cons.mp ho.plain
      obtain ⟨rfl, hrest⟩ :=
        Step.eq_of_append hplain.1 hother.1 (stops_text path) (stops_text other) h
      rw [ih ⟨hplain.2, rfl⟩ ⟨hother.2, (String.toList_inj.mp hrest).symm⟩]

end JsonPath

/-! ## Following a path -/

namespace Schema

/-- The schema that a step leads to. The entries of a type are looked for in an array of which
every item has a string `type`. -/
def descend? (schema : Schema) : JsonPath.Step → Option Schema
  | .field name => schema.property? name
  | .entryOfType _ =>
    match schema.type?, schema.items? with
    | some "array", some (.each item) =>
      if (item.property? "type").bind (·.type?) = some "string" then some item else none
    | _, _ => none

/-- The schema that a path leads to, if all of its steps can be taken. -/
def follow? (schema : Schema) : JsonPath → Option Schema
  | [] => some schema
  | step :: path => (schema.descend? step).bind (·.follow? path)

/-- A path that starts with a field goes on from the property of that name. -/
theorem follow?_field {schema child : Schema} {name : String}
    (h : schema.property? name = some child) (path : JsonPath) :
    schema.follow? (.field name :: path) = child.follow? path := by
  rw [follow?, descend?, h, Option.bind_some]

end Schema

/-- The text of the column's path can be read, and the path leads to a value of the
column's type. -/
structure Crd.Column.PointsInto (column : Crd.Column) (schema : Schema) : Prop where
  path : ∃ path : JsonPath, path.Spells column.jsonPath
  node : ∀ path : JsonPath, path.Spells column.jsonPath →
    ∃ node, schema.follow? path = some node ∧ node.type? = some column.type

/-! ## The columns of a mode -/

/-- The status of a condition is a string in every schema with the generated `status`, since no
node on the way depends on what is authored. -/
theorem follow?_condition (spec : Schema) (name type : String) :
    (rootSchema spec).follow? (PrinterColumn.condition name type).path = some .string := by
  have hstatus : (rootSchema spec).property? "status" =
      some (objectSchema ReservedProperties.status) := rfl
  have hconditions : (objectSchema ReservedProperties.status).property? "conditions" =
      some ReservedProperties.conditions := rfl
  have hentry : ReservedProperties.conditions.descend? (.entryOfType type) =
      some ReservedProperties.condition := rfl
  have hvalue : ReservedProperties.condition.property? "status" = some .string := rfl
  rw [PrinterColumn.condition, Schema.follow?_field hstatus, Schema.follow?_field hconditions,
    Schema.follow?, hentry, Option.bind_some, Schema.follow?_field hvalue, Schema.follow?]

/-- A reserved reference is found in `spec`, whatever else is described there: in the union of the
tables the reserved one decides. -/
theorem property?_mergedSchema_spec {mode : Mode} {field : String} {reserved : Schema}
    (h : mode.reservedProperties.find? field = some reserved) (template : SpecTemplate) :
    ∃ spec, (mergedSchema template mode).property? "spec" = some spec ∧
      spec.property? field = some reserved := by
  refine ⟨_, property?_rootSchema_spec _, ?_⟩
  rw [property?_specSchema, Table.find?_insertAll (nodup_reservedProperties mode), h,
    Option.some_or]

/-- The name in a reserved reference is a string. -/
theorem follow?_reference {mode : Mode} {field : String} {reserved : Schema}
    (h : mode.reservedProperties.find? field = some reserved)
    (hname : reserved.property? "name" = some .string) (template : SpecTemplate) (name : String) :
    (mergedSchema template mode).follow? (PrinterColumn.reference name field).path =
      some .string := by
  obtain ⟨spec, hspec, hfield⟩ := property?_mergedSchema_spec h template
  rw [PrinterColumn.reference, Schema.follow?_field hspec, Schema.follow?_field hfield,
    Schema.follow?_field hname, Schema.follow?]

/-- Every column of a mode leads to a string, whatever the template. -/
theorem follow?_of_mem_columns {mode : Mode} {column : PrinterColumn} (h : column ∈ mode.columns)
    (template : SpecTemplate) :
    (mergedSchema template mode).follow? column.path = some .string := by
  cases mode with
  | composite =>
    simp only [Mode.columns, List.mem_cons, List.not_mem_nil, or_false] at h
    rcases h with rfl | rfl | rfl
    · exact follow?_condition _ "READY" "Ready"
    · exact follow?_condition _ "SYNCED" "Synced"
    · exact follow?_reference rfl rfl template "COMPOSITION"
  | claim =>
    simp only [Mode.columns, List.mem_cons, List.not_mem_nil, or_false] at h
    rcases h with rfl | rfl | rfl
    · exact follow?_condition _ "READY" "Ready"
    · exact follow?_condition _ "SYNCED" "Synced"
    · exact follow?_reference rfl rfl template "CONNECTION-SECRET"

/-- No name in the path of a column starts another step. -/
theorem spells_of_mem_columns {mode : Mode} {column : PrinterColumn} (h : column ∈ mode.columns) :
    column.path.Spells column.toColumn.jsonPath := by
  have hplain : mode.columns.all (·.path.all (·.isPlain)) = true := by
    cases mode <;> rfl
  have hpath := List.all_eq_true.mp hplain column h
  exact ⟨List.all_eq_true.mp hpath, rfl⟩

/-- Every column of a mode points into each schema that is merged in the mode, and its text cannot
be read in another way. -/
theorem pointsInto_toColumn {mode : Mode} {column : PrinterColumn} (h : column ∈ mode.columns)
    (template : SpecTemplate) : column.toColumn.PointsInto (mergedSchema template mode) := by
  have hspells := spells_of_mem_columns h
  refine ⟨⟨column.path, hspells⟩, ?_⟩
  intro path hpath
  obtain rfl := hpath.unique hspells
  exact ⟨_, follow?_of_mem_columns h template, rfl⟩

namespace Generator

/-- A generated resource has one version, whose columns all point into its schema. -/
theorem columns_resolve {generator : Generator} {d : Definition} {mode : Mode} {c : Crd}
    (h : (generator.generate d mode).outcome = .ok c) :
    ∃ version schema columns, c.spec.versions = [version] ∧
      version.schema.bind (·.openAPIV3Schema) = some schema ∧
      version.additionalPrinterColumns = some columns ∧
      ∀ column ∈ columns, column.PointsInto schema := by
  obtain ⟨names, owner, template, -, -, -, -, rfl⟩ := generate_eq_ok_iff.mp h
  refine ⟨_, _, _, rfl, rfl, rfl, ?_⟩
  intro column hm
  obtain ⟨printed, hp, rfl⟩ := List.mem_map.mp hm
  exact pointsInto_toColumn hp template

/-- The last column of a claim names the secret to which a claim writes. -/
theorem columns_resolve_storage :
    ∃ c schema, (({} : Generator).generate storageDefinition .claim).outcome = .ok c ∧
      c.schemas = [schema] ∧ ∃ column : Crd.Column, column.name = "CONNECTION-SECRET" ∧
        column.jsonPath = ".spec.writeConnectionSecretToRef.name" ∧ column.type = "string" ∧
        column.PointsInto schema := by
  obtain ⟨_, _, _, hversions, hschema, hcolumns, h⟩ :=
    @columns_resolve {} storageDefinition .claim _ rfl
  cases hversions
  cases hschema
  cases hcolumns
  refine ⟨_, _, rfl, rfl, PrinterColumn.connectionSecret.toColumn, rfl, rfl, rfl, ?_⟩
  exact h _ (List.mem_map_of_mem (by decide))

end Generator

end CrdSynthesis
