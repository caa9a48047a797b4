import CrdSynthesis.Double
import CrdSynthesis.Json
import CrdSynthesis.Text
import CrdSynthesis.Timestamp

/-!
# Typed values as JSON

A codec writes the values of a type as JSON and reads them back. Records are
objects: a field that may be absent is left out when it is, `null` reads as absent,
and members of other names are ignored. The fields of a record stand in the order
of their names, both when they are written and when the first wrong one is reported.

## Main definitions

* `DecodeError`: why a value does not decode, with its message
* `Codec`: a writer and a reader
* `Codec.list`, `Codec.table`: codecs of arrays and of objects with free names
* `Codec.optional`, `Codec.readOptional`: a field of a record
-/

namespace CrdSynthesis

/-- Why a JSON value is not of a type. -/
inductive DecodeError where
  | wrongType (found : Json) (expected : String)
  | outOfRange (value : Int) (expected : String)
  | unexpectedText (found expected : String)
  | missingField (name : String)
  | tooShort (length : Nat) (expected : String)
  | tooLong (length : Nat)
  | badTimestamp (defect : Timestamp.Defect)
  | badBase64

/-- A JSON value as a message names it; the entries of arrays and objects are not shown. -/
def Json.shown : Json → String
  | .null => "null"
  | .bool value => String.join ["boolean `", toString value, "`"]
  | .integer value => String.join ["integer `", toString value, "`"]
  | .double value => String.join ["floating point `", value.text Double.jsonFormat, "`"]
  | .string value => String.join ["string ", Text.quoted value]
  | .array _ => "sequence"
  | .object _ => "map"

/-- The text that tells why a value does not decode. -/
def DecodeError.message : DecodeError → String
  | wrongType found expected =>
    String.join ["invalid type: ", found.shown, ", expected ", expected]
  | outOfRange value expected =>
    String.join ["invalid value: integer `", toString value, "`, expected ", expected]
  | unexpectedText found expected =>
    String.join ["invalid value: string ", Text.quoted found, ", expected ", expected]
  | missingField name => String.join ["missing field `", name, "`"]
  | tooShort length expected =>
    String.join ["invalid length ", toString length, ", expected ", expected]
  | tooLong length =>
    String.join
      ["invalid length ", toString length, ", expected fewer elements in array"]
  | badTimestamp defect => defect.message
  | badBase64 => "invalid base64 text"

/-- How the values of a type are written as JSON and read back. -/
structure Codec (α : Type) where
  encode : α → Json
  decode : Json → Except DecodeError α

namespace Codec

variable {α : Type}

/-! ## Scalars -/

/-- Any value as it is. -/
def json : Codec Json := ⟨id, .ok⟩

/-- Strings; nothing else is turned into one. -/
def string : Codec String where
  encode := .string
  decode
    | .string value => .ok value
    | found => .error (.wrongType found "a string")

/-- Truth values. -/
def bool : Codec Bool where
  encode := .bool
  decode
    | .bool value => .ok value
    | found => .error (.wrongType found "a boolean")

/-- Signed integers of 64 bits; a double is no integer, whatever its value. -/
def int64 : Codec Int64 where
  encode value := .integer value.toInt
  decode
    | .integer value =>
      if Int64.minValue.toInt ≤ value ∧ value ≤ Int64.maxValue.toInt then
        .ok (Int64.ofInt value)
      else .error (.outOfRange value "i64")
    | found => .error (.wrongType found "i64")

/-- Signed integers of 32 bits. -/
def int32 : Codec Int32 where
  encode value := .integer value.toInt
  decode
    | .integer value =>
      if Int32.minValue.toInt ≤ value ∧ value ≤ Int32.maxValue.toInt then
        .ok (Int32.ofInt value)
      else .error (.outOfRange value "i32")
    | found => .error (.wrongType found "i32")

/-- Doubles; an integer reads as the nearest one. -/
def double : Codec Double where
  encode := .double
  decode
    | .double value => .ok value
    | .integer value => .ok (Double.ofInt value)
    | found => .error (.wrongType found "f64")

/-- Moments, written as texts. -/
def timestamp : Codec Timestamp where
  encode value := .string value.text
  decode
    | .string value =>
      match Timestamp.parse value with
      | .ok t => .ok t
      | .error defect => .error (.badTimestamp defect)
    | found => .error (.wrongType found "an RFC 3339 formatted date and time string")

/-! ## Collections -/

/-- Lists as arrays; the first item that does not decode decides the error. -/
def list (codec : Codec α) : Codec (List α) where
  encode values := .array (values.map codec.encode)
  decode
    | .array items => items.mapM codec.decode
    | found => .error (.wrongType found "a sequence")

/-- The entries of a table, each decoded under its name. -/
def decodeEntries (decode : Json → Except DecodeError α) :
    List (String × Json) → Except DecodeError (Table α)
  | [] => .ok []
  | (name, value) :: rest => do
    let first ← decode value
    let others ← decodeEntries decode rest
    return (name, first) :: others

/-- Tables as objects whose members may have any name. -/
def table (codec : Codec α) : Codec (Table α) where
  encode entries := .object (entries.map fun (name, value) => (name, codec.encode value))
  decode
    | .object members => decodeEntries codec.decode members
    | found => .error (.wrongType found "a map")

/-! ## Records -/

/-- The members of an object that stands for a value of the type called `type`. -/
def members (type : String) : Json → Except DecodeError (Table Json)
  | .object members => .ok members
  | found => .error (.wrongType found type)

/-- A field as a list of members. -/
def field (codec : Codec α) (name : String) (value : α) : List (String × Json) :=
  [(name, codec.encode value)]

/-- A field that is left out when it is absent. -/
def optional (codec : Codec α) (name : String) : Option α → List (String × Json)
  | none => []
  | some value => codec.field name value

/-- The field of a name, if there is such a member. -/
def readPresent (codec : Codec α) (name : String) (members : Table Json) :
    Except DecodeError (Option α) :=
  match Table.find? name members with
  | none => .ok none
  | some value => (codec.decode value).map some

/-- The field of a name, where `null` counts as absent. -/
def readOptional (codec : Codec α) (name : String) (members : Table Json) :
    Except DecodeError (Option α) :=
  match Table.find? name members with
  | none => .ok none
  | some .null => .ok none
  | some value => (codec.decode value).map some

/-- The field of a name, with a value for an absent one. -/
def readOr (codec : Codec α) (default : α) (name : String) (members : Table Json) :
    Except DecodeError α :=
  (codec.readOptional name members).map (·.getD default)

@[simp]
theorem optional_none (codec : Codec α) (name : String) : codec.optional name none = [] := rfl

/-- A field that is present is one member. -/
@[simp]
theorem optional_some (codec : Codec α) (name : String) (value : α) :
    codec.optional name (some value) = [(name, codec.encode value)] := rfl

end Codec

end CrdSynthesis
