import CrdSynthesis.Definition
import CrdSynthesis.Json
import CrdSynthesis.Logged
import CrdSynthesis.Yaml.Document

/-!
# Loading definitions

Definitions are read from JSON values, from JSON and YAML texts, and from files that hold a
stream of YAML documents.

## Main definitions

* `File`, `File.text`: what stands at a path, and its text
* `LoadError`: why no definition is read, with its message
* `Definition.ofValue`, `Definition.ofJson`, `Definition.ofYaml`: one definition
* `Definition.ofYamlStream`, `Definition.load`: all definitions of a stream and of a file
-/

namespace CrdSynthesis

/-! ## Files -/

/-- Why a file has no text. -/
inductive FileError where
  | absent
  | isDirectory
  | notText
  /-- Another refusal of the system, in its words. -/
  | refused (message : String)
  deriving DecidableEq

/-- The text that tells why a file is not read. -/
def FileError.message : FileError → String
  | absent => "No such file or directory (os error 2)"
  | isDirectory => "Is a directory (os error 21)"
  | notText => "stream did not contain valid UTF-8"
  | refused message => message

/-- What stands at a path, as far as it can be read. -/
inductive File where
  | absent
  | directory
  /-- A file that the system refuses to read, with its words. -/
  | refused (message : String)
  | bytes (content : ByteArray)

/-- The text of a file in UTF-8. -/
def File.text : File → Except FileError String
  | absent => .error .absent
  | directory => .error .isDirectory
  | refused message => .error (.refused message)
  | bytes content =>
    match String.fromUTF8? content with
    | some text => .ok text
    | none => .error .notText

/-! ## Errors -/

/-- Why no definition is read. -/
inductive LoadError where
  | yamlSyntax
  | jsonSyntax
  | invalidDefinition (cause : DecodeError)
  | file (cause : FileError)
  | unexpectedKind (apiVersion kind : String)

/-- The type of an object as a message names it. -/
def typeName (apiVersion kind : String) : String := String.join [apiVersion, ", Kind=", kind]

/-- The message of an error; of a text that cannot be read at all none is kept. -/
def LoadError.message? : LoadError → Option String
  | yamlSyntax | jsonSyntax => none
  | invalidDefinition cause => some (String.join ["Invalid definition: ", cause.message])
  | file cause => some (String.join ["IO error: ", cause.message])
  | unexpectedKind apiVersion kind =>
    some <| String.join
      ["Expected ", typeName Definition.apiVersion Definition.kind, ", got ",
        typeName apiVersion kind]

/-! ## Reading -/

/-- The string under a name, empty if there is none. -/
def Json.memberText (value : Json) (name : String) : String :=
  ((value.member? name).bind (·.string?)).getD ""

namespace Definition

/-- The definition of a value, which must name the type of definitions. -/
def ofValue (value : Json) : Except LoadError Definition :=
  let foundVersion := value.memberText "apiVersion"
  let foundKind := value.memberText "kind"
  if foundVersion = apiVersion ∧ foundKind = kind then
    match Codec.definition.decode value with
    | .ok d => .ok d
    | .error cause => .error (.invalidDefinition cause)
  else .error (.unexpectedKind foundVersion foundKind)

/-- The definition of a JSON text. -/
def ofJson (text : String) : Except LoadError Definition :=
  match Json.parse? text with
  | some value => ofValue value
  | none => .error .jsonSyntax

/-- The definition of a YAML text of one document. -/
def ofYaml (text : String) : Except LoadError Definition :=
  match Yaml.read? text with
  | some value => ofValue value
  | none => .error .yamlSyntax

/-- All definitions of a stream; the first document that is none decides. -/
def ofYamlStream (stream : String) : Except LoadError (List Definition) :=
  (Yaml.splitDocuments stream).mapM ofYaml

/-- All definitions of the file at a path; how many they are is reported. -/
def load (path : String) (file : File) : Logged Event LoadError (List Definition) := do
  let text ← .ofExcept (file.text.mapError .file)
  let definitions ← .ofExcept (ofYamlStream text)
  .report (.loaded definitions.length path)
  return definitions

end Definition

end CrdSynthesis
