import ScriptMachine.Document.Build
import ScriptMachine.Json.Document
import ScriptMachine.Text.Lowercase
import ScriptMachine.Yaml.Document

/-!
# Loading programs

A program is read from a JSON or a YAML text, or from a file whose name tells the format.
-/

namespace ScriptMachine.Program

/-- The program of a document, if a text holds one. -/
def ofDocument? (missing : LoadError) : Option Document → Except LoadError Program
  | some document => document.build
  | none => .error missing

def ofJsonTree (tree : Json.Tree) : Except LoadError Program :=
  ofDocument? .invalidJson tree.document?

def ofYamlNode (node : Yaml.Node) : Except LoadError Program :=
  ofDocument? .invalidYaml node.document?

def ofJson (text : String) : Except LoadError Program :=
  match Json.parse? text with
  | some tree => ofJsonTree tree
  | none => .error .invalidJson

def ofYaml (text : String) : Except LoadError Program :=
  match Yaml.parse? text with
  | some node => ofYamlNode node
  | none => .error .invalidYaml

/-- The last part of a path. Slashes at its end do not count. -/
def fileName (path : String) : List Char :=
  ((path.toList.reverse.dropWhile (· == '/')).takeWhile (· != '/')).reverse

/-- What follows the last dot of a file name. A dot that begins the name does not count. -/
def extension (path : String) : String :=
  let name := fileName path
  let ending := (name.reverse.takeWhile (· != '.')).reverse
  if name.length ≤ ending.length + 1 then "" else String.ofList ending

/-- Loads the content of a file. That it is text is settled before its format is. -/
def ofFile (path : String) (content : Except ReadError ByteArray) : Except LoadError Program :=
  match content with
  | .error cause => .error (.unreadable cause)
  | .ok bytes =>
    match String.fromUTF8? bytes with
    | none => .error (.unreadable .notText)
    | some text =>
      let format := Text.lowercase (extension path)
      if format = "json" then ofJson text
      else if format = "yaml" || format = "yml" then ofYaml text
      else .error (.unknownFormat format)

end ScriptMachine.Program
