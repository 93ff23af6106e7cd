import ProxyLog.File.Directory
import ProxyLog.File.Gzip
import ProxyLog.Text.Encoding
import ProxyLog.Text.Lines
import ProxyLog.Yaml.Value

/-!
# Texts of files

A file whose name ends in `.gz` is expanded first. The octets are then read in an encoding, and
every line end counts as one line feed.

* `FileFault`: why a file has no text; `FileFault.message` is what is said about it.
* `contents d path encoding`: the text of a file.
-/

set_option autoImplicit false

namespace ProxyLog.File

/-- Why a file has no text. -/
inductive FileFault
  /-- There is no such file. -/
  | absent (path : String)
  /-- The encoding is given by something else than its name. -/
  | unnamedEncoding (typeName : String) (compressed : Bool)
  /-- The name of the encoding holds the null character. -/
  | nullInEncoding
  /-- There is no encoding of the name. -/
  | unknownEncoding (name : String)
  /-- The file cannot be expanded. -/
  | notGzip (fault : GzipFault)
  /-- The octets are no text in the encoding. -/
  | undecodable (fault : Text.DecodeError)
  deriving DecidableEq, Repr

def FileFault.message : FileFault → String
  | .absent path => "File not found: " ++ path
  | .unnamedEncoding typeName compressed =>
    (if compressed then "TextIOWrapper" else "open") ++
      "() argument 'encoding' must be str or None, not " ++ typeName
  | .nullInEncoding => "embedded null character"
  | .unknownEncoding name => "unknown encoding: " ++ name
  | .notGzip fault => fault.message
  | .undecodable fault => fault.message

/-- The encoding that a setting stands for; null stands for UTF-8. -/
def encodingOf (compressed : Bool) : Yaml.Value → Except FileFault Text.Encoding
  | .null => .ok .utf8
  | .text name =>
    if name.toList.contains '\x00' then .error .nullInEncoding
    else match Text.Encoding.ofName? name with
      | some encoding => .ok encoding
      | none => .error (.unknownEncoding name)
  | value => .error (.unnamedEncoding value.typeName compressed)

def isCompressed (path : String) : Bool := path.endsWith ".gz"

/-- The octets of a file, expanded if its name says that they are compressed. -/
def expanded (path : String) (octets : List UInt8) : Except FileFault (List UInt8) :=
  if isCompressed path then (gunzip octets).mapError .notGzip else .ok octets

def contents (d : Directory) (path : String) (encoding : Yaml.Value) : Except FileFault String := do
  let some octets := d.octets? path | throw (.absent path)
  let encoding ← encodingOf (isCompressed path) encoding
  let octets ← expanded path octets
  let cs ← (encoding.decode octets).mapError .undecodable
  pure (String.ofList (Text.joinLineEnds cs))

end ProxyLog.File
