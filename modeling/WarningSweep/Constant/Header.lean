import WarningSweep.Constant.Basic
import WarningSweep.Files.Access
import WarningSweep.Log.Record
import WarningSweep.Text.Encoding
import WarningSweep.Text.LetterCase

/-!
# Generated headers

The constants are written to a header that declares them and to a source file that defines them.
Both start with a comment that lists the scripts.
-/

namespace WarningSweep

/-- What is generated: the path without its suffix, and the scripts to be listed. -/
structure Header where
  output : String
  scripts : List String
  deriving DecidableEq, Repr, Inhabited

namespace Header

inductive Fault where
  /-- The output path has no name. -/
  | noName (path : Path)
  | file (fault : FileFault)
  deriving DecidableEq, Repr

def Fault.message : Fault → String
  | .noName path => s!"PosixPath({quoted path.text}) has an empty name"
  | .file fault => fault.message

def path (header : Header) : Path := Path.ofString header.output

def baseName (header : Header) : String := header.path.name

def banner (header : Header) : String :=
  "/*\nThis file is automatically generated by objc-port-tools.\n"
    ++ "The constants herein were copied from the following JavaScript files:\n\n"
    ++ String.join (header.scripts.map fun script => s!"    {script}\n")
    ++ "\nDo not edit.\n*/\n\n"

def guardName (header : Header) : String := s!"_INCLUDED_{upperCase header.baseName}_H_"

def declarations (header : Header) (constants : List Constant) : String :=
  let name := header.guardName
  header.banner ++ s!"#ifndef {name}\n#define {name}\n\n"
    ++ String.join (constants.map fun c => c.declaration ++ "\n") ++ "\n#endif\n"

def definitions (header : Header) (constants : List Constant) : String :=
  header.banner ++ s!"#include \"{header.baseName}.h\"\n\n"
    ++ String.join (constants.map fun c => c.definition ++ "\n")

def outputs (header : Header) : Except Fault (Path × Path) :=
  match header.path.withName? (header.baseName ++ ".h"),
    header.path.withName? (header.baseName ++ ".c") with
  | some h, some c => .ok (h, c)
  | _, _ => .error (.noName header.path)

def writeOutputs (header : Header) (constants : List Constant) (h c : Path) : FileAction Unit := do
  Files.ensureDirectories h.parent
  Files.write h.text (encodeString (header.declarations constants))
  Files.write c.text (encodeString (header.definitions constants))

def write (header : Header) (constants : List Constant) (files : Files) :
    Except Fault (Path × Path) × Files :=
  match header.outputs with
  | .error fault => (.error fault, files)
  | .ok (h, c) =>
    let (result, after) := header.writeOutputs constants h c files
    ((result.mapError Fault.file).map fun _ => (h, c), after)

def writtenRecord (constants : List Constant) (paths : Path × Path) : Log.Record :=
  Log.Channel.header.info
    s!"Wrote {constants.length} constants to {paths.1.text} and {paths.2.text}"

end Header

end WarningSweep
