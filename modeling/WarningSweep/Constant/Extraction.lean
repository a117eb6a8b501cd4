import WarningSweep.Constant.Declaration
import WarningSweep.Files.Access
import WarningSweep.Text.Basic
import WarningSweep.Text.Encoding

/-!
# Extracting constants from scripts

Scripts are read one after another. The first definition of a symbol counts, also across files, and
every later one is reported and left out. A file that cannot be read changes nothing; only a text
that is no path ends the extraction.
-/

namespace WarningSweep

structure Extraction where
  constants : List Constant := []
  /-- The files that were read, as they were given. -/
  sources : List String := []
  /-- For each symbol the name of the file that defines it. -/
  definedIn : List (String × String) := []
  log : List Log.Record := []
  /-- Where the kinds of problems with constants are explained. -/
  guide : Option String := none
  deriving DecidableEq, Repr, Inhabited

namespace Extraction

inductive ScriptFault where
  | file (fault : FileFault)
  | decode (fault : DecodeFault)

def readScript (files : Files) (path : Path) : Except ScriptFault String :=
  match files.read path.text with
  | .error fault => .error (.file fault)
  | .ok content =>
    match decodeStrict content with
    | .error fault => .error (.decode fault)
    | .ok text => .ok (String.ofList (unifyLineEnds text.toList))

def report (extraction : Extraction) (records : List Log.Record) : Extraction :=
  { extraction with log := extraction.log ++ records }

/-- The constants that a step has found, and the extraction after it. -/
abbrev Finding := List Constant × Extraction

def define (extraction : Extraction) (path : String) (line : Nat) (constant : Constant) : Finding :=
  match extraction.definedIn.lookup constant.symbol with
  | some file =>
    ([], extraction.report [Log.Channel.extraction.warning
      s!"{path}:{line}: constant {constant.symbol} already defined in {file}, ignored"])
  | none =>
    ([constant],
      { extraction with
        constants := extraction.constants ++ [constant]
        definedIn := extraction.definedIn ++ [(constant.symbol, constant.source)] })

def readLine (extraction : Extraction) (path source : String) (line : Nat) (text : String) :
    Finding :=
  let extraction := extraction.report (Declaration.log extraction.guide text source)
  match Declaration.parse? text source with
  | none => ([], extraction)
  | some constant => extraction.define path line constant

def readLines (extraction : Extraction) (path source : String) :
    (first : Nat) → List String → Finding
  | _, [] => ([], extraction)
  | first, text :: rest =>
    let (found, after) := extraction.readLine path source first text
    let (more, last) := after.readLines path source (first + 1) rest
    (found ++ more, last)

def skipScript (extraction : Extraction) (path message : String) : Extraction :=
  extraction.report [Log.Channel.extraction.warning
    s!"Skipping unreadable JavaScript file {path}: {message}"]

def readText (extraction : Extraction) (path source text : String) : Finding :=
  let (found, after) := ({ extraction with sources := extraction.sources ++ [path] }).readLines path
    source 1 (lineContents text)
  (found,
    after.report [Log.Channel.extraction.debug s!"{path}: {found.length} designated constants"])

/-- What a step gives, unless a text which is no path has ended it, and the extraction after it. -/
abbrev Step := Except FileFault (List Constant) × Extraction

/-- Extracts the constants of one file and gives those that are new. -/
def addFile (extraction : Extraction) (files : Files) (path : String) : Step :=
  let place := Path.ofString path
  match readScript files place with
  | .error (.file fault) =>
    if fault.isReported then (.ok [], extraction.skipScript path fault.message)
    else (.error fault, extraction)
  | .error (.decode fault) => (.ok [], extraction.skipScript path fault.message)
  | .ok text =>
    let (found, after) := extraction.readText path place.name text
    (.ok found, after)

/-- Extracts the constants of several files and gives all that are known then. -/
def addFiles (extraction : Extraction) (files : Files) : List String → Step
  | [] => (.ok extraction.constants, extraction.report [Log.Channel.extraction.info
      s!"Extracted {extraction.constants.length} constants from {extraction.sources.length} files"])
  | path :: rest =>
    match extraction.addFile files path with
    | (.error fault, after) => (.error fault, after)
    | (.ok _, after) => after.addFiles files rest

end Extraction

end WarningSweep
