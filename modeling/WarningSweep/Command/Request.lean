import WarningSweep.Command.Grammar

/-!
# Requests

The program has two commands. One prunes the warnings in files, the other writes the constants of
scripts to a header and a source file.
-/

namespace WarningSweep.Command

structure PruneRequest where
  paths : List String
  /-- The settings file: a value that is only `--` is no path. -/
  config : Option (Option String) := none
  dryRun : Bool := false
  report : Option String := none
  verbose : Bool := false
  initConfig : Option String := none
  deriving DecidableEq, Repr

structure ConstantsRequest where
  output : String
  inputs : List String
  verbose : Bool := false
  deriving DecidableEq, Repr

inductive Request where
  | prune (request : PruneRequest)
  | constants (request : ConstantsRequest)
  deriving DecidableEq, Repr

def defaultSettingsPath : String := "config/default_config.yaml"

def helpOption : Opt := ⟨.help, ["-h", "--help"], false⟩

def verboseOption : Opt := ⟨.verbose, ["-v", "--verbose"], false⟩

def program : String := "objc-port-tools"

def programUsage : String := "usage: objc-port-tools [-h] \x7bprune,consts\x7d ...\n"

def programGrammar : Grammar where
  program := program
  usage := programUsage
  help := programUsage
    ++ "\nObjective-C 64ビット移植支援のソース変換ツール\n"
    ++ "\npositional arguments:\n  \x7bprune,consts\x7d\n"
    ++ "    prune         移植ツールが付けたマーカーを除去し、不要な書式警告を削除する\n"
    ++ "    consts        JavaScriptの指定付き定数からCのヘッダーと実装ファイルを生成する\n"
    ++ "\noptions:\n  -h, --help      show this help message and exit\n"
  options := [helpOption]
  places := [⟨"command", .rest⟩]

def pruneUsage : String :=
  "usage: objc-port-tools prune [-h] [-c CONFIG] [-n] [-r REPORT] [-v]\n"
    ++ "                             [--init-config CONFIG_PATH]\n"
    ++ "                             [paths ...]\n"

def pruneGrammar : Grammar where
  program := "objc-port-tools prune"
  usage := pruneUsage
  help := pruneUsage
    ++ "\npositional arguments:\n"
    ++ "  paths                 処理するファイルまたはディレクトリ\n"
    ++ "\noptions:\n  -h, --help            show this help message and exit\n"
    ++ "  -c CONFIG, --config CONFIG\n"
    ++ s!"                        設定ファイルパス（既定: {defaultSettingsPath} があれば使用）\n"
    ++ "  -n, --dry-run         書き戻さずに差分だけを表示する\n"
    ++ "  -r REPORT, --report REPORT\n"
    ++ "                        処理結果のExcelレポート出力先\n"
    ++ "  -v, --verbose         詳細ログを有効にする\n"
    ++ "  --init-config CONFIG_PATH\n"
    ++ "                        既定値の設定ファイルを生成する\n"
  options :=
    [helpOption, ⟨.config, ["-c", "--config"], true⟩, ⟨.dryRun, ["-n", "--dry-run"], false⟩,
      ⟨.report, ["-r", "--report"], true⟩, verboseOption, ⟨.initConfig, ["--init-config"], true⟩]
  places := [⟨"paths", .any⟩]

def constantsUsage : String :=
  "usage: objc-port-tools consts [-h] [-v] output inputs [inputs ...]\n"

def constantsGrammar : Grammar where
  program := "objc-port-tools consts"
  usage := constantsUsage
  help := constantsUsage
    ++ "\npositional arguments:\n"
    ++ "  output         出力ファイルのパス（拡張子 .h / .c を含まない）\n"
    ++ "  inputs         入力JavaScriptファイル\n"
    ++ "\noptions:\n  -h, --help     show this help message and exit\n"
    ++ "  -v, --verbose  詳細ログを有効にする\n"
  options := [helpOption, verboseOption]
  places := [⟨"output", .one⟩, ⟨"inputs", .several⟩]

/-- Why a command line is no request: help was asked for, or it is at fault. -/
inductive Refusal where
  | help (text : String)
  | fault (text : String)
  deriving DecidableEq, Repr

def Grammar.complaint (grammar : Grammar) (message : String) : Refusal :=
  .fault s!"{grammar.usage}{grammar.program}: error: {message}\n"

def Grammar.refusal (grammar : Grammar) : Stop → Refusal
  | .help => .help grammar.help
  | .fault message => grammar.complaint message

namespace Reading

/-- The value given last for a choice; a value that is only `--` is dropped. -/
def value? (reading : Reading) (choice : Choice) : Option (Option String) :=
  ((reading.choices.filter fun given => given.1 = choice).getLast?.bind Prod.snd).map fun value =>
    if value = "--" then none else some value

def isChosen (reading : Reading) (choice : Choice) : Bool :=
  reading.choices.any fun given => given.1 = choice

def text? (reading : Reading) (choice : Choice) : Option String :=
  (reading.value? choice).join.filter (· ≠ "")

def argumentsOf (reading : Reading) (name : String) : List String :=
  (reading.taken.lookup name).getD []

end Reading

def PruneRequest.ofReading (reading : Reading) : PruneRequest :=
  { paths := reading.argumentsOf "paths"
    config := reading.value? .config
    dryRun := reading.isChosen .dryRun
    report := reading.text? .report
    verbose := reading.isChosen .verbose
    initConfig := reading.text? .initConfig }

def ConstantsRequest.ofReading (reading : Reading) : ConstantsRequest :=
  { output := (reading.argumentsOf "output").headD ""
    inputs := reading.argumentsOf "inputs"
    verbose := reading.isChosen .verbose }

def invalidCommand (word : String) : String :=
  s!"argument command: invalid choice: {quoted word} (choose from 'prune', 'consts')"

def readCommand (grammar : Grammar) (make : Reading → Request) (arguments : List String) :
    Except Refusal (Request × List String) := do
  let reading ← (grammar.read arguments).mapError grammar.refusal
  return (make reading, reading.leftOver)

/-- Reads a command line. A batch needs a path, unless it only writes settings. -/
def Request.parse (arguments : List String) : Except Refusal Request := do
  let reading ← (programGrammar.read arguments).mapError programGrammar.refusal
  let (request, leftOver) ← match reading.argumentsOf "command" with
    | "prune" :: rest => readCommand pruneGrammar (fun r => .prune (.ofReading r)) rest
    | "consts" :: rest => readCommand constantsGrammar (fun r => .constants (.ofReading r)) rest
    | words =>
      throw (programGrammar.complaint (invalidCommand (words.headD "")))
  let leftOver := reading.leftOver ++ leftOver
  if leftOver ≠ [] then
    let words := " ".intercalate leftOver
    throw (programGrammar.complaint s!"unrecognized arguments: {words}")
  match request with
  | .prune r =>
    if r.initConfig.isNone && r.paths = [] then
      throw (programGrammar.complaint "prune requires at least one file or directory")
    return request
  | _ => return request

end WarningSweep.Command
