import WarningSweep.Text.CharClass
import WarningSweep.Text.Quoted

/-!
# Reading command lines

A command line is a list of words. A word with a dash in front is an option, which may be shortened
as long as it stays clear, and short options may be written together. All other words are arguments,
and so are all words after a word `--`. Arguments go to the places of the command in order; those
that find no place, and options that are unknown, are left over.
-/

namespace WarningSweep.Command

inductive Choice where
  | help
  | config
  | dryRun
  | report
  | verbose
  | initConfig
  deriving DecidableEq, Repr

structure Opt where
  choice : Choice
  names : List String
  takesValue : Bool := false
  deriving DecidableEq, Repr

/-- How many arguments a place takes: exactly one, any number, at least one, or one and then all
words that follow. -/
inductive Arity where
  | one
  | any
  | several
  | rest
  deriving DecidableEq, Repr

structure Place where
  name : String
  arity : Arity
  deriving DecidableEq, Repr

structure Grammar where
  /-- The name of the command in messages. -/
  program : String
  usage : String
  help : String
  options : List Opt
  places : List Place
  deriving DecidableEq, Repr

/-- An option as it was found: under which name, and the value written into the same word. -/
structure Found where
  option : Opt
  name : String
  value : Option String
  deriving DecidableEq, Repr

inductive Kind where
  | plain
  | dashes
  | option (found : Option Found)
  deriving DecidableEq, Repr

structure Word where
  text : String
  kind : Kind
  deriving DecidableEq, Repr

inductive Stop where
  | help
  | fault (message : String)
  deriving DecidableEq, Repr

def Opt.title (option : Opt) : String := "/".intercalate option.names

def Opt.fault (option : Opt) (message : String) : Stop :=
  .fault s!"argument {option.title}: {message}"

def Opt.ignored (option : Opt) (value : String) : Stop :=
  option.fault s!"ignored explicit argument {quoted value}"

def splitValue (word : String) : String × Option String :=
  let front := word.toList.takeWhile (· ≠ '=')
  match word.toList.dropWhile (· ≠ '=') with
  | [] => (word, none)
  | _ :: value => (String.ofList front, some (String.ofList value))

/-- Whether a word is a negative number, in the digits of any script, which is an argument. A line
feed that ends the word does not count. -/
def isNegativeNumber (word : String) : Bool :=
  match word.toList with
  | '-' :: rest =>
    let body := if rest.getLast? = some '\n' then rest.dropLast else rest
    let whole := body.takeWhile isDecimalDigit
    match body.dropWhile isDecimalDigit with
    | [] => whole ≠ []
    | '.' :: fraction => fraction ≠ [] && fraction.all isDecimalDigit
    | _ => false
  | _ => false

namespace Grammar

def option? (grammar : Grammar) (name : String) : Option Opt :=
  grammar.options.find? fun option => option.names.contains name

/-- Everything that a word which is no option's name can stand for. -/
def candidates (grammar : Grammar) (word : String) : List Found :=
  let all := grammar.options.flatMap fun option => option.names.map fun name => (option, name)
  if word.startsWith "--" then
    let (front, value) := splitValue word
    all.filterMap fun (option, name) =>
      if front.isPrefixOf name then some ⟨option, name, value⟩ else none
  else
    let short := String.ofList (word.toList.take 2)
    let value := String.ofList (word.toList.drop 2)
    all.filterMap fun (option, name) =>
      if name = short then some ⟨option, name, some value⟩
      else if word.isPrefixOf name then some ⟨option, name, none⟩
      else none

/-- The kind of a word that has a dash in front and something after it. -/
def dashKind (grammar : Grammar) (word : String) : Except Stop Kind :=
  let (name, value) := splitValue word
  match value, grammar.option? name with
  | some value, some option => .ok (.option (some ⟨option, name, some value⟩))
  | _, _ =>
    match grammar.candidates word with
    | [found] => .ok (.option (some found))
    | [] =>
      if isNegativeNumber word || word.contains ' ' then .ok .plain else .ok (.option none)
    | several =>
      let names := ", ".intercalate (several.map Found.name)
      .error (.fault s!"ambiguous option: {word} could match {names}")

def kind (grammar : Grammar) (word : String) : Except Stop Kind :=
  match word.toList with
  | '-' :: more =>
    match grammar.option? word with
    | some option => .ok (.option (some ⟨option, word, none⟩))
    | none => if more = [] then .ok .plain else grammar.dashKind word
  | _ => .ok .plain

def words (grammar : Grammar) : List String → Except Stop (List Word)
  | [] => .ok []
  | "--" :: rest => .ok (⟨"--", .dashes⟩ :: rest.map fun word => ⟨word, .plain⟩)
  | word :: rest => do
    let kind ← grammar.kind word
    return ⟨word, kind⟩ :: (← grammar.words rest)

/-- The choices of short options written together: `option` and then the letters of `value`. -/
def takeTogether (grammar : Grammar) (option : Opt) (following : List Word) :
    (value : List Char) → Except Stop (List (Choice × Option String) × List Word)
  | [] =>
    if option.takesValue then
      match following with
      | ⟨text, .plain⟩ :: rest => .ok ([(option.choice, some text)], rest)
      | _ => .error (option.fault "expected one argument")
    else .ok ([(option.choice, none)], following)
  | letter :: value =>
    if option.takesValue then
      .ok ([(option.choice, some (String.ofList (letter :: value)))], following)
    else
      match grammar.option? (String.ofList ['-', letter]) with
      | none => .error (option.ignored (String.ofList (letter :: value)))
      | some next => do
        let (choices, rest) ← grammar.takeTogether next following value
        return ((option.choice, none) :: choices, rest)

def takeOption (grammar : Grammar) (found : Found) (following : List Word) :
    Except Stop (List (Choice × Option String) × List Word) :=
  match found.value with
  | none => grammar.takeTogether found.option following []
  | some value =>
    if found.option.takesValue then .ok ([(found.option.choice, some value)], following)
    else if found.name.startsWith "--" || value = "" then .error (found.option.ignored value)
    else grammar.takeTogether found.option following value.toList

end Grammar

def Kind.isOption : Kind → Bool
  | .option _ => true
  | _ => false

/-- How many words a place takes from the front, as many as it can. -/
def Arity.take? (arity : Arity) (kinds : List Kind) : Option Nat :=
  let dashes := (kinds.takeWhile (· = .dashes)).length
  let after := kinds.drop (dashes + 1)
  let isPlain := (kinds.drop dashes).head? = some .plain
  match arity with
  | .any => some (kinds.takeWhile fun kind => !kind.isOption).length
  | .one => if isPlain then some (dashes + 1 + (after.takeWhile (· = .dashes)).length) else none
  | .several =>
    if isPlain then some (dashes + 1 + (after.takeWhile fun kind => !kind.isOption).length)
    else none
  | .rest => if isPlain then some kinds.length else none

/-- How many words each of the places takes, if all of them find their words. -/
def takeAll? : List Place → List Kind → Option (List Nat)
  | [], _ => some []
  | place :: places, kinds => do
    let count ← place.arity.take? kinds
    return count :: (← takeAll? places (kinds.drop count))

/-- How many words the places take: of the first `count` places as many as find their words. -/
def takeMost (places : List Place) (kinds : List Kind) : (count : Nat) → List Nat
  | 0 => []
  | count + 1 => (takeAll? (places.take (count + 1)) kinds).getD (takeMost places kinds count)

structure Reading where
  places : List Place
  taken : List (String × List String) := []
  choices : List (Choice × Option String) := []
  leftOver : List String := []
  deriving DecidableEq, Repr

namespace Reading

/-- The arguments of a place: the first `--` among them only separates. -/
def arguments (place : Place) (words : List Word) : List String :=
  let texts := words.map Word.text
  if place.arity = .rest then texts else texts.erase "--"

def fill (reading : Reading) : (counts : List Nat) → List Word → Reading × List Word
  | [], words => (reading, words)
  | count :: counts, words =>
    match reading.places with
    | [] => (reading, words)
    | place :: places =>
      let taken := reading.taken ++ [(place.name, arguments place (words.take count))]
      { reading with places, taken }.fill counts (words.drop count)

def takeArguments (reading : Reading) (words : List Word) : Reading × List Word :=
  reading.fill (takeMost reading.places (words.map Word.kind) reading.places.length) words

/-- Reads the option in front, which leaves the words that follow it and its value. -/
def takeOption (grammar : Grammar) (reading : Reading) (word : Word) (rest : List Word) :
    Except Stop (Reading × List Word) :=
  match word.kind with
  | .option (some found) => do
    let (choices, rest) ← grammar.takeOption found rest
    if choices.any fun choice => choice.1 = .help then throw .help
    return ({ reading with choices := reading.choices ++ choices }, rest)
  | _ => return ({ reading with leftOver := reading.leftOver ++ [word.text] }, rest)

/-- Reads words up to the last option, and then the arguments after it. Every step reads at least
one word, so `steps` is never used up when there are as many steps as words. -/
def finish (grammar : Grammar) (reading : Reading) : (steps : Nat) → List Word → Except Stop Reading
  | 0, _ => .ok reading
  | steps + 1, words =>
    if words.all fun word => !word.kind.isOption then
      let (reading, rest) := reading.takeArguments words
      .ok { reading with leftOver := reading.leftOver ++ rest.map Word.text }
    else
      let (filled, rest) :=
        if (words.head?.map fun word => word.kind.isOption).getD true then (reading, words)
        else reading.takeArguments words
      if rest.length < words.length then filled.finish grammar steps rest
      else
        let skipped := words.takeWhile fun word => !word.kind.isOption
        let filled := { filled with leftOver := filled.leftOver ++ skipped.map Word.text }
        match words.dropWhile fun word => !word.kind.isOption with
        | [] => .ok filled
        | option :: rest => do
          let (reading, rest) ← takeOption grammar filled option rest
          reading.finish grammar steps rest

def isRequired (place : Place) : Bool := place.arity ≠ .any

end Reading

def Grammar.read (grammar : Grammar) (arguments : List String) : Except Stop Reading := do
  let words ← grammar.words arguments
  let reading ← Reading.finish grammar { places := grammar.places } (words.length + 1) words
  match reading.places.filter Reading.isRequired with
  | [] => return reading
  | missing =>
    let names := ", ".intercalate (missing.map Place.name)
    throw (.fault s!"the following arguments are required: {names}")

end WarningSweep.Command
