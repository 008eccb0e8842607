import SyntaxReports.Benchmark.Integer

/-!
# Arguments: what the command line asks for

The command line is a list of words. A word that names an option, alone or
followed by an equals sign and a value, is read as that option; the beginning of
a name will do if no other name begins so. An option that takes a value and has
none attached takes the next word, unless that word looks like an option itself.
`Arguments.parse` reads the whole list.

Help has a name of one letter too, behind a single dash. Letters can be strung
together behind one dash, and since there is but one such letter, a dash and `h`
with anything but more of the same behind it is wrong. A word of this kind is
never a value, not even with a blank in it.

Words that belong to no option are left over. They make the command line wrong,
but only once it has been read to its end, so a request for help behind them is
still answered. The beginning of several names, on the other hand, makes it wrong
before anything is read. Every other mistake ends the reading where it stands.
-/

namespace SyntaxReports

/-- The options of the command line. -/
inductive Flag where
  /-- how many failures -/
  | facts
  /-- how many constructors in a union -/
  | constructors
  /-- how many runs that count -/
  | runs
  /-- how many runs before them -/
  | warmups
  /-- no signs of progress -/
  | noProgress
  /-- a profile of the runs -/
  | profile
  /-- how many rows of the profile -/
  | profileTop
  /-- what the profile is sorted by -/
  | profileSort
  /-- an account of the options -/
  | help
  deriving Repr, DecidableEq

/-- The names of the options, two dashes in front. -/
def Flag.names : List (String × Flag) :=
  [("--help", .help), ("--facts", .facts), ("--constructors", .constructors), ("--runs", .runs),
    ("--warmups", .warmups), ("--no-progress", .noProgress), ("--profile", .profile),
    ("--profile-top", .profileTop), ("--profile-sort", .profileSort)]

/-- The options that a name or the beginning of one can mean: the option of that
very name, or else all whose names begin so. -/
def Flag.candidates (start : List Char) : List Flag :=
  match names.find? fun (name, _) => name.toList == start with
  | some (_, flag) => [flag]
  | none => (names.filter fun (name, _) => start.isPrefixOf name.toList).map Prod.snd

/-- What the command line asks for. -/
structure Arguments where
  /-- the size of the sample -/
  facts : Int := 20000
  /-- the constructors of each union in it -/
  constructors : Int := 4
  /-- the runs that count -/
  runs : Int := 5
  /-- the runs before them -/
  warmups : Int := 1
  /-- whether to show progress -/
  progress : Bool := true
  /-- whether to profile the runs -/
  profile : Bool := false
  /-- the rows of the profile -/
  profileTop : Int := 30
  /-- what the profile is sorted by -/
  profileSort : String := "tottime"
  deriving Repr, DecidableEq

/-- What comes of reading a command line other than arguments. -/
inductive Arguments.Stop where
  /-- it asks how it is to be written -/
  | help
  /-- it is written wrong -/
  | usage
  deriving Repr, DecidableEq

namespace Arguments

/-! ## Words -/

/-- What a word of the command line is, seen by itself. -/
inductive Word where
  /-- an option, with the value after its equals sign if it has one -/
  | option (flag : Flag) (attached : Option String)
  /-- the letter of help, with what follows the letter and an equals sign -/
  | helpLetter (behind : List Char)
  /-- the beginning of several names -/
  | ambiguous
  /-- two dashes: the words after it are no options -/
  | separator
  /-- a word that looks like an option and is none -/
  | unknown
  /-- any other word -/
  | plain
  deriving Repr, DecidableEq

/-- Whether a word is a negative number, which is a value although it begins with
a dash: digits, or digits around a point with at least one behind it. A newline
at the end is passed over. -/
def isNegativeNumber (word : List Char) : Bool :=
  let isDigit (c : Char) := (Digit.value? c).isSome
  let word := if word.getLast? = some '\n' then word.dropLast else word
  match word with
  | '-' :: rest =>
    match rest.dropWhile isDigit with
    | [] => !rest.isEmpty
    | '.' :: behind => !behind.isEmpty && behind.all isDigit
    | _ => false
  | _ => false

/-- A word that begins with a dash and names no option: a lone dash, a negative
number and a word with a blank in it are ordinary words all the same. -/
def Word.ofDashed (cs : List Char) : Word :=
  if cs = ['-'] ∨ isNegativeNumber cs ∨ ' ' ∈ cs then .plain else .unknown

/-- What a word is. Only a word that begins with a dash can be an option, and a
name ends at the first equals sign. -/
def Word.of (word : String) : Word :=
  match word.toList with
  | ['-', '-'] => .separator
  | '-' :: '-' :: cs =>
    let name := '-' :: '-' :: cs.takeWhile (· ≠ '=')
    match Flag.candidates name, cs.dropWhile (· ≠ '=') with
    | [], _ => ofDashed ('-' :: '-' :: cs)
    | [flag], [] => .option flag none
    | [flag], _ :: attached => .option flag (some (String.ofList attached))
    | _, _ => .ambiguous
  | ['-', 'h'] => .option .help none
  | '-' :: 'h' :: '=' :: behind => .helpLetter behind
  | '-' :: 'h' :: behind => .helpLetter behind
  | '-' :: cs => ofDashed ('-' :: cs)
  | _ => .plain

/-! ## Reading -/

/-- The arguments with an option set that takes no value. -/
def setFlag (flag : Flag) (args : Arguments) : Option Arguments :=
  match flag with
  | .noProgress => some { args with progress := false }
  | .profile => some { args with profile := true }
  | _ => none

/-- The arguments with an option set to a value. -/
def setValue (flag : Flag) (value : String) (args : Arguments) : Option Arguments :=
  match flag with
  | .facts => (Integer.read value).map ({ args with facts := · })
  | .constructors => (Integer.read value).map ({ args with constructors := · })
  | .runs => (Integer.read value).map ({ args with runs := · })
  | .warmups => (Integer.read value).map ({ args with warmups := · })
  | .profileTop => (Integer.read value).map ({ args with profileTop := · })
  | .profileSort => some { args with profileSort := value }
  | _ => none

/-- The rest of a command line, with the arguments read so far and whether a
word was left over. -/
def parseFrom (args : Arguments) (leftOver : Bool) : List String → Except Stop Arguments
  | [] => if leftOver then throw .usage else pure args
  | word :: words =>
    match Word.of word with
    | .plain => parseFrom args true words
    | .unknown => parseFrom args true words
    | .separator => throw .usage
    | .ambiguous => throw .usage
    | .helpLetter behind =>
      if behind ≠ [] ∧ behind.all (· = 'h') then throw .help else throw .usage
    | .option .help none => throw .help
    | .option flag (some value) =>
      match setValue flag value args with
      | some args => parseFrom args leftOver words
      | none => throw .usage
    | .option flag none =>
      match setFlag flag args with
      | some args => parseFrom args leftOver words
      | none =>
        match words with
        | [] => throw .usage
        | value :: words =>
          match Word.of value, setValue flag value args with
          | .plain, some args => parseFrom args leftOver words
          | _, _ => throw .usage

/-- The arguments that a command line asks for. What it does not name keeps its
standard value, and of an option named twice the later one counts. -/
def parse (words : List String) : Except Stop Arguments :=
  if (words.takeWhile (· ≠ "--")).any (Word.of · = .ambiguous) then throw .usage
  else parseFrom {} false words

end Arguments

end SyntaxReports
