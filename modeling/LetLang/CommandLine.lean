import LetLang.Text.CharClass
import LetLang.Text.Quoted

/-! # The command line

The program takes options and the name of at most one file. An option may be shortened as long
as it stays unique. An argument that begins with a dash is still a name if it is a dash alone,
a negative number, or has a space in it without being an option; after a double dash, all
arguments are names.
-/
namespace LetLang.CommandLine

structure Options where
  file : Option Text
  showEnv : Bool
  noColor : Bool
  deriving DecidableEq, Repr

inductive Request where
  | run (options : Options)
  | help
  | misuse (message : Text)
  deriving DecidableEq, Repr

inductive Flag where
  | help | showEnv | noColor
  deriving DecidableEq, Repr

def Flag.long : Flag → Text
  | .help => "--help"
  | .showEnv => "--show-env"
  | .noColor => "--no-color"

/-- An option as messages name it. -/
def Flag.title : Flag → Text
  | .help => "-h/--help"
  | f => f.long

def Flag.all : List Flag := [.help, .showEnv, .noColor]

inductive Reading where
  | name
  | flag (flag : Flag) (value : Option Text)
  | shortHelp (value : Text)
  | unknown
  | ambiguous (candidates : List Flag)
  deriving DecidableEq, Repr

/-- A text that is one line end after something, without that line end. -/
def dropLineEnd (t : Text) : Text := if t.getLast? = some '\n' then t.dropLast else t

/-- A minus sign before an integer or a decimal fraction, whose whole part may be missing. -/
def isNegativeNumber : Text → Bool
  | '-' :: rest =>
    let digits := dropLineEnd rest
    let fraction := digits.dropWhile Text.isScriptDigit
    match fraction with
    | [] => !digits.isEmpty
    | '.' :: places => !places.isEmpty && places.all Text.isScriptDigit
    | _ => false
  | _ => false

def cutValue (arg : Text) : Text × Option Text :=
  match arg.dropWhile (· != '=') with
  | [] => (arg, none)
  | _ :: value => (arg.takeWhile (· != '='), some value)

/-- An argument that begins with a dash and is no option. -/
def readOther (arg : Text) : Reading :=
  if isNegativeNumber arg || arg.contains ' ' then .name else .unknown

/-- What an argument is when it does not follow a double dash. -/
def read (arg : Text) : Reading :=
  match arg with
  | ['-'] => .name
  | '-' :: '-' :: _ =>
    let (name, value) := cutValue arg
    match Flag.all.filter fun flag => name.isPrefixOf flag.long with
    | [] => readOther arg
    | [flag] => .flag flag value
    | flags => .ambiguous flags
  | ['-', 'h'] => .flag .help none
  | '-' :: 'h' :: '=' :: value => .shortHelp value
  | '-' :: 'h' :: value => .shortHelp value
  | '-' :: _ => readOther arg
  | _ => .name

/-- Short options may share a dash. The part of such a group that no option explains, if any;
an empty group has nothing but an equals sign before it. -/
def unexplained : Text → Option Text
  | [] => some []
  | ['h'] => none
  | 'h' :: rest => unexplained rest
  | value => some value

def ignoredValue (flag : Flag) (value : Text) : Text :=
  "argument " ++ flag.title ++ ": ignored explicit argument " ++ Text.quoted value

structure Scan where
  options : Options
  extras : List Text
  atFile : Bool
  deriving DecidableEq, Repr

namespace Scan

def start : Scan := ⟨⟨none, false, false⟩, [], false⟩

/-- Takes an argument as the file, or sets it aside if there is one. -/
def takeName (s : Scan) (arg : Text) : Scan :=
  match s.options.file with
  | none => ⟨{ s.options with file := some arg }, s.extras, true⟩
  | some _ => ⟨s.options, s.extras ++ [arg], false⟩

def setAside (s : Scan) (arg : Text) : Scan := ⟨s.options, s.extras ++ [arg], false⟩

/-- Takes the arguments from a double dash on. The double dash itself has a place only next to
the file. -/
def takeRest (s : Scan) (rest : List Text) : Scan :=
  let s := if s.options.file.isNone || s.atFile then s else s.setAside ['-', '-']
  rest.foldl takeName s

def request (s : Scan) : Request :=
  if s.extras.isEmpty then .run s.options
  else .misuse ("unrecognized arguments: " ++ Text.join [' '] s.extras)

def args (s : Scan) : List Text → Request
  | [] => s.request
  | arg :: rest =>
    if arg = ['-', '-'] then (s.takeRest rest).request
    else
      match read arg with
      | .name => (s.takeName arg).args rest
      | .flag flag (some value) => .misuse (ignoredValue flag value)
      | .flag .help none => .help
      | .flag .showEnv none => { s with options.showEnv := true, atFile := false }.args rest
      | .flag .noColor none => { s with options.noColor := true, atFile := false }.args rest
      | .shortHelp value =>
        match unexplained value with
        | none => .help
        | some value => .misuse (ignoredValue .help value)
      | .unknown | .ambiguous _ => (s.setAside arg).args rest

end Scan

/-- The message about the first ambiguous option, which is looked for before anything else. -/
def ambiguity? : List Text → Option Text
  | [] => none
  | arg :: rest =>
    if arg = ['-', '-'] then none
    else
      match read arg with
      | .ambiguous flags =>
        some ("ambiguous option: " ++ arg ++ " could match " ++
          Text.join ", " (flags.map Flag.long))
      | _ => ambiguity? rest

def request (args : List Text) : Request :=
  match ambiguity? args with
  | some message => .misuse message
  | none => Scan.start.args args

def usage : Text := "usage: minicaml [-h] [--show-env] [--no-color] [file]\n"

def helpText : Text :=
  usage ++ "\nminimal OCaml-like toplevel\n\npositional arguments:\n" ++
  "  file        file to interpret and run (if empty, goes to command-line mode)\n\n" ++
  "options:\n  -h, --help  show this help message and exit\n" ++
  "  --show-env  print global bindings after every statement\n" ++
  "  --no-color  disable colored error messages\n"

def misuseText (message : Text) : Text := usage ++ Text.line ("minicaml: error: " ++ message)

end LetLang.CommandLine
