import LetLang.Program

/-! # The command

Runs the program on the real command line, terminal and files.
-/
namespace LetLang

def printText (t : Text) : IO Unit := do
  let out ← IO.getStdout
  out.putStr (String.ofList t)
  out.flush

/-- The status with which the process ends. -/
def Ending.status : Ending → UInt32
  | .ok => 0
  | .exit status => status.toNat.toUInt32
  | .crashed _ => 1

def readText (path : Text) : IO (Option Text) := do
  try
    return some (← IO.FS.readFile (String.ofList path)).toList
  catch _ => return none

def terminalStyle : IO Style := do
  let off ← IO.getEnv "NO_COLOR"
  let tty ← (← IO.getStdout).isTty
  return if tty && off.isNone then .colored else .plain

/-- Answers typed lines until the shell stops. Lines already read come before the input. -/
partial def converse (style : Style) (sh : Shell) (waiting : List Text) : IO Reply := do
  match waiting with
  | line :: waiting =>
    let r := sh.feed style (Program.shellRoom Program.callLimit) line
    printText r.out
    if r.halts then return r else converse style r.shell waiting
  | [] =>
    printText sh.prompt
    let read ← (← IO.getStdin).getLine
    if read.isEmpty then
      let r := sh.feed style (Program.shellRoom Program.callLimit) Shell.endLine
      printText r.out
      return r
    else
      match Text.inputLines (Text.unifyLineEnds read.toList) with
      | [] => converse style sh [[]]
      | lines => converse style sh lines

def perform (options : CommandLine.Options) : IO UInt32 := do
  let style := Program.styleOf (← terminalStyle) options
  match options.file with
  | some path =>
    let text ← readText path
    let (out, ending) := Program.runFile Program.callLimit style path options.showEnv text
    printText out
    return ending.status
  | none =>
    printText Program.greeting
    let r ← converse style (.new .initial options.showEnv) []
    let (report, ending) := Program.closeShell style r
    printText report
    return ending.status

end LetLang

open LetLang in
def main (args : List String) : IO UInt32 := do
  match CommandLine.request (args.map String.toList) with
  | .help =>
    printText CommandLine.helpText
    return 0
  | .misuse message =>
    (← IO.getStderr).putStr (String.ofList (CommandLine.misuseText message))
    return 2
  | .run options => perform options
