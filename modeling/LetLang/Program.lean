import LetLang.CommandLine
import LetLang.Shell

/-! # The program

A run of the whole program as a function of its command line, its input and the files it can
read: what it prints, what it says about a wrong command line, and how it ends. A limit tells how
many calls may be open at once. What the program calls until it reads a statement leaves less room
for the statements of a shell than for those of a file.
-/
namespace LetLang.Program

/-- The limit of calls, unless another one is set. -/
def callLimit : Nat := 1000

/-- The calls that are open where a statement of a file is read: five lead to the statement and
eight to its first operand, and three more look at the operand. -/
def fileCalls : Nat := 16

/-- The loop that reads typed lines and the call that answers a line are open, too. -/
def shellCalls : Nat := fileCalls + 2

def fileRoom (limit : Nat) : Nat := limit - fileCalls

def shellRoom (limit : Nat) : Nat := limit - shellCalls

structure Result where
  out : Text
  err : Text
  ending : Ending
  deriving DecidableEq, Repr

def styleOf (style : Style) (options : CommandLine.Options) : Style :=
  if options.noColor then .plain else style

def runFile (limit : Nat) (style : Style) (path : Text) (showEnv : Bool) (text : Option Text) :
    Text × Ending :=
  match Session.new .initial path false showEnv with
  | .error failure =>
    let (report, _, ending) := Handler.initial.settle style (.failed failure)
    (report, ending)
  | .ok session =>
    let p := session.runFile (fileRoom limit) text
    match p.failure with
    | none => (p.out, .ok)
    | some failure =>
      let (report, _, ending) := p.session.handler.settle style (.failed failure)
      (p.out ++ report, ending)

/-- What the program's handler adds when the shell has come to its end. It is the handler of the
session too, so a crash is reported a second time. -/
def closeShell (style : Style) (r : Reply) : Text × Ending :=
  match r.ending with
  | .crashed crash =>
    let (report, _, ending) := r.shell.session.handler.settle style (.failed (.crash crash))
    (report, ending)
  | ending => ([], ending)

def greeting : Text := Text.line Shell.intro

def runShell (limit : Nat) (style : Style) (showEnv : Bool) (lines : List Text) : Text × Ending :=
  let r := (Shell.new .initial showEnv).runLines style (shellRoom limit) lines
  let (report, ending) := closeShell style r
  (greeting ++ (r.out ++ report), ending)

def run (limit : Nat) (style : Style) (args : List Text) (input : Text)
    (files : Text → Option Text) : Result :=
  match CommandLine.request args with
  | .help => ⟨CommandLine.helpText, [], .exit 0⟩
  | .misuse message => ⟨[], CommandLine.misuseText message, .exit 2⟩
  | .run options =>
    let style := styleOf style options
    let (out, ending) :=
      match options.file with
      | some path => runFile limit style path options.showEnv (files path)
      | none =>
        runShell limit style options.showEnv (Text.inputLines (Text.unifyLineEnds input))
    ⟨out, [], ending⟩

end LetLang.Program
