import LetLang.Session

/-! # The shell

The shell reads typed lines. A line that begins with a hash sign while no statement is waiting
holds a directive, and what follows the directive is read like a line of its own. All other
lines go to the session, which runs the statements they complete.
-/
namespace LetLang

/-- A session at a terminal, and what asks for its next line. -/
structure Shell where
  session : Session
  prompt : Text
  deriving DecidableEq, Repr

structure Reply where
  out : Text
  ending : Ending
  stop : Bool
  shell : Shell
  deriving DecidableEq, Repr

/-- Whether the shell reads no further line after an answer. -/
def Reply.halts (r : Reply) : Bool := r.stop || r.ending != Ending.ok

def Reply.after (out : Text) (r : Reply) : Reply := { r with out := out ++ r.out }

namespace Shell

def intro : Text :=
  "minicaml toplevel :: Python backend\nType '#help;;' for more information."

def helpText : Text :=
  "Welcome to the minicaml toplevel!\n\nStatements end with ';;' and may span several lines. " ++
  "Try 'let foo = 2 + 3 * 4;;', then\n'let foo = 5 in foo * 2;;' and 'foo;;': the local 'foo' " ++
  "only shadows the global one.\n\nValues are ints, bools ('true', 'false') and int lists " ++
  "('[1; 2; 3]').\n\nDirectives:\n  #env;;    list global bindings\n  #reset;;  remove every " ++
  "global binding\n  #help;;   show this message\n  #quit;;   exit (so does Ctrl-D)"

def newPrompt : Text := ['#', ' ']

def waitingPrompt : Text := [' ', ' ']

/-- The line that stands for the end of the input. -/
def endLine : Text := ['E', 'O', 'F']

def new (handler : Handler) (showEnv : Bool) : Shell := ⟨.typed handler showEnv, newPrompt⟩

/-- The answer that prints something and goes on. -/
def say (sh : Shell) (out : Text) : Reply := ⟨out, .ok, false, sh⟩

/-- The answer to work done under the guard of the session's handler. -/
def guard (style : Style) (sh : Shell) (p : Session.Progress) : Reply :=
  match p.failure with
  | none => ⟨p.out, .ok, false, { sh with session := p.session }⟩
  | some failure =>
    let (report, handler, ending) := p.session.handler.settle style (.failed failure)
    ⟨p.out ++ report, ending, false, { sh with session := { p.session with handler } }⟩

def directive (style : Style) (sh : Shell) (name : Text) : Reply :=
  if name = "#quit" then ⟨[], .ok, true, sh⟩
  else if name = "#env" then sh.say (sh.session.envLines.flatMap Text.line)
  else if name = "#reset" then { sh with session := sh.session.reset }.say []
  else if name = "#help" then sh.say (Text.line helpText)
  else
    sh.guard style ⟨[], sh.session, some (.complaint ⟨.generic,
      "unknown directive '" ++ Template.slot ++ "'", [.text name], 0, none, false, false⟩)⟩

def statements (style : Style) (room : Nat) (sh : Shell) (line : Text) : Reply :=
  let (complete, session) := sh.session.complete line
  let prompt := if session.pending.isEmpty then newPrompt else waitingPrompt
  { sh with prompt }.guard style (session.runStatements room none complete)

def takesDirective (sh : Shell) (line : Text) : Bool :=
  sh.session.pending.isEmpty && line.head? == some '#'

/-- The name of the directive at the front of a line, and the line after it, stripped. -/
def cutDirective (line : Text) : Text × Text :=
  match Statement.cut? line with
  | some (name, rest) => (Text.strip name, Text.strip rest)
  | none => (Text.strip line, [])

/-- Answers a line that is stripped and not empty: directives first, then statements. What is behind
a directive is answered by a call of its own, so that it has room for one call less, and without room
no such call is made. The few calls that are left where no statement has room are not counted. -/
def command (style : Style) (room : Nat) (sh : Shell) (line : Text) : Reply :=
  if sh.takesDirective line then
    let r := sh.directive style (cutDirective line).1
    if r.halts then r
    else if (cutDirective line).2 = [] then r
    else
      match room with
      | 0 => { r with ending := .crashed .recursion }
      | room + 1 => (r.shell.command style room (cutDirective line).2).after r.out
  else sh.statements style room line

/-- Answers the end of the input. Text that still waits for its terminator is run, so that the
missing terminator is reported. -/
def endInput (style : Style) (room : Nat) (sh : Shell) : Reply :=
  let (pending, session) := sh.session.flush
  if pending.isEmpty then ⟨['\n'], .ok, true, { sh with session }⟩
  else
    let p : Session.Progress :=
      match session.add room pending none with
      | (.error e, session) => ⟨[], session, some e⟩
      | (.ok (), session) => ⟨[], session, none⟩
    let r := { sh with session }.guard style p
    { r with stop := r.ending == Ending.ok }.after ['\n']

def feed (style : Style) (room : Nat) (sh : Shell) (line : Text) : Reply :=
  let line := Text.strip line
  if line = [] then sh.say []
  else if line = endLine then sh.endInput style room
  else sh.command style room line

/-- Answers the lines of the input until one asks to stop or a crash escapes, and then the end
of the input. Each line is asked for by the prompt. -/
def runLines (style : Style) (room : Nat) (sh : Shell) : List Text → Reply
  | [] => (sh.feed style room endLine).after sh.prompt
  | line :: rest =>
    let r := (sh.feed style room line).after sh.prompt
    if r.halts then r else (r.shell.runLines style room rest).after r.out

end Shell

end LetLang
