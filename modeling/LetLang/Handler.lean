import LetLang.Diagnostic

/-! # Handling failures

A handler stands guard over a block of work. It prints the errors of the block instead of
passing them on; a fatal handler then ends the program. A crash is printed as an internal
error and passed on, unless the handler is fatal.
-/
namespace LetLang

/-- The statement of a file that is being run. -/
structure Location where
  path : Text
  line : Option Int
  deriving DecidableEq, Repr

def Location.text (l : Location) : Text :=
  "File '" ++ l.path ++ "', line " ++
    (match l.line with
      | some n => Text.ofInt n
      | none => "None") ++ ":"

/-- Whether an error ends the program, and where the work under guard comes from if from a file. -/
structure Handler where
  fatal : Bool
  location : Option Location
  deriving DecidableEq, Repr

/-- What keeps a block from coming to its end. -/
inductive Halt where
  | failed (failure : Failure)
  | interrupted
  | exit (status : Int)
  deriving DecidableEq, Repr

/-- How a block under guard ends for what is around it. Work goes on whether or not an error was
printed. -/
inductive Ending where
  | ok
  | exit (status : Int)
  | crashed (crash : Crash)
  deriving DecidableEq, Repr

namespace Handler

def initial : Handler := ⟨true, none⟩

def locate (h : Handler) (l : Location) : Handler := { h with location := some l }

def forget (h : Handler) : Handler := { h with location := none }

def tag (d : Diagnostic) : Text := if d.internal then "[internal] Error: " else "Error: "

/-- The lines of a report: the location, the message, and the place pointed at. -/
def reportLines (style : Style) (h : Handler) (d : Diagnostic) : List Text :=
  (match h.location with
    | some l => [l.text]
    | none => []) ++
  [style.alert (tag d) ++ d.styled] ++
  (if d.diagnosis && !d.subject.isEmpty && !d.internal then [d.underline style] else [])

def report (style : Style) (h : Handler) (d : Diagnostic) : Text :=
  Text.line (Text.join ['\n'] (h.reportLines style d))

def interruption : Diagnostic :=
  let message : Text := "keyboard interrupt"
  ⟨.generic, message, message, [], 0, 0, true, false⟩

/-- The diagnostic of a crash, which is the program's own fault. -/
def crashed (style : Style) (c : Crash) : Diagnostic :=
  let what := c.name ++ ": " ++ c.message
  let about (subject : Text) : Text := "unknown error: '" ++ subject ++ ['\x27']
  ⟨.generic, about what, about (style.bold what), what, 0, what.length, true, true⟩

/-- Prints a diagnostic; the handler forgets the location unless it ends the program. -/
def throw (style : Style) (h : Handler) (d : Diagnostic) (after : Ending) :
    Text × Handler × Ending :=
  (h.report style d, if h.fatal then (h, .exit 1) else (h.forget, after))

/-- What is printed when a block halts, the handler afterwards, and how the block ends. -/
def settle (style : Style) (h : Handler) : Halt → Text × Handler × Ending
  | .failed failure =>
    match failure.diagnostic style with
    | .ok d => h.throw style d .ok
    | .error c => h.throw style (crashed style c) (.crashed c)
  | .interrupted => h.throw style interruption .ok
  | .exit status => ([], h, .exit status)

end Handler

end LetLang
