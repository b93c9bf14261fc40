import LetLang.Handler
import LetLang.Statement
import LetLang.Text.Lines

/-! # Sessions

A session runs statements one after the other in one environment. It collects lines until a
statement is complete, and keeps the printed form of each output until it is read.
-/
namespace LetLang

/-- What one statement leaves to the next: the environment, the results that have not been read,
oldest first, and the text of a statement that is not complete. The environment is shown after each
result if that is asked for. -/
structure Session where
  path : Text
  interactive : Bool
  showEnv : Bool
  handler : Handler
  env : Env
  results : List Text
  pending : Text
  deriving DecidableEq, Repr

namespace Session

def inputPath : Text := "<in>"

/-- The session of typed input, with nothing run. It makes the handler forgiving. -/
def typed (handler : Handler) (showEnv : Bool) : Session :=
  ⟨inputPath, true, showEnv, { handler with fatal := false }, .empty, [], []⟩

/-- A session with nothing run. A file must not have the name of typed input. -/
def new (handler : Handler) (path : Text) (interactive showEnv : Bool) : Except Failure Session :=
  if interactive then .ok { typed handler showEnv with path }
  else if path = inputPath then
    .error (.complaint (.about .generic "'<in>' is a reserved filename" [[]]))
  else .ok ⟨path, false, showEnv, handler, .empty, [], []⟩

/-- The statements that a line completes. The text after them waits for the next line, unless
it is blank. -/
def complete (s : Session) (line : Text) : List Text × Session :=
  let text := if s.pending.isEmpty then line else s.pending ++ '\n' :: line
  let (statements, rest) := Statement.split text
  (statements, { s with pending := if Text.blank rest then [] else rest })

def flush (s : Session) : Text × Session := (s.pending, { s with pending := [] })

/-- Runs a statement and keeps its result. A failure leaves the location of the statement with
the handler. -/
def add (room : Nat) (s : Session) (statement : Text) (line : Option Int) :
    Except Failure Unit × Session :=
  let located := if s.interactive then s.handler else s.handler.locate ⟨s.path, line⟩
  let (result, env) := Statement.evaluate room statement s.env
  match result with
  | .error e => (.error e, { s with env, handler := located })
  | .ok text =>
    let handler := if s.interactive then s.handler else located.forget
    (.ok (), { s with env, handler, results := s.results ++ [text] })

def pop (s : Session) : Except Failure Text × Session :=
  match s.results with
  | [] => (.error (.crash .emptyQueue), s)
  | result :: results => (.ok result, { s with results })

/-- The bindings of the environment, printed like the outputs that made them. -/
def envLines (s : Session) : List Text :=
  s.env.bindings.map fun (name, value) => Output.text ⟨some name, value⟩

/-- The environment as it is printed after a result. -/
def envListing (s : Session) : Text :=
  if s.envLines.isEmpty then Text.line "  (empty environment)"
  else s.envLines.flatMap fun binding => Text.line ("  " ++ binding)

def report (s : Session) : Text × Session :=
  (s.results.flatMap fun result => Text.line result ++ (if s.showEnv then s.envListing else []),
    { s with results := [] })

def reset (s : Session) : Session := { s with env := .empty, pending := [] }

/-- The outcome of running several statements: what was printed, the session, and the failure
that kept the rest from being run. -/
structure Progress where
  out : Text
  session : Session
  failure : Option Failure
  deriving DecidableEq, Repr

def Progress.after (out : Text) (p : Progress) : Progress := { p with out := out ++ p.out }

/-- Runs statements up to the first failure, printing each result. -/
def runStatements (room : Nat) (s : Session) (line : Option Int) : List Text → Progress
  | [] => ⟨[], s, none⟩
  | statement :: rest =>
    match s.add room statement line with
    | (.error e, s) => ⟨[], s, some e⟩
    | (.ok (), s) =>
      let (out, s) := s.report
      (s.runStatements room line rest).after out

def runLines (room : Nat) (s : Session) (before : Nat) : List Text → Progress
  | [] => ⟨[], s, none⟩
  | line :: rest =>
    let (statements, s) := s.complete line
    let p := s.runStatements room (some (before + 1)) statements
    match p.failure with
    | some _ => p
    | none => (p.session.runLines room (before + 1) rest).after p.out

/-- Runs the text of a file. Text that no terminator completes is an error at the last line. -/
def runText (room : Nat) (s : Session) (text : Text) : Progress :=
  let lines := Text.fileLines text
  let p := s.runLines room 0 lines
  match p.failure with
  | some _ => p
  | none =>
    let (pending, s) := p.session.flush
    if pending.isEmpty then ⟨p.out, s, none⟩
    else
      match s.add room pending (some lines.length) with
      | (.error e, s) => ⟨p.out, s, some e⟩
      | (.ok (), s) => ⟨p.out, s, none⟩

def unopened (path : Text) : Failure :=
  if path.contains '\x00' then .crash .nullInPath
  else
    .complaint ⟨.generic, "'" ++ Template.slot ++ "' could not be opened", [.text path], 0, none,
      false, false⟩

/-- Runs the file of the session, given its text if it can be read. -/
def runFile (room : Nat) (s : Session) : Option Text → Progress
  | some text => s.runText room (Text.unifyLineEnds text)
  | none => ⟨[], s, some (unopened s.path)⟩

end Session

end LetLang
