import LetLang.Numeral
import LetLang.Style
import LetLang.Subject
import LetLang.Template

/-! # Diagnostics

What is said about an error: a message, and a place in the text that the message is about. A
diagnostic is made from a complaint, which gives the message as a template and its subjects.
Making it can crash, as can some other steps; a crash is a fault of the program itself and not
of the statement that was being run.
-/
namespace LetLang

inductive ErrorKind where
  | generic | boundary | lex | parse | evaluation | typeMismatch | unboundName | divisionByZero
  deriving DecidableEq, Repr

namespace ErrorKind

def isEvaluation : ErrorKind → Bool
  | .evaluation | .typeMismatch | .unboundName | .divisionByZero => true
  | _ => false

/-- Whether errors of a kind point at their place when nothing else is said: tokens and
expressions carry no positions. -/
def diagnoses (kind : ErrorKind) : Bool := kind != .parse && !kind.isEvaluation

end ErrorKind

/-- A fault of the program itself. -/
inductive Crash where
  | numeral (fault : Numeral.Fault)
  | emptyQueue
  | noSubject
  | template (fault : Template.Fault)
  | nullInPath
  | recursion
  | other (name message : Text)
  deriving DecidableEq, Repr

/-- How a text that is no numeral is reported; a long text is cut. -/
def Numeral.Fault.message : Numeral.Fault → Text
  | .malformed text =>
    "invalid literal for int() with base 10: " ++ (Text.quoted text).take 200
  | .tooManyDigits count =>
    "Exceeds the limit (4300 digits) for integer string conversion: value has " ++
      Text.ofNat count ++
      " digits; use sys.set_int_max_str_digits() to increase the limit"

namespace Crash

def report : Crash → Text × Text
  | .numeral fault => ("ValueError", fault.message)
  | .emptyQueue => ("IndexError", "pop from empty list")
  | .noSubject => ("IndexError", "list index out of range")
  | .template fault => (fault.name, fault.message)
  | .nullInPath => ("ValueError", "embedded null byte")
  | .recursion => ("RecursionError", "maximum recursion depth exceeded")
  | .other name message => (name, message)

def name (c : Crash) : Text := c.report.1

def message (c : Crash) : Text := c.report.2

end Crash

/-- An error before its message is put together. The first subject is what the error is about.
Offsets below zero count from the end of its text; without an end, the place reaches to the end
of it. -/
structure Complaint where
  kind : ErrorKind
  template : Text
  subjects : List Subject
  start : Int
  stop : Option Int
  diagnosis : Bool
  internal : Bool
  deriving DecidableEq, Repr

/-- A complaint about texts, and about no place in particular. -/
def Complaint.about (kind : ErrorKind) (template : Text) (subjects : List Text) : Complaint :=
  ⟨kind, template, subjects.map .text, 0, none, kind.diagnoses, false⟩

def Complaint.substitutes (c : Complaint) : List Text := c.subjects.map Subject.shown

@[simp] theorem Complaint.substitutes_about (kind : ErrorKind) (template : Text)
    (subjects : List Text) : (about kind template subjects).substitutes = subjects :=
  Subject.map_shown_text subjects

structure Diagnostic where
  kind : ErrorKind
  message : Text
  styled : Text
  subject : Text
  start : Int
  stop : Int
  diagnosis : Bool
  internal : Bool
  deriving DecidableEq, Repr

/-- The diagnostic of a complaint. The template is filled twice, with the subjects as they are and
with the subjects marked up, and has to take both. -/
def Complaint.diagnostic (style : Style) (c : Complaint) : Except Crash Diagnostic :=
  match Template.fill c.template c.substitutes,
    Template.fill c.template (c.substitutes.map style.bold) with
  | .error fault, _ | _, .error fault => .error (.template fault)
  | .ok message, .ok styled =>
    match c.substitutes with
    | [] => .error .noSubject
    | subject :: _ =>
      .ok ⟨c.kind, message, styled, subject, c.start, c.stop.getD subject.length, c.diagnosis,
        c.internal⟩

/-- The place in a text that an offset stands for, or one beyond its end. -/
def Text.position (t : Text) (offset : Int) : Nat :=
  if offset < 0 then (t.length + offset).toNat else offset.toNat

namespace Diagnostic

/-- The subject before the place pointed at, the place, and the rest. The place is meant to have
at least one character; offsets below zero may leave it empty. -/
def parts (d : Diagnostic) : Text × Text × Text :=
  let start := d.subject.position d.start
  let stop := d.subject.position (max d.stop (d.start + 1))
  (d.subject.take start, (d.subject.take stop).drop start, d.subject.drop stop)

def marker (length : Nat) : Text := '^' :: List.replicate (length - 1) '~'

/-- The subject on a line of its own, and under it a marker at the place. -/
def underline (style : Style) (d : Diagnostic) : Text :=
  let (before, place, after) := d.parts
  "  " ++ before ++ style.alert place ++ after ++ "\n  " ++ List.replicate before.length ' ' ++
    style.alert (marker place.length)

end Diagnostic

/-- Why a step of the program fails: an error to report, or a crash. -/
inductive Failure where
  | complaint (complaint : Complaint)
  | crash (crash : Crash)
  deriving DecidableEq, Repr

def Failure.diagnostic (style : Style) : Failure → Except Crash Diagnostic
  | .complaint c => c.diagnostic style
  | .crash c => .error c

end LetLang
