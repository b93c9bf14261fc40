import LetLang.Text

/-! # Segments

A message that is put together is a list of segments, so that padding need not be written out
before all of the message is known to be right.
-/
namespace LetLang.Template

/-- A part of a message: a text, or a character repeated. -/
inductive Segment where
  | text (text : Text)
  | repeated (count : Nat) (c : Char)
  deriving DecidableEq, Repr

namespace Segment

def toText : Segment → Text
  | .text t => t
  | .repeated count c => List.replicate count c

def length : Segment → Nat
  | .text t => t.length
  | .repeated count _ => count

def join (segments : List Segment) : Text := segments.flatMap toText

def totalLength : List Segment → Nat
  | [] => 0
  | s :: rest => s.length + totalLength rest

end Segment

end LetLang.Template
