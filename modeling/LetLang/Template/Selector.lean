import LetLang.Template.Layout

/-! # Selectors

The name of a slot first tells the subject, and then by selectors which part of it is meant: a dot
before the name of a member, brackets around the key of an item.
-/
namespace LetLang.Template

/-- A step from a value to a part of it. -/
inductive Selector where
  | member (name : Text)
  | item (key : Text)
  | stray
  | unclosed
  deriving DecidableEq, Repr

/-- Where the reading of selectors stands; what was read of a selector is reversed. -/
inductive SelectorPlace where
  | start
  | member (name : Text)
  | item (key : Text)
  deriving DecidableEq, Repr

def selectorsFrom : SelectorPlace → Text → List Selector
  | .start, [] => []
  | .start, c :: rest =>
    if c = '.' then selectorsFrom (.member []) rest
    else if c = '[' then selectorsFrom (.item []) rest
    else [.stray]
  | .member name, [] => [.member name.reverse]
  | .member name, c :: rest =>
    if c = '.' then .member name.reverse :: selectorsFrom (.member []) rest
    else if c = '[' then .member name.reverse :: selectorsFrom (.item []) rest
    else selectorsFrom (.member (c :: name)) rest
  | .item _, [] => [.unclosed]
  | .item key, c :: rest =>
    if c = ']' then .item key.reverse :: selectorsFrom .start rest
    else selectorsFrom (.item (c :: key)) rest

def beginsSelector (c : Char) : Bool := c == '.' || c == '['

/-- The part of a slot's name that tells the subject. -/
def subjectName (name : Text) : Text := name.takeWhile (!beginsSelector ·)

def selectors (name : Text) : List Selector :=
  selectorsFrom .start (name.dropWhile (!beginsSelector ·))

/-- The number that a text is, if it is one. -/
def wholeNumber (t : Text) : Except Fault (Option Nat) :=
  (takeNumber t).map fun (number, rest) => if rest.isEmpty then number else none

/-- One step from a value. A key that is a number is one of a numbered item. -/
def selectPart (v : Reflection.Value) : Selector → Except Fault Reflection.Value
  | .stray => .error .strayAfterBracket
  | .unclosed => .error .openBracket
  | .member name =>
    if name.isEmpty then .error .emptySelector else (v.member name).mapError .access
  | .item key => do
    let number ← wholeNumber key
    if key.isEmpty then throw .emptySelector
    (v.item (number.elim (.text key) .number)).mapError .access

def select (v : Reflection.Value) : List Selector → Except Fault Reflection.Value
  | [] => .ok v
  | selector :: rest =>
    match selectPart v selector with
    | .ok next => select next rest
    | .error fault => .error fault

theorem select_nil (v : Reflection.Value) : select v [] = .ok v := rfl

end LetLang.Template
