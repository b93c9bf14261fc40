import LetLang.Reflection.Catalogue.Basis
import LetLang.Reflection.Catalogue.Container
import LetLang.Reflection.Catalogue.Held
import LetLang.Reflection.Catalogue.Number
import LetLang.Reflection.Catalogue.Text
import LetLang.Text.Quoted

/-! # Values

What can be reached from a text, and how it is shown. A text is shown as it is, or between quotes
where it is part of something else. A method that was taken from a value is shown with a place in
memory, which is not told apart here.
-/
namespace LetLang.Reflection

open Catalogue in
def Class.members : Class → List Member
  | .object => objectMembers
  | .type => typeMembers
  | .none => noneMembers
  | .text => textMembers
  | .number => numberMembers
  | .truth => truthMembers
  | .tuple => tupleMembers
  | .mapping => mappingMembers
  | .dictionary => dictionaryMembers
  | .applied => appliedMembers
  | .function => functionMembers
  | .wrapper => wrapperMembers
  | .method => methodMembers
  | .slot => slotMembers
  | .classMethod => classMethodMembers
  | .staticMethod => staticMethodMembers
  | .property => propertyMembers
  | .field => fieldMembers

/-- What stands between brackets behind a value. -/
inductive Key where
  | text (text : Text)
  | number (n : Nat)
  deriving DecidableEq, Repr

def Key.quoted : Key → Text
  | .text t => Text.quoted t
  | .number n => Text.ofNat n

inductive Value where
  | text (text : Text)
  | number (n : Nat)
  | truth (b : Bool)
  | none
  | cls (c : Class)
  | classes (cs : List Class)
  | keys (ks : List Key)
  | mapping (c : Class)
  | dictionary
  | applied (c : Class) (argument : Key)
  | held (owner : Class) (m : Member)
  | taken (self : Value) (owner : Class) (m : Member)
  deriving DecidableEq, Repr

namespace Value

def ofText? : Option String → Value
  | some t => .text t
  | Option.none => .none

def cls? : Option Class → Value
  | some c => .cls c
  | Option.none => .none

def classOf : Value → Class
  | .text _ => .text
  | .number _ => .number
  | .truth _ => .truth
  | .none => .none
  | .cls _ => .type
  | .classes _ | .keys _ => .tuple
  | .mapping _ => .mapping
  | .dictionary => .dictionary
  | .applied .. => .applied
  | .held _ m =>
    match m.kind with
    | .slot => .slot
    | .classMethod => .classMethod
    | .staticMethod => .staticMethod
    | .property => .property
    | .field => .field
    | _ => .method
  | .taken _ _ m => if m.kind = .slot then .wrapper else .function

/-- How the parts of a tuple are shown; a single part is followed by a comma. -/
def tupleText : List Text → Text
  | [part] => ['('] ++ part ++ [',', ')']
  | parts => ['('] ++ Text.join ", " parts ++ [')']

/-- A callable member taken from a value of a class. -/
def takenText (c : Class) (m : Member) : Text :=
  (match m.kind with
    | .slot => "<method-wrapper '" ++ m.name ++ "' of "
    | _ => "<built-in method " ++ m.name ++ " of ") ++
  c.name ++ " object at 0x7f0000000000>"

def heldText (owner : Class) (m : Member) : Text :=
  let described (what : Text) : Text :=
    ['<'] ++ what ++ " '" ++ m.name ++ "' of '" ++ owner.name ++ "' objects>"
  match m.kind with
  | .constant =>
    match m.doc with
    | some t => Text.quoted t
    | Option.none => "None"
  | .creator => takenText .type m
  | .staticMethod => "<staticmethod(" ++ takenText .type m ++ ")>"
  | .method | .classMethod => described "method"
  | .slot => described "slot wrapper"
  | .property => described "attribute"
  | .field => described "member"

def membersText (c : Class) : Text :=
  ['\x7b'] ++ Text.join ", " (c.members.map fun m => Text.quoted m.name ++ ": " ++ heldText c m) ++
    ['\x7d']

/-- A value as a part of something else is shown. -/
def quoted : Value → Text
  | .text t => Text.quoted t
  | .number n => Text.ofNat n
  | .truth b => if b then "True" else "False"
  | .none => "None"
  | .cls c => c.shown
  | .classes cs => tupleText (cs.map Class.shown)
  | .keys ks => tupleText (ks.map Key.quoted)
  | .mapping c => "mappingproxy(" ++ membersText c ++ [')']
  | .dictionary => "\x7b\x7d"
  | .applied c argument => c.name ++ ['['] ++ argument.quoted ++ [']']
  | .held owner m => heldText owner m
  | .taken self _ m => takenText self.classOf m

/-- A value on its own: a text without quotes, and members without what holds them. -/
def shown : Value → Text
  | .text t => t
  | .mapping c => membersText c
  | v => v.quoted

end Value

end LetLang.Reflection
