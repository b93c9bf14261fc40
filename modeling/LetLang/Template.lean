import LetLang.Template.Layout.Number
import LetLang.Template.Piece
import LetLang.Template.Selector

/-! # Message templates

A template is a text with slots between braces, filled in from a list of subjects: an empty
slot takes the next subject, a numbered one the subject of that number. A slot may select a part
of its subject, convert it and lay it out; the layout may have slots of its own, which are filled
first. Subjects are never read as templates.
-/
namespace LetLang.Template

def slot : Text := [opening, closing]

def slotAt (index : Nat) : Text := opening :: Text.ofNat index ++ [closing]

inductive Numbering where
  | undecided
  | automatic (next : Nat)
  | manual
  deriving DecidableEq, Repr

/-- The number of the subject of an empty slot, or of one with a number. -/
def Numbering.advance : Numbering → Option Nat → Except Fault (Nat × Numbering)
  | .undecided, none => .ok (0, .automatic 1)
  | .automatic next, none => .ok (next, .automatic (next + 1))
  | .manual, none => .error (.mixedSlots true)
  | .automatic _, some _ => .error (.mixedSlots false)
  | _, some number => .ok (number, .manual)

/-- The subject of a slot by the name it has without selectors, and the numbering after it. -/
def resolve (subjects : List Text) (numbering : Numbering) (name : Text) :
    Except Fault (Text × Numbering) := do
  let number ← wholeNumber name
  if number.isNone && !name.isEmpty then throw (.namedSlot name)
  let (index, numbering) ← numbering.advance number
  match subjects[index]? with
  | some subject => return (subject, numbering)
  | none => throw (.missingSubject index)

/-- A value converted by the letter of a conversion: shown as it is, or between quotes. The null
character stands for no conversion. -/
def convert (v : Reflection.Value) : Option Char → Except Fault Reflection.Value
  | none | some '\x00' => .ok v
  | some 's' => .ok (.text v.shown)
  | some 'r' => .ok (.text v.quoted)
  | some 'a' => .ok (.text (Text.asciiOnly v.quoted))
  | some c => .error (.unknownConversion c)

/-- A value in its slot. -/
def arrange (layout : Text) : Reflection.Value → Except Fault (List Segment)
  | .text t => Layout.arrangeText layout t
  | v =>
    if layout.isEmpty then .ok [.text v.shown]
    else
      match v with
      | .number n => Layout.arrangeNumber v.classOf.name layout n
      | .truth b => Layout.arrangeNumber v.classOf.name layout b.toNat
      | _ => .error (.noLayouts v.classOf.name)

/-- Fills a slot; what fills the slots of its layout is given. -/
def fillSlot (subjects : List Text)
    (fillLayout : Numbering → Text → Except Fault (Text × Numbering)) (numbering : Numbering)
    (name : Text) (conversion : Option Char) (layout : Text) :
    Except Fault (List Segment × Numbering) := do
  let (subject, numbering) ← resolve subjects numbering (subjectName name)
  let value ← select (.text subject) (selectors name)
  let value ← convert value conversion
  let (layout, numbering) ←
    if layout.contains opening then fillLayout numbering layout else pure (layout, numbering)
  return (← arrange layout value, numbering)

def fillPieces (subjects : List Text)
    (fillLayout : Numbering → Text → Except Fault (Text × Numbering)) (numbering : Numbering) :
    List Piece → Except Fault (List Segment × Numbering)
  | [] => .ok ([], numbering)
  | .wording text :: rest => do
    let (segments, numbering) ← fillPieces subjects fillLayout numbering rest
    return (.text text :: segments, numbering)
  | .slot name conversion layout :: rest => do
    let (filled, numbering) ← fillSlot subjects fillLayout numbering name conversion layout
    let (segments, numbering) ← fillPieces subjects fillLayout numbering rest
    return (filled ++ segments, numbering)
  | .broken fault :: _ => .error fault

/-- Fills a template in which layouts with slots may be nested to a depth. -/
def fillNested (subjects : List Text) :
    Nat → Numbering → Text → Except Fault (Text × Numbering)
  | 0, _, _ => .error .nestedTooDeeply
  | depth + 1, numbering, template =>
    (fillPieces subjects (fillNested subjects depth) numbering (pieces template)).map
      fun (segments, numbering) => (Segment.join segments, numbering)

/-- How deep templates may be nested: a layout may have slots, but not the layouts of those. -/
def maxDepth : Nat := 2

/-- The text of a template with its slots filled. -/
def fill (template : Text) (subjects : List Text) : Except Fault Text :=
  (fillNested subjects maxDepth .undecided template).map (·.1)

end LetLang.Template
