import LetLang.Template.Fault

/-! # The pieces of a template

A template is read from left to right into pieces: wording that is taken as it stands, and slots
between braces. A doubled brace is a brace of the wording. A slot is a name, then a conversion
behind an exclamation mark, then a layout behind a colon, each of the two being optional. Where
the template cannot be read on, the fault is its last piece, so that it comes to light after the
faults of the slots before it.
-/
namespace LetLang.Template

inductive Piece where
  | wording (text : Text)
  | slot (name : Text) (conversion : Option Char) (layout : Text)
  | broken (fault : Fault)
  deriving DecidableEq, Repr

/-- Where the reading of a template stands; what was read of the piece is reversed, but for a
complete name. Behind a bracket all of a name is plain text, and a layout counts the braces that are
open within it. -/
inductive Place where
  | wording (text : Text)
  | name (bracket : Bool) (name : Text)
  | conversion (name : Text)
  | converted (name : Text) (conversion : Char)
  | layout (name : Text) (conversion : Option Char) (braces : Nat) (layout : Text)
  | closed
  deriving DecidableEq, Repr

/-- What is wrong with a template that ends at a place. -/
def Place.atEnd : Place → Piece
  | .wording text => .wording text.reverse
  | .name _ [] => .broken (.loneBrace opening)
  | .name .. => .broken .openSlot
  | .conversion _ => .broken .openConversion
  | .converted .. | .layout .. => .broken .openLayout
  | .closed => .broken (.loneBrace closing)

def piecesFrom : Place → Text → List Piece
  | place, [] => [place.atEnd]
  | .wording text, c :: rest =>
    if c = opening then .wording text.reverse :: piecesFrom (.name false []) rest
    else if c = closing then .wording text.reverse :: piecesFrom .closed rest
    else piecesFrom (.wording (c :: text)) rest
  | .closed, c :: rest =>
    if c = closing then piecesFrom (.wording [closing]) rest else [.broken (.loneBrace closing)]
  | .name true name, c :: rest => piecesFrom (.name (c != ']') (c :: name)) rest
  | .name false name, c :: rest =>
    if c = opening then
      if name.isEmpty then piecesFrom (.wording [opening]) rest else [.broken .braceInSlot]
    else if c = closing then .slot name.reverse none [] :: piecesFrom (.wording []) rest
    else if c = '!' then piecesFrom (.conversion name.reverse) rest
    else if c = ':' then piecesFrom (.layout name.reverse none 0 []) rest
    else piecesFrom (.name (c == '[') (c :: name)) rest
  | .conversion name, c :: rest => piecesFrom (.converted name c) rest
  | .converted name conversion, c :: rest =>
    if c = closing then .slot name (some conversion) [] :: piecesFrom (.wording []) rest
    else if c = ':' then piecesFrom (.layout name (some conversion) 0 []) rest
    else [.broken .longConversion]
  | .layout name conversion depth layout, c :: rest =>
    if c = opening then piecesFrom (.layout name conversion (depth + 1) (c :: layout)) rest
    else if c = closing then
      match depth with
      | 0 => .slot name conversion layout.reverse :: piecesFrom (.wording []) rest
      | depth + 1 => piecesFrom (.layout name conversion depth (c :: layout)) rest
    else piecesFrom (.layout name conversion depth (c :: layout)) rest

def pieces (template : Text) : List Piece := piecesFrom (.wording []) template

/-- Wording without braces is taken as it stands. -/
theorem piecesFrom_append (text plain rest : Text)
    (h : ∀ c ∈ plain, c ≠ opening ∧ c ≠ closing) :
    piecesFrom (.wording text) (plain ++ rest) =
      piecesFrom (.wording (plain.reverse ++ text)) rest := by
  induction plain generalizing text with
  | nil => rfl
  | cons c plain ih =>
    have here := h c List.mem_cons_self
    rw [List.cons_append, piecesFrom, if_neg here.1, if_neg here.2,
      ih (c :: text) fun d hd => h d (List.mem_cons_of_mem c hd)]
    simp

end LetLang.Template
