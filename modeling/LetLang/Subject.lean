import LetLang.Decimal.Shortest

/-! # Subjects

What a message may be about. The program's own messages are about texts; any other subject is
shown by a text of its own.
-/
namespace LetLang

inductive Subject where
  | text (content : Text)
  | integer (value : Int)
  | decimal (value : Decimal)
  | infinite (negative : Bool)
  | undefined
  | flag (value : Bool)
  | nothing
  deriving DecidableEq, Repr

def Subject.shown : Subject → Text
  | .text content => content
  | .integer value => Text.ofInt value
  | .decimal value => value.shown
  | .infinite negative => if negative then "-inf" else "inf"
  | .undefined => "nan"
  | .flag value => if value then "True" else "False"
  | .nothing => "None"

@[simp] theorem Subject.map_shown_text (texts : List Text) :
    (texts.map Subject.text).map Subject.shown = texts := by
  rw [List.map_map]
  exact List.map_id texts

end LetLang
