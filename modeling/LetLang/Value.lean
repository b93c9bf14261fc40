import LetLang.Text

/-! # Values

What expressions evaluate to. Each value prints with its type, and prints the same text in
whatever place it stands.
-/
namespace LetLang

inductive ValueType where
  | int | bool | intList | function
  deriving DecidableEq, Repr

def ValueType.text : ValueType → Text
  | .int => "int"
  | .bool => "bool"
  | .intList => "int list"
  | .function => "'a -> 'b"

/-- A value. A function is known only to be one: it has no body and cannot be applied. -/
inductive Value where
  | int (n : Int)
  | bool (b : Bool)
  | list (items : List Int)
  | function
  deriving DecidableEq, Repr

namespace Value

def type : Value → ValueType
  | .int _ => .int
  | .bool _ => .bool
  | .list _ => .intList
  | .function => .function

/-- A list of integers as a program writes it. -/
def listText (items : List Int) : Text :=
  '[' :: Text.join "; " (items.map Text.ofInt) ++ [']']

def text : Value → Text
  | .int n => Text.ofInt n
  | .bool true => "true"
  | .bool false => "false"
  | .list items => listText items
  | .function => "<fun>"

/-- The cells of a list, for inspection. -/
def listCells (items : List Int) : Text :=
  items.foldr (fun head tail => "Cons(head=" ++ (Text.ofInt head ++ (", tail=" ++ (tail ++ [')']))))
    "NIL"

/-- A value with its constructor, for inspection. -/
def inspect : Value → Text
  | .int n => "Int(value=" ++ Text.ofInt n ++ ")"
  | .bool true => "Bool(value=True)"
  | .bool false => "Bool(value=False)"
  | .list items => "List(items=" ++ listCells items ++ ")"
  | .function => "Fn()"

end Value

end LetLang
