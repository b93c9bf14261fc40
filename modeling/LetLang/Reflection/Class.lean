import LetLang.Text

/-! # Classes of values

A slot of a template may select what belongs to its subject, and go on from there: to the members
of texts, to their names and documentation, to classes and to what classes hold. All of these are
values, and each value has a class. The numbers here are those that classes tell about themselves.
-/
namespace LetLang.Reflection

inductive Class where
  | object
  | type
  | none
  | text
  | number
  | truth
  | tuple
  | mapping
  | dictionary
  | applied
  | function
  | wrapper
  | method
  | slot
  | classMethod
  | staticMethod
  | property
  | field
  deriving DecidableEq, Repr

structure Figures where
  size : Nat
  itemSize : Nat
  flags : Nat
  dictionaryOffset : Nat
  referenceOffset : Nat
  deriving DecidableEq, Repr

namespace Class

def shortName : Class → Text
  | .object => "object"
  | .type => "type"
  | .none => "NoneType"
  | .text => "str"
  | .number => "int"
  | .truth => "bool"
  | .tuple => "tuple"
  | .mapping => "mappingproxy"
  | .dictionary => "dict"
  | .applied => "GenericAlias"
  | .function => "builtin_function_or_method"
  | .wrapper => "method-wrapper"
  | .method => "method_descriptor"
  | .slot => "wrapper_descriptor"
  | .classMethod => "classmethod_descriptor"
  | .staticMethod => "staticmethod"
  | .property => "getset_descriptor"
  | .field => "member_descriptor"

def moduleName : Class → Text
  | .applied => "types"
  | _ => "builtins"

def name (c : Class) : Text :=
  match c with
  | .applied => c.moduleName ++ '.' :: c.shortName
  | c => c.shortName

def shown (c : Class) : Text := "<class '" ++ c.name ++ "'>"

def base : Class → Option Class
  | .object => Option.none
  | .truth => some .number
  | _ => some .object

/-- A class and the classes above it, nearest first. -/
def lineage : Class → List Class
  | .object => [.object]
  | .truth => [.truth, .number, .object]
  | c => [c, .object]

def signature : Class → Option Text
  | .object => some ['(', ')']
  | .tuple => some "(iterable=(), /)"
  | _ => Option.none

/-- The classes that take an argument in brackets. -/
def takesArgument : Class → Bool
  | .type | .tuple | .mapping | .dictionary => true
  | _ => false

def figures : Class → Figures
  | .object => ⟨16, 0, 0x81500, 0, 0⟩
  | .type => ⟨904, 40, 0x80085d00, 264, 368⟩
  | .none => ⟨16, 0, 0x81100, 0, 0⟩
  | .text => ⟨80, 0, 0x10481500, 0, 0⟩
  | .number => ⟨24, 4, 0x1481500, 0, 0⟩
  | .truth => ⟨32, 4, 0x1481100, 0, 0⟩
  | .tuple => ⟨24, 8, 0x4485520, 0, 0⟩
  | .mapping => ⟨24, 0, 0x85140, 0, 0⟩
  | .dictionary => ⟨48, 0, 0x20485540, 0, 0⟩
  | .applied => ⟨64, 0, 0x85d00, 0, 40⟩
  | .function => ⟨56, 0, 0x85980, 0, 40⟩
  | .wrapper => ⟨32, 0, 0x85180, 0, 0⟩
  | .method => ⟨56, 0, 0xa5980, 0, 0⟩
  | .slot => ⟨56, 0, 0xa5180, 0, 0⟩
  | .classMethod => ⟨56, 0, 0x85180, 0, 0⟩
  | .staticMethod => ⟨32, 0, 0x85500, 24, 0⟩
  | .property => ⟨48, 0, 0x85180, 0, 0⟩
  | .field => ⟨48, 0, 0x85180, 0, 0⟩

end Class

end LetLang.Reflection
