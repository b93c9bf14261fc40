import LetLang.Reflection.Value

/-! # Access to the parts of values

A value is asked for a member by name, or for an item by key. Its class and the classes above it
are searched for a member, nearest first. A member that can be called is taken from the value; a
property is worked out. A class is asked like a value of the class of classes, but what it holds
itself comes before what it has as such a value, unless that is a property.
-/
namespace LetLang.Reflection

/-- Why a part of a value cannot be had. Texts and tuples have different words for an item that is
out of range or asked for by name. -/
inductive AccessFault where
  | unknownMember (className name : Text)
  | unknownClassMember (className name : Text)
  | abstractMethods
  | outOfRange (tuple : Bool)
  | itemByName (tuple : Bool)
  | missingKey (key : Key)
  | notIndexed (className : Text)
  | classNotIndexed (className : Text)
  | notGeneric (shown : Text)
  deriving DecidableEq, Repr

namespace AccessFault

def name : AccessFault → Text
  | .unknownMember .. | .unknownClassMember .. | .abstractMethods => "AttributeError"
  | .outOfRange _ => "IndexError"
  | .missingKey _ => "KeyError"
  | .itemByName _ | .notIndexed _ | .classNotIndexed _ | .notGeneric _ => "TypeError"

def message : AccessFault → Text
  | .unknownMember className name =>
    "'" ++ className ++ "' object has no attribute '" ++ name ++ "'"
  | .unknownClassMember className name =>
    "type object '" ++ className ++ "' has no attribute '" ++ name ++ "'"
  | .abstractMethods => "__abstractmethods__"
  | .outOfRange tuple => (if tuple then "tuple" else "string") ++ " index out of range"
  | .itemByName tuple =>
    if tuple then "tuple indices must be integers or slices, not str"
    else "string indices must be integers, not 'str'"
  | .missingKey key => key.quoted
  | .notIndexed className => "'" ++ className ++ "' object is not subscriptable"
  | .classNotIndexed className => "type '" ++ className ++ "' is not subscriptable"
  | .notGeneric shown => shown ++ " is not a generic class"

end AccessFault

namespace Class

/-- The member of a name, with the class that holds it. -/
def find? (c : Class) (name : Text) : Option (Class × Member) :=
  c.lineage.findSome? fun owner =>
    (owner.members.find? (·.name == String.ofList name)).map (owner, ·)

/-- What a class holds under the name of a member. -/
def stored (owner : Class) (m : Member) : Value :=
  match m.kind with
  | .constant => .ofText? m.doc
  | .creator => .taken (.cls owner) owner m
  | _ => .held owner m

def doc (c : Class) : Value :=
  match c with
  | .type =>
    .text "type(object) -> the object's type\ntype(name, bases, dict, **kwds) -> a new type"
  | _ =>
    match c.members.find? (·.name == "__doc__") with
    | some m => c.stored m
    | Option.none => .none

def property? (c : Class) (name : String) : Option Value :=
  match name with
  | "__name__" | "__qualname__" => some (.text c.shortName)
  | "__module__" => some (.text c.moduleName)
  | "__base__" => some (.cls? c.base)
  | "__bases__" => some (.classes c.base.toList)
  | "__mro__" => some (.classes c.lineage)
  | "__dict__" => some (.mapping c)
  | "__doc__" => some c.doc
  | "__text_signature__" =>
    some (match c.signature with
      | some t => .text t
      | Option.none => .none)
  | "__basicsize__" => some (.number c.figures.size)
  | "__itemsize__" => some (.number c.figures.itemSize)
  | "__flags__" => some (.number c.figures.flags)
  | "__dictoffset__" => some (.number c.figures.dictionaryOffset)
  | "__weakrefoffset__" => some (.number c.figures.referenceOffset)
  | _ => Option.none

end Class

namespace Value

def qualifiedName (c : Class) (m : Member) : Value := .text (c.shortName ++ '.' :: m.name.toList)

/-- What a member tells about itself, given the class that its full name begins with. -/
def memberProperty? (c : Class) (m : Member) (name : String) : Option Value :=
  match name with
  | "__name__" => some (.text m.name)
  | "__qualname__" => some (qualifiedName c m)
  | "__doc__" => some (.ofText? m.doc)
  | "__text_signature__" => some (.ofText? m.signature)
  | _ => Option.none

def ownProperty? (v : Value) (name : String) : Option Value :=
  match v with
  | .cls c => c.property? name
  | .number n =>
    match name with
    | "imag" => some (.number 0)
    | "denominator" => some (.number 1)
    | _ => some (.number n)
  | .truth b =>
    match name with
    | "imag" => some (.number 0)
    | "denominator" => some (.number 1)
    | _ => some (.number b.toNat)
  | .applied c argument =>
    match name with
    | "__origin__" => some (.cls c)
    | "__args__" => some (.keys [argument])
    | "__parameters__" => some (.keys [])
    | "__unpacked__" => some (.truth false)
    | _ => some .none
  | .held owner m =>
    match name with
    | "__objclass__" => some (.cls owner)
    | "__func__" | "__wrapped__" => some (.taken (.cls owner) owner m)
    | "__isabstractmethod__" => some (.truth false)
    | "__dict__" => some .dictionary
    | _ => memberProperty? owner m name
  | .taken self owner m =>
    match name with
    | "__self__" => some (if m.kind = .staticMethod then .none else self)
    | "__objclass__" => some (.cls owner)
    | "__module__" => some .none
    | _ =>
      let named := match m.kind, self with
        | .slot, _ => owner
        | _, .cls c => c
        | _, _ => self.classOf
      memberProperty? named m name
  | _ => Option.none

def property? (v : Value) (name : String) : Option Value :=
  if name = "__class__" then some (.cls v.classOf) else v.ownProperty? name

/-- A member that is no property, taken from a value. -/
def take (v : Value) (owner : Class) (m : Member) : Value :=
  match m.kind with
  | .method | .slot => .taken v owner m
  | .classMethod => .taken (.cls v.classOf) owner m
  | .staticMethod => .taken (.cls owner) owner m
  | _ => owner.stored m

/-- A member that a class or one above it holds, taken from the class. -/
def takeFromClass (c owner : Class) (m : Member) : Value :=
  match m.kind with
  | .classMethod => .taken (.cls c) owner m
  | .staticMethod => .taken (.cls owner) owner m
  | _ => owner.stored m

def classMember (c : Class) (name : Text) : Except AccessFault Value :=
  let unknown : Except AccessFault Value := .error (.unknownClassMember c.name name)
  let asValue := Class.type.find? name
  if asValue.any (·.2.isProperty) then
    if name = "__abstractmethods__" then .error .abstractMethods
    else (Value.cls c).property? (String.ofList name) |>.elim unknown .ok
  else
    match c.find? name, asValue with
    | some (owner, m), _ => .ok (takeFromClass c owner m)
    | Option.none, some (owner, m) => .ok ((Value.cls c).take owner m)
    | Option.none, Option.none => unknown

def plainMember (v : Value) (name : Text) : Except AccessFault Value :=
  let unknown : Except AccessFault Value := .error (.unknownMember v.classOf.name name)
  match v.classOf.find? name with
  | some (owner, m) =>
    if m.isProperty then v.property? (String.ofList name) |>.elim unknown .ok
    else .ok (v.take owner m)
  | Option.none => unknown

/-- The members that a class with an argument has itself; all others are those of the class. -/
def appliedNames : List String :=
  ["__class__", "__origin__", "__args__", "__unpacked__", "__parameters__",
   "__typing_unpacked_tuple_args__", "__mro_entries__", "__reduce_ex__", "__reduce__",
   "__copy__", "__deepcopy__"]

/-- The member of a value under a name. -/
def member (v : Value) (name : Text) : Except AccessFault Value :=
  match v with
  | .cls c => classMember c name
  | .applied c _ =>
    if appliedNames.contains (String.ofList name) then v.plainMember name else classMember c name
  | _ => v.plainMember name

def itemOf {α : Type} (tuple : Bool) (items : List α) : Key → Except AccessFault α
  | .text _ => .error (.itemByName tuple)
  | .number n => items[n]?.elim (.error (.outOfRange tuple)) .ok

def item (v : Value) (key : Key) : Except AccessFault Value :=
  match v with
  | .text t => (itemOf false t key).map fun c => .text [c]
  | .classes cs => (itemOf true cs key).map .cls
  | .keys ks => (itemOf true ks key).map fun
    | .text t => .text t
    | .number n => .number n
  | .mapping c =>
    match key with
    | .text name =>
      match c.members.find? (·.name == String.ofList name) with
      | some m => .ok (c.stored m)
      | Option.none => .error (.missingKey key)
    | .number _ => .error (.missingKey key)
  | .dictionary => .error (.missingKey key)
  | .cls c => if c.takesArgument then .ok (.applied c key) else .error (.classNotIndexed c.name)
  | .applied .. => .error (.notGeneric v.quoted)
  | _ => .error (.notIndexed v.classOf.name)

end Value

end LetLang.Reflection
