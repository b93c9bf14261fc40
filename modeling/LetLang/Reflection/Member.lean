import LetLang.Reflection.Class

/-! # Members

A class holds members under their names. A member has a text that documents it and, if it can be
called, a signature.
-/
namespace LetLang.Reflection

/-- How a member is held by its class, which decides what it is when taken from a value. A slot is
a method that stands for an operation of the language, and a field is a property that is stored. -/
inductive MemberKind where
  | method
  | slot
  | classMethod
  | staticMethod
  | creator
  | property
  | field
  | constant
  deriving DecidableEq, Repr

structure Member where
  kind : MemberKind
  name : String
  signature : Option String
  doc : Option String
  deriving DecidableEq, Repr

namespace Member

/-- The slots, with the signature and the documentation that each has in every class. -/
def slots : List (String × String × String) :=
  [("__abs__", "($self, /)", "abs(self)"),
   ("__add__", "($self, value, /)", "Return self+value."),
   ("__and__", "($self, value, /)", "Return self&value."),
   ("__bool__", "($self, /)", "True if self else False"),
   ("__call__", "($self, /, *args, **kwargs)", "Call self as a function."),
   ("__contains__", "($self, key, /)", "Return key in self."),
   ("__delattr__", "($self, name, /)", "Implement delattr(self, name)."),
   ("__delete__", "($self, instance, /)", "Delete an attribute of instance."),
   ("__delitem__", "($self, key, /)", "Delete self[key]."),
   ("__divmod__", "($self, value, /)", "Return divmod(self, value)."),
   ("__eq__", "($self, value, /)", "Return self==value."),
   ("__float__", "($self, /)", "float(self)"),
   ("__floordiv__", "($self, value, /)", "Return self//value."),
   ("__ge__", "($self, value, /)", "Return self>=value."),
   ("__get__", "($self, instance, owner=None, /)",
    "Return an attribute of instance, which is of type owner."),
   ("__getattribute__", "($self, name, /)", "Return getattr(self, name)."),
   ("__getitem__", "($self, key, /)", "Return self[key]."),
   ("__gt__", "($self, value, /)", "Return self>value."),
   ("__hash__", "($self, /)", "Return hash(self)."),
   ("__index__", "($self, /)",
    "Return self converted to an integer, if self is suitable for use as an index into a list."),
   ("__init__", "($self, /, *args, **kwargs)",
    "Initialize self.  See help(type(self)) for accurate signature."),
   ("__int__", "($self, /)", "int(self)"),
   ("__invert__", "($self, /)", "~self"),
   ("__ior__", "($self, value, /)", "Return self|=value."),
   ("__iter__", "($self, /)", "Implement iter(self)."),
   ("__le__", "($self, value, /)", "Return self<=value."),
   ("__len__", "($self, /)", "Return len(self)."),
   ("__lshift__", "($self, value, /)", "Return self<<value."),
   ("__lt__", "($self, value, /)", "Return self<value."),
   ("__mod__", "($self, value, /)", "Return self%value."),
   ("__mul__", "($self, value, /)", "Return self*value."),
   ("__ne__", "($self, value, /)", "Return self!=value."),
   ("__neg__", "($self, /)", "-self"),
   ("__or__", "($self, value, /)", "Return self|value."),
   ("__pos__", "($self, /)", "+self"),
   ("__pow__", "($self, value, mod=None, /)", "Return pow(self, value, mod)."),
   ("__radd__", "($self, value, /)", "Return value+self."),
   ("__rand__", "($self, value, /)", "Return value&self."),
   ("__rdivmod__", "($self, value, /)", "Return divmod(value, self)."),
   ("__repr__", "($self, /)", "Return repr(self)."),
   ("__rfloordiv__", "($self, value, /)", "Return value//self."),
   ("__rlshift__", "($self, value, /)", "Return value<<self."),
   ("__rmod__", "($self, value, /)", "Return value%self."),
   ("__rmul__", "($self, value, /)", "Return value*self."),
   ("__ror__", "($self, value, /)", "Return value|self."),
   ("__rpow__", "($self, value, mod=None, /)", "Return pow(value, self, mod)."),
   ("__rrshift__", "($self, value, /)", "Return value>>self."),
   ("__rshift__", "($self, value, /)", "Return self>>value."),
   ("__rsub__", "($self, value, /)", "Return value-self."),
   ("__rtruediv__", "($self, value, /)", "Return value/self."),
   ("__rxor__", "($self, value, /)", "Return value^self."),
   ("__set__", "($self, instance, value, /)", "Set an attribute of instance to value."),
   ("__setattr__", "($self, name, value, /)", "Implement setattr(self, name, value)."),
   ("__setitem__", "($self, key, value, /)", "Set self[key] to value."),
   ("__str__", "($self, /)", "Return str(self)."),
   ("__sub__", "($self, value, /)", "Return self-value."),
   ("__truediv__", "($self, value, /)", "Return self/value."),
   ("__xor__", "($self, value, /)", "Return self^value.")]

def slot (name : String) : Member :=
  match slots.lookup name with
  | some (signature, doc) => ⟨.slot, name, some signature, some doc⟩
  | none => ⟨.slot, name, none, none⟩

def method (name : String) (signature doc : Option String) : Member :=
  ⟨.method, name, signature, doc⟩

def classMethod (name : String) (signature doc : Option String) : Member :=
  ⟨.classMethod, name, signature, doc⟩

def staticMethod (name : String) (signature doc : Option String) : Member :=
  ⟨.staticMethod, name, signature, doc⟩

def creator : Member :=
  ⟨.creator, "__new__", some "($type, *args, **kwargs)",
    some "Create and return a new object.  See help(type) for accurate signature."⟩

def property (name : String) (doc : Option String) : Member := ⟨.property, name, none, doc⟩

def field (name : String) : Member := ⟨.field, name, none, none⟩

def constant (name : String) (text : Option String) : Member := ⟨.constant, name, none, text⟩

/-- A property comes before what a value's own class holds under the same name. -/
def isProperty (m : Member) : Bool := m.kind == .property || m.kind == .field

end Member

end LetLang.Reflection
