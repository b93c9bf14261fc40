import LetLang.Reflection.Member

/-! # Catalogue: objects, classes and none

Each list is in the order in which the class holds its members.
-/
namespace LetLang.Reflection.Catalogue

open Member

def objectMembers : List Member :=
  [creator, slot "__repr__", slot "__hash__", slot "__str__", slot "__getattribute__",
   slot "__setattr__", slot "__delattr__", slot "__lt__", slot "__le__", slot "__eq__",
   slot "__ne__", slot "__gt__", slot "__ge__", slot "__init__",
   method "__reduce_ex__" (some "($self, protocol, /)") (some "Helper for pickle."),
   method "__reduce__" (some "($self, /)") (some "Helper for pickle."),
   method "__getstate__" (some "($self, /)") (some "Helper for pickle."),
   classMethod "__subclasshook__" none
     (some
      ("Abstract classes can override this to customize issubclass().\n\nThis is invoked " ++
       "early on by abc.ABCMeta.__subclasscheck__().\nIt should return True, False or " ++
       "NotImplemented.  If it returns\nNotImplemented, the normal algorithm is used.  " ++
       "Otherwise, it\noverrides the normal algorithm (and the outcome is cached).\n")),
   classMethod "__init_subclass__" none
     (some
      ("This method is called when a class is subclassed.\n\nThe default implementation does " ++
       "nothing. It may be\noverridden to extend subclasses.\n")),
   method "__format__" (some "($self, format_spec, /)") (some "Default object formatter."),
   method "__sizeof__" (some "($self, /)") (some "Size of object in memory, in bytes."),
   method "__dir__" (some "($self, /)") (some "Default dir() implementation."),
   property "__class__" (some "the object's class"),
   constant "__doc__"
     (some
      ("The base class of the class hierarchy.\n\nWhen called, it accepts no arguments and " ++
       "returns a new featureless\ninstance that has no instance attributes and cannot be " ++
       "given any.\n"))]

def typeMembers : List Member :=
  [creator, slot "__repr__", slot "__call__", slot "__getattribute__", slot "__setattr__",
   slot "__delattr__", slot "__init__", slot "__or__", slot "__ror__",
   method "mro" (some "($self, /)") (some "Return a type's method resolution order."),
   method "__subclasses__" (some "($self, /)") (some "Return a list of immediate subclasses."),
   classMethod "__prepare__" none
     (some "__prepare__() -> dict\nused to create the namespace for the class statement"),
   method "__instancecheck__" (some "($self, instance, /)")
     (some "Check if an object is an instance."),
   method "__subclasscheck__" (some "($self, subclass, /)")
     (some "Check if a class is a subclass."),
   method "__dir__" (some "($self, /)") (some "Specialized __dir__ implementation for types."),
   method "__sizeof__" (some "($self, /)")
     (some "Return memory consumption of the type object."),
   field "__basicsize__", field "__itemsize__", field "__flags__", field "__weakrefoffset__",
   field "__base__", field "__dictoffset__", field "__mro__", property "__name__" none,
   property "__qualname__" none, property "__bases__" none, property "__module__" none,
   property "__abstractmethods__" none, property "__dict__" none, property "__doc__" none,
   property "__text_signature__" none, property "__annotations__" none]

def noneMembers : List Member :=
  [creator, slot "__repr__", slot "__bool__", constant "__doc__" none]

end LetLang.Reflection.Catalogue
