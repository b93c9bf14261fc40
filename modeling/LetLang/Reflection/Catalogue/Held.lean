import LetLang.Reflection.Member

/-! # Catalogue: members

Each list is in the order in which the class holds its members.
-/
namespace LetLang.Reflection.Catalogue

open Member

def functionMembers : List Member :=
  [slot "__repr__", slot "__hash__", slot "__call__", slot "__getattribute__", slot "__lt__",
   slot "__le__", slot "__eq__", slot "__ne__", slot "__gt__", slot "__ge__",
   method "__reduce__" none none, field "__module__", property "__doc__" none,
   property "__name__" none, property "__qualname__" none, property "__self__" none,
   property "__text_signature__" none]

def wrapperMembers : List Member :=
  [slot "__repr__", slot "__hash__", slot "__call__", slot "__getattribute__", slot "__lt__",
   slot "__le__", slot "__eq__", slot "__ne__", slot "__gt__", slot "__ge__",
   method "__reduce__" none none, field "__self__", property "__objclass__" none,
   property "__name__" none, property "__qualname__" none, property "__doc__" none,
   property "__text_signature__" none]

def methodMembers : List Member :=
  [slot "__repr__", slot "__call__", slot "__getattribute__", slot "__get__",
   method "__reduce__" none none, field "__objclass__", field "__name__", property "__doc__" none,
   property "__qualname__" none, property "__text_signature__" none]

def slotMembers : List Member :=
  [slot "__repr__", slot "__call__", slot "__getattribute__", slot "__get__",
   method "__reduce__" none none, field "__objclass__", field "__name__", property "__doc__" none,
   property "__qualname__" none, property "__text_signature__" none]

def classMethodMembers : List Member :=
  [slot "__repr__", slot "__call__", slot "__getattribute__", slot "__get__",
   field "__objclass__", field "__name__", property "__doc__" none, property "__qualname__" none,
   property "__text_signature__" none]

def staticMethodMembers : List Member :=
  [creator, slot "__repr__", slot "__call__", slot "__get__", slot "__init__", field "__func__",
   field "__wrapped__", property "__isabstractmethod__" none, property "__dict__" none,
   constant "__doc__"
     (some
      ("staticmethod(function) -> method\n\nConvert a function to be a static method.\n\nA " ++
       "static method does not receive an implicit first argument.\nTo declare a static " ++
       "method, use this idiom:\n\n     class C:\n         @staticmethod\n         def f(arg1," ++
       " arg2, ...):\n             ...\n\nIt can be called either on the class (e.g. C.f()) " ++
       "or on an instance\n(e.g. C().f()). Both the class and the instance are ignored, and\n" ++
       "neither is passed implicitly as the first argument to the method.\n\nStatic methods in" ++
       " Python are similar to those found in Java or C++.\nFor a more advanced concept, see " ++
       "the classmethod builtin."))]

def propertyMembers : List Member :=
  [slot "__repr__", slot "__getattribute__", slot "__get__", slot "__set__", slot "__delete__",
   field "__objclass__", field "__name__", property "__doc__" none, property "__qualname__" none]

def fieldMembers : List Member :=
  [slot "__repr__", slot "__getattribute__", slot "__get__", slot "__set__", slot "__delete__",
   method "__reduce__" none none, field "__objclass__", field "__name__", property "__doc__" none,
   property "__qualname__" none]

end LetLang.Reflection.Catalogue
