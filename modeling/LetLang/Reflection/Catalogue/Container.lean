import LetLang.Reflection.Member

/-! # Catalogue: containers

Each list is in the order in which the class holds its members.
-/
namespace LetLang.Reflection.Catalogue

open Member

def tupleMembers : List Member :=
  [creator, slot "__repr__", slot "__hash__", slot "__getattribute__", slot "__lt__",
   slot "__le__", slot "__eq__", slot "__ne__", slot "__gt__", slot "__ge__", slot "__iter__",
   slot "__len__", slot "__getitem__", slot "__add__", slot "__mul__", slot "__rmul__",
   slot "__contains__", method "__getnewargs__" (some "($self, /)") none,
   method "index" (some "($self, value, start=0, stop=sys.maxsize, /)")
     (some "Return first index of value.\n\nRaises ValueError if the value is not present."),
   method "count" (some "($self, value, /)") (some "Return number of occurrences of value."),
   classMethod "__class_getitem__" none (some "See PEP 585"),
   constant "__doc__"
     (some
      ("Built-in immutable sequence.\n\nIf no argument is given, the constructor returns an " ++
       "empty tuple.\nIf iterable is specified the tuple is initialized from iterable's items." ++
       "\n\nIf the argument is a tuple, the return value is the same object."))]

def mappingMembers : List Member :=
  [creator, slot "__repr__", slot "__str__", slot "__getattribute__", slot "__lt__",
   slot "__le__", slot "__eq__", slot "__ne__", slot "__gt__", slot "__ge__", slot "__iter__",
   slot "__or__", slot "__ror__", slot "__ior__", slot "__len__", slot "__getitem__",
   slot "__contains__",
   method "get" none (some "D.get(k[,d]) -> D[k] if k in D, else d.  d defaults to None."),
   method "keys" none (some "D.keys() -> a set-like object providing a view on D's keys"),
   method "values" none (some "D.values() -> an object providing a view on D's values"),
   method "items" none (some "D.items() -> a set-like object providing a view on D's items"),
   method "copy" none (some "D.copy() -> a shallow copy of D"),
   classMethod "__class_getitem__" none (some "See PEP 585"),
   method "__reversed__" none (some "D.__reversed__() -> reverse iterator"),
   constant "__doc__" none, constant "__hash__" none]

def dictionaryMembers : List Member :=
  [creator, slot "__repr__", constant "__hash__" none, slot "__getattribute__", slot "__lt__",
   slot "__le__", slot "__eq__", slot "__ne__", slot "__gt__", slot "__ge__", slot "__iter__",
   slot "__init__", slot "__or__", slot "__ror__", slot "__ior__", slot "__len__",
   method "__getitem__" none (some "x.__getitem__(y) <==> x[y]"),
   slot "__setitem__", slot "__delitem__",
   method "__contains__" (some "($self, key, /)")
     (some "True if the dictionary has the specified key, else False."),
   method "__sizeof__" none (some "D.__sizeof__() -> size of D in memory, in bytes"),
   method "get" (some "($self, key, default=None, /)")
     (some "Return the value for key if key is in the dictionary, else default."),
   method "setdefault" (some "($self, key, default=None, /)")
     (some
      ("Insert key with a value of default if key is not in the dictionary.\n\nReturn the " ++
       "value for key if key is in the dictionary, else default.")),
   method "pop" (some "($self, key, default=<unrepresentable>, /)")
     (some
      ("D.pop(k[,d]) -> v, remove specified key and return the corresponding value.\n\nIf the" ++
       " key is not found, return the default if given; otherwise,\nraise a KeyError.")),
   method "popitem" (some "($self, /)")
     (some
      ("Remove and return a (key, value) pair as a 2-tuple.\n\nPairs are returned in LIFO " ++
       "(last-in, first-out) order.\nRaises KeyError if the dict is empty.")),
   method "keys" none (some "D.keys() -> a set-like object providing a view on D's keys"),
   method "items" none (some "D.items() -> a set-like object providing a view on D's items"),
   method "values" none (some "D.values() -> an object providing a view on D's values"),
   method "update" none
     (some
      ("D.update([E, ]**F) -> None.  Update D from dict/iterable E and F.\nIf E is present " ++
       "and has a .keys() method, then does:  for k in E: D[k] = E[k]\nIf E is present and " ++
       "lacks a .keys() method, then does:  for k, v in E: D[k] = v\nIn either case, this is " ++
       "followed by: for k in F:  D[k] = F[k]")),
   classMethod "fromkeys" (some "($type, iterable, value=None, /)")
     (some "Create a new dictionary with keys from iterable and values set to value."),
   method "clear" none (some "D.clear() -> None.  Remove all items from D."),
   method "copy" none (some "D.copy() -> a shallow copy of D"),
   method "__reversed__" (some "($self, /)")
     (some "Return a reverse iterator over the dict keys."),
   classMethod "__class_getitem__" none (some "See PEP 585"),
   constant "__doc__"
     (some
      ("dict() -> new empty dictionary\ndict(mapping) -> new dictionary initialized from a " ++
       "mapping object's\n    (key, value) pairs\ndict(iterable) -> new dictionary initialized" ++
       " as if via:\n    d = \x7b\x7d\n    for k, v in iterable:\n        d[k] = v\n" ++
       "dict(**kwargs) -> new dictionary initialized with the name=value pairs\n    in the " ++
       "keyword argument list.  For example:  dict(one=1, two=2)"))]

def appliedMembers : List Member :=
  [creator, slot "__repr__", slot "__hash__", slot "__call__", slot "__getattribute__",
   slot "__lt__", slot "__le__", slot "__eq__", slot "__ne__", slot "__gt__", slot "__ge__",
   slot "__iter__", slot "__or__", slot "__ror__", slot "__getitem__",
   method "__mro_entries__" none none, method "__instancecheck__" none none,
   method "__subclasscheck__" none none, method "__reduce__" none none,
   method "__dir__" none none, field "__origin__", field "__args__", field "__unpacked__",
   property "__parameters__" (some "Type variables in the GenericAlias."),
   property "__typing_unpacked_tuple_args__" none,
   constant "__doc__"
     (some
      ("Represent a PEP 585 generic type\n\nE.g. for t = list[int], t.__origin__ is list and " ++
       "t.__args__ is (int,)."))]

end LetLang.Reflection.Catalogue
