import LetLang.Reflection.Member

/-! # Catalogue: numbers

Each list is in the order in which the class holds its members.
-/
namespace LetLang.Reflection.Catalogue

open Member

def numberMembers : List Member :=
  [creator, slot "__repr__", slot "__hash__", slot "__getattribute__", slot "__lt__",
   slot "__le__", slot "__eq__", slot "__ne__", slot "__gt__", slot "__ge__", slot "__add__",
   slot "__radd__", slot "__sub__", slot "__rsub__", slot "__mul__", slot "__rmul__",
   slot "__mod__", slot "__rmod__", slot "__divmod__", slot "__rdivmod__", slot "__pow__",
   slot "__rpow__", slot "__neg__", slot "__pos__", slot "__abs__", slot "__bool__",
   slot "__invert__", slot "__lshift__", slot "__rlshift__", slot "__rshift__",
   slot "__rrshift__", slot "__and__", slot "__rand__", slot "__xor__", slot "__rxor__",
   slot "__or__", slot "__ror__", slot "__int__", slot "__float__", slot "__floordiv__",
   slot "__rfloordiv__", slot "__truediv__", slot "__rtruediv__", slot "__index__",
   method "conjugate" none (some "Returns self, the complex conjugate of any int."),
   method "bit_length" (some "($self, /)")
     (some
      ("Number of bits necessary to represent self in binary.\n\n>>> bin(37)\n'0b100101'\n>>>" ++
       " (37).bit_length()\n6")),
   method "bit_count" (some "($self, /)")
     (some
      ("Number of ones in the binary representation of the absolute value of self.\n\nAlso " ++
       "known as the population count.\n\n>>> bin(13)\n'0b1101'\n>>> (13).bit_count()\n3")),
   method "to_bytes" (some "($self, /, length=1, byteorder='big', *, signed=False)")
     (some
      ("Return an array of bytes representing an integer.\n\n  length\n    Length of bytes " ++
       "object to use.  An OverflowError is raised if the\n    integer is not representable " ++
       "with the given number of bytes.  Default\n    is length 1.\n  byteorder\n    The byte" ++
       " order used to represent the integer.  If byteorder is 'big',\n    the most " ++
       "significant byte is at the beginning of the byte array.  If\n    byteorder is " ++
       "'little', the most significant byte is at the end of the\n    byte array.  To request" ++
       " the native byte order of the host system, use\n    `sys.byteorder' as the byte order" ++
       " value.  Default is to use 'big'.\n  signed\n    Determines whether two's complement " ++
       "is used to represent the integer.\n    If signed is False and a negative integer is " ++
       "given, an OverflowError\n    is raised.")),
   classMethod "from_bytes" (some "($type, /, bytes, byteorder='big', *, signed=False)")
     (some
      ("Return the integer represented by the given array of bytes.\n\n  bytes\n    Holds the" ++
       " array of bytes to convert.  The argument must either\n    support the buffer " ++
       "protocol or be an iterable object producing bytes.\n    Bytes and bytearray are " ++
       "examples of built-in objects that support the\n    buffer protocol.\n  byteorder\n" ++
       "    The byte order used to represent the integer.  If byteorder is 'big',\n    the " ++
       "most significant byte is at the beginning of the byte array.  If\n    byteorder is " ++
       "'little', the most significant byte is at the end of the\n    byte array.  To request" ++
       " the native byte order of the host system, use\n    `sys.byteorder' as the byte order" ++
       " value.  Default is to use 'big'.\n  signed\n    Indicates whether two's complement " ++
       "is used to represent the integer.")),
   method "as_integer_ratio" (some "($self, /)")
     (some
      ("Return integer ratio.\n\nReturn a pair of integers, whose ratio is exactly equal to " ++
       "the original int\nand with a positive denominator.\n\n>>> (10).as_integer_ratio()\n" ++
       "(10, 1)\n>>> (-10).as_integer_ratio()\n(-10, 1)\n>>> (0).as_integer_ratio()\n(0, 1)")),
   method "__trunc__" none (some "Truncating an Integral returns itself."),
   method "__floor__" none (some "Flooring an Integral returns itself."),
   method "__ceil__" none (some "Ceiling of an Integral returns itself."),
   method "__round__" (some "($self, ndigits=<unrepresentable>, /)")
     (some
      ("Rounding an Integral returns itself.\n\nRounding with an ndigits argument also " ++
       "returns an integer.")),
   method "__getnewargs__" (some "($self, /)") none,
   method "__format__" (some "($self, format_spec, /)") none,
   method "__sizeof__" (some "($self, /)") (some "Returns size in memory, in bytes."),
   property "real" (some "the real part of a complex number"),
   property "imag" (some "the imaginary part of a complex number"),
   property "numerator" (some "the numerator of a rational number in lowest terms"),
   property "denominator" (some "the denominator of a rational number in lowest terms"),
   constant "__doc__"
     (some
      ("int([x]) -> integer\nint(x, base=10) -> integer\n\nConvert a number or string to an " ++
       "integer, or return 0 if no arguments\nare given.  If x is a number, return " ++
       "x.__int__().  For floating point\nnumbers, this truncates towards zero.\n\nIf x is not" ++
       " a number or if base is given, then x must be a string,\nbytes, or bytearray instance " ++
       "representing an integer literal in the\ngiven base.  The literal can be preceded by " ++
       "'+' or '-' and be surrounded\nby whitespace.  The base defaults to 10.  Valid bases " ++
       "are 0 and 2-36.\nBase 0 means to interpret the base from the string as an integer " ++
       "literal.\n>>> int('0b100', base=0)\n4"))]

def truthMembers : List Member :=
  [creator, slot "__repr__", slot "__and__", slot "__rand__", slot "__xor__", slot "__rxor__",
   slot "__or__", slot "__ror__",
   constant "__doc__"
     (some
      ("bool(x) -> bool\n\nReturns True when the argument x is true, False otherwise.\nThe " ++
       "builtins True and False are the only two instances of the class bool.\nThe class bool " ++
       "is a subclass of the class int, and cannot be subclassed."))]

end LetLang.Reflection.Catalogue
