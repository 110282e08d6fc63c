/-! # Kinds of template data

Whatever a template can reach is of some kind. A kind has a name, and its things have routines in
common: a template can neither call nor print them, but it can ask whether they are there.
-/

namespace EntityForge.Template

/-- A field of the things of a kind: its name, what is noted of what it holds, and the text that it
holds by default, if there is one. -/
structure Field where
  name : String
  note : String
  default : Option String := none
  deriving DecidableEq, Repr

/-- A kind of things: where it is at home, its name and summary, the parts, slots and fields of its
things, the names of their routines, operators and methods beside those that all things have, and
the names of those that all things have but this kind has in its own way. -/
structure Kind where
  home : String := "builtins"
  name : String
  summary : Option String := none
  parts : List String := []
  slots : List String := []
  fields : List Field := []
  routines : List String := []
  operators : List String := []
  methods : List String := []
  own : List String := []
  deriving DecidableEq, Repr

namespace Kind

/-- The routines that all things have. -/
def commonRoutines : List String := [
  "__dir__", "__format__", "__getstate__", "__init_subclass__", "__new__", "__reduce__",
  "__reduce_ex__", "__sizeof__", "__subclasshook__"]

/-- The operators that all things have. -/
def commonOperators : List String := [
  "__delattr__", "__eq__", "__ge__", "__getattribute__", "__gt__", "__hash__", "__init__", "__le__",
  "__lt__", "__ne__", "__repr__", "__setattr__", "__str__"]

/-- The name of a kind with its home, unless it is at home everywhere. -/
def qualifiedName (k : Kind) : String :=
  if k.home = "builtins" then k.name else k.home ++ "." ++ k.name

/-- Whole numbers. -/
def whole : Kind where
  name := "int"
  summary := some (
    "int([x]) -> integer\nint(x, base=10) -> integer\n\nConvert a number or string to an " ++
    "integer, or return 0 if no arguments\nare given.  If x is a number, return x.__int__().  " ++
    "For floating point\nnumbers, this truncates towards zero.\n\nIf x is not a number or if " ++
    "base is given, then x must be a string,\nbytes, or bytearray instance representing an " ++
    "integer literal in the\ngiven base.  The literal can be preceded by '+' or '-' and be " ++
    "surrounded\nby whitespace.  The base defaults to 10.  Valid bases are 0 and 2-36.\nBase 0 " ++
    "means to interpret the base from the string as an integer literal.\n>>> int('0b100', " ++
    "base=0)\n4")
  parts := ["real", "imag", "numerator", "denominator"]
  routines := [
    "__ceil__", "__floor__", "__getnewargs__", "__round__", "__trunc__", "as_integer_ratio",
    "bit_count", "bit_length", "conjugate", "from_bytes", "to_bytes"]
  operators := [
    "__abs__", "__add__", "__and__", "__bool__", "__divmod__", "__float__", "__floordiv__",
    "__index__", "__int__", "__invert__", "__lshift__", "__mod__", "__mul__", "__neg__", "__or__",
    "__pos__", "__pow__", "__radd__", "__rand__", "__rdivmod__", "__rfloordiv__", "__rlshift__",
    "__rmod__", "__rmul__", "__ror__", "__rpow__", "__rrshift__", "__rshift__", "__rsub__",
    "__rtruediv__", "__rxor__", "__sub__", "__truediv__", "__xor__"]
  own := [
    "__format__", "__sizeof__", "__eq__", "__ge__", "__getattribute__", "__gt__", "__hash__",
    "__le__", "__lt__", "__ne__", "__repr__"]

/-- Truth values, which are whole numbers too. -/
def truth : Kind :=
  { whole with
    name := "bool"
    own := ["__repr__"]
    summary := some (
      "bool(x) -> bool\n\nReturns True when the argument x is true, False otherwise.\nThe " ++
      "builtins True and False are the only two instances of the class bool.\nThe class bool is " ++
      "a subclass of the class int, and cannot be subclassed.") }

/-- Floating-point numbers. -/
def floating : Kind where
  name := "float"
  summary := some "Convert a string or number to a floating point number, if possible."
  parts := ["real", "imag"]
  routines := [
    "__ceil__", "__floor__", "__getformat__", "__getnewargs__", "__round__", "__trunc__",
    "as_integer_ratio", "conjugate", "fromhex", "hex", "is_integer"]
  operators := [
    "__abs__", "__add__", "__bool__", "__divmod__", "__float__", "__floordiv__", "__int__",
    "__mod__", "__mul__", "__neg__", "__pos__", "__pow__", "__radd__", "__rdivmod__",
    "__rfloordiv__", "__rmod__", "__rmul__", "__rpow__", "__rsub__", "__rtruediv__", "__sub__",
    "__truediv__"]
  own := [
    "__format__", "__eq__", "__ge__", "__getattribute__", "__gt__", "__hash__", "__le__", "__lt__",
    "__ne__", "__repr__"]

/-- Texts. -/
def string : Kind where
  name := "str"
  summary := some (
    "str(object='') -> str\nstr(bytes_or_buffer[, encoding[, errors]]) -> str\n\nCreate a new " ++
    "string object from the given object. If encoding or\nerrors is specified, then the object " ++
    "must expose a data buffer\nthat will be decoded using the given encoding and error " ++
    "handler.\nOtherwise, returns the result of object.__str__() (if defined)\nor repr(object)." ++
    "\nencoding defaults to sys.getdefaultencoding().\nerrors defaults to 'strict'.")
  routines := [
    "__getnewargs__", "capitalize", "casefold", "center", "count", "encode", "endswith",
    "expandtabs", "find", "format", "format_map", "index", "isalnum", "isalpha", "isascii",
    "isdecimal", "isdigit", "isidentifier", "islower", "isnumeric", "isprintable", "isspace",
    "istitle", "isupper", "join", "ljust", "lower", "lstrip", "maketrans", "partition",
    "removeprefix", "removesuffix", "replace", "rfind", "rindex", "rjust", "rpartition", "rsplit",
    "rstrip", "split", "splitlines", "startswith", "strip", "swapcase", "title", "translate",
    "upper", "zfill"]
  operators := [
    "__add__", "__contains__", "__getitem__", "__iter__", "__len__", "__mod__", "__mul__",
    "__rmod__", "__rmul__"]
  own := [
    "__format__", "__sizeof__", "__eq__", "__ge__", "__getattribute__", "__gt__", "__hash__",
    "__le__", "__lt__", "__ne__", "__repr__", "__str__"]

/-- Lists. -/
def list : Kind where
  name := "list"
  summary := some (
    "Built-in mutable sequence.\n\nIf no argument is given, the constructor creates a new empty" ++
    " list.\nThe argument must be an iterable if specified.")
  routines := [
    "__class_getitem__", "__getitem__", "__reversed__", "append", "clear", "copy", "count",
    "extend", "index", "insert", "pop", "remove", "reverse", "sort"]
  operators := [
    "__add__", "__contains__", "__delitem__", "__iadd__", "__imul__", "__iter__", "__len__",
    "__mul__", "__rmul__", "__setitem__"]
  own := [
    "__sizeof__", "__eq__", "__ge__", "__getattribute__", "__gt__", "__init__", "__le__", "__lt__",
    "__ne__", "__repr__"]

/-- Lists that stay as they are. -/
def tuple : Kind where
  name := "tuple"
  summary := some (
    "Built-in immutable sequence.\n\nIf no argument is given, the constructor returns an empty " ++
    "tuple.\nIf iterable is specified the tuple is initialized from iterable's items.\n\nIf the " ++
    "argument is a tuple, the return value is the same object.")
  routines := ["__class_getitem__", "__getnewargs__", "count", "index"]
  operators := [
    "__add__", "__contains__", "__getitem__", "__iter__", "__len__", "__mul__", "__rmul__"]
  own := [
    "__eq__", "__ge__", "__getattribute__", "__gt__", "__hash__", "__le__", "__lt__", "__ne__",
    "__repr__"]

/-- Objects with members. -/
def object : Kind where
  name := "dict"
  summary := some (
    "dict() -> new empty dictionary\ndict(mapping) -> new dictionary initialized from a mapping" ++
    " object's\n    (key, value) pairs\ndict(iterable) -> new dictionary initialized as if via:" ++
    "\n    d = \x7b\x7d\n    for k, v in iterable:\n        d[k] = v\ndict(**kwargs) -> new " ++
    "dictionary initialized with the name=value pairs\n    in the keyword argument list.  For " ++
    "example:  dict(one=1, two=2)")
  routines := [
    "__class_getitem__", "__contains__", "__getitem__", "__reversed__", "clear", "copy", "fromkeys",
    "get", "items", "keys", "pop", "popitem", "setdefault", "update", "values"]
  operators := [
    "__delitem__", "__ior__", "__iter__", "__len__", "__or__", "__ror__", "__setitem__"]
  own := [
    "__sizeof__", "__eq__", "__ge__", "__getattribute__", "__gt__", "__init__", "__le__", "__lt__",
    "__ne__", "__repr__"]

/-- Nothing. -/
def null : Kind where
  name := "NoneType"
  operators := ["__bool__"]
  own := ["__repr__"]

/-- Kinds themselves. -/
def kind : Kind where
  name := "type"
  summary := some
    "type(object) -> the object's type\ntype(name, bases, dict, **kwds) -> a new type"
  routines := [
    "__instancecheck__", "__prepare__", "__subclasscheck__", "__subclasses__", "mro"]
  operators := ["__call__", "__or__", "__ror__"]

/-- Routines of built-in things. -/
def routine : Kind where
  name := "builtin_function_or_method"
  operators := ["__call__"]

/-- Operators of built-in things. -/
def operator : Kind where
  name := "method-wrapper"
  operators := ["__call__"]

/-- Methods of things that are not built in. -/
def method : Kind where
  name := "method"
  operators := ["__call__", "__get__"]

/-- Functions. -/
def function : Kind where
  name := "function"
  operators := ["__call__", "__get__"]

/-- Routines of a kind, without a thing. -/
def methodDescriptor : Kind where
  name := "method_descriptor"
  operators := ["__call__", "__get__"]

/-- Operators of a kind, without a thing. -/
def operatorDescriptor : Kind where
  name := "wrapper_descriptor"
  operators := ["__call__", "__get__"]

/-- Parts of the things of a kind, without a thing. -/
def partDescriptor : Kind where
  name := "getset_descriptor"
  operators := ["__get__", "__set__"]

/-- Slots of the things of a kind, without a thing. -/
def slotDescriptor : Kind where
  name := "member_descriptor"
  operators := ["__delete__", "__get__", "__set__"]

/-- Ranges of whole numbers. -/
def range : Kind where
  name := "range"
  summary := some (
    "range(stop) -> range object\nrange(start, stop[, step]) -> range object\n\nReturn an " ++
    "object that produces a sequence of integers from start (inclusive)\nto stop (exclusive) by " ++
    "step.  range(i, j) produces i, i+1, i+2, ..., j-1.\nstart defaults to 0, and stop is " ++
    "omitted!  range(4) produces 0, 1, 2, 3.\nThese are exactly the valid indices for a list of " ++
    "4 elements.\nWhen step is given, it specifies the increment (or decrement).")
  slots := ["start", "stop", "step"]
  routines := ["__reversed__", "count", "index"]
  operators := ["__bool__", "__contains__", "__getitem__", "__iter__", "__len__"]
  own := [
    "__reduce__", "__eq__", "__ge__", "__getattribute__", "__gt__", "__hash__", "__le__", "__lt__",
    "__ne__", "__repr__"]

/-- Notes on what a field holds, when that is no kind. -/
def fieldNote : Kind where
  home := "typing"
  name := "_GenericAlias"

/-- Fields themselves. -/
def recordField : Kind where
  home := "dataclasses"
  name := "Field"

/-- What a kind of records was made with. -/
def recordOptions : Kind where
  home := "dataclasses"
  name := "_DataclassParams"

/-- Kinds with a parameter. -/
def parameterized : Kind where
  home := "types"
  name := "GenericAlias"

/-- The state of a loop. -/
def loop : Kind where
  home := "jinja2.runtime"
  name := "LoopContext"
  summary := some (
    "A wrapper iterable for dynamic for loops, with information about\n    the loop and " ++
    "iteration.\n    ")
  methods := ["__init__", "__iter__", "__len__", "__next__", "__repr__", "changed", "cycle"]

/-- References of a template to itself. -/
def reference : Kind where
  home := "jinja2.runtime"
  name := "TemplateReference"
  summary := some "The `self` in templates."
  methods := ["__getitem__", "__init__", "__repr__"]

/-- Things of any kind. -/
def thing : Kind where
  name := "object"
  summary := some (
    "The base class of the class hierarchy.\n\nWhen called, it accepts no arguments and returns " ++
    "a new featureless\ninstance that has no instance attributes and cannot be given any.\n")

/-- Can the kind be given a parameter? -/
def takesParameter (k : Kind) : Bool := k = list || k = object || k = tuple || k = kind

/-- The kind that a kind belongs to next. -/
def parent? (k : Kind) : Option Kind :=
  if k.name = thing.name then none else if k = truth then some whole else some thing

/-- The kinds that a kind belongs to, itself first. -/
def lineage (k : Kind) : List Kind :=
  if k.name = thing.name then [k] else if k = truth then [k, whole, thing] else [k, thing]

/-- The kinds that templates know by a name of their own. -/
def wellKnown : List (String × Kind) := [
  ("range", range),
  ("dict", object),
  ("cycler", { home := "jinja2.utils", name := "Cycler" }),
  ("joiner", {
    home := "jinja2.utils"
    name := "Joiner"
    summary := some "A joining helper for templates." }),
  ("namespace", {
    home := "jinja2.utils"
    name := "Namespace"
    summary := some (
      "A namespace object that can hold arbitrary attributes.  It may be\n    initialized from " ++
      "a dictionary or with keyword arguments.\n    ") })]

end Kind

end EntityForge.Template
