import EntityForge.Template.Kind
import EntityForge.Text.Basic

/-! # Summaries of routines

What a routine of a built-in kind says of itself. Most routines of one name say the same whatever
they belong to.
-/

namespace EntityForge.Template.Kind

/-- What routines say of themselves, by kind and name. -/
def routineSummaries : List (String × String × String) := [
  ("int", "__ceil__", "Ceiling of an Integral returns itself."),
  ("bool", "__ceil__", "Ceiling of an Integral returns itself."),
  ("float", "__ceil__", "Return the ceiling as an Integral."),
  ("str", "__contains__", "Return key in self."),
  ("list", "__contains__", "Return key in self."),
  ("tuple", "__contains__", "Return key in self."),
  ("dict", "__contains__", "True if the dictionary has the specified key, else False."),
  ("int", "__floor__", "Flooring an Integral returns itself."),
  ("bool", "__floor__", "Flooring an Integral returns itself."),
  ("float", "__floor__", "Return the floor as an Integral."),
  ("float", "__format__", "Formats the float according to format_spec."),
  ("str", "__format__", "Return a formatted version of the string as described by format_spec."),
  ("list", "__format__", "Default object formatter."),
  ("tuple", "__format__", "Default object formatter."),
  ("dict", "__format__", "Default object formatter."),
  ("NoneType", "__format__", "Default object formatter."),
  ("str", "__getitem__", "Return self[key]."),
  ("list", "__getitem__", "x.__getitem__(y) <==> x[y]"),
  ("tuple", "__getitem__", "Return self[key]."),
  ("dict", "__getitem__", "x.__getitem__(y) <==> x[y]"),
  ("range", "__contains__", "Return key in self."),
  ("object", "__format__", "Default object formatter."),
  ("range", "__getitem__", "Return self[key]."),
  ("range", "__reversed__", "Return a reverse iterator."),
  ("object", "__sizeof__", "Size of object in memory, in bytes."),
  ("range", "count",
    "rangeobject.count(value) -> integer -- return number of occurrences of value"),
  ("range", "index",
    "rangeobject.index(value) -> integer -- return index of value.\nRaise ValueError if the " ++
    "value is not present."),
  ("list", "__reversed__", "Return a reverse iterator over the list."),
  ("dict", "__reversed__", "Return a reverse iterator over the dict keys."),
  ("int", "__round__",
    "Rounding an Integral returns itself.\n\nRounding with an ndigits argument also returns an " ++
    "integer."),
  ("bool", "__round__",
    "Rounding an Integral returns itself.\n\nRounding with an ndigits argument also returns an " ++
    "integer."),
  ("float", "__round__",
    "Return the Integral closest to x, rounding half toward even.\n\nWhen an argument is " ++
    "passed, work like built-in round(x, ndigits)."),
  ("int", "__sizeof__", "Returns size in memory, in bytes."),
  ("bool", "__sizeof__", "Returns size in memory, in bytes."),
  ("float", "__sizeof__", "Size of object in memory, in bytes."),
  ("str", "__sizeof__", "Return the size of the string in memory, in bytes."),
  ("list", "__sizeof__", "Return the size of the list in memory, in bytes."),
  ("tuple", "__sizeof__", "Size of object in memory, in bytes."),
  ("dict", "__sizeof__", "D.__sizeof__() -> size of D in memory, in bytes"),
  ("NoneType", "__sizeof__", "Size of object in memory, in bytes."),
  ("int", "__trunc__", "Truncating an Integral returns itself."),
  ("bool", "__trunc__", "Truncating an Integral returns itself."),
  ("float", "__trunc__", "Return the Integral closest to x between 0 and x."),
  ("int", "as_integer_ratio",
    "Return integer ratio.\n\nReturn a pair of integers, whose ratio is exactly equal to the " ++
    "original int\nand with a positive denominator.\n\n>>> (10).as_integer_ratio()\n(10, " ++
    "1)\n>>> (-10).as_integer_ratio()\n(-10, 1)\n>>> (0).as_integer_ratio()\n(0, 1)"),
  ("bool", "as_integer_ratio",
    "Return integer ratio.\n\nReturn a pair of integers, whose ratio is exactly equal to the " ++
    "original int\nand with a positive denominator.\n\n>>> (10).as_integer_ratio()\n(10, " ++
    "1)\n>>> (-10).as_integer_ratio()\n(-10, 1)\n>>> (0).as_integer_ratio()\n(0, 1)"),
  ("float", "as_integer_ratio",
    "Return integer ratio.\n\nReturn a pair of integers, whose ratio is exactly equal to the " ++
    "original float\nand with a positive denominator.\n\nRaise OverflowError on infinities and " ++
    "a ValueError on NaNs.\n\n>>> (10.0).as_integer_ratio()\n(10, 1)\n>>> " ++
    "(0.0).as_integer_ratio()\n(0, 1)\n>>> (-.25).as_integer_ratio()\n(-1, 4)"),
  ("list", "clear", "Remove all items from list."),
  ("dict", "clear", "D.clear() -> None.  Remove all items from D."),
  ("int", "conjugate", "Returns self, the complex conjugate of any int."),
  ("bool", "conjugate", "Returns self, the complex conjugate of any int."),
  ("float", "conjugate", "Return self, the complex conjugate of any float."),
  ("list", "copy", "Return a shallow copy of the list."),
  ("dict", "copy", "D.copy() -> a shallow copy of D"),
  ("str", "count",
    "S.count(sub[, start[, end]]) -> int\n\nReturn the number of non-overlapping occurrences of " ++
    "substring sub in\nstring S[start:end].  Optional arguments start and end are\ninterpreted " ++
    "as in slice notation."),
  ("list", "count", "Return number of occurrences of value."),
  ("tuple", "count", "Return number of occurrences of value."),
  ("str", "index",
    "S.index(sub[, start[, end]]) -> int\n\nReturn the lowest index in S where substring sub is " ++
    "found,\nsuch that sub is contained within S[start:end].  Optional\narguments start and " ++
    "end are interpreted as in slice notation.\n\nRaises ValueError when the substring is not " ++
    "found."),
  ("list", "index",
    "Return first index of value.\n\nRaises ValueError if the value is not present."),
  ("tuple", "index",
    "Return first index of value.\n\nRaises ValueError if the value is not present."),
  ("list", "pop",
    "Remove and return item at index (default last).\n\nRaises IndexError if list is empty or " ++
    "index is out of range."),
  ("dict", "pop",
    "D.pop(k[,d]) -> v, remove specified key and return the corresponding value.\n\nIf the key " ++
    "is not found, return the default if given; otherwise,\nraise a KeyError.")]

/-- What routines of a name say of themselves, whatever kind they belong to. -/
def sharedSummaries : List (String × String) := [
  ("__abs__", "abs(self)"),
  ("__add__", "Return self+value."),
  ("__and__", "Return self&value."),
  ("__bool__", "True if self else False"),
  ("__class_getitem__", "See PEP 585"),
  ("__delattr__", "Implement delattr(self, name)."),
  ("__delitem__", "Delete self[key]."),
  ("__dir__", "Default dir() implementation."),
  ("__divmod__", "Return divmod(self, value)."),
  ("__eq__", "Return self==value."),
  ("__float__", "float(self)"),
  ("__floordiv__", "Return self//value."),
  ("__ge__", "Return self>=value."),
  ("__getattribute__", "Return getattr(self, name)."),
  ("__getformat__",
    "You probably don't want to use this function.\n\n  typestr\n    Must be 'double' or " ++
    "'float'.\n\nIt exists mainly to be used in Python's test suite.\n\nThis function returns " ++
    "whichever of 'unknown', 'IEEE, big-endian' or 'IEEE,\nlittle-endian' best describes the " ++
    "format of floating point numbers used by the\nC type named by typestr."),
  ("__getstate__", "Helper for pickle."),
  ("__gt__", "Return self>value."),
  ("__hash__", "Return hash(self)."),
  ("__iadd__", "Implement self+=value."),
  ("__imul__", "Implement self*=value."),
  ("__index__",
    "Return self converted to an integer, if self is suitable for use as an index into a list."),
  ("__init__", "Initialize self.  See help(type(self)) for accurate signature."),
  ("__init_subclass__",
    "This method is called when a class is subclassed.\n\nThe default implementation does " ++
    "nothing. It may be\noverridden to extend subclasses.\n"),
  ("__int__", "int(self)"),
  ("__invert__", "~self"),
  ("__ior__", "Return self|=value."),
  ("__iter__", "Implement iter(self)."),
  ("__le__", "Return self<=value."),
  ("__len__", "Return len(self)."),
  ("__lshift__", "Return self<<value."),
  ("__lt__", "Return self<value."),
  ("__mod__", "Return self%value."),
  ("__mul__", "Return self*value."),
  ("__ne__", "Return self!=value."),
  ("__neg__", "-self"),
  ("__new__", "Create and return a new object.  See help(type) for accurate signature."),
  ("__or__", "Return self|value."),
  ("__pos__", "+self"),
  ("__pow__", "Return pow(self, value, mod)."),
  ("__radd__", "Return value+self."),
  ("__rand__", "Return value&self."),
  ("__rdivmod__", "Return divmod(value, self)."),
  ("__reduce__", "Helper for pickle."),
  ("__reduce_ex__", "Helper for pickle."),
  ("__repr__", "Return repr(self)."),
  ("__rfloordiv__", "Return value//self."),
  ("__rlshift__", "Return value<<self."),
  ("__rmod__", "Return value%self."),
  ("__rmul__", "Return value*self."),
  ("__ror__", "Return value|self."),
  ("__rpow__", "Return pow(value, self, mod)."),
  ("__rrshift__", "Return value>>self."),
  ("__rshift__", "Return self>>value."),
  ("__rsub__", "Return value-self."),
  ("__rtruediv__", "Return value/self."),
  ("__rxor__", "Return value^self."),
  ("__setattr__", "Implement setattr(self, name, value)."),
  ("__setitem__", "Set self[key] to value."),
  ("__str__", "Return str(self)."),
  ("__sub__", "Return self-value."),
  ("__subclasshook__",
    "Abstract classes can override this to customize issubclass().\n\nThis is invoked early on " ++
    "by abc.ABCMeta.__subclasscheck__().\nIt should return True, False or NotImplemented.  If " ++
    "it returns\nNotImplemented, the normal algorithm is used.  Otherwise, it\noverrides the " ++
    "normal algorithm (and the outcome is cached).\n"),
  ("__truediv__", "Return self/value."),
  ("__xor__", "Return self^value."),
  ("append", "Append object to the end of the list."),
  ("bit_count",
    "Number of ones in the binary representation of the absolute value of self.\n\nAlso known " ++
    "as the population count.\n\n>>> bin(13)\n'0b1101'\n>>> (13).bit_count()\n3"),
  ("bit_length",
    "Number of bits necessary to represent self in binary.\n\n>>> bin(37)\n'0b100101'\n>>> " ++
    "(37).bit_length()\n6"),
  ("capitalize",
    "Return a capitalized version of the string.\n\nMore specifically, make the first character " ++
    "have upper case and the rest lower\ncase."),
  ("casefold", "Return a version of the string suitable for caseless comparisons."),
  ("center",
    "Return a centered string of length width.\n\nPadding is done using the specified fill " ++
    "character (default is a space)."),
  ("encode",
    "Encode the string using the codec registered for encoding.\n\n  encoding\n    The encoding " ++
    "in which to encode the string.\n  errors\n    The error handling scheme to use for " ++
    "encoding errors.\n    The default is 'strict' meaning that encoding errors raise a\n    " ++
    "UnicodeEncodeError.  Other possible values are 'ignore', 'replace' and\n    " ++
    "'xmlcharrefreplace' as well as any other name registered with\n    codecs.register_error " ++
    "that can handle UnicodeEncodeErrors."),
  ("endswith",
    "S.endswith(suffix[, start[, end]]) -> bool\n\nReturn True if S ends with the specified " ++
    "suffix, False otherwise.\nWith optional start, test S beginning at that position.\nWith " ++
    "optional end, stop comparing S at that position.\nsuffix can also be a tuple of strings " ++
    "to try."),
  ("expandtabs",
    "Return a copy where all tab characters are expanded using spaces.\n\nIf tabsize is not " ++
    "given, a tab size of 8 characters is assumed."),
  ("extend", "Extend list by appending elements from the iterable."),
  ("find",
    "S.find(sub[, start[, end]]) -> int\n\nReturn the lowest index in S where substring sub is " ++
    "found,\nsuch that sub is contained within S[start:end].  Optional\narguments start and " ++
    "end are interpreted as in slice notation.\n\nReturn -1 on failure."),
  ("format",
    "S.format(*args, **kwargs) -> str\n\nReturn a formatted version of S, using substitutions " ++
    "from args and kwargs.\nThe substitutions are identified by braces ('\x7b' and '\x7d')."),
  ("format_map",
    "S.format_map(mapping) -> str\n\nReturn a formatted version of S, using substitutions from " ++
    "mapping.\nThe substitutions are identified by braces ('\x7b' and '\x7d')."),
  ("from_bytes",
    "Return the integer represented by the given array of bytes.\n\n  bytes\n    Holds the " ++
    "array of bytes to convert.  The argument must either\n    support the buffer protocol or " ++
    "be an iterable object producing bytes.\n    Bytes and bytearray are examples of built-in " ++
    "objects that support the\n    buffer protocol.\n  byteorder\n    The byte order used to " ++
    "represent the integer.  If byteorder is 'big',\n    the most significant byte is at the " ++
    "beginning of the byte array.  If\n    byteorder is 'little', the most significant byte is " ++
    "at the end of the\n    byte array.  To request the native byte order of the host system, " ++
    "use\n    `sys.byteorder' as the byte order value.  Default is to use 'big'.\n  signed\n   " ++
    " Indicates whether two's complement is used to represent the integer."),
  ("fromhex",
    "Create a floating-point number from a hexadecimal string.\n\n>>> " ++
    "float.fromhex('0x1.ffffp10')\n2047.984375\n>>> float.fromhex('-0x1p-1074')\n-5e-324"),
  ("fromkeys", "Create a new dictionary with keys from iterable and values set to value."),
  ("get", "Return the value for key if key is in the dictionary, else default."),
  ("hex",
    "Return a hexadecimal representation of a floating-point number.\n\n>>> " ++
    "(-0.1).hex()\n'-0x1.999999999999ap-4'\n>>> 3.14159.hex()\n'0x1.921f9f01b866ep+1'"),
  ("insert", "Insert object before index."),
  ("is_integer", "Return True if the float is an integer."),
  ("isalnum",
    "Return True if the string is an alpha-numeric string, False otherwise.\n\nA string is " ++
    "alpha-numeric if all characters in the string are alpha-numeric and\nthere is at least " ++
    "one character in the string."),
  ("isalpha",
    "Return True if the string is an alphabetic string, False otherwise.\n\nA string is " ++
    "alphabetic if all characters in the string are alphabetic and there\nis at least one " ++
    "character in the string."),
  ("isascii",
    "Return True if all characters in the string are ASCII, False otherwise.\n\nASCII " ++
    "characters have code points in the range U+0000-U+007F.\nEmpty string is ASCII too."),
  ("isdecimal",
    "Return True if the string is a decimal string, False otherwise.\n\nA string is a decimal " ++
    "string if all characters in the string are decimal and\nthere is at least one character " ++
    "in the string."),
  ("isdigit",
    "Return True if the string is a digit string, False otherwise.\n\nA string is a digit " ++
    "string if all characters in the string are digits and there\nis at least one character in " ++
    "the string."),
  ("isidentifier",
    "Return True if the string is a valid Python identifier, False otherwise.\n\nCall " ++
    "keyword.iskeyword(s) to test whether string s is a reserved identifier,\nsuch as \"def\" " ++
    "or \"class\"."),
  ("islower",
    "Return True if the string is a lowercase string, False otherwise.\n\nA string is lowercase " ++
    "if all cased characters in the string are lowercase and\nthere is at least one cased " ++
    "character in the string."),
  ("isnumeric",
    "Return True if the string is a numeric string, False otherwise.\n\nA string is numeric if " ++
    "all characters in the string are numeric and there is at\nleast one character in the " ++
    "string."),
  ("isprintable",
    "Return True if the string is printable, False otherwise.\n\nA string is printable if all " ++
    "of its characters are considered printable in\nrepr() or if it is empty."),
  ("isspace",
    "Return True if the string is a whitespace string, False otherwise.\n\nA string is " ++
    "whitespace if all characters in the string are whitespace and there\nis at least one " ++
    "character in the string."),
  ("istitle",
    "Return True if the string is a title-cased string, False otherwise.\n\nIn a title-cased " ++
    "string, upper- and title-case characters may only\nfollow uncased characters and " ++
    "lowercase characters only cased ones."),
  ("isupper",
    "Return True if the string is an uppercase string, False otherwise.\n\nA string is " ++
    "uppercase if all cased characters in the string are uppercase and\nthere is at least one " ++
    "cased character in the string."),
  ("items", "D.items() -> a set-like object providing a view on D's items"),
  ("join",
    "Concatenate any number of strings.\n\nThe string whose method is called is inserted in " ++
    "between each given string.\nThe result is returned as a new string.\n\nExample: " ++
    "'.'.join(['ab', 'pq', 'rs']) -> 'ab.pq.rs'"),
  ("keys", "D.keys() -> a set-like object providing a view on D's keys"),
  ("ljust",
    "Return a left-justified string of length width.\n\nPadding is done using the specified " ++
    "fill character (default is a space)."),
  ("lower", "Return a copy of the string converted to lowercase."),
  ("lstrip",
    "Return a copy of the string with leading whitespace removed.\n\nIf chars is given and not " ++
    "None, remove characters in chars instead."),
  ("maketrans",
    "Return a translation table usable for str.translate().\n\nIf there is only one argument, " ++
    "it must be a dictionary mapping Unicode\nordinals (integers) or characters to Unicode " ++
    "ordinals, strings or None.\nCharacter keys will be then converted to ordinals.\nIf there " ++
    "are two arguments, they must be strings of equal length, and\nin the resulting " ++
    "dictionary, each character in x will be mapped to the\ncharacter at the same position in " ++
    "y. If there is a third argument, it\nmust be a string, whose characters will be mapped to " ++
    "None in the result."),
  ("partition",
    "Partition the string into three parts using the given separator.\n\nThis will search for " ++
    "the separator in the string.  If the separator is found,\nreturns a 3-tuple containing " ++
    "the part before the separator, the separator\nitself, and the part after it.\n\nIf the " ++
    "separator is not found, returns a 3-tuple containing the original string\nand two empty " ++
    "strings."),
  ("popitem",
    "Remove and return a (key, value) pair as a 2-tuple.\n\nPairs are returned in LIFO " ++
    "(last-in, first-out) order.\nRaises KeyError if the dict is empty."),
  ("remove", "Remove first occurrence of value.\n\nRaises ValueError if the value is not present."),
  ("removeprefix",
    "Return a str with the given prefix string removed if present.\n\nIf the string starts with " ++
    "the prefix string, return string[len(prefix):].\nOtherwise, return a copy of the original " ++
    "string."),
  ("removesuffix",
    "Return a str with the given suffix string removed if present.\n\nIf the string ends with " ++
    "the suffix string and that suffix is not empty,\nreturn string[:-len(suffix)]. Otherwise, " ++
    "return a copy of the original\nstring."),
  ("replace",
    "Return a copy with all occurrences of substring old replaced by new.\n\n  count\n    " ++
    "Maximum number of occurrences to replace.\n    -1 (the default value) means replace all " ++
    "occurrences.\n\nIf the optional argument count is given, only the first count occurrences " ++
    "are\nreplaced."),
  ("reverse", "Reverse *IN PLACE*."),
  ("rfind",
    "S.rfind(sub[, start[, end]]) -> int\n\nReturn the highest index in S where substring sub " ++
    "is found,\nsuch that sub is contained within S[start:end].  Optional\narguments start and " ++
    "end are interpreted as in slice notation.\n\nReturn -1 on failure."),
  ("rindex",
    "S.rindex(sub[, start[, end]]) -> int\n\nReturn the highest index in S where substring sub " ++
    "is found,\nsuch that sub is contained within S[start:end].  Optional\narguments start and " ++
    "end are interpreted as in slice notation.\n\nRaises ValueError when the substring is not " ++
    "found."),
  ("rjust",
    "Return a right-justified string of length width.\n\nPadding is done using the specified " ++
    "fill character (default is a space)."),
  ("rpartition",
    "Partition the string into three parts using the given separator.\n\nThis will search for " ++
    "the separator in the string, starting at the end. If\nthe separator is found, returns a " ++
    "3-tuple containing the part before the\nseparator, the separator itself, and the part " ++
    "after it.\n\nIf the separator is not found, returns a 3-tuple containing two empty " ++
    "strings\nand the original string."),
  ("rsplit",
    "Return a list of the substrings in the string, using sep as the separator string.\n\n  " ++
    "sep\n    The separator used to split the string.\n\n    When set to None (the default " ++
    "value), will split on any whitespace\n    character (including \\n \\r \\t \\f and " ++
    "spaces) and will discard\n    empty strings from the result.\n  maxsplit\n    Maximum " ++
    "number of splits.\n    -1 (the default value) means no limit.\n\nSplitting starts at the " ++
    "end of the string and works to the front."),
  ("rstrip",
    "Return a copy of the string with trailing whitespace removed.\n\nIf chars is given and not " ++
    "None, remove characters in chars instead."),
  ("setdefault",
    "Insert key with a value of default if key is not in the dictionary.\n\nReturn the value " ++
    "for key if key is in the dictionary, else default."),
  ("sort",
    "Sort the list in ascending order and return None.\n\nThe sort is in-place (i.e. the list " ++
    "itself is modified) and stable (i.e. the\norder of two equal elements is " ++
    "maintained).\n\nIf a key function is given, apply it once to each list item and sort " ++
    "them,\nascending or descending, according to their function values.\n\nThe reverse flag " ++
    "can be set to sort in descending order."),
  ("split",
    "Return a list of the substrings in the string, using sep as the separator string.\n\n  " ++
    "sep\n    The separator used to split the string.\n\n    When set to None (the default " ++
    "value), will split on any whitespace\n    character (including \\n \\r \\t \\f and " ++
    "spaces) and will discard\n    empty strings from the result.\n  maxsplit\n    Maximum " ++
    "number of splits.\n    -1 (the default value) means no limit.\n\nSplitting starts at the " ++
    "front of the string and works to the end.\n\nNote, str.split() is mainly useful for data " ++
    "that has been intentionally\ndelimited.  With natural text that includes punctuation, " ++
    "consider using\nthe regular expression module."),
  ("splitlines",
    "Return a list of the lines in the string, breaking at line boundaries.\n\nLine breaks are " ++
    "not included in the resulting list unless keepends is given and\ntrue."),
  ("startswith",
    "S.startswith(prefix[, start[, end]]) -> bool\n\nReturn True if S starts with the specified " ++
    "prefix, False otherwise.\nWith optional start, test S beginning at that position.\nWith " ++
    "optional end, stop comparing S at that position.\nprefix can also be a tuple of strings " ++
    "to try."),
  ("strip",
    "Return a copy of the string with leading and trailing whitespace removed.\n\nIf chars is " ++
    "given and not None, remove characters in chars instead."),
  ("swapcase", "Convert uppercase characters to lowercase and lowercase characters to uppercase."),
  ("title",
    "Return a version of the string where each word is titlecased.\n\nMore specifically, words " ++
    "start with uppercased characters and all remaining\ncased characters have lower case."),
  ("to_bytes",
    "Return an array of bytes representing an integer.\n\n  length\n    Length of bytes object " ++
    "to use.  An OverflowError is raised if the\n    integer is not representable with the " ++
    "given number of bytes.  Default\n    is length 1.\n  byteorder\n    The byte order used " ++
    "to represent the integer.  If byteorder is 'big',\n    the most significant byte is at " ++
    "the beginning of the byte array.  If\n    byteorder is 'little', the most significant " ++
    "byte is at the end of the\n    byte array.  To request the native byte order of the host " ++
    "system, use\n    `sys.byteorder' as the byte order value.  Default is to use 'big'.\n  " ++
    "signed\n    Determines whether two's complement is used to represent the integer.\n    If " ++
    "signed is False and a negative integer is given, an OverflowError\n    is raised."),
  ("translate",
    "Replace each character in the string using the given translation table.\n\n  table\n    " ++
    "Translation table, which must be a mapping of Unicode ordinals to\n    Unicode ordinals, " ++
    "strings, or None.\n\nThe table must implement lookup/indexing via __getitem__, for " ++
    "instance a\ndictionary or list.  If this operation raises LookupError, the character " ++
    "is\nleft untouched.  Characters mapped to None are deleted."),
  ("update",
    "D.update([E, ]**F) -> None.  Update D from dict/iterable E and F.\nIf E is present and has " ++
    "a .keys() method, then does:  for k in E: D[k] = E[k]\nIf E is present and lacks a " ++
    ".keys() method, then does:  for k, v in E: D[k] = v\nIn either case, this is followed by: " ++
    "for k in F:  D[k] = F[k]"),
  ("upper", "Return a copy of the string converted to uppercase."),
  ("values", "D.values() -> an object providing a view on D's values"),
  ("zfill",
    "Pad a numeric string with zeros on the left, to fill a field of the given width.\n\nThe " ++
    "string is never truncated.")]

/-- What the routine of that name says of itself. -/
def routineSummary? (k : Kind) (name : Text) : Option String :=
  let own := routineSummaries.find? fun (owner, routine, _) => owner = k.name ∧ name = text routine
  let shared := sharedSummaries.find? fun (routine, _) => name = text routine
  (own.map fun (_, _, summary) => summary).or (shared.map Prod.snd)

end EntityForge.Template.Kind
