import Highlighter.RuleSet
import Highlighter.Unicode.Lowercase

/-!
# Languages
-/

namespace Highlighter

/-- A rule set with a name and the extensions of the files for which it is meant. -/
structure Language where
  name : Text
  extensions : List Text
  rules : RuleSet
deriving DecidableEq, Repr

namespace Language

/-- An extension in the form in which it is looked up: without dots in front, in small letters. -/
def normalExtension (extension : Text) : Text :=
  Unicode.lowercase (extension.dropWhile (· = '.'))

/-- The language of a name and a rule set, for files with the extensions given. -/
def ofRules (name : Text) (rules : RuleSet) (extensions : List Text) : Language :=
  ⟨name, extensions.map normalExtension, rules⟩

def addExtension (language : Language) (extension : Text) : Language :=
  { language with extensions := language.extensions ++ [normalExtension extension] }

end Language

/-! ### Built-in languages

The languages that are known without any rule file, and the rules for all other files. -/

namespace Builtin

def texts (words : List String) : List Text :=
  words.map String.toList

def kotlinRules : RuleSet where
  keywords := texts [
    "as", "break", "class", "continue", "do", "else", "false", "for", "fun", "if", "in",
    "interface", "is", "null", "object", "package", "return", "super", "this", "throw", "true",
    "try", "typealias", "typeof", "val", "var", "when", "while", "by", "catch", "constructor",
    "finally", "import", "init", "where"]
  types := texts [
    "Any", "Boolean", "Byte", "Char", "Double", "Float", "Int", "List", "Long", "Map",
    "MutableList", "MutableMap", "Nothing", "Set", "Short", "String", "Unit"]
  modifiers := texts [
    "abstract", "annotation", "companion", "const", "data", "enum", "external", "final", "inline",
    "inner", "internal", "lateinit", "open", "operator", "override", "private", "protected",
    "public", "sealed", "suspend", "vararg"]
  comments := texts ["//", "/* */"]
  strings := texts ["\"\"\"", "\"", "'"]

def javaRules : RuleSet where
  keywords := texts [
    "assert", "break", "case", "catch", "class", "continue", "default", "do", "else", "enum",
    "extends", "false", "finally", "for", "if", "implements", "import", "instanceof", "interface",
    "new", "null", "package", "return", "super", "switch", "this", "throw", "throws", "true",
    "try", "var", "while", "yield", "record"]
  types := texts [
    "boolean", "byte", "char", "double", "float", "int", "long", "short", "void", "Boolean",
    "Integer", "Long", "Object", "String", "List", "Map"]
  modifiers := texts [
    "abstract", "final", "native", "private", "protected", "public", "static", "strictfp",
    "synchronized", "transient", "volatile", "sealed", "non-sealed"]
  comments := texts ["//", "/* */"]
  strings := texts ["\"", "'"]

def pythonRules : RuleSet where
  keywords := texts [
    "False", "None", "True", "and", "as", "assert", "async", "await", "break", "class",
    "continue", "def", "del", "elif", "else", "except", "finally", "for", "from", "global", "if",
    "import", "in", "is", "lambda", "nonlocal", "not", "or", "pass", "raise", "return", "try",
    "while", "with", "yield"]
  types := texts [
    "bool", "bytes", "dict", "float", "frozenset", "int", "list", "object", "set", "str", "tuple"]
  modifiers := texts ["@staticmethod", "@classmethod", "@property", "self", "cls"]
  comments := texts ["#", "\"\"\" \"\"\""]
  strings := texts ["\"", "'"]

/-- The rules of files that belong to no language: the usual comments and quotes only. -/
def fallbackRules : RuleSet where
  keywords := []
  types := []
  modifiers := []
  comments := texts ["//", "/* */", "#"]
  strings := texts ["\"", "'"]

def languages : List Language := [
  .ofRules "Kotlin".toList kotlinRules (texts ["kt", "kts"]),
  .ofRules "Java".toList javaRules (texts ["java"]),
  .ofRules "Python".toList pythonRules (texts ["py", "pyw", "pyi"])]

end Builtin

end Highlighter
