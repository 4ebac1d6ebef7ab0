import Highlighter.Regex.Constant
import Highlighter.Signature.Scan

/-!
# Built-in grammars

The grammars of PHP, Python and JavaScript.
-/

namespace Highlighter.Signature

open Highlighter.Regex

/-- The grammar of PHP. A header is a function, named or not, or an arrow function; a parameter is a
variable, which may follow a type, `&` and `...`. -/
def php : Grammar where
  name := "php"
  header := .constant (
    "\\b(?:function\\b\\s*&?\\s*(?:[A-Za-z_\\x80-\\uffff][\\w\\x80-\\uffff]*\\s*)?|fn\\s*)\\(")
  parameter := .constant (
    "(?:&\\s*)?(?:\\.\\.\\.\\s*)?(?P<name>\\$[A-Za-z_\\x7f-\\uffff][\\w\\x7f-\\uffff]*)")
  lexis := { quotes := "'\"".toList }

/-- The grammar of Python. A header is a `def`, with type parameters or without; a parameter is the
first identifier of its slot, after comments and one or two stars. -/
def python : Grammar where
  name := "python"
  header := .constant (
    "\\bdef\\s+[^\\W\\d]\\w*\\s*(?:\\[[^\\]\\n]*\\]\\s*)?\\(")
  parameter := .constant (
    "\\A(?:\\s*#[^\\n]*\\n)*\\s*(?:\\*\\*|\\*)?\\s*(?P<name>[^\\W\\d]\\w*)")
  lexis := { quotes := "'\"".toList, lineComment := "#".toList }

/-- The grammar of JavaScript. A header is a function, an arrow function with a flat parameter list,
or a method; a parameter is the first identifier of its slot, after comments and `...`. -/
def javascript : Grammar where
  name := "javascript"
  header := .constant (
    "\\bfunction\\b\\s*\\*?\\s*(?:[A-Za-z_$][\\w$]*\\s*)?\\(" ++
    "|(?<![\\w$])\\((?=[^()]*\\)\\s*=>)" ++
    "|(?<![\\w$.])(?!(?:if|for|while|switch|catch|with|return|function)\\b)" ++
    "[A-Za-z_$][\\w$]*\\s*\\((?=[^()]*\\)\\s*\\\x7b)")
  parameter := .constant (
    "\\A(?:\\s*(?://[^\\n]*\\n|/\\*[\\s\\S]*?\\*/))*" ++
    "\\s*(?:\\.\\.\\.\\s*)?(?P<name>[A-Za-z_$][\\w$]*)")
  lexis :=
    { quotes := "'\"`".toList
      lineComment := "//".toList
      blockOpen := "/*".toList
      blockClose := "*/".toList }

/-- The built-in grammars, by name in alphabetical order. -/
def builtin : List (String × Grammar) :=
  [("javascript", javascript), ("php", php), ("python", python)]

end Highlighter.Signature
