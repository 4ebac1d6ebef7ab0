import Highlighter.Profile
import Highlighter.Regex.Constant

/-!
# The profile of JavaScript

It also serves for snippets of TypeScript.
-/

namespace Highlighter.Builtin

open Highlighter.Regex

/-- The words that count as keywords. -/
def javaScriptWords : List String := [
  "as", "async", "await", "break", "case", "catch", "class", "const", "continue", "debugger",
  "default", "delete", "do", "else", "enum", "export", "extends", "false", "finally", "for",
  "from", "function", "get", "if", "implements", "import", "in", "instanceof", "interface", "let",
  "new", "null", "of", "package", "private", "protected", "public", "return", "set", "static",
  "super", "switch", "this", "throw", "true", "try", "typeof", "undefined", "var", "void",
  "while", "with", "yield", "AggregateError", "Array", "ArrayBuffer", "AsyncFunction", "Atomics",
  "BigInt", "BigInt64Array", "BigUint64Array", "Boolean", "DataView", "Date", "Error",
  "EvalError", "FinalizationRegistry", "Float32Array", "Float64Array", "Function", "Generator",
  "GeneratorFunction", "Infinity", "Int16Array", "Int32Array", "Int8Array", "Intl", "JSON", "Map",
  "Math", "NaN", "Number", "Object", "Promise", "Proxy", "RangeError", "ReferenceError",
  "Reflect", "RegExp", "Set", "SharedArrayBuffer", "String", "Symbol", "SyntaxError", "TypeError",
  "Uint16Array", "Uint32Array", "Uint8Array", "Uint8ClampedArray", "URIError", "WeakMap",
  "WeakRef", "WeakSet", "WebAssembly", "alert", "caches", "clearInterval", "clearTimeout",
  "console", "crypto", "document", "fetch", "globalThis", "history", "indexedDB", "localStorage",
  "location", "matchMedia", "module", "navigator", "performance", "process", "prompt",
  "queueMicrotask", "requestAnimationFrame", "require", "screen", "sessionStorage", "setInterval",
  "setTimeout", "window", "AbortController", "AbortSignal", "Blob", "BroadcastChannel",
  "CustomEvent", "Document", "DOMException", "DOMParser", "DOMRect", "Element", "Event",
  "EventSource", "EventTarget", "File", "FileReader", "FormData", "Headers", "HTMLElement",
  "HTMLTemplateElement", "Image", "IntersectionObserver", "KeyboardEvent", "MessageChannel",
  "MouseEvent", "MutationObserver", "Node", "NodeList", "Range", "ReadableStream", "Request",
  "ResizeObserver", "Response", "ShadowRoot", "Text", "TextDecoder", "TextEncoder", "URL",
  "URLSearchParams", "WebSocket", "Worker", "WritableStream", "XMLHttpRequest"]

/-- The entries of the profile of JavaScript. -/
def javaScript : List (Value × Value) := [
  (.text "argument", grammarScanner Signature.javascript),
  (.text "operator", .pattern (.constant
      ("===|!==|=>|>=|<=|&&|\\|\\||\\?\\?|!=|\\+\\+|--|\\+|-|\\*|/|%|>|<|=|!|\\?"))),
  (.text "number", .pattern (.constant
      ("\\b0[xob][\\da-f_]+n?\\b|(?<![\\w$])\\d[\\d_]*(?:\\.\\d+)?(?:e[+-]?\\d+)?n?\\b")
      { ignoreCase := true })),
  (.text "function", .pattern (.constant "(?<![\\w$])[A-Za-z_$][\\w$]*(?=\\s*\\()")),
  (.text "tag", .pattern (.constant "</?[\\w-]+|(?<=[\\w\\\"])>")),
  (.text "keyword", .list (javaScriptWords.map .text)),
  (.text "string", .pattern (.constant
      ("'(?:\\\\.|[^'\\\\\\n])*'|\\\"(?:\\\\.|[^\\\"\\\\\\n])*\\\"|`(?:\\\\.|[^`\\\\])*`"))),
  (.text "variable", .pattern (.constant "\\$\\s*\\\x7b[^\x7d]+\\\x7d")),
  (.text "comment", .pattern (.constant "#!.*|//.*|/\\*[\\s\\S]*?\\*/"))]

end Highlighter.Builtin
