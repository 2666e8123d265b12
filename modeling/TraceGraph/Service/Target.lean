import TraceGraph.Service.Url
import TraceGraph.Text.Utf8

/-! Targets of requests: the paths that they select. Percent escapes stand for the bytes of UTF-8 text. -/

namespace TraceGraph.Service

open Text

/-- The bytes that a path stands for; an escape without two hexadecimal digits is no escape. -/
def bytes : List Char → List Nat
  | [] => []
  | '%' :: a :: b :: cs =>
    match Json.hexValue? a, Json.hexValue? b with
    | some a, some b => (a * 16 + b) :: bytes cs
    | _, _ => utf8 '%' ++ bytes (a :: b :: cs)
  | c :: cs => utf8 c ++ bytes cs

/-- A path without its escapes. -/
def decodePath (path : List Char) : List Char := decodeUtf8 none (bytes path)

/-- The path of a target as text; a target is a URL taken relative to the service's own. -/
def path? (target : String) : Option (List Char) :=
  (Url.read? target).map fun u => decodePath (withoutDots u.fromRoot)

end TraceGraph.Service
