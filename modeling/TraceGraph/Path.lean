/-! Slash-separated file paths by text. Empty segments and single dots drop out, double dots stay, and a
path that begins with exactly two slashes keeps both. -/

namespace TraceGraph.Path

/-- The texts between slashes. -/
def segments : List Char → List (List Char)
  | [] => [[]]
  | '/' :: cs => [] :: segments cs
  | c :: cs =>
    match segments cs with
    | s :: ss => (c :: s) :: ss
    | [] => [[c]]

/-- The segments that name something. -/
def names (path : String) : List String :=
  ((segments path.toList).filter fun s => s ≠ [] ∧ s ≠ ['.']).map String.ofList

def isAbsolute (path : String) : Bool := path.toList.head? = some '/'

/-- The slashes that an absolute path begins with. -/
def root (path : String) : String :=
  match path.toList with
  | '/' :: '/' :: '/' :: _ => "/"
  | '/' :: '/' :: _ => "//"
  | '/' :: _ => "/"
  | _ => ""

def join (names : List String) : String := "/".intercalate names

def normalize (path : String) : String :=
  let text := root path ++ join (names path)
  if text = "" then "." else text

/-- A path taken relative to a directory, unless it is absolute. -/
def under (directory path : String) : String :=
  if isAbsolute path then normalize path
  else root directory ++ join (names directory ++ names path)

/-- The last segment, empty if the path ends in a slash. -/
def baseName (path : String) : String := String.ofList ((segments path.toList).getLastD [])

/-- A file name up to its last dot. A name that begins with its only dots has no extension. -/
def stem (name : String) : String :=
  let dots := name.toList.takeWhile (· = '.')
  let rest := (name.toList.dropWhile (· = '.')).reverse
  match rest.dropWhile (· ≠ '.') with
  | [] => name
  | _ :: before => String.ofList (dots ++ before.reverse)

end TraceGraph.Path
