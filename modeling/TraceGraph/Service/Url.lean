import TraceGraph.Numeral.Integer
import TraceGraph.Service.Host

/-! URLs, as far as they select a path: scheme, authority, path, query and fragment by the marks between
them, where each but the path may be missing. A URL is absolute if it has a scheme and a host. The dot
segments of a path are resolved if the URL has a scheme or an authority. -/

namespace TraceGraph.Service

/-- Go through path segments and resolve the dot segments; `seen` is the segments before, the last one
first. -/
def resolveDots (seen : List (List Char)) : List (List Char) → List (List Char)
  | [] => seen.reverse
  | ['.'] :: ss => resolveDots seen ss
  | ['.', '.'] :: ss => resolveDots (if seen = [[]] then seen else seen.tail) ss
  | s :: ss => resolveDots (s :: seen) ss

def withoutDots (path : List Char) : List Char :=
  List.intercalate ['/'] (resolveDots [] (Path.segments path))

structure Url where
  scheme : List Char
  host : List Char
  path : List Char
  deriving DecidableEq

namespace Url

/-- The most characters that a URL may have. -/
def lengthLimit : Nat := 65536

def isControl (c : Char) : Bool := c.toNat < 0x20 || c.toNat = 0x7f

def isSchemeChar (c : Char) : Bool := c.isAlphanum || c = '+' || c = '-' || c = '.'

/-- Split off a scheme with its colon. A colon that begins the text ends an empty scheme. -/
def splitScheme (cs : List Char) : List Char × List Char :=
  let scheme := cs.takeWhile isSchemeChar
  match cs.dropWhile isSchemeChar with
  | ':' :: rest => if (scheme.head?.getD 'a').isAlpha then (scheme, rest) else ([], cs)
  | _ => ([], cs)

/-- Split off an authority, which two slashes announce. -/
def splitAuthority : List Char → List Char × List Char
  | '/' :: '/' :: cs =>
    let ends (c : Char) : Bool := c = '/' || c = '?' || c = '#'
    (cs.takeWhile (!ends ·), cs.dropWhile (!ends ·))
  | cs => ([], cs)

/-- The text after the last occurrence of a character, and the text before it if it occurs. -/
def splitLast (sep : Char) (cs : List Char) : Option (List Char) × List Char :=
  let after := (cs.reverse.takeWhile (· ≠ sep)).reverse
  if sep ∈ cs then (some (cs.take (cs.length - after.length - 1)), after) else (none, after)

/-- Host and port of an authority without its user. A host in brackets ends with the last of these. -/
def splitPort (cs : List Char) : List Char × List Char :=
  let bracketed := match cs with
    | '[' :: _ => (splitLast ']' cs).1.map fun before => (before ++ [']'], (splitLast ']' cs).2)
    | _ => none
  let (host, rest) := bracketed.getD (cs.takeWhile (· ≠ ':'), cs.dropWhile (· ≠ ':'))
  match rest with
  | ':' :: port => (host, port)
  | port => (host, port)

/-- A port is an integer or missing. -/
def isPort (cs : List Char) : Bool :=
  cs = [] || (Numeral.integer (String.ofList cs)).toOption.isSome

/-- The URL that a text writes; none if a part is not valid. -/
def read? (s : String) : Option Url :=
  let cs := s.toList
  let (scheme, rest) := splitScheme cs
  let (authority, rest) := splitAuthority rest
  let path := rest.takeWhile fun c => c ≠ '?' && c ≠ '#'
  let (user, address) := splitLast '@' authority
  let (host, port) := splitPort address
  let hasAuthority := user.getD [] ≠ [] || host ≠ [] || port ≠ []
  let bare := scheme = [] && !hasAuthority
  if lengthLimit < cs.length || cs.any isControl || !Host.isValid host || !isPort port then none
  else if bare && (path.take 2 = ['/', '/'] || path.head? = some ':') then none
  else some ⟨scheme, host, if bare then path else withoutDots path⟩

def isAbsolute (u : Url) : Bool := u.scheme ≠ [] && u.host ≠ []

/-- The path from the root; one that is not absolute is taken below it. -/
def fromRoot (u : Url) : List Char :=
  if u.isAbsolute then (if u.path = [] then ['/'] else u.path)
  else '/' :: u.path.dropWhile (· = '/')

example : ((read? "http://localhost:8000/api/./stats?x").map fromRoot) = some "/api/stats".toList ∧
    ((read? "//h/api").map fromRoot) = some "/api".toList ∧ read? "http://h:8o/api" = none := by
  decide +kernel

end Url

end TraceGraph.Service
