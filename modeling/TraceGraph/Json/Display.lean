import TraceGraph.Json
import TraceGraph.Binary64.Shortest
import TraceGraph.Text.Quoted

/-! How a value reads when it stands in a message: a text as it is, anything else by its listing. In a
listing texts are quoted, and null and the truth values have capitalised names. -/

namespace TraceGraph.Json

mutual

def listing : Json → String
  | null => "None"
  | bool true => "True"
  | bool false => "False"
  | int n => toString n
  | float x => x.text
  | text s => Text.quoted s
  | illFormed t => Text.quotedPoints t.points
  | list items => "[" ++ listingItems items ++ "]"
  | object members => "\x7b" ++ listingMembers members ++ "\x7d"

def listingItems : List Json → String
  | [] => ""
  | [v] => listing v
  | v :: vs => listing v ++ ", " ++ listingItems vs

def listingMembers : List (String × Json) → String
  | [] => ""
  | [(k, v)] => Text.quoted k ++ ": " ++ listing v
  | (k, v) :: ms => Text.quoted k ++ ": " ++ listing v ++ ", " ++ listingMembers ms

end

def displayPoints : Json → List Text.CodePoint
  | text s => Text.codePoints s
  | illFormed t => t.points
  | v => Text.codePoints (listing v)

/-- The display as a text; an unpaired surrogate is shown as the replacement character. -/
def display (v : Json) : String := Text.CodePoint.text v.displayPoints

end TraceGraph.Json
