import NodeTrial.Text.Blank

namespace NodeTrial.Text

/-- The pieces of a text between the occurrences of a separator; one piece if there is none. -/
def pieces (separator : Char) (cs : List Char) : List (List Char) :=
  cs.foldr (fun c acc =>
    if c = separator then [] :: acc
    else match acc with
      | [] => [[c]]
      | piece :: rest => (c :: piece) :: rest) [[]]

/-- A line without the carriage return that ended it together with the line feed. -/
def dropReturn (line : List Char) : List Char :=
  match line.reverse with
  | '\r' :: rest => rest.reverse
  | _ => line

/-- The lines among the pieces between line feeds: all pieces but the last were ended by a line
feed, and the last is a line only if it holds something. -/
def linesOfPieces : List (List Char) → List (List Char)
  | [] => []
  | [last] => if last.isEmpty then [] else [last]
  | piece :: rest => dropReturn piece :: linesOfPieces rest

def lines (cs : List Char) : List (List Char) := linesOfPieces (pieces '\n' cs)

/-- The lines of a text with the white space at their ends cut off, blank lines left out. -/
def fullLines (cs : List Char) : List (List Char) :=
  ((lines cs).map trim).filter (!·.isEmpty)

def join (separator : String) (parts : List (List Char)) : String :=
  String.ofList (separator.toList.intercalate parts)

/-- The first `n` lines that hold anything, trimmed and joined by bars. -/
def firstLines (text : String) (n : Nat) : String :=
  join " | " ((fullLines text.toList).take n)

def firstLine? (text : String) : Option String :=
  (fullLines text.toList).head?.map String.ofList

def occursIn (needle : List Char) : List Char → Bool
  | [] => needle.isEmpty
  | c :: cs => needle.isPrefixOf (c :: cs) || occursIn needle cs

def contains (text needle : String) : Bool := occursIn needle.toList text.toList

def endsWith (text ending : String) : Bool := ending.toList.isSuffixOf text.toList

end NodeTrial.Text
