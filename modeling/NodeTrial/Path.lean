namespace NodeTrial.Path

def isAbsolute (p : String) : Bool := p.toList.head? = some '/'

/-- A path below another. An absolute second path stands for itself. -/
def join (base p : String) : String :=
  if isAbsolute p then p
  else if base.isEmpty || base.toList.getLast? = some '/' then base ++ p
  else base ++ "/" ++ p

/-- A path, last character first, without slashes and dots that add nothing at its end. -/
def trimTail : List Char → List Char
  | '/' :: rest => if rest.isEmpty then ['/'] else trimTail rest
  | '.' :: '/' :: rest => if rest.isEmpty then ['/'] else trimTail ('/' :: rest)
  | cs => cs

/-- The path without its last part; none for the root and for the empty path. -/
def parent? (p : String) : Option String :=
  match trimTail p.toList.reverse with
  | [] | ['/'] => none
  | cs => some (String.ofList (trimTail (cs.dropWhile (· ≠ '/'))).reverse)

end NodeTrial.Path
