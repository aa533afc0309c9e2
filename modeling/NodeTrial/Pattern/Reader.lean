import NodeTrial.Pattern.Property
import NodeTrial.Pattern.Property.Word
import NodeTrial.Pattern.Syntax
import NodeTrial.Text.Blank

/-!
Reading the written form of patterns. There is no looking around and no reference back to a group;
letters, digits and case are those of the Unicode standard unless a flag asks for ASCII.
-/

namespace NodeTrial.Pattern

structure Flags where
  ignoreCase : Bool := false
  multiLine : Bool := false
  dotAll : Bool := false
  unicode : Bool := true
  /-- Carriage returns end lines too. -/
  returns : Bool := false
  /-- White space and comments in the pattern mean nothing. -/
  verbose : Bool := false

/-- What a reader carries along: the flags in force and the names of groups so far. -/
structure Context where
  flags : Flags := {}
  names : List String := []

/-- Passes over white space and comments; `inComment` tells whether a comment goes on. -/
def skipLayout (inComment : Bool) : List Char → List Char
  | [] => []
  | c :: rest =>
    if inComment then skipLayout (c ≠ '\n') rest
    else if Text.isBlank c then skipLayout false rest
    else if c = '#' then skipLayout true rest
    else c :: rest

def skip (f : Flags) (cs : List Char) : List Char := if f.verbose then skipLayout false cs else cs

/-- The characters that have a meaning somewhere in patterns. -/
def isMeta (c : Char) : Bool := "\\.+*?()|[]\x7b\x7d^$#&-~".toList.contains c

/-- The characters that stand for themselves after a backslash: those of ASCII other than letters,
digits and angle brackets. -/
def isEscapable (c : Char) : Bool :=
  isMeta c || (c.toNat < 128 && !c.isAlphanum && c ≠ '<' && c ≠ '>')

def wordSet (f : Flags) : CharSet :=
  if f.unicode then .table wordTable
  else .ofList [.range 48 57, .range 65 90, .range 95 95, .range 97 122]

/-- The set that a letter after a backslash names: digits, white space or words. -/
def letterClass? (f : Flags) (c : Char) : Option CharSet :=
  match c.toLower with
  | 'd' => some (if f.unicode then .table digitTable else .range 48 57)
  | 's' =>
    some (if f.unicode then .table spaceTable else .union (.range 9 13) (.range 32 32))
  | 'w' => some (wordSet f)
  | _ => none

/-- A set with what differs from its members in case, if the flags ask for that. -/
def caseClosed (f : Flags) (s : CharSet) : CharSet :=
  if f.ignoreCase then (if f.unicode then .fold s else .foldAscii s) else s

def negatedIf (b : Bool) (s : CharSet) : CharSet := if b then .complement s else s

inductive Escape
  /-- A character; `byte` tells that it was given by two hexadecimal digits. -/
  | char (c : Char) (byte : Bool)
  | set (s : CharSet)
  | look (l : Look)

def bracedCode (f : Flags) (acc : List Char) : (fuel : Nat) → List Char →
    Option (List Char × List Char)
  | 0, _ => none
  | fuel + 1, cs =>
    match skip f cs with
    | '\x7d' :: rest => some (acc.reverse, rest)
    | c :: rest =>
      if (Hexadecimal.digit? c).isSome then bracedCode f (c :: acc) fuel rest else none
    | [] => none

def fixedCode (f : Flags) (acc : List Char) : (count : Nat) → List Char →
    Option (List Char × List Char)
  | 0, cs => some (acc.reverse, cs)
  | count + 1, cs =>
    match skip f cs with
    | c :: rest =>
      if (Hexadecimal.digit? c).isSome then fixedCode f (c :: acc) count rest else none
    | [] => none

def charOfCode? (ds : List Char) : Option Char := do
  let n ← Hexadecimal.value? ds
  if ds.isEmpty then none
  else if h : n.isValidChar then some (Char.ofNatAux n h) else none

/-- Reads a character given by its code, after the letter that tells the number of digits. -/
def readCode (f : Flags) (digits : Nat) (cs : List Char) : Option (Escape × List Char) := do
  match skip f cs with
  | '\x7b' :: rest => do
    let (ds, rest) ← bracedCode f [] (rest.length + 1) rest
    some (.char (← charOfCode? ds) false, rest)
  | cs => do
    let (ds, rest) ← fixedCode f [] digits cs
    some (.char (← charOfCode? ds) (digits = 2), rest)

/-- The set of a property in braces: one name, or a name and a value with a sign between them. -/
def bracedProperty? (body : List Char) : Option CharSet :=
  let (before, after) := (body.takeWhile (· ≠ ':'), body.dropWhile (· ≠ ':'))
  match splitAtDiffers [] body with
  | some (name, value) => (valueSet? name value).map .complement
  | none =>
    match after with
    | _ :: value => valueSet? before value
    | [] =>
      match body.dropWhile (· ≠ '=') with
      | _ :: value => valueSet? (body.takeWhile (· ≠ '=')) value
      | [] => namedSet? body
where
  /-- Splits at the sign that tells two values apart. -/
  splitAtDiffers (acc : List Char) : List Char → Option (List Char × List Char)
    | '!' :: '=' :: rest => some (acc.reverse, rest)
    | c :: rest => splitAtDiffers (c :: acc) rest
    | [] => none

def readProperty (f : Flags) (negated : Bool) (cs : List Char) : Option (Escape × List Char) := do
  if !f.unicode then none
  else
    match skip f cs with
    | '\x7b' :: rest => do
      let body := rest.takeWhile (· ≠ '\x7d')
      let body := if f.verbose then body.filter (!Text.isBlank ·) else body
      match rest.dropWhile (· ≠ '\x7d') with
      | _ :: rest => some (.set (negatedIf negated (caseClosed f (← bracedProperty? body))), rest)
      | [] => none
    | '\\' :: _ => none
    | c :: rest => some (.set (negatedIf negated (caseClosed f (← namedSet? [c]))), rest)
    | [] => none

def namedBoundary? (word : CharSet) (name : List Char) : Option Look :=
  if name = "start".toList then some (.wordStart word)
  else if name = "end".toList then some (.wordEnd word)
  else if name = "start-half".toList then some (.wordStartHalf word)
  else if name = "end-half".toList then some (.wordEndHalf word)
  else none

/-- Reads what may follow the letter of a word boundary: the name of a special one in braces. Braces
around anything but a name are left for a repetition. -/
def readBoundary (f : Flags) (cs : List Char) : Option (Escape × List Char) :=
  let word := wordSet f
  let plain := some (Escape.look (.wordBoundary word), cs)
  match cs with
  | '\x7b' :: rest =>
    let rest := skip f rest
    match rest with
    | [] => none
    | c :: _ =>
      if !(c.isAlpha || c = '-') then plain
      else
        let body := rest.takeWhile fun c => c.isAlpha || c = '-' || (f.verbose && Text.isBlank c)
        match rest.drop body.length with
        | '\x7d' :: after =>
          (namedBoundary? word (body.filter (!Text.isBlank ·))).map (.look ·, after)
        | _ => none
  | _ => plain

def readEscape (f : Flags) : List Char → Option (Escape × List Char)
  | [] => none
  | c :: rest =>
    if c = 'x' then readCode f 2 rest
    else if c = 'u' then readCode f 4 rest
    else if c = 'U' then readCode f 8 rest
    else if c = 'p' then readProperty f false rest
    else if c = 'P' then readProperty f true rest
    else
      match letterClass? f c with
      | some s => some (.set (negatedIf c.isUpper s), rest)
      | none =>
        if isEscapable c then some (.char c false, rest)
        else if c = 'a' then some (.char '\x07' false, rest)
        else if c = 'f' then some (.char '\x0c' false, rest)
        else if c = 't' then some (.char '\t' false, rest)
        else if c = 'n' then some (.char '\n' false, rest)
        else if c = 'r' then some (.char '\r' false, rest)
        else if c = 'v' then some (.char '\x0b' false, rest)
        else if c = 'A' then some (.look .textStart, rest)
        else if c = 'z' then some (.look .textEnd, rest)
        else if c = 'b' then readBoundary f rest
        else if c = 'B' then some (.look (.notWordBoundary (wordSet f)), rest)
        else if c = '<' then some (.look (.wordStart (wordSet f)), rest)
        else if c = '>' then some (.look (.wordEnd (wordSet f)), rest)
        else none

/-- A set in brackets while it is read, with the depth to which its written form is nested. -/
structure Class where
  set : CharSet
  depth : Nat

def asciiClass? (name : List Char) : Option CharSet :=
  let alpha : CharSet := .union (.range 65 90) (.range 97 122)
  let is (s : String) : Bool := name = s.toList
  if is "alnum" then some (.union (.range 48 57) alpha)
  else if is "alpha" then some alpha
  else if is "ascii" then some (.range 0 127)
  else if is "blank" then some (.union (.range 9 9) (.range 32 32))
  else if is "cntrl" then some (.union (.range 0 31) (.range 127 127))
  else if is "digit" then some (.range 48 57)
  else if is "graph" then some (.range 33 126)
  else if is "lower" then some (.range 97 122)
  else if is "print" then some (.range 32 126)
  else if is "punct" then
    some (.ofList [.range 33 47, .range 58 64, .range 91 96, .range 123 126])
  else if is "space" then some (.union (.range 9 13) (.range 32 32))
  else if is "upper" then some (.range 65 90)
  else if is "word" then some (.ofList [.range 48 57, .range 65 90, .range 95 95, .range 97 122])
  else if is "xdigit" then some (.ofList [.range 48 57, .range 65 70, .range 97 102])
  else none

/-- Reads a named ASCII class after its opening bracket; none if there is none. -/
def readAsciiClass (f : Flags) : List Char → Option (CharSet × List Char)
  | ':' :: rest =>
    let (negated, rest) := match rest with
      | '^' :: rest => (true, rest)
      | rest => (false, rest)
    let name := rest.takeWhile (· ≠ ':')
    match rest.drop name.length with
    | ':' :: ']' :: rest =>
      (asciiClass? name).map fun s => (negatedIf negated (caseClosed f s), rest)
    | _ => none
  | _ => none

/-- The character of a byte set that a character is; a set of bytes holds no others. -/
def byteChar? (f : Flags) (c : Char) (byte : Bool) : Option Char :=
  if f.unicode || c.toNat < 128 || byte then some c else none

def readClassPrimitive (f : Flags) : List Char → Option (Escape × List Char)
  | '\\' :: rest => readEscape f (skip f rest)
  | c :: rest => some (.char c false, rest)
  | [] => none

def readClassItem (f : Flags) (cs : List Char) : Option (CharSet × List Char) := do
  let (first, rest) ← readClassPrimitive f cs
  let rest := skip f rest
  let alone : Option (CharSet × List Char) :=
    match first with
    | .char c byte => (byteChar? f c byte).map fun c => (.single c, rest)
    | .set s => some (s, rest)
    | .look _ => none
  match rest with
  | [] => none
  | '-' :: more =>
    match skip f more with
    | ']' :: _ => alone
    | '-' :: _ => alone
    | more => do
      let (last, rest) ← readClassPrimitive f more
      match first, last with
      | .char a byteA, .char b byteB => do
        let a ← byteChar? f a byteA
        let b ← byteChar? f b byteB
        if a ≤ b then some (.range a.toNat b.toNat, rest) else none
      | _, _ => none
  | _ => alone

inductive SetOp
  | inter
  | diff
  | symmetric

def readSetOp : List Char → Option (SetOp × List Char)
  | '&' :: '&' :: rest => some (.inter, rest)
  | '-' :: '-' :: rest => some (.diff, rest)
  | '~' :: '~' :: rest => some (.symmetric, rest)
  | _ => none

/-- The items of a set since the last operation, the last one first, and what stands before that
operation. -/
structure ClassState where
  items : List Class
  before : Option (Class × SetOp)

def ClassState.unionOfItems (s : ClassState) : Class :=
  match s.items with
  | [c] => c
  | items =>
    { set := .ofList (items.reverse.map (·.set))
      depth := if items.isEmpty then 0 else 1 + (items.map (·.depth)).foldl max 0 }

/-- All items with the operation before them carried out. -/
def ClassState.close (f : Flags) (s : ClassState) : Class :=
  let right := s.unionOfItems
  match s.before with
  | none => right
  | some (left, op) =>
    let a := caseClosed f left.set
    let b := caseClosed f right.set
    { set := match op with
        | .inter => .inter a b
        | .diff => .diff a b
        | .symmetric => .symmetricDiff a b
      depth := 1 + max left.depth right.depth }

def ClassState.push (s : ClassState) (c : Class) : ClassState := { s with items := c :: s.items }

/-- Reads the hyphens and the bracket that stand for themselves at the front of a set. -/
def readClassFront (f : Flags) (s : ClassState) : (fuel : Nat) → List Char →
    ClassState × List Char
  | 0, cs => (s, cs)
  | fuel + 1, cs =>
    match cs with
    | '-' :: rest => readClassFront f (s.push ⟨.single '-', 0⟩) fuel (skip f rest)
    | ']' :: rest =>
      if s.items.isEmpty then (s.push ⟨.single ']', 0⟩, skip f rest) else (s, cs)
    | _ => (s, cs)

mutual

def readClass (f : Flags) : (fuel : Nat) → List Char → Option (Class × List Char)
  | 0, _ => none
  | fuel + 1, cs => do
    let (negated, cs) := match skip f cs with
      | '^' :: rest => (true, skip f rest)
      | cs => (false, cs)
    let (state, cs) := readClassFront f ⟨[], none⟩ (cs.length + 1) cs
    let (c, rest) ← readClassItems f state fuel cs
    some (⟨negatedIf negated (caseClosed f c.set), c.depth + 1⟩, rest)

def readClassItems (f : Flags) (s : ClassState) : (fuel : Nat) → List Char →
    Option (Class × List Char)
  | 0, _ => none
  | fuel + 1, cs =>
    match skip f cs with
    | [] => none
    | ']' :: rest => some (s.close f, rest)
    | '[' :: rest =>
      match readAsciiClass f rest with
      | some (set, rest) => readClassItems f (s.push ⟨set, 0⟩) fuel rest
      | none =>
        match readClass f fuel rest with
        | some (c, rest) => readClassItems f (s.push c) fuel rest
        | none => none
    | cs =>
      match readSetOp cs with
      | some (op, rest) => readClassItems f ⟨[], some (s.close f, op)⟩ fuel rest
      | none =>
        match readClassItem f cs with
        | some (set, rest) => readClassItems f (s.push ⟨set, 0⟩) fuel rest
        | none => none

end

/-- A part of a pattern while it is read. -/
structure Piece where
  pattern : Pattern
  depth : Nat
  /-- Whether it is nothing but a setting of flags, which cannot be repeated. -/
  isSetting : Bool := false

def maxDepth : Nat := 250

/-- The pieces of a branch as one; `acc` holds them, the last one first. -/
def Piece.sequence (acc : List Piece) : Piece :=
  match acc with
  | [p] => { p with isSetting := false }
  | ps =>
    { pattern := seqOf (ps.reverse.map (·.pattern))
      depth := if ps.isEmpty then 0 else 1 + (ps.map (·.depth)).foldl max 0 }

/-- Branches as one piece; `branches` holds them, the last one first. -/
def Piece.choice (branches : List Piece) : Piece :=
  match branches with
  | [p] => p
  | ps =>
    { pattern := altOf (ps.reverse.map (·.pattern))
      depth := 1 + (ps.map (·.depth)).foldl max 0 }

def flagOf? : Char → Option (Bool → Flags → Flags)
  | 'i' => some fun b f => { f with ignoreCase := b }
  | 'm' => some fun b f => { f with multiLine := b }
  | 's' => some fun b f => { f with dotAll := b }
  | 'U' => some fun _ f => f
  | 'u' => some fun b f => { f with unicode := b }
  | 'R' => some fun b f => { f with returns := b }
  | 'x' => some fun b f => { f with verbose := b }
  | _ => none

/-- Reads flags up to the colon or parenthesis that ends them. A letter stands only once, a hyphen
too, and not last. The answer tells whether a parenthesis ended them, and whether there was none. -/
def readFlags (seen : List Char) (setting : Bool) (f : Flags) :
    List Char → Option (Flags × Bool × Bool × List Char)
  | [] => none
  | c :: rest =>
    if c = ':' || c = ')' then
      if seen.head? = some '-' then none else some (f, c = ')', seen.isEmpty, rest)
    else if seen.contains c then none
    else if c = '-' then readFlags (c :: seen) false f rest
    else
      match flagOf? c with
      | some set => readFlags (c :: seen) setting (set setting f) rest
      | none => none

def alphabetic : Text.RangeTable :=
  match findProperty? binaryProperties "alphabetic".toList with
  | some p => p.table
  | none => ⟨#[]⟩

def numeric : CharSet := (category? "n".toList).getD .none

def isNameChar (first : Bool) (c : Char) : Bool :=
  c = '_' || alphabetic.holds c ||
    (!first && (c = '.' || c = '[' || c = ']' || numeric.holds c))

def readName (cs : List Char) : Option (String × List Char) :=
  let name := cs.takeWhile (· ≠ '>')
  match name, cs.drop name.length with
  | c :: more, _ :: rest =>
    if isNameChar true c && more.all (isNameChar false) then some (String.ofList name, rest)
    else none
  | _, _ => none

/-- Reads a decimal number with white space around it; the inner none stands for no digits. -/
def readCount (f : Flags) (cs : List Char) : Option (Option Nat × List Char) :=
  let cs := Text.trimStart cs
  let (ds, rest) := digits f [] (cs.length + 1) cs
  let rest := skip f (Text.trimStart rest)
  if ds.isEmpty then some (none, rest)
  else
    let n := ds.foldl (fun n c => n * 10 + (c.toNat - 48)) 0
    if n < Nat.pow 2 32 then some (some n, rest) else none
where
  digits (f : Flags) (acc : List Char) : (fuel : Nat) → List Char → List Char × List Char
    | 0, cs => (acc.reverse, cs)
    | fuel + 1, cs =>
      match cs with
      | c :: rest =>
        if c.isDigit then digits f (c :: acc) fuel (skip f rest) else (acc.reverse, cs)
      | [] => (acc.reverse, [])

def readCounts (f : Flags) (cs : List Char) : Option ((Nat × Option Nat) × List Char) := do
  let (least, rest) ← readCount f (skip f cs)
  let least ← least
  match rest with
  | '\x7d' :: rest => some ((least, some least), rest)
  | ',' :: rest =>
    match skip f rest with
    | '\x7d' :: rest => some ((least, none), rest)
    | rest => do
      let (most, rest) ← readCount f rest
      let most ← most
      match rest with
      | '\x7d' :: rest => if least ≤ most then some ((least, some most), rest) else none
      | _ => none
  | _ => none

/-- Repeats the last piece of a branch. A question mark after a repetition only changes which of
several matches is preferred. -/
def repeatLast (f : Flags) (acc : List Piece) (least : Nat) (most? : Option Nat) (counted : Bool)
    (rest : List Char) : Option (List Piece × List Char) :=
  match acc with
  | [] => none
  | p :: before =>
    if p.isSetting then none
    else
      let rest := if counted then skip f rest else rest
      let rest := match rest with
        | '?' :: rest => rest
        | rest => rest
      some ({ pattern := .many p.pattern least most?, depth := p.depth + 1 } :: before, rest)

def charPiece? (f : Flags) (c : Char) (byte : Bool) : Option Piece :=
  if !f.unicode && byte && 128 ≤ c.toNat then none
  else
    let s := CharSet.single c
    let s := if f.ignoreCase && (f.unicode || c.toNat < 128) then caseClosed f s else s
    some { pattern := .one s, depth := 0 }

/-- The piece of a set. Without Unicode a set may hold no character beyond ASCII. -/
def setPiece? (f : Flags) (s : CharSet) (depth : Nat) : Option Piece :=
  if f.unicode || s.isAscii then some { pattern := .one s, depth } else none

def lookPiece (l : Look) : Piece := { pattern := .look l, depth := 0 }

def dotSet (f : Flags) : CharSet :=
  if f.dotAll then .all
  else if f.returns then .complement (.union (.range 10 10) (.range 13 13))
  else .complement (.range 10 10)

def escapePiece? (f : Flags) : Escape → Option Piece
  | .char c byte => charPiece? f c byte
  | .set s => setPiece? f s 0
  | .look l => some (lookPiece l)

/-- Reads one character, escape or sign that is neither a group, a set nor a repetition. -/
def readPrimitive (f : Flags) : List Char → Option (Piece × List Char)
  | '\\' :: rest => do
    let (e, rest) ← readEscape f rest
    some (← escapePiece? f e, rest)
  | '.' :: rest =>
    if f.unicode then some ({ pattern := .one (dotSet f), depth := 0 }, rest) else none
  | '^' :: rest => some (lookPiece (if f.multiLine then .lineStart f.returns else .textStart), rest)
  | '$' :: rest => some (lookPiece (if f.multiLine then .lineEnd f.returns else .textEnd), rest)
  | c :: rest => do some (← charPiece? f c false, rest)
  | [] => none

inductive Opening
  /-- Flags for the rest of the enclosing group. -/
  | setting (f : Flags)
  /-- A group with its flags, whether it counts as a group of its own, and its name if any. -/
  | group (f : Flags) (counts : Bool) (name : Option String)

def readOpening (f : Flags) (cs : List Char) : Option (Opening × List Char) :=
  match skip f cs with
  | '?' :: '=' :: _ | '?' :: '!' :: _ | '?' :: '<' :: '=' :: _ | '?' :: '<' :: '!' :: _ => none
  | '?' :: 'P' :: '<' :: rest => (readName rest).map fun (n, rest) => (.group f true (some n), rest)
  | '?' :: '<' :: rest => (readName rest).map fun (n, rest) => (.group f true (some n), rest)
  | '?' :: rest => do
    let (g, closed, bare, rest) ← readFlags [] true f rest
    if closed then (if bare then none else some (.setting g, rest))
    else some (.group g false none, rest)
  | cs => some (.group f true none, cs)

/-- Reads branches up to the end of a group or of the pattern. `acc` holds the pieces of the current
branch and `branches` the branches before it, the last one first. -/
def readBranches : (fuel : Nat) → Context → (acc branches : List Piece) → List Char →
    Option (Piece × Context × List Char)
  | 0, _, _, _, _ => none
  | fuel + 1, ctx, acc, branches, cs =>
    let f := ctx.flags
    let done (rest : List Char) := some (Piece.choice (Piece.sequence acc :: branches), ctx, rest)
    match skip f cs with
    | [] => done []
    | ')' :: rest => done (')' :: rest)
    | '|' :: rest => readBranches fuel ctx [] (Piece.sequence acc :: branches) rest
    | '(' :: rest =>
      match readOpening f rest with
      | none => none
      | some (.setting g, rest) =>
        readBranches fuel { ctx with flags := g }
          ({ pattern := .empty, depth := 0, isSetting := true } :: acc) branches rest
      | some (.group g counts name, rest) =>
        if name.any ctx.names.contains then none
        else
          match readBranches fuel ⟨g, name.toList ++ ctx.names⟩ [] [] rest with
          | some (p, inner, ')' :: rest) =>
            let pattern := if counts then .group p.pattern else p.pattern
            readBranches fuel ⟨f, inner.names⟩ ({ pattern, depth := p.depth + 1 } :: acc) branches
              rest
          | _ => none
    | '[' :: rest =>
      match readClass f (rest.length + 2) rest with
      | none => none
      | some (c, rest) =>
        match setPiece? f c.set c.depth with
        | some p => readBranches fuel ctx (p :: acc) branches rest
        | none => none
    | '?' :: rest => do
      let (acc, rest) ← repeatLast f acc 0 (some 1) false rest
      readBranches fuel ctx acc branches rest
    | '*' :: rest => do
      let (acc, rest) ← repeatLast f acc 0 none false rest
      readBranches fuel ctx acc branches rest
    | '+' :: rest => do
      let (acc, rest) ← repeatLast f acc 1 none false rest
      readBranches fuel ctx acc branches rest
    | '\x7b' :: rest => do
      let ((least, most?), rest) ← readCounts f rest
      let (acc, rest) ← repeatLast f acc least most? true rest
      readBranches fuel ctx acc branches rest
    | cs => do
      let (p, rest) ← readPrimitive f cs
      readBranches fuel ctx (p :: acc) branches rest

def ofChars? (cs : List Char) : Option Pattern :=
  match readBranches (cs.length + 1) {} [] [] cs with
  | some (p, _, []) => if p.depth ≤ maxDepth then some p.pattern else none
  | _ => none

end NodeTrial.Pattern
