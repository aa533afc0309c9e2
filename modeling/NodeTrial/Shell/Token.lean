import NodeTrial.Shell.Syntax

namespace NodeTrial.Shell

inductive Token
  | word (parts : Word)
  /-- A number right before a redirection. -/
  | number (n : Nat)
  | operator (sign : String)
  | lineFeed
  /-- The end of the script. -/
  | finish
  /-- A place from which on the script has no tokens, and why. -/
  | broken (fault : String)
  deriving DecidableEq, Repr

structure Placed where
  token : Token
  line : Nat
  deriving Repr

/-- The text of a word that has no quotes and no expansions. -/
def plainText? : Word → Option String
  | [] => some ""
  | .bare text :: rest => (plainText? rest).map (text ++ ·)
  | _ :: _ => none

def isNameStart (c : Char) : Bool := c.isAlpha || c = '_'

def isNameChar (c : Char) : Bool := c.isAlphanum || c = '_'

/-- The parameters whose names are signs. -/
def isSpecial (c : Char) : Bool := "*@#?$!-".toList.contains c

def endsWord (c : Char) : Bool := " \t\n;&|<>()".toList.contains c

/-- What stands between an opening sign that was read and the sign that closes it, and what follows
that. Signs in quotes and after a backslash do not count. -/
def inside (opening closing : Char) : (quote : Option Char) → (depth : Nat) → (acc : List Char) →
    List Char → Option (List Char × List Char)
  | _, _, _, [] => none
  | quote, depth, acc, c :: cs =>
    match quote with
    | some q =>
      if c = '\\' && q != '\'' then
        match cs with
        | d :: rest => inside opening closing quote depth (d :: c :: acc) rest
        | [] => none
      else inside opening closing (if c = q then none else some q) depth (c :: acc) cs
    | none =>
      if c = '\\' then
        match cs with
        | d :: rest => inside opening closing none depth (d :: c :: acc) rest
        | [] => none
      else if c = closing then
        match depth with
        | 0 => some (acc.reverse, cs)
        | depth + 1 => inside opening closing none depth (c :: acc) cs
      else if c = opening then inside opening closing none (depth + 1) (c :: acc) cs
      else if c = '\'' || c = '"' then inside opening closing (some c) depth (c :: acc) cs
      else inside opening closing none depth (c :: acc) cs

/-- A script between backquotes; a backslash before a backquote, a backslash or a dollar sign falls
away. -/
def insideBackquotes (acc : List Char) : List Char → Option (List Char × List Char)
  | [] => none
  | '`' :: rest => some (acc.reverse, rest)
  | '\\' :: c :: rest =>
    if c = '`' || c = '\\' || c = '$' then insideBackquotes (c :: acc) rest
    else insideBackquotes (c :: '\\' :: acc) rest
  | c :: rest => insideBackquotes (c :: acc) rest

/-- The change that the signs behind the name of a parameter ask for. -/
def changeOf? : List Char → Option Change
  | [] => some .plain
  | ':' :: '-' :: w => some (.default true (String.ofList w))
  | '-' :: w => some (.default false (String.ofList w))
  | ':' :: '=' :: w => some (.assign true (String.ofList w))
  | '=' :: w => some (.assign false (String.ofList w))
  | ':' :: '+' :: w => some (.alternative true (String.ofList w))
  | '+' :: w => some (.alternative false (String.ofList w))
  | ':' :: '?' :: w => some (.require true (String.ofList w))
  | '?' :: w => some (.require false (String.ofList w))
  | '#' :: '#' :: w => some (.dropFront true (String.ofList w))
  | '#' :: w => some (.dropFront false (String.ofList w))
  | '%' :: '%' :: w => some (.dropBack true (String.ofList w))
  | '%' :: w => some (.dropBack false (String.ofList w))
  | _ => none

def parameterName : List Char → Option (String × List Char)
  | [] => none
  | c :: cs =>
    if isNameStart c then
      let name := (c :: cs).takeWhile isNameChar
      some (String.ofList name, (c :: cs).drop name.length)
    else if c.isDigit then
      let name := (c :: cs).takeWhile Char.isDigit
      some (String.ofList name, (c :: cs).drop name.length)
    else if isSpecial c then some (c.toString, cs)
    else none

def bracedParameter? (inQuotes : Bool) (cs : List Char) : Option Part :=
  match cs with
  | '#' :: d :: rest =>
    match parameterName (d :: rest) with
    | some (name, []) => some (.parameter name .length inQuotes)
    | _ => (changeOf? (d :: rest)).map fun change => .parameter "#" change inQuotes
  | _ =>
    match parameterName cs with
    | some (name, rest) => (changeOf? rest).map fun change => .parameter name change inQuotes
    | none => none

def syntaxFault (words : String) : String := "Syntax error: " ++ words

/-- The expansion behind a dollar sign, and the rest. Where there is none the sign stands for
itself. -/
def expansion (inQuotes : Bool) (cs : List Char) : Except String (Part × List Char) :=
  match cs with
  | '(' :: '(' :: rest =>
    match inside '(' ')' none 0 [] rest with
    | some (source, ')' :: rest) => .ok (.arithmetic (String.ofList source) inQuotes, rest)
    | _ => .error (syntaxFault "Missing '))'")
  | '(' :: rest =>
    match inside '(' ')' none 0 [] rest with
    | some (source, rest) => .ok (.command (String.ofList source) inQuotes, rest)
    | none => .error (syntaxFault "end of file unexpected (expecting \")\")")
  | '{' :: rest =>
    match inside '{' '}' none 0 [] rest with
    | some (source, rest) =>
      match bracedParameter? inQuotes source with
      | some part => .ok (part, rest)
      | none => .error "Bad substitution"
    | none => .error (syntaxFault "Missing '\x7d'")
  | c :: rest =>
    if c.isDigit then .ok (.parameter c.toString .plain inQuotes, rest)
    else
      match parameterName (c :: rest) with
      | some (name, rest) => .ok (.parameter name .plain inQuotes, rest)
      | none => .ok (if inQuotes then .quoted "$" else .bare "$", c :: rest)
  | [] => .ok (if inQuotes then .quoted "$" else .bare "$", [])

def backquoted (inQuotes : Bool) (cs : List Char) : Except String (Part × List Char) :=
  match insideBackquotes [] cs with
  | some (source, rest) => .ok (.command (String.ofList source) inQuotes, rest)
  | none => .error (syntaxFault "EOF in backquote substitution")

/-- A part with characters that were collected, last one first; nothing if there are none. -/
def collected (inQuotes : Bool) (buffer : List Char) : Word :=
  if buffer.isEmpty then []
  else
    let text := String.ofList buffer.reverse
    [if inQuotes then .quoted text else .bare text]

def unterminated : String := syntaxFault "Unterminated quoted string"

/-- Reads what stands in double quotes. The parts are collected last one first. -/
def readQuoted : (fuel : Nat) → (parts : Word) → (buffer : List Char) → List Char →
    Except String (Word × List Char)
  | 0, _, _, _ => .error unterminated
  | _ + 1, _, _, [] => .error unterminated
  | fuel + 1, parts, buffer, c :: cs =>
    if c = '"' then .ok (collected true buffer ++ parts, cs)
    else if c = '\\' then
      match cs with
      | '\n' :: rest => readQuoted fuel parts buffer rest
      | d :: rest =>
        if d = '$' || d = '`' || d = '"' || d = '\\' then
          readQuoted fuel parts (d :: buffer) rest
        else readQuoted fuel parts (d :: '\\' :: buffer) rest
      | [] => .error unterminated
    else if c = '$' then do
      let (part, rest) ← expansion true cs
      readQuoted fuel (part :: (collected true buffer ++ parts)) [] rest
    else if c = '`' then do
      let (part, rest) ← backquoted true cs
      readQuoted fuel (part :: (collected true buffer ++ parts)) [] rest
    else readQuoted fuel parts (c :: buffer) cs

/-- Reads the rest of a word. The parts are collected last one first. -/
def readWordFrom : (fuel : Nat) → (parts : Word) → (buffer : List Char) → List Char →
    Except String (Word × List Char)
  | 0, _, _, _ => .error unterminated
  | _ + 1, parts, buffer, [] => .ok ((collected false buffer ++ parts).reverse, [])
  | fuel + 1, parts, buffer, c :: cs =>
    if endsWord c then .ok ((collected false buffer ++ parts).reverse, c :: cs)
    else
      let before := collected false buffer ++ parts
      match c with
      | '\\' =>
        match cs with
        | '\n' :: rest => readWordFrom fuel parts buffer rest
        | d :: rest => readWordFrom fuel (.quoted d.toString :: before) [] rest
        | [] => readWordFrom fuel parts ('\\' :: buffer) []
      | '\'' =>
        let text := cs.takeWhile (· != '\'')
        match cs.drop text.length with
        | _ :: rest => readWordFrom fuel (.quoted (String.ofList text) :: before) [] rest
        | [] => .error unterminated
      | '"' => do
        let (parts, rest) ← readQuoted fuel (.quoted "" :: before) [] cs
        readWordFrom fuel parts [] rest
      | '$' => do
        match ← expansion false cs with
        | (.bare text, rest) => readWordFrom fuel parts (text.toList.reverse ++ buffer) rest
        | (part, rest) => readWordFrom fuel (part :: before) [] rest
      | '`' => do
        let (part, rest) ← backquoted false cs
        readWordFrom fuel (part :: before) [] rest
      | c => readWordFrom fuel parts (c :: buffer) cs

def readWord (cs : List Char) : Except String (Word × List Char) :=
  readWordFrom (cs.length + 1) [] [] cs

/-- The operators, longer ones before those that begin them. -/
def operators : List String :=
  ["<<-", "&&", "||", ";;", ">>", "<<", "<&", ">&", "<>", ">|", ";", "&", "|", "<", ">", "(", ")"]

def readOperator (cs : List Char) : Option (String × List Char) :=
  (operators.find? fun sign => sign.toList.isPrefixOf cs).map fun sign =>
    (sign, cs.drop sign.length)

/-- The number of line feeds in what lies between two places. -/
def lineFeedsBetween (before after : List Char) : Nat :=
  (before.take (before.length - after.length)).count '\n'

/-- A text that was announced by an operator and begins after the line. -/
structure PendingText where
  /-- The line that ends the text. -/
  delimiter : String
  /-- Whether nothing in the text is expanded. -/
  literal : Bool
  /-- Whether tabs at the start of lines fall away. -/
  stripTabs : Bool

/-- The lines of a text up to its delimiter, and the rest. -/
def readText (p : PendingText) : (fuel : Nat) → (acc : List Char) → List Char →
    List Char × List Char
  | 0, acc, cs => (acc, cs)
  | _ + 1, acc, [] => (acc, [])
  | fuel + 1, acc, c :: cs =>
    let line := (c :: cs).takeWhile (· != '\n')
    let rest := (c :: cs).drop (line.length + 1)
    let shown := if p.stripTabs then line.dropWhile (· = '\t') else line
    if shown = p.delimiter.toList then (acc, rest)
    else
      let isEnded := line.length < cs.length + 1
      readText p fuel (acc ++ shown ++ if isEnded then ['\n'] else []) rest

def textWord (p : PendingText) (cs : List Char) : Word :=
  if p.literal then [.quoted (String.ofList cs)]
  else
    let escaped := cs.flatMap fun c => if c = '"' then ['\\', '"'] else [c]
    match readQuoted (escaped.length + 2) [] [] (escaped ++ ['"']) with
    | .ok (parts, _) => .quoted "" :: parts.reverse
    | .error _ => [.quoted (String.ofList cs)]

/-- The texts that were announced on a line, and the rest after them. -/
def readTexts : List PendingText → List Char → List Word × List Char
  | [], cs => ([], cs)
  | p :: ps, cs =>
    let (text, rest) := readText p (cs.length + 1) [] cs
    let (texts, rest) := readTexts ps rest
    (textWord p text :: texts, rest)

def hasQuotes (w : Word) : Bool := w.any fun
  | .quoted _ => true
  | _ => false

/-- The characters of a word that is taken as it is written. -/
def writtenText (w : Word) : String :=
  String.join (w.map fun
    | .bare text => text
    | .quoted text => text
    | _ => "")

def announced? : List Placed → Option PendingText
  | ⟨.word w, _⟩ :: ⟨.operator sign, _⟩ :: _ =>
    if sign = "<<" || sign = "<<-" then some ⟨writtenText w, hasQuotes w, sign = "<<-"⟩ else none
  | _ => none

/-- The tokens of a script. Those read so far come last one first; the words of announced texts are
kept apart in their order. -/
def tokensFrom : (fuel : Nat) → (line : Nat) → (pending : List PendingText) →
    (texts : List Word) → (acc : List Placed) → List Char → List Placed × List Word
  | 0, line, _, texts, acc, _ => ((⟨.finish, line⟩ :: acc).reverse, texts)
  | _ + 1, line, pending, texts, acc, [] =>
    ((⟨.finish, line⟩ :: acc).reverse, texts ++ (readTexts pending []).1)
  | fuel + 1, line, pending, texts, acc, c :: cs =>
    if c = ' ' || c = '\t' then tokensFrom fuel line pending texts acc cs
    else if c = '\n' then
      let (more, rest) := readTexts pending cs
      tokensFrom fuel (line + 1 + lineFeedsBetween cs rest) [] (texts ++ more)
        (⟨.lineFeed, line + 1⟩ :: acc) rest
    else if c = '\\' && cs.head? = some '\n' then
      tokensFrom fuel (line + 1) pending texts acc (cs.drop 1)
    else if c = '#' then
      tokensFrom fuel line pending texts acc (cs.dropWhile (· != '\n'))
    else
      match readOperator (c :: cs) with
      | some (sign, rest) => tokensFrom fuel line pending texts (⟨.operator sign, line⟩ :: acc) rest
      | none =>
        match readWord (c :: cs) with
        | .error fault => ((⟨.broken fault, line + cs.count '\n'⟩ :: acc).reverse, texts)
        | .ok (parts, rest) =>
          let number? := match parts, rest with
            | [.bare text], '<' :: _ => text.toNat?
            | [.bare text], '>' :: _ => text.toNat?
            | _, _ => none
          let acc := match number? with
            | some n => ⟨.number n, line⟩ :: acc
            | none => ⟨.word parts, line⟩ :: acc
          let pending := match announced? acc with
            | some p => pending ++ [p]
            | none => pending
          tokensFrom fuel (line + lineFeedsBetween (c :: cs) rest) pending texts acc rest

/-- The tokens of a script, up to its end or to the place at which it is broken, and the texts that
it holds for redirections. -/
def tokens (script : String) : List Placed × List Word :=
  tokensFrom (script.length + 1) 1 [] [] [] script.toList

end NodeTrial.Shell
