import NodeTrial.Shell.Token

namespace NodeTrial.Shell

structure Unread where
  tokens : List Placed
  /-- The texts for redirections that are still to come. -/
  texts : List Word

/-- What makes a script none, with the line on which that shows. -/
structure Fault where
  line : Nat
  words : String

abbrev Reader := StateT Unread (Except Fault)

/-- The words that have a meaning of their own where a command may begin. -/
def keywords : List String :=
  ["!", "\x7b", "\x7d", "case", "do", "done", "elif", "else", "esac", "fi", "for", "if", "in",
    "then", "until", "while"]

def Token.title (mayBeKeyword : Bool) : Token → String
  | .word parts =>
    match plainText? parts with
    | some text => if mayBeKeyword && keywords.contains text then "\"" ++ text ++ "\"" else "word"
    | none => "word"
  | .number _ => "redirection"
  | .operator sign =>
    if sign.startsWith "<" || sign.startsWith ">" then "redirection" else "\"" ++ sign ++ "\""
  | .lineFeed => "newline"
  | .finish => "end of file"
  | .broken _ => ""

namespace Reader

def peek : Reader Token := do
  pure (((← get).tokens.head?.map (·.token)).getD .finish)

def line : Reader Nat := do
  pure (((← get).tokens.head?.map (·.line)).getD 1)

def skip : Reader Unit := modify fun u => { u with tokens := u.tokens.drop 1 }

def fail {α : Type} (words : String) : Reader α := do
  throw { line := ← line, words := syntaxFault words }

def unexpected {α : Type} (mayBeKeyword : Bool) (expecting : Option String) : Reader α := do
  match ← peek with
  | .broken words => throw { line := ← line, words }
  | t =>
    fail (t.title mayBeKeyword ++ " unexpected" ++
      match expecting with
      | some e => " (expecting " ++ e ++ ")"
      | none => "")

/-- Whether the next token is an operator; if so it is skipped. -/
def takeOperator (sign : String) : Reader Bool := do
  if (← peek) = .operator sign then
    skip
    pure true
  else pure false

/-- The next token as a word without quotes and expansions. -/
def plainWord : Reader (Option String) := do
  match ← peek with
  | .word parts => pure (plainText? parts)
  | _ => pure none

/-- Whether the next token is a word written just so; if so it is skipped. -/
def takeWord (text : String) : Reader Bool := do
  if (← plainWord) = some text then
    skip
    pure true
  else pure false

def expectWord (text : String) : Reader Unit := do
  if ← takeWord text then pure () else unexpected true (some ("\"" ++ text ++ "\""))

def expectOperator (mayBeKeyword : Bool) (sign : String) : Reader Unit := do
  if ← takeOperator sign then pure ()
  else unexpected mayBeKeyword (some ("\"" ++ sign ++ "\""))

def skipLineFeeds : Reader Unit :=
  modify fun u => { u with tokens := u.tokens.dropWhile fun p => p.token = .lineFeed }

/-- The next text for a redirection; one that is missing is empty. -/
def takeText : Reader Word := do
  let text := (← get).texts.head?.getD []
  modify fun u => { u with texts := u.texts.drop 1 }
  pure text

end Reader

open Reader

def closingWords : List String := ["then", "else", "elif", "fi", "do", "done", "esac", "\x7d"]

def atEnd : Reader Bool := do
  match ← peek with
  | .finish => pure true
  | .operator sign => pure (sign = ")" || sign = ";;")
  | .word parts => pure (((plainText? parts).map closingWords.contains).getD false)
  | _ => pure false

/-- The kind of a redirection and the descriptor that it is about, by the operator. -/
def redirectionKind? : String → Option (RedirectionKind × Nat)
  | "<" => some (.read, 0)
  | ">" => some (.write, 1)
  | ">|" => some (.write, 1)
  | ">>" => some (.append, 1)
  | "<>" => some (.readWrite, 0)
  | "<&" => some (.duplicate, 0)
  | ">&" => some (.duplicate, 1)
  | "<<" => some (.text, 0)
  | "<<-" => some (.text, 0)
  | _ => none

def redirection? : Reader (Option Redirection) := do
  let before ← get
  let descriptor? ← match ← peek with
    | .number n => do
      skip
      pure (some n)
    | _ => pure none
  match ← peek with
  | .operator sign =>
    match redirectionKind? sign with
    | some (kind, usual) =>
      skip
      match ← peek with
      | .word target =>
        skip
        let target ← if kind = .text then takeText else pure target
        pure (some { descriptor := descriptor?.getD usual, kind, target })
      | _ => unexpected false none
    | none =>
      set before
      pure none
  | _ =>
    set before
    pure none

def redirections : (fuel : Nat) → Reader (List Redirection)
  | 0 => pure []
  | fuel + 1 => do
    match ← redirection? with
    | some r => pure (r :: (← redirections fuel))
    | none => pure []

/-- The name and the value of a word that assigns a variable. -/
def assignment? : Word → Option (String × Word)
  | .bare text :: rest =>
    let name := text.toList.takeWhile isNameChar
    match name, text.toList.drop name.length with
    | c :: _, '=' :: value =>
      if isNameStart c then
        some (String.ofList name,
          if value.isEmpty then rest else .bare (String.ofList value) :: rest)
      else none
    | _, _ => none
  | _ => none

/-- Reads the words, assignments and redirections of a simple command. -/
def simpleParts : (fuel : Nat) → (assignments : List (String × Word)) → (words : List Word) →
    (redirections : List Redirection) →
    Reader (List (String × Word) × List Word × List Redirection)
  | 0, assignments, words, rs => pure (assignments, words, rs)
  | fuel + 1, assignments, words, rs => do
    match ← redirection? with
    | some r => simpleParts fuel assignments words (rs ++ [r])
    | none =>
      match ← peek with
      | .word parts =>
        skip
        match (if words.isEmpty then assignment? parts else none) with
        | some a => simpleParts fuel (assignments ++ [a]) words rs
        | none => simpleParts fuel assignments (words ++ [parts]) rs
      | _ => pure (assignments, words, rs)

def wordsToEnd : (fuel : Nat) → Reader (List Word)
  | 0 => pure []
  | fuel + 1 => do
    match ← peek with
    | .word parts =>
      skip
      pure (parts :: (← wordsToEnd fuel))
    | _ => pure []

def armPatterns : (fuel : Nat) → Reader (List Word)
  | 0 => unexpected false (some "\")\"")
  | fuel + 1 => do
    match ← peek with
    | .word parts =>
      skip
      if ← takeOperator "|" then pure (parts :: (← armPatterns fuel))
      else
        expectOperator false ")"
        pure [parts]
    | _ => unexpected false (some "\")\"")

def isName (text : String) : Bool :=
  match text.toList with
  | c :: cs => isNameStart c && cs.all isNameChar
  | [] => false

def redirected (c : Command) (rs : List Redirection) : Command :=
  if rs.isEmpty then c else .group c rs

mutual

/-- Reads a list of commands up to a word or sign that ends it. There is one command at least,
unless the list may be empty or the script ends. -/
def commandList (mayBeEmpty : Bool) : (fuel : Nat) → Reader Command
  | 0 => unexpected true none
  | fuel + 1 => do
    skipLineFeeds
    let isOver ← if mayBeEmpty then atEnd else pure ((← peek) = .finish)
    if isOver then pure .empty
    else
      let first ← chain fuel (← pipeline fuel)
      if ← takeOperator "&" then pure (.sequence (.background first) (← commandList true fuel))
      else if ← takeOperator ";" then pure (.sequence first (← commandList true fuel))
      else if (← peek) = .lineFeed then pure (.sequence first (← commandList true fuel))
      else pure first

/-- Goes on with a chain of commands that depend on each other. -/
def chain : (fuel : Nat) → Command → Reader Command
  | 0, _ => unexpected true none
  | fuel + 1, first => do
    if ← takeOperator "&&" then
      skipLineFeeds
      chain fuel (.both first (← pipeline fuel))
    else if ← takeOperator "||" then
      skipLineFeeds
      chain fuel (.either first (← pipeline fuel))
    else pure first

def pipeline : (fuel : Nat) → Reader Command
  | 0 => unexpected true none
  | fuel + 1 => do
    if ← takeWord "!" then pure (.negation (← joined fuel)) else joined fuel

def joined : (fuel : Nat) → Reader Command
  | 0 => unexpected true none
  | fuel + 1 => do
    let first ← command fuel
    if ← takeOperator "|" then
      skipLineFeeds
      pure (.pipe first (← joined fuel))
    else pure first

def branchRest : (fuel : Nat) → Command → Reader Command
  | 0, _ => unexpected true none
  | fuel + 1, condition => do
    expectWord "then"
    let yes ← commandList false fuel
    if ← takeWord "elif" then
      let next ← commandList false fuel
      pure (.branch condition yes (← branchRest fuel next))
    else if ← takeWord "else" then
      let no ← commandList false fuel
      expectWord "fi"
      pure (.branch condition yes no)
    else
      expectWord "fi"
      pure (.branch condition yes .empty)

def loopBody : (fuel : Nat) → Reader Command
  | 0 => unexpected true none
  | fuel + 1 => do
    skipLineFeeds
    expectWord "do"
    let body ← commandList false fuel
    expectWord "done"
    pure body

def arms : (fuel : Nat) → Reader Command
  | 0 => unexpected true none
  | fuel + 1 => do
    skipLineFeeds
    if ← takeWord "esac" then pure .empty
    else
      let _ ← takeOperator "("
      let patterns ← armPatterns fuel
      let body ← commandList true fuel
      if ← takeOperator ";;" then pure (.arm patterns body (← arms fuel))
      else
        skipLineFeeds
        if ← takeWord "esac" then pure (.arm patterns body .empty)
        else unexpected true (some "\";;\"")

def command : (fuel : Nat) → Reader Command
  | 0 => unexpected true none
  | fuel + 1 => do
    let start ← line
    if ← takeOperator "(" then
      let inner ← commandList false fuel
      expectOperator true ")"
      pure (.subshell inner (← redirections fuel))
    else
      match ← plainWord with
      | some "\x7b" =>
        skip
        let inner ← commandList false fuel
        expectWord "\x7d"
        pure (redirected inner (← redirections fuel))
      | some "if" =>
        skip
        let condition ← commandList false fuel
        let c ← branchRest fuel condition
        pure (redirected c (← redirections fuel))
      | some "while" =>
        skip
        let condition ← commandList false fuel
        let body ← loopBody fuel
        pure (redirected (.loop true condition body) (← redirections fuel))
      | some "until" =>
        skip
        let condition ← commandList false fuel
        let body ← loopBody fuel
        pure (redirected (.loop false condition body) (← redirections fuel))
      | some "for" =>
        skip
        match (← plainWord).filter isName with
        | none => fail "Bad for loop variable"
        | some name =>
          skip
          skipLineFeeds
          let words ← if ← takeWord "in" then do
              let words ← wordsToEnd fuel
              if (← peek) = .operator ";" || (← peek) = .lineFeed then skip
              else unexpected false none
              pure (some words)
            else do
              let _ ← takeOperator ";"
              pure none
          let body ← loopBody fuel
          pure (redirected (.forEach name words body) (← redirections fuel))
      | some "case" =>
        skip
        match ← peek with
        | .word subject =>
          skip
          skipLineFeeds
          expectWord "in"
          let arms ← arms fuel
          pure (redirected (.choice subject arms) (← redirections fuel))
        | _ => unexpected false (some "word")
      | word =>
        if (word.map keywords.contains).getD false then unexpected true none
        else
          let (assignments, words, rs) ← simpleParts (fuel + 1) [] [] []
          match words, (← peek) = .operator "(" && assignments.isEmpty && rs.isEmpty with
          | [name], true =>
            skip
            expectOperator false ")"
            match (plainText? name).filter isName with
            | some name =>
              skipLineFeeds
              pure (.function name (← command fuel))
            | none => fail "Bad function name"
          | _, _ =>
            if assignments.isEmpty && words.isEmpty && rs.isEmpty then unexpected true none
            else pure (.simple start assignments words rs)

end

/-- Reads the commands of a line; what stands in a command may go on over the next lines. -/
def commandLine : (fuel : Nat) → Reader Command
  | 0 => unexpected true none
  | fuel + 1 => do
    if (← peek) = .lineFeed || (← peek) = .finish then pure .empty
    else
      let first ← chain fuel (← pipeline fuel)
      if ← takeOperator "&" then pure (.sequence (.background first) (← commandLine fuel))
      else if ← takeOperator ";" then pure (.sequence first (← commandLine fuel))
      else if (← peek) = .lineFeed || (← peek) = .finish then pure first
      else unexpected true none

/-- The commands of a script line by line, up to a line that is none. -/
def commandLines : (fuel : Nat) → Unread → Command
  | 0, _ => .empty
  | fuel + 1, u =>
    let u := { u with tokens := u.tokens.dropWhile fun p => p.token = .lineFeed }
    if (u.tokens.head?.map (·.token)).getD .finish = .finish then .empty
    else
      match (commandLine (10 * (u.tokens.length + 2))).run u with
      | .ok (c, u) => .sequence c (commandLines fuel u)
      | .error f => .malformed f.line f.words

def Command.ofText (script : String) : Command :=
  let (tokens, texts) := tokens script
  commandLines (tokens.length + 1) ⟨tokens, texts⟩

end NodeTrial.Shell
