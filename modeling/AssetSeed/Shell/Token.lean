import AssetSeed.Shell.Word

/-!
# Tokens of a script

## Main definitions

* `Token` — a word or a sign.
* `tokens` — the tokens of a script.
-/

namespace AssetSeed.Shell

/-- How a stream is redirected. -/
inductive Direction where
  | read
  | write
  | append
  /-- Goes where another stream goes. -/
  | duplicate
  /-- Takes the messages along. -/
  | both
  | appendBoth
  /-- Reads the text that is given. -/
  | document
  /-- Reads the text that is given as a line. -/
  | line
deriving Repr, DecidableEq

inductive Token where
  | word (word : Word)
  | redirect (stream : Nat) (direction : Direction)
  /-- Runs both sides if the first one succeeds. -/
  | and
  /-- Runs the second side if the first one fails. -/
  | or
  | pipe
  /-- The end of a command. -/
  | separator
  /-- The end of a command that is not waited for. -/
  | ampersand
  /-- The end of a line. -/
  | newline
  /-- The end of one of the cases of a choice. -/
  | caseEnd
  | openParenthesis
  | closeParenthesis
  /-- Something that is not closed. Nothing follows it. -/
  | broken
deriving Repr, DecidableEq

/-- A redirection without a number, and what follows it. -/
def redirection? : List Char → Option (Direction × List Char)
  | '>' :: '>' :: rest => some (.append, rest)
  | '>' :: '&' :: rest => some (.duplicate, rest)
  | '>' :: '|' :: rest => some (.write, rest)
  | '>' :: rest => some (.write, rest)
  | '<' :: '&' :: rest => some (.duplicate, rest)
  | '<' :: '>' :: rest => some (.read, rest)
  | '<' :: rest => some (.read, rest)
  | _ => none

/-- The sign at the start of a text, and what follows it. -/
def sign? : List Char → Option (Token × List Char)
  | '&' :: '&' :: rest => some (.and, rest)
  | '|' :: '|' :: rest => some (.or, rest)
  | '|' :: rest => some (.pipe, rest)
  | '&' :: rest => some (.ampersand, rest)
  | ';' :: ';' :: rest => some (.caseEnd, rest)
  | ';' :: rest => some (.separator, rest)
  | '\n' :: rest => some (.newline, rest)
  | '(' :: rest => some (.openParenthesis, rest)
  | ')' :: rest => some (.closeParenthesis, rest)
  | s =>
    let digits := s.takeWhile Text.isDigit
    (redirection? (s.drop digits.length)).map fun (direction, rest) =>
      let usual := if ['<'].isPrefixOf (s.drop digits.length) then 0 else 1
      (.redirect (if digits.isEmpty then usual else Text.decimalValue digits) direction, rest)

/-- The lines of a document up to one that is equal to `ending`, and what follows it. `strip` says
whether tabs at the start of a line do not count. -/
def documentUntil (ending : List Char) (strip : Bool) : List (List Char) →
    List (List Char) × List (List Char)
  | [] => ([], [])
  | line :: rest =>
    let line := if strip then line.dropWhile (· = '\t') else line
    if line = ending then ([], rest)
    else
      let (lines, rest) := documentUntil ending strip rest
      (line :: lines, rest)

/-- The document after `<<`, which starts in the next line, and the text without it. -/
def document? (dialect : Dialect) (s : List Char) : Option (Word × List Char) := do
  let strip := ['-'].isPrefixOf s
  let (ending, rest) ← readPieces? dialect .bare
    ((if strip then s.drop 1 else s).dropWhile fun c => c = ' ' || c = '\t')
  let line := rest.takeWhile (· ≠ '\n')
  let lines := Text.split (· = '\n') (rest.drop (line.length + 1))
  let (held, after) := documentUntil ending.texts strip lines
  let held := held.flatMap (· ++ ['\n'])
  let word ← if ending.isQuoted then some [.text held true]
    else (readPieces? dialect .document held).map (·.1)
  return (word, line ++ '\n' :: Text.joinWith ['\n'] after)

/-- The expression between double parentheses at the start of a text, and what follows it. -/
def expression? (s : List Char) : Option (List Char × List Char) :=
  match s with
  | '(' :: '(' :: rest =>
    (untilClosing '(' ')' true 0 none ('(' :: rest)).bind fun (body, rest) =>
      if Text.endsWith [')'] body then some ((body.drop 1).dropLast, rest) else none
  | _ => none

/-- The tokens that only the richer shell finds at the start of a text, and what follows them. -/
def richTokens? (s : List Char) : Option (List Token × List Char) :=
  match s with
  | '<' :: '<' :: '<' :: rest => some ([.redirect 0 .line], rest)
  | '&' :: '>' :: '>' :: rest => some ([.redirect 1 .appendBoth], rest)
  | '&' :: '>' :: rest => some ([.redirect 1 .both], rest)
  | '|' :: '&' :: rest =>
    some ([.redirect 2 .duplicate, .word [.text ['1'] false], .pipe], rest)
  | s => (expression? s).map fun (expression, rest) =>
      ([.word [.text "let".toList false], .word [.text expression true]], rest)

/-- The tokens of a text; `fuel` bounds their number. -/
def readTokens (dialect : Dialect) : (fuel : Nat) → List Char → List Token
  | 0, _ => [.broken]
  | _, [] => []
  | fuel + 1, c :: rest =>
    let s := c :: rest
    if c = ' ' || c = '\t' then readTokens dialect fuel rest
    else if c = '#' then readTokens dialect fuel (rest.dropWhile (· ≠ '\n'))
    else
      match if dialect = .bash then richTokens? s else none with
      | some (found, rest) => found ++ readTokens dialect fuel rest
      | none =>
        match s with
        | '\\' :: '\n' :: rest => readTokens dialect fuel rest
        | '<' :: '<' :: rest =>
          match document? dialect rest with
          | some (word, rest) =>
            .redirect 0 .document :: .word word :: readTokens dialect fuel rest
          | none => [.broken]
        | s =>
          match sign? s with
          | some (token, rest) => token :: readTokens dialect fuel rest
          | none =>
            match readPieces? dialect .bare s with
            | some (word, rest) => .word word :: readTokens dialect fuel rest
            | none => [.broken]

/-- The tokens of a script. -/
def tokens (dialect : Dialect) (script : List Char) : List Token :=
  readTokens dialect (2 * script.length + 1) script

end AssetSeed.Shell
