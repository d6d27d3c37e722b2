import AssetSeed.Text.Numeral
import AssetSeed.Text.Pieces

/-!
# Words of a script

A word is a row of pieces: texts, parameters whose value is put in, and scripts whose output is put
in. What stands in quotes is not split.

## Main definitions

* `Piece` — a part of a word.
* `Usage` — what is made of the value of a parameter.
* `readPieces?` — the pieces at the start of a text, and what follows them.
-/

namespace AssetSeed.Shell

/-- Which of the two shells reads a script. The second one knows more. -/
inductive Dialect where
  | sh
  | bash
deriving Repr, DecidableEq, Inhabited

/-- What is made of the value of a parameter. The texts are words that are still to be read. -/
inductive Usage where
  | value
  /-- The number of its characters. -/
  | length
  /-- The text stands for a value that is missing. -/
  | otherwise (emptyCounts : Bool) (text : List Char)
  /-- The text stands for a value that is there. -/
  | instead (emptyCounts : Bool) (text : List Char)
  /-- A variable without a value gets the text for one. -/
  | assigned (emptyCounts : Bool) (text : List Char)
  /-- A missing value ends the shell. -/
  | required (emptyCounts : Bool) (text : List Char)
  /-- The value without a start, or an end, that fits a pattern. -/
  | without (fromEnd longest : Bool) (pattern : List Char)
  /-- The value with the text for what fits a pattern, at the first place or at all. -/
  | replaced (everywhere : Bool) (pattern text : List Char)
  /-- Some of the characters of the value. -/
  | slice (start count : List Char)
  /-- The value in capitals, or in small letters. -/
  | recased (capital : Bool)
  | unknown
deriving Repr, DecidableEq

inductive Piece where
  | text (chars : List Char) (quoted : Bool)
  /-- A text in quotes whose escapes are read. -/
  | escaped (chars : List Char)
  | parameter (name : String) (usage : Usage) (quoted : Bool)
  /-- The output of a script. -/
  | output (script : List Char) (quoted : Bool)
  /-- The value of an expression. -/
  | value (expression : List Char)
deriving Repr, DecidableEq

abbrev Word := List Piece

namespace Word

/-- The word as it is written, if nothing in it is quoted or put in. -/
def plain? : Word → Option (List Char)
  | [] => some []
  | .text chars false :: rest => (plain? rest).map (chars ++ ·)
  | _ => none

/-- The texts in a word. -/
def texts (word : Word) : List Char :=
  word.flatMap fun piece => match piece with
    | .text chars _ => chars
    | _ => []

def isQuoted (word : Word) : Bool :=
  word.any fun piece => match piece with
    | .text _ quoted => quoted
    | _ => false

end Word

/-- Where pieces stand. -/
inductive Mode where
  /-- In a script, where blanks and signs end a word. -/
  | bare
  /-- In braces outside of quotes, where they do not. -/
  | braced
  /-- In quotes, which end at the next one. -/
  | quoted
  /-- In braces inside of quotes, where further quotes mean nothing. -/
  | nested
  /-- In a document, where quotes stand for themselves. -/
  | document
deriving Repr, DecidableEq

namespace Mode

def isQuoted (mode : Mode) : Bool :=
  !(mode = .bare || mode = .braced)

/-- The mode of what stands in braces. -/
def inner (quoted : Bool) : Mode :=
  if quoted then .nested else .braced

/-- Whether a backslash takes its meaning from a character. -/
def escapes (mode : Mode) (c : Char) : Bool :=
  !mode.isQuoted || ['$', '`', '\\', '\n'].contains c || (c = '"' && mode ≠ .document)
    || (c = '\x7d' && mode = .nested)

end Mode

def isNameStart (c : Char) : Bool :=
  (Text.isAlphanumeric c && !Text.isDigit c) || c = '_'

def isNameChar (c : Char) : Bool :=
  Text.isAlphanumeric c || c = '_'

def isName (s : List Char) : Bool :=
  s.head?.any isNameStart && s.all isNameChar

/-- The parameters that have a sign for a name. -/
def isSignParameter (c : Char) : Bool :=
  ['$', '?', '#', '*', '@', '!', '-'].contains c || Text.isDigit c

/-- The characters that end a word. -/
def endsWord (c : Char) : Bool :=
  [' ', '\t', '\n', ';', '&', '|', '<', '>', '(', ')'].contains c

/-- What stands before the closing sign and after it. Signs in between that are opened, quotes, and
characters behind a backslash are passed over; single quotes only if `single` says so. -/
def untilClosing (opening closing : Char) (single : Bool) : (depth : Nat) →
    (quote : Option Char) → List Char → Option (List Char × List Char)
  | _, _, [] => none
  | depth, quote, '\\' :: c :: rest =>
    let quote := if quote = some '\'' && c = '\'' then none else quote
    (untilClosing opening closing single depth quote rest).map fun (a, b) => ('\\' :: c :: a, b)
  | depth, none, c :: rest =>
    if c = closing && depth = 0 then some ([], rest)
    else
      let depth := if c = opening then depth + 1 else if c = closing then depth - 1 else depth
      let quote := if (c = '\'' && single) || c = '"' then some c else none
      (untilClosing opening closing single depth quote rest).map fun (a, b) => (c :: a, b)
  | depth, some q, c :: rest =>
    (untilClosing opening closing single depth (if c = q then none else some q) rest).map
      fun (a, b) => (c :: a, b)

/-- What stands before the next backquote, in which a backslash before a sign is left out, and what
follows it. -/
def untilBackquote : List Char → Option (List Char × List Char)
  | [] => none
  | '`' :: rest => some ([], rest)
  | '\\' :: c :: rest =>
    (untilBackquote rest).map fun (a, b) =>
      (if ['$', '`', '\\'].contains c then c :: a else '\\' :: c :: a, b)
  | c :: rest => (untilBackquote rest).map fun (a, b) => (c :: a, b)

/-- The two sides of the first slash, or of the first colon. -/
def sides (sep : Char) (s : List Char) : List Char × List Char :=
  (Text.cut? sep s).getD (s, [])

/-- What follows the name of a parameter between braces. -/
def Usage.ofText : List Char → Usage
  | [] => .value
  | ':' :: '-' :: text => .otherwise true text
  | '-' :: text => .otherwise false text
  | ':' :: '+' :: text => .instead true text
  | '+' :: text => .instead false text
  | ':' :: '=' :: text => .assigned true text
  | '=' :: text => .assigned false text
  | ':' :: '?' :: text => .required true text
  | '?' :: text => .required false text
  | '%' :: '%' :: pattern => .without true true pattern
  | '%' :: pattern => .without true false pattern
  | '#' :: '#' :: pattern => .without false true pattern
  | '#' :: pattern => .without false false pattern
  | '/' :: '/' :: rest => .replaced true (sides '/' rest).1 (sides '/' rest).2
  | '/' :: rest => .replaced false (sides '/' rest).1 (sides '/' rest).2
  | ':' :: rest => .slice (sides ':' rest).1 (sides ':' rest).2
  | ['^', '^'] => .recased true
  | [',', ','] => .recased false
  | _ => .unknown

/-- A parameter between braces. -/
def bracedParameter (body : List Char) (quoted : Bool) : Piece :=
  match body with
  | ['#'] => .parameter "#" .value quoted
  | '#' :: name =>
    if isName name || name.all Text.isDigit || (name.length = 1 && name.all isSignParameter) then
      .parameter (String.ofList name) .length quoted
    else .parameter "#" (.ofText name) quoted
  | c :: rest =>
    let name := if Text.isDigit c then body.takeWhile Text.isDigit
      else if isSignParameter c then [c]
      else body.takeWhile isNameChar
    .parameter (String.ofList name) (if name.isEmpty then .unknown
      else .ofText ((c :: rest).drop name.length)) quoted
  | [] => .parameter "" .unknown quoted

/-- The piece after a dollar sign, and what follows it. A dollar sign that nothing belongs to is a
text. -/
def dollarPiece? (quoted : Bool) (s : List Char) : Option (Piece × List Char) :=
  match s with
  | '(' :: rest => (untilClosing '(' ')' true 0 none rest).map fun (script, rest) =>
      (if ['('].isPrefixOf script && Text.endsWith [')'] script then .value (script.drop 1).dropLast
        else .output script quoted, rest)
  | '\x7b' :: rest => (untilClosing '\x7b' '\x7d' (!quoted) 0 none rest).map fun (body, rest) =>
      (bracedParameter body quoted, rest)
  | c :: rest =>
    if isSignParameter c then some (.parameter (String.ofList [c]) .value quoted, rest)
    else if isNameStart c then
      some (.parameter (String.ofList (s.takeWhile isNameChar)) .value quoted,
        s.dropWhile isNameChar)
    else some (.text ['$'] quoted, s)
  | [] => some (.text ['$'] quoted, [])

/-- What stands before the next single quote and after it. A backslash hides a quote. -/
def untilQuote : List Char → Option (List Char × List Char)
  | [] => none
  | '\'' :: rest => some ([], rest)
  | '\\' :: c :: rest => (untilQuote rest).map fun (a, b) => ('\\' :: c :: a, b)
  | c :: rest => (untilQuote rest).map fun (a, b) => (c :: a, b)

/-- The pieces up to the end of a word or, inside double quotes, to the quote that closes them.
`fuel` bounds the number of pieces. -/
def readUpTo? (dialect : Dialect) : (fuel : Nat) → Mode → List Char →
    Option (Word × List Char)
  | 0, _, _ => none
  | _, mode, [] => if mode = .quoted then none else some ([], [])
  | fuel + 1, mode, c :: rest =>
    let isQuoted := mode.isQuoted
    let more (piece : Piece) (rest : List Char) : Option (Word × List Char) :=
      (readUpTo? dialect fuel mode rest).map fun (word, rest) => (piece :: word, rest)
    match c with
    | '$' =>
      match rest, dialect = .bash && !isQuoted with
      | '\'' :: rest, true => do
        let (inner, rest) ← untilQuote rest
        more (.escaped inner) rest
      | rest, _ => do
        let (piece, rest) ← dollarPiece? isQuoted rest
        more piece rest
    | '`' => do
      let (script, rest) ← untilBackquote rest
      more (.output script isQuoted) rest
    | '"' =>
      match mode with
      | .quoted => some ([], rest)
      | .nested => readUpTo? dialect fuel mode rest
      | .document => more (.text [c] true) rest
      | _ => do
        let (inner, rest) ← readUpTo? dialect fuel .quoted rest
        let (word, rest) ← readUpTo? dialect fuel mode rest
        return ((if inner.isEmpty then [.text [] true] else inner) ++ word, rest)
    | '\\' =>
      match rest with
      | '\n' :: rest => readUpTo? dialect fuel mode rest
      | d :: rest =>
        if mode.escapes d then more (.text [d] true) rest else more (.text ['\\', d] true) rest
      | [] => more (.text ['\\'] true) []
    | '\'' =>
      if isQuoted then more (.text [c] true) rest
      else do
        let (inner, rest) ← Text.cut? '\'' rest
        more (.text inner true) rest
    | _ =>
      if mode = .bare && endsWord c then some ([], c :: rest)
      else more (.text [c] isQuoted) rest

def readPieces? (dialect : Dialect) (mode : Mode) (s : List Char) : Option (Word × List Char) :=
  readUpTo? dialect (s.length + 1) mode s

end AssetSeed.Shell
