import AssetSeed.Shell.Token

/-!
# Scripts

## Main definitions

* `Script` — what a script does.
* `Script.ofText` — the script that a text writes down, as far as it can be read.
-/

namespace AssetSeed.Shell

structure Redirection where
  stream : Nat
  direction : Direction
  target : Word
deriving Repr, DecidableEq

inductive Script where
  | skip
  /-- What cannot be read as a script. It ends the shell. -/
  | invalid
  /-- Variables that get a value, and a command with its arguments. -/
  | simple (assignments : List (String × Word)) (words : List Word)
      (redirections : List Redirection)
  | redirected (body : Script) (redirections : List Redirection)
  | pipe (first second : Script)
  | negation (body : Script)
  | sequence (first second : Script)
  | both (first second : Script)
  | either (first second : Script)
  | subshell (body : Script)
  /-- Runs the body without waiting for it. -/
  | background (body : Script)
  | branch (test yes no : Script)
  /-- Repeats the body while the test comes out as `goal`. -/
  | loop (goal : Bool) (test body : Script)
  /-- Runs the body for each word, or for each argument of the script. -/
  | each (name : String) (words : Option (List Word)) (body : Script)
  /-- Runs the body of the first arm of which a pattern fits. -/
  | choice (subject : Word) (arms : List (List Word × Script))
  | define (name : String) (body : Script)
  /-- Stands in a line. -/
  | located (line : Nat) (body : Script)
deriving Repr, Inhabited

namespace Script

/-- The words that have a meaning of their own at the start of a command. -/
def keywords : List String :=
  ["if", "then", "elif", "else", "fi", "while", "until", "do", "done", "for", "case", "esac",
    "function", "\x7b", "\x7d", "!"]

/-- The words that end a list of commands. -/
def closingKeywords : List String :=
  ["then", "elif", "else", "fi", "do", "done", "esac", "\x7d"]

/-- The keyword that a script starts with. -/
def keyword? : List Token → Option String
  | .word word :: _ =>
    word.plain?.bind fun chars => keywords.find? fun keyword => keyword.toList = chars
  | _ => none

def skipNewlines : List Token → List Token
  | .newline :: rest => skipNewlines rest
  | tokens => tokens

/-- Takes one keyword away. -/
def expect? (keyword : String) (tokens : List Token) : Option (List Token) :=
  if keyword? tokens = some keyword then some tokens.tail else none

/-- Takes one plain word away. -/
def expectWord? (text : String) : List Token → Option (List Token)
  | .word word :: rest => if word.plain? = some text.toList then some rest else none
  | _ => none

/-- The name and the value of a word that gives a variable a value. -/
def assignment? (word : Word) : Option (String × Word) :=
  let letters := word.takeWhile fun piece => match piece with
    | .text [c] false => c ≠ '='
    | _ => false
  let name := Word.texts letters
  match word.drop letters.length with
  | .text ['='] false :: value => if isName name then some (String.ofList name, value) else none
  | _ => none

/-- The redirections at the start, in order, and what follows them. -/
def redirections : List Token → List Redirection × List Token
  | .redirect stream direction :: .word target :: rest =>
    let (more, rest) := redirections rest
    ({ stream, direction, target } :: more, rest)
  | tokens => ([], tokens)

/-- The words and redirections of a simple command, and what follows them. -/
def simpleParts : List Token → List Word × List Redirection × List Token
  | .redirect stream direction :: .word target :: rest =>
    let (words, more, rest) := simpleParts rest
    (words, { stream, direction, target } :: more, rest)
  | .word word :: rest =>
    let (words, more, rest) := simpleParts rest
    (word :: words, more, rest)
  | tokens => ([], [], tokens)

def withRedirections (body : Script) (redirections : List Redirection) : Script :=
  if redirections.isEmpty then body else .redirected body redirections

/-- A simple command, which consists of something. -/
def readSimple? (tokens : List Token) : Option (Script × List Token) :=
  let (words, redirections, rest) := simpleParts tokens
  let given := words.takeWhile fun word => (assignment? word).isSome
  if words.isEmpty && redirections.isEmpty then none
  else some (.simple (given.filterMap assignment?) (words.drop given.length) redirections, rest)

/-- The name of a function that is defined, and what follows its parentheses. -/
def functionName? : List Token → Option (String × List Token)
  | .word word :: .openParenthesis :: .closeParenthesis :: rest =>
    (word.plain?.filter isName).map fun name => (String.ofList name, rest)
  | _ => none

/-- The patterns of an arm, and what follows the parenthesis that closes them. -/
def patterns? : List Token → Option (List Word × List Token)
  | .word word :: .pipe :: rest => (patterns? rest).map fun (words, rest) => (word :: words, rest)
  | .word word :: .closeParenthesis :: rest => some ([word], rest)
  | _ => none

/-- Whether no command can start here. -/
def endsList : List Token → Bool
  | [] | .closeParenthesis :: _ | .caseEnd :: _ => true
  | tokens => (keyword? tokens).any (closingKeywords.contains ·)

mutual

/-- Commands up to something that ends them, or up to the end of the line if `inLine` says so. -/
def readList : (fuel : Nat) → (inLine : Bool) → List Token → Option (Script × List Token)
  | 0, _, _ => none
  | fuel + 1, inLine, tokens =>
    let tokens := if inLine then tokens else skipNewlines tokens
    if endsList tokens || tokens.head? = some .newline then some (.skip, tokens)
    else do
      let (first, rest) ← readChain fuel tokens
      match rest with
      | .separator :: rest => do
        let (more, rest) ← readList fuel inLine rest
        return (.sequence first more, rest)
      | .ampersand :: rest => do
        let (more, rest) ← readList fuel inLine rest
        return (.sequence (.background first) more, rest)
      | .newline :: after =>
        if inLine then return (first, rest)
        else
          let (more, rest) ← readList fuel inLine after
          return (.sequence first more, rest)
      | rest => if endsList rest then return (first, rest) else none

/-- Commands of which there is at least one. -/
def readBody : (fuel : Nat) → List Token → Option (Script × List Token)
  | 0, _ => none
  | fuel + 1, tokens =>
    if endsList (skipNewlines tokens) then none else readList fuel false tokens

/-- Pipelines of which each depends on how the one before it ended. -/
def readChain : (fuel : Nat) → List Token → Option (Script × List Token)
  | 0, _ => none
  | fuel + 1, tokens => do
    let (first, rest) ← readPipeline fuel tokens
    readLinks fuel first rest

def readLinks : (fuel : Nat) → (first : Script) → List Token → Option (Script × List Token)
  | 0, _, _ => none
  | fuel + 1, first, .and :: rest => do
    let (second, rest) ← readPipeline fuel (skipNewlines rest)
    readLinks fuel (.both first second) rest
  | fuel + 1, first, .or :: rest => do
    let (second, rest) ← readPipeline fuel (skipNewlines rest)
    readLinks fuel (.either first second) rest
  | _ + 1, first, rest => some (first, rest)

def readPipeline : (fuel : Nat) → List Token → Option (Script × List Token)
  | 0, _ => none
  | fuel + 1, tokens =>
    match expect? "!" tokens with
    | some rest => do
      let (body, rest) ← readPipeline fuel rest
      return (.negation body, rest)
    | none => do
      let (first, rest) ← readCommand fuel tokens
      readPipes fuel first rest

def readPipes : (fuel : Nat) → (first : Script) → List Token → Option (Script × List Token)
  | 0, _, _ => none
  | fuel + 1, first, .pipe :: rest => do
    let (second, rest) ← readCommand fuel (skipNewlines rest)
    readPipes fuel (.pipe first second) rest
  | _ + 1, first, rest => some (first, rest)

/-- One command with its redirections. -/
def readCommand : (fuel : Nat) → List Token → Option (Script × List Token)
  | 0, _ => none
  | fuel + 1, tokens => do
    let compound (body : Script) (rest : List Token) : Option (Script × List Token) :=
      let (redirections, rest) := redirections rest
      some (withRedirections body redirections, rest)
    match tokens, keyword? tokens with
    | .openParenthesis :: rest, _ => do
      let (body, rest) ← readBody fuel rest
      match rest with
      | .closeParenthesis :: rest => compound (.subshell body) rest
      | _ => none
    | _, some "\x7b" => do
      let (body, rest) ← readBody fuel tokens.tail
      compound body (← expect? "\x7d" rest)
    | _, some "if" => do
      let (body, rest) ← readBranch fuel tokens.tail
      compound body rest
    | _, some "while" => do
      let (body, rest) ← readLoop fuel true tokens.tail
      compound body rest
    | _, some "until" => do
      let (body, rest) ← readLoop fuel false tokens.tail
      compound body rest
    | _, some "for" => do
      let (body, rest) ← readEach fuel tokens.tail
      compound body rest
    | _, some "case" => do
      let .word subject :: rest := tokens.tail | none
      let (arms, rest) ← readArms fuel (← expectWord? "in" (skipNewlines rest))
      compound (.choice subject arms) rest
    | _, some "function" => do
      let .word word :: rest := tokens.tail | none
      let rest := match rest with
        | .openParenthesis :: .closeParenthesis :: rest => rest
        | rest => rest
      let (body, rest) ← readCommand fuel (skipNewlines rest)
      return (.define (String.ofList (← word.plain?)) body, rest)
    | _, some _ => none
    | _, none =>
      match functionName? tokens with
      | some (name, rest) =>
        let (body, rest) ← readCommand fuel (skipNewlines rest)
        return (.define name body, rest)
      | none => readSimple? tokens

/-- What follows the word `if` or `elif`, with the word that closes it. -/
def readBranch : (fuel : Nat) → List Token → Option (Script × List Token)
  | 0, _ => none
  | fuel + 1, tokens => do
    let (test, rest) ← readBody fuel tokens
    let (yes, rest) ← readBody fuel (← expect? "then" rest)
    match keyword? rest with
    | some "elif" => do
      let (no, rest) ← readBranch fuel rest.tail
      return (.branch test yes no, rest)
    | some "else" => do
      let (no, rest) ← readBody fuel rest.tail
      return (.branch test yes no, ← expect? "fi" rest)
    | _ => return (.branch test yes .skip, ← expect? "fi" rest)

def readLoop : (fuel : Nat) → (goal : Bool) → List Token → Option (Script × List Token)
  | 0, _, _ => none
  | fuel + 1, goal, tokens => do
    let (test, rest) ← readBody fuel tokens
    let (body, rest) ← readBody fuel (← expect? "do" rest)
    return (.loop goal test body, ← expect? "done" rest)

def readEach : (fuel : Nat) → List Token → Option (Script × List Token)
  | 0, _ => none
  | fuel + 1, tokens => do
    let .word name :: rest := tokens | none
    let name ← name.plain?
    let (words, rest) := match expectWord? "in" (skipNewlines rest) with
      | some rest =>
        let (words, _, rest) := simpleParts rest
        (some words, rest)
      | none => (none, rest)
    let rest := match rest with
      | .separator :: rest => rest
      | rest => rest
    let (body, rest) ← readBody fuel (← expect? "do" (skipNewlines rest))
    if isName name then
      return (.each (String.ofList name) words body, ← expect? "done" rest)
    else none

/-- The arms of a choice up to the word that closes it. -/
def readArms : (fuel : Nat) → List Token → Option (List (List Word × Script) × List Token)
  | 0, _ => none
  | fuel + 1, tokens =>
    let tokens := skipNewlines tokens
    match expect? "esac" tokens with
    | some rest => some ([], rest)
    | none => do
      let tokens := match tokens with
        | .openParenthesis :: rest => rest
        | rest => rest
      let (patterns, rest) ← patterns? tokens
      let (body, rest) ← readList fuel false rest
      match rest with
      | .caseEnd :: rest =>
        let (arms, rest) ← readArms fuel rest
        return ((patterns, body) :: arms, rest)
      | rest => return ([(patterns, body)], ← expect? "esac" (skipNewlines rest))

end

/-- The script of tokens from a line on, line by line up to one that cannot be read. -/
def ofTokens : (fuel : Nat) → (line : Nat) → List Token → Script
  | 0, _, _ => .invalid
  | _, _, [] => .skip
  | fuel + 1, line, .newline :: rest => ofTokens fuel (line + 1) rest
  | fuel + 1, line, tokens =>
    match readList (4 * tokens.length + 8) true tokens with
    | some (script, []) => .located line script
    | some (script, .newline :: rest) =>
      let used := tokens.take (tokens.length - rest.length)
      .sequence (.located line script) (ofTokens fuel (line + used.count .newline) rest)
    | _ => .located line .invalid

/-- The script that a text writes down. -/
def ofText (dialect : Dialect) (text : List Char) : Script :=
  let tokens := tokens dialect text
  ofTokens (tokens.length + 1) 1 tokens

end Script

end AssetSeed.Shell
