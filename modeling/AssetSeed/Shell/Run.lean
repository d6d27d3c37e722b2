import AssetSeed.Shell.Batching
import AssetSeed.Shell.Brace
import AssetSeed.Shell.Redirection
import AssetSeed.Shell.Special
import AssetSeed.Shell.Target

/-!
# Running scripts

Every step of a run uses up fuel. A run that is out of fuel ends as if it had been killed.

## Main definitions

* `run` — a script, run in a session.
* `launch` — a program with its arguments, run below a session.
* `enter` — a program, run as the session.
-/

namespace AssetSeed.Shell

/-- The session of a run that has no fuel left. -/
def exhausted (session : Session) : Session :=
  { session with ending := some (.killed 9) }

/-- The variables at the start of arguments, and the arguments after them. -/
def leadingVariables : List String → List (String × String) × List String
  | [] => ([], [])
  | argument :: rest =>
    match Text.cut? '=' argument.toList with
    | some (name, value) =>
      let (more, rest) := leadingVariables rest
      ((String.ofList name, String.ofList value) :: more, rest)
    | none => ([], argument :: rest)

/-- What `env` is asked for: whether nothing is inherited, what is not, and the rest. -/
def envOptions : List String → Bool × List String × List String
  | "-i" :: rest | "-" :: rest =>
    let (_, unset, rest) := envOptions rest
    (true, unset, rest)
  | "-u" :: name :: rest =>
    let (clears, unset, rest) := envOptions rest
    (clears, name :: unset, rest)
  | "-S" :: text :: rest => (false, [], (words text.toList).map String.ofList ++ rest)
  | argument :: rest =>
    match argument.toList with
    | '-' :: 'S' :: text => (false, [], (words text).map String.ofList ++ rest)
    | _ => (false, [], argument :: rest)
  | [] => (false, [], [])

/-- The options at the start of the arguments of a shell: the session with them, whether a script
follows as a text, and the arguments after them. -/
def shellOptions (isText : Bool) : List String → Session → Session × Bool × List String
  | [], session => (session, isText, [])
  | argument :: rest, session =>
    match argument.toList with
    | ['-'] | ['-', '-'] => (session, isText, rest)
    | '-' :: '-' :: _ =>
      if session.dialect = .bash then shellOptions isText rest session
      else (session.abort 2 "Illegal option", isText, rest)
    | sign :: letter :: letters =>
      if sign = '-' || sign = '+' then
        let letters := letter :: letters
        let isText := isText || letters.contains 'c'
        let session := setOptions [String.ofList (sign :: letters.filter fun letter =>
          !(['c', 'o', 'i', 'l'].contains letter))] session
        if letters.contains 'o' then
          match rest with
          | name :: rest => shellOptions isText rest (turnNamed (sign = '-') name session)
          | [] => (session, isText, [])
        else shellOptions isText rest session
      else (session, isText, argument :: rest)
    | _ => (session, isText, argument :: rest)

namespace Session

/-- The session with the streams of another one. -/
def withStreamsOf (session other : Session) (redirections : List Redirection) : Session :=
  { session with
    sinks := other.sinks
    input := if redirections.any (·.stream = 0) then other.input else session.input }

/-- The session of a part whose output is gathered. -/
def gathering (session : Session) : Session :=
  { session.inside with
    sinks := (outputStream, .channel session.nextChannel) :: session.sinks
    nextChannel := session.nextChannel + 1 }

/-- What such a part has written, and the session that it leaves. -/
def gathered (session inner : Session) : Bytes × Session :=
  let others := inner.output.filter fun chunk => chunk.1 ≠ session.nextChannel
  (inner.written session.nextChannel, session.resume { inner with output := others })

/-- The session of a program below this one. -/
def below (session : Session) : Session :=
  { session with
    vars := session.env
    settled := []
    functions := []
    options := []
    traps := session.traps.filter (·.2.isEmpty)
    pending := []
    process := session.process + 1
    ending := none
    guarded := false
    loops := 0
    calls := 0
    shadowed := [] }

/-- The session after a loop has come to its end, or after one of its turns. -/
def afterTurn (session : Session) : Session × Bool :=
  match session.ending with
  | none => (session, true)
  | some (.broken n) =>
    ({ session with ending := if n ≤ 1 then none else some (.broken (n - 1)) }, false)
  | some (.continued n) =>
    if n ≤ 1 then ({ session with ending := none }, true)
    else ({ session with ending := some (.continued (n - 1)) }, false)
  | some _ => (session, false)

/-- Whether a parameter has a value. -/
def isPresent (session : Session) (name : String) (emptyCounts : Bool) : Bool :=
  (session.value? name).any fun value => !(emptyCounts && value.isEmpty)

/-- What a shell does with a way to use a parameter that it does not know. -/
def badUsage (session : Session) : Session :=
  session.abort (if session.dialect = .sh then 2 else 1) "Bad substitution"

/-- What happens when a parameter has no value that must have one. -/
def missing (session : Session) (name message : String) : Session :=
  session.abort (if session.dialect = .sh then 2 else if session.calls = 0 then 127 else 1)
    (name ++ ": " ++ message)

end Session

/-- Whether a word of a condition fits the operator before it, which compares with a pattern. -/
def fitsCondition? (words : List (List Glyph)) : Option Bool :=
  match words with
  | [text, operator, pattern] =>
    let fits := (Pattern.ofGlyphs pattern).fits (Glyph.text text)
    match String.ofList (Glyph.text operator) with
    | "=" | "==" => some fits
    | "!=" => some !fits
    | _ => none
  | _ => none

mutual

/-- The atoms of a piece. -/
def expandPiece : (fuel : Nat) → Piece → Session → List Atom × Session
  | 0, _, session => ([], exhausted session)
  | _, .text chars quoted, session =>
    (if quoted then atomsOf [] true chars else chars.map fun c => .glyph ⟨c, false⟩, session)
  | _, .escaped chars, session =>
    (atomsOf [] true (Text.utf8Lossy (unescaped chars.length chars)).toList, session)
  | fuel + 1, .parameter name usage quoted, session =>
    expandParameter fuel name usage quoted session
  | fuel + 1, .value expression, session =>
    let (atoms, session) := expandText fuel .document expression session
    let extended := decide (session.dialect = .bash)
    match (Expression.ofText? extended (joinedText atoms).toList).bind
        (·.evaluate? session.get? extended []) with
    | some (n, given) =>
      (atomsOf [] true (toString n).toList, given.reverse.foldl (fun session (name, n) =>
        session.set name (toString n)) session)
    | none => ([], session.abort (if extended then 1 else 2) "arithmetic expression")
  | fuel + 1, .output script quoted, session =>
    let begun := session.gathering
    let begun := if session.dialect = .bash then turn false 'e' begun else begun
    let script := if session.dialect = .bash && ['<'].isPrefixOf (Text.trimStart script) then
        "cat ".toList ++ script
      else script
    let inner := finish fuel (runText fuel script begun)
    let (bytes, after) := session.gathered inner
    let text := (Text.utf8Lossy (bytes.filter (· ≠ 0))).toList
    let text := (text.reverse.dropWhile (· = '\n')).reverse
    let status := if session.dialect = .sh then session.status else after.status
    (atomsOf session.separators quoted text, { after with
      substitution := some after.status
      status }.killedWith inner)

/-- The atoms of a parameter. -/
def expandParameter : (fuel : Nat) → (name : String) → Usage → (quoted : Bool) → Session →
    List Atom × Session
  | 0, _, _, _, session => ([], exhausted session)
  | fuel + 1, name, usage, quoted, session =>
    let separators := session.separators
    let atoms (value : List Char) : List Atom := atomsOf separators quoted value
    let isRow := name = "@" || (name = "*" && !quoted)
    let whole : List Atom :=
      if isRow then atomsOfValues separators quoted session.arguments
      else atoms ((session.value? name).getD "").toList
    let nothing : List Atom := atoms []
    let isMissing := !isRow && name ≠ "*" && (session.value? name).isNone
      && session.options.contains 'u'
    let onlyRich (value : Session → List Char × Session) : List Atom × Session :=
      if session.dialect = .sh then ([], session.badUsage)
      else
        let (value, session) := value session
        (atoms value, session)
    match usage with
    | .value =>
      if isMissing then ([], session.missing name "parameter not set") else (whole, session)
    | .length =>
      if isMissing then ([], session.missing name "parameter not set")
      else
        let length := if isRow || name = "*" then
            if session.dialect = .bash then session.arguments.length
            else (" ".intercalate session.arguments).utf8ByteSize
          else ((session.value? name).getD "").utf8ByteSize
        (atoms (toString length).toList, session)
    | .otherwise emptyCounts text =>
      if session.isPresent name emptyCounts then (whole, session)
      else
        let (more, session) := expandText fuel (.inner quoted) text session
        (nothing ++ more, session)
    | .instead emptyCounts text =>
      if session.isPresent name emptyCounts then
        let (more, session) := expandText fuel (.inner quoted) text session
        (nothing ++ more, session)
      else (nothing, session)
    | .assigned emptyCounts text =>
      if session.isPresent name emptyCounts then (whole, session)
      else
        let (more, session) := expandText fuel (.inner quoted) text session
        let value := joinedText more
        if isName name.toList then (atoms value.toList, session.set name value)
        else ([], session.badUsage)
    | .required emptyCounts text =>
      if session.isPresent name emptyCounts then (whole, session)
      else
        let (more, session) := expandText fuel (.inner quoted) text session
        ([], session.missing name (joinedText more))
    | .without fromEnd longest pattern =>
      let (more, session) := expandText fuel .braced pattern session
      let pattern := Pattern.ofGlyphs (joined more)
      if isMissing then ([], session.missing name "parameter not set")
      else (atoms (pattern.without fromEnd longest ((session.value? name).getD "").toList), session)
    | .replaced everywhere pattern text =>
      onlyRich fun session =>
        let (more, session) := expandText fuel .braced pattern session
        let (text, session) := expandText fuel (.inner quoted) text session
        let value := ((session.value? name).getD "").toList
        ((Pattern.ofGlyphs (joined more)).replace (joinedText text).toList
          (if everywhere then value.length + 1 else 1) value, session)
    | .slice start count =>
      onlyRich fun session =>
        let number (text : List Char) : Int :=
          (((Expression.ofText? true text).bind (·.evaluate? session.get? true [])).map
            (·.1)).getD 0
        let value := ((session.value? name).getD "").toList
        let first := if number start < 0 then value.length - (number start).natAbs
          else (number start).toNat
        let left := value.drop first
        (if count.isEmpty then left
          else if number count < 0 then left.take (left.length - (number count).natAbs)
          else left.take (number count).toNat, session)
    | .recased capital =>
      onlyRich fun session =>
        let value := ((session.value? name).getD "").toList
        (value.map (if capital then Char.toUpper else Char.toLower), session)
    | .unknown => ([], session.badUsage)

/-- The atoms of a text that is read as pieces. Outside of quotes it is split like a value. -/
def expandText : (fuel : Nat) → Mode → (text : List Char) → Session → List Atom × Session
  | 0, _, _, session => ([], exhausted session)
  | fuel + 1, mode, text, session =>
    match readPieces? session.dialect mode text with
    | some (word, _) => expandWord fuel true word session
    | none => ([], session.badUsage)

/-- The atoms of a word. `splits` says whether its own blanks split it. -/
def expandWord : (fuel : Nat) → (splits : Bool) → Word → Session → List Atom × Session
  | 0, _, _, session => ([], exhausted session)
  | _, _, [], session => ([], session)
  | fuel + 1, splits, piece :: rest, session =>
    let (atoms, session) := match piece, splits with
      | .text chars false, true => (atomsOf session.separators false chars, session)
      | piece, _ => expandPiece fuel piece session
    if session.ending.isSome then (atoms, session)
    else
      let (more, session) := expandWord fuel splits rest session
      (atoms ++ more, session)

/-- The arguments that words stand for. -/
def expandWords : (fuel : Nat) → List Word → Session → List String × Session
  | 0, _, session => ([], exhausted session)
  | _, [], session => ([], session)
  | fuel + 1, word :: rest, session =>
    let (atoms, session) := expandWord fuel false word session
    let found := (fields atoms).flatMap fun field =>
      if session.options.contains 'f' then [String.ofList (Glyph.text field)]
      else paths session.disk field
    if session.ending.isSome then (found, session)
    else
      let (more, session) := expandWords fuel rest session
      (found ++ more, session)

/-- The arguments that words stand for, after braces have made several of some. -/
def expandArguments : (fuel : Nat) → List Word → Session → List String × Session
  | 0, _, session => ([], exhausted session)
  | fuel + 1, words, session =>
    expandWords fuel (if session.dialect = .bash then words.flatMap Word.alternatives else words)
      session

/-- The words of a condition, which are not split. -/
def expandWhole : (fuel : Nat) → List Word → Session → List (List Glyph) × Session
  | 0, _, session => ([], exhausted session)
  | _, [], session => ([], session)
  | fuel + 1, word :: rest, session =>
    let (atoms, session) := expandWord fuel false word session
    let (more, session) := expandWhole fuel rest session
    (joined atoms :: more, session)

/-- Runs the script of a text. -/
def runText : (fuel : Nat) → (text : List Char) → Session → Session
  | 0, _, session => exhausted session
  | fuel + 1, text, session =>
    let after := run fuel (Script.ofText session.dialect text) { session with line := 1 }
    { after with line := session.line }

/-- Does what was put off until a signal came. -/
def runPending : (fuel : Nat) → Session → Session
  | 0, session => exhausted session
  | fuel + 1, session =>
    match session.pending, session.ending with
    | action :: rest, none =>
      let after := runText fuel action.toList { session with pending := rest }
      if after.ending.isSome then after
      else runPending fuel (after.returns session.status)
    | _, _ => session

/-- Does what was put off until the end. -/
def finish : (fuel : Nat) → Session → Session
  | 0, session => exhausted session
  | fuel + 1, session =>
    let isKilled := match session.ending with
      | some (.killed signal) => session.dialect = .sh || signal = 9
      | _ => false
    match session.traps.lookup "0", isKilled with
    | some action, false =>
      let after := runText fuel action.toList { session with
        ending := none
        traps := session.traps.filter (·.1 ≠ "0") }
      match after.ending with
      | some _ => after
      | none => { after with status := session.status, ending := session.ending }
    | _, _ => session

def run : (fuel : Nat) → Script → Session → Session
  | 0, _, session => exhausted session
  | fuel + 1, script, session =>
    if session.ending.isSome || session.options.contains 'n' then session
    else
      match script with
      | .skip => session
      | .located line body => run fuel body { session with line }
      | .invalid => session.abort 2 "Syntax error"
      | .simple assignments words redirections =>
        let after := runCommand fuel assignments words redirections
          { session with substitution := none }
        (runPending fuel after).checked
      | .redirected body redirections =>
        let (opened, inner) := openAll fuel redirections session
        if opened then (run fuel body inner).withStreamsOf session redirections
        else (inner.withStreamsOf session redirections).checked
      | .pipe first second =>
        let left := finish fuel (run fuel first session.gathering)
        let (bytes, between) := session.gathered left
        let right := finish fuel (run fuel second { between.inside with input := bytes })
        let after := { between.resume right with input := between.input }
        let after := if session.options.contains 'p' && after.status = 0 then
            after.returns (left.exitStatus % 256)
          else after
        ((after.killedWith left).killedWith right).checked
      | .negation body =>
        let after := run fuel body { session with guarded := true }
        let after := { after with guarded := session.guarded }
        if after.ending.isSome then after else after.returns (if after.status = 0 then 1 else 0)
      | .sequence first second => run fuel second (run fuel first session)
      | .both first second =>
        let tested := run fuel first { session with guarded := true }
        let tested := { tested with guarded := session.guarded }
        if tested.status = 0 then run fuel second tested else tested
      | .either first second =>
        let tested := run fuel first { session with guarded := true }
        let tested := { tested with guarded := session.guarded }
        if tested.status = 0 then tested else run fuel second tested
      | .subshell body =>
        let inner := finish fuel (run fuel body session.inside)
        ((session.resume inner).killedWith inner).checked
      | .background body =>
        let inner := finish fuel (run fuel body { session.inside with input := [] })
        let after := { session.resume inner with input := session.input }
        ({ after with background := after.status }.killedWith inner).succeed
      | .branch test yes no =>
        let tested := run fuel test { session with guarded := true }
        let tested := { tested with guarded := session.guarded }
        if tested.ending.isSome then tested
        else if tested.status = 0 then run fuel yes tested
        else run fuel no tested.succeed
      | .loop goal test body =>
        let after := runLoop fuel goal test body 0 { session with loops := session.loops + 1 }
        { after with loops := session.loops }
      | .each name words body =>
        let (values, session) := match words with
          | some words => expandArguments fuel words session
          | none => (session.arguments, session)
        let after := runEach fuel name values body
          { session.succeed with loops := session.loops + 1 }
        { after with loops := session.loops }
      | .choice subject arms =>
        let (atoms, session) := expandWord fuel false subject session
        runArms fuel (Glyph.text (joined atoms)) arms session
      | .define name body =>
        { session with functions := (name, body) :: session.functions }.succeed

/-- Repeats the body of a loop. `status` is that of the last turn. -/
def runLoop : (fuel : Nat) → (goal : Bool) → (test body : Script) → (status : Nat) → Session →
    Session
  | 0, _, _, _, _, session => exhausted session
  | fuel + 1, goal, test, body, status, session =>
    let tested := run fuel test { session with guarded := true }
    let tested := { tested with guarded := session.guarded }
    if tested.ending.isSome then tested.afterTurn.1
    else if decide (tested.status = 0) = goal then
      let (after, goesOn) := (run fuel body tested).afterTurn
      if goesOn then runLoop fuel goal test body after.status after else after
    else tested.returns status

def runEach : (fuel : Nat) → (name : String) → (values : List String) → (body : Script) →
    Session → Session
  | 0, _, _, _, session => exhausted session
  | _, _, [], _, session => session
  | fuel + 1, name, value :: rest, body, session =>
    if session.ending.isSome then session
    else
      let (after, goesOn) := (run fuel body (session.set name value)).afterTurn
      if goesOn then runEach fuel name rest body after else after

/-- Runs the body of the first arm of which a pattern fits. -/
def runArms : (fuel : Nat) → (subject : List Char) → List (List Word × Script) → Session → Session
  | 0, _, _, session => exhausted session
  | _, _, [], session => session.succeed
  | fuel + 1, subject, (patterns, body) :: rest, session =>
    let (found, session) := fitsAny fuel subject patterns session
    if session.ending.isSome then session
    else if found then run fuel body session.succeed
    else runArms fuel subject rest session

def fitsAny : (fuel : Nat) → (subject : List Char) → List Word → Session → Bool × Session
  | 0, _, _, session => (false, exhausted session)
  | _, _, [], session => (false, session)
  | fuel + 1, subject, word :: rest, session =>
    let (atoms, session) := expandWord fuel false word session
    if (Pattern.ofGlyphs (joined atoms)).fits subject then (true, session)
    else fitsAny fuel subject rest session

/-- Opens the targets of redirections in order, and says whether all of them are open. -/
def openAll : (fuel : Nat) → List Redirection → Session → Bool × Session
  | 0, _, session => (false, exhausted session)
  | _, [], session => (true, session)
  | fuel + 1, redirection :: rest, session =>
    let (atoms, session) := expandWord fuel false redirection.target session
    if session.ending.isSome then (false, session)
    else
      match session.redirect redirection.direction redirection.stream (joinedText atoms) with
      | .ok session => openAll fuel rest session
      | .error e =>
        (false, session.report (if session.dialect = .sh then 2 else 1)
          (session.redirectionMessage redirection.direction (joinedText atoms) e))

/-- Gives variables their values. -/
def assign : (fuel : Nat) → List (String × Word) → Session → Session
  | 0, _, session => exhausted session
  | _, [], session => session
  | fuel + 1, (name, word) :: rest, session =>
    let (atoms, session) := expandWord fuel false word session
    if session.ending.isSome then session
    else assign fuel rest (session.set name (joinedText atoms))

/-- Runs a simple command with its streams. -/
def runCommand : (fuel : Nat) → (assignments : List (String × Word)) → (words : List Word) →
    List Redirection → Session → Session
  | 0, _, _, _, session => exhausted session
  | fuel + 1, assignments, words, redirections, session =>
    match session.dialect, words with
    | .bash, [Piece.text ['['] false, Piece.text ['['] false] :: rest =>
      let (held, session) := expandWhole fuel rest session
      let inside := held.dropLast
      match fitsCondition? inside with
      | some result => session.returns (if result then 0 else 1)
      | none => test (inside.map fun glyphs => String.ofList (Glyph.text glyphs)) session
    | _, _ =>
      let (arguments, session) := expandArguments fuel words session
      if session.ending.isSome then session
      else
        let (opened, inner) := openAll fuel redirections session
        if opened then
          let after := runSimple fuel assignments arguments inner
          if arguments = ["exec"] then after else after.withStreamsOf session redirections
        else
          let after := inner.withStreamsOf session redirections
          if session.dialect = .sh && arguments.head?.any isSpecial && after.ending.isNone then
            { after with ending := some .exited }
          else after

/-- Runs a command whose arguments have their values. Its variables are its own. -/
def runSimple : (fuel : Nat) → (assignments : List (String × Word)) →
    (arguments : List String) → Session → Session
  | 0, _, _, session => exhausted session
  | fuel + 1, assignments, [], session =>
    let after := assign fuel assignments session
    if after.ending.isSome then after else after.returns (after.substitution.getD 0)
  | fuel + 1, [], command :: arguments, session => call fuel command arguments session
  | fuel + 1, assignments, command :: arguments, session =>
    let inner := assign fuel assignments session
    if inner.ending.isSome then inner
    else if session.dialect = .sh && isSpecial command then call fuel command arguments inner
    else
      let inner := assignments.foldl (fun inner (name, _) => inner.inherit name) inner
      let after := call fuel command arguments inner
      assignments.foldl (fun after (name, _) => after.restore name (session.get? name))
        { after with inherited := session.inherited }

/-- Calls a command of the shell, a function or a program. -/
def call : (fuel : Nat) → (command : String) → (arguments : List String) → Session → Session
  | 0, _, _, session => exhausted session
  | fuel + 1, command, arguments, session =>
    match session.functions.lookup command, isSpecial command && session.dialect = .sh with
    | some body, false => callFunction fuel body arguments session
    | _, _ => callBuiltin fuel command arguments session

/-- Runs a function with arguments of its own. -/
def callFunction : (fuel : Nat) → (body : Script) → (arguments : List String) → Session → Session
  | 0, _, _, session => exhausted session
  | fuel + 1, body, arguments, session =>
    let inner := run fuel body { session with
      arguments
      calls := session.calls + 1
      loops := 0
      shadowed := [] }
    let inner := inner.shadowed.foldl (fun inner (name, value?) => inner.restore name value?) inner
    { inner with
      arguments := session.arguments
      calls := session.calls
      loops := session.loops
      shadowed := session.shadowed
      ending := if inner.ending = some .returned then none else inner.ending }

/-- Calls a command of the shell or a program. -/
def callBuiltin : (fuel : Nat) → (command : String) → (arguments : List String) → Session → Session
  | 0, _, _, session => exhausted session
  | fuel + 1, command, arguments, session =>
    match (special? session.dialect command).or (builtin? command) with
    | some utility => utility arguments session
    | none =>
      match command, arguments with
      | "command", "-v" :: names =>
        describe fuel false (if session.dialect = .sh then names.take 1 else names) session.succeed
      | "type", names | "command", "-V" :: names => describe fuel true names session.succeed
      | "command", name :: rest | "builtin", name :: rest => callBuiltin fuel name rest session
      | "time", name :: rest =>
        if session.dialect = .bash then call fuel name rest session
        else launch fuel command arguments session
      | "command", [] | "exec", [] => session.succeed
      | "eval", words => runText fuel (" ".intercalate words).toList session.succeed
      | "exec", name :: rest => { launch fuel name rest session with ending := some .exited }
      | ".", path :: rest | "source", path :: rest =>
        match session.disk.read ⟨path⟩ with
        | .ok content =>
          let after := callFunction fuel
            (Script.ofText session.dialect (Text.utf8Lossy content).toList)
            (if rest.isEmpty then session.arguments else rest) session.succeed
          if rest.isEmpty then after else { after with arguments := session.arguments }
        | .error e => session.refuse 1 (path ++ ": " ++ reason e)
      | _, _ => launch fuel command arguments session

/-- Says what names stand for, in words or not. -/
def describe : (fuel : Nat) → (inWords : Bool) → (names : List String) → Session → Session
  | 0, _, _, session => exhausted session
  | _, _, [], session => session
  | fuel + 1, inWords, name :: rest, session =>
    let isFunction := (session.functions.lookup name).isSome
    let isOwn := (builtin? name).isSome || (special? session.dialect name).isSome
      || ["command", "eval", "exec", ".", "type"].contains name
    let kind := if isFunction then some "a shell function"
      else if isOwn then some "a shell builtin" else Target.path? session.disk session.env name
    let missing := if session.dialect = .sh then 127 else 1
    let session := match kind, inWords with
      | some kind, true => session.print (name ++ " is " ++ kind ++ "\n")
      | some kind, false =>
        session.print ((if isFunction || isOwn then name else kind) ++ "\n")
      | none, true =>
        if session.dialect = .sh then (session.print (name ++ ": not found\n")).returns missing
        else session.report missing ("type: " ++ name ++ ": not found")
      | none, false => session.returns missing
    describe fuel inWords rest session

/-- Runs a program below the session. -/
def launch : (fuel : Nat) → (program : String) → (arguments : List String) → Session → Session
  | 0, _, _, session => exhausted session
  | fuel + 1, program, arguments, session =>
    match Target.resolve session.disk session.env program with
    | .ok (.unmarked path) =>
      session.resume (enter fuel program (.shell session.dialect) (path :: arguments) session.below)
    | .ok target => session.resume (enter fuel program target arguments session.below)
    | .error .notFound => session.report 127 (program ++ (match session.dialect with
      | .sh => ": not found"
      | .bash => if program.toList.contains '/' then ": " ++ reason .notFound
          else ": command not found"))
    | .error e =>
      let isDir := session.dialect = .bash && session.disk.isDir ⟨program⟩
      session.report 126 (program ++ ": " ++ reason (if isDir then .isADirectory else e))

/-- Runs a program as the session. -/
def enter : (fuel : Nat) → (program : String) → Target → (arguments : List String) → Session →
    Session
  | 0, _, _, _, session => exhausted session
  | fuel + 1, program, target, arguments, session =>
    match target with
    | .utility utility => utility arguments session
    | .env =>
      let (clears, unset, rest) := envOptions arguments
      let (given, command) := leadingVariables rest
      let session := if clears then { session with vars := {} } else session
      let session := unset.foldl Session.unset session
      let session := { session with
        vars := session.vars.extend given
        inherited := given.map (·.1) ++ session.inherited }
      match command with
      | [] => printenv [] session
      | name :: rest => launch fuel name rest session
    | .xargs =>
      let batching := Batching.ofArguments arguments
      runCalls fuel batching.command (batching.calls session.input)
        { session with input := [] }.succeed
    | .shell dialect =>
      let (session, isText, rest) := shellOptions false arguments { session with
        dialect
        name := program
        status := 0 }
      let isInput := session.options.contains 's'
      if session.ending.isSome then session
      else
        match isText, rest with
        | true, [] => session.abort 2 "-c requires an argument"
        | true, text :: rest =>
          finish fuel (runText fuel text.toList { session with
            name := rest.headD program
            arguments := rest.tail })
        | false, rest =>
          let fromInput (arguments : List String) : Session :=
            finish fuel (runText fuel (Text.utf8Lossy session.input).toList { session with
              arguments
              input := [] })
          match rest, isInput with
          | [], _ => fromInput []
          | arguments, true => fromInput arguments
          | path :: rest, false => match session.disk.read ⟨path⟩ with
          | .ok content =>
            finish fuel (runText fuel (Text.utf8Lossy content).toList { session with
              name := path
              arguments := rest })
          | .error e =>
            session.abort (if dialect = .sh then 2 else if e = .notFound then 127 else 126)
              (path ++ ": " ++ reason e)
    | .script path interpreter options =>
      match Target.ofPath session.disk interpreter with
      | .ok target => enter fuel interpreter target (options ++ path :: arguments) session
      | .error _ => session.complain 126 (path ++ ": bad interpreter")
    | .unmarked path => session.complain 126 (path ++ ": cannot be run")

/-- Calls a command with one row of arguments after the other. -/
def runCalls : (fuel : Nat) → (command : List String) → (rows : List (List String)) → Session →
    Session
  | 0, _, _, session => exhausted session
  | _, _, [], session => session
  | fuel + 1, command, row :: rows, session =>
    match command ++ row with
    | [] => session
    | program :: arguments =>
      let after := launch fuel program arguments session
      let status := if after.status = 0 then session.status
        else if after.status = 126 || after.status = 127 then after.status
        else if after.status = 255 then 124
        else if after.status > 128 then 125
        else 123
      runCalls fuel command rows { after with status }

end

end AssetSeed.Shell
