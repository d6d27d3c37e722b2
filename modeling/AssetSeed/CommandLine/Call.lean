import AssetSeed.CommandLine.Grammars
import AssetSeed.CommandLine.Reading
import AssetSeed.Seed.Config

/-!
# Calls of the program

## Main definitions

* `Task` — what the program is called for.
* `Call` — a task, and how much is to be told about it.
* `Call.read` — the call that arguments and environment make.
* `Call.logFilter` — which messages are shown.
-/

namespace AssetSeed.CommandLine

/-- A recipe to be rendered. -/
structure RecipeOrder where
  variant : Recipe.Variant
  template : Path
  outputDir : Path
  malcolmDir : Path
deriving Repr, DecidableEq

inductive Task where
  | seed (config : SeedConfig)
  | recipe (order : RecipeOrder)
deriving Repr, DecidableEq

structure Call where
  verbosity : Nat
  task : Task
deriving Repr, DecidableEq

/-! ## Tasks -/

/-- A text that says something. -/
def present? (text : String) : Option String :=
  if text.isEmpty then none else some text

def scriptName : String :=
  "NETBOX_SUPERUSER_SCRIPT"

def retryName : String :=
  "NETBOX_WAIT_INTERVAL_SECS"

def timeoutName : String :=
  "NETBOX_HTTP_TIMEOUT_SECS"

/-- The variables that a call depends on. -/
def variableNames : List String :=
  Grammar.seed.options.filterMap (·.envName) ++ [scriptName, retryName, timeoutName]

/-- An installation in a directory. The environment tells where the script of the administrator
is. -/
def installAt (env : Environment) (dir : Path) : Install where
  dir := dir
  superuserScript := ⟨env.getD scriptName "/usr/local/bin/netbox_superuser_create.py"⟩

def catalogOf (values : Values) : Catalog where
  sites := values.list "site"
  manufacturers := values.list "manufacturer"
  roles := values.list "role"
  deviceTypes := values.list "device-type"
  staffGroup := values.first "staff-group"
  defaultGroup := values.first "default-group"

def postgresOf (values : Values) : Postgres where
  host := values.first "postgres-host"
  db := values.first "postgres-db"
  user := values.first "postgres-user"
  password := values.first "postgres-password"

def seedConfigOf (env : Environment) (values : Values) : SeedConfig where
  url := values.first "url"
  token := (values.first? "token").bind present?
  wait := !values.contains "no-wait"
  retrySeconds := env.seconds retryName 5
  timeoutSeconds := env.seconds timeoutName 30
  catalog := catalogOf values
  networkMap := (values.first? "net-map").map Path.mk
  install := installAt env ⟨values.first "netbox"⟩
  preloadDir := ⟨values.first "preload"⟩
  libraryDir := ⟨values.first "library"⟩
  preloadPrefixes := Text.truth? (values.first "preload-prefixes") = some true
  backup := ((values.first? "preload-backup").bind present?).map Path.mk
  postgres := postgresOf values

def recipeOrderOf (values : Values) : Except ArgumentError RecipeOrder := do
  let variant ← (Recipe.Variant.ofTexts (values.first "version") (values.first "suite")).mapError
    fun e => .refused "version" e.message
  return {
    variant
    template := ⟨values.first "template"⟩
    outputDir := ⟨values.first "output-dir"⟩
    malcolmDir := ⟨values.first "malcolm-dir"⟩ }

namespace Subcommand

def task (env : Environment) (values : Values) : Subcommand → Except ArgumentError Task
  | seed => .ok (.seed (seedConfigOf env values))
  | recipe => (recipeOrderOf values).map .recipe

end Subcommand

/-! ## Calls -/

/-- Asks for the help text of a subcommand, which has no subcommands of its own. -/
def helpOn : (topics : List String) → ArgumentError
  | [] => .helpWanted
  | [topic] => if Subcommand.isName topic then .helpWanted else .unknownSubcommand topic
  | topic :: next :: _ => .unknownSubcommand (if Subcommand.isName topic then next else topic)

namespace Call

/-- The count after the subcommand replaces the one before it. -/
def verbosityOf (outer inner : Values) : Nat :=
  (if inner.contains verboseOption.name then inner else outer).count verboseOption.name

def readTask (env : Environment) (outer : Values) (subcommand : Subcommand)
    (arguments : List String) : Except ArgumentError Call := do
  let inner ← Reading.read subcommand.grammar env arguments
  return { verbosity := verbosityOf outer inner, task := ← subcommand.task env inner }

/-- The arguments from the one on that may be a subcommand. -/
def readFrom (env : Environment) : (arguments : List String) → (outer : Reading) →
    Except ArgumentError Call
  | [], outer => .error (if outer.values.entries.isEmpty then .nothingGiven else .noSubcommand)
  | argument :: rest, outer =>
    match Argument.ofText argument with
    | .separator =>
      match rest with
      | [] => readFrom env [] outer
      | next :: _ =>
        .error (if Subcommand.isName next then .unknownArgument next else .unknownSubcommand next)
    | .word word =>
      if word = Subcommand.helpName then .error (helpOn rest)
      else
        match Subcommand.ofName? word with
        | some subcommand => readTask env outer.values subcommand rest
        | none => .error (.unknownSubcommand word)
    | other => do readFrom env rest (← outer.take Grammar.main other)

def read (env : Environment) (arguments : List String) : Except ArgumentError Call :=
  readFrom env arguments {}

end Call

/-- The messages that are shown: warnings of all parts, and of this program down to a level. -/
def logFilter (verbosity : Nat) : String :=
  let level :=
    match verbosity with
    | 0 => "warn"
    | 1 => "info"
    | 2 => "debug"
    | _ => "trace"
  "warn,netbox_init=" ++ level

end AssetSeed.CommandLine
