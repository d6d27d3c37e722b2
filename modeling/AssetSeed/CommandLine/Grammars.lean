import AssetSeed.CommandLine.Parameter
import AssetSeed.Recipe.Generate

/-!
# The parameters of the program

## Main definitions

* `Subcommand` — what the program can be told to do.
* `Grammar.main` — the options before the subcommand.
* `Grammar.seed`, `Grammar.recipe`, `Subcommand.grammar` — the parameters after it.
-/

namespace AssetSeed.CommandLine

inductive Subcommand where
  | seed
  | recipe
deriving Repr, DecidableEq

def helpOption : Parameter where
  name := "help"
  letter := some 'h'
  usage := .help

def versionOption : Parameter where
  name := "version"
  letter := some 'V'
  usage := .version

/-- How much is told about the run; it may stand before the subcommand and after it. -/
def verboseOption : Parameter where
  name := "verbose"
  letter := some 'v'
  usage := .counter

namespace Grammar

def main : Grammar where
  options := [verboseOption, helpOption, versionOption]

/-- Where the database is, and how it is waited for. -/
def connectionOptions : List Parameter := [
  { name := "wait", usage := .switch, revokes := ["no-wait"] },
  { name := "no-wait", usage := .switch, revokes := ["wait"] },
  { name := "url", letter := some 'u', envName := some "NETBOX_URL",
    default := some "http://localhost:8080/netbox" },
  { name := "token", letter := some 't', envName := some "NETBOX_TOKEN" }]

/-- What the database is to hold. -/
def catalogOptions : List Parameter := [
  { name := "site", letter := some 's', usage := .many, envName := some "NETBOX_DEFAULT_SITE",
    default := some "default" },
  { name := "net-map", check := .path },
  { name := "default-group", envName := some "REMOTE_AUTH_DEFAULT_GROUPS",
    default := some "standard" },
  { name := "staff-group", envName := some "REMOTE_AUTH_STAFF_GROUPS",
    default := some "administrator" },
  { name := "manufacturer", letter := some 'm', usage := .many,
    envName := some "NETBOX_DEFAULT_MANUFACTURER", default := some "Unspecified" },
  { name := "role", letter := some 'r', usage := .many, envName := some "NETBOX_DEFAULT_ROLE",
    default := some "Unspecified" },
  { name := "device-type", letter := some 'y', usage := .many,
    envName := some "NETBOX_DEFAULT_DEVICE_TYPE", default := some "Unspecified" }]

/-- Where files are found. -/
def placeOptions : List Parameter := [
  { name := "netbox", letter := some 'n', check := .path, envName := some "NETBOX_PATH",
    default := some "/opt/netbox" },
  { name := "library", letter := some 'l', check := .path,
    envName := some "NETBOX_DEVICETYPE_LIBRARY_IMPORT_PATH",
    default := some "/opt/netbox-devicetype-library-import" },
  { name := "preload", letter := some 'p', check := .path, envName := some "NETBOX_PRELOAD_PATH",
    default := some "/opt/netbox-preload" },
  { name := "preload-prefixes", usage := .optional "true", check := .truth,
    envName := some "NETBOX_PRELOAD_PREFIXES", default := some "false" },
  { name := "preload-backup", envName := some "NETBOX_PRELOAD_GZ" }]

/-- The database server that a snapshot is loaded into. -/
def serverOptions : List Parameter := [
  { name := "postgres-host", envName := some "DB_HOST", default := some "netbox-postgres" },
  { name := "postgres-db", envName := some "DB_NAME", default := some "netbox" },
  { name := "postgres-user", envName := some "DB_USER", default := some "netbox" },
  { name := "postgres-password", envName := some "DB_PASSWORD", default := some "" }]

def seed : Grammar where
  options := connectionOptions ++ catalogOptions ++ placeOptions ++ serverOptions
    ++ [verboseOption, helpOption]

def recipe : Grammar where
  options := [
    { name := "template", check := .path, default := some Recipe.masterName },
    { name := "output-dir", letter := some 'o', check := .path, default := some "." },
    { name := "malcolm-dir", check := .path, default := some ".." },
    verboseOption, helpOption]
  operands := [{ name := "version", check := .board }, { name := "suite", check := .suite }]

end Grammar

namespace Subcommand

def grammar : Subcommand → Grammar
  | seed => Grammar.seed
  | recipe => Grammar.recipe

def ofName? : String → Option Subcommand
  | "seed" => some seed
  | "recipe" => some recipe
  | _ => none

/-- The word that asks for the help text of a subcommand. -/
def helpName : String :=
  "help"

def isName (word : String) : Bool :=
  word = helpName || (ofName? word).isSome

end Subcommand

end AssetSeed.CommandLine
