import AssetSeed.Files.Path
import AssetSeed.Text.Utf8

/-!
# Commands

## Main definitions

* `Command` — a program with arguments, and what it runs in.
* `Completion` — how a command ended and what it printed.
-/

namespace AssetSeed

structure Command where
  program : String
  args : List String := []
  /-- Variables on top of those that the command inherits, in order. -/
  env : List (String × String) := []
  dir : Option Path := none
  input : Option Bytes := none
deriving Repr, DecidableEq, Inhabited

/-- Program and arguments in one line. -/
def Command.display (command : Command) : String :=
  " ".intercalate (command.program :: command.args)

structure Completion where
  /-- The exit status; a command that was killed has none. -/
  code : Option Int
  /-- What was printed, without the lines that are blank. -/
  lines : List String
deriving Repr, DecidableEq, Inhabited

namespace Completion

def success (completion : Completion) : Bool :=
  completion.code = some 0

def hasOutput (completion : Completion) : Bool :=
  !completion.lines.isEmpty

end Completion

end AssetSeed
