import AssetSeed.Recipe.Commands
import AssetSeed.Text.Pieces

/-!
# Templates of recipes

A template holds placeholders for words, which are replaced wherever they stand, and placeholders
for blocks, which take the place of a whole line and carry its indentation. A line that has nothing
left in it is dropped.

## Main definitions

* `Template.fill` — words for placeholders, one placeholder after the other.
* `Template.expand` — a block for the first line that its placeholder starts.
* `Template.dropEmptyLines` — the text without lines that have nothing left in them.
* `Recipe.render` — the recipe of a variant.
-/

namespace AssetSeed.Recipe

open Text

namespace Template

def fill (text : List Char) (values : List (List Char × List Char)) : List Char :=
  values.foldl (fun text (token, value) => replace token value text) text

/-- The indentation of a line that is indented and goes on with the token. -/
def opening? (token line : List Char) : Option (List Char) :=
  if (indentation line).isEmpty then none
  else if token.isPrefixOf (trimStart line) then some (indentation line)
  else none

/-- Puts the block in place of the first line that opens one, each of its lines as far in. -/
def expandLines (token : List Char) (block : List (List Char)) :
    List (List Char) → List (List Char)
  | [] => []
  | line :: rest =>
    match opening? token line with
    | some indent => block.map (indent ++ ·) ++ rest
    | none => line :: expandLines token block rest

def expand (token : List Char) (block : List (List Char)) (text : List Char) : List Char :=
  unlines (expandLines token block (lines text))

/-- Whether a line is indented and has nothing in it but the mark of a list item, if that. -/
def isPlaceholder (line : List Char) : Bool :=
  !(indentation line).isEmpty && (trim line = [] || trim line = ['-'])

/-- Drops the lines that have nothing left in them. An empty line stays. -/
def dropEmptyLines (text : List Char) : List Char :=
  unlines ((lines text).filter fun line => !isPlaceholder line)

end Template

namespace Variant

/-- The placeholders for words, in the order in which they are replaced, with their values. -/
def words (variant : Variant) (sources : Sources) : List (String × String) :=
  [ ("__RELEASE__", variant.suite.text),
    ("__ARCH__", variant.architecture),
    ("__FIRMWARE_COMPONENT__", variant.firmwareComponent),
    ("__FIRMWARE_COMPONENT_OLD__", variant.formerFirmwareComponent),
    ("__LINUX_IMAGE__", variant.kernel),
    ("__DTB__", variant.deviceTrees),
    ("__WIRELESS_FIRMWARE__", variant.wirelessFirmware),
    ("__BLUETOOTH_FIRMWARE__", variant.bluetoothFirmware),
    ("__SERIAL_CONSOLE__", variant.serialConsole),
    ("__HOST__", variant.hostname),
    ("__BUILDTIME__", sources.buildTime) ]

/-- The placeholders for blocks, in the order in which they are replaced, with their blocks. -/
def blocks (variant : Variant) (sources : Sources) : List (String × List String) :=
  [ ("__EXTRA_ROOT_SHELL_CMDS__", variant.rootCommands sources),
    ("__EXTRA_CHROOT_SHELL_CMDS__", variant.chrootCommands),
    ("__BACKPORTS__", variant.backports) ]

end Variant

/-- The template with the words of the variant in it. -/
def fillWords (variant : Variant) (sources : Sources) (template : List Char) : List Char :=
  Template.fill template
    ((variant.words sources).map fun (token, value) => (token.toList, value.toList))

def expandBlocks (variant : Variant) (sources : Sources) (text : List Char) : List Char :=
  (variant.blocks sources).foldl
    (fun text (token, block) => Template.expand token.toList (block.map String.toList) text) text

def renderChars (variant : Variant) (sources : Sources) (template : List Char) : List Char :=
  Template.dropEmptyLines (expandBlocks variant sources (fillWords variant sources template))

def render (variant : Variant) (sources : Sources) (template : String) : String :=
  String.ofList (renderChars variant sources template.toList)

end AssetSeed.Recipe
