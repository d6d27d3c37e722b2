/-!
# Variants of the sensor image

An image is built for one model of the board and one suite of the distribution. The tables give
what differs between them.

## Main definitions

* `Recipe.Board`, `Recipe.Suite` — the models and the suites.
* `Recipe.Variant` — a model with a suite.
* `Recipe.RecipeError` — a model or a suite that there is no recipe for.
-/

namespace AssetSeed.Recipe

inductive RecipeError where
  | unsupportedVersion (name : String)
  | unsupportedSuite (name : String)
deriving Repr, DecidableEq

def RecipeError.message : RecipeError → String
  | unsupportedVersion name => "unsupported version " ++ name
  | unsupportedSuite name => "unsupported suite " ++ name

inductive Board where
  | first
  | second
  | third
  | fourth
deriving Repr, DecidableEq, Inhabited

namespace Board

def number : Board → Nat
  | first => 1
  | second => 2
  | third => 3
  | fourth => 4

/-- The model of a number, which is one digit and nothing else. -/
def ofText : String → Except RecipeError Board
  | "1" => .ok first
  | "2" => .ok second
  | "3" => .ok third
  | "4" => .ok fourth
  | other => .error (.unsupportedVersion other)

def text (board : Board) : String :=
  toString board.number

end Board

inductive Suite where
  | bullseye
  | bookworm
  | trixie
deriving Repr, DecidableEq, Inhabited

namespace Suite

def text : Suite → String
  | bullseye => "bullseye"
  | bookworm => "bookworm"
  | trixie => "trixie"

def ofText : String → Except RecipeError Suite
  | "bullseye" => .ok bullseye
  | "bookworm" => .ok bookworm
  | "trixie" => .ok trixie
  | other => .error (.unsupportedSuite other)

end Suite

structure Variant where
  board : Board
  suite : Suite
deriving Repr, DecidableEq, Inhabited

namespace Variant

/-- The variant of two texts. The model is looked at first. -/
def ofTexts (board suite : String) : Except RecipeError Variant := do
  return { board := ← Board.ofText board, suite := ← Suite.ofText suite }

/-- The name of the recipe's file. -/
def outputName (variant : Variant) : String :=
  "raspi_" ++ variant.board.text ++ "_" ++ variant.suite.text ++ ".yaml"

def architecture (variant : Variant) : String :=
  match variant.board with
  | .first => "armel"
  | .second => "armhf"
  | .third | .fourth => "arm64"

def kernel (variant : Variant) : String :=
  match variant.board with
  | .first => "linux-image-rpi"
  | .second => "linux-image-armmp"
  | .third | .fourth => "linux-image-arm64"

/-- Where the device trees are. -/
def deviceTrees (variant : Variant) : String :=
  match variant.board with
  | .first => "/usr/lib/linux-image-*-rpi/bcm*rpi-*.dtb"
  | .second => "/usr/lib/linux-image-*-armmp/bcm*rpi*.dtb"
  | .third | .fourth => "/usr/lib/linux-image-*-arm64/broadcom/bcm*rpi*.dtb"

/-- The part of the archive that has the firmware. Suites after the first one have a part of its
own for it. -/
def firmwareComponent (variant : Variant) : String :=
  match variant.suite with
  | .bullseye => "non-free"
  | .bookworm | .trixie => "non-free-firmware"

/-- The part of the archive that had the firmware before it moved, if it did. -/
def formerFirmwareComponent (variant : Variant) : String :=
  match variant.suite with
  | .bullseye => ""
  | .bookworm | .trixie => "non-free"

/-- The second model has no radio. -/
def hasRadio (variant : Variant) : Bool :=
  variant.board ≠ .second

def wirelessFirmware (variant : Variant) : String :=
  if variant.hasRadio then "firmware-brcm80211" else ""

def bluetoothFirmware (variant : Variant) : String :=
  if variant.hasRadio then "bluez-firmware" else ""

def serialConsole (variant : Variant) : String :=
  match variant.board with
  | .first | .second => "ttyAMA0,115200"
  | .third | .fourth => "ttyS1,115200"

def hostname (variant : Variant) : String :=
  "Hedgehog-rpi-" ++ variant.board.text

end Variant

end AssetSeed.Recipe
