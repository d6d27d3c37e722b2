import AssetSeed.Files.Path
import AssetSeed.Recipe.Variant

/-!
# Blocks of a recipe

## Main definitions

* `Recipe.Sources` — what the image is built from.
* `Variant.rootCommands` — commands that fill the image from outside.
* `Variant.chrootCommands` — commands that run inside the image.
* `Variant.backports` — how to enable backports.
-/

namespace AssetSeed.Recipe

structure Sources where
  malcolmDir : Path
  sensorDir : Path
  buildTime : String
deriving Repr, DecidableEq

/-- The sensor's sources are a part of the whole. -/
def Sources.ofDir (malcolmDir : Path) (buildTime : String) : Sources where
  malcolmDir := malcolmDir
  sensorDir := malcolmDir.join "sensor-iso"
  buildTime := buildTime

/-- A path inside the image, as the build's shell finds it. -/
def inImage (path : String) : String :=
  "\"$\x7bROOT?\x7d" ++ path ++ "\""

def quotedPath (dir : Path) (rest : String) : String :=
  "\"" ++ dir.text ++ rest ++ "\""

/-- Files that are copied into the image. -/
structure Copy where
  source : String
  target : String
  recursive : Bool := false
  /-- Whether the build goes on if there is nothing to copy. -/
  optional : Bool := false
deriving Repr, DecidableEq

def Copy.command (copy : Copy) : String :=
  (if copy.recursive then "cp -r " else "cp ") ++ copy.source ++ " " ++ inImage copy.target
    ++ (if copy.optional then " || true" else "")

namespace Variant

def makeDirs : String :=
  "/bin/bash -c 'mkdir -p " ++ inImage "/opt/"
    ++ "\x7bbuildshared,deps,hooks,patches,sensor/sensor_ctl/suricata/rules-default,arkime/etc,"
    ++ "zeek/bin\x7d'"

/-- Commands that fill the image, for any variant. -/
def rootCommands (_ : Variant) (sources : Sources) : List String :=
  let malcolm (rest : String) : String := quotedPath sources.malcolmDir rest
  let sensor (rest : String) : String := quotedPath sources.sensorDir rest
  let all (dir : String) : String := dir ++ "*"
  [ Copy.command { source := "sensor_install.sh", target := "/root/" },
    makeDirs,
    Copy.command {
      source := all (malcolm "/arkime/patch/"), target := "/opt/patches/", optional := true },
    Copy.command {
      source := all (sensor "/arkime/etc/"), target := "/opt/arkime/etc", optional := true },
    Copy.command {
      source := all (malcolm "/suricata/rules-default/")
      target := "/opt/sensor/sensor_ctl/suricata/rules-default/"
      recursive := true
      optional := true },
    Copy.command { source := all "shared/", target := "/opt/buildshared", recursive := true },
    Copy.command {
      source := all (sensor "/interface/"), target := "/opt/sensor", recursive := true },
    Copy.command {
      source := all (malcolm "/shared/bin/"), target := "/usr/local/bin", recursive := true },
    Copy.command { source := malcolm "/scripts/malcolm_utils.py", target := "/usr/local/bin/" },
    Copy.command {
      source := sensor "/config/archives/beats.list.chroot"
      target := "/etc/apt/sources.list.d/beats.list" },
    Copy.command {
      source := sensor "/config/archives/beats.key.chroot", target := "/etc/apt/keyrings/" },
    Copy.command {
      source := sensor "/config/archives/fluentbit.list.chroot"
      target := "/etc/apt/sources.list.d/fluentbit.list" },
    Copy.command {
      source := sensor "/config/archives/fluentbit.key.chroot", target := "/etc/apt/keyrings/" },
    Copy.command {
      source := all (sensor "/config/includes.chroot/"), target := "/", recursive := true },
    "rm -r " ++ inImage "/etc/live",
    Copy.command {
      source := all (sensor "/config/hooks/normal/"), target := "/opt/hooks/", recursive := true },
    Copy.command {
      source := all (sensor "/config/package-lists/"), target := "/opt/deps/", recursive := true },
    Copy.command {
      source := all (malcolm "/docs/images/hedgehog/logo/hedgehog-ascii-text.txt")
      target := "/root/"
      recursive := true } ]

/-- Commands that run inside the image. The fourth model has its memory reservation lifted. -/
def chrootCommands (variant : Variant) : List String :=
  (if variant.board = .fourth then ["sed -i 's/cma=64M //' /boot/firmware/cmdline.txt"] else [])
    ++ [ "chmod 755 /root/sensor_install.sh",
      "/root/sensor_install.sh 2>&1 | tee -a /root/sensor_install_debug" ]

/-- Backports stay disabled; the lines tell how to enable them. -/
def backports (variant : Variant) : List String :=
  [ "",
    "# Backports are _not_ enabled by default.",
    "# Enable them by uncommenting the following line:",
    "# deb http://deb.debian.org/debian " ++ variant.suite.text ++ "-backports main "
      ++ variant.firmwareComponent ]

end Variant

end AssetSeed.Recipe
