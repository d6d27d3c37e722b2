import AssetSeed.Proofs.Recipe.Blocks

/-!
# The words and the blocks of a variant

No line ends within a word or within a line of a block, provided that none ends within the time
stamp or the names of the directories.

## Main definitions

* `Recipe.blocksOf` — the blocks of a variant.
* `Recipe.isTame` — the characters of words that stand in tables.

## Main statements

* `Recipe.independent_blocksOf` — the blocks of a variant do not get in each other's way.
* `Recipe.wellFormed_blocksOf` — their lines are lines.
* `Recipe.isLine_words`, `Recipe.plain_words` — so are the words, and no underscore is in one.
-/

namespace AssetSeed.Recipe

open Text

variable (variant : Variant) {sources : Sources}

/-- The blocks of a variant, character by character. -/
def blocksOf (sources : Sources) : List Template.Block :=
  (variant.blocks sources).map fun (token, block) => (token.toList, block.map String.toList)

/-! ## How lines of blocks begin -/

theorem startsPlain_copy (copy : Copy) : Template.startsPlain copy.command.toList := by
  have verb : Template.startsPlain (if copy.recursive then "cp -r " else "cp ").toList ∧
      (if copy.recursive then "cp -r " else "cp ").toList ≠ [] := by
    split <;> decide
  simp only [Copy.command, String.toList_append, List.append_assoc]
  exact Template.startsPlain_append verb.1 verb.2 _

theorem startsPlain_rootCommands (sources : Sources) :
    ∀ command ∈ variant.rootCommands sources, Template.startsPlain command.toList := by
  simp only [Variant.rootCommands, List.forall_mem_cons, startsPlain_copy, true_and,
    List.not_mem_nil, false_implies, implies_true, and_true]
  constructor
  · -- The equation of this constant takes too long to state, so it is unfolded as it is.
    delta Variant.makeDirs
    rw [String.toList_append, String.toList_append, String.toList_append, List.append_assoc,
      List.append_assoc]
    exact Template.startsPlain_append (by decide) (by decide) _
  · rw [String.toList_append]
    exact Template.startsPlain_append (by decide) (by decide) _

theorem startsPlain_chrootCommands :
    ∀ command ∈ variant.chrootCommands, Template.startsPlain command.toList := by
  rw [Variant.chrootCommands, List.forall_mem_append]
  constructor
  · split
    · decide
    · exact List.forall_mem_nil _
  · decide

theorem startsPlain_backports :
    ∀ command ∈ variant.backports, Template.startsPlain command.toList := by
  simp only [Variant.backports, List.forall_mem_cons, List.not_mem_nil, false_implies,
    implies_true, and_true, String.toList_append, List.append_assoc]
  exact ⟨by decide, by decide, by decide,
    Template.startsPlain_append (by decide) (by decide) _⟩

theorem independent_blocksOf (sources : Sources) :
    Template.Independent (blocksOf variant sources) where
  marked := by simp [blocksOf, Variant.blocks]
  apart := by simp [blocksOf, Variant.blocks]
  plain := by
    simpa [blocksOf, Variant.blocks] using ⟨startsPlain_rootCommands variant sources,
      startsPlain_chrootCommands variant, startsPlain_backports variant⟩

/-! ## Where lines end -/

theorem isLine_toList_append {a b : String} (first : IsLine a.toList) (last : IsLine b.toList) :
    IsLine (a ++ b).toList := by
  rw [String.toList_append]
  exact isLine_append.2 ⟨first, last⟩

theorem isLine_quotedPath {dir : Path} {rest : String} (lined : IsLine dir.text.toList)
    (restLined : IsLine rest.toList) : IsLine (quotedPath dir rest).toList :=
  isLine_toList_append (isLine_toList_append (isLine_toList_append (by decide) lined) restLined)
    (by decide)

theorem isLine_inImage {path : String} (lined : IsLine path.toList) :
    IsLine (inImage path).toList :=
  isLine_toList_append (isLine_toList_append (by decide) lined) (by decide)

theorem isLine_copy {copy : Copy} (source : IsLine copy.source.toList)
    (target : IsLine copy.target.toList) : IsLine copy.command.toList := by
  have verb : IsLine (if copy.recursive then "cp -r " else "cp ").toList := by
    split <;> decide
  have ending : IsLine (if copy.optional then " || true" else "").toList := by
    split <;> decide
  exact isLine_toList_append (isLine_toList_append (isLine_toList_append
    (isLine_toList_append verb source) (by decide)) (isLine_inImage target)) ending

theorem isLine_makeDirs : IsLine Variant.makeDirs.toList := by
  delta Variant.makeDirs
  exact isLine_toList_append (isLine_toList_append (isLine_toList_append (by decide)
    (isLine_inImage (by decide))) (by decide)) (by decide)

theorem isLine_rootCommands (malcolm : IsLine sources.malcolmDir.text.toList)
    (sensor : IsLine sources.sensorDir.text.toList) :
    ∀ command ∈ variant.rootCommands sources, IsLine command.toList := by
  have one {dir : Path} {rest target : String} (lined : IsLine dir.text.toList)
      (restLined : IsLine rest.toList) (targetLined : IsLine target.toList) :
      IsLine (Copy.command { source := quotedPath dir rest, target }).toList :=
    isLine_copy (isLine_quotedPath lined restLined) targetLined
  have all {dir : Path} {rest target : String} (recursive optional : Bool)
      (lined : IsLine dir.text.toList) (restLined : IsLine rest.toList)
      (targetLined : IsLine target.toList) : IsLine (Copy.command {
        source := quotedPath dir rest ++ "*", target, recursive, optional }).toList :=
    isLine_copy (isLine_toList_append (isLine_quotedPath lined restLined) (by decide)) targetLined
  simp only [Variant.rootCommands, List.forall_mem_cons, List.not_mem_nil, false_implies,
    implies_true, and_true]
  exact ⟨isLine_copy (by decide) (by decide), isLine_makeDirs,
    all _ _ malcolm (by decide) (by decide),
    all _ _ sensor (by decide) (by decide),
    all _ _ malcolm (by decide) (by decide),
    isLine_copy (by decide) (by decide),
    all _ _ sensor (by decide) (by decide),
    all _ _ malcolm (by decide) (by decide),
    one malcolm (by decide) (by decide),
    one sensor (by decide) (by decide),
    one sensor (by decide) (by decide),
    one sensor (by decide) (by decide),
    one sensor (by decide) (by decide),
    all _ _ sensor (by decide) (by decide),
    isLine_toList_append (by decide) (isLine_inImage (by decide)),
    all _ _ sensor (by decide) (by decide),
    all _ _ sensor (by decide) (by decide),
    all _ _ malcolm (by decide) (by decide)⟩

theorem isLine_chrootCommands : ∀ command ∈ variant.chrootCommands, IsLine command.toList := by
  rw [Variant.chrootCommands, List.forall_mem_append]
  constructor
  · split
    · decide
    · exact List.forall_mem_nil _
  · decide

theorem isLine_suite (suite : Suite) : IsLine suite.text.toList := by
  cases suite <;> decide

theorem isLine_firmwareComponent : IsLine variant.firmwareComponent.toList := by
  rw [Variant.firmwareComponent]
  cases variant.suite <;> decide

theorem isLine_backports : ∀ command ∈ variant.backports, IsLine command.toList := by
  simp only [Variant.backports, List.forall_mem_cons, List.not_mem_nil, false_implies,
    implies_true, and_true]
  exact ⟨by decide, by decide, by decide,
    isLine_toList_append (isLine_toList_append (isLine_toList_append (by decide)
      (isLine_suite variant.suite)) (by decide)) (isLine_firmwareComponent variant)⟩

theorem wellFormed_blocksOf (malcolm : IsLine sources.malcolmDir.text.toList)
    (sensor : IsLine sources.sensorDir.text.toList) :
    Template.WellFormed (blocksOf variant sources) := by
  have filled : variant.rootCommands sources ≠ [] ∧ variant.chrootCommands ≠ [] ∧
      variant.backports ≠ [] := by
    simp [Variant.rootCommands, Variant.chrootCommands, Variant.backports]
  simpa [Template.WellFormed, blocksOf, Variant.blocks, filled] using
    ⟨isLine_rootCommands variant malcolm sensor, isLine_chrootCommands variant,
      isLine_backports variant⟩

theorem tokens_words : ∀ entry ∈ variant.words sources,
    '\n' ∉ entry.1.toList ∧ entry.1.toList ≠ [] := by
  simp [Variant.words]

/-- Characters that words out of the tables may hold: they end no line and mark no placeholder. -/
def isTame (c : Char) : Bool :=
  c.toNat ≠ 10 && c.toNat ≠ 13 && c.toNat ≠ 95

theorem isTame_iff {c : Char} : isTame c ↔ c ≠ '\n' ∧ c ≠ '\r' ∧ c ≠ '_' := by
  simp [isTame, ← Char.toNat_inj, and_assoc]

/-- What holds of tame characters and of those of the time stamp holds of all in words. -/
theorem forall_mem_words {p : Char → Prop} (tame : ∀ c, isTame c → p c)
    (stamp : ∀ c ∈ sources.buildTime.toList, p c) :
    ∀ entry ∈ variant.words sources, ∀ c ∈ entry.2.toList, p c := by
  have tabled {word : String} (all : word.toList.all isTame) : ∀ c ∈ word.toList, p c :=
    fun c mem => tame c (List.all_eq_true.1 all c mem)
  simp only [Variant.words, List.forall_mem_cons, List.not_mem_nil, false_implies, implies_true,
    and_true]
  refine ⟨tabled ?_, tabled ?_, tabled ?_, tabled ?_, tabled ?_, tabled ?_, tabled ?_, tabled ?_,
    tabled ?_, tabled ?_, stamp⟩
  · cases variant.suite <;> decide
  · rw [Variant.architecture]
    cases variant.board <;> decide
  · rw [Variant.firmwareComponent]
    cases variant.suite <;> decide
  · rw [Variant.formerFirmwareComponent]
    cases variant.suite <;> decide
  · rw [Variant.kernel]
    cases variant.board <;> decide
  · rw [Variant.deviceTrees]
    cases variant.board <;> decide
  · rw [Variant.wirelessFirmware]
    split <;> decide
  · rw [Variant.bluetoothFirmware]
    split <;> decide
  · rw [Variant.serialConsole]
    cases variant.board <;> decide
  · rw [Variant.hostname]
    cases variant.board <;> decide

theorem isLine_words (stamp : IsLine sources.buildTime.toList) :
    ∀ entry ∈ variant.words sources, IsLine entry.2.toList := fun entry mem =>
  isLine_iff_forall.2 (forall_mem_words variant
    (fun _ tame => ⟨(isTame_iff.1 tame).1, (isTame_iff.1 tame).2.1⟩) (isLine_iff_forall.1 stamp)
    entry mem)

/-- No underscore is in a word. -/
theorem plain_words (stamp : '_' ∉ sources.buildTime.toList) :
    ∀ entry ∈ variant.words sources, '_' ∉ entry.2.toList := fun entry mem within =>
  forall_mem_words variant (p := (· ≠ '_')) (fun _ tame => (isTame_iff.1 tame).2.2)
    (fun _ within same => stamp (same ▸ within)) entry mem _ within rfl

end AssetSeed.Recipe
