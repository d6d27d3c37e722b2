import AssetSeed.Proofs.Recipe.Layouts
import AssetSeed.Proofs.Recipe.Parts

/-!
# Words filled in

The words of a variant are filled in by one pass for each placeholder. In a template whose
placeholders stand apart it comes to the same as putting all of them in at once.

## Main definitions

* `Recipe.placeholders` — the placeholders of a variant, for words and for blocks.
* `Recipe.wordsOf` — the words of a variant.

## Main statements

* `Recipe.vocabulary_placeholders` — the placeholders can be told from each other.
* `Recipe.fillWords_shown` — all words are put in at once.
-/

namespace AssetSeed.Recipe

open Text

variable (variant : Variant) (sources : Sources)

/-- The placeholders for words and for blocks, character by character. -/
def placeholders : List (List Char) :=
  ((variant.words sources).map Prod.fst ++ (variant.blocks sources).map Prod.fst).map String.toList

/-- The words of a variant, character by character. -/
def wordsOf : List (List Char × List Char) :=
  (variant.words sources).map fun (token, word) => (token.toList, word.toList)

theorem placeholders_eq : placeholders variant sources =
    ["__RELEASE__", "__ARCH__", "__FIRMWARE_COMPONENT__", "__FIRMWARE_COMPONENT_OLD__",
      "__LINUX_IMAGE__", "__DTB__", "__WIRELESS_FIRMWARE__", "__BLUETOOTH_FIRMWARE__",
      "__SERIAL_CONSOLE__", "__HOST__", "__BUILDTIME__", "__EXTRA_ROOT_SHELL_CMDS__",
      "__EXTRA_CHROOT_SHELL_CMDS__", "__BACKPORTS__"].map String.toList :=
  rfl

theorem vocabulary_placeholders : Template.Vocabulary (placeholders variant sources) where
  isPlaceholder := by
    rw [placeholders_eq]
    decide +kernel
  apart := by
    rw [placeholders_eq]
    decide +kernel

theorem map_fst_wordsOf_sublist :
    ((wordsOf variant sources).map Prod.fst).Sublist (placeholders variant sources) := by
  rw [wordsOf, placeholders, List.map_append, List.map_map, List.map_map]
  exact List.sublist_append_left _ _

/-- None is a placeholder for two words. -/
theorem nodup_wordsOf : ((wordsOf variant sources).map Prod.fst).Nodup := by
  refine List.Nodup.sublist (map_fst_wordsOf_sublist variant sources) ?_
  rw [placeholders_eq]
  decide +kernel

variable {sources}

theorem wordsOf_known (stamp : '_' ∉ sources.buildTime.toList) : ∀ entry ∈ wordsOf variant sources,
    entry.1 ∈ placeholders variant sources ∧ '_' ∉ entry.2 := by
  intro entry mem
  refine ⟨(map_fst_wordsOf_sublist variant sources).subset (List.mem_map_of_mem mem), ?_⟩
  obtain ⟨word, found, rfl⟩ := List.mem_map.1 mem
  exact plain_words variant stamp word found

/-- All words are put in at once. -/
theorem fillWords_shown (stamp : '_' ∉ sources.buildTime.toList) {layout : Template.Layout}
    (spaced : layout.Spaced (placeholders variant sources)) :
    let filled := layout.shown fun token => ((wordsOf variant sources).lookup token).getD token
    fillWords variant sources (layout.shown id) = filled ∧
      (∀ passes, passes.Perm (wordsOf variant sources) →
        Template.fill (layout.shown id) passes = filled) ∧
      ∀ entry ∈ wordsOf variant sources, ¬ entry.1 <:+: filled := by
  intro filled
  have vocabulary := vocabulary_placeholders variant sources
  have words_known := wordsOf_known variant stamp
  have nodup := nodup_wordsOf variant sources
  have unfilled : Template.Settled (placeholders variant sources) id := fun _ _ => .inl rfl
  have passes {words : List (List Char × List Char)} (perm : words.Perm (wordsOf variant sources)) :
      Template.fill (layout.shown id) words = filled := by
    rw [spaced.fill_shown vocabulary ((perm.map Prod.fst).nodup_iff.2 nodup)
      (fun entry mem => words_known entry (perm.mem_iff.1 mem)) unfilled fun _ _ => rfl,
      Template.wordOr_perm perm ((perm.map Prod.fst).nodup_iff.2 nodup)]
    rfl
  refine ⟨passes (List.Perm.refl _), fun words => passes, fun entry mem => ?_⟩
  obtain ⟨known, plain⟩ := words_known entry mem
  have shown : ((wordsOf variant sources).lookup entry.1).getD entry.1 = entry.2 := by
    rw [(Template.mem_iff_lookup_eq_some nodup).1 mem, Option.getD_some]
  have settled : Template.Settled (placeholders variant sources)
      (Template.wordOr (wordsOf variant sources) id) :=
    Template.settled_wordOr fun entry mem => (words_known entry mem).2
  exact spaced.not_isInfix_shown vocabulary settled known (shown ▸ plain)

/-- The first suite has the firmware where it always was, so nothing is left of one placeholder,
whose name begins with that of another one. The placeholder for a block stays. -/
theorem fillWords_shown_bullseye :
    fillWords { board := .second, suite := .bullseye }
        { malcolmDir := ⟨"/malcolm"⟩, sensorDir := ⟨"/sensor"⟩, buildTime := "2024-01-01 00:00" }
        "a_b: __FIRMWARE_COMPONENT_OLD__\t__FIRMWARE_COMPONENT__.\n  __BACKPORTS__\n".toList =
      "a_b: \tnon-free.\n  __BACKPORTS__\n".toList := by
  let layout : Template.Layout :=
    .placed "a_b: ".toList "__FIRMWARE_COMPONENT_OLD__".toList
      (.placed "\t".toList "__FIRMWARE_COMPONENT__".toList
        (.placed ".\n  ".toList "__BACKPORTS__".toList (.text "\n".toList)))
  have spaced : layout.Spaced (placeholders { board := .second, suite := .bullseye }
      { malcolmDir := ⟨"/malcolm"⟩, sensorDir := ⟨"/sensor"⟩, buildTime := "2024-01-01 00:00" }) :=
    ⟨by decide +kernel, by decide +kernel, by decide +kernel, by decide +kernel, by decide +kernel⟩
  have filled := (fillWords_shown { board := .second, suite := .bullseye } (by decide) spaced).1
  have source : layout.shown id =
      "a_b: __FIRMWARE_COMPONENT_OLD__\t__FIRMWARE_COMPONENT__.\n  __BACKPORTS__\n".toList := by
    decide +kernel
  rw [← source, filled]
  decide +kernel

end AssetSeed.Recipe
