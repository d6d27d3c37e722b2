import AssetSeed.Proofs.Recipe.Parts

/-!
# Rendering line by line

A recipe is rendered by passes over the whole text. If lines end in line feeds only, each pass can
be made line by line.

## Main statements

* `Template.fill_terminated` — words are filled in line by line.
* `Template.expand_terminated` — a block is put in place among the lines.
* `Recipe.render_linewise` — the recipe is put together from what becomes of each line.
-/

namespace AssetSeed.Recipe

open Text

namespace Template

/-! ## Words -/

theorem fill_terminated {values : List (List Char × List Char)}
    (tokens : ∀ entry ∈ values, '\n' ∉ entry.1 ∧ entry.1 ≠ []) (ls : List (List Char)) :
    fill (terminated ls) values = terminated (ls.map (fill · values)) := by
  induction values generalizing ls with
  | nil => rw [show (fill · []) = id from rfl, List.map_id]; rfl
  | cons entry values ih =>
    obtain ⟨⟨single, some⟩, tokens⟩ := List.forall_mem_cons.1 tokens
    calc fill (terminated ls) (entry :: values)
      _ = fill (replace entry.1 entry.2 (terminated ls)) values := rfl
      _ = fill (terminated (ls.map (replace entry.1 entry.2))) values := by
        rw [replace_terminated single some]
      _ = terminated ((ls.map (replace entry.1 entry.2)).map (fill · values)) := ih tokens _
      _ = terminated (ls.map (fill · (entry :: values))) := by rw [List.map_map]; rfl

theorem isLine_fill {values : List (List Char × List Char)}
    (lined : ∀ entry ∈ values, IsLine entry.2) {l : List Char} (line : IsLine l) :
    IsLine (fill l values) := by
  induction values generalizing l with
  | nil => exact line
  | cons entry values ih =>
    obtain ⟨first, lined⟩ := List.forall_mem_cons.1 lined
    exact ih lined (isLine_replace first line)

/-! ## Blocks -/

theorem expandLines_ne_nil {token : List Char} {block ls : List (List Char)} (filled : block ≠ [])
    (some : ls ≠ []) : expandLines token block ls ≠ [] := by
  obtain ⟨line, rest, rfl⟩ := List.exists_cons_of_ne_nil some
  rw [expandLines]
  split
  · simp [filled]
  · exact List.cons_ne_nil _ _

theorem expand_terminated {token : List Char} {block ls : List (List Char)} (filled : block ≠ [])
    (lined : ∀ l ∈ ls, IsLine l) (some : ls ≠ []) :
    expand token block (terminated ls) = terminated (expandLines token block ls) := by
  rw [expand, lines_terminated lined, unlines_eq_terminated (expandLines_ne_nil filled some)]

theorem foldl_expand_terminated {blocks : List Block} (wellFormed : WellFormed blocks)
    {ls : List (List Char)} (lined : ∀ l ∈ ls, IsLine l) (some : ls ≠ []) :
    blocks.foldl (fun text block => expand block.1 block.2 text) (terminated ls) =
        terminated (expandAll blocks ls) ∧
      ∀ l ∈ expandAll blocks ls, IsLine l := by
  induction blocks generalizing ls with
  | nil => exact ⟨rfl, lined⟩
  | cons block blocks ih =>
    obtain ⟨⟨filled, blockLined⟩, wellFormed⟩ := List.forall_mem_cons.1 wellFormed
    rw [List.foldl_cons, expand_terminated filled lined some]
    exact ih wellFormed (isLine_expandLines blockLined lined) (expandLines_ne_nil filled some)

end Template

variable (variant : Variant) {sources : Sources}

/-! ## Main statement -/

theorem unlines_eq_ite (ls : List (List Char)) :
    unlines ls = if ls = [] then ['\n'] else terminated ls := by
  rw [unlines_eq]
  split <;> rfl

theorem dropEmptyLines_terminated {ls : List (List Char)} (lined : ∀ l ∈ ls, IsLine l) :
    Template.dropEmptyLines (terminated ls) =
      unlines (ls.filter fun l => !Template.isPlaceholder l) := by
  rw [Template.dropEmptyLines, lines_terminated lined]

/-- A recipe is put together from what becomes of each line of its template. A line has to know of
those before it which blocks they open, and nothing else. -/
theorem render_linewise {template : String} (unix : '\r' ∉ template.toList)
    (ends : template.toList.getLast? = some '\n') (stamp : IsLine sources.buildTime.toList)
    (malcolm : IsLine sources.malcolmDir.text.toList)
    (sensor : IsLine sources.sensorDir.text.toList) :
    let ls := lines template.toList
    let produced := Template.contributions (blocksOf variant sources) []
      (ls.map (fillWords variant sources))
    template.toList = terminated ls ∧ (∀ l ∈ ls, IsLine l) ∧
      (render variant sources template).toList =
        (if produced = [] then ['\n'] else terminated produced) ∧
      ∀ before before' line, (∀ block ∈ blocksOf variant sources,
          before.any (Template.opens block.1) = before'.any (Template.opens block.1)) →
        Template.contribution (blocksOf variant sources) before line =
          Template.contribution (blocksOf variant sources) before' line := by
  obtain ⟨ls, some, lined, split⟩ := exists_terminated unix ends
  have cut : lines template.toList = ls := by rw [split, lines_terminated lined]
  rw [cut]
  intro _ produced
  refine ⟨split, lined, ?_, fun _ _ line same => Template.contribution_congr same line⟩
  let filled := ls.map (fillWords variant sources)
  have words : fillWords variant sources template.toList = terminated filled := by
    rw [split, fillWords]
    exact Template.fill_terminated (List.forall_mem_map.2 (tokens_words variant)) ls
  have filledLined : ∀ l ∈ filled, IsLine l := List.forall_mem_map.2 fun l mem =>
    Template.isLine_fill (List.forall_mem_map.2 (isLine_words variant stamp)) (lined l mem)
  obtain ⟨expanded, expandedLined⟩ := Template.foldl_expand_terminated
    (wellFormed_blocksOf variant malcolm sensor) filledLined (mt List.map_eq_nil_iff.1 some)
  have blocks : expandBlocks variant sources (terminated filled) =
      terminated (Template.expandAll (blocksOf variant sources) filled) := by
    rw [expandBlocks, ← expanded, blocksOf, List.foldl_map]
  have whole : Template.pending (blocksOf variant sources) [] = blocksOf variant sources :=
    List.filter_eq_self.2 fun _ _ => rfl
  have placed := (independent_blocksOf variant sources).filter_expandAll [] filled
  rw [whole] at placed
  calc (render variant sources template).toList
    _ = Template.dropEmptyLines (expandBlocks variant sources (terminated filled)) := by
      rw [render, String.toList_ofList, renderChars, words]
    _ = unlines ((Template.expandAll (blocksOf variant sources) filled).filter
          fun l => !Template.isPlaceholder l) := by
      rw [blocks, dropEmptyLines_terminated expandedLined]
    _ = unlines produced := congrArg unlines placed
    _ = if produced = [] then ['\n'] else terminated produced := unlines_eq_ite produced

/-- The second model has no radio, so no firmware is listed for one. The first line that asks for
backports is exchanged for their block, but for its empty line; the second one stays. -/
theorem render_linewise_withoutRadio :
    (render { board := .second, suite := .bookworm }
        { malcolmDir := ⟨"/malcolm"⟩, sensorDir := ⟨"/sensor"⟩, buildTime := "2024-01-01 00:00" }
        "arch: __ARCH__\n  - __WIRELESS_FIRMWARE__\n  __BACKPORTS__\n  __BACKPORTS__\n").toList =
      ("arch: armhf\n  # Backports are _not_ enabled by default.\n" ++
        "  # Enable them by uncommenting the following line:\n" ++
        "  # deb http://deb.debian.org/debian bookworm-backports main non-free-firmware\n" ++
        "  __BACKPORTS__\n").toList := by
  rw [(render_linewise _ (by decide) (by decide) (by decide) (by decide) (by decide)).2.2.1]
  decide +kernel

end AssetSeed.Recipe
