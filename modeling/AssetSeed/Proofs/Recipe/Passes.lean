import AssetSeed.Proofs.Recipe.Blocks
import AssetSeed.Proofs.Text.Pieces

/-!
# Passes over a template

A pass cuts the whole text into lines and puts it together again, and the next pass finds the lines
that the one before it has left.

## Main definitions

* `Template.Unrelated` — two blocks that do not open each other.
* `Template.replacement` — what stands in the place of a line when two blocks are there.
* `Template.Vacant` — an indented line with nothing in it but the mark of a list item, if that.

## Main statements

* `Template.expandLines_comm` — unrelated blocks can be put in place in either order.
* `Template.expand_either_order` — so can they in a text, and all other lines stay.
* `Template.isPlaceholder_iff` — the lines that are dropped are vacant.
* `Template.dropEmptyLines_keeps` — all other lines stay, whatever their endings.
-/

namespace AssetSeed.Recipe.Template

open Text

/-! ## Two blocks -/

/-- Neither token begins with the other one, and no line of one block begins with the token of the
other one, wherever its white space ends. -/
structure Unrelated (a b : Block) : Prop where
  apart : ¬ a.1 <+: b.1 ∧ ¬ b.1 <+: a.1
  inert : ∀ l ∈ a.2, ¬ b.1 <+: trimStart l
  inert' : ∀ l ∈ b.2, ¬ a.1 <+: trimStart l

theorem Unrelated.symm {a b : Block} (unrelated : Unrelated a b) : Unrelated b a :=
  ⟨unrelated.apart.symm, unrelated.inert', unrelated.inert⟩

/-- The second block passes over the lines of the first one. -/
theorem Unrelated.expandLines_append {a b : Block} (unrelated : Unrelated a b)
    (line : List Char) (rest : List (List Char)) :
    expandLines b.1 b.2 (a.2.map (indentation line ++ ·) ++ rest) =
      a.2.map (indentation line ++ ·) ++ expandLines b.1 b.2 rest := by
  apply Template.expandLines_append
  rw [List.forall_mem_map]
  intro l mem
  have same : trimStart (indentation line ++ l) = trimStart l :=
    List.dropWhile_append_of_pos isBlank_of_mem_indentation
  rw [Bool.eq_false_iff]
  intro opened
  have starts := (opens_iff.1 opened).2
  rw [same] at starts
  exact unrelated.inert l mem starts

/-- Unrelated blocks can be put in place in either order. -/
theorem expandLines_comm {a b : Block} (unrelated : Unrelated a b) (ls : List (List Char)) :
    expandLines b.1 b.2 (expandLines a.1 a.2 ls) =
      expandLines a.1 a.2 (expandLines b.1 b.2 ls) := by
  -- Each line opens one of the two blocks at most, and no line of a block opens the other one.
  induction ls with
  | nil => rfl
  | cons line rest ih =>
    cases openedA : opens a.1 line with
    | true =>
      have unopened := opens_eq_false_of_apart unrelated.apart openedA
      rw [expandLines_cons_of_opens openedA, unrelated.expandLines_append,
        expandLines_cons_of_not unopened, expandLines_cons_of_opens openedA]
    | false =>
      rw [expandLines_cons_of_not openedA]
      cases openedB : opens b.1 line with
      | true =>
        rw [expandLines_cons_of_opens openedB, expandLines_cons_of_opens openedB,
          unrelated.symm.expandLines_append]
      | false =>
        rw [expandLines_cons_of_not openedB, expandLines_cons_of_not openedB,
          expandLines_cons_of_not openedA, ih]

/-! ## The place of each line -/

/-- Whether the line at a position is the first one that opens the block. -/
def opensAt (block : Block) (ls : List (List Char)) (i : Nat) : Bool :=
  ls.findIdx? (opens block.1) = some i

/-- What stands in the place of the line at a position: the block that it is the first one to open,
each line as far in as the line itself, or else the line. -/
def replacement (a b : Block) (ls : List (List Char)) (i : Nat) (line : List Char) :
    List (List Char) :=
  if opensAt a ls i then a.2.map (indentation line ++ ·)
  else if opensAt b ls i then b.2.map (indentation line ++ ·)
  else [line]

section

variable {a b block : Block} {line : List Char} {rest : List (List Char)}

theorem opensAt_zero : opensAt block (line :: rest) 0 = opens block.1 line := by
  cases opened : opens block.1 line <;> simp [opensAt, List.findIdx?_cons, opened]

theorem opensAt_succ (i : Nat) :
    opensAt block (line :: rest) (i + 1) = (!opens block.1 line && opensAt block rest i) := by
  cases opened : opens block.1 line <;> simp [opensAt, List.findIdx?_cons, opened]

theorem flatten_mapIdx_singleton {α : Type} (xs : List α) :
    (xs.mapIdx fun _ x => [x]).flatten = xs := by
  induction xs with
  | nil => rfl
  | cons x xs ih => rw [List.mapIdx_cons, List.flatten_cons, ih, List.singleton_append]

theorem expandLines_eq_flatten (block : Block) (ls : List (List Char)) :
    expandLines block.1 block.2 ls = (ls.mapIdx fun i line =>
      if opensAt block ls i then block.2.map (indentation line ++ ·) else [line]).flatten := by
  induction ls with
  | nil => rfl
  | cons line rest ih =>
    rw [List.mapIdx_cons, List.flatten_cons]
    simp only [opensAt_zero, opensAt_succ]
    cases opened : opens block.1 line with
    | true =>
      rw [expandLines_cons_of_opens opened, if_pos rfl]
      simp only [Bool.not_true, Bool.false_and, Bool.false_eq_true, if_false,
        flatten_mapIdx_singleton]
    | false =>
      rw [expandLines_cons_of_not opened, ih]
      simp only [Bool.not_false, Bool.true_and, Bool.false_eq_true, if_false, List.singleton_append]

theorem expandLines_expandLines (unrelated : Unrelated a b) (ls : List (List Char)) :
    expandLines b.1 b.2 (expandLines a.1 a.2 ls) = (ls.mapIdx (replacement a b ls)).flatten := by
  induction ls with
  | nil => rfl
  | cons line rest ih =>
    rw [List.mapIdx_cons, List.flatten_cons]
    unfold replacement at ih ⊢
    simp only [opensAt_zero, opensAt_succ]
    cases openedA : opens a.1 line with
    | true =>
      have unopened := opens_eq_false_of_apart unrelated.apart openedA
      rw [expandLines_cons_of_opens openedA, unrelated.expandLines_append, if_pos rfl,
        expandLines_eq_flatten]
      simp only [unopened, Bool.not_true, Bool.not_false, Bool.false_and, Bool.true_and,
        Bool.false_eq_true, if_false]
    | false =>
      rw [expandLines_cons_of_not openedA]
      cases openedB : opens b.1 line with
      | true =>
        rw [expandLines_cons_of_opens openedB, expandLines_eq_flatten]
        simp only [Bool.not_true, Bool.not_false, Bool.false_and, Bool.true_and,
          Bool.false_eq_true, if_false, if_true]
      | false =>
        rw [expandLines_cons_of_not openedB, ih]
        simp only [Bool.not_false, Bool.true_and, Bool.false_eq_true, if_false,
          List.singleton_append]

end

/-! ## Blocks in a text -/

/-- A pass finds the lines that the one before it has left. One empty line stands for none. -/
theorem expand_unlines {ls : List (List Char)} (lined : ∀ l ∈ ls, IsLine l) (token : List Char)
    (block : List (List Char)) :
    expand token block (unlines ls) = unlines (expandLines token block ls) := by
  rw [expand, lines_unlines lined]
  split
  · next none =>
    have unopened : expandLines token block [[]] = [[]] := rfl
    rw [none, unopened]
    rfl
  · rfl

/-- Unrelated blocks can be put in place in either order. The first line that opens a block gives
its place to the block, and every other line stays where it is. -/
theorem expand_either_order {a b : Block} (unrelated : Unrelated a b)
    (lined : ∀ l ∈ a.2 ++ b.2, IsLine l) {text : List Char} (unix : '\r' ∉ text) :
    let ls := lines text
    let both := unlines (ls.mapIdx (replacement a b ls)).flatten
    (∀ l ∈ ls, IsLine l) ∧ (terminated ls = text ∨ terminated ls = text ++ ['\n']) ∧
      expand b.1 b.2 (expand a.1 a.2 text) = both ∧
      expand a.1 a.2 (expand b.1 b.2 text) = both := by
  intro ls both
  obtain ⟨linedA, linedB⟩ := List.forall_mem_append.1 lined
  obtain ⟨whole, ends⟩ := lines_of_unix unix
  refine ⟨whole, ends, ?_, ?_⟩
  · calc expand b.1 b.2 (expand a.1 a.2 text)
      _ = unlines (expandLines b.1 b.2 (expandLines a.1 a.2 ls)) :=
        expand_unlines (isLine_expandLines linedA whole) b.1 b.2
      _ = both := by rw [expandLines_expandLines unrelated]
  · calc expand a.1 a.2 (expand b.1 b.2 text)
      _ = unlines (expandLines a.1 a.2 (expandLines b.1 b.2 ls)) :=
        expand_unlines (isLine_expandLines linedB whole) a.1 a.2
      _ = both := by rw [← expandLines_comm unrelated, expandLines_expandLines unrelated]

/-- One block is empty, and the other one has an empty line and a line that begins with its own
token. -/
theorem expand_either_order_emptyBlock :
    let text := "a:\n  __A__ x\n\n\t__B__\n  __A__".toList
    let block := [['b'], [], "__B__".toList]
    let both := "a:\n\n\tb\n\t\n\t__B__\n  __A__\n".toList
    expand "__B__".toList block (expand "__A__".toList [] text) = both ∧
      expand "__A__".toList [] (expand "__B__".toList block text) = both := by
  intro text block both
  have unrelated : Unrelated ("__A__".toList, []) ("__B__".toList, block) :=
    ⟨by decide, by decide, by decide⟩
  obtain ⟨-, -, first, second⟩ :=
    expand_either_order unrelated (by decide) (show '\r' ∉ text by decide)
  rw [first, second]
  decide +kernel

/-! ## Lines that have nothing left in them -/

/-- An indented line with nothing in it but the mark of a list item, if that. -/
def Vacant (line : List Char) : Prop :=
  ∃ indent mark rest, line = indent ++ (mark ++ rest) ∧ indent ≠ [] ∧ mark ∈ [[], ['-']] ∧
    (∀ c ∈ indent, isBlank c) ∧ ∀ c ∈ rest, isBlank c

theorem not_vacant_nil : ¬ Vacant [] := by
  rintro ⟨indent, mark, rest, same, indented, -⟩
  exact indented (List.append_eq_nil_iff.1 same.symm).1

theorem isPlaceholder_iff {line : List Char} : isPlaceholder line ↔ Vacant line := by
  have marks : isPlaceholder line ↔
      indentation line ≠ [] ∧ (trim line = [] ∨ trim line = ['-']) := by
    simp [isPlaceholder]
  rw [marks]
  constructor
  · rintro ⟨indented, trimmed⟩
    obtain ⟨before, after, split, blank, blank'⟩ := exists_trim line
    obtain empty | marked := trimmed
    · rw [empty, List.append_nil] at split
      refine ⟨line, [], [], by simp, ?_, by simp, ?_, List.forall_mem_nil _⟩
      · rintro rfl
        exact indented rfl
      · rw [split]
        exact List.forall_mem_append.2 ⟨blank, blank'⟩
    · rw [marked, List.append_assoc] at split
      refine ⟨before, ['-'], after, split, ?_, by simp, blank, blank'⟩
      rintro rfl
      rw [split] at indented
      exact indented rfl
  · rintro ⟨indent, mark, rest, rfl, some, marked, blank, blank'⟩
    have either : mark = [] ∨ mark = ['-'] := by simpa using marked
    have visible : ∀ c ∈ mark, isBlank c = false := by
      obtain rfl | rfl := either
      · exact List.forall_mem_nil _
      · exact List.forall_mem_singleton.2 (by decide)
    rw [trim_append blank visible blank', indentation, List.takeWhile_append_of_pos blank]
    exact ⟨List.append_ne_nil_of_left_ne_nil some _, either⟩

instance (line : List Char) : Decidable (Vacant line) :=
  decidable_of_iff _ isPlaceholder_iff

/-- What is vacant without the carriage return at its end was vacant with it. -/
theorem Vacant.of_chomp {line : List Char} (vacant : Vacant (chomp line)) : Vacant line := by
  obtain same | returned := chomp_eq_or line
  · rwa [same] at vacant
  · obtain ⟨indent, mark, rest, same, indented, marked, blank, blank'⟩ := vacant
    refine ⟨indent, mark, rest ++ ['\r'], ?_, indented, marked, blank, ?_⟩
    · rw [returned, same]
      simp
    · exact List.forall_mem_append.2 ⟨blank', List.forall_mem_singleton.2 (by decide)⟩

/-- Of the lines of a text, those that are vacant are dropped, and all others stay as they are. What
is left is read again as the same lines, without the carriage returns at their ends, and no line has
become vacant by that. One empty line stands for none. -/
theorem dropEmptyLines_keeps (text : List Char) :
    let kept := (lines text).filter fun l => ¬ Vacant l
    let shown := if kept = [] then [[]] else kept
    Cuts text (lines text) ∧ dropEmptyLines text = terminated shown ∧
      (dropEmptyLines text).getLast? = some '\n' ∧
      Cuts (dropEmptyLines text) (shown.map chomp) ∧ (∀ l ∈ shown.map chomp, ¬ Vacant l) ∧
      ¬ Vacant [] := by
  intro kept shown
  have dropped : dropEmptyLines text = unlines kept := by
    refine congrArg unlines (List.filter_congr fun l _ => ?_)
    simp [← isPlaceholder_iff]
  have ended : dropEmptyLines text = terminated shown := dropped.trans (unlines_eq kept)
  have shown_row : ∀ row ∈ shown, '\n' ∉ row ∧ ¬ Vacant row := by
    intro row mem
    by_cases none : kept = []
    · simp only [shown, none, if_true, List.mem_singleton] at mem
      rw [mem]
      exact ⟨List.not_mem_nil, not_vacant_nil⟩
    · simp only [shown, none, if_false] at mem
      obtain ⟨found, filled⟩ := List.mem_filter.1 mem
      exact ⟨notMem_of_mem_lines found, by simpa using filled⟩
  refine ⟨cuts_iff.2 rfl, ended, ?_, ?_, ?_, not_vacant_nil⟩
  · rw [dropped, unlines]
    simp
  · exact ⟨shown, [], by rw [ended, List.append_nil], fun row mem => (shown_row row mem).1,
      List.not_mem_nil, by simp⟩
  · rw [List.forall_mem_map]
    intro row mem vacant
    exact (shown_row row mem).2 vacant.of_chomp

/-- A carriage return is part of a line unless a line feed follows. -/
example : dropEmptyLines "a:\r\n  -\u00a0\r\n\t\n\r\n  - b\r\r\n\r\r\n".toList =
    "a:\n\n  - b\r\n".toList := by
  decide +kernel

end AssetSeed.Recipe.Template
