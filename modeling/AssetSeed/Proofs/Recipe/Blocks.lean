import AssetSeed.Proofs.Text.Lines
import AssetSeed.Recipe.Template

/-!
# Blocks in the lines of a template

Blocks are put in place one after the other, and each time all lines are gone through. It comes to
the same as going through the lines once, since no line of a block opens another one.

## Main definitions

* `Template.opens` — a line opens the block of a token.
* `Template.pending` — the blocks that no line has opened before.
* `Template.contribution` — what becomes of a line, given the lines before it.
* `Template.contributions` — what becomes of all of them.
* `Template.Independent` — blocks that do not get in each other's way.
* `Template.WellFormed` — blocks that have lines, and whose lines are lines.
* `Template.expandAll` — all blocks put in place, one after the other.

## Main statements

* `Template.contribution_congr` — a line has to know no more of those before it than which blocks
  they open.
* `Template.Independent.filter_expandAll` — independent blocks can be put in place line by line.
-/

namespace AssetSeed.Recipe.Template

open Text

/-- A token, and the lines that it stands for. -/
abbrev Block := List Char × List (List Char)

/-- Whether a line is indented and goes on with the token. -/
def opens (token line : List Char) : Bool :=
  (opening? token line).isSome

def isWhite (line : List Char) : Bool :=
  line.all isBlank

/-- The blocks that no line has opened before. -/
def pending (blocks : List Block) (before : List (List Char)) : List Block :=
  blocks.filter fun block => !before.any (opens block.1)

/-- What becomes of a line. The first one that opens a block gives its place to it. -/
def contribution (blocks : List Block) (before : List (List Char)) (line : List Char) :
    List (List Char) :=
  match (pending blocks before).find? fun block => opens block.1 line with
  | some block => (block.2.map (indentation line ++ ·)).filter fun l => !isWhite l
  | none => if isPlaceholder line then [] else [line]

/-- What becomes of lines, one by one, if others stand before them. -/
def contributions (blocks : List Block) : (before ls : List (List Char)) → List (List Char)
  | _, [] => []
  | before, line :: rest =>
    contribution blocks before line ++ contributions blocks (before ++ [line]) rest

theorem contribution_congr {blocks : List Block} {before before' : List (List Char)}
    (same : ∀ block ∈ blocks, before.any (opens block.1) = before'.any (opens block.1))
    (line : List Char) : contribution blocks before line = contribution blocks before' line := by
  have stay : pending blocks before = pending blocks before' :=
    List.filter_congr fun block mem => congrArg (!·) (same block mem)
  rw [contribution, contribution, stay]

/-- A line of a block begins with something that neither is passed over nor begins a token or an
item of a list, unless it is empty. -/
def startsPlain (l : List Char) : Bool :=
  l.head?.all fun c => !isBlank c && c ≠ '_' && c ≠ '-'

theorem startsPlain_cons {c : Char} {l : List Char} :
    startsPlain (c :: l) ↔ isBlank c = false ∧ c ≠ '_' ∧ c ≠ '-' := by
  simp [startsPlain, and_assoc]

theorem startsPlain_append {a : List Char} (plain : startsPlain a) (some : a ≠ [])
    (b : List Char) : startsPlain (a ++ b) := by
  obtain ⟨c, l, rfl⟩ := List.exists_cons_of_ne_nil some
  exact startsPlain_cons.2 (startsPlain_cons.1 plain)

/-- Blocks whose tokens begin with an underscore, and in whose lines no token stands at the
beginning. -/
structure Independent (blocks : List Block) : Prop where
  marked : ∀ block ∈ blocks, block.1.head? = some '_'
  apart : blocks.Pairwise fun a b => ¬ a.1 <+: b.1 ∧ ¬ b.1 <+: a.1
  plain : ∀ block ∈ blocks, ∀ l ∈ block.2, startsPlain l

/-- Blocks that have lines, in which no line ends. -/
def WellFormed (blocks : List Block) : Prop :=
  ∀ block ∈ blocks, block.2 ≠ [] ∧ ∀ l ∈ block.2, IsLine l

/-! ## Lines that open blocks -/

section

variable {token line : List Char}

theorem opens_iff :
    opens token line ↔ (indentation line).isEmpty = false ∧ token <+: trimStart line := by
  rw [opens, opening?, ← List.isPrefixOf_iff_prefix]
  cases (indentation line).isEmpty <;> cases token.isPrefixOf (trimStart line) <;> simp

theorem opening?_of_opens (opened : opens token line) :
    opening? token line = some (indentation line) := by
  obtain ⟨indented, starts⟩ := opens_iff.1 opened
  rw [opening?, indented, List.isPrefixOf_iff_prefix.2 starts]
  rfl

theorem opening?_of_not (unopened : opens token line = false) : opening? token line = none :=
  Option.isNone_iff_eq_none.1 (by rw [← Option.not_isSome, ← opens, unopened]; rfl)

variable {block rest : List (List Char)}

theorem expandLines_cons_of_opens (opened : opens token line) :
    expandLines token block (line :: rest) = block.map (indentation line ++ ·) ++ rest := by
  rw [expandLines, opening?_of_opens opened]

theorem expandLines_cons_of_not (unopened : opens token line = false) :
    expandLines token block (line :: rest) = line :: expandLines token block rest := by
  rw [expandLines, opening?_of_not unopened]

theorem expandLines_append {before : List (List Char)}
    (unopened : ∀ l ∈ before, opens token l = false) :
    expandLines token block (before ++ rest) = before ++ expandLines token block rest := by
  induction before with
  | nil => rfl
  | cons l before ih =>
    obtain ⟨first, others⟩ := List.forall_mem_cons.1 unopened
    rw [List.cons_append, expandLines_cons_of_not first]
    exact congrArg (l :: ·) (ih others)

end

/-- No line opens two blocks if none of the tokens begins with the other one. -/
theorem opens_eq_false_of_apart {a b line : List Char} (apart : ¬ a <+: b ∧ ¬ b <+: a)
    (opened : opens a line) : opens b line = false := by
  rw [Bool.eq_false_iff]
  intro opened'
  obtain before | before := List.prefix_or_prefix_of_prefix (opens_iff.1 opened).2
    (opens_iff.1 opened').2
  · exact apart.1 before
  · exact apart.2 before

/-! ## Lines of blocks -/

section

variable {indent l : List Char}

theorem trimStart_append (blank : ∀ c ∈ indent, isBlank c) (plain : startsPlain l) :
    trimStart (indent ++ l) = l := by
  rw [trimStart, List.dropWhile_append_of_pos blank]
  cases l with
  | nil => rfl
  | cons c l =>
    have visible : isBlank c = false := (startsPlain_cons.1 plain).1
    rw [List.dropWhile_cons_of_neg (by rw [visible]; exact Bool.false_ne_true)]

theorem opens_append_eq_false {token : List Char} (marked : token.head? = some '_')
    (blank : ∀ c ∈ indent, isBlank c) (plain : startsPlain l) :
    opens token (indent ++ l) = false := by
  rw [Bool.eq_false_iff]
  intro opened
  obtain ⟨token, rfl⟩ := List.head?_eq_some_iff.1 marked
  obtain ⟨rest, begins⟩ := (opens_iff.1 opened).2
  rw [trimStart_append blank plain] at begins
  subst begins
  exact (startsPlain_cons.1 plain).2.1 rfl

theorem trimEnd_cons {c : Char} (visible : isBlank c = false) (l : List Char) :
    ∃ rest, trimEnd (c :: l) = c :: rest := by
  rw [trimEnd, List.reverse_cons, List.dropWhile_append]
  split
  · rw [List.dropWhile_cons_of_neg (by rw [visible]; exact Bool.false_ne_true)]
    exact ⟨[], rfl⟩
  · rw [List.reverse_append]
    exact ⟨_, rfl⟩

/-- A line of a block is dropped if and only if there is nothing in it. -/
theorem isPlaceholder_append (some : indent ≠ []) (blank : ∀ c ∈ indent, isBlank c)
    (plain : startsPlain l) : isPlaceholder (indent ++ l) = isWhite (indent ++ l) := by
  have indented : (indentation (indent ++ l)).isEmpty = false := by
    rw [indentation, List.takeWhile_append_of_pos blank, List.isEmpty_eq_false_iff]
    exact List.append_ne_nil_of_left_ne_nil some _
  have white : isWhite (indent ++ l) = isWhite l := by
    rw [isWhite, isWhite, List.all_append, List.all_eq_true.2 blank, Bool.true_and]
  rw [isPlaceholder, indented, trim, trimStart_append blank plain, white]
  cases l with
  | nil => rfl
  | cons c l =>
    obtain ⟨visible, -, unlisted⟩ := startsPlain_cons.1 plain
    obtain ⟨rest, trimmed⟩ := trimEnd_cons visible l
    rw [trimmed, isWhite, List.all_cons, visible]
    simp [unlisted]

theorem isBlank_of_mem_indentation {line : List Char} : ∀ c ∈ indentation line, isBlank c :=
  List.all_eq_true.1 (List.all_takeWhile)

end

theorem isLine_indentation {line : List Char} (lined : IsLine line) : IsLine (indentation line) :=
  ⟨fun mem => lined.1 ((List.takeWhile_prefix _).subset mem),
    fun mem => lined.2 ((List.takeWhile_prefix _).subset mem)⟩

theorem isLine_expandLines {token : List Char} {block ls : List (List Char)}
    (blockLined : ∀ l ∈ block, IsLine l) (lined : ∀ l ∈ ls, IsLine l) :
    ∀ l ∈ expandLines token block ls, IsLine l := by
  induction ls with
  | nil => exact List.forall_mem_nil _
  | cons line rest ih =>
    obtain ⟨first, others⟩ := List.forall_mem_cons.1 lined
    cases opened : opens token line with
    | true =>
      rw [expandLines_cons_of_opens opened]
      refine List.forall_mem_append.2 ⟨List.forall_mem_map.2 fun l mem => ?_, others⟩
      exact isLine_append.2 ⟨isLine_indentation first, blockLined l mem⟩
    | false =>
      rw [expandLines_cons_of_not opened]
      exact List.forall_mem_cons.2 ⟨first, ih others⟩

/-! ## One block after the other -/

/-- All blocks put in place, one after the other. -/
def expandAll (blocks : List Block) (ls : List (List Char)) : List (List Char) :=
  blocks.foldl (fun ls block => expandLines block.1 block.2 ls) ls

theorem expandAll_nil (blocks : List Block) : expandAll blocks [] = [] := by
  induction blocks with
  | nil => rfl
  | cons block blocks ih => exact ih

theorem expandAll_append {blocks : List Block} {before : List (List Char)}
    (unopened : ∀ block ∈ blocks, ∀ l ∈ before, opens block.1 l = false)
    (rest : List (List Char)) :
    expandAll blocks (before ++ rest) = before ++ expandAll blocks rest := by
  induction blocks generalizing rest with
  | nil => rfl
  | cons block blocks ih =>
    obtain ⟨first, others⟩ := List.forall_mem_cons.1 unopened
    rw [expandAll, List.foldl_cons, expandLines_append first]
    exact ih others _

/-- A line that opens a block gives its place to it, and the other blocks are left for the lines
after it. -/
theorem expandAll_cons_of_opens {first last : List Block} {block : Block} {line : List Char}
    (opened : opens block.1 line) (unopened : ∀ other ∈ first, opens other.1 line = false)
    (inert : ∀ other ∈ last, ∀ l ∈ block.2, opens other.1 (indentation line ++ l) = false)
    (rest : List (List Char)) :
    expandAll (first ++ block :: last) (line :: rest) =
      block.2.map (indentation line ++ ·) ++ expandAll (first ++ last) rest := by
  have start : expandAll first ([line] ++ rest) = [line] ++ expandAll first rest :=
    expandAll_append (fun other mem => List.forall_mem_singleton.2 (unopened other mem)) rest
  calc expandAll (first ++ block :: last) (line :: rest)
    _ = expandAll last (expandLines block.1 block.2 (expandAll first (line :: rest))) := by
      rw [expandAll, List.foldl_append]
      rfl
    _ = expandAll last (block.2.map (indentation line ++ ·) ++ expandAll first rest) := by
      rw [← expandLines_cons_of_opens opened]
      exact congrArg (fun ls => expandAll last (expandLines block.1 block.2 ls)) start
    _ = block.2.map (indentation line ++ ·) ++ expandAll last (expandAll first rest) :=
      expandAll_append (fun other mem => List.forall_mem_map.2 (inert other mem)) _
    _ = block.2.map (indentation line ++ ·) ++ expandAll (first ++ last) rest := by
      rw [expandAll, expandAll, expandAll, List.foldl_append]

theorem pending_append (blocks : List Block) (before : List (List Char)) (line : List Char) :
    pending blocks (before ++ [line]) =
      (pending blocks before).filter fun block => !opens block.1 line := by
  rw [pending, pending, List.filter_filter]
  refine List.filter_congr fun block _ => ?_
  rw [List.any_append, Bool.not_or, Bool.and_comm, List.any_cons, List.any_nil, Bool.or_false]

theorem pending_append_of_unopened {blocks : List Block} {before : List (List Char)}
    {line : List Char} (unopened : ∀ block ∈ pending blocks before, opens block.1 line = false) :
    pending blocks (before ++ [line]) = pending blocks before := by
  rw [pending_append]
  exact List.filter_eq_self.2 fun block mem => by rw [unopened block mem]; rfl

namespace Independent

variable {blocks : List Block} (independent : Independent blocks) {before : List (List Char)}
  {block : Block} {line : List Char}
include independent

/-- A line opens no more than one block. -/
theorem pending_append_of_opens {first last : List Block}
    (split : pending blocks before = first ++ block :: last) (opened : opens block.1 line)
    (unopened : ∀ other ∈ first, opens other.1 line = false) :
    pending blocks (before ++ [line]) = first ++ last := by
  have apart : (first ++ block :: last).Pairwise fun a b => ¬ a.1 <+: b.1 ∧ ¬ b.1 <+: a.1 :=
    split ▸ independent.apart.filter _
  have later : ∀ other ∈ last, opens other.1 line = false := fun other mem =>
    opens_eq_false_of_apart ((List.pairwise_cons.1 (List.pairwise_append.1 apart).2.1).1 other mem)
      opened
  rw [pending_append, split, List.filter_append,
    List.filter_cons_of_neg (by rw [opened]; exact Bool.false_ne_true),
    List.filter_eq_self.2 fun other mem => by rw [unopened other mem]; rfl,
    List.filter_eq_self.2 fun other mem => by rw [later other mem]; rfl]

/-- No line of a block opens a block. -/
theorem inert {other : Block} (known : block ∈ blocks) (known' : other ∈ blocks) :
    ∀ l ∈ block.2, opens other.1 (indentation line ++ l) = false := fun l mem =>
  opens_append_eq_false (independent.marked other known') isBlank_of_mem_indentation
    (independent.plain block known l mem)

theorem filter_block (known : block ∈ blocks) (opened : opens block.1 line) :
    (block.2.map (indentation line ++ ·)).filter (fun l => !isPlaceholder l) =
      (block.2.map (indentation line ++ ·)).filter fun l => !isWhite l := by
  have indented : indentation line ≠ [] := List.isEmpty_eq_false_iff.1 (opens_iff.1 opened).1
  refine List.filter_congr (List.forall_mem_map.2 fun l mem => ?_)
  rw [isPlaceholder_append indented isBlank_of_mem_indentation
    (independent.plain block known l mem)]

/-- Independent blocks can be put in place line by line. -/
theorem filter_expandAll (before ls : List (List Char)) :
    (expandAll (pending blocks before) ls).filter (fun l => !isPlaceholder l) =
      contributions blocks before ls := by
  -- The lines gone through already are known by the blocks that they left pending.
  induction ls generalizing before with
  | nil => rw [expandAll_nil]; rfl
  | cons line rest ih =>
    rw [contributions, ← ih, contribution]
    cases found : (pending blocks before).find? fun block => opens block.1 line with
    | none =>
      have unopened : ∀ block ∈ pending blocks before, opens block.1 line = false :=
        fun block mem => Bool.eq_false_iff.2 (List.find?_eq_none.1 found block mem)
      have stays : expandAll (pending blocks before) (line :: rest) =
          [line] ++ expandAll (pending blocks before) rest :=
        expandAll_append (fun block mem => List.forall_mem_singleton.2 (unopened block mem)) rest
      rw [pending_append_of_unopened unopened, stays, List.filter_append]
      refine congrArg (· ++ _) ?_
      cases empty : isPlaceholder line <;> simp [empty]
    | some block =>
      obtain ⟨opened, first, last, split, earlier⟩ := List.find?_eq_some_iff_append.1 found
      have unopened : ∀ other ∈ first, opens other.1 line = false := fun other mem => by
        simpa using earlier other mem
      have known : ∀ other ∈ first ++ block :: last, other ∈ blocks := fun other mem =>
        (List.mem_filter.1 (split ▸ mem)).1
      have here : block ∈ blocks := known block (List.mem_append_right _ List.mem_cons_self)
      have inert : ∀ other ∈ last, ∀ l ∈ block.2, opens other.1 (indentation line ++ l) = false :=
        fun other mem => independent.inert here
          (known other (List.mem_append_right _ (List.mem_cons_of_mem _ mem)))
      rw [independent.pending_append_of_opens split opened unopened, split,
        expandAll_cons_of_opens opened unopened inert, List.filter_append,
        independent.filter_block here opened]

end Independent

end AssetSeed.Recipe.Template
