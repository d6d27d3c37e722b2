import Mathlib.Data.List.Infix
import Mathlib.Logic.Function.Basic
import AssetSeed.Proofs.Text.Occurrences
import AssetSeed.Recipe.Template

/-!
# Layouts of templates

A template is laid out as texts with placeholders between them. Where the placeholders stand apart
from each other, exchanging one of them for a word does to the layout what it should: the
placeholder is shown as the word wherever it stands, and all else stays. It takes an invariant on
where two underscores in a row can be, since each exchange joins the texts around the placeholder.

## Main definitions

* `Template.Layout` — texts with placeholders between them.
* `Template.Layout.shown` — the text of a layout with something in place of each placeholder.
* `Template.Layout.Spaced` — a layout whose placeholders stand apart.
* `Template.Vocabulary` — placeholders that can be told from each other.
* `Template.Settled` — each placeholder is shown as itself or as a word without underscores.

## Main statements

* `Template.Layout.Spaced.replace_shown` — one placeholder is exchanged.
* `Template.Layout.Spaced.not_isInfix_shown` — a placeholder for which a word is shown does not
  occur.
* `Template.Layout.Spaced.fill_shown` — all placeholders are exchanged, one after the other.
-/

namespace AssetSeed.Recipe.Template

open Text

/-- What placeholders begin and end with. -/
def mark : List Char :=
  ['_', '_']

def nameOf (token : List Char) : List Char :=
  (token.drop 2).take (token.length - 4)

/-- A name between two marks. No mark can be found in the name, nor at its ends, and no white
space. -/
structure IsPlaceholder (token : List Char) : Prop where
  marked : token = mark ++ (nameOf token ++ mark)
  single : ¬ mark <:+: nameOf token
  begins : (nameOf token).head?.any (· ≠ '_')
  ends : (nameOf token).getLast? ≠ some '_'
  solid : ¬ (nameOf token).any isBlank

instance (token : List Char) : Decidable (IsPlaceholder token) :=
  decidable_of_iff (token = mark ++ (nameOf token ++ mark) ∧ ¬ mark <:+: nameOf token ∧
      (nameOf token).head?.any (· ≠ '_') ∧ (nameOf token).getLast? ≠ some '_' ∧
      ¬ (nameOf token).any isBlank)
    ⟨fun ⟨marked, single, begins, ends, solid⟩ => ⟨marked, single, begins, ends, solid⟩,
      fun ⟨marked, single, begins, ends, solid⟩ => ⟨marked, single, begins, ends, solid⟩⟩

/-- Placeholders that can be told from each other. -/
structure Vocabulary (tokens : List (List Char)) : Prop where
  isPlaceholder : ∀ token ∈ tokens, IsPlaceholder token
  apart : ∀ a ∈ tokens, ∀ b ∈ tokens, a <+: b → a = b

/-- Texts with placeholders between them. -/
inductive Layout where
  | text (s : List Char)
  | placed (s token : List Char) (rest : Layout)

namespace Layout

/-- The text of a layout, with something in place of each placeholder. -/
def shown (value : List Char → List Char) : Layout → List Char
  | text s => s
  | placed s token rest => s ++ (value token ++ rest.shown value)

def first : Layout → List Char
  | text s => s
  | placed s _ _ => s

def texts : Layout → List (List Char)
  | text s => [s]
  | placed s _ rest => s :: rest.texts

def tokens : Layout → List (List Char)
  | text _ => []
  | placed _ token rest => token :: rest.tokens

/-- A layout whose placeholders stand apart. -/
structure Spaced (known : List (List Char)) (layout : Layout) : Prop where
  known : ∀ token ∈ layout.tokens, token ∈ known
  /-- Two underscores in a row are a part of a placeholder. -/
  single : ∀ s ∈ layout.texts, ¬ mark <:+: s
  /-- No underscore stands right before a placeholder. -/
  before : ∀ s ∈ layout.texts.dropLast, s.getLast? ≠ some '_'
  /-- No underscore stands right after a placeholder. -/
  after : ∀ s ∈ layout.texts.tail, s.head? ≠ some '_'
  /-- There is white space between two placeholders. -/
  between : ∀ s ∈ layout.texts.tail.dropLast, s.any isBlank

end Layout

/-- Each placeholder is shown as itself or as a word without underscores. -/
def Settled (known : List (List Char)) (value : List Char → List Char) : Prop :=
  ∀ token ∈ known, value token = token ∨ '_' ∉ value token

/-! ## Pieces that avoid a placeholder -/

section

variable {token piece rest : List Char}

theorem mark_isPrefix_cons {c : Char} {l : List Char} :
    mark <+: c :: l ↔ c = '_' ∧ l.head? = some '_' := by
  cases l with
  | nil => simp [mark, List.prefix_cons_iff]
  | cons d l => simp [mark, List.cons_prefix_cons, eq_comm]

theorem avoids_text (marked : mark <+: token) (single : ¬ mark <:+: piece)
    (apart : piece.getLast? ≠ some '_' ∨ rest.head? ≠ some '_') : Avoids token piece rest := by
  induction piece with
  | nil => trivial
  | cons c piece ih =>
    have tail : ¬ mark <:+: piece := fun occurs =>
      single (occurs.trans (List.suffix_cons c piece).isInfix)
    cases piece with
    | nil =>
      refine ⟨fun begins => ?_, trivial⟩
      obtain ⟨rfl, next⟩ := mark_isPrefix_cons.1 (marked.trans begins)
      exact apart.elim (· rfl) (· next)
    | cons d piece =>
      refine ⟨fun begins => ?_, ih tail apart⟩
      obtain ⟨rfl, next⟩ := mark_isPrefix_cons.1 (marked.trans begins)
      exact single (List.IsPrefix.isInfix (mark_isPrefix_cons.2 ⟨rfl, next⟩))

theorem avoids_of_notMem (marked : mark <+: token) (plain : '_' ∉ piece) :
    Avoids token piece rest := by
  refine avoids_text marked (fun occurs => ?_) (.inl fun last => plain (List.mem_of_getLast? last))
  exact plain (occurs.subset List.mem_cons_self)

namespace IsPlaceholder

theorem isPrefix (isPlaceholder : IsPlaceholder token) : mark <+: token :=
  ⟨_, isPlaceholder.marked.symm⟩

theorem ne_nil (isPlaceholder : IsPlaceholder token) : token ≠ [] := by
  rw [isPlaceholder.marked]
  exact List.cons_ne_nil _ _

/-- An occurrence of a placeholder begins neither in another one, nor at the mark that ends it. -/
theorem avoids {other : List Char} (isPlaceholder : IsPlaceholder token)
    (isOther : IsPlaceholder other) (apart : ¬ token <+: other ∧ ¬ other <+: token)
    (next : rest.head? ≠ some '_') (unnamed : ¬ nameOf token ++ mark <+: rest) :
    Avoids token other rest := by
  obtain ⟨c, starts, plain⟩ := (Option.any_eq_true _ _).1 isOther.begins
  have start : (nameOf other ++ (mark ++ rest)).head? = some c := by
    rw [List.head?_append, starts, Option.some_or]
  have whole : ¬ token <+: mark ++ (nameOf other ++ (mark ++ rest)) := fun begins => by
    have same : other ++ rest = mark ++ (nameOf other ++ (mark ++ rest)) :=
      (congrArg (· ++ rest) isOther.marked).trans (by simp only [List.append_assoc])
    rw [← same] at begins
    exact (List.prefix_or_prefix_of_prefix begins (List.prefix_append other rest)).elim apart.1
      apart.2
  have opening : Avoids token mark (nameOf other ++ (mark ++ rest)) := by
    refine ⟨whole, fun begins => ?_, trivial⟩
    have second := (mark_isPrefix_cons.1 (isPlaceholder.isPrefix.trans begins)).2
    exact of_decide_eq_true plain (Option.some_inj.1 (start.symm.trans second))
  have name : Avoids token (nameOf other) (mark ++ rest) :=
    avoids_text isPlaceholder.isPrefix isOther.single (.inl isOther.ends)
  have closing : Avoids token mark rest := by
    refine ⟨fun begins => ?_, fun begins => ?_, trivial⟩
    · rw [isPlaceholder.marked] at begins
      exact unnamed ((List.prefix_append_right_inj mark).1 begins)
    · exact next (mark_isPrefix_cons.1 (isPlaceholder.isPrefix.trans begins)).2
  rw [isOther.marked, avoids_append, avoids_append, List.append_assoc]
  exact ⟨opening, name, closing⟩

end IsPlaceholder

end

theorem Vocabulary.avoids {known : List (List Char)} (vocabulary : Vocabulary known)
    {token other rest : List Char} (mem : token ∈ known) (mem' : other ∈ known)
    (differs : other ≠ token) (next : rest.head? ≠ some '_')
    (unnamed : ¬ nameOf token ++ mark <+: rest) : Avoids token other rest := by
  have apart : ¬ token <+: other ∧ ¬ other <+: token :=
    ⟨fun begins => differs (vocabulary.apart token mem other mem' begins).symm,
      fun begins => differs (vocabulary.apart other mem' token mem begins)⟩
  exact (vocabulary.isPlaceholder token mem).avoids (vocabulary.isPlaceholder other mem') apart next
    unnamed

namespace Layout

variable {known : List (List Char)} {value : List Char → List Char} {layout rest : Layout}
  {s token : List Char}

/-! ## Layouts piece by piece -/

theorem exists_texts_eq (layout : Layout) : ∃ more, layout.texts = layout.first :: more := by
  cases layout with
  | text s => exact ⟨[], rfl⟩
  | placed s token rest => exact ⟨rest.texts, rfl⟩

namespace Spaced

theorem tail (spaced : Spaced known (placed s token rest)) : Spaced known rest := by
  obtain ⟨more, texts⟩ := rest.exists_texts_eq
  have inner : ∀ s ∈ more.dropLast, s ∈ (rest.first :: more).dropLast := by
    cases more with
    | nil => exact List.forall_mem_nil _
    | cons s more => exact fun _ mem => List.mem_cons_of_mem _ mem
  obtain ⟨known, single, before, after, between⟩ := spaced
  simp only [Layout.texts, texts, List.dropLast_cons_cons, List.tail_cons]
    at single before after between
  constructor
  case known => exact fun token mem => known token (List.mem_cons_of_mem _ mem)
  all_goals rw [texts]
  case single => exact fun s mem => single s (List.mem_cons_of_mem _ mem)
  case before => exact fun s mem => before s (List.mem_cons_of_mem _ mem)
  case after => exact fun s mem => after s (List.mem_cons_of_mem _ mem)
  case between => exact fun s mem => between s (inner s mem)

/-- What follows a placeholder begins with a text that is not empty, unless it ends there. -/
theorem exists_shown_eq (spaced : Spaced known (placed s token rest))
    (value : List Char → List Char) :
    ∃ more, rest.shown value = rest.first ++ more ∧ (more = [] ∨ rest.first.any isBlank) := by
  cases rest with
  | text s => exact ⟨[], (List.append_nil s).symm, .inl rfl⟩
  | placed s token rest =>
    obtain ⟨more, texts⟩ := rest.exists_texts_eq
    refine ⟨_, rfl, .inr (spaced.between s ?_)⟩
    simp only [Layout.texts, texts, List.tail_cons, List.dropLast_cons_cons]
    exact List.mem_cons_self

/-- What follows a placeholder neither begins with an underscore nor completes a mark to another
placeholder. -/
theorem next (spaced : Spaced known (placed s token rest)) {name : List Char}
    (solid : ¬ name.any isBlank) (value : List Char → List Char) :
    (rest.shown value).head? ≠ some '_' ∧ ¬ name ++ mark <+: rest.shown value := by
  obtain ⟨texts, split⟩ := rest.exists_texts_eq
  have mem : rest.first ∈ (placed s token rest).texts.tail := by
    rw [Layout.texts, List.tail_cons, split]
    exact List.mem_cons_self
  have single : ¬ mark <:+: rest.first := spaced.single _ (List.mem_of_mem_tail mem)
  obtain ⟨more, shown, ends | blank⟩ := spaced.exists_shown_eq value
  · rw [shown, ends, List.append_nil]
    exact ⟨spaced.after _ mem, fun begins => single ((List.suffix_append name mark).isInfix.trans
      begins.isInfix)⟩
  · obtain ⟨c, inside, blank⟩ := List.any_eq_true.1 blank
    rw [shown]
    refine ⟨?_, fun begins => ?_⟩
    · obtain ⟨d, l, first⟩ := List.exists_cons_of_ne_nil (List.ne_nil_of_mem inside)
      have start := spaced.after _ mem
      rwa [first] at start ⊢
    · obtain within | beyond := List.prefix_or_prefix_of_prefix begins
        (List.prefix_append rest.first more)
      · exact single ((List.suffix_append name mark).isInfix.trans within.isInfix)
      · have visible : ¬ (name ++ mark).any isBlank := by
          rw [List.any_append, Bool.or_eq_true, not_or]
          exact ⟨solid, by decide⟩
        exact visible (List.any_eq_true.2 ⟨c, beyond.subset inside, blank⟩)

end Spaced

/-! ## Exchanging placeholders -/

section

variable (vocabulary : Vocabulary known)
include vocabulary

theorem Spaced.avoids_first (mem : token ∈ known) {other : List Char}
    (spaced : Spaced known (placed s other rest)) :
    Avoids token s (value other ++ rest.shown value) := by
  obtain ⟨more, texts⟩ := rest.exists_texts_eq
  have before : s.getLast? ≠ some '_' := by
    refine spaced.before s ?_
    rw [Layout.texts, texts, List.dropLast_cons_cons]
    exact List.mem_cons_self
  exact avoids_text (vocabulary.isPlaceholder token mem).isPrefix
    (spaced.single s List.mem_cons_self) (.inl before)

variable (settled : Settled known value) (mem : token ∈ known)
include settled mem

theorem Spaced.avoids_value {other : List Char} (spaced : Spaced known (placed s other rest))
    (differs : other ≠ token ∨ '_' ∉ value token) :
    Avoids token (value other) (rest.shown value) := by
  have isPlaceholder := vocabulary.isPlaceholder token mem
  have mem' : other ∈ known := spaced.known other List.mem_cons_self
  obtain plain | same := (settled other mem').symm
  · exact avoids_of_notMem isPlaceholder.isPrefix plain
  · have differs : other ≠ token := differs.elim id fun plain => by
      rintro rfl
      rw [same, isPlaceholder.marked] at plain
      exact plain List.mem_cons_self
    obtain ⟨next, unnamed⟩ := spaced.next isPlaceholder.solid value
    rw [same]
    exact vocabulary.avoids mem mem' differs next unnamed

/-- One placeholder is exchanged for a word. -/
theorem Spaced.replace_shown (spaced : Spaced known layout) (itself : value token = token)
    {word : List Char} :
    replace token word (layout.shown value) =
      layout.shown (Function.update value token word) := by
  have isPlaceholder := vocabulary.isPlaceholder token mem
  induction layout with
  | text s =>
    have avoids : Avoids token s [] :=
      avoids_text isPlaceholder.isPrefix (spaced.single s List.mem_cons_self)
        (.inr (Option.some_ne_none '_').symm)
    have stays : replace token word (s ++ []) = s ++ [] := avoids.replace_append
    rwa [List.append_nil] at stays
  | placed s other rest ih =>
    rw [shown, shown, (spaced.avoids_first vocabulary mem).replace_append]
    refine congrArg (s ++ ·) ?_
    by_cases same : other = token
    · rw [same, itself, replace_token_append isPlaceholder.ne_nil, ih spaced.tail,
        Function.update_self]
    · rw [(spaced.avoids_value vocabulary settled mem (.inl same)).replace_append,
        ih spaced.tail, Function.update_of_ne same]

/-- A placeholder for which a word is shown does not occur any more. -/
theorem Spaced.not_isInfix_shown (spaced : Spaced known layout) (plain : '_' ∉ value token) :
    ¬ token <:+: layout.shown value := by
  have isPlaceholder := vocabulary.isPlaceholder token mem
  induction layout with
  | text s =>
    exact fun occurs => spaced.single s List.mem_cons_self
      (isPlaceholder.isPrefix.isInfix.trans occurs)
  | placed s other rest ih =>
    rw [shown, (spaced.avoids_first vocabulary mem).isInfix_append_iff,
      (spaced.avoids_value vocabulary settled mem (.inr plain)).isInfix_append_iff]
    exact ih spaced.tail

end

end Layout

/-! ## Exchanging all placeholders -/

/-- What is shown for a placeholder if some are given words. -/
def wordOr (words : List (List Char × List Char)) (value : List Char → List Char)
    (token : List Char) : List Char :=
  (words.lookup token).getD (value token)

theorem wordOr_cons {token word : List Char} {words : List (List Char × List Char)}
    {value : List Char → List Char} (fresh : token ∉ words.map Prod.fst) :
    wordOr words (Function.update value token word) = wordOr ((token, word) :: words) value := by
  funext other
  rw [wordOr, wordOr, List.lookup_cons]
  by_cases same : other = token
  · subst same
    have none : words.lookup other = none := List.lookup_eq_none_iff.2 fun entry mem =>
      bne_iff_ne.2 fun same => fresh (same ▸ List.mem_map_of_mem mem)
    simp [none]
  · rw [beq_eq_false_iff_ne.2 same, Function.update_of_ne same]

theorem mem_iff_lookup_eq_some {words : List (List Char × List Char)}
    (nodup : (words.map Prod.fst).Nodup) {token word : List Char} :
    (token, word) ∈ words ↔ words.lookup token = some word := by
  induction words with
  | nil => simp
  | cons entry words ih =>
    obtain ⟨fresh, nodup⟩ := List.nodup_cons.1 nodup
    rw [List.mem_cons, List.lookup_cons, ih nodup]
    by_cases same : token = entry.1
    · have absent : words.lookup token ≠ some word := fun found =>
        fresh (same ▸ List.mem_map_of_mem ((ih nodup).2 found))
      rw [or_iff_left absent, beq_iff_eq.2 same, Option.some_inj, Prod.ext_iff, and_iff_right same]
      exact eq_comm
    · rw [beq_eq_false_iff_ne.2 same, or_iff_right (mt (congrArg Prod.fst) same)]

/-- In which order words are given makes no difference. -/
theorem wordOr_perm {words words' : List (List Char × List Char)} (perm : words.Perm words')
    (nodup : (words.map Prod.fst).Nodup) (value : List Char → List Char) :
    wordOr words value = wordOr words' value := by
  have nodup' : (words'.map Prod.fst).Nodup := (perm.map Prod.fst).nodup_iff.1 nodup
  funext token
  have same : words.lookup token = words'.lookup token := Option.ext fun word => by
    rw [← mem_iff_lookup_eq_some nodup, ← mem_iff_lookup_eq_some nodup', perm.mem_iff]
  rw [wordOr, wordOr, same]

theorem Settled.update {known : List (List Char)} {value : List Char → List Char}
    (settled : Settled known value) {token word : List Char} (plain : '_' ∉ word) :
    Settled known (Function.update value token word) := by
  intro other mem
  by_cases same : other = token
  · rw [same, Function.update_self]
    exact .inr plain
  · rw [Function.update_of_ne same]
    exact settled other mem

/-- Once all words are given, a placeholder is shown as itself if it is given none. -/
theorem settled_wordOr {known : List (List Char)} {words : List (List Char × List Char)}
    (plain : ∀ entry ∈ words, '_' ∉ entry.2) : Settled known (wordOr words id) := by
  intro token _
  rw [wordOr]
  cases found : words.lookup token with
  | none => exact .inl rfl
  | some word =>
    obtain ⟨before, after, rfl, -⟩ := List.lookup_eq_some_iff.1 found
    exact .inr (plain (token, word) (List.mem_append_right _ List.mem_cons_self))

/-- All placeholders that are given words are exchanged, one after the other. -/
theorem Layout.Spaced.fill_shown {known : List (List Char)} (vocabulary : Vocabulary known)
    {layout : Layout} (spaced : layout.Spaced known) {words : List (List Char × List Char)}
    (nodup : (words.map Prod.fst).Nodup)
    (words_known : ∀ entry ∈ words, entry.1 ∈ known ∧ '_' ∉ entry.2)
    {value : List Char → List Char} (settled : Settled known value)
    (itself : ∀ entry ∈ words, value entry.1 = entry.1) :
    fill (layout.shown value) words = layout.shown (wordOr words value) := by
  -- The words given so far are a part of `value`; those that remain are shown as placeholders.
  induction words generalizing value with
  | nil => rfl
  | cons entry words ih =>
    obtain ⟨token, word⟩ := entry
    obtain ⟨fresh, nodup⟩ := List.nodup_cons.1 nodup
    obtain ⟨⟨mem, plain⟩, words_known⟩ := List.forall_mem_cons.1 words_known
    obtain ⟨first, itself⟩ := List.forall_mem_cons.1 itself
    have still : ∀ entry ∈ words, Function.update value token word entry.1 = entry.1 :=
      fun entry mem => by
        have mapped : entry.1 ∈ words.map Prod.fst := List.mem_map_of_mem mem
        rw [Function.update_of_ne (ne_of_mem_of_not_mem mapped fresh)]
        exact itself entry mem
    calc fill (layout.shown value) ((token, word) :: words)
      _ = fill (replace token word (layout.shown value)) words := rfl
      _ = fill (layout.shown (Function.update value token word)) words := by
        rw [spaced.replace_shown vocabulary settled mem first]
      _ = layout.shown (wordOr words (Function.update value token word)) :=
        ih nodup words_known (settled.update plain) still
      _ = layout.shown (wordOr ((token, word) :: words) value) := by rw [wordOr_cons fresh]

end AssetSeed.Recipe.Template
