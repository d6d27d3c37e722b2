import AssetSeed.Proofs.Text.Lowercase
import AssetSeed.Proofs.Text.Pieces
import AssetSeed.Text.Slug

/-!
# What slugs are made of

A slug is put together from runs of lowercase letters and digits. It keeps the letters and digits of
the text that it is cut from, and it is its own slug.

## Main definitions

* `Text.isSlugLetter` — lowercase letters and digits.
* `Text.IsSlug` — runs of them with one hyphen between each two.

## Main statements

* `Text.IsSlug.hyphens` — no hyphen is at an end of a slug or next to another one.
* `Text.isSlug_slugChars` — what is cut from a text is a slug.
* `Text.IsSlug.slugChars_eq` — a slug is its own slug.
* `Text.slug_canonical` — all of it for the slug of a name.
-/

namespace AssetSeed.Text

/-! ## Letters and digits -/

/-- The lowercase letters and the digits. -/
def isSlugLetter (c : Char) : Bool :=
  isDigit c || ('a' ≤ c && c ≤ 'z')

theorem isSlugLetter_iff {c : Char} : isSlugLetter c ↔
    (48 ≤ c.toNat ∧ c.toNat ≤ 57) ∨ (97 ≤ c.toNat ∧ c.toNat ≤ 122) := by
  simp only [isSlugLetter, isDigit, Bool.or_eq_true, Bool.and_eq_true, decide_eq_true_eq]
  exact Iff.rfl

theorem isAlphanumeric_iff {c : Char} : isAlphanumeric c ↔
    isSlugLetter c ∨ (65 ≤ c.toNat ∧ c.toNat ≤ 90) := by
  simp only [isAlphanumeric, isSlugLetter, Bool.or_eq_true, Bool.and_eq_true, decide_eq_true_eq]
  exact Iff.rfl

theorem isAlphanumeric_of_isSlugLetter {c : Char} (h : isSlugLetter c) : isAlphanumeric c :=
  isAlphanumeric_iff.2 (.inl h)

theorem ne_hyphen_of_isSlugLetter {c : Char} (h : isSlugLetter c) : c ≠ '-' := by
  rintro rfl
  exact absurd h (by decide)

/-- A character keeps its form, or a letter is left of it. -/
theorem foldAccent_eq_or (c : Char) : foldAccent c = c ∨ isSlugLetter (foldAccent c) := by
  unfold foldAccent
  split <;> first | exact .inl rfl | exact .inr (by decide)

/-- Nothing that is its own lowercase is a capital. -/
theorem isSlugLetter_of_settled {c : Char} (settled : Lowercase.Settled c)
    (h : isAlphanumeric c) : isSlugLetter c := by
  have small : ¬ Lowercase.Run.contains ⟨0x41, 0x5a, 1, 32⟩ c.toNat :=
    settled _ (by decide +kernel)
  obtain letter | capital := isAlphanumeric_iff.1 h
  · exact letter
  · exact absurd (Lowercase.contains_iff.2 ⟨capital.1, capital.2, Nat.mod_one _⟩) small

theorem isSlugLetter_of_mem_folded {s : List Char} {c : Char} (mem : c ∈ folded s)
    (h : isAlphanumeric c) : isSlugLetter c := by
  obtain ⟨d, lowered, rfl⟩ := List.mem_map.1 mem
  obtain same | letter := foldAccent_eq_or d
  · rw [same] at h ⊢
    exact isSlugLetter_of_settled (settled_of_mem_lower lowered) h
  · exact letter

/-! ## Slugs -/

/-- Not empty, and made of lowercase letters and digits. -/
def IsRun (run : List Char) : Prop :=
  run ≠ [] ∧ ∀ c ∈ run, isSlugLetter c

/-- Runs of lowercase letters and digits, with one hyphen between each two. -/
def IsSlug (s : List Char) : Prop :=
  ∃ runs, s = joinWith ['-'] runs ∧ ∀ run ∈ runs, IsRun run

theorem split_runs {runs : List (List Char)} (some : runs ≠ []) (all : ∀ run ∈ runs, IsRun run) :
    split (· = '-') (joinWith ['-'] runs) = runs := by
  apply split_joinWith some
  intro run mem hyphen
  exact ne_hyphen_of_isSlugLetter ((all run mem).2 _ hyphen) rfl

namespace IsSlug

variable {s : List Char} (isSlug : IsSlug s)

include isSlug

theorem isSlugLetter_or {c : Char} (mem : c ∈ s) : isSlugLetter c ∨ c = '-' := by
  obtain ⟨runs, rfl, all⟩ := isSlug
  obtain hyphen | ⟨run, found, mem⟩ := mem_joinWith mem
  · exact .inr (List.mem_singleton.1 hyphen)
  · exact .inl ((all run found).2 c mem)

/-- There is something on both sides of a hyphen. -/
theorem ne_nil_of_eq {before after : List Char} (same : s = before ++ '-' :: after) :
    [] ∉ split (· = '-') before ∧ [] ∉ split (· = '-') after := by
  obtain ⟨runs, joined, all⟩ := isSlug
  have some : runs ≠ [] := by
    rintro rfl
    simp [same, joinWith] at joined
  have parts : split (· = '-') before ++ split (· = '-') after = runs := by
    rw [← split_append_sep (c := '-') (by simp), ← same, joined, split_runs some all]
  have filled : [] ∉ runs := fun mem => (all [] mem).1 rfl
  simpa [← parts] using filled

/-- No hyphen is at an end or next to another one. -/
theorem hyphens : s.head? ≠ some '-' ∧ s.getLast? ≠ some '-' ∧ ¬ ['-', '-'] <:+: s := by
  refine ⟨?_, ?_, ?_⟩
  · intro leading
    obtain ⟨after, same⟩ := List.head?_eq_some_iff.1 leading
    have begins : s = [] ++ '-' :: after := same
    exact (isSlug.ne_nil_of_eq begins).1 (by simp [split])
  · intro trailing
    obtain ⟨before, same⟩ := List.getLast?_eq_some_iff.1 trailing
    exact (isSlug.ne_nil_of_eq same).2 (by simp [split])
  · rintro ⟨before, after, same⟩
    have doubled : s = before ++ '-' :: ('-' :: after) := by simp [← same]
    exact (isSlug.ne_nil_of_eq doubled).2 (by simp [split])

theorem folded_eq : folded s = s := by
  have all : ∀ n < 128, isSlugLetter (Char.ofNat n) ∨ Char.ofNat n = '-' →
      foldAccent (Char.ofNat n).toLower = Char.ofNat n := by
    decide +kernel
  have ascii : ∀ c ∈ s, c.toNat < 128 := by
    intro c mem
    obtain letter | rfl := isSlug.isSlugLetter_or mem
    · rw [isSlugLetter_iff] at letter
      omega
    · decide
  have kept : s.map (foldAccent ∘ Char.toLower) = s.map id := by
    apply List.map_congr_left
    intro c mem
    simpa using all c.toNat (ascii c mem) (by simpa using isSlug.isSlugLetter_or mem)
  rw [folded, lower_of_ascii ascii, List.map_map, kept, List.map_id]

/-- A slug is its own slug. -/
theorem slugChars_eq : slugChars s = s := by
  have seps : ∀ c ∈ s, (!isAlphanumeric c) = decide (c = '-') := by
    intro c mem
    obtain letter | rfl := isSlug.isSlugLetter_or mem
    · simp [isAlphanumeric_of_isSlugLetter letter, ne_hyphen_of_isSlugLetter letter]
    · decide
  rw [slugChars, isSlug.folded_eq, words, split_congr seps]
  obtain ⟨runs, rfl, all⟩ := isSlug
  by_cases some : runs = []
  · rw [some]
    rfl
  · rw [split_runs some all, List.filter_eq_self.2]
    intro run mem
    simpa using (all run mem).1

end IsSlug

/-! ## Slugs of texts -/

theorem flatten_words (s : List Char) : (words s).flatten = s.filter isAlphanumeric := by
  rw [words, List.flatten_filter_not_isEmpty, flatten_split]
  simp

theorem isSlug_slugChars (s : List Char) : IsSlug (slugChars s) := by
  refine ⟨words (folded s), rfl, ?_⟩
  intro run found
  constructor
  · simpa using (List.mem_filter.1 found).2
  · intro c mem
    have kept : c ∈ (words (folded s)).flatten := List.mem_flatten_of_mem found mem
    rw [flatten_words, List.mem_filter] at kept
    exact isSlugLetter_of_mem_folded kept.1 kept.2

theorem filter_slugChars (s : List Char) :
    (slugChars s).filter isAlphanumeric = (folded s).filter isAlphanumeric := by
  rw [slugChars, filter_joinWith (by decide), ← List.filter_flatten, flatten_words,
    List.filter_filter]
  simp

theorem IsSlug.eq_nil_of_filter {s : List Char} (isSlug : IsSlug s)
    (none : s.filter isAlphanumeric = []) : s = [] := by
  cases s with
  | nil => rfl
  | cons c rest =>
    have other := List.filter_eq_nil_iff.1 none c List.mem_cons_self
    obtain letter | rfl := isSlug.isSlugLetter_or List.mem_cons_self
    · exact absurd (isAlphanumeric_of_isSlugLetter letter) other
    · exact absurd rfl isSlug.hyphens.1

theorem slugChars_eq_nil_iff {s : List Char} :
    slugChars s = [] ↔ ∀ c ∈ folded s, isAlphanumeric c = false := by
  have none_iff : (slugChars s).filter isAlphanumeric = [] ↔
      ∀ c ∈ folded s, isAlphanumeric c = false := by
    rw [filter_slugChars, List.filter_eq_nil_iff]
    simp only [Bool.not_eq_true]
  rw [← none_iff]
  constructor
  · intro empty
    rw [empty]
    rfl
  · exact (isSlug_slugChars s).eq_nil_of_filter

/-- The slug of a name is a slug. It has the letters and digits of the name in lowercase and without
accents, so it is empty if there are none, and it is its own slug. -/
theorem slug_canonical (name : String) :
    let text := (lower name.toList).map foldAccent
    let cut := (slug name).toList
    IsSlug cut ∧
      (cut.head? ≠ some '-' ∧ cut.getLast? ≠ some '-' ∧ ¬ ['-', '-'] <:+: cut ∧
        ∀ c ∈ cut, isSlugLetter c ∨ c = '-') ∧
      (slug name = "" ↔ ∀ c ∈ text, isAlphanumeric c = false) ∧
      cut.filter isAlphanumeric = text.filter isAlphanumeric ∧
      slug (slug name) = slug name := by
  intro text cut
  have chars : cut = slugChars name.toList := String.toList_ofList
  have isSlug : IsSlug cut := chars ▸ isSlug_slugChars name.toList
  obtain ⟨leading, trailing, doubled⟩ := isSlug.hyphens
  refine ⟨isSlug, ⟨leading, trailing, doubled, fun c => isSlug.isSlugLetter_or⟩, ?_, ?_, ?_⟩
  · rw [← String.toList_eq_nil_iff, slug, String.toList_ofList]
    exact slugChars_eq_nil_iff
  · rw [chars]
    exact filter_slugChars name.toList
  · calc slug (slug name)
      _ = String.ofList (slugChars cut) := rfl
      _ = String.ofList cut := by rw [isSlug.slugChars_eq]
      _ = slug name := String.ofList_toList

/-- A capital whose lowercase has two characters, a letter that keeps its stroke and hyphens in a
row. -/
example : slug " İzmir--Żółć & Søn " = "i-zmir-zolc-son" := by
  decide +kernel

end AssetSeed.Text
