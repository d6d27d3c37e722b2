import AssetSeed.Text.Pieces
import Mathlib.Data.List.TakeWhile

/-!
# Rows of characters, cuts and trims

## Main definitions

* `Text.Stops` — a text does not begin with a character of a class.
* `Text.Consumes` — a text is what is left of another one behind characters of a class.

## Main statements

* `Text.takeWhile_append`, `Text.dropWhile_append` — how far a row of characters goes.
* `Text.cut?_eq_some_iff`, `Text.cut?_eq_none_iff` — the two sides of the first separator.
* `Text.exists_trim`, `Text.trim_append` — a text is trimmed of the white space around it.
* `Text.split_joinWith` — pieces are found again between the separators.
* `Text.flatten_split`, `Text.filter_joinWith` — what is left of a text when the separators are taken
  out.
-/

namespace AssetSeed.Text

/-! ## Rows of characters -/

/-- The text does not begin with a character of the class. -/
def Stops (cls : Char → Bool) (s : List Char) : Prop :=
  ∀ c ∈ s.head?, cls c = false

section

variable {cls : Char → Bool} {row rest : List Char}

theorem stops_nil : Stops cls [] := nofun

theorem stops_cons {c : Char} {s : List Char} : Stops cls (c :: s) ↔ cls c = false := by
  simp [Stops]

theorem takeWhile_of_stops (stops : Stops cls rest) : rest.takeWhile cls = [] := by
  cases rest with
  | nil => rfl
  | cons c rest => simp [stops_cons.1 stops]

theorem dropWhile_of_stops (stops : Stops cls rest) : rest.dropWhile cls = rest := by
  cases rest with
  | nil => rfl
  | cons c rest => simp [stops_cons.1 stops]

theorem takeWhile_append (all : ∀ c ∈ row, cls c) (stops : Stops cls rest) :
    (row ++ rest).takeWhile cls = row := by
  rw [List.takeWhile_append_of_pos all, takeWhile_of_stops stops, List.append_nil]

theorem dropWhile_append (all : ∀ c ∈ row, cls c) (stops : Stops cls rest) :
    (row ++ rest).dropWhile cls = rest := by
  rw [List.dropWhile_append_of_pos all, dropWhile_of_stops stops]

/-- What stands in front of `rest` are characters of the class. -/
def Consumes (cls : Char → Bool) (s rest : List Char) : Prop :=
  ∃ row, s = row ++ rest ∧ ∀ c ∈ row, cls c

namespace Consumes

variable {s t u : List Char}

theorem refl (s : List Char) : Consumes cls s s :=
  ⟨[], rfl, nofun⟩

theorem trans (first : Consumes cls s t) (second : Consumes cls t u) : Consumes cls s u := by
  obtain ⟨row, rfl, all⟩ := first
  obtain ⟨row', rfl, all'⟩ := second
  exact ⟨row ++ row', by simp, List.forall_mem_append.2 ⟨all, all'⟩⟩

theorem cons {c : Char} (h : cls c) (later : Consumes cls s t) : Consumes cls (c :: s) t :=
  trans ⟨[c], rfl, List.forall_mem_singleton.2 h⟩ later

theorem mono {wider : Char → Bool} (h : Consumes cls s t) (le : ∀ c, cls c → wider c) :
    Consumes wider s t := by
  obtain ⟨row, rfl, all⟩ := h
  exact ⟨row, rfl, fun c mem => le c (all c mem)⟩

theorem dropWhile (s : List Char) : Consumes cls s (s.dropWhile cls) :=
  ⟨s.takeWhile cls, List.takeWhile_append_dropWhile.symm, fun _ => List.mem_takeWhile_imp⟩

theorem forall_mem (h : Consumes cls s []) : ∀ c ∈ s, cls c := by
  obtain ⟨row, rfl, all⟩ := h
  simpa using all

end Consumes

end

/-! ## Cuts -/

theorem cut?_eq_none_iff {sep : Char} {s : List Char} : cut? sep s = none ↔ sep ∉ s := by
  induction s with
  | nil => simp [cut?]
  | cons c s ih =>
    by_cases here : c = sep
    · simp [cut?, here]
    · simp [cut?, here, ih, Ne.symm here]

theorem cut?_eq_some_iff {sep : Char} {s left right : List Char} :
    cut? sep s = some (left, right) ↔ s = left ++ sep :: right ∧ sep ∉ left := by
  induction s generalizing left with
  | nil => simp [cut?]
  | cons c s ih =>
    by_cases here : c = sep
    · cases left with
      | nil => simp [cut?, here]
      | cons d left =>
        simp only [cut?, List.cons_append, List.cons.injEq, List.mem_cons, here]
        grind
    · cases left with
      | nil => simp [cut?, here]
      | cons d left =>
        simp only [cut?, if_neg here, Option.map_eq_some_iff, Prod.exists]
        grind

/-! ## Trims -/

/-- Printed characters are not white space. -/
theorem isBlank_eq_false {c : Char} (low : 33 ≤ c.toNat) (high : c.toNat ≤ 126) :
    isBlank c = false := by
  simp only [isBlank, CharClass.contains, blanks, List.any_eq_false]
  simp
  omega

theorem isBlank_of_isHexDigit {c : Char} (h : isHexDigit c) : isBlank c = false := by
  simp only [isHexDigit, isDigit, Bool.or_eq_true, Bool.and_eq_true, decide_eq_true_eq] at h
  have codes : ((48 ≤ c.toNat ∧ c.toNat ≤ 57) ∨ 97 ≤ c.toNat ∧ c.toNat ≤ 102) ∨
    65 ≤ c.toNat ∧ c.toNat ≤ 70 := h
  exact isBlank_eq_false (by omega) (by omega)

/-- A text is what is left of it when it is trimmed, with white space around. -/
theorem exists_trim (s : List Char) : ∃ before after, s = before ++ trim s ++ after ∧
    (∀ c ∈ before, isBlank c) ∧ ∀ c ∈ after, isBlank c := by
  have start : s = s.takeWhile isBlank ++ trimStart s := List.takeWhile_append_dropWhile.symm
  have ending : trimStart s = trim s ++ ((trimStart s).reverse.takeWhile isBlank).reverse := by
    rw [trim, trimEnd, ← List.reverse_append, List.takeWhile_append_dropWhile, List.reverse_reverse]
  refine ⟨s.takeWhile isBlank, ((trimStart s).reverse.takeWhile isBlank).reverse, ?_,
    fun _ => List.mem_takeWhile_imp, fun c mem => ?_⟩
  · rw [List.append_assoc, ← ending]
    exact start
  · exact List.mem_takeWhile_imp (List.mem_reverse.1 mem)

/-- What is left of a text without white space when white space around it is trimmed. -/
theorem trim_append {before s after : List Char} (blank : ∀ c ∈ before, isBlank c)
    (visible : ∀ c ∈ s, isBlank c = false) (blank' : ∀ c ∈ after, isBlank c) :
    trim (before ++ (s ++ after)) = s := by
  cases s with
  | nil =>
    have all : ∀ c ∈ before ++ ([] ++ after), isBlank c := List.forall_mem_append.2 ⟨blank, blank'⟩
    rw [trim, trimStart, List.dropWhile_eq_nil_iff.2 all]
    rfl
  | cons c s =>
    have first : Stops isBlank (c :: s ++ after) := stops_cons.2 (visible c List.mem_cons_self)
    have last : Stops isBlank (c :: s).reverse := fun d mem =>
      visible d (List.mem_reverse.1 (List.mem_of_mem_head? mem))
    have blank'' : ∀ c ∈ after.reverse, isBlank c := fun d mem => blank' d (List.mem_reverse.1 mem)
    rw [trim, trimStart, dropWhile_append blank first, trimEnd, List.reverse_append,
      dropWhile_append blank'' last, List.reverse_reverse]

/-! ## Pieces between separators -/

theorem split_append_cons {sep : Char} {piece : List Char} (whole : sep ∉ piece)
    (rest : List Char) :
    split (· = sep) (piece ++ sep :: rest) = piece :: split (· = sep) rest := by
  induction piece with
  | nil => simp [split]
  | cons c piece ih =>
    obtain ⟨other, whole⟩ := not_or.1 (mt List.mem_cons.2 whole)
    rw [List.cons_append, split, ih whole, if_neg (by simpa using Ne.symm other)]

theorem split_of_not_mem {sep : Char} {piece : List Char} (whole : sep ∉ piece) :
    split (· = sep) piece = [piece] := by
  induction piece with
  | nil => rfl
  | cons c piece ih =>
    obtain ⟨other, whole⟩ := not_or.1 (mt List.mem_cons.2 whole)
    rw [split, ih whole, if_neg (by simpa using Ne.symm other)]

theorem split_ne_nil (sep : Char → Bool) (s : List Char) : split sep s ≠ [] := by
  fun_cases split sep s <;> simp

theorem split_append_sep {sep : Char → Bool} {c : Char} (isSep : sep c) (s t : List Char) :
    split sep (s ++ c :: t) = split sep s ++ split sep t := by
  induction s with
  | nil => simp [split, isSep]
  | cons d s ih =>
    rw [List.cons_append, split, split, ih]
    split
    · rfl
    · obtain ⟨piece, pieces, cut⟩ := List.exists_cons_of_ne_nil (split_ne_nil sep s)
      rw [cut]
      rfl

theorem flatten_split {α : Type} (sep : α → Bool) (s : List α) :
    (split sep s).flatten = s.filter fun c => !sep c := by
  induction s with
  | nil => rfl
  | cons c s ih =>
    by_cases isSep : sep c
    · simp [split, isSep, ih]
    · rw [split, if_neg isSep, List.filter_cons_of_pos (by simpa using isSep), ← ih]
      split
      · next none => simp [none]
      · next piece pieces cut => simp [cut]

theorem split_congr {α : Type} {sep sep' : α → Bool} {s : List α} (same : ∀ c ∈ s, sep c = sep' c) :
    split sep s = split sep' s := by
  induction s with
  | nil => rfl
  | cons c s ih =>
    obtain ⟨first, same⟩ := List.forall_mem_cons.1 same
    simp only [split, first, ih same]

theorem joinWith_cons_cons (sep piece next : List Char) (pieces : List (List Char)) :
    joinWith sep (piece :: next :: pieces) = piece ++ sep ++ joinWith sep (next :: pieces) :=
  rfl

/-- Pieces are found again between the separators. -/
theorem split_joinWith {sep : Char} {pieces : List (List Char)} (some : pieces ≠ [])
    (whole : ∀ piece ∈ pieces, sep ∉ piece) : split (· = sep) (joinWith [sep] pieces) = pieces := by
  induction pieces with
  | nil => exact absurd rfl some
  | cons piece pieces ih =>
    obtain ⟨first, whole⟩ := List.forall_mem_cons.1 whole
    cases pieces with
    | nil => exact split_of_not_mem first
    | cons next pieces =>
      rw [joinWith_cons_cons, List.append_assoc, List.singleton_append, split_append_cons first,
        ih (List.cons_ne_nil _ _) whole]

theorem joinWith_concat {sep : List Char} {pieces : List (List Char)} (some : pieces ≠ [])
    (last : List Char) : joinWith sep (pieces ++ [last]) = joinWith sep pieces ++ sep ++ last := by
  induction pieces with
  | nil => exact absurd rfl some
  | cons piece pieces ih =>
    cases pieces with
    | nil => rfl
    | cons next pieces =>
      have more := ih (List.cons_ne_nil _ _)
      rw [List.cons_append] at more
      rw [List.cons_append, List.cons_append, joinWith_cons_cons, more, joinWith_cons_cons]
      simp only [List.append_assoc]

theorem mem_joinWith {sep : List Char} {pieces : List (List Char)} {c : Char}
    (mem : c ∈ joinWith sep pieces) : c ∈ sep ∨ ∃ piece ∈ pieces, c ∈ piece := by
  induction pieces with
  | nil => cases mem
  | cons piece pieces ih =>
    cases pieces with
    | nil => exact .inr ⟨piece, List.mem_cons_self, mem⟩
    | cons next pieces =>
      rw [joinWith_cons_cons, List.mem_append, List.mem_append] at mem
      obtain (here | between) | later := mem
      · exact .inr ⟨piece, List.mem_cons_self, here⟩
      · exact .inl between
      · obtain between | ⟨found, mem, here⟩ := ih later
        · exact .inl between
        · exact .inr ⟨found, List.mem_cons_of_mem _ mem, here⟩

theorem filter_joinWith {p : Char → Bool} {sep : List Char} (none : sep.filter p = [])
    (pieces : List (List Char)) :
    (joinWith sep pieces).filter p = (pieces.map (List.filter p)).flatten := by
  induction pieces with
  | nil => rfl
  | cons piece pieces ih =>
    cases pieces with
    | nil => simp [joinWith]
    | cons next pieces => simp [joinWith_cons_cons, none, ih]

end AssetSeed.Text
