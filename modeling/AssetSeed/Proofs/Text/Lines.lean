import AssetSeed.Text.Pieces

/-!
# Texts line by line

A line ends at a line feed, and a carriage return in front of it belongs to the ending. A text whose
lines all end in a line feed is cut into these lines, and exchanging a token in it exchanges the
token in each line.

## Main definitions

* `Text.IsLine` — no line ends within the text.
* `Text.terminated` — lines with a line feed after each.
* `Text.chomp` — a row without the carriage return at its end.
* `Text.Cuts` — a text and its lines.

## Main statements

* `Text.cuts_iff` — the lines that a text is cut into, whatever its line endings.
* `Text.lines_of_unix` — the lines of a text without carriage returns.
* `Text.exists_terminated` — a text without carriage returns that ends in a line feed.
* `Text.lines_terminated` — the lines of a text are the lines that it was put together from.
* `Text.replace_terminated` — a token without line feeds is exchanged line by line.
-/

namespace AssetSeed.Text

/-- No line ends within the text. -/
def IsLine (l : List Char) : Prop :=
  '\n' ∉ l ∧ '\r' ∉ l

theorem isLine_cons {c : Char} {l : List Char} :
    IsLine (c :: l) ↔ (c ≠ '\n' ∧ c ≠ '\r') ∧ IsLine l := by
  grind [IsLine]

theorem isLine_iff_forall {l : List Char} : IsLine l ↔ ∀ c ∈ l, c ≠ '\n' ∧ c ≠ '\r' := by
  grind [IsLine]

theorem isLine_iff_all {l : List Char} :
    IsLine l ↔ l.all fun c => c.toNat ≠ 10 && c.toNat ≠ 13 := by
  have feed (c : Char) : c ≠ '\n' ↔ c.toNat ≠ 10 := not_congr Char.toNat_inj.symm
  have carriage (c : Char) : c ≠ '\r' ↔ c.toNat ≠ 13 := not_congr Char.toNat_inj.symm
  induction l with
  | nil => simp [IsLine]
  | cons c l ih => simp [isLine_cons, ih, feed, carriage]

/-- Numbers are compared faster than characters. -/
instance (l : List Char) : Decidable (IsLine l) :=
  decidable_of_iff _ isLine_iff_all.symm

/-- Lines with a line feed after each. -/
def terminated (ls : List (List Char)) : List Char :=
  ls.flatMap (· ++ ['\n'])

theorem terminated_cons (l : List Char) (ls : List (List Char)) :
    terminated (l :: ls) = l ++ '\n' :: terminated ls := by
  rw [terminated, List.flatMap_cons, List.append_assoc]
  rfl

@[simp] theorem isLine_nil : IsLine [] := by decide

@[simp] theorem isLine_append {a b : List Char} : IsLine (a ++ b) ↔ IsLine a ∧ IsLine b := by
  grind [IsLine]

/-! ## Rows and their endings -/

/-- The row without the carriage return that it may end with. -/
def chomp (row : List Char) : List Char :=
  if row.getLast? = some '\r' then row.dropLast else row

theorem chomp_cons_cons (c d : Char) (row : List Char) :
    chomp (c :: d :: row) = c :: chomp (d :: row) := by
  rw [chomp, chomp, List.getLast?_cons_cons, List.dropLast_cons_cons]
  split <;> rfl

theorem chomp_of_notMem {row : List Char} (unix : '\r' ∉ row) : chomp row = row := by
  rw [chomp, if_neg]
  intro last
  exact unix (List.mem_of_getLast? last)

theorem chomp_eq_or (row : List Char) : chomp row = row ∨ row = chomp row ++ ['\r'] := by
  rw [chomp]
  split
  · next last =>
    obtain ⟨front, rfl⟩ := List.getLast?_eq_some_iff.1 last
    exact .inr (by simp)
  · exact .inl rfl

theorem lines_append_feed {row : List Char} (whole : '\n' ∉ row) (rest : List Char) :
    lines (row ++ '\n' :: rest) = chomp row :: lines rest := by
  induction row with
  | nil => rfl
  | cons c row ih =>
    obtain ⟨other, whole⟩ := not_or.1 (mt List.mem_cons.2 whole)
    cases row with
    | nil =>
      by_cases returns : c = '\r'
      · rw [returns]
        rfl
      · have last : [c].getLast? ≠ some '\r' := by simpa using returns
        rw [chomp, if_neg last, List.cons_append, List.nil_append, lines]
        · rfl
        · intro _ same _
          exact returns same
        · exact fun same => other same.symm
    | cons d row =>
      rw [chomp_cons_cons, List.cons_append, lines, ih whole]
      · intro _ _ same
        exact whole (List.mem_cons.2 (.inl (List.cons.inj same).1.symm))
      · exact fun same => other same.symm

theorem lines_of_notMem {last : List Char} (whole : '\n' ∉ last) :
    lines last = if last = [] then [] else [last] := by
  induction last with
  | nil => rfl
  | cons c last ih =>
    obtain ⟨other, whole⟩ := not_or.1 (mt List.mem_cons.2 whole)
    rw [lines, ih whole]
    · cases last <;> rfl
    · intro _ _ same
      exact whole (same ▸ List.mem_cons_self)
    · exact fun same => other same.symm

theorem lines_terminated_append {rows : List (List Char)} {last : List Char}
    (whole : ∀ row ∈ rows, '\n' ∉ row) (whole' : '\n' ∉ last) :
    lines (terminated rows ++ last) = rows.map chomp ++ if last = [] then [] else [last] := by
  induction rows with
  | nil => exact lines_of_notMem whole'
  | cons row rows ih =>
    obtain ⟨first, whole⟩ := List.forall_mem_cons.1 whole
    rw [terminated_cons, List.append_assoc, List.cons_append, lines_append_feed first, ih whole]
    rfl

/-- Only the last row of a text may lack a line feed. -/
theorem exists_rows (s : List Char) :
    ∃ rows last, (∀ row ∈ rows, '\n' ∉ row) ∧ '\n' ∉ last ∧ s = terminated rows ++ last := by
  induction s with
  | nil => exact ⟨[], [], List.forall_mem_nil _, List.not_mem_nil, rfl⟩
  | cons c s ih =>
    obtain ⟨rows, last, whole, whole', rfl⟩ := ih
    by_cases ends : c = '\n'
    · refine ⟨[] :: rows, last, List.forall_mem_cons.2 ⟨List.not_mem_nil, whole⟩, whole', ?_⟩
      rw [ends]
      rfl
    · have longer {row : List Char} (whole : '\n' ∉ row) : '\n' ∉ c :: row := by
        simp [whole, Ne.symm ends]
      cases rows with
      | nil => exact ⟨[], c :: last, List.forall_mem_nil _, longer whole', rfl⟩
      | cons row rows =>
        obtain ⟨first, whole⟩ := List.forall_mem_cons.1 whole
        exact ⟨(c :: row) :: rows, last, List.forall_mem_cons.2 ⟨longer first, whole⟩, whole', rfl⟩

/-- The text is cut into the lines: a line feed, or a carriage return and a line feed, ends a line,
and what is behind the last line feed is a line if it is not empty. -/
def Cuts (s : List Char) (ls : List (List Char)) : Prop :=
  ∃ rows last, s = terminated rows ++ last ∧ (∀ row ∈ rows, '\n' ∉ row) ∧ '\n' ∉ last ∧
    ls = rows.map chomp ++ if last = [] then [] else [last]

theorem cuts_iff {s : List Char} {ls : List (List Char)} : Cuts s ls ↔ ls = lines s := by
  constructor
  · rintro ⟨rows, last, rfl, whole, whole', rfl⟩
    exact (lines_terminated_append whole whole').symm
  · rintro rfl
    obtain ⟨rows, last, whole, whole', rfl⟩ := exists_rows s
    exact ⟨rows, last, rfl, whole, whole', lines_terminated_append whole whole'⟩

theorem notMem_of_mem_lines {s l : List Char} (mem : l ∈ lines s) : '\n' ∉ l := by
  obtain ⟨rows, last, -, whole, whole', cut⟩ := cuts_iff.2 (Eq.refl (lines s))
  rw [cut, List.mem_append, List.mem_map] at mem
  obtain ⟨row, found, rfl⟩ | mem := mem
  · intro within
    obtain same | returned := chomp_eq_or row
    · exact whole row found (same ▸ within)
    · exact whole row found (returned ▸ List.mem_append_left _ within)
  · split at mem
    · cases mem
    · rwa [List.mem_singleton.1 mem]

/-! ## Texts without carriage returns -/

/-- The last line of a text without carriage returns may lack a line feed. -/
theorem exists_terminated_append {s : List Char} (unix : '\r' ∉ s) :
    ∃ ls last, (∀ l ∈ ls, IsLine l) ∧ IsLine last ∧ s = terminated ls ++ last := by
  obtain ⟨rows, last, whole, whole', rfl⟩ := exists_rows s
  obtain ⟨before, after⟩ := not_or.1 (mt List.mem_append.2 unix)
  refine ⟨rows, last, ?_, ⟨whole', after⟩, rfl⟩
  intro row mem
  refine ⟨whole row mem, ?_⟩
  intro returns
  exact before (List.mem_flatMap.2 ⟨row, mem, List.mem_append_left _ returns⟩)

theorem exists_terminated {s : List Char} (unix : '\r' ∉ s) (ends : s.getLast? = some '\n') :
    ∃ ls, ls ≠ [] ∧ (∀ l ∈ ls, IsLine l) ∧ s = terminated ls := by
  obtain ⟨ls, last, lined, lastLined, rfl⟩ := exists_terminated_append unix
  cases last with
  | nil =>
    rw [List.append_nil] at ends ⊢
    refine ⟨ls, ?_, lined, rfl⟩
    rintro rfl
    exact nomatch ends
  | cons c last =>
    rw [List.getLast?_append, List.getLast?_cons, Option.some_or, ← List.getLast?_cons] at ends
    exact absurd (List.mem_of_getLast? ends) lastLined.1

theorem lines_append_newline {l : List Char} (lined : IsLine l) (rest : List Char) :
    lines (l ++ '\n' :: rest) = l :: lines rest := by
  rw [lines_append_feed lined.1, chomp_of_notMem lined.2]

theorem lines_terminated {ls : List (List Char)} (lined : ∀ l ∈ ls, IsLine l) :
    lines (terminated ls) = ls := by
  induction ls with
  | nil => rfl
  | cons l ls ih =>
    obtain ⟨first, lined⟩ := List.forall_mem_cons.1 lined
    rw [terminated_cons, lines_append_newline first, ih lined]

theorem unlines_eq_terminated {ls : List (List Char)} (some : ls ≠ []) :
    unlines ls = terminated ls := by
  induction ls with
  | nil => exact absurd rfl some
  | cons l ls ih =>
    cases ls with
    | nil => simp [unlines, joinWith, terminated]
    | cons next ls =>
      have rest : unlines (next :: ls) = terminated (next :: ls) := ih (List.cons_ne_nil _ _)
      rw [terminated_cons, ← rest, unlines, joinWith, unlines]
      · simp
      · exact List.cons_ne_nil _ _

/-- One empty line stands for none. -/
theorem unlines_eq (ls : List (List Char)) :
    unlines ls = terminated (if ls = [] then [[]] else ls) := by
  split
  · next none =>
    rw [none]
    rfl
  · next some => exact unlines_eq_terminated some

theorem lines_unlines {ls : List (List Char)} (lined : ∀ l ∈ ls, IsLine l) :
    lines (unlines ls) = if ls = [] then [[]] else ls := by
  rw [unlines_eq, lines_terminated]
  split
  · exact List.forall_mem_singleton.2 isLine_nil
  · exact lined

/-- A text without carriage returns is its lines, but for the line feed at its end. -/
theorem lines_of_unix {s : List Char} (unix : '\r' ∉ s) : (∀ l ∈ lines s, IsLine l) ∧
    (terminated (lines s) = s ∨ terminated (lines s) = s ++ ['\n']) := by
  obtain ⟨ls, last, lined, lastLined, rfl⟩ := exists_terminated_append unix
  have kept : ls.map chomp = ls.map id :=
    List.map_congr_left fun l mem => chomp_of_notMem (lined l mem).2
  rw [lines_terminated_append (fun l mem => (lined l mem).1) lastLined.1, kept, List.map_id]
  split
  · next none =>
    rw [none, List.append_nil, List.append_nil]
    exact ⟨lined, .inl rfl⟩
  · refine ⟨List.forall_mem_append.2 ⟨lined, List.forall_mem_singleton.2 lastLined⟩, .inr ?_⟩
    simp [terminated]

/-! ## Exchanging tokens -/

variable {token value : List Char}

theorem isPrefixOf_append_newline (single : '\n' ∉ token) (l rest : List Char) :
    token.isPrefixOf (l ++ '\n' :: rest) = token.isPrefixOf l := by
  induction token generalizing l with
  | nil => rfl
  | cons c token ih =>
    cases l with
    | nil => simp [List.isPrefixOf, (List.ne_of_not_mem_cons single).symm]
    | cons d l =>
      simp only [List.cons_append, List.isPrefixOf, ih (List.not_mem_of_not_mem_cons single)]

/-- An occurrence of the token does not go beyond the line. -/
theorem replaceFrom_append_newline (single : '\n' ∉ token) (some : token ≠ []) {skip : Nat}
    {l : List Char} (within : skip ≤ l.length) (rest : List Char) :
    replaceFrom token value skip (l ++ '\n' :: rest) =
      replaceFrom token value skip l ++ '\n' :: replaceFrom token value 0 rest := by
  induction l generalizing skip with
  | nil =>
    obtain rfl := Nat.le_zero.1 within
    obtain ⟨c, token, rfl⟩ := List.exists_cons_of_ne_nil some
    have other : (c :: token).isPrefixOf ('\n' :: rest) = false := by
      simp [List.isPrefixOf, (List.ne_of_not_mem_cons single).symm]
    simp only [List.nil_append, replaceFrom, other, Bool.false_eq_true, if_false]
  | cons c l ih =>
    cases skip with
    | succ skip => exact ih (Nat.le_of_succ_le_succ within)
    | zero =>
      have same : token.isPrefixOf (c :: (l ++ '\n' :: rest)) = token.isPrefixOf (c :: l) :=
        isPrefixOf_append_newline single (c :: l) rest
      rw [List.cons_append, replaceFrom, replaceFrom, same]
      split
      · next here =>
        have length : token.length ≤ (c :: l).length :=
          (List.isPrefixOf_iff_prefix.1 here).length_le
        rw [ih (Nat.sub_le_of_le_add length), List.append_assoc]
      · rw [ih (Nat.zero_le _), List.cons_append]

theorem replace_terminated (single : '\n' ∉ token) (some : token ≠ []) (ls : List (List Char)) :
    replace token value (terminated ls) = terminated (ls.map (replace token value)) := by
  induction ls with
  | nil => rfl
  | cons l ls ih =>
    rw [terminated_cons, replace, replaceFrom_append_newline single some (Nat.zero_le _),
      List.map_cons, terminated_cons, ← ih]
    rfl

/-- All that is there afterwards was there before, or came with the value. -/
theorem mem_replaceFrom {skip : Nat} {s : List Char} {c : Char}
    (mem : c ∈ replaceFrom token value skip s) : c ∈ value ∨ c ∈ s := by
  induction s generalizing skip with
  | nil => exact absurd mem List.not_mem_nil
  | cons d s ih =>
    cases skip with
    | succ skip => exact (ih mem).imp_right (List.mem_cons_of_mem d)
    | zero =>
      rw [replaceFrom] at mem
      split at mem
      · obtain mem | mem := List.mem_append.1 mem
        · exact .inl mem
        · exact (ih mem).imp_right (List.mem_cons_of_mem d)
      · obtain rfl | mem := List.mem_cons.1 mem
        · exact .inr List.mem_cons_self
        · exact (ih mem).imp_right (List.mem_cons_of_mem d)

theorem isLine_replace {l : List Char} (filled : IsLine value) (lined : IsLine l) :
    IsLine (replace token value l) :=
  ⟨fun mem => (mem_replaceFrom mem).elim filled.1 lined.1,
    fun mem => (mem_replaceFrom mem).elim filled.2 lined.2⟩

end AssetSeed.Text
