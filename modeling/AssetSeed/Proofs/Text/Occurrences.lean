import AssetSeed.Text.Pieces

/-!
# Where a token occurs

A token is exchanged piece by piece in a text that is put together from pieces, if no occurrence of
it begins in one piece and reaches into the next.

## Main definitions

* `Text.Avoids` — no occurrence of a token begins within a piece.
* `Text.Exchanges` — a text and what becomes of it when a token is exchanged.

## Main statements

* `Text.Avoids.replace_append` — a piece that avoids the token stays as it is.
* `Text.replace_token_append` — a piece that is the token is exchanged.
* `Text.Avoids.isInfix_append_iff` — a piece that avoids the token holds none of its occurrences.
* `Text.exchanges_iff` — what becomes of a text is what the program makes of it.
-/

namespace AssetSeed.Text

variable {token value : List Char}

/-- No occurrence of the token begins within `piece` if `rest` follows. -/
def Avoids (token : List Char) : (piece rest : List Char) → Prop
  | [], _ => True
  | c :: piece, rest => ¬ token <+: c :: (piece ++ rest) ∧ Avoids token piece rest

theorem avoids_append {a b rest : List Char} :
    Avoids token (a ++ b) rest ↔ Avoids token a (b ++ rest) ∧ Avoids token b rest := by
  induction a with
  | nil => simp only [List.nil_append, Avoids, true_and]
  | cons c a ih => simp only [List.cons_append, Avoids, ih, List.append_assoc, and_assoc]

theorem Avoids.replace_append {piece rest : List Char} (avoids : Avoids token piece rest) :
    replace token value (piece ++ rest) = piece ++ replace token value rest := by
  induction piece with
  | nil => rfl
  | cons c piece ih =>
    have differs : token.isPrefixOf (c :: (piece ++ rest)) = false :=
      Bool.eq_false_iff.2 (mt List.isPrefixOf_iff_prefix.1 avoids.1)
    rw [List.cons_append, replace, replaceFrom, differs]
    exact congrArg (c :: ·) (ih avoids.2)

theorem replaceFrom_length_append (passed rest : List Char) :
    replaceFrom token value passed.length (passed ++ rest) = replaceFrom token value 0 rest := by
  induction passed with
  | nil => rfl
  | cons c passed ih => exact ih

theorem replace_token_append (some : token ≠ []) (rest : List Char) :
    replace token value (token ++ rest) = value ++ replace token value rest := by
  obtain ⟨c, more, rfl⟩ := List.exists_cons_of_ne_nil some
  have starts : (c :: more).isPrefixOf (c :: (more ++ rest)) :=
    List.isPrefixOf_iff_prefix.2 (List.prefix_append (c :: more) rest)
  rw [List.cons_append, replace, replaceFrom, if_pos starts]
  exact congrArg (value ++ ·) (replaceFrom_length_append more rest)

theorem Avoids.isInfix_append_iff {piece rest : List Char} (avoids : Avoids token piece rest) :
    token <:+: piece ++ rest ↔ token <:+: rest := by
  induction piece with
  | nil => exact Iff.rfl
  | cons c piece ih =>
    rw [List.cons_append, List.infix_cons_iff, ih avoids.2]
    exact or_iff_right avoids.1

/-! ## Tokens exchanged -/

/-- Every occurrence of the token has been exchanged, as far as they do not overlap: what is in
front of the first one stays, and what is behind it is treated alike. -/
inductive Exchanges (token value : List Char) : (text filled : List Char) → Prop
  | none {text : List Char} : ¬ token <:+: text → Exchanges token value text text
  | first {before rest filled : List Char} : Avoids token before (token ++ rest) →
      Exchanges token value rest filled →
      Exchanges token value (before ++ (token ++ rest)) (before ++ (value ++ filled))

theorem avoids_of_not_isInfix {text : List Char} (absent : ¬ token <:+: text) :
    Avoids token text [] := by
  induction text with
  | nil => trivial
  | cons c text ih =>
    rw [List.infix_cons_iff, not_or] at absent
    rw [Avoids, List.append_nil]
    exact ⟨absent.1, ih absent.2⟩

/-- Where a token occurs, it has a first occurrence. -/
theorem exists_first {text : List Char} (occurs : token <:+: text) :
    ∃ before rest, text = before ++ (token ++ rest) ∧ Avoids token before (token ++ rest) := by
  induction text with
  | nil => exact ⟨[], [], by simpa using occurs, trivial⟩
  | cons c text ih =>
    by_cases starts : token <+: c :: text
    · obtain ⟨rest, split⟩ := starts
      exact ⟨[], rest, split.symm, trivial⟩
    · obtain ⟨before, rest, rfl, avoids⟩ :=
        ih ((List.infix_cons_iff.1 occurs).resolve_left starts)
      exact ⟨c :: before, rest, rfl, starts, avoids⟩

section

variable (some : token ≠ [])

include some

theorem Exchanges.eq_replace {text filled : List Char}
    (exchanges : Exchanges token value text filled) : filled = replace token value text := by
  induction exchanges with
  | @none text absent =>
    have kept : replace token value (text ++ []) = text ++ replace token value [] :=
      (avoids_of_not_isInfix absent).replace_append
    simpa [replace, replaceFrom] using kept.symm
  | first avoids _ ih => rw [avoids.replace_append, replace_token_append some, ih]

/-- By induction on the length of the text, which gets shorter with every occurrence. -/
theorem exchanges_replace (text : List Char) :
    Exchanges token value text (replace token value text) := by
  induction length : text.length using Nat.strongRecOn generalizing text with
  | ind n ih =>
    by_cases occurs : token <:+: text
    · obtain ⟨before, rest, rfl, avoids⟩ := exists_first occurs
      have shorter : rest.length < n := by
        have positive := List.length_pos_iff.2 some
        rw [← length, List.length_append, List.length_append]
        omega
      rw [avoids.replace_append, replace_token_append some]
      exact .first avoids (ih _ shorter rest rfl)
    · have kept : Exchanges token value text text := .none occurs
      exact kept.eq_replace some ▸ kept

theorem exchanges_iff {text filled : List Char} :
    Exchanges token value text filled ↔ filled = replace token value text := by
  refine ⟨fun exchanges => exchanges.eq_replace some, ?_⟩
  rintro rfl
  exact exchanges_replace some text

end

end AssetSeed.Text
