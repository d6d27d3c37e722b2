import AssetSeed.Text.Lowercase
import AssetSeed.Text.CharClass
import Mathlib.Data.List.Forall2

/-!
# What the lowercase of a text is made of

Each character of a text has its own piece in the lowercase of the text. For an ASCII character the
piece is its ASCII lowercase, and for any other one it lies behind the letters up to `f`. No
character of a piece has another lowercase, which is read off the table run by run.

## Main definitions

* `Lowercase.Settled` — a character that is its own lowercase.
* `Lowercase.Lowers` — the piece of a character.

## Main statements

* `Lowercase.exists_pieces` — the lowercase of a text, piece by piece.
* `lower_lower` — the lowercase of a text is its own lowercase.
* `lower_of_ascii`, `ascii_of_lower` — the lowercase of ASCII characters.
* `filter_lower` — what is left of a class of ASCII characters.
-/

namespace AssetSeed.Text

namespace Lowercase

/-! ## The table -/

/-- The dotted capital, which is no part of the table. -/
def dotted : Run :=
  ⟨0x130, 0x130, 1, 0⟩

/-- Where a character of a run leads. -/
def Run.leadsTo (r : Run) (n : Nat) : Nat :=
  (n + r.shift).toNat

/-- The run `r` does not lead into the run `r'`: it leads past it, or in between its characters. The
comparisons are those that are fast to check for all pairs of runs. -/
def Run.clears (r r' : Run) : Bool :=
  Nat.blt (r.leadsTo r.last) r'.first || Nat.blt r'.last (r.leadsTo r.first) ||
    ((Nat.beq r.step 2 || Nat.beq r.first r.last) && Nat.beq r'.step 2 &&
      Nat.beq ((r.leadsTo r.first + r'.first) % 2) 1)

theorem all_clears : lowerRuns.all fun r => (dotted :: lowerRuns).all r.clears := by
  decide +kernel

/-- Only one run is of ASCII characters, and the others lead past the letters up to `f`. -/
theorem leads_of_mem : ∀ r ∈ lowerRuns, (r = ⟨0x41, 0x5a, 1, 32⟩ ∨
    (128 ≤ r.first ∧ 'f'.toNat < r.leadsTo r.first)) ∧ 0 ≤ r.first + r.shift ∧
      (r.last + r.shift < 0xd800 ∨
        (0xdfff < r.first + r.shift ∧ r.last + r.shift < 0x110000)) := by
  decide +kernel

theorem contains_iff {r : Run} {n : Nat} :
    r.contains n ↔ r.first ≤ n ∧ n ≤ r.last ∧ (n - r.first) % r.step = 0 := by
  simp [Run.contains, and_assoc]

theorem clears_iff {r r' : Run} : r.clears r' ↔
    r.leadsTo r.last < r'.first ∨ r'.last < r.leadsTo r.first ∨
      ((r.step = 2 ∨ r.first = r.last) ∧ r'.step = 2 ∧
        (r.leadsTo r.first + r'.first) % 2 = 1) := by
  simp [Run.clears, and_assoc, or_assoc]

theorem toNat_shiftBy {r : Run} (mem : r ∈ lowerRuns) {c : Char} (found : r.contains c.toNat) :
    (shiftBy c r.shift).toNat = r.leadsTo c.toNat := by
  obtain ⟨low, high, -⟩ := contains_iff.1 found
  obtain ⟨-, start, range⟩ := leads_of_mem r mem
  have valid : (c.toNat + r.shift).toNat.isValidChar := by
    rcases range with below | ⟨above, below⟩
    · exact .inl (by omega)
    · exact .inr ⟨by omega, by omega⟩
  rw [shiftBy, Char.ofNat, dif_pos valid]
  rfl

/-- What a run leads to is in no run again. -/
theorem not_contains_shiftBy {r r' : Run} (mem : r ∈ lowerRuns) (mem' : r' ∈ dotted :: lowerRuns)
    {c : Char} (found : r.contains c.toNat) : ¬ r'.contains (shiftBy c r.shift).toNat := by
  have clears := List.all_eq_true.1 (List.all_eq_true.1 all_clears r mem) r' mem'
  have start := (leads_of_mem r mem).2.1
  rw [toNat_shiftBy mem found]
  intro found'
  obtain ⟨low, high, step⟩ := contains_iff.1 found
  obtain ⟨low', high', step'⟩ := contains_iff.1 found'
  rw [clears_iff] at clears
  unfold Run.leadsTo at clears low' high' step'
  obtain before | behind | ⟨odd, even, parity⟩ := clears
  · omega
  · omega
  · rw [even] at step'
    obtain two | single := odd
    · rw [two] at step
      omega
    · omega

/-! ## Characters -/

/-- The character is its own lowercase. -/
def Settled (c : Char) : Prop :=
  ∀ r ∈ dotted :: lowerRuns, ¬ r.contains c.toNat

theorem settled_shiftBy {r : Run} (mem : r ∈ lowerRuns) {c : Char} (found : r.contains c.toNat) :
    Settled (shiftBy c r.shift) :=
  fun _ mem' => not_contains_shiftBy mem mem' found

theorem Settled.ne {c d : Char} (settled : Settled c) {r : Run} (mem : r ∈ dotted :: lowerRuns)
    (found : r.contains d.toNat) : c ≠ d :=
  fun same => settled r mem (same ▸ found)

theorem Settled.ne_sigma {c : Char} (settled : Settled c) : c ≠ 'Σ' :=
  settled.ne (r := ⟨0x3a3, 0x3ab, 1, 32⟩) (by decide +kernel) (by decide)

theorem lowerChar_of_ascii {c : Char} (ascii : c.toNat < 128) : lowerChar c = [c.toLower] := by
  have all : ∀ n < 128, lowerChar (Char.ofNat n) = [(Char.ofNat n).toLower] := by decide +kernel
  simpa using all c.toNat ascii

theorem Settled.lowerChar_eq {c : Char} (settled : Settled c) : lowerChar c = [c] := by
  have point : c ≠ 'İ' := settled.ne (r := dotted) List.mem_cons_self (by decide)
  have capital : ¬ ('A' ≤ c ∧ c ≤ 'Z') := fun ⟨low, high⟩ =>
    settled ⟨0x41, 0x5a, 1, 32⟩ (by decide +kernel)
      (contains_iff.2 ⟨Char.le_def.1 low, Char.le_def.1 high, Nat.mod_one _⟩)
  have none : lowerRuns.find? (·.contains c.toNat) = none :=
    List.find?_eq_none.2 fun r mem => settled r (List.mem_cons_of_mem _ mem)
  simp [lowerChar, point, capital, none]

theorem settled_toLower {c : Char} (ascii : c.toNat < 128) : Settled c.toLower := by
  have all : ∀ n < 128, (Char.ofNat n).toLower.toNat < 128 ∧
      ¬ Run.contains ⟨0x41, 0x5a, 1, 32⟩ (Char.ofNat n).toLower.toNat := by
    decide +kernel
  obtain ⟨below, other⟩ : c.toLower.toNat < 128 ∧
      ¬ Run.contains ⟨0x41, 0x5a, 1, 32⟩ c.toLower.toNat := by
    simpa using all c.toNat ascii
  intro r mem found
  have start : 128 ≤ r.first := by
    obtain rfl | mem := List.mem_cons.1 mem
    · decide
    · obtain ⟨rfl | ⟨high, -⟩, -⟩ := leads_of_mem r mem
      · exact absurd found other
      · exact high
  exact absurd (contains_iff.1 found).1 (by omega)

/-- What stands in the lowercase of a text for one of its characters. -/
inductive Lowers : Char → List Char → Prop
  | plain {c} : c ≠ 'Σ' → Lowers c (lowerChar c)
  | sigma {form} : form ∈ ['σ', 'ς'] → Lowers 'Σ' [form]

/-- The lowercase of a text, piece by piece. -/
theorem exists_pieces (s : List Char) :
    ∃ pieces, List.Forall₂ Lowers s pieces ∧ lower s = pieces.flatten := by
  suffices pieces : ∀ before, ∃ pieces, List.Forall₂ Lowers s pieces ∧
      lowerAfter before s = pieces.flatten from pieces []
  induction s with
  | nil => exact fun _ => ⟨[], .nil, rfl⟩
  | cons c s ih =>
    intro before
    obtain ⟨pieces, lowers, flat⟩ := ih (c :: before)
    rw [lowerAfter, flat]
    by_cases sigma : c = 'Σ'
    · subst sigma
      rw [if_pos rfl]
      refine ⟨_ :: pieces, .cons (.sigma ?_) lowers, List.flatten_cons.symm⟩
      split <;> simp
    · rw [if_neg sigma]
      exact ⟨_ :: pieces, .cons (.plain sigma) lowers, List.flatten_cons.symm⟩

/-- The lowercase of a character outside the table of runs is that of ASCII, and any other one is
found in the table. -/
theorem lowerChar_cases (c : Char) :
    (c = 'İ' ∧ lowerChar c = ['i', '\u0307']) ∨ (c.toNat < 128 ∧ lowerChar c = [c.toLower]) ∨
      (128 ≤ c.toNat ∧ ∃ r ∈ lowerRuns, r.contains c.toNat ∧ lowerChar c = [shiftBy c r.shift]) ∨
      (128 ≤ c.toNat ∧ Settled c ∧ lowerChar c = [c]) := by
  by_cases point : c = 'İ'
  · exact .inl ⟨point, by rw [point]; rfl⟩
  by_cases ascii : c.toNat < 128
  · exact .inr (.inl ⟨ascii, lowerChar_of_ascii ascii⟩)
  refine .inr (.inr ?_)
  rw [lowerChar, if_neg point, if_neg ascii]
  split
  · next r found =>
    exact .inl ⟨Nat.le_of_not_lt ascii, r, List.mem_of_find?_eq_some found,
      List.find?_some (p := (Run.contains · c.toNat)) found, rfl⟩
  · next none =>
    refine .inr ⟨Nat.le_of_not_lt ascii, fun r mem => ?_, rfl⟩
    obtain rfl | mem := List.mem_cons.1 mem
    · intro found
      obtain ⟨low, high, -⟩ := contains_iff.1 found
      exact point (Char.toNat_inj.1 (Nat.le_antisymm high low))
    · exact List.find?_eq_none.1 none r mem

namespace Lowers

variable {c : Char} {piece : List Char}

theorem eq_of_ascii (lowers : Lowers c piece) (ascii : c.toNat < 128) : piece = [c.toLower] := by
  cases lowers with
  | plain => exact lowerChar_of_ascii ascii
  | sigma => exact absurd ascii (by decide)

/-- The piece of a character that is not ASCII is not empty, and lies behind the letters up to
`f`. -/
theorem behind (lowers : Lowers c piece) (high : 128 ≤ c.toNat) :
    piece ≠ [] ∧ ∀ d ∈ piece, 'f'.toNat < d.toNat := by
  cases lowers with
  | plain =>
    obtain ⟨-, pair⟩ | ⟨ascii, -⟩ | ⟨-, r, mem, found, one⟩ | ⟨-, -, same⟩ := lowerChar_cases c
    · rw [pair]
      exact ⟨by decide, List.forall_mem_cons.2
        ⟨by decide, List.forall_mem_singleton.2 (by decide)⟩⟩
    · exact absurd high (Nat.not_le.2 ascii)
    · rw [one]
      refine ⟨List.cons_ne_nil _ _, List.forall_mem_singleton.2 ?_⟩
      obtain ⟨low, last, -⟩ := contains_iff.1 found
      rw [toNat_shiftBy mem found]
      obtain ⟨rfl | ⟨-, letters⟩, -⟩ := leads_of_mem r mem
      · exact absurd (Nat.le_trans high last) (by decide)
      · unfold Run.leadsTo at *
        omega
    · rw [same]
      exact ⟨List.cons_ne_nil _ _,
        List.forall_mem_singleton.2 (Nat.lt_of_lt_of_le (by decide) high)⟩
  | sigma form =>
    have all : ∀ form ∈ ['σ', 'ς'], 'f'.toNat < form.toNat :=
      List.forall_mem_cons.2 ⟨by decide, List.forall_mem_singleton.2 (by decide)⟩
    exact ⟨List.cons_ne_nil _ _, List.forall_mem_singleton.2 (all _ form)⟩

/-- No character of a piece has another lowercase. -/
theorem settled (lowers : Lowers c piece) : ∀ d ∈ piece, Settled d := by
  cases lowers with
  | plain =>
    obtain ⟨-, pair⟩ | ⟨ascii, small⟩ | ⟨-, r, mem, found, one⟩ | ⟨-, settled, same⟩ :=
      lowerChar_cases c
    · rw [pair]
      refine List.forall_mem_cons.2 ⟨?_, List.forall_mem_singleton.2 ?_⟩
      · unfold Settled
        decide +kernel
      · unfold Settled
        decide +kernel
    · rw [small]
      exact List.forall_mem_singleton.2 (settled_toLower ascii)
    · rw [one]
      exact List.forall_mem_singleton.2 (settled_shiftBy mem found)
    · rw [same]
      exact List.forall_mem_singleton.2 settled
  | sigma form =>
    have all : ∀ form ∈ ['σ', 'ς'], ∀ r ∈ dotted :: lowerRuns, ¬ r.contains form.toNat :=
      List.forall_mem_cons.2
        ⟨by decide +kernel, List.forall_mem_singleton.2 (by decide +kernel)⟩
    exact List.forall_mem_singleton.2 (all _ form)

end Lowers

theorem lowerAfter_of_settled {s : List Char} (settled : ∀ c ∈ s, Settled c) (before : List Char) :
    lowerAfter before s = s := by
  induction s generalizing before with
  | nil => rfl
  | cons c s ih =>
    obtain ⟨first, settled⟩ := List.forall_mem_cons.1 settled
    rw [lowerAfter, if_neg first.ne_sigma, first.lowerChar_eq, ih settled]
    rfl

end Lowercase

/-! ## Texts -/

open Lowercase

variable {s : List Char}

theorem settled_of_mem_lower {d : Char} (mem : d ∈ lower s) : Settled d := by
  obtain ⟨pieces, lowers, flat⟩ := exists_pieces s
  obtain ⟨piece, found, mem⟩ := List.mem_flatten.1 (flat ▸ mem)
  obtain ⟨i, h, rfl⟩ := List.mem_iff_getElem.1 found
  exact (lowers.get (lowers.length_eq ▸ h) h).settled d mem

/-- The lowercase of a text is its own lowercase. -/
theorem lower_lower (s : List Char) : lower (lower s) = lower s :=
  lowerAfter_of_settled (fun _ => settled_of_mem_lower) []

theorem lower_of_ascii (ascii : ∀ c ∈ s, c.toNat < 128) : lower s = s.map Char.toLower := by
  obtain ⟨pieces, lowers, flat⟩ := exists_pieces s
  rw [flat]
  clear flat
  induction lowers with
  | nil => rfl
  | cons first _ ih =>
    obtain ⟨low, ascii⟩ := List.forall_mem_cons.1 ascii
    rw [List.flatten_cons, first.eq_of_ascii low, ih ascii]
    rfl

/-- Only ASCII characters lead to ASCII characters up to the letter `f`. -/
theorem ascii_of_lower (low : ∀ d ∈ lower s, d.toNat ≤ 'f'.toNat) : ∀ c ∈ s, c.toNat < 128 := by
  obtain ⟨pieces, lowers, flat⟩ := exists_pieces s
  rw [flat] at low
  clear flat
  induction lowers with
  | nil => exact nofun
  | cons first _ ih =>
    rw [List.flatten_cons, List.forall_mem_append] at low
    refine List.forall_mem_cons.2 ⟨Nat.lt_of_not_le fun high => ?_, ih low.2⟩
    obtain ⟨some, behind⟩ := first.behind high
    obtain ⟨d, mem⟩ := List.exists_mem_of_ne_nil _ some
    exact Nat.not_le.2 (behind d mem) (low.1 d mem)

/-- What is left of a class of ASCII characters up to the letter `f` that holds a letter in both
cases. -/
theorem filter_lower {cls : Char → Bool} (low : ∀ c, cls c → c.toNat ≤ 'f'.toNat)
    (folds : ∀ c, c.toNat < 128 → cls c.toLower = cls c) (s : List Char) :
    (lower s).filter cls = (s.filter cls).map Char.toLower := by
  obtain ⟨pieces, lowers, flat⟩ := exists_pieces s
  rw [flat]
  clear flat
  induction lowers with
  | nil => rfl
  | @cons c piece _ _ first _ ih =>
    rw [List.flatten_cons, List.filter_append, ih]
    by_cases ascii : c.toNat < 128
    · rw [first.eq_of_ascii ascii, List.filter_cons, List.filter_cons, folds c ascii]
      split <;> rfl
    · have high : 128 ≤ c.toNat := Nat.le_of_not_lt ascii
      have none : piece.filter cls = [] := List.filter_eq_nil_iff.2 fun d mem found =>
        Nat.not_le.2 ((first.behind high).2 d mem) (low d found)
      have other : ¬ cls c := fun found =>
        ascii (Nat.lt_of_le_of_lt (low c found) (by decide))
      rw [none, List.filter_cons_of_neg other, List.nil_append]

end AssetSeed.Text
