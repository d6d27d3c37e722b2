import AssetSeed.Address.IPv4
import AssetSeed.Proofs.Text.Numerals
import AssetSeed.Proofs.Text.Pieces
import Mathlib.Algebra.Group.Nat.Defs

/-!
# Writing and reading IPv4 addresses

## Main statements

* `IPv4.read?_text` — an address is read from its written form, whatever else follows.
* `IPv4.read?_eq_none` — what is no address, seen at the first character that is no digit.
* `IPv4.toNat_injective`, `IPv4.exists_toNat_eq` — addresses are the numbers of 32 bits.
-/

namespace AssetSeed.IPv4

open Text

/-! ## Reading what is written -/

theorem isDigit_of_mem_octetText (n : UInt8) : ∀ c ∈ octetText n, isDigit c :=
  isDigit_of_mem_toDigits n.toNat

theorem readOctet?_octetText (n : UInt8) {rest : List Char} (stops : Stops isDigit rest) :
    readOctet? (octetText n ++ rest) = some (n, rest) := by
  have digits := isDigit_of_mem_octetText n
  have short : (octetText n).length ≤ 3 :=
    (Nat.length_toDigits_le_iff (by decide) (by decide)).2 (by have := n.toNat_lt; omega)
  have nonempty : (octetText n).isEmpty = false := by simp [octetText]
  have unpadded : ¬((octetText n).head? = some '0' ∧ (octetText n).length > 1) := by
    rintro ⟨zero, long⟩
    obtain pos | pos := Nat.eq_zero_or_pos n.toNat
    · simp [octetText, pos] at long
    · exact head?_toDigits (by decide) (by decide) _ pos zero
  have value : decimalValue (octetText n) = n.toNat := decimalValue_toDigits _
  rw [readOctet?, takeWhile_append digits stops, dropWhile_append digits stops]
  have small : n.toNat ≤ 255 := by have := n.toNat_lt; omega
  simp [nonempty, short, unpadded, value, small]

theorem text_eq (x : IPv4) : x.text = octetText x.a ++ '.' :: (octetText x.b ++ '.' ::
    (octetText x.c ++ '.' :: octetText x.d)) := by
  simp [text, joinWith]

/-- An address is read from its written form, whatever follows that is no digit. -/
theorem read?_text (x : IPv4) {rest : List Char} (stops : Stops isDigit rest) :
    read? (x.text ++ rest) = some (x, rest) := by
  have point (s : List Char) : Stops isDigit ('.' :: s) := stops_cons.2 rfl
  simp [text_eq, read?, readNextOctet?, readOctet?_octetText, point, stops]

theorem ofText?_text (x : IPv4) : ofText? x.text = some x := by
  have read := read?_text x stops_nil
  rw [List.append_nil] at read
  rw [ofText?, read]

/-! ## What is read -/

theorem eq_dropWhile_of_readOctet? {s rest : List Char} {n : UInt8}
    (h : readOctet? s = some (n, rest)) : rest = s.dropWhile isDigit := by
  rw [readOctet?] at h
  grind

/-- What is no address, seen at the first character that is no digit. -/
theorem read?_eq_none {s : List Char} (h : (s.dropWhile isDigit).head? ≠ some '.') :
    read? s = none := by
  rw [read?]
  cases first : readOctet? s with
  | none => rfl
  | some pair =>
    obtain ⟨n, rest⟩ := pair
    obtain rfl := eq_dropWhile_of_readOctet? first
    have last : readNextOctet? (s.dropWhile isDigit) = none := by
      unfold readNextOctet?
      split
      · next heq => simp [heq] at h
      · rfl
    simp [last]

/-- The characters that an address is written with. -/
def isMark (c : Char) : Bool :=
  isDigit c || c = '.'

theorem consumes_readOctet? {s rest : List Char} {n : UInt8} (h : readOctet? s = some (n, rest)) :
    Consumes isMark s rest := by
  rw [eq_dropWhile_of_readOctet? h]
  exact (Consumes.dropWhile s).mono fun c digit => by simp [isMark, digit]

theorem consumes_readNextOctet? {s rest : List Char} {n : UInt8}
    (h : readNextOctet? s = some (n, rest)) : Consumes isMark s rest := by
  unfold readNextOctet? at h
  split at h
  · exact (consumes_readOctet? h).cons rfl
  · cases h

theorem consumes_read? {s rest : List Char} {x : IPv4} (h : read? s = some (x, rest)) :
    Consumes isMark s rest := by
  obtain ⟨⟨a, s₁⟩, ha, h⟩ := Option.bind_eq_some_iff.1 h
  obtain ⟨⟨b, s₂⟩, hb, h⟩ := Option.bind_eq_some_iff.1 h
  obtain ⟨⟨c, s₃⟩, hc, h⟩ := Option.bind_eq_some_iff.1 h
  obtain ⟨⟨d, s₄⟩, hd, h⟩ := Option.bind_eq_some_iff.1 h
  cases h
  exact (consumes_readOctet? ha).trans ((consumes_readNextOctet? hb).trans
    ((consumes_readNextOctet? hc).trans (consumes_readNextOctet? hd)))

/-- Only digits and points stand in an address. -/
theorem isMark_of_ofText? {s : List Char} {x : IPv4} (h : ofText? s = some x) :
    ∀ c ∈ s, isMark c := by
  rw [ofText?] at h
  split at h
  · next read => exact (consumes_read? read).forall_mem
  · cases h

/-! ## Addresses as numbers -/

theorem toNat_lt (x : IPv4) : x.toNat < 2 ^ 32 := by
  have := x.a.toNat_lt
  have := x.b.toNat_lt
  have := x.c.toNat_lt
  have := x.d.toNat_lt
  rw [toNat]
  omega

theorem toNat_injective : Function.Injective toNat := by
  rintro ⟨a, b, c, d⟩ ⟨a', b', c', d'⟩ h
  simp only [toNat] at h
  have := b.toNat_lt
  have := c.toNat_lt
  have := d.toNat_lt
  have := b'.toNat_lt
  have := c'.toNat_lt
  have := d'.toNat_lt
  obtain rfl : a = a' := UInt8.toNat_inj.1 (by omega)
  obtain rfl : b = b' := UInt8.toNat_inj.1 (by omega)
  obtain rfl : c = c' := UInt8.toNat_inj.1 (by omega)
  obtain rfl : d = d' := UInt8.toNat_inj.1 (by omega)
  rfl

/-- Every number of 32 bits is an address. -/
theorem exists_toNat_eq {n : Nat} (h : n < 2 ^ 32) : ∃ x : IPv4, x.toNat = n := by
  refine ⟨⟨UInt8.ofNat (n / 2 ^ 24), UInt8.ofNat (n / 2 ^ 16), UInt8.ofNat (n / 2 ^ 8),
    UInt8.ofNat n⟩, ?_⟩
  simp only [toNat, UInt8.toNat_ofNat']
  omega

end AssetSeed.IPv4
