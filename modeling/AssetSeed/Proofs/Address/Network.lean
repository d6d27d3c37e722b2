import AssetSeed.Address.Network
import AssetSeed.Proofs.Address.IpAddress
import Mathlib.Data.Nat.Bitwise

/-!
# Written networks

What is read as a network is an address with a length, written in one of three ways, and the network
is told from all others by what it is written as again.

## Main definitions

* `Network.IsMask` — ones, with zeros behind them.
* `Network.Writes` — the ways to write an address and a length.
* `Network.Denotes` — the same with white space around.
* `Network.Contains` — an address is one of the network.

## Main statements

* `Network.ofText?_eq_some_iff` — what is read is what denotes it.
* `Network.ofText?_text` — a network is read from its written form.
* `Network.ofText?_eq_none` — nothing is read where a bit behind the length is set.
* `Network.eq_of_contains_iff` — a network is known from its addresses.
-/

namespace AssetSeed.Network

open Text

/-! ## Netmasks -/

/-- As many ones as `length` says, with zeros behind them. -/
def IsMask (mask : IPv4) (length : Nat) : Prop :=
  length ≤ 32 ∧ ∀ i < 32, mask.toNat.testBit i = decide (32 - length ≤ i)

/-- The number that a netmask of the length is. -/
def maskValue (length : Nat) : Nat :=
  1 <<< 32 - 1 <<< (32 - length)

theorem testBit_maskValue {length : Nat} (le : length ≤ 32) (i : Nat) :
    (maskValue length).testBit i = (decide (32 - length ≤ i) && decide (i < 32)) := by
  have ones : maskValue length = (2 ^ length - 1) <<< (32 - length) := by
    rw [maskValue, Nat.shiftLeft_eq, Nat.shiftLeft_eq, Nat.shiftLeft_eq, Nat.sub_mul, ← Nat.pow_add,
      Nat.add_sub_cancel' le]
  rw [ones, Nat.testBit_shiftLeft, Nat.testBit_two_pow_sub_one]
  grind

theorem isMask_iff {mask : IPv4} {length : Nat} :
    IsMask mask length ↔ length ≤ 32 ∧ mask.toNat = maskValue length := by
  refine and_congr_right fun le => ⟨fun bits => Nat.eq_of_testBit_eq fun i => ?_, fun h i lt => ?_⟩
  · rw [testBit_maskValue le]
    by_cases lt : i < 32
    · simp [bits i lt, lt]
    · have small : mask.toNat < 2 ^ i :=
        lt_of_lt_of_le mask.toNat_lt (Nat.pow_le_pow_right (by decide) (not_lt.1 lt))
      simp [Nat.testBit_lt_two_pow small, lt]
  · rw [h, testBit_maskValue le]
    simp [lt]

theorem maskValue_lt {shorter longer : Nat} (lt : shorter < longer) (le : longer ≤ 32) :
    maskValue shorter < maskValue longer := by
  have zeros : 1 <<< (32 - longer) < 1 <<< (32 - shorter) := by
    rw [Nat.one_shiftLeft, Nat.one_shiftLeft]
    exact Nat.pow_lt_pow_right (by decide) (by omega)
  have most : 1 <<< (32 - shorter) ≤ 1 <<< 32 := by
    rw [Nat.one_shiftLeft, Nat.one_shiftLeft]
    exact Nat.pow_le_pow_right (by decide) (by omega)
  rw [maskValue, maskValue]
  omega

/-- The length of a netmask is found if it has one. It has no other. -/
theorem maskLength?_eq_some_iff {mask : IPv4} {length : Nat} :
    maskLength? mask = some length ↔ IsMask mask length := by
  rw [isMask_iff, maskLength?, List.find?_range_eq_some]
  constructor
  · rintro ⟨value, inside, -⟩
    exact ⟨Nat.lt_succ_iff.1 (List.mem_range.1 inside), of_decide_eq_true value⟩
  · rintro ⟨le, value⟩
    refine ⟨decide_eq_true value, List.mem_range.2 (Nat.lt_succ_of_le le), fun j lt => ?_⟩
    simpa using (value ▸ maskValue_lt lt le).ne'

/-! ## Written networks -/

/-- The text writes an address alone, with a length, or, in the first family, with a netmask. -/
inductive Writes : List Char → IpAddress → Nat → Prop where
  | bare {s : List Char} {address : IpAddress} (read : IpAddress.ofText? s = some address) :
    Writes s address address.width
  | length {s digits : List Char} {address : IpAddress} {length : Nat}
    (read : IpAddress.ofText? s = some address)
    (number : natural? address.width digits = some length) :
    Writes (s ++ '/' :: digits) address length
  | netmask {s ones : List Char} {address mask : IPv4} {length : Nat}
    (read : IpAddress.ofText? s = some (.v4 address)) (masked : IPv4.ofText? ones = some mask)
    (leading : IsMask mask length) : Writes (s ++ '/' :: ones) (.v4 address) length

/-- The text writes an address and a length, with white space around. -/
def Denotes (s : List Char) (address : IpAddress) (length : Nat) : Prop :=
  ∃ before written after, s = before ++ (written ++ after) ∧ (∀ c ∈ before, isBlank c) ∧
    (∀ c ∈ after, isBlank c) ∧ Writes written address length

/-- Digits stand in a number, and a sign may stand before them. -/
theorem exists_of_natural? {bound n : Nat} {s : List Char} (h : natural? bound s = some n) :
    ∃ digits, (∀ c ∈ digits, isDigit c) ∧ (s = digits ∨ s = '+' :: digits) := by
  unfold natural? at h
  split at h
  · next digits =>
    have all : digits.all isDigit = true := by grind
    exact ⟨digits, List.all_eq_true.1 all, .inr rfl⟩
  · have all : s.all isDigit = true := by grind
    exact ⟨s, List.all_eq_true.1 all, .inl rfl⟩

/-- A number is no netmask. -/
theorem ofText?_eq_none_of_natural? {bound n : Nat} {s : List Char}
    (h : natural? bound s = some n) : IPv4.ofText? s = none := by
  suffices read : IPv4.read? s = none by rw [IPv4.ofText?, read]
  refine IPv4.read?_eq_none ?_
  obtain ⟨digits, all, rfl | rfl⟩ := exists_of_natural? h
  · simp [List.dropWhile_eq_nil_iff.2 all]
  · simp [show isDigit '+' = false by decide]

variable {s : List Char} {address : IpAddress} {length : Nat} {n : Network}

theorem writes_of_readParts? (h : readParts? s = some (address, length)) :
    Writes s address length := by
  rw [readParts?] at h
  split at h
  · obtain ⟨_, read, ⟨⟩⟩ := Option.map_eq_some_iff.1 h
    exact .bare read
  · next left right cuts =>
    obtain ⟨rfl, -⟩ := cut?_eq_some_iff.1 cuts
    split at h
    · cases h
    · next v4 read =>
      split at h
      · next mask masked =>
        obtain ⟨_, leading, ⟨⟩⟩ := Option.map_eq_some_iff.1 h
        exact .netmask read masked (maskLength?_eq_some_iff.1 leading)
      · obtain ⟨_, number, ⟨⟩⟩ := Option.map_eq_some_iff.1 h
        exact .length read number
    · next v6 read =>
      obtain ⟨_, number, ⟨⟩⟩ := Option.map_eq_some_iff.1 h
      exact .length read number

theorem Writes.readParts? (h : Writes s address length) :
    readParts? s = some (address, length) := by
  rw [Network.readParts?]
  cases h with
  | bare read => simp [cut?_eq_none_iff.2 (IpAddress.not_mem_of_ofText? read), read]
  | length read number =>
    rw [IpAddress.cut?_of_ofText? read]
    cases address with
    | v4 => simpa [read, ofText?_eq_none_of_natural? number, IpAddress.width] using number
    | v6 => simpa [read, IpAddress.width] using number
  | netmask read masked leading =>
    rw [IpAddress.cut?_of_ofText? read]
    simp [read, masked, maskLength?_eq_some_iff.2 leading]

theorem readParts?_eq_some_iff : readParts? s = some (address, length) ↔ Writes s address length :=
  ⟨writes_of_readParts?, Writes.readParts?⟩

theorem Writes.visible (h : Writes s address length) : ∀ c ∈ s, isBlank c = false := by
  have marked {t : List Char} {x : IpAddress} (read : IpAddress.ofText? t = some x) :
      ∀ c ∈ t, isBlank c = false := fun c mem =>
    IPv6.isBlank_of_isMark (IpAddress.isMark_of_ofText? read c mem)
  have plus : isBlank '+' = false := by decide
  have stroke : isBlank '/' = false := by decide
  cases h with
  | bare read => exact marked read
  | length read number =>
    refine List.forall_mem_append.2 ⟨marked read, List.forall_mem_cons.2 ⟨stroke, ?_⟩⟩
    obtain ⟨digits, all, signed⟩ := exists_of_natural? number
    have plain : ∀ c ∈ digits, isBlank c = false := fun c mem =>
      isBlank_of_isHexDigit (isHexDigit_of_isDigit (all c mem))
    obtain rfl | rfl := signed
    · exact plain
    · exact List.forall_mem_cons.2 ⟨plus, plain⟩
  | netmask read masked leading =>
    refine List.forall_mem_append.2 ⟨marked read, List.forall_mem_cons.2 ⟨stroke, ?_⟩⟩
    exact fun c mem => IPv6.isBlank_of_isMark (IPv6.isMark_of_isMark
      (IPv4.isMark_of_ofText? masked c mem))

theorem readParts?_trim_eq_some_iff :
    readParts? (trim s) = some (address, length) ↔ Denotes s address length := by
  rw [readParts?_eq_some_iff]
  constructor
  · intro h
    obtain ⟨before, after, split, blank, blank'⟩ := exists_trim s
    exact ⟨before, trim s, after, split.trans (List.append_assoc _ _ _), blank, blank', h⟩
  · rintro ⟨before, written, after, rfl, blank, blank', h⟩
    rwa [trim_append blank h.visible blank']

/-! ## Networks that are read -/

/-- How many bits tell the addresses of the network from one another. -/
def hostBits (n : Network) : Nat :=
  n.address.width - n.length

theorem ofParts?_eq_some_iff :
    ofParts? address length = some n ↔ address = n.address ∧ length = n.length := by
  constructor
  · intro h
    rw [ofParts?] at h
    grind
  · rintro ⟨rfl, rfl⟩
    rw [ofParts?, dif_pos n.length_le, dif_pos n.aligned]

/-- What is read is what denotes it. -/
theorem ofText?_eq_some_iff : ofText? s = some n ↔ Denotes s n.address n.length := by
  rw [ofText?, Option.bind_eq_some_iff]
  constructor
  · rintro ⟨⟨address, length⟩, parts, made⟩
    obtain ⟨rfl, rfl⟩ := ofParts?_eq_some_iff.1 made
    exact readParts?_trim_eq_some_iff.1 parts
  · exact fun h => ⟨_, readParts?_trim_eq_some_iff.2 h, ofParts?_eq_some_iff.2 ⟨rfl, rfl⟩⟩

theorem Writes.denotes (h : Writes s address length) : Denotes s address length :=
  ⟨[], s, [], by simp, nofun, nofun, h⟩

/-- A network is read from its written form. -/
theorem ofText?_text (n : Network) : ofText? n.text = some n := by
  have written : Writes n.text n.address n.length := by
    rw [text, List.append_assoc]
    exact .length n.address.ofText?_text (natural?_toDigits n.length_le)
  exact ofText?_eq_some_iff.2 written.denotes

theorem text_injective : Function.Injective text := fun n n' h => by
  have reads := congrArg ofText? h
  rwa [ofText?_text, ofText?_text, Option.some_inj] at reads

theorem dvd_address (n : Network) : 2 ^ n.hostBits ∣ n.address.toNat :=
  Nat.one_shiftLeft n.hostBits ▸ Nat.dvd_of_mod_eq_zero n.aligned

/-- No bit behind the length is set. -/
theorem testBit_address (n : Network) {i : Nat} (lt : i < n.hostBits) :
    n.address.toNat.testBit i = false := by
  have bit := Nat.testBit_mod_two_pow n.address.toNat n.hostBits i
  rw [Nat.mod_eq_zero_of_dvd n.dvd_address] at bit
  simpa [lt] using bit.symm

/-- Nothing is read where a bit behind the length is set. -/
theorem ofText?_eq_none (h : Denotes s address length)
    (set : ∃ i < address.width - length, address.toNat.testBit i = true) : ofText? s = none := by
  by_contra some
  obtain ⟨n, read⟩ := Option.ne_none_iff_exists'.1 some
  have parts := readParts?_trim_eq_some_iff.2 (ofText?_eq_some_iff.1 read)
  rw [readParts?_trim_eq_some_iff.2 h, Option.some_inj, Prod.mk.injEq] at parts
  obtain ⟨rfl, rfl⟩ := parts
  obtain ⟨i, lt, bit⟩ := set
  exact absurd (n.testBit_address lt) (by simp [bit])

/-! ## Addresses of a network -/

/-- The address has the leading bits of the network. -/
def Contains (n : Network) (ip : IpAddress) : Prop :=
  ip.width = n.address.width ∧ ip.toNat >>> n.hostBits = n.address.toNat >>> n.hostBits

theorem contains_iff {n : Network} {ip : IpAddress} : n.Contains ip ↔
    ip.width = n.address.width ∧ n.address.toNat ≤ ip.toNat ∧
      ip.toNat < n.address.toNat + 2 ^ n.hostBits := by
  have pos := Nat.two_pow_pos n.hostBits
  rw [Contains, Nat.shiftRight_eq_div_pow, Nat.shiftRight_eq_div_pow, Nat.div_eq_iff pos,
    Nat.div_mul_cancel n.dvd_address]
  omega

/-- The numbers of a network do not go beyond the width. -/
theorem address_add_le (n : Network) :
    n.address.toNat + 2 ^ n.hostBits ≤ 2 ^ n.address.width := by
  have whole : 2 ^ n.hostBits ∣ 2 ^ n.address.width := Nat.pow_dvd_pow 2 (Nat.sub_le _ _)
  exact Nat.le_of_lt_add_of_dvd (Nat.add_lt_add_right n.address.toNat_lt _)
    (Nat.dvd_add_self_right.2 n.dvd_address) whole

/-- The number behind the last one of a network is in no other network within it. -/
theorem hostBits_le {n n' : Network} (start : n.address = n'.address)
    (h : ∀ ip, n'.Contains ip → n.Contains ip) : n'.hostBits ≤ n.hostBits := by
  by_contra lt
  have pos := Nat.two_pow_pos n.hostBits
  have within : n'.address.toNat + 2 ^ n.hostBits < n'.address.toNat + 2 ^ n'.hostBits :=
    Nat.add_lt_add_left (Nat.pow_lt_pow_right (by decide) (not_le.1 lt)) _
  obtain ⟨ip, width, number⟩ := n'.address.exists_toNat_eq (within.trans_le n'.address_add_le)
  have inside : n'.Contains ip := contains_iff.2 ⟨width, by omega, by omega⟩
  have outside := (contains_iff.1 (h ip inside)).2.2
  rw [start] at outside
  omega

theorem contains_address (n : Network) : n.Contains n.address :=
  ⟨rfl, rfl⟩

theorem eq_of_hostBits_eq {n n' : Network} (start : n.address = n'.address)
    (bits : n.hostBits = n'.hostBits) : n = n' := by
  obtain ⟨address, length, le, aligned⟩ := n
  obtain ⟨address', length', le', aligned'⟩ := n'
  obtain rfl : address = address' := start
  obtain rfl : length = length' := by
    simp only [hostBits] at bits
    omega
  rfl

/-- A network is known from its addresses. -/
theorem eq_of_contains_iff {n n' : Network} (h : ∀ ip, n.Contains ip ↔ n'.Contains ip) :
    n = n' := by
  have first := contains_iff.1 ((h _).1 n.contains_address)
  have first' := contains_iff.1 ((h _).2 n'.contains_address)
  have start : n.address = n'.address :=
    IpAddress.eq_of_toNat_eq first.1 (le_antisymm first'.2.1 first.2.1)
  refine eq_of_hostBits_eq start (le_antisymm ?_ ?_)
  · exact hostBits_le start.symm fun ip => (h ip).1
  · exact hostBits_le start fun ip => (h ip).2

end AssetSeed.Network
