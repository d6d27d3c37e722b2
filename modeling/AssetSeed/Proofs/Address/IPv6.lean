import AssetSeed.Address.IPv6
import AssetSeed.Proofs.Address.IPv4
import Mathlib.Data.List.Induction

/-!
# Writing and reading IPv6 addresses

An address is written as groups, or as two rows of groups around `::`, or with an IPv4 address at
its end. Groups are read one after the other, and before each of them an IPv4 address is looked for.
None is found there, since a point follows none of the groups.

## Main definitions

* `IPv6.groupChain` — groups with a colon in front of each.
* `IPv6.Closes` — what may follow a row of groups.

## Main statements

* `IPv6.readGroups_groupsText` — a row of groups is read from its written form.
* `IPv6.exists_longestZeroRun` — the longest run of zeros is one.
* `IPv6.ofText?_text` — an address is read from its written form.
* `IPv6.toNat_injective`, `IPv6.exists_toNat_eq` — addresses are the numbers of 128 bits.
-/

namespace AssetSeed.IPv6

open Text

/-! ## Groups -/

theorem isHexDigit_of_mem_groupText (g : UInt16) : ∀ c ∈ groupText g, isHexDigit c :=
  isHexDigit_of_mem_toDigits g.toNat

theorem readGroup?_groupText (g : UInt16) {rest : List Char} (stops : Stops isHexDigit rest) :
    readGroup? (groupText g ++ rest) = some (g, rest) := by
  have digits := isHexDigit_of_mem_groupText g
  have short : (groupText g).length ≤ 4 :=
    (Nat.length_toDigits_le_iff (by decide) (by decide)).2 g.toNat_lt
  have nonempty : (groupText g).isEmpty = false := by simp [groupText]
  have value : numeralValue 16 hexValue (groupText g) = g.toNat :=
    numeralValue_toDigits (by decide) (fun _ => hexValue_digitChar) _
  rw [readGroup?, takeWhile_append digits stops, dropWhile_append digits stops]
  simp [nonempty, short, value]

theorem readGroup?_of_stops {s : List Char} (stops : Stops isHexDigit s) : readGroup? s = none := by
  rw [readGroup?, takeWhile_of_stops stops]
  rfl

/-- Nothing follows, or two colons do. No group begins with either, neither at once nor after a colon,
and neither does an IPv4 address. -/
def Closes (s : List Char) : Prop :=
  s = [] ∨ ∃ rest, s = ':' :: ':' :: rest

/-- Groups with a colon in front of each. -/
def groupChain (groups : List UInt16) : List Char :=
  groups.flatMap fun g => ':' :: groupText g

theorem groupsText_cons (g : UInt16) (gs : List UInt16) :
    groupsText (g :: gs) = groupText g ++ groupChain gs := by
  induction gs generalizing g with
  | nil => simp [groupsText, groupChain, joinWith]
  | cons g' gs ih =>
    have chain : groupChain (g' :: gs) = ':' :: (groupText g' ++ groupChain gs) := by
      simp [groupChain]
    rw [chain, ← ih g']
    simp [groupsText, joinWith]

/-- What follows a group: a colon, or nothing. -/
theorem head?_groupChain_append (gs : List UInt16) {rest : List Char} (closes : Closes rest) :
    ∀ c ∈ (groupChain gs ++ rest).head?, c = ':' := by
  cases gs with
  | nil => obtain rfl | ⟨rest, rfl⟩ := closes <;> simp [groupChain]
  | cons g gs => simp [groupChain]

theorem stops_groupChain_append (gs : List UInt16) {rest : List Char} (closes : Closes rest) :
    Stops isHexDigit (groupChain gs ++ rest) := by
  intro c mem
  rw [head?_groupChain_append gs closes c mem]
  rfl

/-- A row of hexadecimal digits with nothing but a colon behind it is not the first number of an
IPv4 address. -/
theorem read?_hexDigits_append {row rest : List Char} (digits : ∀ c ∈ row, isHexDigit c)
    (colon : ∀ c ∈ rest.head?, c = ':') : IPv4.read? (row ++ rest) = none := by
  refine IPv4.read?_eq_none ?_
  induction row with
  | nil =>
    cases rest with
    | nil => exact nofun
    | cons c rest =>
      obtain rfl : c = ':' := colon c rfl
      exact nofun
  | cons c row ih =>
    obtain ⟨digit, digits⟩ := List.forall_mem_cons.1 digits
    rw [List.cons_append, List.dropWhile_cons]
    split
    · exact ih digits
    · rintro ⟨⟩
      exact absurd digit (by decide)

/-! ## Rows of groups -/

theorem readAfterColon?_of_closes {α : Type} {read : List Char → Option (α × List Char)}
    {s : List Char} (closes : Closes s) (first : Bool)
    (fails : ∀ t, (∀ c ∈ t.head?, c = ':') → read t = none) :
    readAfterColon? first read s = none := by
  obtain rfl | ⟨rest, rfl⟩ := closes
  · cases first with
    | true => exact fails [] nofun
    | false => rfl
  · cases first with
    | true => exact fails _ (by simp)
    | false => exact fails _ (by simp)

/-- Where no group begins, none is read. -/
theorem readGroups_of_closes (limit : Nat) (first : Bool) {s : List Char} (closes : Closes s) :
    readGroups limit first s = ⟨[], false, s⟩ := by
  cases limit with
  | zero => rfl
  | succ limit =>
    have address : readAfterColon? first IPv4.read? s = none :=
      readAfterColon?_of_closes closes first fun t colon =>
        show IPv4.read? ([] ++ t) = none from
          read?_hexDigits_append (List.forall_mem_nil _) colon
    have group : readAfterColon? first readGroup? s = none := by
      refine readAfterColon?_of_closes closes first fun t colon => readGroup?_of_stops ?_
      exact fun c mem => colon c mem ▸ rfl
    simp [readGroups, address, group]

/-- A group is read before those that follow it. -/
theorem readGroups_cons (limit : Nat) (first : Bool) (g : UInt16) (gs : List UInt16)
    {rest : List Char} (closes : Closes rest) :
    readGroups (limit + 1) first
        ((if first then [] else [':']) ++ (groupText g ++ (groupChain gs ++ rest))) =
      let more := readGroups limit false (groupChain gs ++ rest)
      ⟨g :: more.groups, more.endsInIPv4, more.rest⟩ := by
  have address : IPv4.read? (groupText g ++ (groupChain gs ++ rest)) = none :=
    read?_hexDigits_append (isHexDigit_of_mem_groupText g) (head?_groupChain_append gs closes)
  have group : readGroup? (groupText g ++ (groupChain gs ++ rest)) =
      some (g, groupChain gs ++ rest) :=
    readGroup?_groupText g (stops_groupChain_append gs closes)
  cases first <;> simp [readGroups, readAfterColon?, address, group]

theorem readGroups_groupChain {limit : Nat} {gs : List UInt16} (fits : gs.length ≤ limit)
    {rest : List Char} (closes : Closes rest) :
    readGroups limit false (groupChain gs ++ rest) = ⟨gs, false, rest⟩ := by
  induction gs generalizing limit with
  | nil => exact readGroups_of_closes limit false closes
  | cons g gs ih =>
    cases limit with
    | zero => cases fits
    | succ limit =>
      have chain : groupChain (g :: gs) ++ rest =
          [':'] ++ (groupText g ++ (groupChain gs ++ rest)) := by
        simp [groupChain]
      rw [chain]
      refine (readGroups_cons limit false g gs closes).trans ?_
      rw [ih (Nat.le_of_succ_le_succ fits)]

/-- A row of groups is read from its written form. -/
theorem readGroups_groupsText {limit : Nat} {gs : List UInt16} (fits : gs.length ≤ limit)
    {rest : List Char} (closes : Closes rest) :
    readGroups limit true (groupsText gs ++ rest) = ⟨gs, false, rest⟩ := by
  cases gs with
  | nil => exact readGroups_of_closes limit true closes
  | cons g gs =>
    cases limit with
    | zero => cases fits
    | succ limit =>
      rw [groupsText_cons, List.append_assoc]
      refine (readGroups_cons limit true g gs closes).trans ?_
      rw [readGroups_groupChain (Nat.le_of_succ_le_succ fits) closes]

/-- A group with an IPv4 address behind it is read as three groups. -/
theorem readGroups_embedded (limit : Nat) (g : UInt16) (v4 : IPv4) :
    readGroups (limit + 3) true (groupText g ++ ':' :: v4.text) =
      ⟨[g, upperHalf v4, lowerHalf v4], true, []⟩ := by
  have first : IPv4.read? (groupText g ++ ':' :: v4.text) = none :=
    read?_hexDigits_append (isHexDigit_of_mem_groupText g) (by simp)
  have group : readGroup? (groupText g ++ ':' :: v4.text) = some (g, ':' :: v4.text) :=
    readGroup?_groupText g (stops_cons.2 rfl)
  have address : IPv4.read? v4.text = some (v4, []) := by
    simpa using IPv4.read?_text v4 stops_nil
  simp [readGroups, readAfterColon?, first, group, address]

/-! ## Runs of zeros -/

theorem eq_replicate_zeroRun_append (gs : List UInt16) :
    gs = List.replicate (zeroRun gs) 0 ++ gs.drop (zeroRun gs) := by
  have zeros : gs.takeWhile (· == 0) = List.replicate (zeroRun gs) 0 := by
    refine List.eq_replicate_iff.2 ⟨rfl, fun g mem => ?_⟩
    have zero := List.mem_takeWhile_imp mem
    exact eq_of_beq zero
  rw [← zeros]
  exact (List.prefix_iff_eq_append.1 (List.takeWhile_prefix _)).symm

/-- The longest run of zeros is one. -/
theorem exists_longestZeroRun (gs : List UInt16) :
    ∃ before after, gs = before ++ List.replicate (longestZeroRun gs).2 0 ++ after ∧
      before.length = (longestZeroRun gs).1 := by
  induction gs with
  | nil => exact ⟨[], [], rfl, rfl⟩
  | cons g gs ih =>
    obtain ⟨before, after, split, length⟩ := ih
    rw [longestZeroRun]
    split
    · exact ⟨g :: before, after, congrArg (g :: ·) split, by simp [length]⟩
    · exact ⟨[], _, eq_replicate_zeroRun_append (g :: gs), rfl⟩

/-! ## Addresses -/

theorem ofGroups?_groups (x : IPv6) : ofGroups? x.groups = some x := by
  rw [ofGroups?, dif_pos x.length_eq]

/-- Two colons stand for as many zeros as are wanting between the groups. -/
theorem read?_doubleColon {before : List UInt16} (short : before.length < 8) {s : List Char}
    {tail : Groups} (read : readGroups (7 - before.length) true s = tail) :
    read? (groupsText before ++ ':' :: ':' :: s) =
      (ofGroups? (before ++ List.replicate (8 - before.length - tail.groups.length) 0 ++
        tail.groups)).map (·, tail.rest) := by
  have head : readGroups 8 true (groupsText before ++ ':' :: ':' :: s) =
      ⟨before, false, ':' :: ':' :: s⟩ :=
    readGroups_groupsText (by omega) (.inr ⟨s, rfl⟩)
  simp [read?, head, read, Nat.ne_of_lt short]

theorem upperHalf_ofNat (high low : UInt16) :
    upperHalf ⟨UInt8.ofNat (high.toNat / 256), UInt8.ofNat (high.toNat % 256),
      UInt8.ofNat (low.toNat / 256), UInt8.ofNat (low.toNat % 256)⟩ = high := by
  have := high.toNat_lt
  refine UInt16.toNat_inj.1 ?_
  simp only [upperHalf, UInt8.toNat_ofNat', UInt16.toNat_ofNat']
  omega

theorem lowerHalf_ofNat (high low : UInt16) :
    lowerHalf ⟨UInt8.ofNat (high.toNat / 256), UInt8.ofNat (high.toNat % 256),
      UInt8.ofNat (low.toNat / 256), UInt8.ofNat (low.toNat % 256)⟩ = low := by
  have := low.toNat_lt
  refine UInt16.toNat_inj.1 ?_
  simp only [lowerHalf, UInt8.toNat_ofNat', UInt16.toNat_ofNat']
  omega

theorem groups_of_embedded? {x : IPv6} {v4 : IPv4} (h : x.embedded? = some v4) :
    x.groups = List.replicate 5 0 ++ [0xffff, upperHalf v4, lowerHalf v4] := by
  rw [embedded?] at h
  split at h
  · next high low groups_eq =>
    cases h
    rw [groups_eq, upperHalf_ofNat, lowerHalf_ofNat]
    rfl
  · cases h

theorem read?_embedded {x : IPv6} {v4 : IPv4} (h : x.embedded? = some v4) :
    read? ("::ffff:".toList ++ v4.text) = some (x, []) := by
  have marks : "::ffff:".toList ++ v4.text =
      groupsText [] ++ ':' :: ':' :: (groupText 0xffff ++ ':' :: v4.text) := by
    have ones : groupText 0xffff = "ffff".toList := by decide
    simp [ones, groupsText, joinWith]
  have short : ([] : List UInt16).length < 8 := by decide
  rw [marks, read?_doubleColon short (readGroups_embedded 4 0xffff v4), List.nil_append]
  exact congrArg (Option.map _) ((congrArg ofGroups? (groups_of_embedded? h)).symm.trans
    (ofGroups?_groups x))

theorem read?_compressed {x : IPv6} {before after : List UInt16} {zeros : Nat}
    (split : x.groups = before ++ List.replicate zeros 0 ++ after) (long : 1 < zeros) :
    read? (groupsText before ++ ':' :: ':' :: groupsText after) = some (x, []) := by
  have length := x.length_eq
  simp only [split, List.length_append, List.length_replicate] at length
  have tail : readGroups (7 - before.length) true (groupsText after ++ []) = ⟨after, false, []⟩ :=
    readGroups_groupsText (by omega) (.inl rfl)
  rw [List.append_nil] at tail
  have wanting : 8 - before.length - after.length = zeros := by omega
  rw [read?_doubleColon (by omega) tail, wanting, ← split, ofGroups?_groups]
  rfl

theorem read?_groupsText (x : IPv6) : read? (groupsText x.groups) = some (x, []) := by
  have head : readGroups 8 true (groupsText x.groups ++ []) = ⟨x.groups, false, []⟩ :=
    readGroups_groupsText (le_of_eq x.length_eq) (.inl rfl)
  rw [List.append_nil] at head
  simp [read?, head, x.length_eq, ofGroups?_groups]

/-- The three forms in which an address is written. -/
theorem text_cases (x : IPv6) :
    (∃ v4, x.embedded? = some v4 ∧ x.text = "::ffff:".toList ++ v4.text) ∨
    (∃ before zeros after, x.groups = before ++ List.replicate zeros 0 ++ after ∧ 1 < zeros ∧
      x.text = groupsText before ++ ':' :: ':' :: groupsText after) ∨
    x.text = groupsText x.groups := by
  rw [text]
  split
  · next v4 embedded => exact .inl ⟨v4, embedded, rfl⟩
  · obtain ⟨before, after, split, start⟩ := exists_longestZeroRun x.groups
    generalize longestZeroRun x.groups = run at split start ⊢
    obtain ⟨start', zeros⟩ := run
    obtain rfl : before.length = start' := start
    by_cases long : 1 < zeros
    · refine .inr (.inl ⟨before, zeros, after, split, long, ?_⟩)
      simp [long, split]
    · exact .inr (.inr (if_neg long))

/-- An address is read from its written form. -/
theorem ofText?_text (x : IPv6) : ofText? x.text = some x := by
  suffices read : read? x.text = some (x, []) by rw [ofText?, read]
  obtain ⟨v4, embedded, written⟩ | ⟨before, zeros, after, split, long, written⟩ | written :=
    text_cases x <;> rw [written]
  · exact read?_embedded embedded
  · exact read?_compressed split long
  · exact read?_groupsText x

theorem read?_groupsText_append (gs : List UInt16) {rest : List Char} (closes : Closes rest) :
    IPv4.read? (groupsText gs ++ rest) = none := by
  cases gs with
  | nil =>
    refine read?_hexDigits_append (List.forall_mem_nil _) ?_
    obtain rfl | ⟨rest, rfl⟩ := closes <;> simp
  | cons g gs =>
    rw [groupsText_cons, List.append_assoc]
    exact read?_hexDigits_append (isHexDigit_of_mem_groupText g)
      (head?_groupChain_append gs closes)

/-- What is written for an address is no IPv4 address. -/
theorem ofText?_text_eq_none (x : IPv6) : IPv4.ofText? x.text = none := by
  suffices read : IPv4.read? x.text = none by rw [IPv4.ofText?, read]
  obtain ⟨v4, -, written⟩ | ⟨before, zeros, after, -, -, written⟩ | written :=
    text_cases x <;> rw [written]
  · exact read?_groupsText_append [] (.inr ⟨_, rfl⟩)
  · exact read?_groupsText_append before (.inr ⟨_, rfl⟩)
  · have read := read?_groupsText_append x.groups (.inl rfl)
    rwa [List.append_nil] at read

/-! ## What is read -/

/-- The characters that an address is written with. -/
def isMark (c : Char) : Bool :=
  isHexDigit c || c = ':' || c = '.'

theorem isMark_of_isMark {c : Char} (h : IPv4.isMark c) : isMark c := by
  simp only [IPv4.isMark, Bool.or_eq_true] at h
  obtain digit | point := h
  · simp [isMark, isHexDigit_of_isDigit digit]
  · simp [isMark, point]

theorem isBlank_of_isMark {c : Char} (h : isMark c) : isBlank c = false := by
  simp only [isMark, Bool.or_eq_true, decide_eq_true_eq] at h
  obtain (digit | rfl) | rfl := h
  · exact isBlank_of_isHexDigit digit
  · decide
  · decide

theorem consumes_readGroup? {s rest : List Char} {g : UInt16}
    (h : readGroup? s = some (g, rest)) : Consumes isMark s rest := by
  have rest_eq : rest = s.dropWhile isHexDigit := by
    rw [readGroup?] at h
    grind
  rw [rest_eq]
  exact (Consumes.dropWhile s).mono fun c digit => by simp [isMark, digit]

theorem consumes_readAfterColon? {α : Type} {first : Bool}
    {read : List Char → Option (α × List Char)} {s rest : List Char} {a : α}
    (reads : ∀ s, read s = some (a, rest) → Consumes isMark s rest)
    (h : readAfterColon? first read s = some (a, rest)) : Consumes isMark s rest := by
  unfold readAfterColon? at h
  split at h
  · exact reads s h
  · split at h
    · exact (reads _ h).cons rfl
    · cases h

theorem consumes_readGroups (limit : Nat) (first : Bool) (s : List Char) :
    Consumes isMark s (readGroups limit first s).rest := by
  induction limit generalizing first s with
  | zero => exact .refl s
  | succ limit ih =>
    rw [readGroups]
    split
    · next v4 rest found =>
      have address := (Option.ite_none_left_eq_some.1 found).2
      exact consumes_readAfterColon? (fun t read => (IPv4.consumes_read? read).mono
        fun _ => isMark_of_isMark) address
    · split
      · next g rest group =>
        exact (consumes_readAfterColon? (fun _ => consumes_readGroup?) group).trans (ih false rest)
      · exact .refl s

theorem consumes_read? {s rest : List Char} {x : IPv6} (h : read? s = some (x, rest)) :
    Consumes isMark s rest := by
  have head := consumes_readGroups 8 true s
  rw [read?] at h
  split at h
  · obtain ⟨_, -, ⟨⟩⟩ := Option.map_eq_some_iff.1 h
    exact head
  · split at h
    · cases h
    · split at h
      · next after colons =>
        obtain ⟨_, -, ⟨⟩⟩ := Option.map_eq_some_iff.1 h
        rw [colons] at head
        exact head.trans (.cons rfl (.cons rfl (consumes_readGroups _ true after)))
      · cases h

/-- Only hexadecimal digits, colons and points stand in an address. -/
theorem isMark_of_ofText? {s : List Char} {x : IPv6} (h : ofText? s = some x) :
    ∀ c ∈ s, isMark c := by
  rw [ofText?] at h
  split at h
  · next read => exact (consumes_read? read).forall_mem
  · cases h

/-! ## Addresses as numbers -/

/-- Groups as one number. -/
def groupsValue (groups : List UInt16) : Nat :=
  groups.foldl (fun n group => n * 65536 + group.toNat) 0

theorem groupsValue_concat (gs : List UInt16) (g : UInt16) :
    groupsValue (gs ++ [g]) = groupsValue gs * 65536 + g.toNat := by
  simp [groupsValue]

theorem groupsValue_lt (gs : List UInt16) : groupsValue gs < 65536 ^ gs.length := by
  induction gs using List.reverseRecOn with
  | nil => decide
  | append_singleton gs g ih =>
    have := g.toNat_lt
    rw [groupsValue_concat, List.length_append, List.length_singleton, Nat.pow_succ]
    omega

theorem eq_of_groupsValue_eq {gs gs' : List UInt16} (length : gs.length = gs'.length)
    (value : groupsValue gs = groupsValue gs') : gs = gs' := by
  induction gs using List.reverseRecOn generalizing gs' with
  | nil => exact (List.eq_nil_of_length_eq_zero length.symm).symm
  | append_singleton gs g ih =>
    obtain rfl | ⟨gs', g', rfl⟩ := gs'.eq_nil_or_concat
    · simp at length
    · have := g.toNat_lt
      have := g'.toNat_lt
      simp only [List.concat_eq_append, groupsValue_concat, List.length_append,
        List.length_singleton] at length value ⊢
      obtain rfl : gs = gs' := ih (by omega) (by omega)
      obtain rfl : g = g' := UInt16.toNat_inj.1 (by omega)
      rfl

theorem exists_groupsValue_eq (count : Nat) {n : Nat} (h : n < 65536 ^ count) :
    ∃ gs : List UInt16, gs.length = count ∧ groupsValue gs = n := by
  induction count generalizing n with
  | zero => exact ⟨[], rfl, (Nat.lt_one_iff.1 h).symm⟩
  | succ count ih =>
    rw [Nat.pow_succ] at h
    obtain ⟨gs, length, value⟩ := ih (Nat.div_lt_of_lt_mul (by rwa [Nat.mul_comm]))
    refine ⟨gs ++ [UInt16.ofNat n], by simp [length], ?_⟩
    rw [groupsValue_concat, value, UInt16.toNat_ofNat']
    omega

theorem toNat_lt (x : IPv6) : x.toNat < 2 ^ 128 := by
  have bound := groupsValue_lt x.groups
  rw [x.length_eq] at bound
  exact bound

theorem toNat_injective : Function.Injective toNat := by
  rintro ⟨groups, length⟩ ⟨groups', length'⟩ h
  obtain rfl := eq_of_groupsValue_eq (length.trans length'.symm) h
  rfl

/-- Every number of 128 bits is an address. -/
theorem exists_toNat_eq {n : Nat} (h : n < 2 ^ 128) : ∃ x : IPv6, x.toNat = n := by
  obtain ⟨groups, length, value⟩ := exists_groupsValue_eq 8 (show n < 65536 ^ 8 from h)
  exact ⟨⟨groups, length⟩, value⟩

end AssetSeed.IPv6
