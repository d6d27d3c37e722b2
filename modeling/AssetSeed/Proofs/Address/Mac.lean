import AssetSeed.Address.HostAddress
import AssetSeed.Proofs.Address.IpAddress
import AssetSeed.Proofs.Text.Lowercase

/-!
# MAC addresses among the addresses of hosts

What a MAC address looks like, said without lowercase and without a reader, and what is kept of it.

## Main definitions

* `Address.Spells` — groups of two hexadecimal digits with a separator between them.
* `Address.plain` — how a character of a MAC address is kept.
* `Address.Alike` — characters that differ in case only, or in the choice of the separator.

## Main statements

* `Address.isMac_iff` — MAC addresses are six groups.
* `Address.Spells.normalizeMac_eq` — a MAC address is kept character by character.
* `Address.normalizeMac_normalizeMac` — what is normal stays as it is.
* `Address.Spells.ofText?_eq_none` — a MAC address is no IP address.
* `HostAddress.classify_macs` — which texts are taken for MAC addresses, and how they are kept.
-/

namespace AssetSeed

namespace Address

open Text

def IsSeparator (c : Char) : Prop :=
  c = ':' ∨ c = '-'

/-- Groups of two hexadecimal digits of either case, `more` of them with a separator behind, and a
last one. -/
inductive Spells : (more : Nat) → (digits s : List Char) → Prop
  | last {x y} : isHexDigit x → isHexDigit y → Spells 0 [x, y] [x, y]
  | more {n x y sep digits s} : isHexDigit x → isHexDigit y → IsSeparator sep →
      Spells n digits s → Spells (n + 1) (x :: y :: digits) (x :: y :: sep :: s)

/-- A digit in lowercase, and a colon for a separator. -/
def plain (c : Char) : Char :=
  if c = '-' then ':' else c.toLower

/-- The characters are the same letter or digit, or both of them are separators. -/
def Alike (c d : Char) : Prop :=
  c.toLower = d.toLower ∨ (IsSeparator c ∧ IsSeparator d)

/-! ## Characters -/

/-- What holds of all ASCII characters, checked one by one. -/
theorem of_ascii {p : Char → Prop} (all : ∀ n < 128, p (Char.ofNat n)) {c : Char}
    (ascii : c.toNat < 128) : p c := by
  simpa using all c.toNat ascii

theorem le_of_isHexDigit {c : Char} (h : isHexDigit c) : c.toNat ≤ 'f'.toNat := by
  simp only [isHexDigit, isDigit, Bool.or_eq_true, Bool.and_eq_true, decide_eq_true_eq] at h
  have codes : ((48 ≤ c.toNat ∧ c.toNat ≤ 57) ∨ 97 ≤ c.toNat ∧ c.toNat ≤ 102) ∨
    65 ≤ c.toNat ∧ c.toNat ≤ 70 := h
  have last : 'f'.toNat = 102 := rfl
  omega

theorem isHexDigit_of_isLowerHexDigit {c : Char} (h : isLowerHexDigit c) : isHexDigit c := by
  simp only [isLowerHexDigit, isHexDigit, Bool.or_eq_true] at h ⊢
  exact .inl h

theorem ascii_of_isHexDigit {c : Char} (h : isHexDigit c) : c.toNat < 128 :=
  Nat.lt_of_le_of_lt (le_of_isHexDigit h) (by decide)

theorem isHexDigit_toLower {c : Char} (ascii : c.toNat < 128) :
    isHexDigit c.toLower = isHexDigit c :=
  of_ascii (p := fun c => isHexDigit c.toLower = isHexDigit c) (by decide +kernel) ascii

theorem isLowerHexDigit_toLower {c : Char} (ascii : c.toNat < 128) :
    isLowerHexDigit c.toLower = isHexDigit c :=
  of_ascii (p := fun c => isLowerHexDigit c.toLower = isHexDigit c) (by decide +kernel) ascii

theorem toLower_toLower {c : Char} (ascii : c.toNat < 128) : c.toLower.toLower = c.toLower :=
  of_ascii (p := fun c => c.toLower.toLower = c.toLower) (by decide +kernel) ascii

theorem IsSeparator.toLower_eq {c : Char} (h : IsSeparator c) : c.toLower = c := by
  obtain rfl | rfl := h <;> rfl

theorem IsSeparator.of_toLower {c : Char} (ascii : c.toNat < 128)
    (h : c.toLower = ':' ∨ c.toLower = '-') : IsSeparator c :=
  of_ascii (p := fun c => c.toLower = ':' ∨ c.toLower = '-' → c = ':' ∨ c = '-')
    (by decide +kernel) ascii h

theorem IsSeparator.isHexDigit_eq {c : Char} (h : IsSeparator c) : isHexDigit c = false := by
  obtain rfl | rfl := h <;> rfl

theorem IsSeparator.plain_eq {c : Char} (h : IsSeparator c) : plain c = ':' := by
  obtain rfl | rfl := h <;> rfl

theorem plain_of_isHexDigit {c : Char} (h : isHexDigit c) : plain c = c.toLower := by
  refine if_neg ?_
  rintro rfl
  exact absurd h (by decide)

theorem isHexDigit_plain {c : Char} (h : isHexDigit c) : isHexDigit (plain c) := by
  rw [plain_of_isHexDigit h, isHexDigit_toLower (ascii_of_isHexDigit h), h]

/-! ## What is spelled -/

theorem joinWith_inPairs {digits : List Char} (some : digits ≠ []) (x y : Char) :
    joinWith [':'] (inPairs (x :: y :: digits)) =
      x :: y :: ':' :: joinWith [':'] (inPairs digits) := by
  match digits, some with
  | [_], _ => rfl
  | _ :: _ :: _, _ => rfl

namespace Spells

variable {n : Nat} {digits s : List Char}

theorem length_eq (spells : Spells n digits s) : s.length = 3 * n + 2 := by
  induction spells with
  | last => rfl
  | more _ _ _ _ ih =>
    simp only [List.length_cons, ih]
    omega

theorem length_digits (spells : Spells n digits s) : digits.length = 2 * (n + 1) := by
  induction spells with
  | last => rfl
  | more _ _ _ _ ih =>
    simp only [List.length_cons, ih]
    omega

theorem digits_ne_nil (spells : Spells n digits s) : digits ≠ [] := by
  cases spells <;> exact List.cons_ne_nil _ _

theorem marks (spells : Spells n digits s) : ∀ c ∈ s, isHexDigit c ∨ IsSeparator c := by
  induction spells with
  | last hx hy => simp [hx, hy]
  | more hx hy sep _ ih => simpa [hx, hy, sep] using ih

theorem ascii (spells : Spells n digits s) : ∀ c ∈ s, c.toNat < 128 := by
  intro c mem
  obtain digit | rfl | rfl := spells.marks c mem
  · exact ascii_of_isHexDigit digit
  · decide
  · decide

theorem filter_eq (spells : Spells n digits s) : s.filter isHexDigit = digits := by
  induction spells with
  | last hx hy => simp [hx, hy]
  | more hx hy sep _ ih => simp [hx, hy, sep.isHexDigit_eq, ih]

/-- The same groups in the form in which they are kept. -/
theorem map_plain (spells : Spells n digits s) :
    Spells n (digits.map Char.toLower) (s.map plain) := by
  induction spells with
  | last hx hy =>
    have first := isHexDigit_plain hx
    have second := isHexDigit_plain hy
    simp only [List.map_cons, List.map_nil, plain_of_isHexDigit hx, plain_of_isHexDigit hy]
      at first second ⊢
    exact .last first second
  | more hx hy sep _ ih =>
    have first := isHexDigit_plain hx
    have second := isHexDigit_plain hy
    simp only [List.map_cons, plain_of_isHexDigit hx, plain_of_isHexDigit hy, sep.plain_eq]
      at first second ⊢
    exact .more first second (.inl rfl) ih

theorem map_plain_map_plain (spells : Spells n digits s) :
    (s.map plain).map plain = s.map plain := by
  rw [List.map_map]
  refine List.map_congr_left fun c mem => ?_
  obtain digit | sep := spells.marks c mem
  · have kept := isHexDigit_plain digit
    rw [Function.comp_apply, plain_of_isHexDigit kept, plain_of_isHexDigit digit,
      toLower_toLower (ascii_of_isHexDigit digit)]
  · rw [Function.comp_apply, sep.plain_eq]
    rfl

/-- Digits put together two by two with colons between them are what is kept, but for the case. -/
theorem map_toLower_joinWith (spells : Spells n digits s) :
    (joinWith [':'] (inPairs digits)).map Char.toLower = s.map plain := by
  induction spells with
  | last hx hy => simp [inPairs, joinWith, plain_of_isHexDigit hx, plain_of_isHexDigit hy]
  | more hx hy sep rest ih =>
    rw [joinWith_inPairs rest.digits_ne_nil]
    simp [plain_of_isHexDigit hx, plain_of_isHexDigit hy, sep.plain_eq, ih]

end Spells

/-- Digits put together two by two with colons between them are groups. -/
theorem spells_joinWith {n : Nat} {digits : List Char} (hex : ∀ c ∈ digits, isHexDigit c)
    (length : digits.length = 2 * (n + 1)) :
    Spells n digits (joinWith [':'] (inPairs digits)) := by
  induction n generalizing digits with
  | zero =>
    obtain ⟨x, y, rfl⟩ := List.length_eq_two.1 length
    exact .last (hex x (by simp)) (hex y (by simp))
  | succ n ih =>
    match digits, length with
    | x :: y :: digits, length =>
      obtain ⟨hx, hex⟩ := List.forall_mem_cons.1 hex
      obtain ⟨hy, hex⟩ := List.forall_mem_cons.1 hex
      have later : Spells n digits (joinWith [':'] (inPairs digits)) :=
        ih hex (by simp only [List.length_cons] at length; omega)
      rw [joinWith_inPairs later.digits_ne_nil]
      exact .more hx hy (.inl rfl) later

/-! ## The reader and the normal form -/

theorem isHexPairs_iff {n : Nat} {s : List Char} (ascii : ∀ c ∈ s, c.toNat < 128) :
    isHexPairs n (s.map Char.toLower) ↔ ∃ digits, Spells n digits s := by
  constructor
  · intro read
    induction n generalizing s with
    | zero =>
      match s with
      | [x, y] =>
        simp only [List.forall_mem_cons] at ascii
        simp only [List.map_cons, List.map_nil, isHexPairs, Bool.and_eq_true,
          isLowerHexDigit_toLower ascii.1, isLowerHexDigit_toLower ascii.2.1] at read
        exact ⟨_, .last read.1 read.2⟩
      | [] | [_] | _ :: _ :: _ :: _ => simp [isHexPairs] at read
    | succ n ih =>
      match s with
      | x :: y :: sep :: s =>
        simp only [List.forall_mem_cons] at ascii
        obtain ⟨first, second, third, ascii⟩ := ascii
        simp only [List.map_cons, isHexPairs, Bool.and_eq_true, Bool.or_eq_true, decide_eq_true_eq,
          isLowerHexDigit_toLower first, isLowerHexDigit_toLower second] at read
        obtain ⟨⟨⟨hx, hy⟩, between⟩, read⟩ := read
        obtain ⟨digits, rest⟩ := ih ascii read
        exact ⟨_, .more hx hy (.of_toLower third between) rest⟩
      | [] | [_] | [_, _] => simp [isHexPairs] at read
  · rintro ⟨digits, spells⟩
    induction spells with
    | last hx hy =>
      simp [isHexPairs, isLowerHexDigit_toLower (ascii_of_isHexDigit hx),
        isLowerHexDigit_toLower (ascii_of_isHexDigit hy), hx, hy]
    | more hx hy between _ ih =>
      simp only [List.forall_mem_cons] at ascii
      have kept := between.toLower_eq.symm ▸ between
      rw [IsSeparator] at kept
      simp [isHexPairs, isLowerHexDigit_toLower (ascii_of_isHexDigit hx),
        isLowerHexDigit_toLower (ascii_of_isHexDigit hy), hx, hy, kept, ih ascii.2.2.2]

theorem le_of_isHexPairs {n : Nat} {s : List Char} (read : isHexPairs n s) :
    ∀ c ∈ s, c.toNat ≤ 'f'.toNat := by
  have digit {c : Char} (h : isLowerHexDigit c) : c.toNat ≤ 'f'.toNat :=
    le_of_isHexDigit (isHexDigit_of_isLowerHexDigit h)
  fun_induction isHexPairs n s with
  | case1 x y =>
    simp only [Bool.and_eq_true] at read
    simpa only [List.forall_mem_cons] using ⟨digit read.1, digit read.2, nofun⟩
  | case2 more x y sep rest ih =>
    simp only [Bool.and_eq_true, Bool.or_eq_true, decide_eq_true_eq] at read
    obtain ⟨⟨⟨hx, hy⟩, between⟩, read⟩ := read
    have third : sep.toNat ≤ 'f'.toNat := by obtain rfl | rfl := between <;> decide
    simp only [List.forall_mem_cons]
    exact ⟨digit hx, digit hy, third, ih read⟩
  | case3 => cases read

/-- MAC addresses are six groups of two hexadecimal digits. -/
theorem isMac_iff {s : List Char} : isMac s ↔ ∃ digits, Spells 5 digits s := by
  constructor
  · intro read
    have ascii := ascii_of_lower (le_of_isHexPairs read)
    rw [isMac, lower_of_ascii ascii] at read
    exact (isHexPairs_iff ascii).1 read
  · rintro ⟨digits, spells⟩
    rw [isMac, lower_of_ascii spells.ascii]
    exact (isHexPairs_iff spells.ascii).2 ⟨digits, spells⟩

theorem normalizeMac_of_twelve {s : List Char} (twelve : (s.filter isHexDigit).length = 12) :
    normalizeMac s = lower (joinWith [':'] (inPairs (s.filter isHexDigit))) :=
  if_pos twelve

/-- A MAC address is kept character by character. -/
theorem Spells.normalizeMac_eq {digits s : List Char} (spells : Spells 5 digits s) :
    normalizeMac s = s.map plain := by
  have groups : Spells 5 digits (joinWith [':'] (inPairs digits)) :=
    spells_joinWith (fun c mem => by
      rw [← spells.filter_eq] at mem
      exact (List.mem_filter.1 mem).2) spells.length_digits
  have twelve : (s.filter isHexDigit).length = 12 := spells.filter_eq ▸ spells.length_digits
  rw [normalizeMac_of_twelve twelve, spells.filter_eq, lower_of_ascii groups.ascii,
    spells.map_toLower_joinWith]

/-- What is normal stays as it is. -/
theorem normalizeMac_normalizeMac (s : List Char) :
    normalizeMac (normalizeMac s) = normalizeMac s := by
  by_cases twelve : (s.filter isHexDigit).length = 12
  · have groups : Spells 5 (s.filter isHexDigit) (joinWith [':'] (inPairs (s.filter isHexDigit))) :=
      spells_joinWith (fun c mem => (List.mem_filter.1 mem).2) twelve
    have normal : normalizeMac s = (joinWith [':'] (inPairs (s.filter isHexDigit))).map plain := by
      have twelve' := groups.filter_eq.symm ▸ twelve
      rw [← groups.normalizeMac_eq, normalizeMac_of_twelve twelve, normalizeMac_of_twelve twelve',
        groups.filter_eq]
    rw [normal, groups.map_plain.normalizeMac_eq, groups.map_plain_map_plain]
  · have normal : normalizeMac s = lower s := if_neg twelve
    have digits : ((lower s).filter isHexDigit).length = (s.filter isHexDigit).length := by
      rw [filter_lower (fun c => le_of_isHexDigit) (fun c => isHexDigit_toLower), List.length_map]
    have normal' : normalizeMac (lower s) = lower (lower s) := if_neg (digits ▸ twelve)
    rw [normal, normal', lower_lower]

/-! ## IP addresses -/

theorem readGroups_pair {x y : Char} (hx : isHexDigit x) (hy : isHexDigit y) (rest : List Char)
    (colon : ∀ c ∈ rest.head?, c = ':') (limit : Nat) (first : Bool) :
    ∃ group, IPv6.readGroups (limit + 1) first ((if first then [] else [':']) ++ ([x, y] ++ rest)) =
      let more := IPv6.readGroups limit false rest
      ⟨group :: more.groups, more.endsInIPv4, more.rest⟩ := by
  have digits : ∀ c ∈ [x, y], isHexDigit c := by simp [hx, hy]
  have stops : Stops isHexDigit rest := fun c mem => by rw [colon c mem]; rfl
  have address : IPv4.read? ([x, y] ++ rest) = none := IPv6.read?_hexDigits_append digits colon
  obtain ⟨group, read⟩ : ∃ group, IPv6.readGroup? ([x, y] ++ rest) = some (group, rest) := by
    rw [IPv6.readGroup?, takeWhile_append digits stops, dropWhile_append digits stops]
    exact ⟨_, rfl⟩
  refine ⟨group, ?_⟩
  cases first <;> simp only [IPv6.readGroups, IPv6.readAfterColon?, address, read, ite_self,
    Bool.false_eq_true, if_true, if_false, List.nil_append, List.singleton_append]

/-- The groups of a MAC address with colons are read as groups of an IPv6 address, so there are no
more of them. -/
theorem Spells.readGroups {n : Nat} {digits s : List Char} (spells : Spells n digits s)
    (colons : '-' ∉ s) {limit : Nat} (room : n < limit) (first : Bool) :
    ∃ groups, groups.length = n + 1 ∧
      IPv6.readGroups limit first ((if first then [] else [':']) ++ s) = ⟨groups, false, []⟩ := by
  induction spells generalizing limit first with
  | last hx hy =>
    obtain ⟨limit, rfl⟩ := Nat.exists_eq_add_one.2 room
    obtain ⟨group, read⟩ := readGroups_pair hx hy [] nofun limit first
    rw [IPv6.readGroups_of_closes limit false (.inl rfl)] at read
    exact ⟨[group], rfl, read⟩
  | @more n x y sep digits s hx hy between _ ih =>
    obtain ⟨limit, rfl⟩ := Nat.exists_eq_add_one.2 (Nat.zero_lt_of_lt room)
    simp only [List.mem_cons, not_or] at colons
    obtain rfl : sep = ':' := between.resolve_right (Ne.symm colons.2.2.1)
    obtain ⟨groups, length, more⟩ := ih colons.2.2.2 (Nat.lt_of_succ_lt_succ room) false
    have later : IPv6.readGroups limit false (':' :: s) = ⟨groups, false, []⟩ := more
    obtain ⟨group, read⟩ := readGroups_pair hx hy (':' :: s) (by simp) limit first
    rw [later] at read
    exact ⟨group :: groups, congrArg (· + 1) length, read⟩

theorem Spells.exists_separator {n : Nat} {digits s : List Char}
    (spells : Spells (n + 1) digits s) : ∃ sep ∈ s, IsSeparator sep := by
  cases spells with
  | more _ _ between _ => exact ⟨_, by simp, between⟩

/-- A MAC address is no IP address. -/
theorem Spells.ofText?_eq_none {digits s : List Char} (spells : Spells 5 digits s) :
    IpAddress.ofText? s = none := by
  have fourth : IPv4.ofText? s = none := by
    refine Option.eq_none_iff_forall_ne_some.2 fun address read => ?_
    obtain ⟨sep, mem, between⟩ := spells.exists_separator
    have mark := IPv4.isMark_of_ofText? read sep mem
    obtain rfl | rfl := between <;> exact absurd mark (by decide)
  have sixth : IPv6.ofText? s = none := by
    by_cases hyphen : '-' ∈ s
    · refine Option.eq_none_iff_forall_ne_some.2 fun address read => ?_
      exact absurd (IPv6.isMark_of_ofText? read '-' hyphen) (by decide)
    · obtain ⟨groups, six, read⟩ := spells.readGroups hyphen (show 5 < 8 by decide) true
      have head : IPv6.readGroups 8 true s = ⟨groups, false, []⟩ := read
      have read : IPv6.read? s = none := by simp [IPv6.read?, head, six]
      rw [IPv6.ofText?, read]
  rw [IpAddress.ofText?, fourth, sixth]
  rfl

/-! ## What is kept of two MAC addresses -/

theorem plain_eq_plain_iff {c d : Char} (hc : isHexDigit c ∨ IsSeparator c)
    (hd : isHexDigit d ∨ IsSeparator d) : plain c = plain d ↔ Alike c d := by
  have differ {x sep : Char} (digit : isHexDigit x) (between : IsSeparator sep) :
      x.toLower ≠ sep := by
    rintro rfl
    have hex := isHexDigit_toLower (ascii_of_isHexDigit digit)
    rw [digit, between.isHexDigit_eq] at hex
    cases hex
  have other {x : Char} (digit : isHexDigit x) : ¬ IsSeparator x := fun between => by
    rw [between.isHexDigit_eq] at digit
    cases digit
  rw [Alike]
  obtain hc | hc := hc <;> obtain hd | hd := hd
  · simp [plain_of_isHexDigit hc, plain_of_isHexDigit hd, other hc]
  · simp [plain_of_isHexDigit hc, hd.plain_eq, hd.toLower_eq, other hc, differ hc hd,
      differ hc (.inl rfl)]
  · simp [plain_of_isHexDigit hd, hc.plain_eq, hc.toLower_eq, other hd, (differ hd hc).symm,
      (differ hd (.inl rfl)).symm]
  · simp [hc.plain_eq, hd.plain_eq, hc, hd]

theorem map_plain_eq_iff {s t : List Char} (hs : ∀ c ∈ s, isHexDigit c ∨ IsSeparator c)
    (ht : ∀ c ∈ t, isHexDigit c ∨ IsSeparator c) :
    s.map plain = t.map plain ↔ List.Forall₂ Alike s t := by
  induction s generalizing t with
  | nil => cases t <;> simp
  | cons c s ih =>
    cases t with
    | nil => simp
    | cons d t =>
      obtain ⟨hc, hs⟩ := List.forall_mem_cons.1 hs
      obtain ⟨hd, ht⟩ := List.forall_mem_cons.1 ht
      rw [List.map_cons, List.map_cons, List.cons.injEq, List.forall₂_cons, ih hs ht,
        plain_eq_plain_iff hc hd]

end Address

namespace HostAddress

open Address Text

theorem classify_eq_mac_iff {raw m : String} : classify raw = .mac m ↔
    (∃ digits, Spells 5 digits raw.toList) ∧ m.toList = raw.toList.map plain := by
  rw [classify]
  constructor
  · intro kept
    split at kept
    · cases kept
    · split at kept
      · next isMac =>
        obtain ⟨digits, spells⟩ := isMac_iff.1 isMac
        rw [mac.injEq, spells.normalizeMac_eq] at kept
        exact ⟨⟨digits, spells⟩, kept ▸ String.toList_ofList⟩
      · cases kept
  · rintro ⟨⟨digits, spells⟩, kept⟩
    rw [spells.ofText?_eq_none]
    simp only [isMac_iff.2 ⟨digits, spells⟩, if_true, spells.normalizeMac_eq, ← kept,
      String.ofList_toList]

/-- Six groups of two hexadecimal digits with a colon or a hyphen between them, and nothing else,
are taken for a MAC address, and none of these texts is an IP address. What is kept of it has a colon
for each separator and each digit in lowercase, is taken for a MAC address again, and is the same
for two texts if and only if they differ in case and in the choice of separators only. A text that
is neither is kept as it is. What is normal stays normal, whatever it is made from. -/
theorem classify_macs :
    (∀ raw, (∃ m, classify raw = .mac m) ↔ ∃ digits, Spells 5 digits raw.toList) ∧
    (∀ (raw : String) digits, Spells 5 digits raw.toList → IpAddress.ofText? raw.toList = none) ∧
    (∀ raw m, classify raw = .mac m → m.toList = raw.toList.map plain ∧ m.length = 17 ∧
      m.toList.filter isHexDigit = (raw.toList.filter isHexDigit).map Char.toLower ∧
      classify m = .mac m) ∧
    (∀ raw raw' m m', classify raw = .mac m → classify raw' = .mac m' →
      (m = m' ↔ List.Forall₂ Alike raw.toList raw'.toList)) ∧
    (∀ raw, IpAddress.ofText? raw.toList = none → (¬ ∃ digits, Spells 5 digits raw.toList) →
      classify raw = .unrecognized raw) ∧
    ∀ s, normalizeMac (normalizeMac s) = normalizeMac s := by
  refine ⟨fun raw => ?_, fun _ _ spells => spells.ofText?_eq_none, fun raw m taken => ?_,
    fun raw raw' m m' taken taken' => ?_, fun raw noIp noMac => ?_, normalizeMac_normalizeMac⟩
  · refine ⟨fun ⟨m, taken⟩ => (classify_eq_mac_iff.1 taken).1, fun spelled => ?_⟩
    exact ⟨String.ofList (raw.toList.map plain),
      classify_eq_mac_iff.2 ⟨spelled, String.toList_ofList⟩⟩
  · obtain ⟨⟨digits, spells⟩, kept⟩ := classify_eq_mac_iff.1 taken
    refine ⟨kept, ?_, ?_, ?_⟩
    · rw [← String.length_toList, kept, List.length_map, spells.length_eq]
    · rw [kept, spells.map_plain.filter_eq, spells.filter_eq]
    · have again := spells.map_plain
      rw [← kept] at again
      exact classify_eq_mac_iff.2 ⟨⟨_, again⟩, by rw [kept, spells.map_plain_map_plain]⟩
  · obtain ⟨⟨_, spells⟩, kept⟩ := classify_eq_mac_iff.1 taken
    obtain ⟨⟨_, spells'⟩, kept'⟩ := classify_eq_mac_iff.1 taken'
    rw [← map_plain_eq_iff spells.marks spells'.marks, ← kept, ← kept', String.toList_inj]
  · have other : ¬ isMac raw.toList := mt isMac_iff.1 noMac
    rw [classify, noIp]
    exact if_neg other

/-- One address with separators of both kinds and letters in both cases, and with colons and in
lowercase; and what is too short, or has white space in front. -/
theorem classify_macs_mixed :
    let mixed := "AA-bb:cC-DD:ee-0F"
    let plain := "aa:bb:cc:dd:ee:0f"
    classify mixed = .mac plain ∧ classify plain = .mac plain ∧ mixed ≠ plain ∧
      IpAddress.ofText? mixed.toList = none ∧
      List.Forall₂ Alike mixed.toList plain.toList ∧
      (∀ raw ∈ ["aa:bb:cc:dd:ee", " aa:bb:cc:dd:ee:0f"], classify raw = .unrecognized raw) := by
  intro mixed plain
  have taken : classify mixed = .mac plain := by decide +kernel
  have again : classify plain = .mac plain := (classify_macs.2.2.1 mixed plain taken).2.2.2
  obtain ⟨digits, spells⟩ := (classify_macs.1 mixed).1 ⟨plain, taken⟩
  have other : ∀ raw ∈ ["aa:bb:cc:dd:ee", " aa:bb:cc:dd:ee:0f"],
      IpAddress.ofText? raw.toList = none ∧ ¬ isMac raw.toList := by
    decide +kernel
  refine ⟨taken, again, by decide, classify_macs.2.1 mixed digits spells,
    (classify_macs.2.2.2.1 mixed plain plain plain taken again).1 rfl, fun raw mem => ?_⟩
  obtain ⟨noIp, noMac⟩ := other raw mem
  exact classify_macs.2.2.2.2.1 raw noIp (mt isMac_iff.2 noMac)

end HostAddress

end AssetSeed
