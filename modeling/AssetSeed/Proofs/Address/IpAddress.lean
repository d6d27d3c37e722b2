import AssetSeed.Address.HostAddress
import AssetSeed.Proofs.Address.IPv6

/-!
# Written addresses and the keys of hosts

An address is read from its written form in either family, so its key tells it from all others.

## Main definitions

* `IpAddress.hostSuffix` — what stands behind the address in the key of a host.

## Main statements

* `IpAddress.ofText?_text` — an address is read from its written form.
* `IpAddress.hostKey_injective` — different addresses have different keys.
* `IpAddress.eq_of_toNat_eq`, `IpAddress.exists_toNat_eq` — the addresses of a family are the
  numbers of its width.
* `HostAddress.hostKey?_canonical` — a key is that of the address, however it has been written.
-/

namespace AssetSeed

namespace IpAddress

open Text

/-- An address is read from its written form. -/
theorem ofText?_text (x : IpAddress) : ofText? x.text = some x := by
  cases x with
  | v4 address => simp [ofText?, text, IPv4.ofText?_text]
  | v6 address => simp [ofText?, text, IPv6.ofText?_text, IPv6.ofText?_text_eq_none]

/-- Only hexadecimal digits, colons and points stand in an address. -/
theorem isMark_of_ofText? {s : List Char} {x : IpAddress} (h : ofText? s = some x) :
    ∀ c ∈ s, IPv6.isMark c := by
  rw [ofText?] at h
  split at h
  · next v4 => exact fun c mem => IPv6.isMark_of_isMark (IPv4.isMark_of_ofText? v4 c mem)
  · obtain ⟨_, v6, -⟩ := Option.map_eq_some_iff.1 h
    exact IPv6.isMark_of_ofText? v6

theorem not_mem_of_ofText? {s : List Char} {x : IpAddress} (h : ofText? s = some x) :
    '/' ∉ s := fun mem =>
  absurd (isMark_of_ofText? h _ mem) (by decide)

/-- What stands before the first stroke is the address. -/
theorem cut?_of_ofText? {s : List Char} {x : IpAddress} (h : ofText? s = some x)
    (rest : List Char) : cut? '/' (s ++ '/' :: rest) = some (s, rest) :=
  cut?_eq_some_iff.2 ⟨rfl, not_mem_of_ofText? h⟩

/-! ## Keys -/

theorem eq_of_text_append_eq {x y : IpAddress} {rest rest' : List Char}
    (h : x.text ++ '/' :: rest = y.text ++ '/' :: rest') : x = y := by
  have cuts := congrArg (cut? '/') h
  rw [cut?_of_ofText? x.ofText?_text, cut?_of_ofText? y.ofText?_text, Option.some_inj,
    Prod.mk.injEq] at cuts
  have reads := congrArg ofText? cuts.1
  rwa [ofText?_text, ofText?_text, Option.some_inj] at reads

/-- What stands behind the address in the key of a host. -/
def hostSuffix : IpAddress → String
  | .v4 _ => "/32"
  | .v6 _ => "/128"

theorem hostKey_eq (x : IpAddress) : x.hostKey = x.text ++ x.hostSuffix.toList := by
  have suffix : ['/'] ++ Nat.toDigits 10 x.width = x.hostSuffix.toList := by
    cases x with
    | v4 => exact (by decide : ['/'] ++ Nat.toDigits 10 32 = "/32".toList)
    | v6 => exact (by decide : ['/'] ++ Nat.toDigits 10 128 = "/128".toList)
  rw [hostKey, List.append_assoc, suffix]

/-- Different addresses have different keys. -/
theorem hostKey_injective : Function.Injective hostKey := fun x y h => by
  simp only [hostKey, List.append_assoc, List.singleton_append] at h
  exact eq_of_text_append_eq h

/-! ## Addresses as numbers -/

theorem toNat_lt (x : IpAddress) : x.toNat < 2 ^ x.width := by
  cases x with
  | v4 address => exact address.toNat_lt
  | v6 address => exact address.toNat_lt

theorem eq_of_toNat_eq {x y : IpAddress} (width : x.width = y.width) (h : x.toNat = y.toNat) :
    x = y := by
  cases x <;> cases y
  case v4.v4 => exact congrArg v4 (IPv4.toNat_injective h)
  case v6.v6 => exact congrArg v6 (IPv6.toNat_injective h)
  all_goals exact nomatch width

/-- Every number of the width is an address of the family. -/
theorem exists_toNat_eq (x : IpAddress) {n : Nat} (h : n < 2 ^ x.width) :
    ∃ y : IpAddress, y.width = x.width ∧ y.toNat = n := by
  cases x with
  | v4 =>
    obtain ⟨y, rfl⟩ := IPv4.exists_toNat_eq h
    exact ⟨.v4 y, rfl, rfl⟩
  | v6 =>
    obtain ⟨y, rfl⟩ := IPv6.exists_toNat_eq h
    exact ⟨.v6 y, rfl, rfl⟩

end IpAddress

namespace HostAddress

/-- The written form of an address is taken for this address. -/
theorem classify_text (ip : IpAddress) : classify (String.ofList ip.text) = .ip ip := by
  rw [classify, String.toList_ofList, IpAddress.ofText?_text]

theorem hostKey?_ip (ip : IpAddress) : (HostAddress.ip ip).hostKey? =
    some (String.ofList ip.text ++ ip.hostSuffix) := by
  rw [hostKey?, ip?, Option.map_some, IpAddress.hostKey_eq, String.ofList_append,
    String.ofList_toList]

theorem hostKey?_ip_inj {ip ip' : IpAddress} :
    (HostAddress.ip ip).hostKey? = (HostAddress.ip ip').hostKey? ↔ ip = ip' := by
  refine ⟨fun h => IpAddress.hostKey_injective ?_, fun h => h ▸ rfl⟩
  exact String.ofList_injective (Option.some_inj.1 h)

theorem hostKey?_eq_none {address : HostAddress} (h : ∀ ip, address ≠ .ip ip) :
    address.hostKey? = none := by
  cases address with
  | ip ip => exact absurd rfl (h ip)
  | mac | unrecognized => rfl

/-- The key of a text that is taken for an IP address is a text that is taken for the same address,
with the length of its family behind it. Two such texts have the same key if and only if they are
taken for the same address, and no other text has a key. -/
theorem hostKey?_canonical :
    (∀ raw ip, classify raw = .ip ip → ∃ canonical,
      (classify raw).hostKey? = some (canonical ++ ip.hostSuffix) ∧
        classify canonical = .ip ip) ∧
    (∀ raw raw' ip ip', classify raw = .ip ip → classify raw' = .ip ip' →
      ((classify raw).hostKey? = (classify raw').hostKey? ↔ ip = ip')) ∧
    ∀ raw, (∀ ip, classify raw ≠ .ip ip) → (classify raw).hostKey? = none := by
  refine ⟨fun raw ip h => ?_, fun raw raw' ip ip' h h' => ?_, fun raw h => hostKey?_eq_none h⟩
  · exact ⟨String.ofList ip.text, h ▸ hostKey?_ip ip, classify_text ip⟩
  · rw [h, h']
    exact hostKey?_ip_inj

/-- Two ways to write an address of the second family, with one key, and an address of devices. -/
theorem hostKey?_canonical_spellings :
    let ip : IpAddress := .v6 { groups := [0x2001, 0xdb8, 0, 0, 0, 0, 0, 1] }
    classify "2001:DB8:0:0:0:0:0:1" = .ip ip ∧ classify "2001:db8::0.0.0.1" = .ip ip ∧
      (∃ canonical, (classify "2001:DB8:0:0:0:0:0:1").hostKey? =
        some (canonical ++ ip.hostSuffix) ∧ classify canonical = .ip ip) ∧
      (classify "2001:DB8:0:0:0:0:0:1").hostKey? = (classify "2001:db8::0.0.0.1").hostKey? ∧
      (∀ ip, classify "aa:bb:cc:dd:ee:ff" ≠ .ip ip) ∧
      (classify "aa:bb:cc:dd:ee:ff").hostKey? = none := by
  intro ip
  have long : classify "2001:DB8:0:0:0:0:0:1" = .ip ip := by decide +kernel
  have mixed : classify "2001:db8::0.0.0.1" = .ip ip := by decide +kernel
  have mac : ∀ ip, classify "aa:bb:cc:dd:ee:ff" ≠ .ip ip := by
    have taken : classify "aa:bb:cc:dd:ee:ff" = .mac "aa:bb:cc:dd:ee:ff" := by decide +kernel
    exact fun ip h => nomatch taken.symm.trans h
  exact ⟨long, mixed, hostKey?_canonical.1 _ _ long,
    (hostKey?_canonical.2.1 _ _ _ _ long mixed).2 rfl, mac, hostKey?_canonical.2.2 _ mac⟩

end HostAddress

end AssetSeed
