import AssetSeed.Proofs.Reconcile.Devices

/-!
# The loop over addresses

Without faults but refused names, the loop gives each address to the device of its host, unless the
address is in the database, is refused, or the device has been given another one in the same loop.

## Main definitions

* `MemoryStore.Binds` — addresses have been added and devices pointed at them.
* `Reconcile.Bindable` — a host with an address, a device and an interface.
* `Reconcile.AddressesOutcome`, `Reconcile.Assigns` — what the loop has done.

## Main statements

* `Reconcile.assigns_createAddresses` — the loop.
-/

namespace AssetSeed

open MemoryStore (respond Undisturbed Unchanged)
open StageReport (Extends)

namespace MemoryStore

variable {store old mid new : MemoryStore}

/-- What a device is known by. -/
def deviceLabels (store : MemoryStore) : List (Option String × Int) :=
  store.devices.map fun r => (r.name, r.id)

/-- Addresses have been added, and devices may point at other ones; nothing else has changed. -/
structure Binds (old new : MemoryStore) : Prop where
  addresses : old.addresses <+: new.addresses
  labels : new.deviceLabels = old.deviceLabels
  others : ∀ kind, kind ≠ .device → kind ≠ .address → new.records kind = old.records kind
  refusedNames : new.refusedNames = old.refusedNames
  outages : new.outages = old.outages
  failingUpdates : new.failingUpdates = old.failingUpdates

namespace Binds

theorem refl (store : MemoryStore) : Binds store store :=
  ⟨List.prefix_rfl, rfl, fun _ _ _ => rfl, rfl, rfl, rfl⟩

theorem trans (first : Binds old mid) (second : Binds mid new) : Binds old new where
  addresses := first.addresses.trans second.addresses
  labels := second.labels.trans first.labels
  others kind hdevice haddress :=
    (second.others kind hdevice haddress).trans (first.others kind hdevice haddress)
  refusedNames := second.refusedNames.trans first.refusedNames
  outages := second.outages.trans first.outages
  failingUpdates := second.failingUpdates.trans first.failingUpdates

theorem of_grows (h : Grows [.address] old new) : Binds old new where
  addresses := h.records .address
  labels := by
    have devices : new.devices = old.devices := h.others .device (by decide)
    simp only [deviceLabels, devices]
  others kind _ haddress := h.others kind (by simpa using haddress)
  refusedNames := h.refusedNames
  outages := h.outages
  failingUpdates := h.failingUpdates

theorem of_unchanged (h : Unchanged old new) : Binds old new := by
  obtain ⟨_, rfl⟩ := h
  exact ⟨List.prefix_rfl, rfl, fun kind _ _ => by cases kind <;> rfl, rfl, rfl, rfl⟩

theorem of_setPrimary (store : MemoryStore) (device : Int) (primary : Draft.PrimaryAddress) :
    Binds store (store.setPrimary device primary).2 := by
  rcases store.setPrimary_cases device primary with
    heq | ⟨address, -, before, r, after, hdevices, -, heq⟩
  · rw [heq]
    exact refl store
  · rw [heq]
    refine ⟨List.prefix_rfl, ?_, fun kind hdevice _ => ?_, rfl, rfl, rfl⟩
    · cases primary <;> simp [deviceLabels, hdevices, withPrimary]
    · cases kind <;> first | rfl | exact absurd rfl hdevice

theorem contains_address (h : Binds old new) {key : String}
    (hkey : (old.index .address).contains key) : (new.index .address).contains key := by
  obtain ⟨r, hr, hkey⟩ := contains_index.1 hkey
  exact contains_index.2 ⟨r, h.addresses.subset hr, hkey⟩

end Binds

/-- An update of a device succeeds or is refused, unless updates fail. -/
theorem setPrimary_fst (quiet : store.failingUpdates = false) (device : Int)
    (primary : Draft.PrimaryAddress) : (∃ r, (store.setPrimary device primary).1 = .ok r) ∨
      ∃ e, (store.setPrimary device primary).1 = .error e ∧ e.isRejected := by
  rw [setPrimary, quiet, if_neg Bool.false_ne_true]
  split
  · exact .inr ⟨_, rfl, rfl⟩
  · split
    · exact .inl ⟨_, rfl⟩
    · exact .inr ⟨_, rfl, rfl⟩

end MemoryStore

namespace Reconcile

variable {store : MemoryStore} {host : Host} {ip : IpAddress} {key : String}
  {device interface : Int}

/-- An address is refused by name, or because it is there. -/
theorem isSome_verdict_address :
    (store.verdict .address (addressDraft key interface)).isSome ↔
      key ∈ store.refusedNames ∨ (store.index .address).contains key := by
  rw [Option.isSome_iff_exists, MemoryStore.contains_index]
  constructor
  · rintro ⟨e, he⟩
    rcases MemoryStore.verdict_eq_some_iff.1 he with
      ⟨hname, -⟩ | ⟨-, ⟨⟨r, hr, hclash⟩, -⟩ | ⟨-, hbuild⟩⟩
    · exact .inl hname
    · exact .inr ⟨r, hr, congrArg some (of_decide_eq_true hclash)⟩
    · cases hbuild
  · intro h
    by_cases hname : key ∈ store.refusedNames
    · exact ⟨_, MemoryStore.verdict_eq_some_iff.2 (.inl ⟨hname, rfl⟩)⟩
    · obtain ⟨r, hr, hkey⟩ := h.resolve_left hname
      have hclash : Kind.address.clashes (addressDraft key interface) r :=
        decide_eq_true (Option.some.inj hkey)
      exact ⟨_, MemoryStore.verdict_eq_some_iff.2 (.inr ⟨hname, .inl ⟨⟨r, hr, hclash⟩, rfl⟩⟩)⟩

theorem bindAddress_run_of_refused {e : StoreError}
    (h : store.verdict .address (addressDraft key interface) = some e) (report : StageReport) :
    (bindAddress host ip key device interface).runWith respond report store =
      ((.ok false, { report with rejections := report.rejections ++ [⟨key, e⟩] }),
        store.counted) := by
  have rejected := MemoryStore.isRejected_of_verdict h
  rw [bindAddress, Stage.runWith_ask_bind, MemoryStore.respond_create_of_verdict h]
  exact Stage.runWith_bind_of_ok respond
    (Stage.runWith_tolerate respond rejected key report store.counted)

theorem pointDevice_run (quiet : store.failingUpdates = false) (host : Host) (device : Int)
    (primary : Draft.PrimaryAddress) (report : StageReport) : ∃ report' new,
      (pointDevice host device primary).runWith respond report store = ((.ok (), report'), new) ∧
      Extends report report' ∧ store.Binds new := by
  have binds : store.Binds (respond (.setPrimary device primary) store).2 :=
    .of_setPrimary store device primary
  have answered : (∃ r, (respond (.setPrimary device primary) store).1 = .ok r) ∨
      ∃ e, (respond (.setPrimary device primary) store).1 = .error e ∧ e.isRejected :=
    MemoryStore.setPrimary_fst quiet device primary
  rw [pointDevice, Stage.runWith_ask_bind]
  obtain ⟨r, hr⟩ | ⟨e, he, hrejected⟩ := answered
  · rw [hr]
    exact ⟨_, _, rfl, .noteUpdated report, binds⟩
  · rw [he]
    exact ⟨_, _, Stage.runWith_tolerate respond hrejected _ report _, .noteRejected report _, binds⟩

theorem bindAddress_run_of_accepted (quiet : store.failingUpdates = false)
    (h : store.verdict .address (addressDraft key interface) = none) (report : StageReport) :
    ∃ report' new, (bindAddress host ip key device interface).runWith respond report store =
      ((.ok true, report'), new) ∧ Extends report report' ∧ report.created < report'.created ∧
      store.Binds new ∧ (new.index .address).contains key := by
  obtain ⟨record, hbuild, answer⟩ := MemoryStore.exists_respond_create_eq_grow h
  have binds : store.Binds (store.grow .address (addressDraft key interface) record) :=
    .of_grows (.of_grow _ record)
  obtain ⟨report', new, hrun, extend, binds'⟩ := pointDevice_run (binds.failingUpdates.trans quiet)
    host device (primaryAddress ip (record (store.lastId + 1)).id)
    { report with created := report.created + 1 }
  refine ⟨report', new, ?_, (Extends.noteCreated report).trans extend, extend.created,
    binds.trans binds', binds'.contains_address (Stage.contains_index_grow_self hbuild)⟩
  rw [bindAddress, Stage.runWith_ask_bind, answer]
  exact Stage.runWith_bind_of_ok respond hrun

/-! ## The loop -/

/-- The host has an IP address with the key, and its device an interface. -/
structure Bindable (devices : NameIndex) (interfaces : Index Int) (host : Host) (key : String)
    (device : Int) : Prop where
  address : host.address.hostKey? = some key
  named : devices.get? host.name = some device
  attached : interfaces.contains device

variable {devices existing : NameIndex} {interfaces : Index Int} {assigned : List Int}

theorem Bindable.of_assignable? (h : assignable? devices host = some (ip, key, device))
    (attached : interfaces.get? device = some interface) :
    Bindable devices interfaces host key device :=
  ⟨(assignable?_eq_some_iff.1 h).2.1, (assignable?_eq_some_iff.1 h).2.2,
    Index.contains_of_get? attached⟩

theorem Bindable.exists_assignable? (h : Bindable devices interfaces host key device) :
    ∃ ip, assignable? devices host = some (ip, key, device) := by
  obtain ⟨ip, hip, -⟩ := Option.map_eq_some_iff.1 h.address
  exact ⟨ip, assignable?_eq_some_iff.2 ⟨hip, h.address, h.named⟩⟩

/-- Key and device of a host are determined by the host. -/
theorem Bindable.eq_of_assignable? {key' : String} {device' : Int}
    (h : Bindable devices interfaces host key' device')
    (wanted : assignable? devices host = some (ip, key, device)) :
    key' = key ∧ device' = device := by
  obtain ⟨-, haddress, hnamed⟩ := assignable?_eq_some_iff.1 wanted
  exact ⟨Option.some.inj (h.address.symm.trans haddress),
    Option.some.inj (h.named.symm.trans hnamed)⟩

/-- What the loop over addresses has done, from a database and a report to others. -/
structure AddressesOutcome (existing devices : NameIndex) (interfaces : Index Int)
    (assigned : List Int) (hosts : List Host) (store new : MemoryStore)
    (report report' : StageReport) : Prop where
  extend : Extends report report'
  binds : store.Binds new
  /-- An address that is not in the database, and not refused, has lost to one that was created for
  an earlier host of the device. -/
  served : ∀ before host after, hosts = before ++ host :: after → ∀ key device,
    Bindable devices interfaces host key device →
      existing.contains key ∨ device ∈ assigned ∨ (new.index .address).contains key ∨
      key ∈ store.refusedNames ∨ ∃ other ∈ before, ∃ key',
        Bindable devices interfaces other key' device ∧ (new.index .address).contains key' ∧
        (store.index .address).contains key' = false
  idle : (∀ host ∈ hosts, ∀ key device, Bindable devices interfaces host key device →
      existing.contains key ∨ key ∈ store.refusedNames) →
    report'.created = report.created ∧ report'.updated = report.updated ∧ Unchanged store new
  busy : (∃ host ∈ hosts, ∃ key device, Bindable devices interfaces host key device ∧
      existing.contains key = false ∧ device ∉ assigned ∧ key ∉ store.refusedNames ∧
      (store.index .address).contains key = false) → report.created < report'.created

namespace AddressesOutcome

variable {rest : List Host} {mid new : MemoryStore} {report report₁ report' : StageReport}

/-- A turn that creates nothing. -/
theorem cons_of_passed
    (h : AddressesOutcome existing devices interfaces assigned rest mid new report₁ report')
    (extend : Extends report report₁) (created : report₁.created = report.created)
    (updated : report₁.updated = report.updated) (unchanged : Unchanged store mid)
    (passed : ∀ key device, Bindable devices interfaces host key device →
      existing.contains key ∨ device ∈ assigned ∨ (store.index .address).contains key ∨
        key ∈ store.refusedNames) :
    AddressesOutcome existing devices interfaces assigned (host :: rest) store new report
      report' where
  extend := extend.trans h.extend
  binds := (MemoryStore.Binds.of_unchanged unchanged).trans h.binds
  served := by
    have binds := MemoryStore.Binds.of_unchanged unchanged
    intro before other after heq key device hother
    cases before with
    | nil =>
      obtain ⟨rfl, rfl⟩ := List.cons.inj heq
      obtain hmem | hmem | hmem | hmem := passed key device hother
      · exact .inl hmem
      · exact .inr (.inl hmem)
      · exact .inr (.inr (.inl ((binds.trans h.binds).contains_address hmem)))
      · exact .inr (.inr (.inr (.inl hmem)))
    | cons first before =>
      obtain ⟨rfl, rfl⟩ := List.cons.inj heq
      have later := h.served before other after rfl key device hother
      rw [binds.refusedNames, MemoryStore.index_congr (unchanged.records .address)] at later
      obtain hmem | hmem | hmem | hmem | ⟨winner, hwinner, won⟩ := later
      · exact .inl hmem
      · exact .inr (.inl hmem)
      · exact .inr (.inr (.inl hmem))
      · exact .inr (.inr (.inr (.inl hmem)))
      · exact .inr (.inr (.inr (.inr ⟨winner, List.mem_cons_of_mem _ hwinner, won⟩)))
  idle all := by
    obtain ⟨hcreated, hupdated, unchanged'⟩ := h.idle fun other hother => by
      rw [(MemoryStore.Binds.of_unchanged unchanged).refusedNames]
      exact all other (List.mem_cons_of_mem _ hother)
    exact ⟨hcreated.trans created, hupdated.trans updated, unchanged.trans unchanged'⟩
  busy := by
    rintro ⟨other, hother, key, device, hbindable, hexisting, hassigned, hname, hindex⟩
    obtain rfl | hother := List.mem_cons.1 hother
    · obtain hmem | hmem | hmem | hmem := passed key device hbindable
      · simp [hexisting] at hmem
      · exact absurd hmem hassigned
      · simp [hindex] at hmem
      · exact absurd hmem hname
    · rw [← created]
      refine h.busy ⟨other, hother, key, device, hbindable, hexisting, hassigned, ?_, ?_⟩
      · rwa [(MemoryStore.Binds.of_unchanged unchanged).refusedNames]
      · rwa [MemoryStore.index_congr (unchanged.records .address)]

/-- A turn that creates the address of the host. -/
theorem cons_of_created
    (h : AddressesOutcome existing devices interfaces (device :: assigned) rest mid new report₁
      report') (extend : Extends report report₁) (created : report.created < report₁.created)
    (binds : store.Binds mid) (bindable : Bindable devices interfaces host key device)
    (absent : existing.contains key = false)
    (accepted : key ∉ store.refusedNames ∧ (store.index .address).contains key = false)
    (present : (mid.index .address).contains key) :
    AddressesOutcome existing devices interfaces assigned (host :: rest) store new report
      report' where
  extend := extend.trans h.extend
  binds := binds.trans h.binds
  served := by
    intro before other after heq key' device' hother
    cases before with
    | nil =>
      obtain ⟨rfl, rfl⟩ := List.cons.inj heq
      obtain rfl : key = key' := Option.some.inj (bindable.address.symm.trans hother.address)
      exact .inr (.inr (.inl (h.binds.contains_address present)))
    | cons first before =>
      obtain ⟨rfl, rfl⟩ := List.cons.inj heq
      have later := h.served before other after rfl key' device' hother
      rw [binds.refusedNames] at later
      obtain hmem | hmem | hmem | hmem | ⟨winner, hwinner, key₁, hkey₁, hnew, hmid⟩ := later
      · exact .inl hmem
      · obtain rfl | hmem := List.mem_cons.1 hmem
        · exact .inr (.inr (.inr (.inr ⟨host, List.mem_cons_self, key, bindable,
            h.binds.contains_address present, accepted.2⟩)))
        · exact .inr (.inl hmem)
      · exact .inr (.inr (.inl hmem))
      · exact .inr (.inr (.inr (.inl hmem)))
      · refine .inr (.inr (.inr (.inr ⟨winner, List.mem_cons_of_mem _ hwinner, key₁, hkey₁, hnew,
          ?_⟩)))
        refine Bool.eq_false_iff.2 fun hold => ?_
        simp [binds.contains_address hold] at hmid
  idle all := by
    obtain hmem | hmem := all host List.mem_cons_self key device bindable
    · simp [absent] at hmem
    · exact absurd hmem accepted.1
  busy _ := Nat.lt_of_lt_of_le created h.extend.created

end AddressesOutcome

/-- The stage goes through, and has done what the loop over the hosts does. -/
def Assigns (existing devices : NameIndex) (interfaces : Index Int) (assigned : List Int)
    (hosts : List Host) (stage : Stage Unit) (report : StageReport) (store : MemoryStore) : Prop :=
  ∃ report' new, stage.runWith respond report store = ((.ok (), report'), new) ∧
    AddressesOutcome existing devices interfaces assigned hosts store new report report'

namespace Assigns

variable {rest : Stage Unit} {hosts : List Host} {report : StageReport}

theorem nil (existing devices : NameIndex) (interfaces : Index Int) (assigned : List Int)
    (report : StageReport) (store : MemoryStore) :
    Assigns existing devices interfaces assigned [] (pure ()) report store := by
  refine ⟨report, store, rfl, .refl report, .refl store, fun before host after h => ?_,
    fun _ => ⟨rfl, rfl, .refl store⟩, ?_⟩
  · simp at h
  · rintro ⟨host, h, -⟩
    simp at h

/-- A turn that notes that it has passed over the host. -/
theorem cons_of_skipped (h : Assigns existing devices interfaces assigned hosts rest
      { report with skipped := report.skipped + 1 } store)
    (passed : ∀ key device, Bindable devices interfaces host key device →
      existing.contains key ∨ device ∈ assigned ∨ (store.index .address).contains key ∨
        key ∈ store.refusedNames) :
    Assigns existing devices interfaces assigned (host :: hosts)
      (Stage.noteSkipped >>= fun _ => rest) report store := by
  obtain ⟨report', new, hrun, outcome⟩ := h
  exact ⟨report', new, hrun, outcome.cons_of_passed (.noteSkipped report) rfl rfl (.refl store)
    passed⟩

variable {next : Bool → Stage Unit}

theorem cons_of_refused {e : StoreError}
    (hverdict : store.verdict .address (addressDraft key interface) = some e)
    (wanted : assignable? devices host = some (ip, key, device))
    (h : Assigns existing devices interfaces assigned hosts (next false)
      { report with rejections := report.rejections ++ [⟨key, e⟩] } store.counted) :
    Assigns existing devices interfaces assigned (host :: hosts)
      (bindAddress host ip key device interface >>= next) report store := by
  obtain ⟨report', new, hrun, outcome⟩ := h
  refine ⟨report', new, ?_, outcome.cons_of_passed (.noteRejected report _) rfl rfl
    (.counted store) fun key' device' hbindable => ?_⟩
  · rw [Stage.runWith_bind_of_ok respond (bindAddress_run_of_refused hverdict report), hrun]
  · obtain ⟨rfl, rfl⟩ := hbindable.eq_of_assignable? wanted
    have refused : (store.verdict .address (addressDraft key' interface)).isSome := by
      simp [hverdict]
    exact .inr (.inr (isSome_verdict_address.1 refused).symm)

theorem cons_of_accepted (quiet : store.failingUpdates = false)
    (hverdict : store.verdict .address (addressDraft key interface) = none)
    (bindable : Bindable devices interfaces host key device)
    (absent : existing.contains key = false)
    (h : ∀ report mid, store.Binds mid →
      Assigns existing devices interfaces (device :: assigned) hosts (next true) report mid) :
    Assigns existing devices interfaces assigned (host :: hosts)
      (bindAddress host ip key device interface >>= next) report store := by
  obtain ⟨report₁, mid, hturn, extend, created, binds, present⟩ :=
    bindAddress_run_of_accepted quiet hverdict report
  obtain ⟨report', new, hrun, outcome⟩ := h report₁ mid binds
  have accepted : ¬(store.verdict .address (addressDraft key interface)).isSome := by
    simp [hverdict]
  rw [isSome_verdict_address, not_or, Bool.not_eq_true] at accepted
  refine ⟨report', new, ?_, outcome.cons_of_created extend created binds bindable absent accepted
    present⟩
  rw [Stage.runWith_bind_of_ok respond hturn, hrun]

end Assigns

theorem assigns_createAddresses (quiet : store.failingUpdates = false)
    (existing devices : NameIndex) (interfaces : Index Int) (assigned : List Int)
    (hosts : List Host) (report : StageReport) :
    Assigns existing devices interfaces assigned hosts
      (createAddresses existing devices interfaces assigned hosts) report store := by
  induction hosts generalizing store assigned report with
  | nil => exact .nil existing devices interfaces assigned report store
  | cons host rest ih =>
    rw [createAddresses_cons]
    cases hwanted : assignable? devices host with
    | none =>
      obtain ⟨report', new, hrun, outcome⟩ := ih quiet assigned report
      refine ⟨report', new, hrun, outcome.cons_of_passed (.refl report) rfl rfl (.refl store) ?_⟩
      intro key device hbindable
      obtain ⟨ip, hsome⟩ := hbindable.exists_assignable?
      simp [hwanted] at hsome
    | some wanted =>
      obtain ⟨ip, key, device⟩ := wanted
      dsimp only
      by_cases hskip : existing.contains key || assigned.contains device
      · rw [if_pos hskip]
        refine .cons_of_skipped (ih quiet assigned _) fun key' device' hbindable => ?_
        obtain ⟨rfl, rfl⟩ := hbindable.eq_of_assignable? hwanted
        rw [Bool.or_eq_true, List.contains_iff_mem] at hskip
        exact hskip.imp_right .inl
      · rw [if_neg hskip]
        cases hinterface : interfaces.get? device with
        | none =>
          refine .cons_of_skipped (ih quiet assigned _) fun key' device' hbindable => ?_
          obtain ⟨rfl, rfl⟩ := hbindable.eq_of_assignable? hwanted
          obtain ⟨interface, hsome⟩ := Index.exists_get?_of_contains hbindable.attached
          simp [hinterface] at hsome
        | some interface =>
          simp only [Bool.or_eq_true, not_or, Bool.not_eq_true] at hskip
          cases hverdict : store.verdict .address (addressDraft key interface) with
          | some e =>
            have quiet' : store.counted.failingUpdates = false := quiet
            exact .cons_of_refused hverdict hwanted (ih quiet' assigned _)
          | none =>
            have bindable : Bindable devices interfaces host key device :=
              .of_assignable? hwanted hinterface
            exact .cons_of_accepted quiet hverdict bindable hskip.1 fun report mid binds =>
              ih (binds.failingUpdates.trans quiet) (device :: assigned) report

end Reconcile

end AssetSeed
