import AssetSeed.Proofs.Reconcile.Frames
import AssetSeed.Proofs.Reconcile.Granting
import AssetSeed.Proofs.Reconcile.Indices

/-!
# What addresses are bound to

Nothing is assumed about the database here. Before it creates any address, an import lists devices,
interfaces and addresses, in this order. What it says of addresses thereafter joins these three
listings: each address goes to an interface of the device that has the name of its host, and becomes
a primary address of that device.

## Main definitions

* `Listings` — the three listings.
* `Listings.Binds` — a draft that gives the address of a host to a device, as the listings tell.
* `Listings.Turns` — what a loop over hosts says, one host after the other.
* `Listings.Bound` — the law of what an import says of addresses.
* `Reconcile.Joined` — the law of all that an import says.

## Main statements

* `Listings.Turns.bound` — what a loop says obeys the law.
* `Reconcile.exchanges_bound` — so does an import, whoever answers.
-/

namespace AssetSeed

open Reconcile

/-- Whether the request creates an address or makes one the primary address of a device. -/
def StoreRequest.isBinding : StoreRequest → Bool
  | .create .address _ => true
  | .setPrimary _ _ => true
  | _ => false

/-- The device that is to get a primary address. -/
def Exchange.pointed? : Exchange StoreProtocol → Option Int
  | ⟨.setPrimary device _, _⟩ => some device
  | _ => none

/-- The address with the identifier, in the field of the family of `ip`. -/
def Draft.PrimaryAddress.Fits (ip : IpAddress) (id : Int) : Draft.PrimaryAddress → Prop
  | .v4 id' => (∃ address, ip = .v4 address) ∧ id' = id
  | .v6 id' => (∃ address, ip = .v6 address) ∧ id' = id

theorem Reconcile.primaryAddress_fits (ip : IpAddress) (id : Int) :
    (primaryAddress ip id).Fits ip id := by
  cases ip <;> exact ⟨⟨_, rfl⟩, rfl⟩

/-- The listings in view of which addresses are given to devices. -/
structure Listings where
  devices : List Record.Device
  interfaces : List Record.Interface
  addresses : List Record.Address

namespace Listings

variable (listed : Listings)

/-- The listings as they are asked for. -/
def transcript : Transcript :=
  [⟨.list .device, .ok listed.devices⟩, ⟨.list .interface, .ok listed.interfaces⟩,
    ⟨.list .address, .ok listed.addresses⟩]

/-- The draft gives the address of the host to an interface of the device. -/
structure Binds (host : Host) (ip : IpAddress) (device : Int) (draft : Draft.Address) : Prop where
  ip : host.address.ip? = some ip
  address : host.address.hostKey? = some draft.address
  assignedType : draft.assignedType = "dcim.interface"
  /-- The address is not listed. -/
  unlisted : ∀ r ∈ listed.addresses, r.address ≠ draft.address
  /-- The device is the one of the host's name, the last one of several. -/
  named : ∃ r, Kind.device.LastOf listed.devices host.name r ∧ r.id = device
  attached : ∃ r ∈ listed.interfaces, r.id = draft.assignedId ∧
    ∃ owner, r.device = some owner ∧ owner.id = device

/-- What is said of the address of a host, and whether the device has it then. -/
inductive Turn (hosts : List Host) (device : Int) : Bool → Transcript → Prop where
  | refused {host : Host} {ip : IpAddress} {draft : Draft.Address} (mem : host ∈ hosts)
    (binds : listed.Binds host ip device draft) (error : StoreError) :
    Turn hosts device false [⟨.create .address draft, .error error⟩]
  | bound {host : Host} {ip : IpAddress} {draft : Draft.Address} (mem : host ∈ hosts)
    (binds : listed.Binds host ip device draft) (r : Record.Address)
    {primary : Draft.PrimaryAddress} (fits : primary.Fits ip r.id)
    (answer : Except StoreError Record.Device) : Turn hosts device true
      [⟨.create .address draft, .ok r⟩, ⟨.setPrimary device primary, answer⟩]

/-- What is said of hosts, one after the other, when some devices have got their address. -/
inductive Turns (hosts : List Host) : List Int → Transcript → Prop where
  | nil {assigned : List Int} : Turns hosts assigned []
  | cons {assigned : List Int} {device : Int} {given : Bool} {own rest : Transcript}
    (unassigned : device ∉ assigned) (turn : listed.Turn hosts device given own)
    (later : Turns hosts (assignedAfter assigned device given) rest) :
    Turns hosts assigned (own ++ rest)

/-- The law of what an import says of addresses once it has the listings. -/
structure Bound (hosts : List Host) (said : Transcript) : Prop where
  binding : ∀ e ∈ said, e.question.isBinding
  asked : ∀ draft answer, ⟨.create .address draft, answer⟩ ∈ said →
    ∃ host ∈ hosts, ∃ ip device, listed.Binds host ip device draft
  /-- An address that has been created is made primary at once, of the device that it is for. -/
  followed : ∀ before draft r after, said = before ++ ⟨.create .address draft, .ok r⟩ :: after →
    ∃ host ∈ hosts, ∃ ip device, listed.Binds host ip device draft ∧
      ∃ primary answer rest, primary.Fits ip r.id ∧
        after = ⟨.setPrimary device primary, answer⟩ :: rest
  /-- No address is made primary but one that has just been created. -/
  preceded : ∀ before device primary answer after,
    said = before ++ ⟨.setPrimary device primary, answer⟩ :: after →
    ∃ earlier draft r, before = earlier ++ [⟨.create .address draft, .ok r⟩]
  /-- No device gets two addresses. -/
  devices : (said.filterMap Exchange.pointed?).Nodup

variable {listed} {hosts : List Host} {assigned : List Int} {device : Int} {given : Bool}
  {own rest said : Transcript}

/-! ## The law of what is said -/

namespace Turn

theorem binding (h : listed.Turn hosts device given own) : ∀ e ∈ own, e.question.isBinding := by
  cases h <;> simp [StoreRequest.isBinding]

theorem asked (h : listed.Turn hosts device given own) {draft : Draft.Address}
    {answer : Except StoreError Record.Address} (hmem : ⟨.create .address draft, answer⟩ ∈ own) :
    ∃ host ∈ hosts, ∃ ip device, listed.Binds host ip device draft := by
  cases h with
  | refused mem binds error =>
    cases List.mem_singleton.1 hmem
    exact ⟨_, mem, _, _, binds⟩
  | bound mem binds r fits answer =>
    obtain hmem | hmem := List.mem_cons.1 hmem
    · cases hmem
      exact ⟨_, mem, _, _, binds⟩
    · cases List.mem_singleton.1 hmem

theorem pointed (h : listed.Turn hosts device given own) :
    own.filterMap Exchange.pointed? = if given then [device] else [] := by
  cases h <;> rfl

/-- An address that has been created is either that of the turn or one of those after it. -/
theorem followed (h : listed.Turn hosts device given own) {before after : Transcript}
    {draft : Draft.Address} {r : Record.Address}
    (split : own ++ rest = before ++ ⟨.create .address draft, .ok r⟩ :: after) :
    (∃ host ∈ hosts, ∃ ip device, listed.Binds host ip device draft ∧
      ∃ primary answer rest, primary.Fits ip r.id ∧
        after = ⟨.setPrimary device primary, answer⟩ :: rest) ∨
    ∃ before', rest = before' ++ ⟨.create .address draft, .ok r⟩ :: after := by
  cases h with
  | refused mem binds error =>
    cases before with
    | nil => cases split
    | cons first before => exact .inr ⟨before, (List.cons.inj split).2⟩
  | bound mem binds r' fits answer =>
    obtain _ | ⟨first, _ | ⟨second, before⟩⟩ := before
    · cases split
      exact .inl ⟨_, mem, _, _, binds, _, _, _, fits, rfl⟩
    · cases split
    · exact .inr ⟨before, (List.cons.inj (List.cons.inj split).2).2⟩

/-- An address is made primary either in the turn or after it. -/
theorem preceded (h : listed.Turn hosts device given own) {before after : Transcript}
    {device' : Int} {primary : Draft.PrimaryAddress} {answer : Except StoreError Record.Device}
    (split : own ++ rest = before ++ ⟨.setPrimary device' primary, answer⟩ :: after) :
    (∃ earlier draft r, before = earlier ++ [⟨.create .address draft, .ok r⟩]) ∨
    ∃ before', before = own ++ before' ∧
      rest = before' ++ ⟨.setPrimary device' primary, answer⟩ :: after := by
  cases h with
  | refused mem binds error =>
    cases before with
    | nil => cases split
    | cons first before =>
      obtain ⟨rfl, hrest⟩ := List.cons.inj split
      exact .inr ⟨before, rfl, hrest⟩
  | bound mem binds r fits answer' =>
    obtain _ | ⟨first, _ | ⟨second, before⟩⟩ := before
    · cases split
    · cases split
      exact .inl ⟨[], _, r, rfl⟩
    · simp only [List.cons_append, List.nil_append, List.cons.injEq] at split
      obtain ⟨rfl, rfl, hrest⟩ := split
      exact .inr ⟨before, rfl, hrest⟩

end Turn

/-- Devices that had their address before are not made to point at another one. -/
theorem Turns.unassigned (h : listed.Turns hosts assigned said) :
    ∀ device ∈ said.filterMap Exchange.pointed?, device ∉ assigned := by
  induction h with
  | nil => simp
  | @cons assigned device given own rest unassigned turn later ih =>
    rw [List.filterMap_append, turn.pointed]
    cases given with
    | false => exact ih
    | true =>
      refine List.forall_mem_append.2 ⟨by simpa using unassigned, fun other hother hmem => ?_⟩
      exact ih other hother (List.mem_cons_of_mem _ hmem)

theorem Turns.bound (h : listed.Turns hosts assigned said) : listed.Bound hosts said := by
  induction h with
  | nil => constructor <;> simp
  | @cons assigned device given own rest unassigned turn later ih =>
    constructor
    case binding => exact List.forall_mem_append.2 ⟨turn.binding, ih.binding⟩
    case asked =>
      intro draft answer hmem
      obtain hmem | hmem := List.mem_append.1 hmem
      · exact turn.asked hmem
      · exact ih.asked draft answer hmem
    case followed =>
      intro before draft r after split
      obtain here | ⟨before', hrest⟩ := turn.followed split
      · exact here
      · exact ih.followed before' draft r after hrest
    case preceded =>
      intro before device' primary answer after split
      obtain here | ⟨before', rfl, hrest⟩ := turn.preceded split
      · exact here
      · obtain ⟨earlier, draft, r, rfl⟩ := ih.preceded before' device' primary answer after hrest
        exact ⟨own ++ earlier, draft, r, (List.append_assoc _ _ _).symm⟩
    case devices =>
      rw [List.filterMap_append, turn.pointed]
      cases given with
      | false => exact ih.devices
      | true =>
        exact List.nodup_cons.2
          ⟨fun hmem => later.unassigned device hmem List.mem_cons_self, ih.devices⟩

end Listings

namespace Reconcile

variable {listed : Listings} {hosts : List Host}

/-! ## The loop -/

theorem binds_of_lookup {host : Host} {ip : IpAddress} {key : String} {device interface : Int}
    (wanted : assignable? (Index.ofList (Stage.keyPairs .device listed.devices)) host =
      some (ip, key, device))
    (missing : (Index.ofList (Stage.keyPairs .address listed.addresses)).contains key = false)
    (attached : (interfaceIndex listed.interfaces).get? device = some interface) :
    listed.Binds host ip device (addressDraft key interface) := by
  obtain ⟨hip, hkey, hdevice⟩ := assignable?_eq_some_iff.1 wanted
  constructor
  case ip => exact hip
  case address => exact hkey
  case assignedType => rfl
  case unlisted =>
    intro r hr heq
    have present : (Index.ofList (Stage.keyPairs .address listed.addresses)).contains key = true :=
      Stage.contains_keyPairs.2 ⟨r, hr, congrArg some heq⟩
    simp [missing] at present
  case named => exact Stage.mem_entries_keyPairs.1 (Index.get?_eq_some_iff.1 hdevice)
  case attached => exact mem_of_mem_interfaceIndex (Index.get?_eq_some_iff.1 attached)

theorem turn_bindAddress {host : Host} {ip : IpAddress} {key : String} {device interface : Int}
    (mem : host ∈ hosts) (binds : listed.Binds host ip device (addressDraft key interface))
    (report : StageReport) (said : Transcript) :
    (bindAddress host ip key device interface).Ensures Conduct.recorded (fun result _ said' =>
      ∃ given own, said' = said ++ own ∧ listed.Turn hosts device given own ∧
        ∀ answer, result = .ok answer → answer = given) report said := by
  refine Stage.ensures_ask_bind.2 fun answer said' hsaid => ?_
  subst hsaid
  cases answer with
  | error e =>
    have turn := Listings.Turn.refused mem binds e
    refine (Stage.Keeps.tolerate key e report _ rfl).bind ?_ ?_
    · rintro _ _ _ rfl
      exact ⟨false, _, rfl, turn, fun b hb => (Except.ok.inj hb).symm⟩
    · rintro _ _ _ rfl
      exact ⟨false, _, rfl, turn, nofun⟩
  | ok r =>
    have turn (answer : Except StoreError Record.Device) := Listings.Turn.bound mem binds r
      (primaryAddress_fits ip r.id) answer
    have pointed : (pointDevice host device (primaryAddress ip r.id)).Ensures Conduct.recorded
        (fun _ _ said' => ∃ answer, said' =
          said ++ [⟨.create .address (addressDraft key interface), .ok r⟩,
            ⟨.setPrimary device (primaryAddress ip r.id), answer⟩])
        { report with created := report.created + 1 }
        (said ++ [⟨.create .address (addressDraft key interface), .ok r⟩]) := by
      refine Stage.ensures_ask_bind.2 fun answer said' hsaid => ?_
      subst hsaid
      have asked : ∃ answer', (said ++ [⟨.create .address (addressDraft key interface), .ok r⟩]) ++
          [⟨.setPrimary device (primaryAddress ip r.id), answer⟩] =
          said ++ [⟨.create .address (addressDraft key interface), .ok r⟩,
            ⟨.setPrimary device (primaryAddress ip r.id), answer'⟩] :=
        ⟨answer, List.append_assoc _ _ _⟩
      cases answer with
      | ok _ => exact Stage.Keeps.noteUpdated _ _ asked
      | error e => exact Stage.Keeps.tolerate _ e _ _ asked
    refine Stage.ensures_noteCreated_bind.2 (pointed.bind ?_ ?_)
    · rintro _ _ _ ⟨answer, rfl⟩
      exact ⟨true, _, rfl, turn answer, fun b hb => (Except.ok.inj hb).symm⟩
    · rintro _ _ _ ⟨answer, rfl⟩
      exact ⟨true, _, rfl, turn answer, nofun⟩

theorem turns_createAddresses (listed : Listings) (assigned : List Int) {wanted : List Host}
    (subset : wanted ⊆ hosts) (report : StageReport) (said : Transcript) :
    (createAddresses (Index.ofList (Stage.keyPairs .address listed.addresses))
      (Index.ofList (Stage.keyPairs .device listed.devices)) (interfaceIndex listed.interfaces)
      assigned wanted).Ensures Conduct.recorded (fun _ _ said' =>
        ∃ own, said' = said ++ own ∧ listed.Turns hosts assigned own) report said := by
  induction wanted generalizing assigned report said with
  | nil => exact ⟨[], (List.append_nil _).symm, .nil⟩
  | cons host rest ih =>
    have passed (report : StageReport) :=
      ih assigned (List.subset_of_cons_subset subset) report said
    rw [createAddresses_cons]
    split
    · exact passed report
    · next ip key device hwanted =>
      split
      · exact Stage.ensures_bind.2 (passed _)
      · next hnew =>
        simp only [Bool.or_eq_true, not_or, Bool.not_eq_true, List.contains_iff_mem] at hnew
        split
        · exact Stage.ensures_bind.2 (passed _)
        · next interface hinterface =>
          have binds := binds_of_lookup hwanted hnew.1 hinterface
          refine (turn_bindAddress (subset List.mem_cons_self) binds report said).bind ?_ ?_
          · rintro bound report _ ⟨_, own, rfl, turn, hbound⟩
            obtain rfl := hbound bound rfl
            refine (ih _ (List.subset_of_cons_subset subset) report _).mono ?_
            rintro _ _ _ ⟨later, rfl, turns⟩
            exact ⟨own ++ later, List.append_assoc _ _ _, .cons hnew.2 turn turns⟩
          · rintro failure _ _ ⟨bound, own, rfl, turn, -⟩
            exact ⟨own, rfl, by simpa using Listings.Turns.cons hnew.2 turn .nil⟩

/-! ## The import -/

/-- Nothing has been said of the binding of addresses. -/
def Unbound (said : Transcript) : Prop :=
  ∀ e ∈ said, e.question.isBinding = false

theorem unbound_step {request : StoreRequest} (unbinding : request.isBinding = false) :
    Conduct.recorded.Preserves Unbound request := by
  rintro said answer _ h rfl
  exact List.forall_mem_append.2 ⟨h, List.forall_mem_singleton.2 unbinding⟩

/-- Either nothing has been said of the binding of addresses, or it began with the three listings
and obeyed the law. -/
def Joined (hosts : List Host) (said : Transcript) : Prop :=
  Unbound said ∨ ∃ opening listed loop, said = opening ++ Listings.transcript listed ++ loop ∧
    Unbound opening ∧ Listings.Bound listed hosts loop

theorem Unbound.append {said : Transcript} (h : Unbound said) {e : Exchange StoreProtocol}
    (unbinding : e.question.isBinding = false) : Unbound (said ++ [e]) :=
  List.forall_mem_append.2 ⟨h, List.forall_mem_singleton.2 unbinding⟩

theorem unbound_ensureDevices (wanted : List Host) (inventory : Inventory) {report : StageReport}
    {said : Transcript} (h : Unbound said) :
    (ensureDevices wanted inventory).Ensures Conduct.recorded (fun result _ said' =>
      Unbound said' ∧ ∀ index, result = .ok index → ∃ opening devices, Unbound opening ∧
        said' = opening ++ [⟨.list .device, .ok devices⟩] ∧
        index = Index.ofList (Stage.keyPairs .device devices)) report said := by
  have turns (existing : NameIndex) :
      (createDevices existing inventory [] wanted).Keeps Conduct.recorded Unbound :=
    keeps_createDevices (fun _ => keeps_createDevice (unbound_step rfl) fun _ => unbound_step rfl)
      existing [] wanted
  have first : (Stage.readIndex .device).Keeps Conduct.recorded Unbound :=
    .readIndex (unbound_step rfl)
  refine (first report said h).bind ?_ fun _ _ _ unbound => ⟨unbound, nofun⟩
  intro existing report said unbound
  refine (turns existing report said unbound).bind ?_ fun _ _ _ unbound => ⟨unbound, nofun⟩
  intro _ report said unbound
  refine (Stage.ensures_readIndex_recorded .device report said).mono ?_
  rintro _ _ _ ⟨_ | devices, rfl, rfl⟩
  · exact ⟨unbound.append rfl, nofun⟩
  · refine ⟨unbound.append rfl, fun index hindex => ?_⟩
    exact ⟨said, devices, unbound, rfl, (Except.ok.inj hindex).symm⟩

theorem joined_importNetworkMap (map : NetworkMap) (inventory : Inventory) {report : StageReport}
    {said : Transcript} (h : Unbound said) :
    (importNetworkMap map inventory).Ensures Conduct.recorded
      (fun _ _ said' => Joined map.hosts said') report said := by
  have prefixes : (ensurePrefixes map.segments inventory).Keeps Conduct.recorded Unbound :=
    .ensure (unbound_step rfl) fun _ => unbound_step rfl
  refine (prefixes report said h).bind ?_ fun _ _ _ unbound => .inl unbound
  intro _ report said unbound
  refine (unbound_ensureDevices map.hosts inventory unbound).bind ?_
    fun _ _ _ ⟨unbound, _⟩ => .inl unbound
  rintro index report said ⟨unbound, known⟩
  obtain ⟨opening, devices, opened, rfl, rfl⟩ := known index rfl
  refine Stage.ensures_bind.2 (Stage.ensures_demand.2 ?_)
  rintro (e | interfaces) said rfl
  · exact .inl (unbound.append rfl)
  refine (Stage.ensures_readIndex_recorded .address report _).bind ?_ ?_
  · rintro _ report _ ⟨_ | addresses, rfl, ⟨⟩⟩
    let listings : Listings := ⟨devices, interfaces, addresses⟩
    refine (turns_createAddresses listings [] (List.Subset.refl _) report _).mono ?_
    rintro _ _ _ ⟨loop, rfl, turns⟩
    exact .inr ⟨opening, listings, loop, by simp [Listings.transcript, listings], opened, turns.bound⟩
  · rintro _ _ _ ⟨_, rfl, -⟩
    exact .inl ((unbound.append rfl).append rfl)

/-- Whoever answers, an import gives each address that it creates to the device of a host that has
it, and makes it a primary address of this device at once. -/
theorem exchanges_bound {σ : Type} (respond : Responder StoreProtocol σ) (s : σ) (map : NetworkMap)
    (inventory : Inventory) : Joined map.hosts ((importDialogue map inventory).exchanges respond s) :=
  (joined_importNetworkMap map inventory (List.forall_mem_nil _)).exchanges s

end Reconcile

end AssetSeed
