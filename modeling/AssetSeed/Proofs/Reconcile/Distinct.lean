import AssetSeed.Proofs.Reconcile.Frames
import AssetSeed.Proofs.Reconcile.Indices
import AssetSeed.Proofs.Store.Faithful

/-!
# No duplicates

A reconciliation asks for no key twice, and for none that is there. So a faithful database that
holds no duplicates is left without any, although it would take them.

## Main definitions

* `Seen` — the invariant of a loop that creates what is missing.
* `Attached` — interfaces are asked for only for devices just created, once for each.

## Main statements

* `Faithful.keeps_ensure_nodup`, `Faithful.keeps_ensureDevices_nodup` — the stages make no
  duplicates.
* `Reconcile.run_distinct` — neither does a reconciliation, and no device gets two interfaces.
-/

namespace AssetSeed

open Reconcile

variable {σ : Type} {respond : Responder StoreProtocol σ} {valid : σ → Prop}
  {holds : σ → (kind : Kind) → List kind.Record}

namespace Faithful

variable {kind : Kind} {p : List String → Prop} {s : σ}

theorem spares_keyed (h : Faithful respond valid holds) (p : List String → Prop) :
    respond.conduct.Spares kind (Keyed valid holds kind p) := by
  intro request spared s answer s' held hc
  refine h.keyed_step held hc fun keys hkeys => ?_
  rwa [Transcript.createdKeys_eq_nil spared, List.append_nil]

/-- The index that is read has the keys that are held. -/
theorem ensures_readIndex (h : Faithful respond valid holds) (report : StageReport)
    (held : Keyed valid holds kind p s) : (Stage.readIndex kind).Ensures respond.conduct
      (fun result _ s => Keyed valid holds kind p s ∧ ∀ existing, result = .ok existing →
        ∀ key, existing.contains key = true ↔ key ∈ kind.keys (holds s kind)) report s := by
  refine Stage.ensures_bind.2 (Stage.ensures_demand.2 fun answer s' hc => ?_)
  have held' := (h.spares_keyed p).list kind s answer s' held hc
  cases answer with
  | error e => exact ⟨held', fun _ heq => nomatch heq⟩
  | ok records =>
    refine ⟨held', fun existing heq key => ?_⟩
    cases heq
    have same : kind.keys (holds s' kind) = kind.keys (holds s kind) := by
      rw [(h.absorbs_step held.valid hc).keys]
      exact List.append_nil _
    rw [Stage.contains_keyPairs, same, Kind.mem_keys]
    simp only [(h.list kind s s' records held.valid hc).mem_iff]

end Faithful

/-! ## Creating what is missing -/

/-- Keys differ, and each is in the index or among those asked for since. -/
structure Seen (existing : NameIndex) (attempted keys : List String) : Prop where
  nodup : keys.Nodup
  seen : ∀ key ∈ keys, existing.contains key = true ∨ key ∈ attempted

namespace Seen

variable {existing : NameIndex} {attempted keys : List String} {key : String}

theorem attempt (h : Seen existing attempted keys) (key : String) :
    Seen existing (key :: attempted) keys where
  nodup := h.nodup
  seen k hk := (h.seen k hk).imp_right (List.mem_cons_of_mem key)

theorem concat (h : Seen existing attempted keys) (missing : existing.contains key = false)
    (unasked : key ∉ attempted) : Seen existing (key :: attempted) (keys ++ [key]) where
  nodup := by
    refine List.nodup_append_comm.1 (List.nodup_cons.2 ⟨fun hkey => ?_, h.nodup⟩)
    obtain hexisting | hattempted := h.seen key hkey
    · simp [missing] at hexisting
    · exact unasked hattempted
  seen := by
    refine List.forall_mem_append.2 ⟨(h.attempt key).seen, List.forall_mem_singleton.2 ?_⟩
    exact .inr List.mem_cons_self

end Seen

namespace Faithful

variable {kind : Kind} {existing : NameIndex} {attempted : List String} {s s' : σ}

/-- A create of a key that has not been seen yet. -/
theorem keyed_create (h : Faithful respond valid holds) (kind : Kind) (draft : kind.Draft)
    {answer : Except StoreError kind.Record}
    (held : Keyed valid holds kind (Seen existing attempted) s)
    (missing : existing.contains (kind.draftKey draft) = false)
    (unasked : kind.draftKey draft ∉ attempted)
    (hc : respond.conduct (.create kind draft) s answer s') :
    Keyed valid holds kind (Seen existing (kind.draftKey draft :: attempted)) s' := by
  refine h.keyed_step held hc fun keys seen => ?_
  rw [Transcript.createdKeys_create]
  split
  · exact seen.concat missing unasked
  · rw [List.append_nil]
    exact seen.attempt _

theorem keyed_createMissing (h : Faithful respond valid holds)
    {wanted : List (String × kind.Draft)}
    (drafted : ∀ item ∈ wanted, kind.draftKey item.2 = item.1) (report : StageReport)
    (held : Keyed valid holds kind (Seen existing attempted) s) :
    (Stage.createMissing kind existing attempted wanted).Ensures respond.conduct
      (fun _ _ s => Keyed valid holds kind List.Nodup s) report s := by
  induction wanted generalizing attempted report s with
  | nil => exact held.mono fun _ => Seen.nodup
  | cons item rest ih =>
    obtain ⟨key, draft⟩ := item
    obtain ⟨hkey, later⟩ := List.forall_mem_cons.1 drafted
    obtain rfl : kind.draftKey draft = key := hkey
    rw [Stage.createMissing_cons]
    split
    · exact ih later report held
    · next hnew =>
      simp only [Bool.or_eq_true, not_or, Bool.not_eq_true, List.contains_iff_mem] at hnew
      have turn : (Stage.attempt kind (kind.draftKey draft) draft).Ensures respond.conduct
          (fun _ _ s => Keyed valid holds kind
            (Seen existing (kind.draftKey draft :: attempted)) s) report s := by
        refine Stage.ensures_ask_bind.2 fun answer s' hc => ?_
        have held' := h.keyed_create kind draft held hnew.1.2 hnew.2 hc
        cases answer with
        | ok _ => exact Stage.Keeps.noteCreated _ _ held'
        | error e => exact Stage.Keeps.tolerate _ e _ _ held'
      refine turn.bind (fun _ report s held => ih later report held) fun _ _ s held => ?_
      exact held.mono fun _ => Seen.nodup

/-- A stage that looks at what is there before it creates, and again thereafter. -/
theorem keeps_reading_nodup (h : Faithful respond valid holds) {create : NameIndex → Stage Unit}
    (created : ∀ existing report s, Keyed valid holds kind (Seen existing []) s →
      (create existing).Ensures respond.conduct (fun _ _ s => Keyed valid holds kind List.Nodup s)
        report s) :
    (Stage.readIndex kind >>= fun existing => create existing >>= fun _ =>
      Stage.readIndex kind).Keeps respond.conduct (Keyed valid holds kind List.Nodup) := by
  intro report s held
  refine (h.ensures_readIndex report held).bind ?_ fun _ _ _ held => held.1
  rintro existing report s ⟨held, listed⟩
  have start : Keyed valid holds kind (Seen existing []) s :=
    ⟨held.valid, held.keys, fun key hkey => .inl ((listed existing rfl key).2 hkey)⟩
  refine (created existing report s start).bind ?_ fun _ _ _ held => held
  intro _ report s held
  exact Stage.Keeps.readIndex ((h.spares_keyed _).list kind) report s held

/-- A stage that creates what is missing makes no duplicates. -/
theorem keeps_ensure_nodup (h : Faithful respond valid holds)
    {wanted : NameIndex → List (String × kind.Draft)} (drafted : Stage.Drafted kind wanted) :
    (Stage.ensure kind wanted).Keeps respond.conduct (Keyed valid holds kind List.Nodup) :=
  h.keeps_reading_nodup fun existing report _ held =>
    h.keyed_createMissing (drafted existing) report held

/-! ## Devices -/

/-- The interface of a device is asked for after the device, and changes no device. -/
theorem keyed_createDevice (h : Faithful respond valid holds) (inventory : Inventory) {host : Host}
    (report : StageReport) (held : Keyed valid holds .device (Seen existing attempted) s)
    (missing : existing.contains host.name = false) (unasked : host.name ∉ attempted) :
    (createDevice inventory host).Ensures respond.conduct
      (fun _ _ s => Keyed valid holds .device (Seen existing (host.name :: attempted)) s)
      report s := by
  have spared : respond.conduct.Spares .device
      (Keyed valid holds .device (Seen existing (host.name :: attempted))) := h.spares_keyed _
  refine Stage.ensures_ask_bind.2 fun answer s' hc => ?_
  have held' : Keyed valid holds .device (Seen existing (host.name :: attempted)) s' :=
    h.keyed_create .device (deviceDraft inventory host.name) held missing unasked hc
  cases answer with
  | ok device =>
    exact Stage.ensures_noteCreated_bind.2
      (keeps_createInterface (spared.create nofun) host device.id _ _ held')
  | error e => exact Stage.Keeps.tolerate _ e _ _ held'

theorem keyed_createDevices (h : Faithful respond valid holds) (inventory : Inventory)
    (hosts : List Host) (report : StageReport)
    (held : Keyed valid holds .device (Seen existing attempted) s) :
    (createDevices existing inventory attempted hosts).Ensures respond.conduct
      (fun _ _ s => Keyed valid holds .device List.Nodup s) report s := by
  induction hosts generalizing attempted report s with
  | nil => exact held.mono fun _ => Seen.nodup
  | cons host rest ih =>
    rw [createDevices_cons]
    split
    · exact ih report held
    · next hnew =>
      simp only [Bool.or_eq_true, not_or, Bool.not_eq_true, List.contains_iff_mem] at hnew
      refine (h.keyed_createDevice inventory report held hnew.1 hnew.2).bind
        (fun _ report s held => ih report held) fun _ _ s held => ?_
      exact held.mono fun _ => Seen.nodup

theorem keeps_ensureDevices_nodup (h : Faithful respond valid holds) (hosts : List Host)
    (inventory : Inventory) : (ensureDevices hosts inventory).Keeps respond.conduct
      (Keyed valid holds .device List.Nodup) :=
  h.keeps_reading_nodup fun _ report _ held => h.keyed_createDevices inventory hosts report held

end Faithful

/-! ## Interfaces -/

/-- No interface was asked for but for devices that had been created, and one for each at most. -/
def Attached (said : Transcript) : Prop :=
  ∀ device, said.countP (Exchange.isAttached device) ≤ (said.createdIds .device).count device

theorem Attached.concat {said : Transcript} (h : Attached said) (request : StoreRequest)
    (spared : request.creates? ≠ some .interface) (answer : Except StoreError request.Reply) :
    Attached (said ++ [⟨request, answer⟩]) := by
  intro device
  have unattached : Exchange.isAttached device ⟨request, answer⟩ = false := by
    cases request with
    | create kind draft =>
      cases kind with
      | interface => exact absurd rfl spared
      | _ => rfl
    | _ => rfl
  have before := h device
  simp only [Transcript.createdIds, List.filterMap_append, List.count_append, List.countP_append,
    List.countP_singleton, unattached] at before ⊢
  exact Nat.le_add_right_of_le before

/-- A device that has just been created may get an interface. -/
theorem attached_createInterface (host : Host) {said : Transcript} {draft : Draft.Device}
    (r : Record.Device) (report : StageReport) (h : Attached said) :
    (createInterface host r.id).Ensures Conduct.recorded (fun _ _ said => Attached said) report
      (said ++ [⟨.create .device draft, .ok r⟩]) := by
  have created : Attached (said ++ [⟨.create .device draft, .ok r⟩]) :=
    h.concat (.create .device draft) nofun _
  rw [createInterface_eq]
  split
  · exact created
  · next interface hinterface =>
    refine Stage.ensures_ask_bind.2 fun answer said' hsaid => ?_
    subst hsaid
    have attached : Attached (said ++ [⟨.create .device draft, .ok r⟩] ++
        [⟨.create .interface interface, answer⟩]) := by
      intro device
      have before := h device
      have owner : interface.device = r.id := interfaceFor?_device hinterface
      have ids : Transcript.createdIds (said ++ [⟨.create .device draft, .ok r⟩] ++
          [⟨.create .interface interface, answer⟩]) .device = said.createdIds .device ++ [r.id] := by
        cases answer <;>
          simp [Transcript.createdIds, Exchange.createdId?, Kind.id, List.filterMap_cons]
      rw [ids, List.count_append, List.count_singleton]
      simp only [List.countP_append, List.countP_singleton, Exchange.isAttached, owner]
      simpa using before
    cases answer with
    | ok _ => exact Stage.Keeps.noteCreated _ _ attached
    | error e => exact Stage.Keeps.tolerate _ e _ _ attached

theorem attached_createDevice (inventory : Inventory) (host : Host) :
    (createDevice inventory host).Keeps Conduct.recorded Attached := by
  intro report said h
  refine Stage.ensures_ask_bind.2 fun answer said' hsaid => ?_
  subst hsaid
  cases answer with
  | ok r => exact Stage.ensures_noteCreated_bind.2 (attached_createInterface host r _ h)
  | error e => exact Stage.Keeps.tolerate _ e _ _ (h.concat (.create .device _) nofun _)

namespace Reconcile

theorem attached_run (catalog : Catalog) (source? : Option MapSource) (palette : Palette) :
    (run catalog source? palette).Ensures Conduct.recorded (fun _ said => Attached said) [] := by
  have spared : Conduct.recorded.Spares .interface Attached := by
    rintro request spared said answer _ h rfl
    exact h.concat request spared answer
  have start : Attached [] := fun _ => Nat.le_refl 0
  exact ensures_run spared (fun other _ ne _ => .ensure (spared.list other) (spared.create ne))
    (keeps_ensureDevices (spared.list .device) attached_createDevice) nofun catalog source? palette
    start

/-- A reconciliation makes no duplicates but of addresses and interfaces, although the database would
take them. It asks for one interface at most for each device. -/
theorem run_distinct (h : Faithful respond valid holds) {s : σ} (start : valid s)
    (catalog : Catalog) (source? : Option MapSource) (palette : Palette) :
    (∀ kind : Kind, kind ≠ .interface → kind ≠ .address → (kind.keys (holds s kind)).Nodup →
      (kind.keys (holds ((run catalog source? palette).run respond s).2 kind)).Nodup) ∧
    ∀ device, ((run catalog source? palette).exchanges respond s).countP
      (Exchange.isAttached device) ≤ 1 := by
  constructor
  · intro kind interface address nodup
    have spared : respond.conduct.Spares kind (Keyed valid holds kind List.Nodup) :=
      h.spares_keyed _
    have ensured : ∀ other wanted, other ≠ .interface → Stage.Drafted other wanted →
        (Stage.ensure other wanted).Keeps respond.conduct (Keyed valid holds kind List.Nodup) := by
      intro other wanted _ drafted
      by_cases hkind : other = kind
      · subst hkind
        exact h.keeps_ensure_nodup drafted
      · exact .ensure (spared.list other) (spared.create hkind)
    have devices : ∀ hosts inventory, (ensureDevices hosts inventory).Keeps respond.conduct
        (Keyed valid holds kind List.Nodup) := by
      by_cases hkind : .device = kind
      · subst hkind
        exact h.keeps_ensureDevices_nodup
      · exact keeps_ensureDevices (spared.list .device) fun _ _ =>
          keeps_createDevice (spared.create hkind _) (spared.create (Ne.symm interface))
    have ensures := ensures_run spared ensured devices (Ne.symm address) catalog source? palette
      ⟨start, nodup⟩
    exact ensures.run.keys
  · intro device
    have attached : Attached ((run catalog source? palette).exchanges respond s) :=
      (attached_run catalog source? palette).exchanges s
    have nodup := (h.absorbs_run (run catalog source? palette) start).nodup .device
    exact Nat.le_trans (attached device) (List.nodup_iff_count_le_one.1 nodup device)

/-- Every name twice. -/
def repeatingCatalog : Catalog where
  staffGroup := "staff"
  defaultGroup := "staff"
  manufacturers := ["Acme", "Acme"]
  roles := ["Sensor", "Sensor"]
  deviceTypes := ["Model-X", "Model-X"]
  sites := ["HQ", "HQ"]

/-- One network in two spellings, and one host twice. -/
def repeatingMap : NetworkMap where
  segments := ["2001:db8::/32", "2001:0db8:0::/32"].filterMap fun text =>
    (Network.ofText? text.toList).map fun network => { name := "lab", network }
  hosts := [{ name := "h1", address := .classify "10.0.0.5" },
    { name := "h1", address := .classify "10.0.0.6" }]

/-- A database that would take duplicates is left with none. -/
theorem run_distinct_repeating :
    (MemoryStore.ofObjectTypes []).WellFormed ∧
    (∀ kind : Kind, (kind.keys ((MemoryStore.ofObjectTypes []).records kind)).Nodup) ∧
    (∀ kind : Kind, kind ≠ .interface → kind ≠ .address →
      (kind.keys (((run repeatingCatalog (some (.ok (some repeatingMap))) default).run
        MemoryStore.respondLeniently (MemoryStore.ofObjectTypes [])).2.records kind)).Nodup) ∧
    (∀ device, ((run repeatingCatalog (some (.ok (some repeatingMap))) default).exchanges
      MemoryStore.respondLeniently (MemoryStore.ofObjectTypes [])).countP
        (Exchange.isAttached device) ≤ 1) ∧
    Kind.all.map (fun kind => kind.keys
      (((run repeatingCatalog (some (.ok (some repeatingMap))) default).run
        MemoryStore.respondLeniently (MemoryStore.ofObjectTypes [])).2.records kind)) =
      [["staff"], [], ["staff_permission"], ["Acme"], ["Sensor"], ["Model-X"], ["HQ"],
        ["2001:db8::/32"], ["h1"], ["default"], ["10.0.0.5/32"]] := by
  have nodup : ∀ kind : Kind, (kind.keys ((MemoryStore.ofObjectTypes []).records kind)).Nodup := by
    intro kind
    cases kind <;> exact List.nodup_nil
  have distinct := run_distinct MemoryStore.faithful_respondLeniently
    (MemoryStore.WellFormed.ofObjectTypes []) repeatingCatalog (some (.ok (some repeatingMap)))
    default
  exact ⟨.ofObjectTypes [], nodup, fun kind interface address =>
    distinct.1 kind interface address (nodup kind), distinct.2, by decide +kernel⟩

end Reconcile

end AssetSeed
