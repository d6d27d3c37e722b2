import AssetSeed.Proofs.Reconcile.Indices
import AssetSeed.Proofs.Reconcile.Turns
import AssetSeed.Proofs.Stage.Missing

/-!
# Devices and the interfaces attached to them

Nothing is assumed about the database here. A device is asked for once for each name that has not
been listed, with the first host of that name. As soon as it is there, it gets one interface if the
address of this host is an IP address or a MAC address, and none otherwise.

## Main definitions

* `HostAddress.IsRecognized` — an IP address or a MAC address.
* `Reconcile.Suits` — a draft of the interface that an address calls for.
* `Reconcile.Turn`, `Reconcile.Turns` — what a loop over hosts says, one host after the other.
* `Reconcile.Equips` — the law of what a loop says.
* `Reconcile.dueHosts` — the hosts that devices are asked for.
* `Reconcile.Attending` — the law of all that is said of devices.

## Main statements

* `Reconcile.Turns.equips` — what a loop says obeys the law.
* `Reconcile.exchanges_attending` — so does all that is said of devices, whoever answers.
-/

namespace AssetSeed

/-- The address is an IP address or a MAC address. -/
def HostAddress.IsRecognized (address : HostAddress) : Prop :=
  (∃ ip, address = .ip ip) ∨ ∃ mac, address = .mac mac

theorem HostAddress.normalizeMac_of_classify {raw mac : String} (h : classify raw = .mac mac) :
    mac = String.ofList (Address.normalizeMac raw.toList) := by
  rw [classify] at h
  split at h
  · cases h
  · split at h
    · exact (HostAddress.mac.inj h).symm
    · cases h

namespace Reconcile

/-- The draft is that of the interface of a device whose host has the address. -/
structure Suits (address : HostAddress) (device : Int) (draft : Draft.Interface) : Prop where
  device : draft.device = device
  name : draft.name = "default"
  type : draft.type = "other"
  macAddress : ∀ mac, draft.macAddress = some mac ↔ address = .mac mac
  /-- What is given as a MAC address is the normal form of what has been read as one. -/
  normalized : ∀ raw mac, address = .classify raw → draft.macAddress = some mac →
    mac = String.ofList (Address.normalizeMac raw.toList)

theorem interfaceFor?_eq_none {device : Int} {address : HostAddress}
    (h : interfaceFor? device address = none) : ¬address.IsRecognized := by
  rintro (⟨ip, rfl⟩ | ⟨mac, rfl⟩) <;> cases h

theorem suits_interfaceFor? {device : Int} {address : HostAddress} {draft : Draft.Interface}
    (h : interfaceFor? device address = some draft) :
    address.IsRecognized ∧ Suits address device draft := by
  have given : ∀ mac, draft.macAddress = some mac ↔ address = .mac mac := by
    cases address <;> cases h <;> simp
  have normalized (raw mac : String) (read : address = .classify raw)
      (hmac : draft.macAddress = some mac) := by
    rw [given mac, read] at hmac
    exact HostAddress.normalizeMac_of_classify hmac
  cases address with
  | ip ip => cases h; exact ⟨.inl ⟨ip, rfl⟩, rfl, rfl, rfl, given, normalized⟩
  | mac mac => cases h; exact ⟨.inr ⟨mac, rfl⟩, rfl, rfl, rfl, given, normalized⟩
  | unrecognized raw => cases h

/-! ## The law of what is said -/

/-- What is said of a host whose device is asked for. -/
inductive Turn (inventory : Inventory) (host : Host) : Transcript → Prop where
  | refused (error : StoreError) :
    Turn inventory host [⟨.create .device (deviceDraft inventory host.name), .error error⟩]
  | bare (r : Record.Device) (unrecognized : ¬host.address.IsRecognized) :
    Turn inventory host [⟨.create .device (deviceDraft inventory host.name), .ok r⟩]
  | equipped (r : Record.Device) {draft : Draft.Interface} (recognized : host.address.IsRecognized)
    (suits : Suits host.address r.id draft) (answer : Except StoreError Record.Interface) :
    Turn inventory host [⟨.create .device (deviceDraft inventory host.name), .ok r⟩,
      ⟨.create .interface draft, answer⟩]

/-- What is said of hosts, one after the other, until something fails for good. -/
inductive Turns (inventory : Inventory) : List Host → Transcript → Except Failure Unit → Prop where
  | nil : Turns inventory [] [] (.ok ())
  | cons {host : Host} {hosts : List Host} {own rest : Transcript} {result : Except Failure Unit}
    (turn : Turn inventory host own) (passed : own.Ends (.ok () : Except Failure Unit))
    (later : Turns inventory hosts rest result) :
    Turns inventory (host :: hosts) (own ++ rest) result
  | stop {host : Host} (hosts : List Host) {own : Transcript} {failure : Failure}
    (turn : Turn inventory host own) (fatal : own.Ends (.error failure : Except Failure Unit)) :
    Turns inventory (host :: hosts) own (.error failure)

/-- The law of what is said of hosts that are due. -/
structure Equips (inventory : Inventory) (due : List Host) (own : Transcript) : Prop where
  requests : ∀ e ∈ own, e.question.creates? = some .device ∨ e.question.creates? = some .interface
  /-- Devices are asked for in the order of the hosts, all of them unless something fails for good. -/
  supplies : Stage.Supplies .device (due.map fun host => deviceDraft inventory host.name) own
  /-- Nothing is said after a fatal failure. -/
  silent : ∀ before e after, own = before ++ e :: after → e.fatal?.isSome → after = []
  /-- A device that has been created gets its interface at once, if its host calls for one. -/
  followed : ∀ before draft r after, own = before ++ ⟨.create .device draft, .ok r⟩ :: after →
    ∃ host ∈ due, draft = deviceDraft inventory host.name ∧
      (host.address.IsRecognized → ∃ interface answer rest, Suits host.address r.id interface ∧
        after = ⟨.create .interface interface, answer⟩ :: rest) ∧
      (¬host.address.IsRecognized → ∀ e ∈ after.head?, e.question.creates? ≠ some .interface)
  /-- No interface is asked for but that of a device that has just been created. -/
  preceded : ∀ before draft answer after,
    own = before ++ ⟨.create .interface draft, answer⟩ :: after →
    ∃ earlier device r, before = earlier ++ [⟨.create .device device, .ok r⟩] ∧ draft.device = r.id

variable {inventory : Inventory} {host : Host} {hosts : List Host} {own rest : Transcript}
  {result : Except Failure Unit}

namespace Turn

theorem drafts (h : Turn inventory host own) :
    own.drafts .device = [deviceDraft inventory host.name] := by
  cases h <;> simp [Transcript.drafts, Exchange.draft?]

theorem requests (h : Turn inventory host own) :
    ∀ e ∈ own, e.question.creates? = some .device ∨ e.question.creates? = some .interface := by
  cases h <;> simp [StoreRequest.creates?]

theorem head (h : Turn inventory host own) :
    ∃ e more, own = e :: more ∧ e.question.creates? = some .device := by
  cases h <;> exact ⟨_, _, rfl, rfl⟩

/-- A device that has been created is either that of the turn or one of those after it. -/
theorem followed (h : Turn inventory host own)
    (onward : ∀ e ∈ rest.head?, e.question.creates? ≠ some .interface) {before after : Transcript}
    {draft : Draft.Device} {r : Record.Device}
    (split : own ++ rest = before ++ ⟨.create .device draft, .ok r⟩ :: after) :
    (draft = deviceDraft inventory host.name ∧
      (host.address.IsRecognized → ∃ interface answer rest, Suits host.address r.id interface ∧
        after = ⟨.create .interface interface, answer⟩ :: rest) ∧
      (¬host.address.IsRecognized → ∀ e ∈ after.head?, e.question.creates? ≠ some .interface)) ∨
    ∃ before', rest = before' ++ ⟨.create .device draft, .ok r⟩ :: after := by
  cases h with
  | refused error =>
    cases before with
    | nil => cases split
    | cons first before => exact .inr ⟨before, (List.cons.inj split).2⟩
  | bare r' unrecognized =>
    cases before with
    | nil =>
      cases split
      exact .inl ⟨rfl, fun recognized => absurd recognized unrecognized, fun _ => onward⟩
    | cons first before => exact .inr ⟨before, (List.cons.inj split).2⟩
  | equipped r' recognized suits answer =>
    obtain _ | ⟨first, _ | ⟨second, before⟩⟩ := before
    · cases split
      exact .inl ⟨rfl, fun _ => ⟨_, _, _, suits, rfl⟩, fun other => absurd recognized other⟩
    · cases split
    · exact .inr ⟨before, (List.cons.inj (List.cons.inj split).2).2⟩

/-- An interface is asked for either in the turn or after it. -/
theorem preceded (h : Turn inventory host own) {before after : Transcript}
    {draft : Draft.Interface} {answer : Except StoreError Record.Interface}
    (split : own ++ rest = before ++ ⟨.create .interface draft, answer⟩ :: after) :
    (∃ earlier device r, before = earlier ++ [⟨.create .device device, .ok r⟩] ∧
      draft.device = r.id) ∨
    ∃ before', before = own ++ before' ∧
      rest = before' ++ ⟨.create .interface draft, answer⟩ :: after := by
  cases h with
  | refused | bare =>
    cases before with
    | nil => cases split
    | cons first before =>
      obtain ⟨rfl, hrest⟩ := List.cons.inj split
      exact .inr ⟨before, rfl, hrest⟩
  | equipped r recognized suits answer' =>
    obtain _ | ⟨first, _ | ⟨second, before⟩⟩ := before
    · cases split
    · cases split
      exact .inl ⟨[], _, r, rfl, suits.device⟩
    · simp only [List.cons_append, List.nil_append, List.cons.injEq] at split
      obtain ⟨rfl, rfl, hrest⟩ := split
      exact .inr ⟨before, rfl, hrest⟩

end Turn

namespace Turns

theorem ends (h : Turns inventory hosts own result) : own.Ends result := by
  induction h with
  | nil => exact List.forall_mem_nil _
  | cons turn passed later ih => exact passed.append ih
  | stop hosts turn fatal => exact fatal

/-- The first thing that is said is that a device is asked for. -/
theorem head (h : Turns inventory hosts own result) :
    ∀ e ∈ own.head?, e.question.creates? ≠ some .interface := by
  have first {host : Host} {own : Transcript} (turn : Turn inventory host own)
      (rest : Transcript) : ∀ e ∈ (own ++ rest).head?, e.question.creates? ≠ some .interface := by
    obtain ⟨e, more, rfl, device⟩ := turn.head
    rintro _ ⟨⟩
    simp [device]
  cases h with
  | nil => simp
  | cons turn passed later => exact first turn _
  | stop hosts turn fatal => simpa using first turn []

theorem supplies (h : Turns inventory hosts own result) :
    Stage.Supplies .device (hosts.map fun host => deviceDraft inventory host.name) own := by
  induction h with
  | nil => exact ⟨List.prefix_rfl, fun _ => rfl⟩
  | @cons host hosts own rest result turn passed later ih =>
    have sent : Transcript.drafts (own ++ rest) .device =
        deviceDraft inventory host.name :: rest.drafts .device := by
      rw [Transcript.drafts, List.filterMap_append]
      exact congrArg (· ++ _) turn.drafts
    constructor
    case sent =>
      rw [sent]
      exact (List.prefix_cons_inj _).2 ih.sent
    case complete =>
      intro quiet
      rw [sent, ih.complete fun e mem => quiet e (List.mem_append_right _ mem)]
      rfl
  | @stop host hosts own failure turn fatal =>
    constructor
    case sent =>
      rw [turn.drafts, List.map_cons]
      exact ⟨_, rfl⟩
    case complete =>
      intro quiet
      obtain ⟨before, last, error, split, -, fatal, -⟩ := fatal
      simp [quiet last (by simp [split])] at fatal

/-- By induction on the hosts: what is said of one of them does not reach into what is said of the
next. -/
theorem equips (h : Turns inventory hosts own result) : Equips inventory hosts own := by
  have supplies := h.supplies
  have silent : ∀ before e after, own = before ++ e :: after → e.fatal?.isSome → after = [] :=
    fun _ _ _ => h.ends.silent
  induction h with
  | nil =>
    exact ⟨by simp, supplies, silent, by simp, by simp⟩
  | @cons host hosts own rest result turn passed later ih =>
    have ih := ih later.supplies fun _ _ _ => later.ends.silent
    constructor
    case requests => exact List.forall_mem_append.2 ⟨turn.requests, ih.requests⟩
    case supplies => exact supplies
    case silent => exact silent
    case followed =>
      intro before draft r after split
      obtain here | ⟨before', hrest⟩ := turn.followed later.head split
      · exact ⟨host, List.mem_cons_self, here⟩
      · obtain ⟨host', mem, found⟩ := ih.followed before' draft r after hrest
        exact ⟨host', List.mem_cons_of_mem _ mem, found⟩
    case preceded =>
      intro before draft answer after split
      obtain here | ⟨before', rfl, hrest⟩ := turn.preceded split
      · exact here
      · obtain ⟨earlier, device, r, rfl, same⟩ := ih.preceded before' draft answer after hrest
        exact ⟨own ++ earlier, device, r, (List.append_assoc _ _ _).symm, same⟩
  | @stop host hosts own failure turn fatal =>
    constructor
    case requests => exact turn.requests
    case supplies => exact supplies
    case silent => exact silent
    case followed =>
      intro before draft r after split
      rw [← List.append_nil own] at split
      obtain here | ⟨before', none⟩ := turn.followed (by simp) split
      · exact ⟨host, List.mem_cons_self, here⟩
      · simp at none
    case preceded =>
      intro before draft answer after split
      rw [← List.append_nil own] at split
      obtain here | ⟨before', rfl, none⟩ := turn.preceded split
      · exact here
      · simp at none

end Turns

/-! ## Whatever is answered -/

theorem turn_createDevice (report : StageReport) (said : Transcript) :
    (createDevice inventory host).Ensures Conduct.recorded (fun result _ said' =>
      ∃ own : Transcript, said' = said ++ own ∧ Turn inventory host own ∧ own.Ends result)
      report said := by
  refine Stage.ensures_ask_bind.2 ?_
  rintro answer _ rfl
  cases answer with
  | error error =>
    refine (@Stage.delivered_tolerate .device (host.name, deviceDraft inventory host.name) error
      report _).mono ?_
    rintro result _ _ ⟨rfl, given_up⟩
    exact ⟨_, rfl, .refused error, given_up.ends⟩
  | ok r =>
    have passed := (@Stage.Delivered.created .device (host.name, deviceDraft inventory host.name)
      r report).ends
    refine Stage.ensures_noteCreated_bind.2 ?_
    rw [createInterface_eq]
    cases found : interfaceFor? r.id host.address with
    | none => exact ⟨_, rfl, .bare r (interfaceFor?_eq_none found), passed⟩
    | some draft =>
      obtain ⟨recognized, suits⟩ := suits_interfaceFor? found
      refine (@Stage.delivered_attempt .interface _ draft _ _).mono ?_
      rintro result _ _ ⟨answer, rfl, attempted⟩
      exact ⟨_, List.append_assoc _ _ _, .equipped r recognized suits answer,
        passed.append attempted.ends⟩

/-- By induction on the hosts. What has been attempted grows by the host of each turn. -/
theorem turns_createDevices {existing : NameIndex} {attempted : List String}
    (report : StageReport) (said : Transcript) :
    (createDevices existing inventory attempted hosts).Ensures Conduct.recorded
      (fun result _ said' => ∃ own, said' = said ++ own ∧
        Turns inventory (firsts Host.name attempted
          (hosts.filter fun host => ¬existing.contains host.name)) own result) report said := by
  induction hosts generalizing attempted report said with
  | nil => exact ⟨[], (List.append_nil _).symm, .nil⟩
  | cons host rest ih =>
    rw [createDevices_cons]
    by_cases listed : existing.contains host.name
    · rw [if_pos (by simp [listed]), List.filter_cons_of_neg (by simpa using listed)]
      exact ih report said
    · rw [List.filter_cons_of_pos (by simpa using listed), firsts_cons]
      by_cases before : host.name ∈ attempted
      · rw [if_pos before, if_pos (by simp [before])]
        exact ih report said
      · rw [if_neg before, if_neg (by simp [listed, before])]
        refine (turn_createDevice report said).bind ?_ ?_
        · rintro _ report _ ⟨own, rfl, turn, passed⟩
          refine (ih report _).mono ?_
          rintro result _ _ ⟨own', rfl, later⟩
          exact ⟨own ++ own', List.append_assoc _ _ _, .cons turn passed later⟩
        · rintro failure _ _ ⟨own, rfl, turn, fatal⟩
          exact ⟨own, rfl, .stop _ turn fatal⟩

/-- The first host of each name that is not listed. -/
def dueHosts (listed : List Record.Device) (hosts : List Host) : List Host :=
  firsts Host.name [] (hosts.filter fun host => ∀ r ∈ listed, r.name ≠ some host.name)

theorem firsts_listed (listed : List Record.Device) (hosts : List Host) :
    firsts Host.name [] (hosts.filter fun host =>
      ¬(Index.ofList (Stage.keyPairs .device listed)).contains host.name) =
      dueHosts listed hosts := by
  refine congrArg (firsts Host.name []) (List.filter_congr fun host _ => ?_)
  refine decide_eq_decide.2 ?_
  rw [Stage.contains_keyPairs]
  simp [Kind.key?]

/-- What is said of devices: a listing, then what the hosts need that are due in view of it, and
another listing unless something has failed for good. -/
inductive Attending (inventory : Inventory) (hosts : List Host) : Transcript → Prop where
  | unlisted (error : StoreError) : Attending inventory hosts [⟨.list .device, .error error⟩]
  | stopped (listed : List Record.Device) {own : Transcript}
    (equips : Equips inventory (dueHosts listed hosts) own)
    (fatal : ∃ e ∈ own, e.fatal?.isSome) :
    Attending inventory hosts (⟨.list .device, .ok listed⟩ :: own)
  | through (listed : List Record.Device) {own : Transcript}
    (equips : Equips inventory (dueHosts listed hosts) own)
    (quiet : ∀ e ∈ own, e.fatal? = none) (answer : Except StoreError (List Record.Device)) :
    Attending inventory hosts
      (⟨.list .device, .ok listed⟩ :: own ++ [⟨.list .device, answer⟩])

theorem attending_ensureDevices (hosts : List Host) (inventory : Inventory)
    (report : StageReport) :
    (ensureDevices hosts inventory).Ensures Conduct.recorded
      (fun _ _ said => Attending inventory hosts said) report [] := by
  refine (Stage.ensures_readIndex_recorded .device report []).bind ?_ ?_
  · rintro _ report _ ⟨_ | listed, rfl, ⟨⟩⟩
    refine (turns_createDevices report _).bind ?_ ?_
    · rintro _ report _ ⟨own, rfl, turns⟩
      rw [firsts_listed] at turns
      refine (Stage.ensures_readIndex_recorded .device report _).mono ?_
      rintro _ _ _ ⟨answer, rfl, -⟩
      exact .through listed turns.equips turns.ends answer
    · rintro _ _ _ ⟨own, rfl, turns⟩
      rw [firsts_listed] at turns
      obtain ⟨before, last, error, split, -, fatal, -⟩ := turns.ends
      exact .stopped listed turns.equips ⟨last, by simp [split], Option.isSome_of_eq_some fatal⟩
  · rintro _ _ _ ⟨error | _, rfl, ⟨⟩⟩
    exact .unlisted error

/-- Whoever answers, devices are asked for one after the other, one for each name that is not listed
and with the first host of this name, and nothing comes between a device and its interface. -/
theorem exchanges_attending {σ : Type} (respond : Responder StoreProtocol σ) (s : σ)
    (hosts : List Host) (inventory : Inventory) (report : StageReport) :
    Attending inventory hosts
        (((ensureDevices hosts inventory).dialogue report).exchanges respond s) ∧
      ∀ listed, ((dueHosts listed hosts).map Host.name).Nodup :=
  ⟨(attending_ensureDevices hosts inventory report).exchanges s, fun _ => nodup_firsts _⟩

end Reconcile

end AssetSeed
