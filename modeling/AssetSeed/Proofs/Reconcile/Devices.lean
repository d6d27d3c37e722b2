import AssetSeed.Proofs.Reconcile.Settling
import AssetSeed.Proofs.Reconcile.Turns

/-!
# The loop over devices

Without faults but refused names, the loop leaves each host with a device of its name, unless the
database refuses one. If that is so before, the loop changes nothing.

## Main definitions

* `StageReport.Extends` — how a report goes on.
* `Reconcile.Equipped` — there are devices for all hosts that can have one.

## Main statements

* `Reconcile.createDevices_run` — the loop.
-/

namespace AssetSeed

/-- A report that goes on from another one, without an early end. -/
structure StageReport.Extends (old new : StageReport) : Prop where
  created : old.created ≤ new.created
  updated : old.updated ≤ new.updated
  aborted : new.aborted = old.aborted

namespace StageReport.Extends

theorem refl (report : StageReport) : Extends report report := ⟨by simp, by simp, rfl⟩

theorem trans {old mid new : StageReport} (first : Extends old mid) (second : Extends mid new) :
    Extends old new where
  created := by
    have := first.created
    have := second.created
    omega
  updated := by
    have := first.updated
    have := second.updated
    omega
  aborted := second.aborted.trans first.aborted

theorem noteCreated (report : StageReport) :
    Extends report { report with created := report.created + 1 } :=
  ⟨by simp, by simp, rfl⟩

theorem noteUpdated (report : StageReport) :
    Extends report { report with updated := report.updated + 1 } :=
  ⟨by simp, by simp, rfl⟩

theorem noteSkipped (report : StageReport) :
    Extends report { report with skipped := report.skipped + 1 } :=
  ⟨by simp, by simp, rfl⟩

theorem noteRejected (report : StageReport) (rejection : Rejection) :
    Extends report { report with rejections := report.rejections ++ [rejection] } :=
  ⟨by simp, by simp, rfl⟩

end StageReport.Extends

open MemoryStore (respond Undisturbed Unchanged Grows)
open StageReport (Extends)

variable {store : MemoryStore}

theorem Stage.attempt_run (kind : Kind) (key : String) (draft : kind.Draft)
    (report : StageReport) : ∃ report' new, (Stage.attempt kind key draft).runWith respond report
      store = ((.ok (), report'), new) ∧ Extends report report' ∧ Grows [kind] store new := by
  cases h : store.verdict kind draft with
  | some e =>
    exact ⟨_, _, runWith_attempt_of_refused h key report, .noteRejected report _, .of_counted store⟩
  | none =>
    obtain ⟨record, -, hrun⟩ := exists_runWith_attempt h key report
    exact ⟨_, _, hrun, .noteCreated report, .of_grow draft record⟩

namespace Reconcile

variable {inventory : Inventory} {host : Host}

theorem createInterface_run (store : MemoryStore) (host : Host) (device : Int)
    (report : StageReport) :
    ∃ report' new, (createInterface host device).runWith respond report store =
      ((.ok (), report'), new) ∧ Extends report report' ∧ Grows [.interface] store new := by
  rw [createInterface_eq]
  cases interfaceFor? device host.address with
  | none => exact ⟨report, store, rfl, .refl report, .refl store⟩
  | some draft => exact Stage.attempt_run .interface (host.name ++ " interface") draft report

theorem createDevice_run_of_refused {e : StoreError}
    (h : store.verdict .device (deviceDraft inventory host.name) = some e) (report : StageReport) :
    (createDevice inventory host).runWith respond report store =
      ((.ok (), { report with rejections := report.rejections ++ [⟨host.name, e⟩] }),
        store.counted) := by
  have rejected := MemoryStore.isRejected_of_verdict h
  rw [createDevice, Stage.runWith_ask_bind, MemoryStore.respond_create_of_verdict h]
  exact Stage.runWith_tolerate respond rejected host.name report store.counted

theorem createDevice_run_of_accepted
    (h : store.verdict .device (deviceDraft inventory host.name) = none) (report : StageReport) :
    ∃ report' new, (createDevice inventory host).runWith respond report store =
      ((.ok (), report'), new) ∧ Extends report report' ∧ Grows [.device, .interface] store new ∧
      (new.index .device).contains host.name := by
  obtain ⟨record, hbuild, answer⟩ := MemoryStore.exists_respond_create_eq_grow h
  obtain ⟨report', new, hrun, extend, grows⟩ := createInterface_run
    (store.grow .device _ record) host (record (store.lastId + 1)).id
    { report with created := report.created + 1 }
  refine ⟨report', new, ?_, (Extends.noteCreated report).trans extend,
    (Grows.of_grow _ record).append grows, ?_⟩
  · rw [createDevice, Stage.runWith_ask_bind, answer]
    exact hrun
  · exact grows.contains_index (Stage.contains_index_grow_self hbuild)

/-- There is a device of the name, or the database refuses one. -/
def HasDevice (inventory : Inventory) (store : MemoryStore) (name : String) : Prop :=
  (store.index .device).contains name ∨
    (store.verdict .device (deviceDraft inventory name)).isSome

theorem HasDevice.mono {new : MemoryStore} {name : String} (h : HasDevice inventory store name)
    (grows : Grows [.device, .interface] store new) : HasDevice inventory new name := by
  by_cases hnew : (new.index .device).contains name
  · exact .inl hnew
  · have absent : ∀ r ∈ new.records .device,
        Kind.device.key? r ≠ some (Kind.device.draftKey (deviceDraft inventory name)) :=
      fun r hr hkey => hnew (MemoryStore.contains_index.2 ⟨r, hr, hkey⟩)
    obtain hold | hrefused := h
    · exact absurd (grows.contains_index hold) hnew
    · obtain ⟨e, he⟩ := Option.isSome_iff_exists.1 hrefused
      have hrefused' := grows.verdict_eq (by decide) he absent
      exact .inr (by simp [hrefused'])

/-- There are devices for all hosts, where the database does not refuse them. -/
def Equipped (inventory : Inventory) (hosts : List Host) (store : MemoryStore) : Prop :=
  ∀ host ∈ hosts, HasDevice inventory store host.name

/-- What the loop over devices has done, from a database and a report to others. -/
structure DevicesOutcome (existing : NameIndex) (inventory : Inventory) (attempted : List String)
    (hosts : List Host) (store new : MemoryStore) (report report' : StageReport) : Prop where
  extend : Extends report report'
  grows : Grows [.device, .interface] store new
  equipped : ∀ host ∈ hosts, host.name ∈ attempted ∨ HasDevice inventory new host.name
  idle : (∀ host ∈ hosts, existing.contains host.name ∨
      (store.verdict .device (deviceDraft inventory host.name)).isSome) →
    report'.created = report.created ∧ report'.updated = report.updated ∧ Unchanged store new

namespace DevicesOutcome

variable {existing : NameIndex} {attempted : List String} {rest : List Host}
  {mid new : MemoryStore} {report report₁ report' : StageReport}

/-- A turn that passes over the host. -/
theorem cons_of_skipped (h : DevicesOutcome existing inventory attempted rest store new report
    report') (has : host.name ∈ attempted ∨ HasDevice inventory new host.name) :
    DevicesOutcome existing inventory attempted (host :: rest) store new report report' where
  extend := h.extend
  grows := h.grows
  equipped := List.forall_mem_cons.2 ⟨has, h.equipped⟩
  idle all := h.idle fun other hother => all other (List.mem_cons_of_mem _ hother)

/-- A turn that asks for a device, and leads to `mid`. -/
theorem cons_of_asked (h : DevicesOutcome existing inventory (host.name :: attempted) rest mid new
    report₁ report') (extend : Extends report report₁)
    (grows : Grows [.device, .interface] store mid) (has : HasDevice inventory mid host.name)
    (idle : existing.contains host.name ∨
        (store.verdict .device (deviceDraft inventory host.name)).isSome →
      report₁.created = report.created ∧ report₁.updated = report.updated ∧ Unchanged store mid) :
    DevicesOutcome existing inventory attempted (host :: rest) store new report report' where
  extend := extend.trans h.extend
  grows := grows.trans h.grows
  equipped := by
    refine List.forall_mem_cons.2 ⟨.inr (has.mono h.grows), fun other hother => ?_⟩
    obtain hmem | hhas := h.equipped other hother
    · obtain hname | hmem := List.mem_cons.1 hmem
      · exact .inr (hname ▸ has.mono h.grows)
      · exact .inl hmem
    · exact .inr hhas
  idle all := by
    obtain ⟨hcreated, hupdated, unchanged⟩ := idle (all host List.mem_cons_self)
    obtain ⟨hcreated', hupdated', unchanged'⟩ := h.idle fun other hother => by
      rw [(unchanged.spares .device).verdict_eq]
      exact all other (List.mem_cons_of_mem _ hother)
    exact ⟨hcreated'.trans hcreated, hupdated'.trans hupdated, unchanged.trans unchanged'⟩

end DevicesOutcome

theorem createDevices_run {existing : NameIndex}
    (known : ∀ name, existing.contains name → (store.index .device).contains name)
    (inventory : Inventory) (attempted : List String) (hosts : List Host) (report : StageReport) :
    ∃ report' new, (createDevices existing inventory attempted hosts).runWith respond report
      store = ((.ok (), report'), new) ∧
      DevicesOutcome existing inventory attempted hosts store new report report' := by
  induction hosts generalizing store attempted report with
  | nil =>
    exact ⟨report, store, rfl, .refl report, .refl store, (fun _ h => nomatch h),
      fun _ => ⟨rfl, rfl, .refl store⟩⟩
  | cons host rest ih =>
    rw [createDevices_cons]
    by_cases hskip : existing.contains host.name || attempted.contains host.name
    · obtain ⟨report', new, hrun, outcome⟩ := ih known attempted report
      refine ⟨report', new, by rw [if_pos hskip, hrun], outcome.cons_of_skipped ?_⟩
      simp only [Bool.or_eq_true, List.contains_iff_mem] at hskip
      obtain hexisting | hattempted := hskip
      · exact .inr (.inl (outcome.grows.contains_index (known _ hexisting)))
      · exact .inl hattempted
    · rw [if_neg hskip]
      have later {mid : MemoryStore} (grows : Grows [.device, .interface] store mid) :
          ∀ name, existing.contains name → (mid.index .device).contains name :=
        fun name h => grows.contains_index (known name h)
      cases hverdict : store.verdict .device (deviceDraft inventory host.name) with
      | some e =>
        have grows : Grows [.device, .interface] store store.counted := .of_counted store
        obtain ⟨report', new, hrun, outcome⟩ := ih (later grows) (host.name :: attempted)
          { report with rejections := report.rejections ++ [⟨host.name, e⟩] }
        refine ⟨report', new, ?_, outcome.cons_of_asked (.noteRejected report _) grows ?_
          fun _ => ⟨rfl, rfl, .counted store⟩⟩
        · rw [Stage.runWith_bind_of_ok respond (createDevice_run_of_refused hverdict report), hrun]
        · exact HasDevice.mono (.inr (by simp [hverdict])) grows
      | none =>
        obtain ⟨report₁, mid, hturn, extend, grows, has⟩ :=
          createDevice_run_of_accepted hverdict report
        obtain ⟨report', new, hrun, outcome⟩ := ih (later grows) (host.name :: attempted) report₁
        refine ⟨report', new, ?_, outcome.cons_of_asked extend grows (.inl has) fun hidle => ?_⟩
        · rw [Stage.runWith_bind_of_ok respond hturn, hrun]
        · rw [Bool.or_eq_true, not_or] at hskip
          obtain hexisting | hrefused := hidle
          · exact absurd hexisting hskip.1
          · simp [hverdict] at hrefused

end Reconcile

end AssetSeed
