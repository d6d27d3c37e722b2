import AssetSeed.Proofs.Reconcile.Settling
import AssetSeed.Proofs.Reconcile.Turns
import AssetSeed.Proofs.Stage.Ensures
import AssetSeed.Proofs.Store.Reachable
import AssetSeed.Proofs.Store.Transcript
import Mathlib.Data.List.Forall2

/-!
# Descriptions of prefixes

A prefix that is listed is given the label of its VRF if its description is empty, and no other
prefix is changed, whatever the database answers. Without faults, the stage of prefix descriptions
describes every prefix that is to get a description, and there is none left afterwards.

## Main definitions

* `Reconcile.described` — a prefix with the description that it is to get.
* `MemoryStore.describeAll` — a database with all prefixes described.
* `Record.Reference.Labels` — a label: the name, else the display text, else the number.
* `Reconcile.unlabelled` — the prefixes that are changed.
* `Reconcile.Relabels` — the request that a prefix makes for.
* `Reconcile.Backfilled` — the law of all that is said of descriptions.

## Main statements

* `Reconcile.description?_described` — a prefix that is described is not to get a description.
* `Reconcile.backfillDescriptions_run` — the stage, without faults.
* `Record.Reference.labels_iff` — what the label of a record is.
* `Reconcile.description?_eq_some_iff` — what the description of a prefix is to be.
* `Reconcile.backfillDescriptions_settles` — what the stage says, and what it leaves to be said.
-/

namespace AssetSeed

open MemoryStore (respond Undisturbed Unchanged WellFormed)

namespace Reconcile

/-- The prefix with the description that it is to get. -/
def described (network : Record.IpPrefix) : Record.IpPrefix :=
  match description? network with
  | none => network
  | some description => { network with description }

theorem described_of_none {network : Record.IpPrefix} (h : description? network = none) :
    described network = network := by
  simp [described, h]

theorem id_described (network : Record.IpPrefix) : (described network).id = network.id := by
  rw [described]
  split <;> rfl

theorem description?_of_not_isEmpty {network : Record.IpPrefix}
    (h : network.description.isEmpty = false) : description? network = none := by
  simp [description?, h]

theorem description?_described (network : Record.IpPrefix) :
    description? (described network) = none := by
  rw [described]
  cases h : description? network with
  | none => exact h
  | some description =>
    refine description?_of_not_isEmpty ?_
    rw [description?] at h
    split at h
    · simpa using (Option.filter_eq_some_iff.1 h).2
    · cases h

end Reconcile

open Reconcile

/-- The database with all prefixes described. -/
def MemoryStore.describeAll (store : MemoryStore) : MemoryStore :=
  { store with prefixes := store.prefixes.map described }

namespace Reconcile

variable {store : MemoryStore}

/-- The database with the prefixes that are among `networks` described. -/
def describeThose (networks : List Record.IpPrefix) (store : MemoryStore) : MemoryStore :=
  { store with prefixes := store.prefixes.map fun r => if r ∈ networks then described r else r }

theorem ids_describeThose (networks : List Record.IpPrefix) (store : MemoryStore) :
    (describeThose networks store).prefixes.map (·.id) = store.prefixes.map (·.id) := by
  rw [describeThose, List.map_map]
  refine List.map_congr_left fun r _ => ?_
  rw [Function.comp_apply]
  split
  · exact id_described r
  · rfl

theorem describeThose_cons {network : Record.IpPrefix} {rest : List Record.IpPrefix}
    (fresh : network.id ∉ rest.map (·.id)) (store : MemoryStore) :
    describeThose rest (describeThose [network] store) = describeThose (network :: rest) store := by
  simp only [describeThose]
  refine congrArg (fun prefixes => { store with prefixes }) ?_
  rw [List.map_map]
  refine List.map_congr_left fun r _ => ?_
  rw [Function.comp_apply]
  by_cases hr : r = network
  · subst hr
    have hnot : described r ∉ rest :=
      fun h => fresh (List.mem_map.2 ⟨_, h, id_described r⟩)
    simp [hnot]
  · simp [hr]

theorem describePrefix_run (quiet : store.failingUpdates = false)
    (nodup : (store.prefixes.map (·.id)).Nodup) {network : Record.IpPrefix}
    (mem : network ∈ store.prefixes) (report : StageReport) :
    (describePrefix network).runWith respond report store =
      ((.ok (), { report with
        updated := report.updated + if (description? network).isSome then 1 else 0 }),
        describeThose [network] store) := by
  have those : ∀ change : Record.IpPrefix → Record.IpPrefix, change network = described network →
      store.prefixes.map (fun r => if r.id = network.id then change r else r) =
        store.prefixes.map fun r => if r ∈ [network] then described r else r := by
    intro change hchange
    refine List.map_congr_left fun r hr => ?_
    by_cases hid : r.id = network.id
    · obtain rfl := List.inj_on_of_nodup_map nodup hr mem hid
      simp [hchange]
    · have hne : r ≠ network := fun h => hid (congrArg _ h)
      simp [hid, hne]
  rw [describePrefix, describeThose]
  cases hdescription : description? network with
  | none =>
    rw [← those id (described_of_none hdescription).symm]
    simp
  | some description =>
    have hdescribed : described network = { network with description } := by
      rw [described, hdescription]
    have answer : respond (.describe network.id description) store =
        (.ok { network with description }, describeThose [network] store) := by
      rw [describeThose, ← those (fun r => { r with description }) hdescribed.symm]
      change store.describe network.id description = _
      rw [MemoryStore.describe, quiet, MemoryStore.modifyFirst_of_nodup nodup mem]
      rfl
    dsimp only
    rw [Stage.runWith_ask_bind, answer]
    rfl

theorem describePrefixes_run (quiet : store.failingUpdates = false)
    (nodup : (store.prefixes.map (·.id)).Nodup) {networks : List Record.IpPrefix}
    (subset : networks ⊆ store.prefixes) (once : (networks.map (·.id)).Nodup)
    (report : StageReport) : (describePrefixes networks).runWith respond report store =
      ((.ok (), { report with
        updated := report.updated + networks.countP fun network => (description? network).isSome }),
        describeThose networks store) := by
  induction networks generalizing store report with
  | nil =>
    rw [describePrefixes, describeThose]
    simp
  | cons network rest ih =>
    rw [describePrefixes_cons,
      Stage.runWith_bind_of_ok respond (describePrefix_run quiet nodup (subset List.mem_cons_self)
        report)]
    obtain ⟨fresh, once⟩ := List.nodup_cons.1 once
    have quiet' : (describeThose [network] store).failingUpdates = false := quiet
    have nodup' : ((describeThose [network] store).prefixes.map (·.id)).Nodup := by
      rw [ids_describeThose]
      exact nodup
    have subset' : rest ⊆ (describeThose [network] store).prefixes := by
      intro r hr
      have hne : r ∉ [network] := by
        intro h
        exact fresh (List.mem_map.2 ⟨r, hr, congrArg _ (List.mem_singleton.1 h)⟩)
      exact List.mem_map.2 ⟨r, subset (List.mem_cons_of_mem _ hr), if_neg hne⟩
    rw [ih quiet' nodup' subset' once, describeThose_cons fresh, List.countP_cons]
    simp only [Nat.add_assoc, Nat.add_comm (List.countP _ rest)]

/-- Prefixes are listed as long as their description is empty, and all others are described. -/
theorem describeThose_filter (store : MemoryStore) :
    describeThose (store.prefixes.filter fun r => r.description.isEmpty) store =
      store.describeAll := by
  rw [describeThose, MemoryStore.describeAll]
  refine congrArg (fun prefixes => { store with prefixes }) ?_
  refine List.map_congr_left fun r hr => ?_
  split
  · rfl
  · next hnot =>
    refine (described_of_none (description?_of_not_isEmpty ?_)).symm
    simpa [hr] using hnot

/-- How many prefixes are to get a description. -/
def pendingDescriptions (store : MemoryStore) : Nat :=
  (store.prefixes.filter fun r => r.description.isEmpty).countP fun r => (description? r).isSome

theorem backfillDescriptions_run (quiet : Undisturbed store) (wellFormed : store.WellFormed)
    (report : StageReport) : backfillDescriptions.runWith respond report store =
      ((.ok (), { report with updated := report.updated + pendingDescriptions store }),
        store.describeAll) := by
  have listed : respond .listUndescribed store =
      (.ok (store.prefixes.filter fun r => r.description.isEmpty), store) :=
    MemoryStore.list_of_outage (quiet.outage .ipPrefix) _
  have nodup : (store.prefixes.map (·.id)).Nodup := wellFormed.nodup .ipPrefix
  rw [backfillDescriptions, Stage.runWith_bind_of_ok respond
    (Stage.runWith_demand_of_ok respond listed report),
    describePrefixes_run quiet.failingUpdates nodup (List.filter_subset_self _)
      (nodup.sublist (List.filter_sublist.map _)), describeThose_filter, pendingDescriptions]

/-! ## Described databases -/

/-- No prefix is to get a description. -/
def Described (store : MemoryStore) : Prop :=
  ∀ r ∈ store.prefixes, description? r = none

theorem described_describeAll (store : MemoryStore) : Described store.describeAll := by
  intro r hr
  obtain ⟨r, -, rfl⟩ := List.mem_map.1 hr
  exact description?_described r

theorem Described.pendingDescriptions (h : Described store) : pendingDescriptions store = 0 := by
  rw [Reconcile.pendingDescriptions, List.countP_eq_zero]
  intro r hr
  simp [h r (List.filter_subset_self _ hr)]

theorem Described.describeAll (h : Described store) : store.describeAll = store := by
  rw [MemoryStore.describeAll]
  have same : store.prefixes.map described = store.prefixes.map id :=
    List.map_congr_left fun r hr => described_of_none (h r hr)
  rw [same, List.map_id]

end Reconcile

/-! ## Labels -/

namespace Record.Reference

/-- The text is the name, if there is one. Without a name it is the display text, if there is one,
else the number. The empty text counts as none. -/
inductive Labels (r : Reference) : String → Prop where
  | name {text : String} (named : r.name = some text) (nonempty : text ≠ "") : Labels r text
  | display {text : String} (unnamed : ∀ name, r.name = some name → name = "")
    (shown : r.display = some text) (nonempty : text ≠ "") : Labels r text
  | id (unnamed : ∀ name, r.name = some name → name = "")
    (hidden : ∀ text, r.display = some text → text = "") : Labels r (toString r.id)

variable {r : Reference} {text : String}

theorem Labels.ne_empty (h : r.Labels text) : text ≠ "" := by
  cases h with
  | name _ nonempty => exact nonempty
  | display _ _ nonempty => exact nonempty
  | id => cases r.id <;> simp [toString, Int.repr, Nat.repr_ne_empty]

theorem label_of_name (named : r.name = some text) (nonempty : text ≠ "") : r.label = text := by
  simp [label, named, nonempty]

/-- Without a name, the display text comes first. -/
theorem label_of_unnamed (unnamed : ∀ name, r.name = some name → name = "") :
    r.label = (r.display.toList.find? (!·.isEmpty)).getD (toString r.id) := by
  have passed : r.name.toList.find? (!·.isEmpty) = none := by simpa using unnamed
  rw [label, List.find?_append, passed, Option.none_or]

theorem Labels.eq_label (h : r.Labels text) : text = r.label := by
  cases h with
  | name named nonempty => exact (label_of_name named nonempty).symm
  | display unnamed shown nonempty => simp [label_of_unnamed unnamed, shown, nonempty]
  | id unnamed hidden =>
    have passed : r.display.toList.find? (!·.isEmpty) = none := by simpa using hidden
    rw [label_of_unnamed unnamed, passed, Option.getD_none]

theorem labels_label (r : Reference) : r.Labels r.label := by
  by_cases named : ∃ name, r.name = some name ∧ name ≠ ""
  · obtain ⟨name, named, nonempty⟩ := named
    rw [label_of_name named nonempty]
    exact .name named nonempty
  · have unnamed : ∀ name, r.name = some name → name = "" := by
      intro name h
      exact by_contra fun nonempty => named ⟨name, h, nonempty⟩
    by_cases shown : ∃ text, r.display = some text ∧ text ≠ ""
    · obtain ⟨text, shown, nonempty⟩ := shown
      have labels : r.Labels text := .display unnamed shown nonempty
      exact labels.eq_label ▸ labels
    · have hidden : ∀ text, r.display = some text → text = "" := by
        intro text h
        exact by_contra fun nonempty => shown ⟨text, h, nonempty⟩
      have labels : r.Labels (toString r.id) := .id unnamed hidden
      exact labels.eq_label ▸ labels

theorem labels_iff : r.Labels text ↔ text = r.label := by
  constructor
  · exact Labels.eq_label
  · rintro rfl
    exact r.labels_label

end Record.Reference

namespace Reconcile

variable {network : Record.IpPrefix} {networks : List Record.IpPrefix}

/-- The prefixes that have a VRF and no description. -/
def unlabelled (networks : List Record.IpPrefix) : List Record.IpPrefix :=
  networks.filter fun network => network.description = "" ∧ network.vrf.isSome

theorem description?_eq_some_iff {description : String} :
    description? network = some description ↔
      network.description = "" ∧ ∃ vrf, network.vrf = some vrf ∧ vrf.Labels description := by
  rw [description?]
  by_cases undescribed : network.description = ""
  · rw [if_pos (by simp [undescribed]), Option.filter_eq_some_iff]
    cases network.vrf with
    | none => simp
    | some vrf =>
      have filled := vrf.labels_label.ne_empty
      simp only [Option.map_some, Option.some.injEq, Record.Reference.labels_iff, undescribed,
        true_and, exists_eq_left']
      constructor
      · exact fun h => h.1.symm
      · rintro rfl
        simp [filled]
  · simp [undescribed]

theorem isSome_description?_iff :
    (description? network).isSome ↔ network.description = "" ∧ network.vrf.isSome := by
  rw [Option.isSome_iff_exists, Option.isSome_iff_exists]
  constructor
  · rintro ⟨description, h⟩
    obtain ⟨undescribed, vrf, hvrf, -⟩ := description?_eq_some_iff.1 h
    exact ⟨undescribed, vrf, hvrf⟩
  · rintro ⟨undescribed, vrf, hvrf⟩
    exact ⟨vrf.label, description?_eq_some_iff.2 ⟨undescribed, vrf, hvrf, vrf.labels_label⟩⟩

theorem description?_eq_none_iff :
    description? network = none ↔ ¬(network.description = "" ∧ network.vrf.isSome) := by
  rw [← isSome_description?_iff, Option.not_isSome_iff_eq_none]

/-- The prefix is to be given the label of its VRF. Nothing is said about the answer. -/
def Relabels (network : Record.IpPrefix) (e : Exchange StoreProtocol) : Prop :=
  ∃ vrf description, network.vrf = some vrf ∧ vrf.Labels description ∧ description ≠ "" ∧
    e.question = .describe network.id description

/-- The law of what is said of descriptions, and of how it ends: a listing, and then one request for
each prefix of it that has a VRF and no description, in the order of the listing. -/
inductive Backfilled : Transcript → Except Failure Unit → Prop where
  | unlisted (error : StoreError) :
    Backfilled [⟨.listUndescribed, .error error⟩] (.error (.ofStore error))
  | through (listed : List Record.IpPrefix) {own : Transcript}
    (updates : List.Forall₂ Relabels (unlabelled listed) own) :
    Backfilled (⟨.listUndescribed, .ok listed⟩ :: own) (.ok ())

/-- If nothing that is listed is to be changed, nothing is said after the listing. -/
theorem Backfilled.eq_singleton {said : Transcript} {result : Except Failure Unit}
    {listed : List Record.IpPrefix} (h : Backfilled said result)
    (first : said.head? = some ⟨.listUndescribed, .ok listed⟩) (settled : unlabelled listed = []) :
    said = [⟨.listUndescribed, .ok listed⟩] := by
  cases h with
  | unlisted error => cases first
  | through listed updates =>
    cases first
    rw [settled] at updates
    cases updates
    rfl

/-! ## Whatever is answered -/

/-- One prefix. Whether it could be changed makes no difference. -/
theorem relabels_describePrefix (network : Record.IpPrefix) (report : StageReport)
    (said : Transcript) :
    (describePrefix network).Ensures Conduct.recorded (fun result _ said' =>
      result = .ok () ∧ ∃ own, said' = said ++ own ∧
        List.Forall₂ Relabels (unlabelled [network]) own) report said := by
  rw [describePrefix]
  cases found : description? network with
  | none =>
    have passed : unlabelled [network] = [] := by
      simpa [unlabelled] using description?_eq_none_iff.1 found
    rw [passed]
    exact ⟨rfl, [], (List.append_nil said).symm, .nil⟩
  | some description =>
    obtain ⟨undescribed, vrf, hvrf, labels⟩ := description?_eq_some_iff.1 found
    have due : unlabelled [network] = [network] := by simp [unlabelled, undescribed, hvrf]
    rw [due]
    refine Stage.ensures_ask_bind.2 fun answer said' hsaid => ?_
    have relabels : Relabels network ⟨.describe network.id description, answer⟩ :=
      ⟨vrf, description, hvrf, labels, labels.ne_empty, rfl⟩
    cases answer <;> exact ⟨rfl, _, hsaid, .cons relabels .nil⟩

/-- By induction on the prefixes: none of them is passed over because of an earlier one. -/
theorem relabels_describePrefixes (networks : List Record.IpPrefix) (report : StageReport)
    (said : Transcript) :
    (describePrefixes networks).Ensures Conduct.recorded (fun result _ said' =>
      result = .ok () ∧ ∃ own, said' = said ++ own ∧
        List.Forall₂ Relabels (unlabelled networks) own) report said := by
  induction networks generalizing report said with
  | nil => exact ⟨rfl, [], (List.append_nil said).symm, .nil⟩
  | cons network rest ih =>
    rw [describePrefixes_cons]
    refine (relabels_describePrefix network report said).bind ?_ ?_
    · rintro _ report _ ⟨-, own, rfl, first⟩
      refine (ih report _).mono ?_
      rintro result _ _ ⟨rfl, own', rfl, later⟩
      have split : unlabelled (network :: rest) = unlabelled [network] ++ unlabelled rest := by
        rw [unlabelled, ← List.singleton_append, List.filter_append]
        rfl
      rw [split]
      exact ⟨rfl, own ++ own', List.append_assoc _ _ _, List.rel_append first later⟩
    · rintro _ _ _ ⟨⟨⟩, -⟩

theorem backfilled_backfillDescriptions (report : StageReport) :
    backfillDescriptions.Ensures Conduct.recorded
      (fun result _ said => Backfilled said result) report [] := by
  refine Stage.ensures_bind.2 (Stage.ensures_demand.2 ?_)
  rintro (error | listed) _ rfl
  · exact .unlisted error
  · refine (relabels_describePrefixes listed report _).mono ?_
    rintro _ _ _ ⟨rfl, own, rfl, updates⟩
    exact .through listed updates

/-- Whoever answers, what is said obeys the law. -/
theorem backfilled_exchanges {σ : Type} (respond : Responder StoreProtocol σ) (s : σ)
    (report : StageReport) :
    Backfilled ((backfillDescriptions.dialogue report).exchanges respond s)
      (backfillDescriptions.runWith respond report s).1.1 :=
  (backfilled_backfillDescriptions report).exchanges s

/-! ## Without faults -/

variable {store : MemoryStore}

/-- A database in which everything has been described is only asked for its prefixes. -/
theorem exchanges_of_described (quiet : Undisturbed store) (h : Described store)
    (report : StageReport) :
    (backfillDescriptions.dialogue report).exchanges MemoryStore.respond store =
      [⟨.listUndescribed, .ok (store.prefixes.filter (·.description.isEmpty))⟩] := by
  have listing : (MemoryStore.respond .listUndescribed store).1 =
      .ok (store.prefixes.filter (·.description.isEmpty)) :=
    congrArg Prod.fst (MemoryStore.list_of_outage (quiet.outage .ipPrefix) _)
  have first : ((backfillDescriptions.dialogue report).exchanges MemoryStore.respond store).head? =
      some ⟨.listUndescribed, (MemoryStore.respond .listUndescribed store).1⟩ := rfl
  rw [listing] at first
  refine (backfilled_exchanges MemoryStore.respond store report).eq_singleton first ?_
  refine List.filter_eq_nil_iff.2 fun network mem => ?_
  simpa using description?_eq_none_iff.1 (h network (List.mem_of_mem_filter mem))

/-- Whoever answers, each prefix that is listed without a description and with a VRF is given the
label of its VRF, and no other prefix is changed. Without faults, every prefix with a VRF has a
description then, and the next time nothing is left to be changed. -/
theorem backfillDescriptions_settles :
    (∀ {σ : Type} (respond : Responder StoreProtocol σ) (s : σ) (report : StageReport),
      Backfilled ((backfillDescriptions.dialogue report).exchanges respond s)
        (backfillDescriptions.runWith respond report s).1.1) ∧
    ∀ (store : MemoryStore) (report report' : StageReport), store.Reachable → Undisturbed store →
      let after := (backfillDescriptions.runWith MemoryStore.respond report store).2
      (∀ network ∈ after.prefixes, network.vrf.isSome → network.description ≠ "") ∧
      ∃ listed, (backfillDescriptions.dialogue report').exchanges MemoryStore.respond after =
        [⟨.listUndescribed, .ok listed⟩] := by
  refine ⟨backfilled_exchanges, fun store report report' reachable quiet => ?_⟩
  have run := congrArg Prod.snd (backfillDescriptions_run quiet reachable.wellFormed report)
  have described := described_describeAll store
  rw [run]
  constructor
  · intro network mem vrf undescribed
    exact description?_eq_none_iff.1 (described network mem) ⟨undescribed, vrf⟩
  · have quiet' : Undisturbed store.describeAll := ⟨quiet.outage, quiet.failingUpdates⟩
    exact ⟨_, exchanges_of_described quiet' described report'⟩

/-- A prefix without a description, in a network with a name. -/
def unlabelledStore : MemoryStore :=
  ((MemoryStore.ofObjectTypes []).addPrefix "10.0.0.0/24" "" (some "DMZ")).2

theorem backfillDescriptions_settles_unlabelledStore :
    let report : StageReport := { stage := .prefixDescription }
    let after := (backfillDescriptions.runWith MemoryStore.respond report unlabelledStore).2
    unlabelledStore.Reachable ∧ Undisturbed unlabelledStore ∧
      unlabelledStore.prefixes.map (·.description) = [""] ∧
      after.prefixes.map (·.description) = ["DMZ"] ∧
      ∃ listed, (backfillDescriptions.dialogue report).exchanges MemoryStore.respond after =
        [⟨.listUndescribed, .ok listed⟩] := by
  have reachable : unlabelledStore.Reachable := (MemoryStore.Reachable.ofObjectTypes []).addPrefix ..
  have quiet : Undisturbed unlabelledStore := ⟨fun _ => rfl, rfl⟩
  exact ⟨reachable, quiet, by decide +kernel, by decide +kernel,
    (backfillDescriptions_settles.2 unlabelledStore _ _ reachable quiet).2⟩

end Reconcile

end AssetSeed
