import AssetSeed.Proofs.Reconcile.Fillers
import AssetSeed.Proofs.Store.Likeness

/-!
# A failure stays where it is

The listings of one kind fail for good, and the reconciliation goes on. Compared with one of the
same database that does not fail, nothing differs but identifiers, outside of the collections that
depend on the listing. The two reconciliations are followed side by side, stage by stage.

## Main definitions

* `Kind.spoils` — the collections that depend on a listing.
* `Paired` — the databases of two reconciliations, one of which has the failure.
* `Stage.Abreast` — two stages that do the same, from such databases.
* `Reconcile.Isolated` — what the failure leaves alone.

## Main statements

* `Stage.abreast_ensure` — stages that do the same if what is wanted looks alike.
* `Reconcile.Isolates.of_stage` — what a stage leaves, spoiled or not.
* `Reconcile.reconcile_isolated` — a failure leaves everything else alone.
-/

namespace AssetSeed

open Reconcile
open MemoryStore (respond Ailing Alike Twins Grows)

/-- The collections that may differ if no listing of the kind goes through. -/
def Kind.spoils : Kind → List Kind
  | .objectType => [.permission]
  | .manufacturer => [.manufacturer, .deviceType]
  | kind => [kind]

/-- The databases look alike, but for what is spoiled. All listings of the first go through, and the
listings of one kind fail in the second. -/
structure Paired (failed : Kind) (a b : MemoryStore) : Prop
    extends MemoryStore.Alike failed.spoils a b where
  well : Ailing none a
  ailing : Ailing (some failed) b

/-- The kinds whose records the stages of a catalog list. -/
def Catalog.listed : List Kind :=
  .objectType :: kinds

theorem Kind.ipPrefix_not_mem_spoils :
    ∀ failed ∈ Catalog.listed, Kind.ipPrefix ∉ failed.spoils := by
  decide

/-- A stage that is not spoiled gets its listing. -/
theorem Kind.ne_of_not_mem_spoils : ∀ failed ∈ Catalog.listed, ∀ kind ∈ Catalog.kinds,
    kind ∉ failed.spoils → kind ≠ failed := by
  decide

variable {failed kind : Kind} {a a' b b' : MemoryStore}

theorem Paired.grow (paired : Paired failed a b) {draft draft' : kind.Draft}
    {record record' : Int → kind.Record} (twins : Twins a b kind draft draft')
    (made : a.build kind draft = .ok record) (made' : b.build kind draft' = .ok record')
    (unshared : kind ≠ .ipPrefix) :
    Paired failed (a.grow kind draft record) (b.grow kind draft' record') where
  toAlike := paired.toAlike.grow twins made made' unshared
  well := paired.well.congr (MemoryStore.outages_grow draft record)
  ailing := paired.ailing.congr (MemoryStore.outages_grow draft' record')

theorem Paired.counted (paired : Paired failed a b) : Paired failed a.counted b.counted where
  toAlike := paired.toAlike.counted
  well := paired.well.congr rfl
  ailing := paired.ailing.congr rfl

/-- Whatever is spoiled may grow, in the one as in the other. -/
theorem Paired.of_grows (paired : Paired failed a b) (left : Grows failed.spoils a a')
    (right : Grows failed.spoils b b') (unspoiled : .ipPrefix ∉ failed.spoils) :
    Paired failed a' b' where
  toAlike := ((paired.toAlike.of_grows left unspoiled).symm.of_grows right unspoiled).symm
  well := paired.well.congr left.outages
  ailing := paired.ailing.congr right.outages

/-! ## Stages side by side -/

namespace Stage

variable {α β : Type}

/-- Both stages go through, with the same report. -/
def Abreast (post : α → MemoryStore → α → MemoryStore → Prop) (stage stage' : Stage α)
    (a b : MemoryStore) : Prop :=
  ∀ report, ∃ x report' a' y b', stage.runWith respond report a = ((.ok x, report'), a') ∧
    stage'.runWith respond report b = ((.ok y, report'), b') ∧ post x a' y b'

namespace Abreast

variable {post : β → MemoryStore → β → MemoryStore → Prop}

theorem pure {post : α → MemoryStore → α → MemoryStore → Prop} {x y : α} (h : post x a y b) :
    Abreast post (pure x) (pure y) a b :=
  fun report => ⟨x, report, a, y, b, rfl, rfl, h⟩

theorem bind {mid : α → MemoryStore → α → MemoryStore → Prop} {stage stage' : Stage α}
    {next next' : α → Stage β} (h : Abreast mid stage stage' a b)
    (rest : ∀ x a y b, mid x a y b → Abreast post (next x) (next' y) a b) :
    Abreast post (stage >>= next) (stage' >>= next') a b := by
  intro report
  obtain ⟨x, report', a', y, b', left, right, hmid⟩ := h report
  obtain ⟨x', report'', a'', y', b'', left', right', hpost⟩ := rest x a' y b' hmid report'
  refine ⟨x', report'', a'', y', b'', ?_, ?_, hpost⟩
  · rw [runWith_bind_of_ok respond left, left']
  · rw [runWith_bind_of_ok respond right, right']

end Abreast

/-- A listing that goes through in both. -/
theorem abreast_demand_list (left : a.outage kind = .times 0) (right : b.outage kind = .times 0) :
    Abreast (fun x a' y b' => x = a'.records kind ∧ y = b'.records kind ∧ a' = a ∧ b' = b)
      (demand (.list kind)) (demand (.list kind)) a b := by
  have listed {store : MemoryStore} (well : store.outage kind = .times 0) :
      respond (.list kind) store = (.ok (store.records kind), store) := by
    have answer := MemoryStore.list_of_outage well fun _ => true
    rwa [List.filter_true] at answer
  intro report
  exact ⟨_, report, a, _, b, runWith_demand_of_ok respond (listed left) report,
    runWith_demand_of_ok respond (listed right) report, rfl, rfl, rfl, rfl⟩

theorem abreast_readIndex (left : a.outage kind = .times 0) (right : b.outage kind = .times 0) :
    Abreast (fun x a' y b' => x = a'.index kind ∧ y = b'.index kind ∧ a' = a ∧ b' = b)
      (readIndex kind) (readIndex kind) a b := by
  refine (abreast_demand_list left right).bind ?_
  rintro _ a' _ b' ⟨rfl, rfl, same⟩
  exact .pure ⟨rfl, rfl, same⟩

/-- A draft and its twin are refused alike, or make records that look alike. -/
theorem abreast_attempt (paired : Paired failed a b) (unspoiled : kind ∉ failed.spoils)
    (unshared : kind ≠ .ipPrefix) {draft draft' : kind.Draft}
    (twins : Twins a b kind draft draft') (key : String) :
    Abreast (fun _ a' _ b' => Paired failed a' b' ∧ Grows [kind] a a' ∧ Grows [kind] b b')
      (attempt kind key draft) (attempt kind key draft') a b := by
  intro report
  have same := paired.verdict_eq unspoiled twins
  cases verdict : a.verdict kind draft with
  | some e =>
    exact ⟨(), _, a.counted, (), b.counted, runWith_attempt_of_refused verdict key report,
      runWith_attempt_of_refused (same ▸ verdict) key report, paired.counted, .of_counted a,
      .of_counted b⟩
  | none =>
    obtain ⟨record, made, left⟩ := exists_runWith_attempt verdict key report
    obtain ⟨record', made', right⟩ := exists_runWith_attempt (same ▸ verdict) key report
    exact ⟨(), _, _, (), _, left, right, paired.grow twins made made' unshared,
      .of_grow draft record, .of_grow draft' record'⟩

/-- What is wanted in the one is wanted in the other, under the same key. -/
def Abreast.Wanted (kind : Kind) (a b : MemoryStore) :
    List (String × kind.Draft) → List (String × kind.Draft) → Prop :=
  List.Forall₂ fun item item' => item.1 = item'.1 ∧ Twins a b kind item.2 item'.2

theorem abreast_createMissing (paired : Paired failed a b) (unspoiled : kind ∉ failed.spoils)
    (unshared : kind ≠ .ipPrefix) {existing existing' : NameIndex}
    (same : ∀ key, existing.contains key = existing'.contains key) (attempted : List String)
    {wanted wanted' : List (String × kind.Draft)} (twins : Abreast.Wanted kind a b wanted wanted') :
    Abreast (fun _ a' _ b' => Paired failed a' b') (createMissing kind existing attempted wanted)
      (createMissing kind existing' attempted wanted') a b := by
  induction wanted generalizing wanted' attempted a b with
  | nil =>
    cases twins
    exact .pure paired
  | cons item rest ih =>
    obtain _ | ⟨⟨hkey, twin⟩, twins⟩ := twins
    obtain ⟨key, draft⟩ := item
    rename_i item' rest'
    obtain ⟨key', draft'⟩ := item'
    obtain rfl : key = key' := hkey
    rw [createMissing_cons, createMissing_cons, same]
    split
    · exact ih paired attempted twins
    · refine (abreast_attempt paired unspoiled unshared twin key).bind ?_
      rintro _ a' _ b' ⟨paired', left, right⟩
      -- the drafts that are left are twins in the databases as they are now
      exact ih paired' _ (twins.imp fun _ _ h => ⟨h.1, h.2.grows left right⟩)

/-- The stages do the same if what is wanted looks alike. -/
theorem abreast_ensure (paired : Paired failed a b) (unspoiled : kind ∉ failed.spoils)
    (unshared : kind ≠ .ipPrefix) (listed : kind ≠ failed)
    {wanted wanted' : NameIndex → List (String × kind.Draft)}
    (twins : Abreast.Wanted kind a b (wanted (a.index kind)) (wanted' (b.index kind))) :
    Abreast (fun x a' y b' => Paired failed a' b' ∧ x = a'.index kind ∧ y = b'.index kind)
      (ensure kind wanted) (ensure kind wanted') a b := by
  have reads {a b : MemoryStore} (paired : Paired failed a b) :=
    abreast_readIndex (a := a) (paired.well.outage_eq nofun)
      (paired.ailing.outage_eq fun h => listed (Option.some.inj h).symm)
  refine (reads paired).bind ?_
  rintro _ _ _ _ ⟨rfl, rfl, rfl, rfl⟩
  have same := MemoryStore.contains_index_eq (paired.faces kind unspoiled)
  refine (abreast_createMissing paired unspoiled unshared same [] twins).bind ?_
  intro _ a' _ b' paired' report
  obtain ⟨x, report', _, y, _, left, right, rfl, rfl, rfl, rfl⟩ := reads paired' report
  exact ⟨_, report', _, _, _, left, right, paired', rfl, rfl⟩

/-! ## What a stage does to a database with an ailing listing -/

theorem preserves_grows_list {failed? : Option Kind} {start : MemoryStore}
    (ailing : Ailing failed? start) (listed : Kind) :
    respond.conduct.Preserves (Grows [kind] start) (.list listed) := by
  intro store answer store' grows h
  have unchanged := (ailing.congr grows.outages).list_snd fun _ : listed.Record => true
  rw [show store.list listed _ = (answer, store') from h] at unchanged
  obtain rfl : store' = store := unchanged
  exact grows

theorem preserves_grows_create {start : MemoryStore} (draft : kind.Draft) :
    respond.conduct.Preserves (Grows [kind] start) (.create kind draft) := by
  intro store answer store' grows h
  cases MemoryStore.effect_of_respond h with
  | refused => exact grows.trans (.of_counted store)
  | created => exact grows.trans (.of_grow _ _)

theorem grows_ensure {failed? : Option Kind} {start : MemoryStore} (ailing : Ailing failed? start)
    (wanted : NameIndex → List (String × kind.Draft)) :
    (ensure kind wanted).Keeps respond.conduct (Grows [kind] start) :=
  .ensure (preserves_grows_list ailing kind) preserves_grows_create

end Stage

/-! ## Reconciliations side by side -/

/-- What the two dialogues come to with databases in memory. -/
def Dialogue.Beside {α β : Type} (post : α × MemoryStore → β × MemoryStore → Prop)
    (d : StoreDialogue α) (d' : StoreDialogue β) (a b : MemoryStore) : Prop :=
  post (d.run respond a) (d'.run respond b)

theorem Dialogue.Beside.bind {α β α' β' : Type} {mid : α × MemoryStore → β × MemoryStore → Prop}
    {post : α' × MemoryStore → β' × MemoryStore → Prop} {d : StoreDialogue α} {d' : StoreDialogue β}
    {next : α → StoreDialogue α'} {next' : β → StoreDialogue β'} (h : Beside mid d d' a b)
    (rest : ∀ x a y b, mid (x, a) (y, b) → Beside post (next x) (next' y) a b) :
    Beside post (d >>= next) (d' >>= next') a b := by
  rw [Beside, run_bind, run_bind]
  exact rest _ _ _ _ h

theorem Stage.Abreast.conclude {α : Type} [Inhabited α]
    {post : α → MemoryStore → α → MemoryStore → Prop} {stage stage' : Stage α}
    (h : Stage.Abreast post stage stage' a b) (name : StageName) :
    Dialogue.Beside (fun first second => first.1.1 = second.1.1 ∧
      post first.1.2 first.2 second.1.2 second.2) (stage.conclude name) (stage'.conclude name)
      a b := by
  obtain ⟨x, report, a', y, b', left, right, hpost⟩ := h { stage := name }
  rw [Dialogue.Beside, run_conclude_of_ok respond left, run_conclude_of_ok respond right]
  exact ⟨rfl, hpost⟩

/-- The reports are of one stage, and they are the same unless the stage is spoiled. -/
def StageReport.SameUnless (spoiled : List Kind) (report report' : StageReport) : Prop :=
  report.stage = report'.stage ∧ (report.stage ∉ spoiled.map Kind.stage → report = report')

namespace Reconcile

/-- What a stage has done to the one database and to the other. -/
structure Isolates (failed kind : Kind) (a b : MemoryStore)
    (first second : (StageReport × NameIndex) × MemoryStore) : Prop where
  left : Grows [kind] a first.2
  right : Grows [kind] b second.2
  paired : Paired failed first.2 second.2
  report : first.1.1.SameUnless failed.spoils second.1.1
  current : kind ∉ failed.spoils →
    first.1.2 = first.2.index kind ∧ second.1.2 = second.2.index kind

/-- A stage that is spoiled may do what it likes to what is spoiled. Any other one does the same to
both databases. -/
theorem Isolates.of_stage {stage stage' : Stage NameIndex} (paired : Paired failed a b)
    (left : stage.Keeps respond.conduct (Grows [kind] a))
    (right : stage'.Keeps respond.conduct (Grows [kind] b))
    (balances : stage.Balances kind.stage []) (balances' : stage'.Balances kind.stage [])
    (unspoiled : .ipPrefix ∉ failed.spoils)
    (abreast : kind ∉ failed.spoils → Stage.Abreast (fun x a' y b' =>
      Paired failed a' b' ∧ x = a'.index kind ∧ y = b'.index kind) stage stage' a b) :
    Dialogue.Beside (Isolates failed kind a b) (stage.conclude kind.stage)
      (stage'.conclude kind.stage) a b := by
  have left := (left.conclude kind.stage (.refl a)).run
  have right := (right.conclude kind.stage (.refl b)).run
  have named : ((stage.conclude kind.stage).run respond a).1.1.stage = kind.stage :=
    (balances.named.exchanges a).1
  have named' : ((stage'.conclude kind.stage).run respond b).1.1.stage = kind.stage :=
    (balances'.named.exchanges b).1
  by_cases spoiled : kind ∈ failed.spoils
  · refine ⟨left, right, ?_, ⟨named.trans named'.symm, fun h => ?_⟩, fun h => absurd spoiled h⟩
    · have subset : [kind] ⊆ failed.spoils := by simpa using spoiled
      exact paired.of_grows (left.mono subset) (right.mono subset) unspoiled
    · exact absurd (List.mem_map_of_mem spoiled) (named ▸ h)
  · obtain ⟨same, paired', current⟩ := (abreast spoiled).conclude kind.stage
    exact ⟨left, right, paired', ⟨named.trans named'.symm, fun _ => same⟩, fun _ => current⟩

/-! ## The stages of the catalog -/

theorem wanted_map {α : Type} {items : List α} {item item' : α → String × kind.Draft}
    (twins : ∀ x, (item x).1 = (item' x).1 ∧ Twins a b kind (item x).2 (item' x).2) :
    Stage.Abreast.Wanted kind a b (items.map item) (items.map item') :=
  List.forall₂_map_left_iff.2 <| List.forall₂_map_right_iff.2 <| List.forall₂_same.2 fun x _ =>
    twins x

/-- A device type can be made if there is a manufacturer. -/
theorem isSome_mention?_lowest (store : MemoryStore) :
    (store.mention? .manufacturer (store.index .manufacturer).lowest?).isSome ↔
      store.faces .manufacturer ≠ [] := by
  have keyed : Kind.Keyed .manufacturer := fun _ => rfl
  have standIn := standIn_index keyed False store
  rw [MemoryStore.faces, Ne, List.map_eq_nil_iff]
  cases lowest : (store.index .manufacturer).lowest? with
  | none =>
    have absent : store.records .manufacturer = [] := (standIn.absent lowest).resolve_left id
    simp [MemoryStore.mention?, absent]
  | some id =>
    obtain ⟨_, r, ⟨-, before, after, records, -⟩, hid⟩ := standIn.last id lowest
    simp [MemoryStore.mention?, records, hid]

theorem twins_deviceType (faces : a.faces .manufacturer = b.faces .manufacturer)
    (model slug : String) :
    Twins a b .deviceType ⟨(a.index .manufacturer).lowest?, model, slug⟩
      ⟨(b.index .manufacturer).lowest?, model, slug⟩ := by
  have same := (isSome_mention?_lowest a).trans (faces ▸ (isSome_mention?_lowest b).symm)
  refine ⟨rfl, fun e => ?_⟩
  simp only [MemoryStore.build]
  cases left : a.mention? .manufacturer (a.index .manufacturer).lowest? <;>
    cases right : b.mention? .manufacturer (b.index .manufacturer).lowest? <;>
    simp [left, right] at same ⊢

section Stages

variable (paired : Paired failed a b) (listed : failed ∈ Catalog.listed)

include paired listed

theorem isolates_ensure (seeded : kind ∈ Catalog.kinds)
    {wanted wanted' : NameIndex → List (String × kind.Draft)}
    (twins : kind ∉ failed.spoils →
      Stage.Abreast.Wanted kind a b (wanted (a.index kind)) (wanted' (b.index kind))) :
    Dialogue.Beside (Isolates failed kind a b) ((Stage.ensure kind wanted).conclude kind.stage)
      ((Stage.ensure kind wanted').conclude kind.stage) a b := by
  refine .of_stage paired (Stage.grows_ensure paired.well _) (Stage.grows_ensure paired.ailing _)
    (.ensure kind _) (.ensure kind _) (Kind.ipPrefix_not_mem_spoils failed listed)
    fun unspoiled => ?_
  have unshared : kind ≠ .ipPrefix := by
    rintro rfl
    revert seeded
    decide
  exact Stage.abreast_ensure paired unspoiled unshared
    (Kind.ne_of_not_mem_spoils failed listed kind seeded unspoiled) (twins unspoiled)

theorem isolates_ensureGroups (catalog : Catalog) :
    Dialogue.Beside (Isolates failed .group a b) ((ensureGroups catalog).conclude .group)
      ((ensureGroups catalog).conclude .group) a b :=
  isolates_ensure paired listed (by decide) fun _ =>
    wanted_map fun _ => ⟨rfl, .of_mentions_eq_nil rfl rfl⟩

/-- The permissions are for other groups and object types, under the same names. -/
theorem isolates_ensurePermissions (catalog : Catalog) (groups groups' : NameIndex) :
    Dialogue.Beside (Isolates failed .permission a b)
      ((ensurePermissions catalog groups).conclude .permission)
      ((ensurePermissions catalog groups').conclude .permission) a b := by
  have keeps {failed? : Option Kind} {start : MemoryStore} (ailing : Ailing failed? start)
      (groups : NameIndex) :
      (ensurePermissions catalog groups).Keeps respond.conduct (Grows [.permission] start) :=
    (Stage.Keeps.demand (Stage.preserves_grows_list ailing .objectType)).bind fun _ =>
      Stage.grows_ensure ailing _
  refine .of_stage paired (keeps paired.well groups) (keeps paired.ailing groups')
    (balances_ensurePermissions catalog groups) (balances_ensurePermissions catalog groups')
    (Kind.ipPrefix_not_mem_spoils failed listed) fun unspoiled => ?_
  have typed : some failed ≠ some .objectType := by
    rintro ⟨⟩
    exact unspoiled List.mem_cons_self
  refine (Stage.abreast_demand_list (paired.well.outage_eq nofun)
    (paired.ailing.outage_eq typed)).bind ?_
  rintro types _ types' _ ⟨-, -, rfl, rfl⟩
  exact Stage.abreast_ensure paired unspoiled nofun
    (Kind.ne_of_not_mem_spoils failed listed _ (by decide) unspoiled)
    (wanted_map fun _ => ⟨rfl, .of_mentions_eq_nil rfl rfl⟩)

theorem isolates_ensureManufacturers (names : List String) :
    Dialogue.Beside (Isolates failed .manufacturer a b)
      ((ensureManufacturers names).conclude .manufacturer)
      ((ensureManufacturers names).conclude .manufacturer) a b :=
  isolates_ensure paired listed (by decide) fun _ =>
    wanted_map fun _ => ⟨rfl, .of_mentions_eq_nil rfl rfl⟩

/-- The colours differ, but the roles that they are drawn for do not. -/
theorem isolates_ensureRoles (names : List String) (palette palette' : Palette) :
    Dialogue.Beside (Isolates failed .role a b) ((ensureRoles names palette).conclude .role)
      ((ensureRoles names palette').conclude .role) a b := by
  refine isolates_ensure paired listed (by decide) fun unspoiled => ?_
  have same := MemoryStore.contains_index_eq (paired.faces .role unspoiled)
  simp only [same]
  refine List.forall₂_map_left_iff.2 (List.forall₂_map_right_iff.2 ?_)
  have painted : List.Forall₂ (fun item item' : String × String => item.1 = item'.1)
      (palette.paint (names.filter fun name => !(b.index .role).contains name))
      (palette'.paint (names.filter fun name => !(b.index .role).contains name)) := by
    rw [← List.forall₂_map_right_iff, ← List.forall₂_map_left_iff, map_fst_paint, map_fst_paint,
      List.forall₂_eq_eq_eq]
  refine painted.imp ?_
  rintro ⟨name, color⟩ ⟨_, color'⟩ rfl
  exact ⟨rfl, .of_mentions_eq_nil rfl rfl⟩

theorem isolates_ensureDeviceTypes (models : List String) {manufacturers manufacturers' : NameIndex}
    (current : .manufacturer ∉ failed.spoils →
      manufacturers = a.index .manufacturer ∧ manufacturers' = b.index .manufacturer) :
    Dialogue.Beside (Isolates failed .deviceType a b)
      ((ensureDeviceTypes models manufacturers).conclude .deviceType)
      ((ensureDeviceTypes models manufacturers').conclude .deviceType) a b := by
  refine isolates_ensure paired listed (by decide) fun unspoiled => ?_
  have referred : .manufacturer ∉ failed.spoils := by
    revert unspoiled
    cases failed <;> decide
  obtain ⟨rfl, rfl⟩ := current referred
  have faces := paired.faces .manufacturer referred
  exact wanted_map fun model => ⟨rfl, twins_deviceType faces model _⟩

theorem isolates_ensureSites (names : List String) :
    Dialogue.Beside (Isolates failed .site a b) ((ensureSites names).conclude .site)
      ((ensureSites names).conclude .site) a b :=
  isolates_ensure paired listed (by decide) fun _ =>
    wanted_map fun _ => ⟨rfl, .of_mentions_eq_nil rfl rfl⟩

end Stages

theorem isolated_runCatalog (paired : Paired failed a b) (listed : failed ∈ Catalog.listed)
    (catalog : Catalog) (palette palette' : Palette) :
    Dialogue.Beside (fun first second => Paired failed first.2 second.2 ∧
        List.Forall₂ (StageReport.SameUnless failed.spoils) first.1.1 second.1.1)
      (runCatalog catalog palette) (runCatalog catalog palette') a b := by
  refine (isolates_ensureGroups paired listed catalog).bind ?_
  rintro ⟨group, groups⟩ a ⟨group', groups'⟩ b ⟨-, -, paired, hgroup, -⟩
  refine (isolates_ensurePermissions paired listed catalog groups groups').bind ?_
  rintro ⟨permission, permissions⟩ a ⟨permission', permissions'⟩ b ⟨-, -, paired, hpermission, -⟩
  refine (isolates_ensureManufacturers paired listed catalog.manufacturers).bind ?_
  rintro ⟨manufacturer, manufacturers⟩ a ⟨manufacturer', manufacturers'⟩ b
    ⟨-, -, paired, hmanufacturer, current⟩
  refine (isolates_ensureRoles paired listed catalog.roles palette palette').bind ?_
  rintro ⟨role, roles⟩ a' ⟨role', roles'⟩ b' ⟨left, right, paired, hrole, -⟩
  -- the stage of roles leaves the manufacturers as they are
  have current : .manufacturer ∉ failed.spoils →
      manufacturers = a'.index .manufacturer ∧ manufacturers' = b'.index .manufacturer := by
    intro unspoiled
    rw [MemoryStore.index_congr (left.others .manufacturer (by decide)),
      MemoryStore.index_congr (right.others .manufacturer (by decide))]
    exact current unspoiled
  refine (isolates_ensureDeviceTypes paired listed catalog.deviceTypes current).bind ?_
  rintro ⟨deviceType, deviceTypes⟩ a ⟨deviceType', deviceTypes'⟩ b ⟨-, -, paired, hdeviceType, -⟩
  refine (isolates_ensureSites paired listed catalog.sites).bind ?_
  rintro ⟨site, sites⟩ a ⟨site', sites'⟩ b ⟨-, -, paired, hsite, -⟩
  exact ⟨paired, .cons hgroup <| .cons hpermission <| .cons hmanufacturer <| .cons hrole <|
    .cons hdeviceType <| .cons hsite .nil⟩

/-! ## Descriptions of prefixes -/

theorem abreast_describe (paired : Paired failed a b) (id : Int) (description : String) :
    Stage.Abreast (fun x a' y b' => x = y ∧ Paired failed a' b')
      (Stage.ask (.describe id description)) (Stage.ask (.describe id description)) a b := by
  obtain ⟨same, alike⟩ := paired.describe id description
  have outages (store : MemoryStore) :
      (store.describe id description).2.outages = store.outages := by
    obtain heq | ⟨_, _, _, -, -, heq⟩ := store.describe_cases id description <;> rw [heq]
  exact fun report => ⟨_, report, _, _, _, rfl, rfl, same,
    ⟨alike, paired.well.congr (outages a), paired.ailing.congr (outages b)⟩⟩

theorem abreast_describePrefix (paired : Paired failed a b) (network : Record.IpPrefix) :
    Stage.Abreast (fun _ a' _ b' => Paired failed a' b') (describePrefix network)
      (describePrefix network) a b := by
  rw [describePrefix]
  split
  · exact .pure paired
  · refine (abreast_describe paired network.id _).bind ?_
    rintro (e | r) a' _ b' ⟨rfl, paired'⟩
    · exact fun report => ⟨(), _, a', (), b', rfl, rfl, paired'⟩
    · exact fun report => ⟨(), _, a', (), b', rfl, rfl, paired'⟩

theorem abreast_describePrefixes (paired : Paired failed a b) (networks : List Record.IpPrefix) :
    Stage.Abreast (fun _ a' _ b' => Paired failed a' b') (describePrefixes networks)
      (describePrefixes networks) a b := by
  induction networks generalizing a b with
  | nil => exact .pure paired
  | cons network rest ih =>
    rw [describePrefixes_cons]
    exact (abreast_describePrefix paired network).bind fun _ _ _ _ paired => ih paired

theorem abreast_backfillDescriptions (paired : Paired failed a b)
    (listed : failed ∈ Catalog.listed) :
    Stage.Abreast (fun _ a' _ b' => Paired failed a' b') backfillDescriptions
      backfillDescriptions a b := by
  have prefixed : some failed ≠ some .ipPrefix := by
    rintro ⟨⟩
    revert listed
    decide
  have shown {store : MemoryStore} (well : store.outage .ipPrefix = .times 0) :
      respond .listUndescribed store =
        (.ok (store.prefixes.filter fun r => r.description.isEmpty), store) :=
    MemoryStore.list_of_outage well fun r => r.description.isEmpty
  have left := shown (paired.well.outage_eq nofun)
  have right := shown (paired.ailing.outage_eq prefixed)
  rw [paired.prefixes] at left
  have demanded : Stage.Abreast (fun x a' y b' => x = y ∧ a' = a ∧ b' = b)
      (Stage.demand .listUndescribed) (Stage.demand .listUndescribed) a b := fun report =>
    ⟨_, report, a, _, b, Stage.runWith_demand_of_ok respond left report,
      Stage.runWith_demand_of_ok respond right report, rfl, rfl, rfl⟩
  refine demanded.bind ?_
  rintro networks _ _ _ ⟨rfl, rfl, rfl⟩
  exact abreast_describePrefixes paired networks

/-! ## All stages -/

theorem isolated_run (paired : Paired failed a b) (listed : failed ∈ Catalog.listed)
    (catalog : Catalog) (palette palette' : Palette) :
    Dialogue.Beside (fun first second => Paired failed first.2 second.2 ∧
        List.Forall₂ (StageReport.SameUnless failed.spoils) first.1.stages second.1.stages)
      (run catalog none palette) (run catalog none palette') a b := by
  refine (isolated_runCatalog paired listed catalog palette palette').bind ?_
  rintro ⟨reports, inventory⟩ a ⟨reports', inventory'⟩ b ⟨paired, same⟩
  have unmapped : Dialogue.Beside (fun first second =>
      Paired failed first.2 second.2 ∧ first.1 = [] ∧ second.1 = [])
      (runNetworkMap none inventory) (runNetworkMap none inventory') a b := ⟨paired, rfl, rfl⟩
  refine unmapped.bind ?_
  rintro _ a _ b ⟨paired, rfl, rfl⟩
  refine ((abreast_backfillDescriptions paired listed).conclude .prefixDescription).bind ?_
  rintro ⟨description, _⟩ a ⟨_, _⟩ b ⟨rfl, paired⟩
  refine ⟨paired, ?_⟩
  rw [List.append_nil, List.append_nil]
  exact List.rel_append same (.cons ⟨rfl, fun _ => rfl⟩ .nil)

/-- What the failure of all listings of a kind leaves alone: the looks of the collections that do
not depend on the listing, the prefixes, and the reports of the other stages. -/
structure Isolated (failed : Kind) (first second : Report × MemoryStore) : Prop where
  collections : ∀ kind ∉ failed.spoils, first.2.faces kind = second.2.faces kind
  prefixes : first.2.prefixes = second.2.prefixes
  reports : List.Forall₂ (StageReport.SameUnless failed.spoils) first.1.stages second.1.stages

/-- A failure that lasts leaves alone whatever does not depend on it. -/
theorem reconcile_isolated {store : MemoryStore} (well : ∀ kind, store.outage kind = .times 0)
    (listed : failed ∈ Catalog.listed) (catalog : Catalog) (palette palette' : Palette) :
    Isolated failed (store.reconcile catalog none palette)
      ((store.setOutage failed .forever).reconcile catalog none palette') := by
  have ailing : Ailing none store := fun kind => (well kind).trans rfl
  have alike : Alike failed.spoils store (store.setOutage failed .forever) :=
    ⟨fun kind _ => by cases kind <;> rfl, rfl, rfl, rfl⟩
  obtain ⟨paired, reports⟩ :=
    isolated_run ⟨alike, ailing, ailing.setOutage failed⟩ listed catalog palette palette'
  exact ⟨paired.faces, paired.prefixes, reports⟩

/-- A manufacturer, and a prefix that is to be described. -/
def labelledStore : MemoryStore :=
  (((MemoryStore.ofObjectTypes ["dcim.site"]).addManufacturer "ACME").2.addPrefix "10.0.0.0/8" ""
    (some "office")).2

theorem reconcile_isolated_clashing : (∀ kind, labelledStore.outage kind = .times 0) ∧
    .manufacturer ∈ Catalog.listed ∧
    Isolated .manufacturer (labelledStore.reconcile clashingCatalog none (.ofSeed 1))
      ((labelledStore.setOutage .manufacturer .forever).reconcile clashingCatalog none
        (.ofSeed 2)) :=
  ⟨fun _ => rfl, by decide,
    reconcile_isolated (fun _ => rfl) (by decide) clashingCatalog (.ofSeed 1) (.ofSeed 2)⟩

/-- The device type that the one has and the other has not takes an identifier. -/
example : ((labelledStore.reconcile clashingCatalog none default).2.sites.map (·.id),
    ((labelledStore.setOutage .manufacturer .forever).reconcile clashingCatalog none
      default).2.sites.map (·.id)) = ([8, 9], [7, 8]) := by
  decide +kernel

end Reconcile

end AssetSeed
