import AssetSeed.Proofs.Seed.Gate

/-!
# A restore or a seeding

A database into which a snapshot was loaded is not seeded, and one for which a snapshot was asked is
not seeded either. Any other one is.

## Main definitions

* `Seed.plan`, `Seed.found?` — the restore of a snapshot, and the snapshot that is there.
* `Seed.IsLoader` — a command of one of the loaders.
* `Seed.probing`, `Seed.reconciling`, `Seed.seeding` — a seeding and its parts, over HTTP.
* `Seed.Seeds` — what comes of a seeding over HTTP, and what is said in it.
* `Seed.Exclusive` — what comes of the command `seed`, and what is said.

## Main statements

* `Seed.seeding_of_unready`, `Seed.seeding_of_ready` — the course of a seeding over HTTP.
* `Seed.run_exclusive` — whatever the host does and the server replies, a restore and a seeding
  exclude each other.
-/

namespace AssetSeed

namespace Seed

variable {σ : Type}

/-! ## Restoring -/

def plan (config : SeedConfig) (snapshot : Path) : Restore.Plan :=
  { postgres := config.postgres, install := config.install, snapshot }

def found? (config : SeedConfig) (disk : Disk) : Option Path :=
  Snapshot.select? disk config.backup config.preloadDir

/-- What comes of the restore of a snapshot that a host has shown. -/
def restored (config : SeedConfig) (host : Responder HostProtocol σ) (s : σ) (snapshot : Path) :
    Restore.Outcome :=
  ((plan config snapshot).run.run host (host .disk s).2).1

/-- All that is said before anything is seeded: the disk is shown, and the snapshot that is there is
restored. -/
def restoreSaid (config : SeedConfig) (host : Responder HostProtocol σ) (s : σ) : HostTranscript :=
  ⟨.disk, (host .disk s).1⟩ :: (found? config (host .disk s).1).elim [] fun snapshot =>
    (plan config snapshot).run.exchanges host (host .disk s).2

/-- The state after that. -/
def afterRestore (config : SeedConfig) (host : Responder HostProtocol σ) (s : σ) : σ :=
  (found? config (host .disk s).1).elim (host .disk s).2 fun snapshot =>
    ((plan config snapshot).run.run host (host .disk s).2).2

theorem restoreSnapshot_run (config : SeedConfig) (host : Responder HostProtocol σ) (s : σ) :
    (restoreSnapshot config).run host s =
        ((found? config (host .disk s).1).map (restored config host s),
          afterRestore config host s) ∧
      (restoreSnapshot config).exchanges host s = restoreSaid config host s := by
  rw [restoreSnapshot, restoreSaid, afterRestore, Host.disk, Dialogue.run_call_bind,
    Dialogue.exchanges_call_bind]
  rcases found : found? config (host .disk s).1 with _ | snapshot <;> rw [found?] at found
  · simp only [found]
    exact ⟨rfl, rfl⟩
  · simp only [found, Dialogue.run_bind, Dialogue.exchanges_bind, Dialogue.run_pure,
      Dialogue.exchanges_pure, List.append_nil]
    exact ⟨rfl, rfl⟩

theorem snapshotRequested_iff {config : SeedConfig} :
    config.snapshotRequested ↔ ∃ path, config.backup = some path ∧ path.text ≠ "" := by
  simp [SeedConfig.snapshotRequested, Option.any_eq_true]

/-! ## Loaders -/

/-- The command of a loader. -/
def IsLoader (config : SeedConfig) (command : Command) : Prop :=
  (∃ staged, command = Preload.initializerCommand config.install staged) ∨
    command = Preload.importCommand config.install config.libraryDir config.url config.token

/-- No step of a restore loads anything else. -/
theorem not_isLoader_of_command? {config : SeedConfig} {plan : Restore.Plan} {disk : Disk}
    {step : Restore.Step} {command : Command} (given : plan.command? disk step = some command) :
    ¬ IsLoader config command := by
  rintro (⟨staged, rfl⟩ | rfl) <;> cases step <;>
    simp [Restore.Plan.command?, Restore.Plan.supervise, Restore.Plan.dropCommand,
      Restore.Plan.createCommand, Restore.Plan.statementCommand, Restore.Plan.loadCommand,
      Restore.Plan.scriptCommand, Restore.Plan.manageCommand, Restore.Plan.postgresCommand,
      Preload.initializerCommand, Preload.importCommand] at given

theorem not_isLoader_of_mem_restoreSaid {config : SeedConfig} {host : Responder HostProtocol σ}
    {s : σ} {command : Command} (mem : command ∈ (restoreSaid config host s).commands) :
    ¬ IsLoader config command := by
  replace mem : command ∈ HostTranscript.commands ((found? config (host .disk s).1).elim []
    fun snapshot => (plan config snapshot).run.exchanges host (host .disk s).2) := mem
  cases found : found? config (host .disk s).1 with
  | none =>
    rw [found] at mem
    exact absurd mem List.not_mem_nil
  | some snapshot =>
    obtain ⟨results, abortedAt, -, taken⟩ :=
      (plan config snapshot).run_taken host (host .disk s).2
    obtain ⟨disks, issued⟩ := taken.planned Restore.Step.nodup_all
    rw [found, Option.elim, issued] at mem
    obtain ⟨step, -, given⟩ := List.mem_filterMap.1 mem
    exact not_isLoader_of_command? given

theorem isLoader_of_mem_load {config : SeedConfig} {host : Responder HostProtocol σ} {s : σ}
    {command : Command}
    (mem : command ∈ HostTranscript.commands ((load config).exchanges host s)) :
    IsLoader config command := by
  obtain ⟨initializing, initialized, commands⟩ := commands_load config host s
  rw [commands, List.mem_append] at mem
  obtain mem | mem := mem
  · cases initialized with
    | issued => exact .inl ⟨_, List.mem_singleton.1 mem⟩
    | skipped => exact absurd mem List.not_mem_nil
  · split at mem
    · exact .inr (List.mem_singleton.1 mem)
    · exact absurd mem List.not_mem_nil

/-! ## Seeding over HTTP -/

section

variable {α : Type} (client : StoreClient)

theorem through_toFirst (d : StoreDialogue α) :
    (d.toFirst (Q := HostProtocol)).through (overHttp client) =
      (d.through client.answer).toFirst := by
  induction d with
  | done a => rfl
  | ask request next ih =>
    calc (client.answer request).toFirst >>= (fun answer =>
            (next answer).toFirst.through (overHttp client))
      _ = (client.answer request).toFirst >>= fun answer =>
            ((next answer).through client.answer).toFirst := by rw [funext ih]
      _ = _ := (Dialogue.toFirst_bind ..).symm

/-- The host is asked as it is. -/
theorem through_toSecond (d : HostDialogue α) :
    (d.toSecond (P := StoreProtocol)).through (overHttp client) = d.toSecond := by
  induction d with
  | done a => rfl
  | ask request next ih =>
    exact congrArg (Dialogue.ask (P := HttpAndHost) (.inr request)) (funext ih)

end

/-- The sites are asked for over HTTP, until they are shown. -/
def probing (client : StoreClient) (config : SeedConfig) (patience : Nat) :
    HttpDialogue (Except StoreError Unit) :=
  (Reconcile.waitUntilReady config.wait patience).through client.answer

/-- A reconciliation over HTTP, of a seeding that was shown a disk. -/
def reconciling (client : StoreClient) (config : SeedConfig) (palette : Palette) (disk : Disk) :
    HttpDialogue Report :=
  (reconcile config palette disk).through client.answer

def seeding (client : StoreClient) (config : SeedConfig) (palette : Palette) (patience : Nat) :
    Dialogue HttpAndHost (Except Failure Report) :=
  (seedStore config palette patience).through (overHttp client)

section

variable {client : StoreClient} {config : SeedConfig} {patience : Nat}
  {respond : Responder HttpAndHost σ} {s s' : σ}

theorem seeding_of_unready (palette : Palette) {error : StoreError}
    (unready : (probing client config patience).run respond.first s = (.error error, s')) :
    ((seeding client config palette patience).run respond s).1 =
        .error (unreachable config error) ∧
      (seeding client config palette patience).exchanges respond s =
        ((probing client config patience).exchanges respond.first s).map .ofFirst := by
  rw [probing] at unready
  rw [seeding, seedStore, Dialogue.through_bind, through_toFirst, Dialogue.run_bind,
    Dialogue.exchanges_bind, Dialogue.run_toFirst, Dialogue.exchanges_toFirst, unready]
  exact ⟨rfl, List.append_nil _⟩

theorem seeding_of_ready (palette : Palette)
    (ready : (probing client config patience).run respond.first s = (.ok (), s')) :
    let look := respond.second .disk s'
    let reconciled := (reconciling client config palette look.1).run respond.first look.2
    ((seeding client config palette patience).run respond s).1 = .ok reconciled.1 ∧
      (seeding client config palette patience).exchanges respond s =
        course ((probing client config patience).exchanges respond.first s) look.1
          ((reconciling client config palette look.1).exchanges respond.first look.2)
          ((load config).exchanges respond.second reconciled.2) := by
  intro look reconciled
  rw [probing] at ready
  rw [seeding, seedStore, Dialogue.through_bind, through_toFirst, Dialogue.run_bind,
    Dialogue.exchanges_bind, Dialogue.run_toFirst, Dialogue.exchanges_toFirst, ready]
  simp only [Dialogue.through_bind, through_toFirst, through_toSecond, Dialogue.run_bind,
    Dialogue.exchanges_bind, Dialogue.run_toFirst, Dialogue.exchanges_toFirst,
    Dialogue.run_toSecond, Dialogue.exchanges_toSecond, Dialogue.through_pure,
    Dialogue.exchanges_pure, List.append_nil]
  exact ⟨rfl, rfl⟩

end

/-- The request for a page. -/
def pageRequest (client : StoreClient) (url : String) : HttpRequest where
  method := .get
  url := url
  headers := client.headers none
  body := none

/-- A listing begins with a request for its first page. -/
theorem exchanges_listPages {τ : Type} (client : StoreClient) (α : Type) [Wire α] (pages : Nat)
    {url : String} (sendable : StoreClient.isSendable (pageRequest client url))
    (server : Responder HttpProtocol τ) (t : τ) :
    ∃ answer rest, (client.listPages α (pages + 1) url).exchanges server t =
      ⟨pageRequest client url, answer⟩ :: rest := by
  have sends : client.send (Record.Page α) .get url none =
      (Dialogue.call (P := HttpProtocol) (pageRequest client url)).map (StoreClient.interpret _) :=
    if_pos sendable
  rw [StoreClient.listPages, sends]
  exact ⟨_, _, rfl⟩

def sitesRequest (client : StoreClient) : HttpRequest :=
  pageRequest client (client.firstPage (StoreClient.endpoint .site))

theorem exchanges_listSites {τ : Type} {client : StoreClient} (lists : client.maxPages ≠ 0)
    (sendable : StoreClient.isSendable (sitesRequest client))
    (server : Responder HttpProtocol τ) (t : τ) :
    ∃ answer rest, (client.answer (.list .site)).exchanges server t =
      ⟨sitesRequest client, answer⟩ :: rest := by
  obtain ⟨pages, more⟩ := Nat.exists_eq_succ_of_ne_zero lists
  rw [StoreClient.answer, StoreClient.list, more]
  exact exchanges_listPages client _ pages sendable server t

theorem seedStore_eq_ask (config : SeedConfig) (palette : Palette) (patience : Nat) :
    ∃ next, seedStore config palette patience = .ask (.inl (.list .site)) next := by
  cases patience <;> exact ⟨_, rfl⟩

/-- A seeding begins with a request for the sites. -/
theorem first_request (client : StoreClient) (lists : client.maxPages ≠ 0)
    (sendable : StoreClient.isSendable (sitesRequest client)) (config : SeedConfig)
    (palette : Palette) (patience : Nat) (respond : Responder HttpAndHost σ) (s : σ) :
    ∃ answer rest, ((seedStore config palette patience).through (overHttp client)).exchanges
      respond s = .ofFirst ⟨sitesRequest client, answer⟩ :: rest := by
  obtain ⟨next, asks⟩ := seedStore_eq_ask config palette patience
  obtain ⟨answer, rest, listing⟩ := exchanges_listSites lists sendable respond.first s
  have listed : (overHttp client (.inl (.list .site))).exchanges respond s =
      .ofFirst ⟨sitesRequest client, answer⟩ :: rest.map .ofFirst :=
    (Dialogue.exchanges_toFirst respond (client.answer (.list .site)) s).trans
      (congrArg (List.map Exchange.ofFirst) listing)
  rw [asks]
  exact ⟨answer, _, (Dialogue.exchanges_through_ask ..).trans (congrArg (· ++ _) listed)⟩

/-! ## What is settled -/

theorem succeeded_iff {outcome : Restore.Outcome} :
    outcome.succeeded ↔ outcome.status? .loadSnapshot = some .succeeded :=
  decide_eq_true_iff

section

variable {config : SeedConfig} {outcome? : Option Restore.Outcome}

theorem settle_eq_restored_iff {outcome : Restore.Outcome} :
    settle config outcome? = some (.restored outcome) ↔
      outcome? = some outcome ∧ outcome.succeeded := by
  cases outcome? with
  | none => grind [settle]
  | some known => grind [settle]

theorem settle_eq_requested_iff {known? : Option Restore.Outcome} :
    settle config outcome? = some (.requested known?) ↔
      outcome? = known? ∧ (∀ outcome, outcome? = some outcome → ¬ outcome.succeeded) ∧
        config.snapshotRequested := by
  cases outcome? with
  | none => grind [settle]
  | some known => grind [settle]

theorem settle_ne_reconciled (report : Report) :
    settle config outcome? ≠ some (.reconciled report) := by
  cases outcome? with
  | none => grind [settle]
  | some known => grind [settle]

theorem not_succeeded_of_settle_eq_none (unsettled : settle config outcome? = none)
    {outcome : Restore.Outcome} (known : outcome? = some outcome) : ¬ outcome.succeeded := by
  grind [settle]

end

/-! ## Main statement -/

/-- The client of a seeding. -/
def client (config : SeedConfig) : StoreClient :=
  .ofUrl config.url config.token maxPages

/-- The database is seeded over HTTP, from a state on. -/
structure Seeds (client : StoreClient) (config : SeedConfig) (palette : Palette) (patience : Nat)
    (respond : Responder HttpAndHost σ) (s : σ) (result : Except Failure SeedOutcome)
    (said : List (Exchange HttpAndHost)) : Prop where
  result_eq : result = ((seedStore config palette patience).run
    (respond.behind (overHttp client)) s).1.map .reconciled
  said_eq : said =
    ((seedStore config palette patience).through (overHttp client)).exchanges respond s
  asks : StoreClient.isSendable (sitesRequest client) →
    ∃ answer rest, said = .ofFirst ⟨sitesRequest client, answer⟩ :: rest
  /-- If the sites are not shown, it fails, and nothing else is said. -/
  unready : ∀ error s', (probing client config patience).run respond.first s = (.error error, s') →
    result = .error (unreachable config error) ∧
      said = ((probing client config patience).exchanges respond.first s).map .ofFirst
  /-- Once they are, the host shows its disk, the database is reconciled with what is on it, and the
  loaders are run. -/
  ready : ∀ s', (probing client config patience).run respond.first s = (.ok (), s') →
    let (disk, s₁) := respond.second .disk s'
    let (report, s₂) := (reconciling client config palette disk).run respond.first s₁
    result = .ok (.reconciled report) ∧
      said = course ((probing client config patience).exchanges respond.first s) disk
        ((reconciling client config palette disk).exchanges respond.first s₁)
        ((load config).exchanges respond.second s₂)
  loads : ∀ command ∈ HostTranscript.commands (said.filterMap Exchange.second?),
    IsLoader config command

/-- What comes of the command `seed`, and what is said. -/
structure Exclusive (config : SeedConfig) (palette : Palette) (patience : Nat)
    (respond : Responder HttpAndHost σ) (s : σ) (result : Except Failure SeedOutcome)
    (said : List (Exchange HttpAndHost)) : Prop where
  restored_iff : ∀ outcome, result = .ok (.restored outcome) ↔
    ∃ snapshot, found? config (respond.second .disk s).1 = some snapshot ∧
      restored config respond.second s snapshot = outcome ∧
      outcome.status? .loadSnapshot = some .succeeded
  requested_iff : ∀ outcome, result = .ok (.requested (some outcome)) ↔
    ∃ snapshot, found? config (respond.second .disk s).1 = some snapshot ∧
      restored config respond.second s snapshot = outcome ∧
      outcome.status? .loadSnapshot ≠ some .succeeded ∧
      ∃ path, config.backup = some path ∧ path.text ≠ ""
  missing_iff : result = .ok (.requested none) ↔
    found? config (respond.second .disk s).1 = none ∧
      ∃ path, config.backup = some path ∧ path.text ≠ ""
  /-- In these cases nothing is said to the server. -/
  settled : (∃ outcome, result = .ok (.restored outcome)) ∨
      (∃ outcome?, result = .ok (.requested outcome?)) →
    said = (restoreSaid config respond.second s).map .ofSecond
  /-- In all others the database is seeded, after a restore that failed or after none. -/
  seeded : ¬ (∃ outcome, result = .ok (.restored outcome)) →
      ¬ (∃ outcome?, result = .ok (.requested outcome?)) →
    (∀ snapshot, found? config (respond.second .disk s).1 = some snapshot →
      (restored config respond.second s snapshot).status? .loadSnapshot ≠ some .succeeded) ∧
    ∃ seedSaid, said = (restoreSaid config respond.second s).map .ofSecond ++ seedSaid ∧
      Seeds (client config) config palette patience respond
        (afterRestore config respond.second s) result seedSaid
  /-- A restore loads nothing else into the database. -/
  loaderless : ∀ command ∈ (restoreSaid config respond.second s).commands, ¬ IsLoader config command

section

variable (config : SeedConfig) (palette : Palette) (patience : Nat)
  (respond : Responder HttpAndHost σ) (s : σ)

theorem run_of_settled {outcome : SeedOutcome}
    (settles : settle config ((found? config (respond.second .disk s).1).map
      (restored config respond.second s)) = some outcome) :
    ((run config palette patience).run respond s).1 = .ok outcome ∧
      (run config palette patience).exchanges respond s =
        (restoreSaid config respond.second s).map .ofSecond := by
  obtain ⟨run_eq, said⟩ := restoreSnapshot_run config respond.second s
  rw [run, Dialogue.run_bind, Dialogue.exchanges_bind, Dialogue.run_toSecond,
    Dialogue.exchanges_toSecond, run_eq, said]
  simp only [settles]
  exact ⟨rfl, List.append_nil _⟩

theorem seeding_seeds {client : StoreClient} (lists : client.maxPages ≠ 0) :
    Seeds client config palette patience respond s
      (((seeding client config palette patience).run respond s).1.map .reconciled)
      ((seeding client config palette patience).exchanges respond s) where
  result_eq := by rw [seeding, Dialogue.run_through]
  said_eq := rfl
  asks sendable := first_request client lists sendable config palette patience respond s
  unready error s' unready := by
    obtain ⟨result, said⟩ := seeding_of_unready palette unready
    exact ⟨congrArg (Except.map SeedOutcome.reconciled) result, said⟩
  ready s' ready := by
    obtain ⟨result, said⟩ := seeding_of_ready palette ready
    exact ⟨congrArg (Except.map SeedOutcome.reconciled) result, said⟩
  loads command mem := by
    rcases probed : (probing client config patience).run respond.first s with ⟨error | ⟨⟩, s'⟩
    · rw [(seeding_of_unready palette probed).2, Exchange.filterMap_second?_ofFirst] at mem
      exact absurd mem List.not_mem_nil
    · rw [(seeding_of_ready palette probed).2, commands_course] at mem
      exact isLoader_of_mem_load mem

theorem run_of_unsettled
    (unsettled : settle config ((found? config (respond.second .disk s).1).map
      (restored config respond.second s)) = none) :
    let restored := afterRestore config respond.second s
    ((run config palette patience).run respond s).1 =
        ((seeding (client config) config palette patience).run respond restored).1.map
          .reconciled ∧
      (run config palette patience).exchanges respond s =
        (restoreSaid config respond.second s).map .ofSecond ++
          (seeding (client config) config palette patience).exchanges respond restored := by
  intro after
  obtain ⟨run_eq, said⟩ := restoreSnapshot_run config respond.second s
  rw [run, Dialogue.run_bind, Dialogue.exchanges_bind, Dialogue.run_toSecond,
    Dialogue.exchanges_toSecond, run_eq, said]
  simp only [unsettled, Dialogue.run_bind, Dialogue.exchanges_bind, Dialogue.run_pure,
    Dialogue.exchanges_pure, List.append_nil]
  exact ⟨rfl, rfl⟩

/-- What comes of the command is what the restore settles, if it does. -/
theorem run_eq_ok_iff {outcome : SeedOutcome} (settled : ∀ report, outcome ≠ .reconciled report) :
    ((run config palette patience).run respond s).1 = .ok outcome ↔
      settle config ((found? config (respond.second .disk s).1).map
        (restored config respond.second s)) = some outcome := by
  cases settles : settle config ((found? config (respond.second .disk s).1).map
      (restored config respond.second s)) with
  | some known =>
    rw [(run_of_settled config palette patience respond s settles).1, Except.ok.injEq,
      Option.some.injEq]
  | none =>
    rw [(run_of_unsettled config palette patience respond s settles).1]
    rcases ((seeding (client config) config palette patience).run respond _).1 with failure | report
    · simp [Except.map]
    · simp [Except.map, (settled report).symm]

/-- Whatever the host does and the server replies, a restore and a seeding exclude each other. -/
theorem run_exclusive :
    Exclusive config palette patience respond s ((run config palette patience).run respond s).1
      ((run config palette patience).exchanges respond s) := by
  have restores (outcome : Restore.Outcome) :=
    @run_eq_ok_iff σ config palette patience respond s (.restored outcome) fun _ => nofun
  have requests (outcome? : Option Restore.Outcome) :=
    @run_eq_ok_iff σ config palette patience respond s (.requested outcome?) fun _ => nofun
  constructor
  case restored_iff =>
    intro outcome
    rw [restores, settle_eq_restored_iff, Option.map_eq_some_iff, succeeded_iff]
    simp only [← and_assoc, exists_and_right]
  case requested_iff =>
    intro outcome
    rw [requests, settle_eq_requested_iff, Option.map_eq_some_iff, snapshotRequested_iff]
    constructor
    · rintro ⟨⟨snapshot, found, comes⟩, failed, asked⟩
      have failed := mt succeeded_iff.2 (failed outcome (by rw [found, Option.map_some, comes]))
      exact ⟨snapshot, found, comes, failed, asked⟩
    · rintro ⟨snapshot, found, comes, failed, asked⟩
      refine ⟨⟨snapshot, found, comes⟩, fun other known => ?_, asked⟩
      rw [found, Option.map_some, comes, Option.some.injEq] at known
      exact known ▸ mt succeeded_iff.1 failed
  case missing_iff =>
    rw [requests, settle_eq_requested_iff, Option.map_eq_none_iff, snapshotRequested_iff]
    refine and_congr_right fun missing => and_iff_right fun outcome known => ?_
    rw [missing] at known
    exact nomatch known
  case settled =>
    rintro (⟨outcome, restored⟩ | ⟨outcome?, requested⟩)
    · exact (run_of_settled config palette patience respond s ((restores _).1 restored)).2
    · exact (run_of_settled config palette patience respond s ((requests _).1 requested)).2
  case seeded =>
    intro unrestored unrequested
    have unsettled : settle config ((found? config (respond.second .disk s).1).map
        (restored config respond.second s)) = none := by
      cases settles : settle config _ with
      | none => rfl
      | some outcome =>
        cases outcome with
        | restored outcome => exact absurd ⟨outcome, (restores _).2 settles⟩ unrestored
        | requested outcome? => exact absurd ⟨outcome?, (requests _).2 settles⟩ unrequested
        | reconciled report => exact absurd settles (settle_ne_reconciled report)
    obtain ⟨result, said⟩ := run_of_unsettled config palette patience respond s unsettled
    refine ⟨fun snapshot found => ?_, _, said, ?_⟩
    · rw [found] at unsettled
      exact mt succeeded_iff.2 (not_succeeded_of_settle_eq_none unsettled rfl)
    · rw [result]
      exact seeding_seeds config palette patience respond _ (Nat.succ_ne_zero 999999)
  case loaderless => exact fun command mem => not_isLoader_of_mem_restoreSaid mem

end

/-! ## A server that is not there -/

def snapshotConfig : SeedConfig :=
  { waitingConfig with backup := some ⟨"/snapshot"⟩ }

/-- A host all of whose commands succeed, and nobody to reply over HTTP. -/
def lonelyHost : Responder HttpAndHost (Unit × Disk)
  | .inl _, s => (.error "connection refused", s)
  | .inr request, s => quietHost (Restore.Plan.unwilling []) request s

/-- A snapshot can be restored without a server. -/
theorem run_exclusive_lonelyHost :
    ∃ outcome, outcome.status? .loadSnapshot = some .succeeded ∧
      ((run snapshotConfig default 0).run lonelyHost ((), Restore.Plan.plainDisk)).1 =
        .ok (.restored outcome) ∧
      (run snapshotConfig default 0).exchanges lonelyHost ((), Restore.Plan.plainDisk) =
        (restoreSaid snapshotConfig lonelyHost.second ((), Restore.Plan.plainDisk)).map
          .ofSecond := by
  have exclusive := run_exclusive snapshotConfig default 0 lonelyHost ((), Restore.Plan.plainDisk)
  have found : found? snapshotConfig Restore.Plan.plainDisk = some ⟨"/snapshot"⟩ := by
    decide +kernel
  have loaded : (restored snapshotConfig lonelyHost.second ((), Restore.Plan.plainDisk)
      ⟨"/snapshot"⟩).status? .loadSnapshot = some .succeeded := by decide +kernel
  have result := (exclusive.restored_iff _).2 ⟨_, found, rfl, loaded⟩
  exact ⟨_, loaded, result, exclusive.settled (.inl ⟨_, result⟩)⟩

end Seed

end AssetSeed
