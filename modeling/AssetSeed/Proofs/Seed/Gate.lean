import AssetSeed.Preload.Load
import AssetSeed.Proofs.Dialogue.Parties
import AssetSeed.Proofs.Preload.Fixtures
import AssetSeed.Proofs.Reconcile.Readiness
import AssetSeed.Proofs.Restore.Planned
import AssetSeed.Proofs.Store.Transcript
import AssetSeed.Seed.Run

/-!
# The gate of a seeding

A seeding goes on once the database has shown its sites. What follows is a reconciliation, and after
it the loaders, whatever came of either.

## Main definitions

* `Preload.Initializes` — all that the loading of fixtures needs is there.
* `Preload.Initialized` — the commands for fixtures.
* `Seed.reconcile` — the reconciliation of a seeding that was shown a disk.
* `Seed.course` — what is said in a seeding that goes on.
* `Seed.Gated` — a seeding is refused, waits, or goes on.

## Main statements

* `Preload.commands_loadInitializers`, `Preload.commands_importLibrary` — a loader gives its one
  command if and only if what it needs is there.
* `Seed.seedStore_of_unready`, `Seed.seedStore_of_ready` — the course of a seeding, whoever the
  parties are.
* `Seed.commands_load` — the commands that the loaders give.
* `Seed.seedStore_gated` — every seeding with a database and a host is gated.
-/

namespace AssetSeed.Preload

/-! ## Loaders -/

variable {τ : Type} (host : Responder HostProtocol τ) (t : τ) (install : Install)

/-- What the loading of fixtures needs: the interpreter, the management tool, the fixtures, and a
temporary directory that can be made and filled with a copy of them. -/
structure Initializes (install : Install) (source : Path) (disk : Disk) (dir : Path) : Prop where
  interpreter : disk.isFile install.venvPython
  manage : disk.isFile install.manageScript
  fixtures : disk.isDir source
  given : disk.scratch = .ok dir
  copied : ∃ made copied, disk.makeDir dir = .ok made ∧ made.copyDir source dir = .ok copied

/-- The commands for fixtures: the one that loads the staged copy, if all that it needs is there. -/
inductive Initialized (install : Install) (source : Path) (disk : Disk) : List Command → Prop
  | issued {dir : Path} : Initializes install source disk dir →
      Initialized install source disk [initializerCommand install dir]
  | skipped : (∀ dir, ¬ Initializes install source disk dir) → Initialized install source disk []

theorem initializes_iff {install : Install} {source dir : Path} {site? : Option String}
    {fillPrefixes : Bool} {disk : Disk} : Initializes install source disk dir ↔
      (install.hasManage disk ∧ disk.isDir source) ∧
        ∃ after, Fixtures.staged disk source site? fillPrefixes = .ok (dir, after) := by
  simp only [Fixtures.staged_eq_ok_iff, Disk.makeScratch_eq_ok_iff, Install.hasManage,
    Bool.and_eq_true]
  constructor
  · rintro ⟨interpreter, manage, fixtures, given, made, copied, make, copy⟩
    exact ⟨⟨⟨interpreter, manage⟩, fixtures⟩, _, made, copied, ⟨given, make⟩, copy, rfl⟩
  · rintro ⟨⟨⟨interpreter, manage⟩, fixtures⟩, after, made, copied, ⟨given, make⟩, copy, -⟩
    exact ⟨interpreter, manage, fixtures, given, made, copied, make, copy⟩

theorem commands_loadInitializers (source : Path) (site? : Option String) (fillPrefixes : Bool) :
    Initialized install source (host .disk t).1 (HostTranscript.commands
      ((loadInitializers install source site? fillPrefixes).exchanges host t)) := by
  rw [loadInitializers, Host.disk, Dialogue.exchanges_call_bind]
  generalize host .disk t = look
  obtain ⟨disk, t₁⟩ := look
  have stages (dir : Path) := @initializes_iff install source dir site? fillPrefixes disk
  by_cases gate : install.hasManage disk ∧ disk.isDir source
  · obtain ⟨manage, isDir⟩ := gate
    simp only [manage, isDir, Bool.not_true, Bool.or_self, Bool.false_eq_true, if_false]
    cases staged : Fixtures.staged disk source site? fillPrefixes with
    | error failure =>
      refine .skipped fun dir ready => ?_
      obtain ⟨-, after, known⟩ := (stages dir).1 ready
      cases staged.symm.trans known
    | ok copy => exact .issued ((stages copy.1).2 ⟨⟨manage, isDir⟩, copy.2, staged⟩)
  · have closed : (!install.hasManage disk || !disk.isDir source) = true := by
      rwa [← Bool.not_and, Bool.not_eq_true', ← Bool.not_eq_true, Bool.and_eq_true]
    simp only [closed, if_true]
    exact .skipped fun dir ready => gate ((stages dir).1 ready).1

theorem commands_importLibrary (library : Path) (url : String) (token : Option String) :
    HostTranscript.commands ((importLibrary install library url token).exchanges host t) =
      if (host .disk t).1.isDir library then [importCommand install library url token] else [] := by
  rw [importLibrary, Host.disk, Dialogue.exchanges_call_bind]
  generalize host .disk t = look
  obtain ⟨disk, t₁⟩ := look
  cases disk.isDir library <;> rfl

end AssetSeed.Preload

namespace AssetSeed.Seed

open Reconcile

variable {σ τ : Type}

def reconcile (config : SeedConfig) (palette : Palette) (disk : Disk) : StoreDialogue Report :=
  Reconcile.run config.catalog (config.networkMap.map (NetworkMap.load disk)) palette

/-! ## The course of a seeding -/

section

variable {P : Protocol}

/-- What is said in a seeding that goes on: the sites are asked for, the host shows its disk, the
database is reconciled, and the loaders are run. -/
def course (probes : List (Exchange P)) (disk : Disk) (reconciling : List (Exchange P))
    (loading : HostTranscript) : List (Exchange (P.both HostProtocol)) :=
  probes.map .ofFirst ++ .ofSecond ⟨.disk, disk⟩ ::
    (reconciling.map .ofFirst ++ loading.map .ofSecond)

theorem filterMap_first?_course (probes : List (Exchange P)) (disk : Disk)
    (reconciling : List (Exchange P)) (loading : HostTranscript) :
    (course probes disk reconciling loading).filterMap Exchange.first? = probes ++ reconciling := by
  have looked : Exchange.first? (P := P) (.ofSecond (Q := HostProtocol) ⟨.disk, disk⟩) = none := rfl
  rw [course, List.filterMap_append, List.filterMap_cons_none looked, List.filterMap_append,
    Exchange.filterMap_first?_ofFirst, Exchange.filterMap_first?_ofFirst,
    Exchange.filterMap_first?_ofSecond, List.append_nil]

theorem commands_course (probes : List (Exchange P)) (disk : Disk) (reconciling : List (Exchange P))
    (loading : HostTranscript) : HostTranscript.commands
      ((course probes disk reconciling loading).filterMap Exchange.second?) = loading.commands := by
  have looked : Exchange.second? (P := P) (.ofSecond (Q := HostProtocol) ⟨.disk, disk⟩) =
      some ⟨.disk, disk⟩ := rfl
  rw [course, List.filterMap_append, List.filterMap_cons_some looked, List.filterMap_append,
    Exchange.filterMap_second?_ofFirst, Exchange.filterMap_second?_ofFirst,
    Exchange.filterMap_second?_ofSecond]
  rfl

end

section

variable {parties : Responder StoreAndHost σ} {s s' : σ} {config : SeedConfig} {patience : Nat}

theorem seedStore_of_unready (palette : Palette) {error : StoreError}
    (unready : (waitUntilReady config.wait patience).run parties.first s = (.error error, s')) :
    (seedStore config palette patience).run parties s = (.error (unreachable config error), s') ∧
      (seedStore config palette patience).exchanges parties s =
        ((waitUntilReady config.wait patience).exchanges parties.first s).map .ofFirst := by
  rw [seedStore, Dialogue.run_bind, Dialogue.exchanges_bind, Dialogue.run_toFirst,
    Dialogue.exchanges_toFirst, unready]
  exact ⟨rfl, List.append_nil _⟩

theorem seedStore_of_ready (palette : Palette)
    (ready : (waitUntilReady config.wait patience).run parties.first s = (.ok (), s')) :
    let look := parties.second .disk s'
    let reconciled := (reconcile config palette look.1).run parties.first look.2
    (seedStore config palette patience).run parties s =
        (.ok reconciled.1, ((load config).run parties.second reconciled.2).2) ∧
      (seedStore config palette patience).exchanges parties s =
        course ((waitUntilReady config.wait patience).exchanges parties.first s) look.1
          ((reconcile config palette look.1).exchanges parties.first look.2)
          ((load config).exchanges parties.second reconciled.2) := by
  intro look reconciled
  rw [seedStore, Dialogue.run_bind, Dialogue.exchanges_bind, Dialogue.run_toFirst,
    Dialogue.exchanges_toFirst, ready]
  simp only [Dialogue.run_bind, Dialogue.exchanges_bind, Dialogue.run_toFirst,
    Dialogue.exchanges_toFirst, Dialogue.run_toSecond, Dialogue.exchanges_toSecond,
    Dialogue.exchanges_pure, List.append_nil]
  exact ⟨rfl, rfl⟩

end

/-! ## The loaders -/

/-- The state of the host when the library is looked for. -/
def afterInitializers (config : SeedConfig) (host : Responder HostProtocol τ) (t : τ) : τ :=
  ((Preload.loadInitializers config.install config.preloadDir config.catalog.defaultSite?
    config.preloadPrefixes).run host t).2

/-- Each loader gives its command if it can, whatever came of the other one. -/
theorem commands_load (config : SeedConfig) (host : Responder HostProtocol τ) (t : τ) :
    ∃ initializing,
      Preload.Initialized config.install config.preloadDir (host .disk t).1 initializing ∧
      HostTranscript.commands ((load config).exchanges host t) = initializing ++
        (if (host .disk (afterInitializers config host t)).1.isDir config.libraryDir then
          [Preload.importCommand config.install config.libraryDir config.url config.token]
        else []) := by
  refine ⟨_, Preload.commands_loadInitializers host t config.install config.preloadDir
    config.catalog.defaultSite? config.preloadPrefixes, ?_⟩
  rw [load, Dialogue.exchanges_bind, Dialogue.exchanges_bind, Dialogue.exchanges_pure,
    List.append_nil, HostTranscript.commands_append, Preload.commands_importLibrary]
  rfl

/-! ## Main statement -/

section

variable (config : SeedConfig) (palette : Palette) (patience : Nat)
  (store : Responder StoreProtocol σ) (host : Responder HostProtocol τ) (s : σ) (t : τ)

/-- What comes of a seeding. -/
def result : Except Failure Report :=
  ((seedStore config palette patience).run (store.both host) (s, t)).1

/-- All that is said in a seeding, to the database and to the host. -/
def conversation : List (Exchange StoreAndHost) :=
  (seedStore config palette patience).exchanges (store.both host) (s, t)

/-- A seeding is gated by the sites. -/
structure Gated : Prop where
  /-- A seeding fails if and only if it does not wait and the sites are not shown at once. One that
  waits for sites that are not shown in time has not come to its end. -/
  fails_iff : (config.wait = true → AnswersInTime store patience s) →
    ((∃ failure, result config palette patience store host s t = .error failure) ↔
      config.wait = false ∧ ∃ error, (store (.list .site) s).1 = .error error)
  /-- A seeding that is refused has asked for the sites once, and done nothing else. -/
  refused : config.wait = false → ∀ error, (store (.list .site) s).1 = .error error →
    result config palette patience store host s t = .error (unreachable config error) ∧
      conversation config palette patience store host s t = [.ofFirst ⟨.list .site, .error error⟩]
  /-- While a seeding waits it asks for the sites, and does nothing else. -/
  waits : config.wait = true → ¬ AnswersInTime store patience s →
    ∃ probes s', InVain store (patience + 1) s probes s' ∧
      conversation config palette patience store host s t = probes.map .ofFirst
  /-- Once the sites are shown, the database is reconciled. Then each loader gives its command if
  it can. -/
  admitted : ∀ failures probes ready, Probed store failures s probes ready →
    (config.wait = true ∨ failures = 0) → failures ≤ patience →
    let (disk, t₁) := host .disk t
    let reconciled := reconcile config palette disk
    let loading : HostTranscript := (load config).exchanges host t₁
    result config palette patience store host s t = .ok (reconciled.run store ready).1 ∧
      conversation config palette patience store host s t =
        course probes disk (reconciled.exchanges store ready) loading ∧
      probes.length = failures + 1 ∧
      (∀ exchange ∈ probes, exchange.question = .list .site) ∧
      ∃ initializing,
        Preload.Initialized config.install config.preloadDir (host .disk t₁).1 initializing ∧
        loading.commands = initializing ++
          (if (host .disk (afterInitializers config host t₁)).1.isDir config.libraryDir then
            [Preload.importCommand config.install config.libraryDir config.url config.token]
          else [])
  /-- The host has no part in the reconciliation but for the disk that it shows first. -/
  independent : ∀ {τ' : Type} (host' : Responder HostProtocol τ') (t' : τ'),
    (host' .disk t').1 = (host .disk t).1 →
    result config palette patience store host' s t' =
        result config palette patience store host s t ∧
      (conversation config palette patience store host' s t').filterMap Exchange.first? =
        (conversation config palette patience store host s t).filterMap Exchange.first?

variable {config patience store s}

theorem of_unready {error : StoreError} {s' : σ}
    (unready : (waitUntilReady config.wait patience).run store s = (.error error, s')) :
    result config palette patience store host s t = .error (unreachable config error) ∧
      conversation config palette patience store host s t =
        ((waitUntilReady config.wait patience).exchanges store s).map .ofFirst := by
  have both : (waitUntilReady config.wait patience).run (store.both host).first (s, t) =
      (.error error, s', t) := by
    rw [Dialogue.run_both_first, unready]
  obtain ⟨run, exchanges⟩ := seedStore_of_unready palette both
  rw [Dialogue.exchanges_both_first] at exchanges
  exact ⟨congrArg Prod.fst run, exchanges⟩

theorem of_ready {s' : σ}
    (ready : (waitUntilReady config.wait patience).run store s = (.ok (), s')) :
    let (disk, t₁) := host .disk t
    let reconciled := reconcile config palette disk
    result config palette patience store host s t = .ok (reconciled.run store s').1 ∧
      conversation config palette patience store host s t =
        course ((waitUntilReady config.wait patience).exchanges store s) disk
          (reconciled.exchanges store s') ((load config).exchanges host t₁) := by
  have both : (waitUntilReady config.wait patience).run (store.both host).first (s, t) =
      (.ok (), s', t) := by
    rw [Dialogue.run_both_first, ready]
  obtain ⟨run, exchanges⟩ := seedStore_of_ready palette both
  have look : (store.both host).second .disk (s', t) =
      ((host .disk t).1, s', (host .disk t).2) := rfl
  rw [look] at run exchanges
  simp only [Dialogue.run_both_first, Dialogue.exchanges_both_first,
    Dialogue.exchanges_both_second] at run exchanges
  exact ⟨congrArg Prod.fst run, exchanges⟩

/-- The host has no part in the reconciliation but for the disk that it shows first. -/
theorem seedStore_independent {τ' : Type} (host' : Responder HostProtocol τ') (t' : τ')
    (same : (host' .disk t').1 = (host .disk t).1) :
    result config palette patience store host' s t' =
        result config palette patience store host s t ∧
      (conversation config palette patience store host' s t').filterMap Exchange.first? =
        (conversation config palette patience store host s t).filterMap Exchange.first? := by
  rcases waited : (waitUntilReady config.wait patience).run store s with ⟨error | ⟨⟩, s'⟩
  · obtain ⟨result, said⟩ := of_unready palette host t waited
    obtain ⟨result', said'⟩ := of_unready palette host' t' waited
    exact ⟨result'.trans result.symm, congrArg _ (said'.trans said.symm)⟩
  · obtain ⟨result, said⟩ := of_ready palette host t waited
    obtain ⟨result', said'⟩ := of_ready palette host' t' waited
    rw [same] at result' said'
    rw [result, result', said, said', filterMap_first?_course, filterMap_first?_course]
    exact ⟨rfl, rfl⟩

/-- Whatever the database answers and whatever becomes of the commands, a seeding is gated. -/
theorem seedStore_gated (config : SeedConfig) (palette : Palette) (patience : Nat)
    (store : Responder StoreProtocol σ) (host : Responder HostProtocol τ) (s : σ) (t : τ) :
    Gated config palette patience store host s t := by
  have ready {failures probes ready} (probed : Probed store failures s probes ready)
      (admitted : config.wait = true ∨ failures = 0) (le : failures ≤ patience) :=
    of_ready palette host t (waitUntilReady_of_probed probed admitted le).1
  have hurried (hurries : config.wait = false) {error : StoreError}
      (failed : (store (.list .site) s).1 = .error error) :
      (waitUntilReady config.wait patience).run store s =
          (.error error, (store (.list .site) s).2) ∧
        (waitUntilReady config.wait patience).exchanges store s =
          [⟨.list .site, .error error⟩] :=
    waitUntilReady_of_failed (.inl hurries) (Prod.ext failed rfl)
  constructor
  case fails_iff =>
    intro inTime
    cases waits : config.wait with
    | true =>
      obtain ⟨failures, le, probes, s', probed⟩ := inTime waits
      rw [(ready probed (.inl waits) le).1]
      simp
    | false =>
      rcases shown : store (.list .site) s with ⟨error | sites, s'⟩
      · have failed : (store (.list .site) s).1 = .error error := congrArg Prod.fst shown
        rw [(of_unready palette host t (hurried waits failed).1).1]
        simp
      · rw [(ready (.of_given shown) (.inr rfl) (Nat.zero_le _)).1]
        simp
  case refused =>
    intro hurries error failed
    obtain ⟨run, exchanges⟩ := hurried hurries failed
    obtain ⟨result, said⟩ := of_unready palette host t run
    rw [exchanges] at said
    exact ⟨result, said⟩
  case waits =>
    intro waits late
    obtain ⟨probes, s', inVain⟩ := (answersInTime_or_inVain store patience s).resolve_left late
    obtain ⟨⟨error, run⟩, exchanges⟩ := waitUntilReady_of_inVain waits inVain
    obtain ⟨-, said⟩ := of_unready palette host t run
    rw [exchanges] at said
    exact ⟨probes, s', inVain, said⟩
  case admitted =>
    intro failures probes s' probed admitted le
    obtain ⟨result, said⟩ := ready probed admitted le
    rw [(waitUntilReady_of_probed probed admitted le).2] at said
    exact ⟨result, said, probed.length, probed.asked, commands_load config host _⟩
  case independent =>
    intro τ' host' t' same
    exact seedStore_independent palette host t host' t' same

end

/-! ## A database that comes late -/

/-- Fails so many times. Then its listings are empty, and it accepts nothing. -/
def lateStore : Responder StoreProtocol Nat
  | .list _, 0 => (.ok [], 0)
  | _, times => (.error (.connectivity "no answer"), times - 1)

def waitingConfig : SeedConfig where
  url := "http://localhost:8080"
  token := none
  wait := true
  retrySeconds := 15
  timeoutSeconds := 30
  catalog := {}
  networkMap := none
  install := { dir := ⟨"/opt"⟩, superuserScript := ⟨"/superuser.py"⟩ }
  preloadDir := ⟨"/preload"⟩
  libraryDir := ⟨"/library"⟩
  preloadPrefixes := false
  backup := none
  postgres := { host := "localhost", db := "netbox", user := "netbox", password := "secret" }

/-- What both loaders need, with room for a temporary directory. -/
def loaderDisk : Disk where
  tree := .dir [
    ("opt", .dir [
      ("venv", .dir [("bin", .dir [("python", .file { content := [] })])]),
      ("netbox", .dir [("manage.py", .file { content := [] })])]),
    ("preload", .dir []), ("library", .dir []), ("tmp", .dir [])]
  scratch := .ok ⟨"/tmp/x7"⟩

/-- A host on which the interpreter does not start. -/
def loaderHost : Responder HostProtocol (Unit × Disk) :=
  quietHost (Restore.Plan.unwilling ["/opt/venv/bin/python"])

/-- The sites are shown at the third request. Then both loaders are tried, though neither can be
started. -/
theorem seedStore_gated_lateStore :
    ∃ probes report, Probed lateStore 2 2 probes 0 ∧ probes.length = 3 ∧
      result waitingConfig default 2 lateStore loaderHost 2 ((), loaderDisk) = .ok report ∧
      HostTranscript.commands ((load waitingConfig).exchanges loaderHost ((), loaderDisk)) =
        [Preload.initializerCommand waitingConfig.install ⟨"/tmp/x7"⟩,
          Preload.importCommand waitingConfig.install ⟨"/library"⟩ "http://localhost:8080"
            none] := by
  have probed : Probed lateStore 2 2 _ 0 :=
    ⟨_, 0, [], .again rfl (.again rfl .nil), rfl, rfl⟩
  obtain ⟨result, -, length, -, initializing, initialized, commands⟩ :=
    (seedStore_gated waitingConfig default 2 lateStore loaderHost 2 ((), loaderDisk)).admitted
      2 _ 0 probed (.inl rfl) (Nat.le_refl 2)
  have staged : (Fixtures.staged loaderDisk waitingConfig.preloadDir none false).isOk := by
    decide +kernel
  have imports : Disk.isDir (loaderHost .disk
      (afterInitializers waitingConfig loaderHost ((), loaderDisk))).1 waitingConfig.libraryDir =
        true := by decide +kernel
  simp only [show loaderHost .disk ((), loaderDisk) = (loaderDisk, (), loaderDisk) from rfl]
    at commands initialized
  rw [imports] at commands
  cases initialized with
  | issued ready =>
    obtain rfl := Except.ok.inj ready.given
    exact ⟨_, _, probed, length, result, commands⟩
  | skipped unready =>
    cases stage : Fixtures.staged loaderDisk waitingConfig.preloadDir none false with
    | error failure => rw [stage] at staged; cases staged
    | ok copy =>
      exact absurd (Preload.initializes_iff.2 ⟨by decide +kernel, copy.2, stage⟩) (unready copy.1)

end AssetSeed.Seed
