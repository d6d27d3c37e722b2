import AssetSeed.Proofs.Dialogue.Run
import AssetSeed.Reconcile.Run

/-!
# Readiness

The sites are asked for before anything else. Whoever waits asks again until they are given.

## Main definitions

* `Reconcile.InVain` — the sites were asked for a number of times, and never given.
* `Reconcile.Probed` — the sites were asked for in vain, and given then.
* `Reconcile.AnswersInTime` — the sites are given before patience is at its end.

## Main statements

* `Reconcile.answersInTime_or_inVain` — they are given in time, or they are not.
* `Reconcile.waitUntilReady_of_probed`, `Reconcile.waitUntilReady_of_inVain` — what comes of either.
-/

namespace AssetSeed.Reconcile

variable {σ : Type} {respond : Responder StoreProtocol σ} {s s' : σ}
  {said : List (Exchange StoreProtocol)}

/-- The sites were asked for so many times, and never given. -/
inductive InVain (respond : Responder StoreProtocol σ) :
    (times : Nat) → σ → List (Exchange StoreProtocol) → σ → Prop
  | nil {s : σ} : InVain respond 0 s [] s
  | again {times : Nat} {s s₁ s' : σ} {error : StoreError} {said : List (Exchange StoreProtocol)}
      (failed : respond (.list .site) s = (.error error, s₁))
      (later : InVain respond times s₁ said s') :
      InVain respond (times + 1) s (⟨.list .site, .error error⟩ :: said) s'

/-- The sites were asked for `failures` times in vain, and given then. -/
def Probed (respond : Responder StoreProtocol σ) (failures : Nat) (s : σ)
    (said : List (Exchange StoreProtocol)) (s' : σ) : Prop :=
  ∃ before s₁ sites, InVain respond failures s before s₁ ∧
    respond (.list .site) s₁ = (.ok sites, s') ∧ said = before ++ [⟨.list .site, .ok sites⟩]

/-- The sites are given before it has failed more than `patience` times. -/
def AnswersInTime (respond : Responder StoreProtocol σ) (patience : Nat) (s : σ) : Prop :=
  ∃ failures ≤ patience, ∃ said s', Probed respond failures s said s'

theorem InVain.length {times : Nat} (inVain : InVain respond times s said s') :
    said.length = times := by
  induction inVain with
  | nil => rfl
  | again failed later ih => exact congrArg (· + 1) ih

theorem InVain.asked {times : Nat} (inVain : InVain respond times s said s') :
    ∀ exchange ∈ said, exchange.question = .list .site := by
  induction inVain with
  | nil => exact List.forall_mem_nil _
  | again failed later ih => exact List.forall_mem_cons.2 ⟨rfl, ih⟩

theorem Probed.length {failures : Nat} (probed : Probed respond failures s said s') :
    said.length = failures + 1 := by
  obtain ⟨before, s₁, sites, inVain, -, rfl⟩ := probed
  rw [List.length_append, inVain.length, List.length_singleton]

theorem Probed.asked {failures : Nat} (probed : Probed respond failures s said s') :
    ∀ exchange ∈ said, exchange.question = .list .site := by
  obtain ⟨before, s₁, sites, inVain, -, rfl⟩ := probed
  exact List.forall_mem_append.2 ⟨inVain.asked, List.forall_mem_singleton.2 rfl⟩

theorem Probed.of_given {sites : List Record.Site}
    (given : respond (.list .site) s = (.ok sites, s')) :
    Probed respond 0 s [⟨.list .site, .ok sites⟩] s' :=
  ⟨[], s, sites, .nil, given, rfl⟩

theorem answersInTime_or_inVain (respond : Responder StoreProtocol σ) (patience : Nat) (s : σ) :
    AnswersInTime respond patience s ∨ ∃ said s', InVain respond (patience + 1) s said s' := by
  induction patience generalizing s with
  | zero =>
    rcases answer : respond (.list .site) s with ⟨error | sites, s₁⟩
    · exact .inr ⟨_, s₁, .again answer .nil⟩
    · exact .inl ⟨0, Nat.le_refl 0, _, s₁, .of_given answer⟩
  | succ patience ih =>
    rcases answer : respond (.list .site) s with ⟨error | sites, s₁⟩
    · rcases ih s₁ with ⟨failures, le, _, s', before, s₂, sites, inVain, given, rfl⟩ |
        ⟨said, s', inVain⟩
      · exact .inl ⟨failures + 1, Nat.succ_le_succ le, _, s', _, s₂, sites, .again answer inVain,
          given, rfl⟩
      · exact .inr ⟨_, s', .again answer inVain⟩
    · exact .inl ⟨0, Nat.zero_le _, _, s₁, .of_given answer⟩

/-! ## Waiting -/

variable {wait : Bool}

/-- A failure costs patience, and nothing else. -/
theorem waitUntilReady_again (patience : Nat) {s₁ : σ} {error : StoreError} (waits : wait = true)
    (failed : respond (.list .site) s = (.error error, s₁)) :
    (waitUntilReady wait (patience + 1)).run respond s =
        (waitUntilReady wait patience).run respond s₁ ∧
      (waitUntilReady wait (patience + 1)).exchanges respond s =
        ⟨.list .site, .error error⟩ :: (waitUntilReady wait patience).exchanges respond s₁ := by
  subst waits
  rw [waitUntilReady, Dialogue.run_bind, Dialogue.exchanges_bind]
  simp only [Dialogue.call, Dialogue.run, Dialogue.exchanges, failed, if_true, List.cons_append,
    List.nil_append, and_self]

/-- Sites that are given end the waiting. -/
theorem waitUntilReady_of_given (wait : Bool) (patience : Nat) {sites : List Record.Site}
    (given : respond (.list .site) s = (.ok sites, s')) :
    (waitUntilReady wait patience).run respond s = (.ok (), s') ∧
      (waitUntilReady wait patience).exchanges respond s = [⟨.list .site, .ok sites⟩] := by
  cases patience <;>
    simp [waitUntilReady, Dialogue.run_bind, Dialogue.exchanges_bind, Dialogue.call, Dialogue.run,
      Dialogue.exchanges, given]

/-- The last failure is returned, and without waiting the first one is the last. -/
theorem waitUntilReady_of_failed {patience : Nat} {error : StoreError}
    (last : wait = false ∨ patience = 0)
    (failed : respond (.list .site) s = (.error error, s')) :
    (waitUntilReady wait patience).run respond s = (.error error, s') ∧
      (waitUntilReady wait patience).exchanges respond s = [⟨.list .site, .error error⟩] := by
  cases patience with
  | zero =>
    simp [waitUntilReady, Dialogue.run_bind, Dialogue.exchanges_bind, Dialogue.call, Dialogue.run,
      Dialogue.exchanges, failed]
  | succ patience =>
    obtain rfl := last.resolve_right (Nat.succ_ne_zero patience)
    simp [waitUntilReady, Dialogue.run_bind, Dialogue.exchanges_bind, Dialogue.call, Dialogue.run,
      Dialogue.exchanges, failed]

theorem waitUntilReady_of_probed {failures patience : Nat}
    (probed : Probed respond failures s said s') (admitted : wait = true ∨ failures = 0)
    (le : failures ≤ patience) :
    (waitUntilReady wait patience).run respond s = (.ok (), s') ∧
      (waitUntilReady wait patience).exchanges respond s = said := by
  obtain ⟨before, s₁, sites, inVain, given, rfl⟩ := probed
  induction inVain generalizing patience with
  | nil => exact waitUntilReady_of_given wait patience given
  | again failed later ih =>
    have waits := admitted.resolve_right (Nat.succ_ne_zero _)
    obtain ⟨patience, rfl⟩ := Nat.exists_eq_add_of_le' (Nat.le_trans (Nat.le_add_left 1 _) le)
    obtain ⟨run, exchanges⟩ := ih (.inl waits) (Nat.le_of_succ_le_succ le) given
    obtain ⟨run', exchanges'⟩ := waitUntilReady_again patience waits failed
    exact ⟨run'.trans run, exchanges'.trans (congrArg (_ :: ·) exchanges)⟩

theorem waitUntilReady_of_inVain {patience : Nat} (waits : wait = true)
    (inVain : InVain respond (patience + 1) s said s') :
    (∃ error, (waitUntilReady wait patience).run respond s = (.error error, s')) ∧
      (waitUntilReady wait patience).exchanges respond s = said := by
  induction patience generalizing s said with
  | zero =>
    obtain _ | ⟨failed, later⟩ := inVain
    cases later
    obtain ⟨run, exchanges⟩ := waitUntilReady_of_failed (.inr rfl) failed
    exact ⟨⟨_, run⟩, exchanges⟩
  | succ patience ih =>
    obtain _ | ⟨failed, later⟩ := inVain
    obtain ⟨⟨error, run⟩, exchanges⟩ := ih later
    obtain ⟨run', exchanges'⟩ := waitUntilReady_again patience waits failed
    exact ⟨⟨error, run'.trans run⟩, exchanges'.trans (congrArg (_ :: ·) exchanges)⟩

end AssetSeed.Reconcile
