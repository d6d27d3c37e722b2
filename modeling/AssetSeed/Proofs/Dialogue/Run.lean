import AssetSeed.Dialogue

/-!
# Running dialogues

Dialogues obey the laws of monads, and what a dialogue does with a responder is what its parts do
one after the other.

## Main statements

* `Dialogue.run_bind` — the run of two dialogues in sequence.
* `Dialogue.exchanges_bind` — what is said in two dialogues in sequence.
-/

namespace AssetSeed.Dialogue

variable {P : Protocol} {α β σ : Type}

private theorem map_eq_bind (f : α → β) (d : Dialogue P α) :
    f <$> d = d >>= fun a => Dialogue.done (f a) := by
  induction d with
  | done a => rfl
  | ask question next ih => exact congrArg (Dialogue.ask question) (funext ih)

private theorem id_map_eq (d : Dialogue P α) : id <$> d = d := by
  induction d with
  | done a => rfl
  | ask question next ih => exact congrArg (Dialogue.ask question) (funext ih)

private theorem bind_assoc_eq {γ : Type} (d : Dialogue P α) (f : α → Dialogue P β)
    (g : β → Dialogue P γ) : d >>= f >>= g = d >>= fun a => f a >>= g := by
  induction d with
  | done a => rfl
  | ask question next ih => exact congrArg (Dialogue.ask question) (funext ih)

instance : LawfulMonad (Dialogue P) :=
  LawfulMonad.mk' _ id_map_eq (fun _ _ => rfl) bind_assoc_eq (by intros; rfl) (by intros; rfl)
    (by intros; rfl) (fun f d => (map_eq_bind f d).symm) (by intros; rfl)

variable (respond : Responder P σ)

@[simp] theorem run_done (a : α) (s : σ) : (Dialogue.done a).run respond s = (a, s) := rfl

@[simp] theorem run_pure (a : α) (s : σ) :
    (pure a : Dialogue P α).run respond s = (a, s) := rfl

@[simp] theorem exchanges_pure (a : α) (s : σ) :
    (pure a : Dialogue P α).exchanges respond s = [] := rfl

theorem run_bind (d : Dialogue P α) (f : α → Dialogue P β) (s : σ) :
    (d >>= f).run respond s = (f (d.run respond s).1).run respond (d.run respond s).2 := by
  induction d generalizing s with
  | done a => rfl
  | ask question next ih => exact ih _ _

theorem exchanges_bind (d : Dialogue P α) (f : α → Dialogue P β) (s : σ) :
    (d >>= f).exchanges respond s = d.exchanges respond s ++
      (f (d.run respond s).1).exchanges respond (d.run respond s).2 := by
  induction d generalizing s with
  | done a => rfl
  | ask question next ih => exact congrArg (_ :: ·) (ih _ _)

theorem run_call_bind (question : P.Question) (f : P.Answer question → Dialogue P β) (s : σ) :
    (call question >>= f).run respond s =
      (f (respond question s).1).run respond (respond question s).2 := rfl

theorem exchanges_call_bind (question : P.Question) (f : P.Answer question → Dialogue P β)
    (s : σ) : (call question >>= f).exchanges respond s = ⟨question, (respond question s).1⟩ ::
      (f (respond question s).1).exchanges respond (respond question s).2 := rfl

end AssetSeed.Dialogue
