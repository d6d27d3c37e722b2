import AssetSeed.Proofs.Dialogue.Run

/-!
# What a dialogue ensures

The other party is known by its conduct alone: which answers it may give, and what they do to its
state. A dialogue ensures what holds at its end under every such conduct. With the transcript as the
state, this speaks of all that was said, whoever answered.

## Main definitions

* `Conduct` — what a party may answer, and its state thereafter.
* `Responder.conduct`, `Conduct.recorded` — a responder's conduct; any conduct, with a transcript.
* `Conduct.Preserves` — an invariant survives a question.
* `Dialogue.Ensures` — the weakest precondition of a dialogue.

## Main statements

* `Dialogue.Ensures.run`, `Dialogue.Ensures.exchanges` — what is ensured holds of each run.
-/

namespace AssetSeed

variable {P : Protocol} {α β σ : Type}

/-- What a party may answer to a question, and the state it may be in then. -/
abbrev Conduct (P : Protocol) (σ : Type) :=
  (question : P.Question) → σ → P.Answer question → σ → Prop

def Responder.conduct (respond : Responder P σ) : Conduct P σ :=
  fun question s answer s' => respond question s = (answer, s')

/-- Any answer whatever. The state is the transcript so far. -/
def Conduct.recorded : Conduct P (List (Exchange P)) :=
  fun question said answer said' => said' = said ++ [⟨question, answer⟩]

/-- The invariant survives the question, whatever the answer. -/
def Conduct.Preserves (conduct : Conduct P σ) (inv : σ → Prop) (question : P.Question) : Prop :=
  ∀ s answer s', inv s → conduct question s answer s' → inv s'

namespace Dialogue

variable {conduct : Conduct P σ}

/-- Whatever the party does, the dialogue ends with a result and in a state that satisfy `post`. -/
def Ensures (conduct : Conduct P σ) (post : α → σ → Prop) : Dialogue P α → σ → Prop
  | .done value, s => post value s
  | .ask question next, s =>
    ∀ answer s', conduct question s answer s' → (next answer).Ensures conduct post s'

@[simp] theorem ensures_pure {post : α → σ → Prop} {a : α} {s : σ} :
    (pure a : Dialogue P α).Ensures conduct post s ↔ post a s := Iff.rfl

theorem ensures_bind {d : Dialogue P α} {f : α → Dialogue P β} {post : β → σ → Prop} {s : σ} :
    (d >>= f).Ensures conduct post s ↔
      d.Ensures conduct (fun a s => (f a).Ensures conduct post s) s := by
  induction d generalizing s with
  | done a => exact Iff.rfl
  | ask question next ih =>
    exact forall_congr' fun answer => forall_congr' fun s' => imp_congr_right fun _ => ih answer

theorem Ensures.mono {d : Dialogue P α} {post post' : α → σ → Prop} {s : σ}
    (h : d.Ensures conduct post s) (imp : ∀ a s, post a s → post' a s) :
    d.Ensures conduct post' s := by
  induction d generalizing s with
  | done a => exact imp a s h
  | ask question next ih => exact fun answer s' hs => ih answer (h answer s' hs)

theorem Ensures.bind {d : Dialogue P α} {f : α → Dialogue P β} {mid : α → σ → Prop}
    {post : β → σ → Prop} {s : σ} (h : d.Ensures conduct mid s)
    (rest : ∀ a s, mid a s → (f a).Ensures conduct post s) : (d >>= f).Ensures conduct post s :=
  ensures_bind.2 (h.mono rest)

theorem Ensures.and {d : Dialogue P α} {post post' : α → σ → Prop} {s : σ}
    (h : d.Ensures conduct post s) (h' : d.Ensures conduct post' s) :
    d.Ensures conduct (fun a s => post a s ∧ post' a s) s := by
  induction d generalizing s with
  | done a => exact ⟨h, h'⟩
  | ask question next ih =>
    intro answer s' hs
    exact ih answer (h answer s' hs) (h' answer s' hs)

/-- What has been said stays said. -/
theorem ensures_prefix (d : Dialogue P α) (said : List (Exchange P)) :
    d.Ensures Conduct.recorded (fun _ said' => said <+: said') said := by
  induction d generalizing said with
  | done a => exact List.prefix_rfl
  | ask question next ih =>
    rintro answer _ rfl
    refine (ih answer _).mono fun _ said' later => ?_
    exact (List.prefix_append said _).trans later

/-- What is ensured against the conduct of a responder holds of the run with it. -/
theorem Ensures.run {respond : Responder P σ} {d : Dialogue P α} {post : α → σ → Prop} {s : σ}
    (h : d.Ensures respond.conduct post s) :
    post (d.run respond s).1 (d.run respond s).2 := by
  induction d generalizing s with
  | done a => exact h
  | ask question next ih => exact ih _ (h _ _ rfl)

/-- What is ensured of the transcript whoever answers holds of the exchanges with any responder. -/
theorem Ensures.exchanges {respond : Responder P σ} {d : Dialogue P α}
    {post : α → List (Exchange P) → Prop} {said : List (Exchange P)}
    (h : d.Ensures Conduct.recorded post said) (s : σ) :
    post (d.run respond s).1 (said ++ d.exchanges respond s) := by
  induction d generalizing said s with
  | done a => simpa [Dialogue.exchanges] using (show post a said from h)
  | ask question next ih =>
    have rest := ih _ (h (respond question s).1 _ rfl) (respond question s).2
    simpa [Dialogue.exchanges, Dialogue.run] using rest

end Dialogue

end AssetSeed
