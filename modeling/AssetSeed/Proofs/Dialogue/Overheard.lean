import AssetSeed.Proofs.Dialogue.Ensures

/-!
# Dialogues that are overheard

What a dialogue does to the other party and what is said in it, side by side. A question is put when
the other party is in some state, which later questions may change. What is said of a question in
view of this state is said at its moment.

## Main definitions

* `Responder.overheard` — the conduct of a responder, with a transcript.
* `Dialogue.moments` — the questions that are put, each with the state of the responder then.
* `Dialogue.Throughout` — a law holds at every moment.
* `Responder.watched` — the conduct of a responder, with the moments so far.

## Main statements

* `Dialogue.Ensures.overheard` — what is ensured against an overheard responder holds of the run
  with it and of its exchanges.
* `Dialogue.Ensures.all` — what is ensured for each index is ensured for all at once.
* `Dialogue.Ensures.of_asked` — an invariant survives a dialogue if it survives what may be asked.
* `Dialogue.Ensures.through_eq_self` — a dialogue all of whose questions mean themselves.
* `Dialogue.Ensures.moments` — what is ensured of the moments against a watched responder.
-/

namespace AssetSeed

variable {P : Protocol} {α σ : Type}

/-- What the responder does. What is said is remembered. -/
def Responder.overheard (respond : Responder P σ) : Conduct P (σ × List (Exchange P)) :=
  fun question before answer after =>
    respond question before.1 = (answer, after.1) ∧ after.2 = before.2 ++ [⟨question, answer⟩]

namespace Dialogue.Ensures

theorem overheard {respond : Responder P σ} {d : Dialogue P α}
    {post : α → σ × List (Exchange P) → Prop} {s : σ} {said : List (Exchange P)}
    (h : d.Ensures respond.overheard post (s, said)) :
    post (d.run respond s).1 ((d.run respond s).2, said ++ d.exchanges respond s) := by
  induction d generalizing s said with
  | done a => simpa [Dialogue.exchanges] using (show post a (s, said) from h)
  | ask question next ih =>
    have rest := ih _ (h (respond question s).1
      ((respond question s).2, said ++ [⟨question, (respond question s).1⟩]) ⟨rfl, rfl⟩)
    simpa [Dialogue.exchanges, Dialogue.run] using rest

variable {conduct : Conduct P σ}

theorem all {ι : Type} {d : Dialogue P α} {post : ι → α → σ → Prop} {s : σ}
    (h : ∀ i, d.Ensures conduct (post i) s) : d.Ensures conduct (fun a s => ∀ i, post i a s) s := by
  induction d generalizing s with
  | done a => exact h
  | ask question next ih => exact fun answer s' hs => ih answer fun i => h i answer s' hs

/-- What holds of every result and every state is ensured by every dialogue. -/
theorem of_forall {d : Dialogue P α} {post : α → σ → Prop} {s : σ} (h : ∀ a s, post a s) :
    d.Ensures conduct post s := by
  induction d generalizing s with
  | done a => exact h a s
  | ask question next ih => exact fun answer s' _ => ih answer

/-- Where every question has some answer, whatever is asked is asked of somebody. So the first
question obeys a law that all do. -/
theorem law_of_asked {law : P.Question → Prop} {question : P.Question}
    {next : P.Answer question → Dialogue P α} {said : List (Exchange P)}
    (answer : ∀ question, P.Answer question)
    (asked : (ask question next).Ensures Conduct.recorded
      (fun _ said' => ∀ e ∈ said', law e.question) said) : law question := by
  let respond : Responder P Unit := fun question _ => (answer question, ())
  have run : ∀ e ∈ said ++ (ask question next).exchanges respond (), law e.question :=
    asked.exchanges ()
  exact run ⟨question, answer question⟩ (List.mem_append_right _ List.mem_cons_self)

/-- An invariant survives if it survives all questions that obey a law, and no other ones are asked
of anybody. -/
theorem of_asked {d : Dialogue P α} {law : P.Question → Prop} {said : List (Exchange P)}
    (answer : ∀ question, P.Answer question)
    (asked : d.Ensures Conduct.recorded (fun _ said' => ∀ e ∈ said', law e.question) said)
    {inv : σ → Prop} (keeps : ∀ question, law question → conduct.Preserves inv question) {s : σ}
    (h : inv s) : d.Ensures conduct (fun _ s => inv s) s := by
  induction d generalizing said s with
  | done a => exact h
  | ask question next ih =>
    have here : law question := law_of_asked answer asked
    intro reply s' hs
    exact ih reply (asked reply _ rfl) (keeps question here s reply s' h hs)

/-- Where all that may be asked means no more than asking it, nothing comes of the meaning. -/
theorem through_eq_self {meaning : (question : P.Question) → Dialogue P (P.Answer question)}
    {d : Dialogue P α} {said : List (Exchange P)} (answer : ∀ question, P.Answer question)
    (asked : d.Ensures Conduct.recorded
      (fun _ said' => ∀ e ∈ said', meaning e.question = call e.question) said) :
    d.through meaning = d := by
  induction d generalizing said with
  | done a => rfl
  | ask question next ih =>
    let law : P.Question → Prop := fun question => meaning question = call question
    have here : law question := law_of_asked answer asked
    rw [through, show meaning question = call question from here]
    exact congrArg (ask question) (funext fun reply => ih reply (asked reply _ rfl))

end Dialogue.Ensures

/-! ## Moments -/

/-- The questions that are put to the responder, each with the state that the responder is in. -/
def Dialogue.moments (respond : Responder P σ) : Dialogue P α → σ → List (P.Question × σ)
  | .done _, _ => []
  | .ask question next, s =>
    let (answer, s') := respond question s
    (question, s) :: (next answer).moments respond s'

/-- At every moment the law holds of the question and the state. -/
def Dialogue.Throughout (respond : Responder P σ) (law : P.Question → σ → Prop) (d : Dialogue P α)
    (s : σ) : Prop :=
  ∀ moment ∈ d.moments respond s, law moment.1 moment.2

/-- What the responder does. The moments so far are remembered. -/
def Responder.watched (respond : Responder P σ) : Conduct P (σ × List (P.Question × σ)) :=
  fun question before answer after =>
    respond question before.1 = (answer, after.1) ∧ after.2 = before.2 ++ [(question, before.1)]

/-- What is ensured against a watched responder holds of the run with it and of its moments. -/
theorem Dialogue.Ensures.moments {respond : Responder P σ} {d : Dialogue P α}
    {post : α → σ × List (P.Question × σ) → Prop} {s : σ} {seen : List (P.Question × σ)}
    (h : d.Ensures respond.watched post (s, seen)) :
    post (d.run respond s).1 ((d.run respond s).2, seen ++ d.moments respond s) := by
  induction d generalizing s seen with
  | done a => simpa [Dialogue.moments] using (show post a (s, seen) from h)
  | ask question next ih =>
    have rest := ih _ (h (respond question s).1 ((respond question s).2, seen ++ [(question, s)])
      ⟨rfl, rfl⟩)
    simpa [Dialogue.moments, Dialogue.run] using rest

end AssetSeed
