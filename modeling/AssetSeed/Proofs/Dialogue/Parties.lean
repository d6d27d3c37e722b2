import AssetSeed.Proofs.Dialogue.Run

/-!
# Dialogues with two parties, and dialogues behind questions

A dialogue with one of two parties goes as it does with this party alone. A dialogue whose questions
are answered by other dialogues goes as it does with a responder that has these dialogues.

## Main definitions

* `Responder.first`, `Responder.second` — one of two parties.
* `Exchange.ofFirst`, `Exchange.ofSecond` — what is said to one of them, as it is said among both.
* `Exchange.first?`, `Exchange.second?` — what was said to one of them, if it was.
* `Responder.behind` — answers a question by a dialogue over another protocol.

## Main statements

* `Dialogue.run_toFirst`, `Dialogue.exchanges_toFirst` — dialogues with the first party, and
  likewise with the second.
* `Dialogue.run_both_first`, `Dialogue.exchanges_both_first` — parties do not disturb each other.
* `Dialogue.through_bind`, `Dialogue.run_through` — dialogues behind questions.
-/

namespace AssetSeed

variable {P Q : Protocol} {α β σ τ : Type}

namespace Responder

def first (respond : Responder (P.both Q) σ) : Responder P σ :=
  fun question s => respond (.inl question) s

def second (respond : Responder (P.both Q) σ) : Responder Q σ :=
  fun question s => respond (.inr question) s

/-- Answers a question by the dialogue that it means. -/
def behind (meaning : (question : P.Question) → Dialogue Q (P.Answer question))
    (respond : Responder Q σ) : Responder P σ :=
  fun question s => (meaning question).run respond s

end Responder

namespace Exchange

def ofFirst (exchange : Exchange P) : Exchange (P.both Q) :=
  ⟨.inl exchange.question, exchange.answer⟩

def ofSecond (exchange : Exchange Q) : Exchange (P.both Q) :=
  ⟨.inr exchange.question, exchange.answer⟩

/-- What was said to the first party, if it was. -/
def first? : Exchange (P.both Q) → Option (Exchange P)
  | ⟨.inl question, answer⟩ => some ⟨question, answer⟩
  | ⟨.inr _, _⟩ => none

/-- What was said to the second party, if it was. -/
def second? : Exchange (P.both Q) → Option (Exchange Q)
  | ⟨.inl _, _⟩ => none
  | ⟨.inr question, answer⟩ => some ⟨question, answer⟩

theorem filterMap_first?_ofFirst (said : List (Exchange P)) :
    (said.map (ofFirst (Q := Q))).filterMap first? = said := by
  rw [List.filterMap_map]
  exact List.filterMap_some

theorem filterMap_first?_ofSecond (said : List (Exchange Q)) :
    (said.map (ofSecond (P := P))).filterMap first? = [] :=
  List.filterMap_eq_nil_iff.2 fun _ mem => by
    obtain ⟨_, _, rfl⟩ := List.mem_map.1 mem
    rfl

theorem filterMap_second?_ofFirst (said : List (Exchange P)) :
    (said.map (ofFirst (Q := Q))).filterMap second? = [] :=
  List.filterMap_eq_nil_iff.2 fun _ mem => by
    obtain ⟨_, _, rfl⟩ := List.mem_map.1 mem
    rfl

theorem filterMap_second?_ofSecond (said : List (Exchange Q)) :
    (said.map (ofSecond (P := P))).filterMap second? = said := by
  rw [List.filterMap_map]
  exact List.filterMap_some

end Exchange

namespace Dialogue

/-! ## One of two parties -/

section

variable (respond : Responder (P.both Q) σ)

theorem run_toFirst (d : Dialogue P α) (s : σ) :
    d.toFirst.run respond s = d.run respond.first s := by
  induction d generalizing s with
  | done a => rfl
  | ask question next ih => exact ih _ _

theorem run_toSecond (d : Dialogue Q α) (s : σ) :
    d.toSecond.run respond s = d.run respond.second s := by
  induction d generalizing s with
  | done a => rfl
  | ask question next ih => exact ih _ _

theorem exchanges_toFirst (d : Dialogue P α) (s : σ) :
    d.toFirst.exchanges respond s = (d.exchanges respond.first s).map .ofFirst := by
  induction d generalizing s with
  | done a => rfl
  | ask question next ih => exact congrArg (_ :: ·) (ih _ _)

theorem exchanges_toSecond (d : Dialogue Q α) (s : σ) :
    d.toSecond.exchanges respond s = (d.exchanges respond.second s).map .ofSecond := by
  induction d generalizing s with
  | done a => rfl
  | ask question next ih => exact congrArg (_ :: ·) (ih _ _)

end

theorem toFirst_bind (d : Dialogue P α) (f : α → Dialogue P β) :
    (d >>= f).toFirst (Q := Q) = d.toFirst >>= fun a => (f a).toFirst := by
  induction d with
  | done a => rfl
  | ask question next ih => exact congrArg (ask (P := P.both Q) (.inl question)) (funext ih)

section

variable (one : Responder P σ) (other : Responder Q τ)

theorem run_both_first (d : Dialogue P α) (s : σ) (t : τ) :
    d.run (one.both other).first (s, t) = ((d.run one s).1, (d.run one s).2, t) := by
  induction d generalizing s with
  | done a => rfl
  | ask question next ih => exact ih _ _

theorem exchanges_both_first (d : Dialogue P α) (s : σ) (t : τ) :
    d.exchanges (one.both other).first (s, t) = d.exchanges one s := by
  induction d generalizing s with
  | done a => rfl
  | ask question next ih => exact congrArg (_ :: ·) (ih _ _)

theorem exchanges_both_second (d : Dialogue Q α) (s : σ) (t : τ) :
    d.exchanges (one.both other).second (s, t) = d.exchanges other t := by
  induction d generalizing t with
  | done a => rfl
  | ask question next ih => exact congrArg (_ :: ·) (ih _ _)

end

/-! ## Dialogues behind questions -/

section

variable (meaning : (question : P.Question) → Dialogue Q (P.Answer question))

theorem through_pure (a : α) : (pure a : Dialogue P α).through meaning = pure a := rfl

theorem through_bind (d : Dialogue P α) (f : α → Dialogue P β) :
    (d >>= f).through meaning = d.through meaning >>= fun a => (f a).through meaning := by
  induction d with
  | done a => rfl
  | ask question next ih =>
    have rest : (fun answer => ((next answer) >>= f).through meaning) =
        fun answer => (next answer).through meaning >>= fun a => (f a).through meaning :=
      funext ih
    calc (meaning question) >>= (fun answer => ((next answer) >>= f).through meaning)
      _ = meaning question >>= fun answer =>
            (next answer).through meaning >>= fun a => (f a).through meaning := by rw [rest]
      _ = _ := (bind_assoc ..).symm

theorem run_through (respond : Responder Q σ) (d : Dialogue P α) (s : σ) :
    (d.through meaning).run respond s = d.run (respond.behind meaning) s := by
  induction d generalizing s with
  | done a => rfl
  | ask question next ih => exact (run_bind respond _ _ s).trans (ih _ _)

theorem exchanges_through_ask (respond : Responder Q σ) (question : P.Question)
    (next : P.Answer question → Dialogue P α) (s : σ) :
    ((ask question next).through meaning).exchanges respond s =
      (meaning question).exchanges respond s ++
        ((next ((meaning question).run respond s).1).through meaning).exchanges respond
          ((meaning question).run respond s).2 :=
  exchanges_bind respond _ _ s

end

end Dialogue

end AssetSeed
