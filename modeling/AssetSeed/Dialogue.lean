/-!
# Dialogues

A program that talks to another party is a tree: it is done, or it asks a question and goes on with
the answer. Nothing is assumed about the other party, so what holds along every path of the tree
holds whoever answers.

## Main definitions

* `Protocol` — the questions of a conversation and the type of each answer.
* `Dialogue` — a program over a protocol.
* `Dialogue.run` — the result of a dialogue with a responder, and the state that is left.
* `Dialogue.exchanges` — every question put, with the answer given.
* `Dialogue.through` — a dialogue whose questions are answered by dialogues over another protocol.
-/

namespace AssetSeed

structure Protocol where
  Question : Type
  Answer : Question → Type

inductive Dialogue (P : Protocol) (α : Type) where
  | done (value : α)
  | ask (question : P.Question) (next : P.Answer question → Dialogue P α)

/-- Answers every question of a protocol, with a state of its own. -/
abbrev Responder (P : Protocol) (σ : Type) :=
  (question : P.Question) → σ → P.Answer question × σ

/-- A question together with the answer it got. -/
structure Exchange (P : Protocol) where
  question : P.Question
  answer : P.Answer question

namespace Protocol

/-- Two parties, each with its own protocol. -/
def both (P Q : Protocol) : Protocol where
  Question := P.Question ⊕ Q.Question
  Answer
    | .inl question => P.Answer question
    | .inr question => Q.Answer question

end Protocol

namespace Dialogue

variable {P Q : Protocol} {α β σ : Type}

protected def bind : Dialogue P α → (α → Dialogue P β) → Dialogue P β
  | .done value, rest => rest value
  | .ask question next, rest => .ask question fun answer => (next answer).bind rest

protected def map (f : α → β) : Dialogue P α → Dialogue P β
  | .done value => .done (f value)
  | .ask question next => .ask question fun answer => (next answer).map f

instance : Monad (Dialogue P) where
  pure := .done
  bind := Dialogue.bind
  map := Dialogue.map

/-- Asks one question and returns its answer. -/
def call (question : P.Question) : Dialogue P (P.Answer question) :=
  .ask question .done

def run (respond : Responder P σ) : Dialogue P α → σ → α × σ
  | .done value, s => (value, s)
  | .ask question next, s =>
    let (answer, s) := respond question s
    (next answer).run respond s

def exchanges (respond : Responder P σ) : Dialogue P α → σ → List (Exchange P)
  | .done _, _ => []
  | .ask question next, s =>
    let (answer, s) := respond question s
    ⟨question, answer⟩ :: (next answer).exchanges respond s

def through (meaning : (question : P.Question) → Dialogue Q (P.Answer question)) :
    Dialogue P α → Dialogue Q α
  | .done value => .done value
  | .ask question next => (meaning question).bind fun answer => (next answer).through meaning

/-- Talks to the first of two parties only. -/
def toFirst : Dialogue P α → Dialogue (P.both Q) α
  | .done value => .done value
  | .ask question next =>
    .ask (P := P.both Q) (.inl question) fun answer => (next answer).toFirst

/-- Talks to the second of two parties only. -/
def toSecond : Dialogue Q α → Dialogue (P.both Q) α
  | .done value => .done value
  | .ask question next =>
    .ask (P := P.both Q) (.inr question) fun answer => (next answer).toSecond

end Dialogue

/-- Answers for two parties, each with its own state. -/
def Responder.both {P Q : Protocol} {σ τ : Type} (first : Responder P σ) (second : Responder Q τ) :
    Responder (P.both Q) (σ × τ)
  | .inl question, (s, t) => let (answer, s) := first question s; (answer, (s, t))
  | .inr question, (s, t) => let (answer, t) := second question t; (answer, (s, t))

end AssetSeed
