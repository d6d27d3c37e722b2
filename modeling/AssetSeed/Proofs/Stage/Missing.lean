import AssetSeed.Proofs.Stage.Accounts
import AssetSeed.Proofs.Stage.Run
import AssetSeed.Proofs.Stage.Ensures
import AssetSeed.Proofs.Store.Transcript

/-!
# What a stage asks for

A stage that creates what is missing asks for the first draft of each key that is neither empty nor
there, one after the other, until a create fails other than by a rejection. Nothing is assumed about
the database.

## Main definitions

* `Transcript.drafts` — the drafts that were sent.
* `Stage.missing` — what a loop asks for.
* `Stage.Supplies` — which drafts have been sent in the end.
* `firsts`, `Stage.due` — the first item of each key; the items that a loop has to ask for.
* `Stage.notes` — the rejections that are noted, each under the key of its item.
* `Stage.Delivered` — what was said of items that are due, how it ended and what was reported.

## Main statements

* `firsts_cons`, `nodup_firsts` — the first item of each key, found on the way through a list.
* `Stage.missing_eq_due` — what a loop asks for is due.
* `Stage.delivered_createMissing` — the loop sends what is missing.
* `Stage.supplies_ensure` — so does a stage, in view of what is listed.
* `Stage.createMissing_delivers` — what a loop says, returns and reports.
-/

namespace AssetSeed

variable {kind : Kind}

/-- The draft, if a record of the kind was asked for. -/
def Exchange.draft? (kind : Kind) : Exchange StoreProtocol → Option kind.Draft
  | ⟨.create other draft, _⟩ => if h : other = kind then some (h ▸ draft) else none
  | _ => none

@[simp] theorem Exchange.draft?_create (draft : kind.Draft)
    (answer : Except StoreError kind.Record) :
    Exchange.draft? kind ⟨.create kind draft, answer⟩ = some draft :=
  dif_pos rfl

theorem Exchange.draft?_of_question {e : Exchange StoreProtocol} {draft : kind.Draft}
    (asked : e.question = .create kind draft) : e.draft? kind = some draft := by
  obtain ⟨question, answer⟩ := e
  obtain rfl : question = .create kind draft := asked
  exact draft?_create draft answer

/-- The drafts of a kind that were sent, in order. -/
def Transcript.drafts (said : Transcript) (kind : Kind) : List kind.Draft :=
  said.filterMap (Exchange.draft? kind)

theorem Transcript.drafts_of_asked {said : Transcript} {drafts : List kind.Draft}
    (asked : said.map (·.question) = drafts.map (.create kind)) : said.drafts kind = drafts := by
  induction drafts generalizing said with
  | nil =>
    obtain rfl := List.map_eq_nil_iff.1 asked
    rfl
  | cons draft rest ih =>
    obtain ⟨e, said, rfl, first, later⟩ := List.map_eq_cons_iff.1 asked
    rw [drafts, List.filterMap_cons_some (Exchange.draft?_of_question first), ← drafts, ih later]

namespace Stage

/-- Of the items that are wanted, the first of each key that is not empty, not in `existing` and not
among the keys `attempted` before. -/
def missing (kind : Kind) (existing : NameIndex) (attempted : List String) :
    List (String × kind.Draft) → List (String × kind.Draft)
  | [] => []
  | item :: rest =>
    if item.1.isEmpty || existing.contains item.1 || attempted.contains item.1 then
      missing kind existing attempted rest
    else item :: missing kind existing (item.1 :: attempted) rest

/-- The first of the drafts have been sent, and all of them unless something has failed for good. -/
structure Supplies (kind : Kind) (drafts : List kind.Draft) (said : Transcript) : Prop where
  sent : said.drafts kind <+: drafts
  complete : (∀ e ∈ said, e.fatal? = none) → said.drafts kind = drafts

/-- A listing after the drafts does not send any. -/
theorem Supplies.append_list {drafts : List kind.Draft} {said : Transcript}
    (h : Supplies kind drafts said) (listed : Kind)
    (answer : Except StoreError (List listed.Record)) :
    Supplies kind drafts (said ++ [⟨.list listed, answer⟩]) := by
  have same : Transcript.drafts (said ++ [⟨.list listed, answer⟩]) kind = said.drafts kind := by
    simp [Transcript.drafts, Exchange.draft?]
  constructor
  case sent => rw [same]; exact h.sent
  case complete =>
    intro quiet
    rw [same]
    exact h.complete fun e he => quiet e (List.mem_append_left _ he)

end Stage

/-! ## The first item of each key -/

section

variable {α κ : Type} [DecidableEq κ]

/-- Of the items whose key is not among the keys `attempted`, the first one of each key. -/
def firsts (key : α → κ) (attempted : List κ) (items : List α) : List α :=
  (items.filter fun item => key item ∉ attempted).eraseDupsBy fun item other => key item = key other

variable {key : α → κ} {attempted : List κ}

@[simp] theorem firsts_nil : firsts key attempted [] = [] := rfl

theorem firsts_cons (item : α) (rest : List α) : firsts key attempted (item :: rest) =
    if key item ∈ attempted then firsts key attempted rest
    else item :: firsts key (key item :: attempted) rest := by
  by_cases before : key item ∈ attempted
  · rw [if_pos before, firsts, List.filter_cons_of_neg (by simpa using before), ← firsts]
  · rw [if_neg before, firsts, List.filter_cons_of_pos (by simpa using before),
      List.eraseDupsBy_cons, List.filter_filter, firsts]
    simp only [decide_eq_false_iff_not, List.mem_cons, not_or, Bool.decide_and]

/-- By induction on the list, with whatever keys have been attempted. -/
theorem notMem_of_mem_firsts {items : List α} {item : α} (mem : item ∈ firsts key attempted items) :
    key item ∉ attempted := by
  induction items generalizing attempted with
  | nil => simp at mem
  | cons first rest ih =>
    rw [firsts_cons] at mem
    split at mem
    · exact ih mem
    · next fresh =>
      obtain rfl | mem := List.mem_cons.1 mem
      · exact fresh
      · exact fun before => ih mem (List.mem_cons_of_mem _ before)

theorem nodup_firsts (items : List α) : ((firsts key attempted items).map key).Nodup := by
  induction items generalizing attempted with
  | nil => simp
  | cons first rest ih =>
    rw [firsts_cons]
    split
    · exact ih
    · refine List.nodup_cons.2 ⟨fun mem => ?_, ih⟩
      obtain ⟨item, mem, same⟩ := List.mem_map.1 mem
      exact notMem_of_mem_firsts mem (same ▸ List.mem_cons_self)

end

namespace Stage

variable {kind : Kind} {existing : NameIndex} {attempted : List String}
  {wanted : List (String × kind.Draft)}

/-- The first item of each key that is neither empty nor in the index. -/
def due (existing : NameIndex) (wanted : List (String × kind.Draft)) : List (String × kind.Draft) :=
  firsts Prod.fst [] (wanted.filter fun item => item.1 ≠ "" ∧ ¬existing.contains item.1)

theorem missing_eq_firsts : missing kind existing attempted wanted =
    firsts Prod.fst attempted
      (wanted.filter fun item => item.1 ≠ "" ∧ ¬existing.contains item.1) := by
  induction wanted generalizing attempted with
  | nil => rfl
  | cons item rest ih =>
    rw [missing]
    by_cases passed : item.1 = "" ∨ existing.contains item.1
    · have unwanted : ¬(item.1 ≠ "" ∧ ¬existing.contains item.1) := by tauto
      rw [List.filter_cons_of_neg (by simpa using unwanted), ← ih]
      simp [passed]
    · have lacking : item.1 ≠ "" ∧ ¬existing.contains item.1 := not_or.1 passed
      rw [List.filter_cons_of_pos (by simpa using lacking), firsts_cons, ← ih, ← ih]
      simp [lacking]

theorem missing_eq_due : missing kind existing [] wanted = due existing wanted :=
  missing_eq_firsts

/-! ## What comes of the items that are due -/

/-- The rejections among the answers, each noted under the key of its item. -/
def notes (due : List (String × kind.Draft)) (own : Transcript) : List Rejection :=
  (due.zip own).filterMap fun (item, e) => e.refusal?.map fun error => ⟨item.1, error⟩

theorem notes_cons (item : String × kind.Draft) (due : List (String × kind.Draft))
    (e : Exchange StoreProtocol) (own : Transcript) :
    notes (item :: due) (e :: own) = notes [item] [e] ++ notes due own := by
  rw [notes, notes, notes, ← List.filterMap_append]
  rfl

/-- The drafts of the items were sent, one after the other, up to the first that failed for good.
This failure was returned, if there was one. Beside creates and rejections nothing was reported. -/
structure Delivered (due : List (String × kind.Draft)) (own : Transcript)
    (result : Except Failure Unit) (old new : StageReport) : Prop where
  asked : own.map (·.question) = (due.take own.length).map fun item => .create kind item.2
  complete : (∀ e ∈ own, e.fatal? = none) → own.length = due.length
  ends : own.Ends result
  report : new = { old with
    created := old.created + own.countP Exchange.isCreated
    rejections := old.rejections ++ notes due own }

namespace Delivered

variable {due : List (String × kind.Draft)} {own : Transcript} {result : Except Failure Unit}
  {old mid new : StageReport} {item : String × kind.Draft}
  {answer : Except StoreError kind.Record}

theorem nil (report : StageReport) :
    Delivered ([] : List (String × kind.Draft)) [] (.ok ()) report report := by
  constructor <;> simp [Transcript.Ends, notes]

/-- One item. It is noted that its record was created or refused. -/
theorem created (item : String × kind.Draft) (r : kind.Record) (report : StageReport) :
    Delivered [item] [⟨.create kind item.2, .ok r⟩] (.ok ()) report
      { report with created := report.created + 1 } := by
  constructor <;> simp [Transcript.Ends, Exchange.fatal?, notes, Exchange.refusal?]

theorem rejected (item : String × kind.Draft) {error : StoreError} (h : error.isRejected)
    (report : StageReport) :
    Delivered [item] [⟨.create kind item.2, .error error⟩] (.ok ()) report
      { report with rejections := report.rejections ++ [⟨item.1, error⟩] } := by
  constructor <;> simp [Transcript.Ends, Exchange.fatal?, StoreRequest.tolerates, notes,
    Exchange.refusal?, StoreRequest.isNoted, h]

theorem failed (item : String × kind.Draft) {error : StoreError} (h : error.isRejected = false)
    (report : StageReport) :
    Delivered [item] [⟨.create kind item.2, .error error⟩] (.error (.ofStore error)) report
      report := by
  have fatal : Exchange.fatal? ⟨.create kind item.2, .error error⟩ = some error := by
    simp [Exchange.fatal?, StoreRequest.tolerates, h]
  constructor
  case asked => simp
  case complete => simp
  case ends => exact ⟨[], _, error, rfl, List.forall_mem_nil _, fatal, rfl⟩
  case report => simp [notes, Exchange.refusal?, h]

/-- The next items, if the first one did not fail for good. -/
theorem cons (first : Delivered [item] [⟨.create kind item.2, answer⟩] (.ok ()) old mid)
    (rest : Delivered due own result mid new) :
    Delivered (item :: due) (⟨.create kind item.2, answer⟩ :: own) result old new where
  asked := by simp [rest.asked]
  complete quiet := by
    have length := rest.complete fun e mem => quiet e (List.mem_cons_of_mem _ mem)
    simp [length]
  ends := first.ends.append rest.ends
  report := by
    have counted := @List.countP_append _ Exchange.isCreated [⟨.create kind item.2, answer⟩] own
    rw [List.singleton_append] at counted
    rw [rest.report, first.report, notes_cons item due _ own, counted]
    simp only [Nat.add_assoc, List.append_assoc]

/-- No item is asked for after one that failed for good. -/
theorem stop {failure : Failure} (due : List (String × kind.Draft))
    (first : Delivered [item] [⟨.create kind item.2, answer⟩] (.error failure) old new) :
    Delivered (item :: due) [⟨.create kind item.2, answer⟩] (.error failure) old new where
  asked := by simp
  complete quiet := by
    obtain ⟨before, last, error, split, -, fatal, -⟩ := first.ends
    have mem : last ∈ [(⟨.create kind item.2, answer⟩ : Exchange StoreProtocol)] := by simp [split]
    simp [quiet last mem] at fatal
  ends := first.ends
  report := by simpa [notes] using first.report

theorem supplies (h : Delivered due own result old new) :
    Supplies kind (due.map Prod.snd) own := by
  have sent : own.drafts kind = (due.map Prod.snd).take own.length := by
    refine Transcript.drafts_of_asked ?_
    rw [h.asked, ← List.map_take, List.map_map]
    rfl
  constructor
  case sent =>
    rw [sent]
    exact List.take_prefix _ _
  case complete =>
    intro quiet
    rw [sent, h.complete quiet, ← List.map_take, List.take_length]

end Delivered

/-! ## The loop -/

/-- An item that was not created is given up, or the loop ends. -/
theorem delivered_tolerate (item : String × kind.Draft) (error : StoreError) (report : StageReport)
    (said : Transcript) :
    (tolerate item.1 error).Ensures Conduct.recorded (fun result report' said' =>
      said' = said ∧ Delivered [item] [⟨.create kind item.2, .error error⟩] result report report')
      report said := by
  rw [tolerate]
  split
  · next rejected => exact ⟨rfl, .rejected item rejected report⟩
  · next fatal => exact ⟨rfl, .failed item (Bool.not_eq_true _ ▸ fatal) report⟩

theorem delivered_attempt (key : String) (draft : kind.Draft) (report : StageReport)
    (said : Transcript) :
    (attempt kind key draft).Ensures Conduct.recorded (fun result report' said' =>
      ∃ answer, said' = said ++ [⟨.create kind draft, answer⟩] ∧
        Delivered [(key, draft)] [⟨.create kind draft, answer⟩] result report report')
      report said := by
  refine ensures_ask_bind.2 fun answer said' hsaid => ?_
  cases answer with
  | ok r => exact ⟨.ok r, hsaid, .created (key, draft) r report⟩
  | error error =>
    refine (delivered_tolerate (key, draft) error report said').mono ?_
    rintro result report' _ ⟨rfl, delivered⟩
    exact ⟨.error error, hsaid, delivered⟩

/-- By induction on what is wanted, one attempt at a time. -/
theorem delivered_createMissing (report : StageReport) (said : Transcript) :
    (createMissing kind existing attempted wanted).Ensures Conduct.recorded
      (fun result report' said' => ∃ own, said' = said ++ own ∧
        Delivered (missing kind existing attempted wanted) own result report report')
      report said := by
  induction wanted generalizing attempted report said with
  | nil => exact ⟨[], (List.append_nil _).symm, .nil report⟩
  | cons item rest ih =>
    obtain ⟨key, draft⟩ := item
    rw [createMissing_cons, missing]
    split
    · exact ih report said
    · refine (delivered_attempt key draft report said).bind ?_ ?_
      · rintro _ mid _ ⟨answer, rfl, first⟩
        refine (ih mid _).mono ?_
        rintro result _ _ ⟨own, rfl, rest⟩
        exact ⟨_ :: own, List.append_assoc _ _ _, first.cons rest⟩
      · rintro _ _ _ ⟨answer, rfl, first⟩
        exact ⟨_, rfl, first.stop _⟩

/-- Whoever answers, a stage lists the collection and sends the drafts that are missing from the
listing. If there is none, it sends nothing. -/
theorem supplies_ensure {wanted : NameIndex → List (String × kind.Draft)} (report : StageReport)
    (said : Transcript) :
    (ensure kind wanted).Ensures Conduct.recorded (fun _ _ said' =>
      (∃ e, said' = said ++ [⟨.list kind, .error e⟩]) ∨
      ∃ listed own, said' = said ++ ⟨.list kind, .ok listed⟩ :: own ∧
        Supplies kind ((missing kind (Index.ofList (keyPairs kind listed)) []
          (wanted (Index.ofList (keyPairs kind listed)))).map Prod.snd) own) report said := by
  refine (ensures_readIndex_recorded kind report said).bind ?_ ?_
  · rintro _ report _ ⟨_ | listed, rfl, ⟨⟩⟩
    refine (delivered_createMissing report _).bind ?_ ?_
    · rintro _ report _ ⟨own, rfl, delivered⟩
      refine (ensures_readIndex_recorded kind report _).mono ?_
      rintro _ _ _ ⟨answer, rfl, -⟩
      exact .inr ⟨listed, own ++ [⟨.list kind, answer⟩], by simp,
        delivered.supplies.append_list kind answer⟩
    · rintro _ _ _ ⟨own, rfl, delivered⟩
      exact .inr ⟨listed, own, by simp, delivered.supplies⟩
  · rintro _ _ _ ⟨e | _, rfl, ⟨⟩⟩
    exact .inl ⟨e, rfl⟩

/-- Whoever answers, a loop that creates what is missing sends the drafts of the items that are due,
up to the first that fails for good. It returns this failure if there is one, and reports no more
than the records that were created and the rejections, each under the key of its item. No key is
attempted twice. -/
theorem createMissing_delivers {σ : Type} (respond : Responder StoreProtocol σ) (s : σ)
    (kind : Kind) (existing : NameIndex) (wanted : List (String × kind.Draft))
    (report : StageReport) :
    let loop := (createMissing kind existing [] wanted).dialogue report
    let own := loop.exchanges respond s
    let outcome := (loop.run respond s).1
    Delivered (due existing wanted) own outcome.1 report outcome.2 ∧
      outcome.2.rejections.map Rejection.message = report.rejections.map Rejection.message ++
        ((due existing wanted).zip own).filterMap (fun (item, e) =>
          e.refusal?.map fun error => item.1 ++ ": " ++ error.message) ∧
      (((due existing wanted).take own.length).map Prod.fst).Nodup := by
  intro loop own outcome
  obtain ⟨said, hsaid, delivered⟩ : ∃ said, own = said ∧
      Delivered (missing kind existing [] wanted) said outcome.1 report outcome.2 :=
    (@delivered_createMissing kind existing [] wanted report []).exchanges s
  rw [missing_eq_due] at delivered
  obtain rfl := hsaid
  refine ⟨delivered, ?_, ?_⟩
  · have texts : (notes (due existing wanted) own).map Rejection.message = _ :=
      List.map_filterMap ..
    rw [delivered.report, List.map_append, texts]
    simp [Rejection.message, Function.comp_def]
  · have sublist := (List.take_sublist own.length (due existing wanted)).map Prod.fst
    exact (nodup_firsts _).sublist sublist

end Stage

end AssetSeed
