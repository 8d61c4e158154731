import LogTail.Proofs.Engine.History
import LogTail.Proofs.Service.Clearing
import LogTail.Proofs.Session.Published

/-!
Clears of the log, as a session carries them out. When the service has cleared its log the session
forgets all records, publishes that, and only then answers whoever asked for it. From then on it
shows only records that it was sent later, in answer to queries that it made later. If the service
has not cleared its log, the session stays as it is and passes the fault on.
-/
namespace LogTail

open Engine

/-- An engine that has not ended forgets its records, its cursor and the loads under way. -/
theorem Engine.clearSucceeded_of_open {e : Engine} (h : e.phase ≠ .closed) :
    e.clearSucceeded = { e with
      store := e.store.clear
      cursor := .absent
      epoch := e.epoch + 1
      loading := false
      phase := .streaming
      lastError := none
      generation := e.generation + 1 } :=
  if_neg h

theorem Snapshot.sameAs_refl (s : Snapshot) : s.sameAs s = true := by
  simp only [sameAs, beq_self_eq_true, Bool.and_self]

namespace Session

variable {s : Session}

/-- What has been published is not published again. -/
theorem publish_of_published (h : s.published = .ofEngine s.engine) : s.publish = s := by
  unfold publish
  dsimp only
  rw [if_pos]
  rw [h]
  exact Snapshot.sameAs_refl _

/-- A fault goes to whoever asked for the clear, and nothing else comes of it. -/
theorem move_cleared_error (hopen : s.isOpen = true) (h : s.published = .ofEngine s.engine)
    (id : ClearId) (fault : Fault) :
    s.move (.cleared id (.error fault)) = (s, [.reply id (.error (.fault fault))]) := by
  rw [move, step_of_open hopen]
  exact congrArg (·, _) (publish_of_published h)

/-- A clear that succeeded is published before whoever asked for it is told. -/
theorem move_cleared_ok (hopen : s.isOpen = true) (id : ClearId) :
    s.move (.cleared id (.ok ())) =
      ({ s with engine := s.engine.clearSucceeded }.publish, [.reply id (.ok ())]) := by
  rw [move, step_of_open hopen]
  rfl

end Session

namespace Traffic

variable {t u : Traffic}

/-- What is published shows the engine at all times. -/
theorem Run.published (h : t.session.published = .ofEngine t.session.engine) (run : Run t u) :
    u.session.published = .ofEngine u.session.engine := by
  induction run with
  | refl => exact h
  | step _ _ ih => exact Session.published_move ih _

/-- Whether a record came into the buffer after the moment `t`, and in answer to a query that was
made after it. The record stands in the history at the place that its number says. -/
def NewSince (t u : Traffic) (x : Stored) : Prop :=
  t.ledger.history.length ≤ x.seq ∧
    ∃ i, i ∉ t.ledger.issued ∧ u.ledger.history[x.seq]? = some (i, x.record)

/-- After a clear has succeeded, all that the session holds is newer. -/
theorem newSince_of_cleared {capacity : ℕ} {limit : Option ℕ} {level : LevelFilter}
    (run : Run (start capacity limit level) t) (live : t.session.isOpen = true) {id : ClearId}
    (later : Run (t.move (.cleared id (.ok ()))) u) {x : Stored}
    (hx : x ∈ u.session.engine.store.entries) : NewSince t u x := by
  obtain ⟨hkept, hrun⟩ := run.ledger_of_start
  have hopen : t.ledger.engine.phase ≠ .closed := hkept.live live
  have hact : t.session.act (.cleared id (.ok ())) = .clearSucceeded := if_pos live
  have hnext : (t.move (.cleared id (.ok ()))).ledger = t.ledger.record .clearSucceeded := by
    rw [hkept.ledger_move, hact]
  have hcleared : t.ledger.engine.clearSucceeded.store = t.ledger.engine.store.clear := by
    rw [clearSucceeded_of_open hopen]
  have hclear : Ledger.Run Ledger.anything (Ledger.new capacity limit)
      (t.ledger.record .clearSucceeded) := .step hrun trivial
  obtain ⟨hlast, hlater⟩ := later.ledger (hkept.move _)
  rw [hnext] at hlater
  obtain ⟨more, hmore⟩ := hlater.grows hclear.dated hclear.sound
  -- the clear has emptied the buffer, and gave no number away
  have hempty : (t.ledger.record .clearSucceeded).engine.store.entries = [] :=
    congrArg Store.entries hcleared
  have hlength : (t.ledger.record .clearSucceeded).history.length = t.ledger.history.length := by
    have hnumbers : t.ledger.engine.clearSucceeded.store.nextSeq = t.ledger.engine.store.nextSeq := by
      rw [hcleared]
      rfl
    calc (t.ledger.record .clearSucceeded).history.length
      _ = t.ledger.engine.clearSucceeded.store.nextSeq := hclear.length_history
      _ = t.ledger.engine.store.nextSeq := hnumbers
      _ = t.ledger.history.length := hrun.length_history.symm
  rw [hlast.engine_eq] at hx
  obtain ⟨hle, i, hi, hplace⟩ := hmore.origin hclear.length_history hempty hx
  refine ⟨hlength ▸ hle, i, ?_, hplace⟩
  intro hissued
  have hbefore : i.moment < t.ledger.now := hrun.dated.issued_past i hissued
  have hclears : t.ledger.now ∈ (t.ledger.record .clearSucceeded).clears :=
    List.mem_append_right _ (List.mem_singleton.mpr rfl)
  have hafter : t.ledger.now < i.moment := hmore.after_clears _ hi _ hclears
  omega

/-- What comes of the answer to a request to clear the log, whatever else the session is doing. If
the service has confirmed the clear, the session has forgotten all records and its position and has
published this by the time it passes the good news on, and from then on it shows newer records only.
Otherwise it is as it was, and passes the fault on. -/
theorem cleared_when_confirmed {capacity : ℕ} {limit : Option ℕ} {level : LevelFilter}
    (run : Run (start capacity limit level) t) (live : t.session.isOpen = true)
    (id : ClearId) (answer : ClearAnswer) :
    let next := t.move (.cleared id answer.result)
    let effects := (t.session.move (.cleared id answer.result)).2
    (answer.Confirms →
      next.session.engine.store.entries = [] ∧
      next.session.engine.cursor = .absent ∧
      next.session.engine.epoch = t.session.engine.epoch + 1 ∧
      next.session.published = .ofEngine next.session.engine ∧
      effects = [.reply id (.ok ())] ∧
      ∀ u, Run next u → ∀ x ∈ u.session.published.records, NewSince t u x) ∧
    (¬ answer.Confirms → ∃ fault, answer.Faults fault ∧
      next.session = t.session ∧ effects = [.reply id (.error (.fault fault))]) := by
  intro next effects
  obtain ⟨hkept, hrun⟩ := run.ledger_of_start
  have hpublished : t.session.published = .ofEngine t.session.engine :=
    run.published (Session.start_current capacity limit level).published_eq
  -- an answer confirms the clear or is one of the faults, and the session is told accordingly
  obtain ⟨hconfirms, hresult⟩ | ⟨fault, hfaults, hresult⟩ := answer.result_cases
  · refine ⟨?_, fun hne => absurd hconfirms hne⟩
    intro _
    have hopen : t.session.engine.phase ≠ .closed := hkept.engine_eq ▸ hkept.live live
    have hmove : t.session.move (.cleared id answer.result) =
        ({ t.session with engine := t.session.engine.clearSucceeded }.publish,
          [.reply id (.ok ())]) := by
      rw [hresult]
      exact Session.move_cleared_ok live id
    have hengine : next.session.engine = t.session.engine.clearSucceeded := by
      change (t.session.move (.cleared id answer.result)).1.engine = _
      rw [hmove, Session.publish_engine]
    have hcleared := clearSucceeded_of_open hopen
    have hcurrent : next.session.published = .ofEngine next.session.engine :=
      Session.published_move hpublished _
    refine ⟨?_, ?_, ?_, hcurrent, ?_, ?_⟩
    · rw [hengine, hcleared]
      rfl
    · rw [hengine, hcleared]
    · rw [hengine, hcleared]
    · change (t.session.move (.cleared id answer.result)).2 = _
      rw [hmove]
    · intro u later x hx
      rw [later.published hcurrent] at hx
      have hlater : Run (t.move (.cleared id (.ok ()))) u := by
        rw [← hresult]
        exact later
      exact newSince_of_cleared run live hlater hx
  · refine ⟨fun hconfirms => ?_, fun _ => ⟨fault, hfaults, ?_⟩⟩
    · have hok := ClearAnswer.result_of_confirms hconfirms
      cases hok.symm.trans hresult
    · have hmove : t.session.move (.cleared id answer.result) =
          (t.session, [.reply id (.error (.fault fault))]) := by
        rw [hresult]
        exact Session.move_cleared_error live hpublished id fault
      exact ⟨congrArg Prod.fst hmove, congrArg Prod.snd hmove⟩

/-- A session with one record that has sent a poll and then a request to clear the log. -/
def pollThenClear : Traffic :=
  (start 5 none none).replay
    [.fetched ⟨0, 1, .full, .full none none⟩
        (.ok ⟨[{ timestamp := "t1", level := .info, message := "up" }], .ofToken "t1"⟩),
      .tick, .send (.clear 0), .take]

def okResponse (body : String) : Response :=
  ⟨200, body.toList.map fun c => .ofNat c.toNat, true⟩

/-- After the clear the poll is answered, which comes too late, and then a load that was begun
later. -/
def answersAfterClear : List Move :=
  [.fetched ⟨2, 1, .incremental, .incremental none (.ofToken "t1")⟩
      (.ok ⟨[{ timestamp := "t2", level := .info, message := "late" }], .ofToken "t2"⟩),
    .send .reload, .take,
    .fetched ⟨8, 3, .full, .full none none⟩
      (.ok ⟨[{ timestamp := "t3", level := .info, message := "new" }], .ofToken "t3"⟩)]

/-- If the log was cleared, only the load brings a record; if `success` is missing from the body, the
old record stays. -/
theorem cleared_when_confirmed_despite_poll :
    let granted := ClearAnswer.response (okResponse "\x7b\"success\":true\x7d")
    let silent := ClearAnswer.response (okResponse "\x7b\x7d")
    let later := (pollThenClear.move (.cleared 0 granted.result)).replay answersAfterClear
    Run (start 5 none none) pollThenClear ∧
    pollThenClear.session.published.records.length = 1 ∧
    later.session.published.records.length = 1 ∧
    (∀ x ∈ later.session.published.records, NewSince pollThenClear later x) ∧
    (pollThenClear.move (.cleared 0 silent.result)).session = pollThenClear.session := by
  intro granted silent later
  have run : Run (start 5 none none) pollThenClear :=
    .of_valid ⟨List.mem_singleton.mpr rfl, trivial, trivial, trivial, trivial⟩
  have hgranted : granted.Confirms :=
    ⟨rfl, fun _ => rfl, ⟨true, none, none⟩, _, _, rfl, rfl, rfl, rfl⟩
  have hsilent : ¬ silent.Confirms := by
    intro h
    cases (ClearAnswer.result_of_confirms h).symm
  have hlater : Run (pollThenClear.move (.cleared 0 granted.result)) later :=
    .of_valid ⟨List.mem_singleton.mpr rfl, trivial, trivial, List.mem_singleton.mpr rfl, trivial⟩
  obtain ⟨-, -, -, -, -, hnew⟩ := (cleared_when_confirmed run rfl 0 granted).1 hgranted
  obtain ⟨_, -, hkept, -⟩ := (cleared_when_confirmed run rfl 0 silent).2 hsilent
  have hloaded : later.session.published.records.length = 1 := by
    have hresult : granted.result = .ok () := ClearAnswer.result_of_confirms hgranted
    unfold later
    rw [hresult]
    rfl
  exact ⟨run, rfl, hloaded, hnew later hlater, hkept⟩

end Traffic

end LogTail
