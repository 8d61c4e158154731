import LogTail.Proofs.Engine.Generation
import LogTail.Proofs.Engine.Outstanding

/-!
Answers that bring nothing. An answer that comes too late does no more than end its poll, and one that
fails leaves the records and the position alone; then the next tick asks again for just what was asked
for before. The error that an engine shows is that of the last answer that counted, unless the
log was cleared after it.
-/
namespace LogTail

open Engine

namespace Engine

/-- Whether an answer to a ticket is an error or is treated as one. A full load may bring records
without a position. -/
def Fails (t : Ticket) (result : Except Fault Page) (report : FaultReport) : Prop :=
  Refusal result report ∧ (t.kind = .full → ∃ fault, result = .error fault)

/-- An answer is turned down for one reason only. -/
theorem Refusal.unique {result : Except Fault Page} {report other : FaultReport}
    (h : Refusal result report) (h' : Refusal result other) : report = other := by
  cases h with
  | fault _ => cases h' with
    | fault _ => rfl
  | noCursor _ _ => cases h' with
    | noCursor _ _ => rfl

theorem turn_complete {e later : Engine} {i : Issue} {result : Except Fault Page}
    {completion : Completion} (h : e.complete i.ticket result = (later, completion)) :
    e.Turn (.complete i result) ⟨later, none, some completion⟩ := by
  have hturn := e.turn (.complete i result)
  rw [act, h] at hturn
  exact hturn

theorem dropped_iff (e : Engine) (i : Issue) (result : Except Fault Page) :
    (e.complete i.ticket result).2 = .dropped ↔ ¬ e.Accepts i.ticket := by
  rcases houtcome : e.complete i.ticket result with ⟨later, completion⟩
  cases turn_complete houtcome with
  | dropped late => exact ⟨fun _ => late, fun _ => rfl⟩
  | loaded live => exact ⟨fun h => Completion.noConfusion h, fun h => absurd live h⟩
  | loadFailed live => exact ⟨fun h => Completion.noConfusion h, fun h => absurd live h⟩
  | pollFailed live => exact ⟨fun h => Completion.noConfusion h, fun h => absurd live h⟩
  | heartbeat live => exact ⟨fun h => Completion.noConfusion h, fun h => absurd live h⟩
  | merged live => exact ⟨fun h => Completion.noConfusion h, fun h => absurd live h⟩

/-- What an answer was that is reported as failed, and what it has done. -/
theorem failed_cases {e : Engine} {i : Issue} {result : Except Fault Page} {report : FaultReport}
    (h : (e.complete i.ticket result).2 = .failed report) :
    e.Accepts i.ticket ∧ Refusal result report ∧
      ((i.ticket.kind = .full ∧ (∃ fault, result = .error fault) ∧
          (e.complete i.ticket result).1 =
            { e with loading := false, phase := .error, lastError := some report }) ∨
        (i.ticket.kind = .incremental ∧
          (e.complete i.ticket result).1 =
            { e with inFlight := false, lastError := some report })) := by
  rcases houtcome : e.complete i.ticket result with ⟨later, completion⟩
  rw [houtcome] at h
  cases turn_complete houtcome with
  | @loadFailed _ fault live full =>
    obtain rfl := Completion.failed.inj h
    exact ⟨live, .fault fault, .inl ⟨full, ⟨fault, rfl⟩, rfl⟩⟩
  | pollFailed live poll refused =>
    obtain rfl := Completion.failed.inj h
    exact ⟨live, refused, .inr ⟨poll, rfl⟩⟩
  | _ => cases h

/-- The answers that are reported as failed are the errors that are not too late, and the records
that a poll brings without a position. -/
theorem failed_iff (e : Engine) (i : Issue) (result : Except Fault Page) (report : FaultReport) :
    (e.complete i.ticket result).2 = .failed report ↔
      e.Accepts i.ticket ∧ Fails i.ticket result report := by
  constructor
  · intro hfailed
    obtain ⟨live, refused, ⟨-, hfault, -⟩ | ⟨poll, -⟩⟩ := failed_cases hfailed
    · exact ⟨live, refused, fun _ => hfault⟩
    · exact ⟨live, refused, fun full => FetchKind.noConfusion (poll.symm.trans full)⟩
  · rintro ⟨live, refused, herror⟩
    rcases houtcome : e.complete i.ticket result with ⟨later, completion⟩
    cases turn_complete houtcome with
    | dropped late => exact absurd live late
    | loaded _ full =>
      obtain ⟨fault, hfault⟩ := herror full
      cases hfault
    | loadFailed =>
      cases refused
      rfl
    | pollFailed _ _ refused' => exact congrArg Completion.failed (refused'.unique refused)
    -- records that came with a position, or none at all, are no failure
    | heartbeat _ _ no_record =>
      cases refused with
      | noCursor some_record _ => exact absurd no_record some_record
    | merged _ _ _ some_cursor =>
      cases refused with
      | noCursor _ no_cursor => exact Bool.noConfusion (some_cursor.symm.trans no_cursor)

/-- A full load that fails leaves the engine in error, with the buffer and the cursor as they were.
-/
theorem complete_failed_load {e : Engine} {i : Issue} {result : Except Fault Page}
    {report : FaultReport} (h : (e.complete i.ticket result).2 = .failed report)
    (full : i.ticket.kind = .full) :
    (e.complete i.ticket result).1 =
      { e with loading := false, phase := .error, lastError := some report } := by
  obtain ⟨-, -, ⟨-, -, hlater⟩ | ⟨poll, -⟩⟩ := failed_cases h
  · exact hlater
  · exact FetchKind.noConfusion (poll.symm.trans full)

/-- A poll that fails leaves everything but the flag and the error as it was, the phase included. -/
theorem complete_failed_poll {e : Engine} {i : Issue} {result : Except Fault Page}
    {report : FaultReport} (h : (e.complete i.ticket result).2 = .failed report)
    (poll : i.ticket.kind = .incremental) :
    (e.complete i.ticket result).1 = { e with inFlight := false, lastError := some report } := by
  obtain ⟨-, -, ⟨full, -, -⟩ | ⟨-, hlater⟩⟩ := failed_cases h
  · exact FetchKind.noConfusion (full.symm.trans poll)
  · exact hlater

/-- What an act says of errors, if it says anything: which one there is now, or that there is none.
An answer that comes too late says nothing, nor does a clear after the end. -/
def verdict (e : Engine) : Act → Option (Option FaultReport)
  | .complete i result =>
    match (e.complete i.ticket result).2 with
    | .dropped => none
    | .failed report => some (some report)
    | _ => some none
  | .clearSucceeded => if e.phase = .closed then none else some none
  | _ => none

def verdicts (e : Engine) : List Act → List (Option FaultReport)
  | [] => []
  | a :: rest => (e.verdict a).toList ++ (e.act a).engine.verdicts rest

/-- The error that an engine shows is the last verdict; an act without one leaves it. -/
theorem lastError_act (e : Engine) (a : Act) :
    (e.act a).engine.lastError = (e.verdict a).getD e.lastError := by
  have hturn := e.turn a
  cases a with
  | complete i result =>
    rcases houtcome : e.complete i.ticket result with ⟨later, completion⟩
    rw [act, verdict, houtcome]
    cases turn_complete houtcome <;> rfl
  | clearSucceeded =>
    rw [verdict]
    generalize e.act .clearSucceeded = reaction at hturn ⊢
    cases hturn with
    | clearedLate closed =>
      rw [if_pos closed]
      rfl
    | cleared live =>
      rw [if_neg live]
      rfl
  | ask r =>
    generalize e.act (.ask r) = reaction at hturn ⊢
    cases hturn <;> rfl
  | close => rfl
  | wait => rfl

/-- The error is what was said of errors last. -/
theorem lastError_after (e : Engine) (acts : List Act) :
    (e.after acts).lastError = (e.verdicts acts).getLast?.getD e.lastError := by
  induction acts generalizing e with
  | nil => rfl
  | cons a rest ih =>
    have hstep : e.after (a :: rest) = (e.act a).engine.after rest := rfl
    rw [hstep, ih, lastError_act, verdicts, List.getLast?_append]
    cases ((e.act a).engine.verdicts rest).getLast? with
    | some said => rfl
    | none => cases e.verdict a <;> rfl

theorem limit_act (e : Engine) (a : Act) : (e.act a).engine.limit = e.limit := by
  have hturn := e.turn a
  generalize e.act a = reaction at hturn ⊢
  cases hturn <;> rfl

/-- A full load asks for as many records as the engine is limited to. -/
theorem query_of_load {e : Engine} {a : Act} {t : Ticket} (ht : (e.act a).ticket = some t)
    (full : t.kind = .full) : ∃ level, t.query = .full level e.limit := by
  have hturn := e.turn a
  generalize e.act a = reaction at hturn ht
  cases hturn with
  | load =>
    obtain rfl := Option.some.inj ht
    exact ⟨_, rfl⟩
  | poll =>
    obtain rfl := Option.some.inj ht
    exact FetchKind.noConfusion full
  | _ => cases ht

end Engine

namespace Ledger

theorem engine_replay (l : Ledger) (acts : List Act) :
    (l.replay acts).engine = l.engine.after acts := by
  induction acts generalizing l with
  | nil => rfl
  | cons a rest ih => exact ih (l.record a)

variable {l : Ledger}

/-- Full loads ask for as many records as the engine was told at its beginning. -/
theorem Run.query_of_load {supply : Supply} {capacity : ℕ} {limit : Option ℕ}
    (run : Run supply (new capacity limit) l) : ∀ i ∈ l.issued, i.ticket.kind = .full →
      ∃ level, i.ticket.query = .full level l.engine.limit := by
  refine run.keeps (P := fun n => ∀ i ∈ n.issued, i.ticket.kind = .full →
    ∃ level, i.ticket.query = .full level n.engine.limit) (fun _ hi => nomatch hi) ?_
  intro n a h _ i hi full
  have hlimit : (n.record a).engine.limit = n.engine.limit := n.engine.limit_act a
  rw [hlimit]
  rcases List.mem_append.mp hi with hi | hi
  · exact h i hi full
  · obtain ⟨t, ht, rfl⟩ := List.mem_map.mp hi
    exact Engine.query_of_load (Option.mem_toList.mp ht) full

/-- Until it is answered, the full load of an epoch asks for what the engine would ask for now. -/
theorem query_of_current_load (hd : l.Dated)
    (hq : ∀ i ∈ l.issued, i.ticket.kind = .full →
      ∃ level, i.ticket.query = .full level l.engine.limit) {i : Issue} (hi : i ∈ l.issued)
    (full : i.ticket.kind = .full) (hcurrent : i.ticket.epoch = l.engine.epoch) :
    i.ticket.query = .full l.engine.level l.engine.limit := by
  obtain ⟨level, hquery⟩ := hq i hi full
  have hlevel : i.ticket.query.level = l.engine.level := hd.level_eq i hi hcurrent
  rw [hquery] at hlevel ⊢
  exact congrArg (Query.full · l.engine.limit) hlevel

/-- After a poll has failed, the next tick polls again for the same. -/
theorem tick_after_failed_poll (hg : l.Guarded) {i : Issue} {result : Except Fault Page}
    {report : FaultReport} (hi : i ∈ l.waiting) (live : l.engine.Accepts i.ticket)
    (h : (l.engine.complete i.ticket result).2 = .failed report)
    (poll : i.ticket.kind = .incremental) :
    (l.engine.complete i.ticket result).1.tick.2 =
      some ⟨l.engine.epoch, .incremental, i.ticket.query⟩ := by
  obtain ⟨hcursor, hquery⟩ := hg.poll_asks i hi poll live.2
  have hstreaming := hg.streaming_of_poll hi live poll
  rw [complete_failed_poll h poll, hquery]
  have htick := ask_of_polls (e := { l.engine with inFlight := false, lastError := some report })
    ⟨rfl, hstreaming, rfl, hcursor⟩
  exact congrArg Prod.snd htick

/-- After a full load has failed, the next tick begins another for the same. -/
theorem tick_after_failed_load {e : Engine} {i : Issue} {result : Except Fault Page}
    {report : FaultReport} (h : (e.complete i.ticket result).2 = .failed report)
    (full : i.ticket.kind = .full) (hquery : i.ticket.query = .full e.level e.limit) :
    (e.complete i.ticket result).1.tick.2 = some ⟨e.epoch + 1, .full, i.ticket.query⟩ := by
  rw [complete_failed_load h full, hquery]
  exact congrArg Prod.snd (ask_of_loads (r := .tick) ⟨rfl, rfl⟩)

/-- What an answer does that is dropped or fails, and what comes of it. One that is dropped came too
late, and changes nothing but the flag for polls. One that fails is an error that came in time, or
records that a poll brought without a position; it leaves everything but the flags, the phase and the
error as it was, and the next tick asks for the same as before. At all times the error is that of the
last answer that was not dropped, and none if that succeeded, if a clear came after it or if there was
no such answer yet. -/
theorem failures_are_retried {capacity : ℕ} {limit : Option ℕ} {acts : List Act}
    (valid : (new capacity limit).Valid anything acts) :
    let e := ((new capacity limit).replay acts).engine
    (∀ i ∈ ((new capacity limit).replay acts).waiting, ∀ result,
      let later := (e.complete i.ticket result).1
      ((e.complete i.ticket result).2 = .dropped ↔ ¬ e.Accepts i.ticket) ∧
      ((e.complete i.ticket result).2 = .dropped →
        later = { e with inFlight := later.inFlight }) ∧
      ∀ report,
        ((e.complete i.ticket result).2 = .failed report ↔
          e.Accepts i.ticket ∧ Fails i.ticket result report) ∧
        ((e.complete i.ticket result).2 = .failed report →
          (i.ticket.kind = .incremental →
            e.phase = .streaming ∧
            later = { e with inFlight := false, lastError := some report } ∧
            later.tick.2 = some ⟨e.epoch, .incremental, i.ticket.query⟩) ∧
          (i.ticket.kind = .full →
            later = { e with loading := false, phase := .error, lastError := some report } ∧
            later.tick.2 = some ⟨e.epoch + 1, .full, i.ticket.query⟩))) ∧
    e.lastError = ((Engine.new capacity limit).verdicts acts).getLast?.getD none := by
  intro e
  have run := Run.of_valid valid
  have hd := run.dated
  have hg := run.guarded
  -- one answer to a ticket that waits, and then the errors of the whole run
  refine ⟨?_, ?_⟩
  · intro i hi result later
    have hissued := hd.waiting_issued i hi
    refine ⟨dropped_iff e i result, ?_, ?_⟩
    · intro hdropped
      have hlater : e.complete i.ticket result = (e.released i.ticket, .dropped) :=
        complete_of_late result ((dropped_iff e i result).mp hdropped)
      have hreleased : later = e.released i.ticket := congrArg Prod.fst hlater
      rw [hreleased]
      rfl
    · intro report
      refine ⟨failed_iff e i result report, ?_⟩
      intro hfailed
      obtain ⟨live, -⟩ := (failed_iff e i result report).mp hfailed
      refine ⟨?_, ?_⟩
      · intro poll
        exact ⟨hg.streaming_of_poll hi live poll, complete_failed_poll hfailed poll,
          tick_after_failed_poll hg hi live hfailed poll⟩
      · intro full
        have hquery := query_of_current_load hd run.query_of_load hissued full live.2
        exact ⟨complete_failed_load hfailed full, tick_after_failed_load hfailed full hquery⟩
  · have hengine : e = (Engine.new capacity limit).after acts := engine_replay _ acts
    rw [hengine]
    exact lastError_after _ acts

def firstPoll : List Act :=
  [.ask (.start none),
    .complete ⟨0, 1, .full, .full none (some 5)⟩ (.ok ⟨[], .ofToken "t1"⟩),
    .ask .tick]

/-- Without a position a record is a failure of the poll, and the next tick goes on from where the
poll did. -/
theorem failures_are_retried_without_position :
    let e := ((new 2 (some 5)).replay firstPoll).engine
    let t : Ticket := ⟨1, .incremental, .incremental none (.ofToken "t1")⟩
    let page : Page := ⟨[{ timestamp := "t2", level := .info, message := "up" }], .absent⟩
    (new 2 (some 5)).Valid anything firstPoll ∧
    (e.complete t (.ok page)).2 = .failed ⟨.protocol, "records returned without a cursor"⟩ ∧
    (e.complete t (.ok page)).1.tick.2 = some t ∧
    e.lastError = none := by
  intro e t page
  have valid : (new 2 (some 5)).Valid anything firstPoll :=
    ⟨trivial, ⟨by decide, trivial⟩, trivial, trivial⟩
  obtain ⟨hanswers, herror⟩ := failures_are_retried valid
  have hwaits : ⟨2, t⟩ ∈ ((new 2 (some 5)).replay firstPoll).waiting := by decide
  obtain ⟨-, -, hreport⟩ := hanswers ⟨2, t⟩ hwaits (.ok page)
  obtain ⟨hfails, hretry⟩ := hreport ⟨.protocol, "records returned without a cursor"⟩
  have hfailed := hfails.mpr
    ⟨⟨by decide, rfl⟩, .noCursor (List.cons_ne_nil _ _) rfl, FetchKind.noConfusion⟩
  obtain ⟨-, -, htick⟩ := (hretry hfailed).1 rfl
  exact ⟨valid, hfailed, htick, herror⟩

end Ledger

end LogTail
