import LogTail.Proofs.Session.Traffic

/-!
Requests to load everything anew, among the clears of a session. Such a request begins a full load
at once, and a load that fails is tried again with the next tick. But a clear that succeeds while
the load is under way makes its answer come too late: then the session streams without a cursor and
no tick asks for anything.
-/
namespace LogTail

open Engine

def Session.Requests (s : Session) : Prop :=
  ∃ c rest, s.inbox = c :: rest ∧
    (c = .reload ∨ ∃ level, c = .setLevel level ∧ s.engine.level ≠ level)

def Session.Queries (s : Session) : Prop :=
  ∃ ticket, .fetch ticket ∈ (s.step .tick).2

namespace Traffic

variable {t u : Traffic}

/-- A session that takes events makes the query that its engine issues a ticket for. -/
theorem queries_iff (h : u.session.isOpen = true) :
    u.session.Queries ↔ ∃ ticket, u.session.engine.tick.2 = some ticket := by
  have heffects : (u.session.step .tick).2 =
      (u.session.engine.tick.2.map Effect.fetch).toList := by
    rw [Session.step_of_open h]
    rfl
  rw [Session.Queries, heffects]
  cases u.session.engine.tick.2 with
  | none => simp only [Option.map_none, Option.toList_none, List.not_mem_nil, exists_false,
      reduceCtorEq]
  | some ticket => exact ⟨fun _ => ⟨ticket, rfl⟩, fun _ => ⟨ticket, List.mem_singleton.mpr rfl⟩⟩

theorem Kept.queries_of_loads (h : u.Kept) (live : u.session.isOpen = true)
    (loads : Request.tick.Loads u.ledger.engine) : u.session.Queries := by
  have htick := ask_of_loads loads
  rw [← h.engine_eq] at htick
  exact (queries_iff live).mpr ⟨_, congrArg Prod.snd htick⟩

/-- After a clear that came too late for the last full load, no query is made. -/
theorem Kept.not_queries_of_lost (h : u.Kept) (live : u.session.isOpen = true)
    (lost : u.ledger.Lost) : ¬ u.session.Queries := by
  intro hqueries
  obtain ⟨ticket, hticket⟩ := (queries_iff live).mp hqueries
  have htick : u.ledger.engine.ask .tick = (u.ledger.engine, none) := by
    apply ask_of_idle
    · rintro ⟨herror, -⟩
      exact Phase.noConfusion (lost.streaming.symm.trans herror)
    · rintro ⟨-, -, -, hcursor⟩
      exact Bool.noConfusion (lost.no_cursor.symm.trans hcursor)
  have hnone : u.ledger.engine.tick.2 = none := congrArg Prod.snd htick
  rw [h.engine_eq, hnone] at hticket
  cases hticket

/-- The request to load everything anew reaches the engine as one that loads. -/
theorem move_take (h : t.Kept) (live : t.session.isOpen = true) (request : t.session.Requests) :
    ∃ r : Request, r.Loads t.ledger.engine ∧ t.session.act .take = .ask r := by
  have hopen := h.live live
  have hact : t.session.act .take = t.session.openAct .take := if_pos live
  obtain ⟨c, rest, hinbox, rfl | ⟨level, rfl, hlevel⟩⟩ := request
  · refine ⟨.reload, hopen, ?_⟩
    rw [hact, Session.openAct, hinbox]
    rfl
  · refine ⟨.setLevel level, ⟨hopen, h.engine_eq ▸ hlevel⟩, ?_⟩
    rw [hact, Session.openAct, hinbox]
    rfl

/-- It is granted at once with a full load. -/
theorem issued_take (h : t.Kept) (live : t.session.isOpen = true)
    (request : t.session.Requests) :
    ∃ i ∈ (t.move .take).ledger.issued, i.ticket.kind = .full ∧ i.moment = t.ledger.now := by
  obtain ⟨r, hloads, hact⟩ := move_take h live request
  rw [h.ledger_move, hact, Ledger.record, Engine.act, ask_of_loads hloads]
  exact ⟨_, Ledger.mem_issued_note_single.mpr (.inr rfl), rfl, rfl⟩

/-- With that the request has one of its fates. -/
theorem fate_take (h : t.Kept) (hd : t.ledger.Dated) (live : t.session.isOpen = true)
    (request : t.session.Requests) : Ledger.Fate t.ledger.now (t.move .take).ledger := by
  obtain ⟨r, hloads, hact⟩ := move_take h live request
  rw [h.ledger_move, hact, Ledger.record, Engine.act, ask_of_loads hloads]
  exact .underway (.of_load hd (le_refl _) rfl rfl rfl)

/-- A request to load everything anew is granted or tried again, unless a clear succeeds after the
last full load has begun. Let it be taken up, and look at the session whenever later no query is
under way: then a load begun since has been applied or the next tick makes a query, if and only if
one has been applied or was begun after every clear. If all clears were before the request, it is
not lost; and if it is lost, the session streams without a cursor. -/
theorem request_granted_unless_cleared {capacity : ℕ} {limit : Option ℕ} {level : LevelFilter}
    (run : Run (start capacity limit level) t) (live : t.session.isOpen = true)
    (request : t.session.Requests) (later : Run (t.move .take) u)
    (still : u.session.isOpen = true) (idle : u.ledger.waiting = []) :
    (u.ledger.LoadedSince t.ledger.now ∨ u.session.Queries ↔
      u.ledger.LoadedSince t.ledger.now ∨ u.ledger.OutlivesClears t.ledger.now) ∧
    ((∀ c ∈ u.ledger.clears, c < t.ledger.now) →
      u.ledger.LoadedSince t.ledger.now ∨ u.session.Queries) ∧
    (¬ (u.ledger.LoadedSince t.ledger.now ∨ u.session.Queries) →
      u.session.engine.phase = .streaming ∧ u.session.engine.cursor.isAbsent = true) := by
  obtain ⟨hkept, hrun⟩ := run.ledger_of_start
  have hd := hrun.dated
  have hstep := hkept.move .take
  have hledger := (Run.ledger hkept (.step .refl (m := .take) trivial)).2
  obtain ⟨hlast, hlater⟩ := later.ledger hstep
  have hg := (hrun.trans (hledger.trans hlater)).guarded
  have hnow : t.ledger.now ≤ (t.move .take).ledger.now := Nat.le_succ _
  -- the request has a fate from the moment it is taken up, and keeps one all the way
  have hfate : Ledger.Fate t.ledger.now u.ledger :=
    hlater.fate (hrun.trans hledger).dated (hrun.trans hledger).guarded hnow
      (fate_take hkept hd live request)
  obtain hgranted | ⟨houtlives, hretry⟩ | ⟨hcleared, hnone⟩ :=
    hfate.settled hg (hlast.live still) idle
  · exact ⟨⟨fun _ => .inl hgranted, fun _ => .inl hgranted⟩, fun _ => .inl hgranted,
      fun hne => absurd (.inl hgranted) hne⟩
  · have hqueries := hlast.queries_of_loads still hretry
    exact ⟨⟨fun _ => .inr houtlives, fun _ => .inr hqueries⟩, fun _ => .inr hqueries,
      fun hne => absurd (.inr hqueries) hne⟩
  · refine ⟨?_, ?_, ?_⟩
    · constructor
      · rintro (hgranted | hqueries)
        · exact .inl hgranted
        · exact absurd hqueries (hlast.not_queries_of_lost still hnone)
      · rintro (hgranted | houtlives)
        · exact .inl hgranted
        · exact absurd houtlives hcleared
    · -- if all clears were before the request, its own load outlives them
      intro hbefore
      obtain ⟨i, hi, hfull, hmoment⟩ := issued_take hkept live request
      refine absurd ⟨i, hlater.mem_issued hi, hfull, hmoment.ge, ?_⟩ hcleared
      intro c hc
      rw [hmoment]
      exact hbefore c hc
    · intro _
      rw [hlast.engine_eq]
      exact ⟨hnone.streaming, hnone.no_cursor⟩

/-- A session that has been told to clear the log, and that is to load everything anew before the
service has answered. -/
def clearThenReload : Traffic :=
  (start 5 none none).replay
    [.fetched ⟨0, 1, .full, .full none none⟩ (.ok ⟨[], .ofToken "t1"⟩), .send (.clear 0), .take,
      .send .reload]

theorem run_clearThenReload : Run (start 5 none none) clearThenReload := by
  refine .of_valid ⟨?_, trivial, trivial, trivial, trivial⟩
  exact List.mem_singleton.mpr rfl

theorem requests_clearThenReload : clearThenReload.session.Requests :=
  ⟨.reload, [], rfl, .inl rfl⟩

def secondLoad : Issue :=
  ⟨5, 2, .full, .full none none⟩

/-- If the service refuses to clear its log, a load that fails is tried again. -/
theorem request_granted_unless_cleared_refused :
    ((clearThenReload.move .take).replay [.cleared 0 (.error (.rejected "read-only")),
      .fetched secondLoad (.error (.network "down"))]).ledger.LoadedSince 5 ∨
    ((clearThenReload.move .take).replay [.cleared 0 (.error (.rejected "read-only")),
      .fetched secondLoad (.error (.network "down"))]).session.Queries := by
  have later : Run (clearThenReload.move .take) ((clearThenReload.move .take).replay
      [.cleared 0 (.error (.rejected "read-only")),
        .fetched secondLoad (.error (.network "down"))]) := by
    refine .of_valid ⟨?_, ?_, trivial⟩
    · exact List.mem_singleton.mpr rfl
    · exact List.mem_singleton.mpr rfl
  obtain ⟨-, hbefore, -⟩ := request_granted_unless_cleared run_clearThenReload rfl
    requests_clearThenReload later rfl rfl
  exact hbefore fun c hc => nomatch hc

/-- If the service clears its log and then answers the load, the load is lost: nothing is under way,
nothing has been loaded, and the session does not ask again. -/
theorem reload_lost_to_clear :
    Run (start 5 none none) clearThenReload ∧ clearThenReload.session.Requests ∧
    ∃ u, Run (clearThenReload.move .take) u ∧ u.session.isOpen = true ∧ u.ledger.waiting = [] ∧
      u.deleting = [] ∧ u.session.engine.phase = .streaming ∧
      u.session.engine.cursor = .absent ∧
      ¬ (u.ledger.LoadedSince clearThenReload.ledger.now ∨ u.session.Queries) := by
  refine ⟨run_clearThenReload, requests_clearThenReload,
    (clearThenReload.move .take).replay
      [.cleared 0 (.ok ()), .fetched secondLoad (.ok ⟨[], .ofToken "t1"⟩)],
    .of_valid ⟨?_, ?_, trivial⟩, rfl, rfl, rfl, rfl, rfl, ?_⟩
  · exact List.mem_singleton.mpr rfl
  · exact List.mem_singleton.mpr rfl
  · rintro (⟨receipt, hmem, -, hmoment, n, hreplaced⟩ | hqueries)
    · -- of the two answers, one is to the first load and the other was dropped
      obtain rfl | hmem := List.mem_cons.mp hmem
      · exact absurd hmoment (by decide)
      · rw [List.mem_singleton.mp hmem] at hreplaced
        exact Completion.noConfusion hreplaced
    · obtain ⟨ticket, hticket⟩ := (queries_iff rfl).mp hqueries
      exact nomatch hticket

end Traffic

end LogTail
