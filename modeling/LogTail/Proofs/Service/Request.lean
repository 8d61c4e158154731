import LogTail.Proofs.Engine.Failures
import LogTail.Proofs.Service.Clearing
import LogTail.Proofs.Service.Reply
import LogTail.Proofs.Url.Form

/-!
From a ticket to its request, and from the response back to a page. Whether a query is a full load is
decided in several places: by the engine that issues the ticket, by the query from its cursor, by the
parameters that are sent and by the order in which the records of the reply are taken. All of them agree,
since a poll is never issued without a cursor.
-/
namespace LogTail

open LogTail.Json

namespace Query

def levelParams (level : LevelFilter) : List (String × String) :=
  (level.map fun l => ("level", l.name)).toList

def limitParams (limit : Option ℕ) : List (String × String) :=
  (limit.map fun n => ("limit", toString n)).toList

theorem params_full (level : LevelFilter) (limit : Option ℕ) :
    (full level limit).params = levelParams level ++ limitParams limit :=
  rfl

theorem params_incremental (level : LevelFilter) {since : Cursor} {token : String}
    (h : since.token = some token) :
    (incremental level since).params = levelParams level ++ [("since", token)] := by
  change levelParams level ++ _ = _
  rw [incremental, h]

end Query

def ServiceCall.Asks (path : String) (params : List (String × String)) (line : String) : Prop :=
  (params = [] ∧ line = "GET " ++ path) ∨
    ∃ text, Url.formParams text = params ∧ line = "GET " ++ path ++ ("?" ++ text)

/-- The request line of a query asks for its parameters: they can be read back from it. -/
theorem ServiceCall.asks_requestLine (path : String) (q : Query) :
    Asks path q.params ((ServiceCall.query q).requestLine path) := by
  rw [requestLine]
  cases hparams : q.params with
  | nil => exact .inl ⟨rfl, String.append_empty⟩
  | cons param rest => exact .inr ⟨Url.formText (param :: rest), Url.formParams_formText _, rfl⟩

namespace Response

variable {r : Response} {reply : Reply}

/-- Whether a response is a success that has the reply as its body, all of it. -/
structure Brings (r : Response) (reply : Reply) : Prop where
  success : r.isSuccess = true
  whole : r.IsWhole
  body : (Tree.parse? r.text).bind Reply.ofTree? = some reply

theorem page_of_brings (h : r.Brings reply) (q : Query) : r.page q = reply.page q.isFull := by
  rw [page, result_of_whole (isFinal_of_isSuccess h.success) h.whole, if_pos h.success,
    Page.ofBody, h.body]

/-- A page comes from a success whose whole body is a reply. -/
theorem brings_of_page {q : Query} {page : Page} (h : r.page q = .ok page) :
    ∃ reply, r.Brings reply ∧ reply.page q.isFull = .ok page := by
  -- of all responses only a success that came as a whole has its body read
  rw [Response.page] at h
  by_cases final : r.isFinal = true
  case neg =>
    rw [result_of_not_final (Bool.eq_false_of_not_eq_true final)] at h
    cases h
  by_cases whole : r.IsWhole
  case neg =>
    rw [result_of_cut final whole] at h
    cases h
  rw [result_of_whole final whole] at h
  split at h
  case isFalse => cases h
  case isTrue success =>
    obtain ⟨reply, hbody, hpage⟩ := Page.of_ofBody h
    exact ⟨reply, ⟨success, whole, hbody⟩, hpage⟩

end Response

namespace Engine

/-- What a ticket asks for: a full load up to the limit, or what comes after a cursor that is there. -/
theorem query_of_ticket {e : Engine} {a : Act} {t : Ticket} (issued : (e.act a).ticket = some t) :
    (t.kind = .full ∧ t.query = .full (e.act a).engine.level e.limit) ∨
      (t.kind = .incremental ∧ e.cursor.isAbsent = false ∧
        t.query = .incremental (e.act a).engine.level e.cursor) := by
  have hturn := e.turn a
  generalize e.act a = reaction at hturn issued ⊢
  cases hturn with
  | load =>
    obtain rfl := Option.some.inj issued
    exact .inl ⟨rfl, rfl⟩
  | poll polls =>
    obtain rfl := Option.some.inj issued
    exact .inr ⟨rfl, polls.2.2.2, rfl⟩
  | _ => cases issued

theorem limit_after (e : Engine) (acts : List Act) : (e.after acts).limit = e.limit := by
  induction acts generalizing e with
  | nil => rfl
  | cons a rest ih => exact (ih (e.act a).engine).trans (e.limit_act a)

/-- The kind of a ticket decides what its request says and how the page of the response is made: a full
load sends the limit if there is one and turns the records around, a poll sends the engine's cursor and
leaves the records as they are. What is sent is read back from the request line. -/
theorem kind_decides_exchange (capacity : ℕ) (limit : Option ℕ) (acts : List Act) (a : Act)
    {t : Ticket} (issued : (((new capacity limit).after acts).act a).ticket = some t) :
    let e := (new capacity limit).after acts
    let level := (e.act a).engine.level
    (t.kind = .full →
      t.query.since = .absent ∧
      t.query.params = Query.levelParams level ++ Query.limitParams limit) ∧
    (t.kind = .incremental →
      t.query.since = e.cursor ∧ ∃ token, token ≠ "" ∧ e.cursor.token = some token ∧
        t.query.params = Query.levelParams level ++ [("since", token)]) ∧
    (∀ path, ServiceCall.Asks path t.query.params ((ServiceCall.query t.query).requestLine path)) ∧
    (∀ r page, Response.page r t.query = .ok page → ∃ reply, r.Brings reply ∧
      page.records = if t.kind = .full then reply.logs.reverse else reply.logs) ∧
    (∀ r reply last, Response.Brings r reply → reply.lastTimestamp = some last → last ≠ "" →
      ∃ page, r.page t.query = .ok page) := by
  intro e level
  have hquery := query_of_ticket issued
  -- a poll has a cursor, so the query takes itself for a full load only if the engine meant one
  have hfull : t.query.isFull = decide (t.kind = .full) := by
    rcases hquery with ⟨hkind, hquery⟩ | ⟨hkind, hcursor, hquery⟩
    · rw [hkind, hquery]
      rfl
    · rw [hkind, hquery]
      exact hcursor
  refine ⟨?_, ?_, ?_, ?_, ?_⟩
  · intro full
    obtain ⟨-, hquery⟩ := hquery.resolve_right fun h => FetchKind.noConfusion (full.symm.trans h.1)
    rw [hquery, Query.params_full, limit_after]
    exact ⟨rfl, rfl⟩
  · intro poll
    obtain ⟨-, hcursor, hquery⟩ :=
      hquery.resolve_left fun h => FetchKind.noConfusion (poll.symm.trans h.1)
    obtain ⟨token, htoken⟩ := Cursor.isAbsent_eq_false_iff.mp hcursor
    have hne : token ≠ "" := fun hempty => e.cursor.nonempty (hempty ▸ htoken)
    rw [hquery, Query.params_incremental _ htoken]
    exact ⟨rfl, token, hne, htoken, rfl⟩
  · intro path
    exact ServiceCall.asks_requestLine path t.query
  · intro r page hpage
    obtain ⟨reply, hbrings, hpage⟩ := Response.brings_of_page hpage
    obtain ⟨last, -, rfl, -⟩ := Reply.of_page hpage
    refine ⟨reply, hbrings, ?_⟩
    rw [hfull, Reply.ordered]
    simp only [decide_eq_true_eq]
  · intro r reply last hbrings hstated hlast
    exact ⟨_, (Response.page_of_brings hbrings t.query).trans
      (Reply.page_of_lastTimestamp hstated hlast t.query.isFull)⟩

def pollFromOffset : List Act :=
  [.ask (.start (some .warn)),
    .complete ⟨0, 1, .full, .full (some .warn) (some 5)⟩
      (.ok ⟨[], .ofToken "2024-05-01T10:00:00.123+0800"⟩)]

theorem kind_decides_exchange_offset :
    ∃ t, (((new 10 (some 5)).after pollFromOffset).act (.ask .tick)).ticket = some t ∧
      t.query.params = [("level", "warn"), ("since", "2024-05-01T10:00:00.123+0800")] := by
  refine ⟨_, rfl, ?_⟩
  obtain ⟨-, hpoll, -⟩ := kind_decides_exchange 10 (some 5) pollFromOffset (.ask .tick) rfl
  obtain ⟨-, token, -, htoken, hparams⟩ := hpoll rfl
  rw [hparams, ← Option.some.inj htoken]
  rfl

end Engine

end LogTail
