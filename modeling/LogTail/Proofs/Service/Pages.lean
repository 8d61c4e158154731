import LogTail.Proofs.Engine.Failures
import LogTail.Proofs.Json.Fields
import LogTail.Proofs.Service.Request

/-!
What a page has of the reply that makes it up, and when there is none. The records are those of the
reply in the order of arrival, and the cursor is the greater, by its bytes, of the timestamp of the reply
and that of the record that arrived last. So records never come without a cursor, and an engine that
hears of the service in no other way never has to turn a page down.
-/
namespace LogTail

open LogTail.Json

/-- Of two tokens the cursor takes the greater one, the empty one being the least. -/
theorem Cursor.ofToken_advance_ofToken (s t : String) :
    (ofToken s).advance (ofToken t) = ofToken (max s t) := by
  have hprecedes : (ofToken s).precedes (ofToken t) = true ↔ s < t :=
    (precedes_iff _ _).trans (place_ofToken_lt_iff s t)
  unfold advance
  split
  case isTrue h => rw [max_eq_right (hprecedes.mp h).le]
  case isFalse h => rw [max_eq_left (not_lt.mp (mt hprecedes.mpr h))]

namespace Reply

/-- Whether a reply has the records and the timestamp that its body gives. Records that are null or left
out are none. -/
structure ReadFrom (r : Reply) (p : Parts) : Prop where
  logs :
    ((p.get? "logs" = none ∨ p.get? "logs" = some .null) ∧ r.logs = []) ∨
      ∃ items, p.get? "logs" = some (.array items) ∧
        items.mapM (Record.ofTree? (Record.nesting - 2)) = some r.logs
  lastTimestamp :
    ((p.get? "lastTimestamp" = none ∨ p.get? "lastTimestamp" = some .null) ∧
        r.lastTimestamp = none) ∨
      ∃ last, p.get? "lastTimestamp" = some (.string (some last)) ∧ r.lastTimestamp = some last

/-- A reply that is read has the parts of its body. -/
theorem readFrom_of_ofTree? {t : Tree} {r : Reply} (h : ofTree? t = some r) :
    ∃ p, t.parts? partNames = some p ∧ r.ReadFrom p := by
  obtain ⟨p, hparts, h⟩ := Option.bind_eq_some_iff.mp h
  obtain ⟨logs, hlogs, h⟩ := Option.bind_eq_some_iff.mp h
  -- an array must have the timestamp, but it may be null there too
  obtain ⟨last, hlast, h⟩ : ∃ last,
      p.optional? "lastTimestamp" none (Tree.nullable? Tree.text?) = some last ∧
        (do let count ← p.optional? "count" none (Tree.nullable? Tree.count?)
            return (⟨logs.getD [], last, count⟩ : Reply)) = some r := by
    split at h
    · obtain ⟨last, hlast, h⟩ := Option.bind_eq_some_iff.mp h
      exact ⟨last, Parts.optional?_of_required? hlast, h⟩
    · obtain ⟨last, hlast, h⟩ := Option.bind_eq_some_iff.mp h
      exact ⟨last, hlast, h⟩
  obtain ⟨count, -, hreply⟩ := Option.bind_eq_some_iff.mp h
  obtain rfl := Option.some.inj hreply
  refine ⟨p, hparts, ?_, ?_⟩
  · rcases Parts.optional?_nullable hlogs with ⟨hmissing, rfl⟩ | ⟨t, records, hgiven, hread, rfl⟩
    · exact .inl ⟨hmissing, rfl⟩
    · obtain ⟨items, rfl, hitems⟩ := Tree.list?_eq_some hread
      exact .inr ⟨items, hgiven, hitems⟩
  · rcases Parts.optional?_nullable hlast with ⟨hmissing, rfl⟩ | ⟨t, text, hgiven, hread, rfl⟩
    · exact .inl ⟨hmissing, rfl⟩
    · rw [Tree.text?_eq_some_iff.mp hread] at hgiven
      exact .inr ⟨text, hgiven, rfl⟩

def stamps (last : String) (records : List Record) : List String :=
  last :: (records.getLast?.map (·.timestamp)).toList

def latest (last : String) (records : List Record) : String :=
  match records.getLast? with
  | none => last
  | some newest => max last newest.timestamp

theorem nextOf_eq_ofToken (last : String) (records : List Record) :
    nextOf last records = .ofToken (latest last records) := by
  unfold nextOf latest
  cases records.getLast? with
  | none => rfl
  | some newest => exact Cursor.ofToken_advance_ofToken _ _

theorem latest_mem_stamps (last : String) (records : List Record) :
    latest last records ∈ stamps last records := by
  unfold latest stamps
  cases records.getLast? with
  | none => exact List.mem_singleton.mpr rfl
  | some newest =>
    change max last newest.timestamp ∈ [last, newest.timestamp]
    rcases max_choice last newest.timestamp with h | h <;> simp [h]

/-- No timestamp that the cursor is chosen from is beyond it. -/
theorem le_latest {last t : String} {records : List Record} (h : t ∈ stamps last records) :
    t ≤ latest last records := by
  unfold stamps at h
  unfold latest
  cases hnewest : records.getLast? with
  | none =>
    rw [hnewest] at h
    exact (List.mem_singleton.mp h).le
  | some newest =>
    rw [hnewest] at h
    rcases List.mem_cons.mp h with rfl | h
    · exact le_max_left _ _
    · exact (List.mem_singleton.mp h).le.trans (le_max_right _ _)

/-- There is no cursor exactly where all these timestamps are empty. -/
theorem isAbsent_nextOf_iff (last : String) (records : List Record) :
    (nextOf last records).isAbsent = true ↔ ∀ t ∈ stamps last records, t = "" := by
  rw [nextOf_eq_ofToken, Cursor.isAbsent_ofToken]
  constructor
  · intro h t ht
    -- nothing comes before the empty text
    have hle : t ≤ "" := h ▸ le_latest ht
    by_contra hne
    obtain ⟨c, rest, hchars⟩ := List.exists_cons_of_ne_nil (mt String.toList_eq_nil_iff.mp hne)
    refine absurd hle (not_le.mpr ?_)
    rw [String.lt_iff_toList_lt, hchars]
    exact List.nil_lt_cons c rest
  · intro h
    exact h _ (latest_mem_stamps last records)

/-- Records come without a cursor where neither timestamp says anything. -/
theorem lacks_cursor_iff (last : String) (records : List Record) :
    (!records.isEmpty && (nextOf last records).isAbsent) = true ↔
      last = "" ∧ ∃ newest, records.getLast? = some newest ∧ newest.timestamp = "" := by
  rw [Bool.and_eq_true, isAbsent_nextOf_iff, stamps]
  cases hnewest : records.getLast? with
  | none => simp [List.getLast?_eq_none_iff.mp hnewest]
  | some newest =>
    have hne : records ≠ [] := fun hnil => by simp [hnil] at hnewest
    simp [hne]

/-- What keeps a reply from making up a page. -/
theorem page_eq_error_iff (r : Reply) (full : Bool) (fault : Fault) :
    r.page full = .error fault ↔
      (r.lastTimestamp = none ∧ fault = .protocol "response is missing lastTimestamp") ∨
        (r.lastTimestamp = some "" ∧
          (∃ newest, (r.ordered full).getLast? = some newest ∧ newest.timestamp = "") ∧
          fault = .protocol "non-empty page without a cursor") := by
  cases hlast : r.lastTimestamp with
  | none =>
    have hpage : r.page full = .error (.protocol "response is missing lastTimestamp") := by
      rw [page, hlast]
    rw [hpage, Except.error.injEq]
    constructor
    · exact fun h => .inl ⟨rfl, h.symm⟩
    · rintro (⟨-, h⟩ | ⟨h, -⟩)
      · exact h.symm
      · cases h
  | some last =>
    have hlacks := lacks_cursor_iff last (r.ordered full)
    rw [page_eq hlast, Option.some_inj]
    split
    case isTrue h =>
      obtain ⟨hempty, hnewest⟩ := hlacks.mp h
      rw [Except.error.injEq]
      constructor
      · exact fun hfault => .inr ⟨hempty, hnewest, hfault.symm⟩
      · rintro (⟨h, -⟩ | ⟨-, -, hfault⟩)
        · cases h
        · exact hfault.symm
    case isFalse h =>
      constructor
      · intro hok
        cases hok
      · rintro (⟨h', -⟩ | ⟨hempty, hnewest, -⟩)
        · cases h'
        · exact absurd (hlacks.mpr ⟨hempty, hnewest⟩) h

end Reply

/-- A page with records has a cursor. -/
theorem Response.isAbsent_next {r : Response} {q : Query} {page : Page} (h : r.page q = .ok page)
    (hrecords : page.records ≠ []) : page.next.isAbsent = false := by
  obtain ⟨reply, -, hpage⟩ := brings_of_page h
  obtain ⟨last, -, rfl, hpresent⟩ := Reply.of_page hpage
  exact hpresent (mt Reply.ordered_eq_nil.mpr hrecords)

namespace Engine

def noCursor : FaultReport :=
  ⟨.protocol, "records returned without a cursor"⟩

/-- Whether an act tells the engine nothing of the service but what a call came to: a fault, or what a
response to the query means. -/
def Act.Exchanges : Act → Prop
  | .complete i result =>
    (∃ fault, result = .error fault) ∨ ∃ r : Response, result = r.page i.ticket.query
  | _ => True

/-- What such an answer is turned down for is a fault that it was to begin with. -/
theorem Refusal.of_exchanges {i : Issue} {result : Except Fault Page} {report : FaultReport}
    (h : Refusal result report) (hresult : (Act.complete i result).Exchanges) :
    ∃ fault, result = .error fault ∧ report = fault.report := by
  cases h with
  | fault fault => exact ⟨fault, rfl, rfl⟩
  | noCursor some_record no_cursor =>
    rcases hresult with ⟨fault, hfault⟩ | ⟨r, hpage⟩
    · cases hfault
    · have hcursor := r.isAbsent_next hpage.symm some_record
      exact Bool.noConfusion (hcursor.symm.trans no_cursor)

/-- The wording of a fault of this kind begins otherwise. -/
theorem report_ne_noCursor (fault : Fault) : fault.report ≠ noCursor := by
  intro h
  have hkind : fault.kind = .protocol := congrArg FaultReport.kind h
  have hmessage : fault.message = noCursor.message := congrArg FaultReport.message h
  cases fault with
  | protocol detail =>
    change "malformed response: " ++ detail = "records returned without a cursor" at hmessage
    have hfirst := congrArg (·.toList.head?) hmessage
    have hm : ("malformed response: " ++ detail).toList.head? = some 'm' := by
      rw [String.toList_append]
      rfl
    rw [hm] at hfirst
    cases hfirst
  | unreadable => exact absurd hmessage (by decide)
  | _ => cases hkind

/-- One exchange with the service does not make the engine complain of a missing cursor. -/
theorem lastError_act_of_exchanges {e : Engine} {a : Act} (he : e.lastError ≠ some noCursor)
    (ha : a.Exchanges) : (e.act a).engine.lastError ≠ some noCursor := by
  have hturn := e.turn a
  generalize e.act a = reaction at hturn ⊢
  cases hturn with
  | @loadFailed i fault live full => exact mt Option.some.inj (report_ne_noCursor fault)
  | pollFailed live poll refused =>
    obtain ⟨fault, -, rfl⟩ := refused.of_exchanges ha
    exact mt Option.some.inj (report_ne_noCursor fault)
  | loaded => exact fun h => nomatch h
  | heartbeat => exact fun h => nomatch h
  | merged => exact fun h => nomatch h
  | cleared => exact fun h => nomatch h
  | _ => exact he

/-- Nor does a run of them: the branch for it is never taken behind the service. -/
theorem lastError_after_exchanges {e : Engine} {acts : List Act} (he : e.lastError ≠ some noCursor)
    (hacts : ∀ a ∈ acts, a.Exchanges) : (e.after acts).lastError ≠ some noCursor := by
  induction acts generalizing e with
  | nil => exact he
  | cons a rest ih =>
    obtain ⟨ha, hrest⟩ := List.forall_mem_cons.mp hacts
    exact ih (lastError_act_of_exchanges he ha) hrest

end Engine

/-- What becomes of a reply. It has the records and the timestamp of its body. A page is made of it
unless it has no timestamp, or has records and an empty one while the record that arrived last has an
empty one as well; the records of the page are those of the reply in the order of arrival, its cursor is
the greater of the two timestamps by their bytes, and the count that was stated has no part in it. So a
page of records has a cursor, and an engine that hears from the service alone reports nothing but faults
of the exchange and never that a cursor is missing. -/
theorem pages_are_exact :
    (∀ (t : Tree) (r : Reply), Reply.ofTree? t = some r →
      ∃ p, t.parts? Reply.partNames = some p ∧ r.ReadFrom p) ∧
    (∀ (r : Reply) (full : Bool),
      let records := if full then r.logs.reverse else r.logs
      (∀ fault, r.page full = .error fault ↔
        (r.lastTimestamp = none ∧ fault = .protocol "response is missing lastTimestamp") ∨
          (r.lastTimestamp = some "" ∧
            (∃ newest, records.getLast? = some newest ∧ newest.timestamp = "") ∧
            fault = .protocol "non-empty page without a cursor")) ∧
      (∀ page, r.page full = .ok page →
        page.records = records ∧
        ∃ last, r.lastTimestamp = some last ∧
          (page.next.isAbsent = true ↔ ∀ t ∈ Reply.stamps last records, t = "") ∧
          ∃ greatest ∈ Reply.stamps last records,
            (∀ t ∈ Reply.stamps last records, Text.bytes t ≤ Text.bytes greatest) ∧
            page.next.token = if greatest = "" then none else some greatest) ∧
      ∀ count, { r with count := count }.page full = r.page full) ∧
    (∀ (r : Response) (q : Query) (page : Page), r.page q = .ok page → page.records ≠ [] →
      ∃ token, page.next.token = some token) ∧
    ∀ (capacity : ℕ) (limit : Option ℕ) (acts : List Engine.Act),
      let e := (Engine.new capacity limit).after acts
      (∀ a ∈ acts, a.Exchanges) →
        e.lastError ≠ some Engine.noCursor ∧
        ∀ i result, (Engine.Act.complete i result).Exchanges → ∀ report,
          (e.complete i.ticket result).2 = .failed report →
            ∃ fault, result = .error fault ∧ report = fault.report := by
  refine ⟨fun t r => Reply.readFrom_of_ofTree?, ?_, ?_, ?_⟩
  · intro r full records
    refine ⟨fun fault => Reply.page_eq_error_iff r full fault, ?_, fun count => rfl⟩
    intro page hpage
    obtain ⟨last, hlast, rfl, -⟩ := Reply.of_page hpage
    refine ⟨rfl, last, hlast, Reply.isAbsent_nextOf_iff last _, Reply.latest last records,
      Reply.latest_mem_stamps last records, ?_, ?_⟩
    · exact fun t ht => Text.bytes_strictMono.monotone (Reply.le_latest ht)
    · exact (congrArg Cursor.token (Reply.nextOf_eq_ofToken last records)).trans
        (Cursor.token_ofToken _)
  · intro r q page hpage hrecords
    exact Cursor.isAbsent_eq_false_iff.mp (r.isAbsent_next hpage hrecords)
  · intro capacity limit acts e hacts
    refine ⟨Engine.lastError_after_exchanges (fun h => nomatch h) hacts, ?_⟩
    intro i result hresult report hfailed
    obtain ⟨-, hrefused, -⟩ := Engine.failed_cases hfailed
    exact hrefused.of_exchanges hresult

/-- A reply to a full load, with a record that is later by its bytes than the timestamp of the reply. -/
def twoRecords : Reply :=
  ⟨[{ timestamp := "é", level := .info, message := "" },
    { timestamp := "z", level := .info, message := "" }], some "t", some 7⟩

def oneRecord : Response where
  status := 200
  body := Text.encodeUtf8
    "\x7b\"logs\":[\x7b\"timestamp\":\"t\",\"level\":\"\"\x7d],\"lastTimestamp\":\"\"\x7d".toList

def serverError : Response where
  status := 500
  body := []

-- A body is read one byte after the other.
set_option maxRecDepth 4096 in
theorem pages_are_exact_later_by_bytes :
    (∃ p, (Tree.object [(some "logs", .null), (some "lastTimestamp", .string (some ""))]).parts?
        Reply.partNames = some p ∧ Reply.ReadFrom ⟨[], some "", none⟩ p) ∧
    (∃ page, twoRecords.page true = .ok page ∧ page.next.token = some "é") ∧
    (∃ page, oneRecord.page (.full none none) = .ok page ∧ ∃ token, page.next.token = some token) ∧
    ∃ fault : Fault, serverError.page (.full none none) = .error fault ∧
      (FaultReport.mk .server "server returned 500: ") = fault.report := by
  obtain ⟨hread, hpages, hcursor, hengine⟩ := pages_are_exact
  refine ⟨hread _ ⟨[], some "", none⟩ rfl, ⟨_, rfl, ?_⟩, ⟨_, rfl, ?_⟩, ?_⟩
  · obtain ⟨-, last, hlast, -, greatest, hmem, hgreatest, htoken⟩ := (hpages twoRecords true).2.1 _ rfl
    obtain rfl := Option.some.inj hlast
    have hle : Text.bytes "é" ≤ Text.bytes greatest := hgreatest "é" (by decide)
    have hlt : Text.bytes "t" < Text.bytes "é" := by decide
    rcases List.mem_cons.mp hmem with rfl | hmem
    · exact absurd hle (not_le.mpr hlt)
    · obtain rfl := List.mem_singleton.mp hmem
      exact htoken
  · exact hcursor oneRecord (.full none none) _ rfl (List.cons_ne_nil _ _)
  · obtain ⟨-, hreports⟩ := hengine 5 none [.ask (.start none)] fun a ha => by
      rw [List.mem_singleton.mp ha]
      trivial
    exact hreports ⟨0, 1, .full, .full none none⟩ _ (.inr ⟨serverError, rfl⟩) _ rfl

end LogTail
