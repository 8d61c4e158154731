import LogTail.Proofs.Service.GrowingLog
import LogTail.Proofs.Service.Reply

/-!
Where a page leads to, and what it leaves behind. The cursor of a page is the later of the timestamp of
the reply and that of the record that arrived last. The other records are not looked at: one that is
later than both lies beyond the cursor, and a service that holds it will send it again. If timestamps
never fall in the order of arrival, there is no such record.
-/
namespace LogTail

open LogTail.Json

namespace Reply

/-- A position lies beyond the cursor if it lies beyond the timestamp of the reply and that of the
record that arrived last. -/
theorem place_nextOf_lt_iff (last : String) (records : List Record) (t : String) :
    (nextOf last records).place < (Cursor.ofToken t).place ↔
      last < t ∧ ∀ newest, records.getLast? = some newest → newest.timestamp < t := by
  unfold nextOf
  cases records.getLast? with
  | none =>
    rw [Cursor.place_ofToken_lt_iff]
    exact ⟨fun h => ⟨h, fun _ hnewest => nomatch hnewest⟩, fun h => h.1⟩
  | some newest =>
    rw [Cursor.place_advance, max_lt_iff, Cursor.place_ofToken_lt_iff, Cursor.place_ofToken_lt_iff]
    refine and_congr_right fun _ => ⟨?_, fun h => h newest rfl⟩
    intro h other hother
    rw [← Option.some.inj hother]
    exact h

end Reply

namespace Page

def LeavesBehind (page : Page) (x : Record) : Prop :=
  page.next.precedes (.ofToken x.timestamp) = true

instance (page : Page) (x : Record) : Decidable (page.LeavesBehind x) :=
  inferInstanceAs (Decidable (_ = true))

/-- What lies beyond the cursor is what a service has for a poll that starts from there. -/
theorem leavesBehind_iff_mem_after {page : Page} {x : Record} {c : String}
    (hc : page.next.token = some c) {level : LevelFilter} {log : List Record}
    (hx : x ∈ ofLevel level log) : page.LeavesBehind x ↔ x ∈ after level c log := by
  have hnext : page.next = .ofToken c := by
    apply Cursor.eq_of_token
    have hne : c ≠ "" := fun h => page.next.nonempty (h ▸ hc)
    rw [hc, Cursor.token_ofToken, if_neg hne]
  rw [LeavesBehind, Cursor.precedes_iff, hnext, Cursor.place_ofToken_lt_iff, after,
    List.mem_filter, decide_eq_true_eq]
  exact ⟨fun h => ⟨hx, h⟩, fun h => h.2⟩

/-- Where timestamps do not fall, none is later than the last. -/
theorem le_getLast {records : List Record} (h : records.Pairwise (·.timestamp ≤ ·.timestamp))
    {x newest : Record} (hx : x ∈ records) (hnewest : records.getLast? = some newest) :
    x.timestamp ≤ newest.timestamp := by
  obtain ⟨before, rfl⟩ := List.getLast?_eq_some_iff.mp hnewest
  rw [List.pairwise_append] at h
  rcases List.mem_append.mp hx with hx | hx
  · exact h.2.2 x hx newest (List.mem_singleton.mpr rfl)
  · rw [List.mem_singleton.mp hx]

/-- Which records of a page lie beyond its cursor, and so come again with a poll that starts from
there: those that are later both than the timestamp of the reply and than the record that arrived last.
There are none if timestamps do not fall in the order of arrival. -/
theorem leavesBehind_iff {body : List Char} {full : Bool} {page : Page}
    (accepted : ofBody body full = .ok page) :
    ∃ (r : Reply) (last : String), (Tree.parse? body).bind Reply.ofTree? = some r ∧
      r.lastTimestamp = some last ∧
      page.records = (if full then r.logs.reverse else r.logs) ∧
      (∀ x, page.LeavesBehind x ↔ last < x.timestamp ∧
        ∀ newest, page.records.getLast? = some newest → newest.timestamp < x.timestamp) ∧
      (∀ x c level log, page.next.token = some c → x ∈ ofLevel level log →
        (page.LeavesBehind x ↔ x ∈ after level c log)) ∧
      (page.records.Pairwise (·.timestamp ≤ ·.timestamp) →
        ∀ x ∈ page.records, ¬ page.LeavesBehind x) := by
  obtain ⟨r, hread, hpage⟩ := of_ofBody accepted
  obtain ⟨last, hlast, rfl, -⟩ := Reply.of_page hpage
  have hiff (x : Record) : LeavesBehind ⟨r.ordered full, Reply.nextOf last (r.ordered full)⟩ x ↔
      last < x.timestamp ∧ ∀ newest, (r.ordered full).getLast? = some newest →
        newest.timestamp < x.timestamp :=
    (Cursor.precedes_iff _ _).trans (Reply.place_nextOf_lt_iff _ _ _)
  refine ⟨r, last, hread, hlast, rfl, hiff, ?_, ?_⟩
  · intro x c level log hc hx
    exact leavesBehind_iff_mem_after hc hx
  · intro hsorted x hx hbehind
    have hsome : (r.ordered full).getLast? ≠ none :=
      mt List.getLast?_eq_none_iff.mp (List.ne_nil_of_mem hx)
    obtain ⟨newest, hnewest⟩ := Option.ne_none_iff_exists'.mp hsome
    exact absurd (((hiff x).mp hbehind).2 newest hnewest) (not_lt.mpr (le_getLast hsorted hx hnewest))

def replyWith (last first second : String) : List Char :=
  ("\x7b\"lastTimestamp\": \"" ++ last ++ "\", \"logs\": [" ++
    "\x7b\"timestamp\": \"" ++ first ++ "\", \"level\": \"info\", \"message\": \"\"\x7d, " ++
    "\x7b\"timestamp\": \"" ++ second ++ "\", \"level\": \"info\", \"message\": \"\"\x7d]\x7d").toList

def recordAt (timestamp : String) : Record := ⟨timestamp, .info, "", none, none, []⟩

-- A body is read one character after the other.
set_option maxRecDepth 4096 in
/-- Of records in the order of their timestamps none lies beyond the cursor, also if the timestamp of
the reply does not reach that far. -/
theorem leavesBehind_iff_ascending :
    ofBody (replyWith "t1" "t2" "t3") false = .ok ⟨[recordAt "t2", recordAt "t3"], .ofToken "t3"⟩ ∧
    ∀ x ∈ [recordAt "t2", recordAt "t3"],
      ¬ LeavesBehind ⟨[recordAt "t2", recordAt "t3"], .ofToken "t3"⟩ x := by
  have accepted : ofBody (replyWith "t1" "t2" "t3") false =
      .ok ⟨[recordAt "t2", recordAt "t3"], .ofToken "t3"⟩ := rfl
  obtain ⟨-, -, -, -, -, -, -, hsorted⟩ := leavesBehind_iff accepted
  exact ⟨accepted, hsorted (by decide)⟩

set_option maxRecDepth 4096 in
/-- If a record overtakes a later one it lies beyond the cursor, and a poll from there brings it
again. -/
theorem record_comes_again :
    ofBody (replyWith "t2" "t3" "t2") false = .ok ⟨[recordAt "t3", recordAt "t2"], .ofToken "t2"⟩ ∧
    LeavesBehind ⟨[recordAt "t3", recordAt "t2"], .ofToken "t2"⟩ (recordAt "t3") ∧
    after none "t2" [recordAt "t3", recordAt "t2"] = [recordAt "t3"] :=
  ⟨rfl, by decide, rfl⟩

end Page

end LogTail
