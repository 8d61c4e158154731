import LogTail.Proofs.Cursor
import LogTail.Service.Reply

/-!
Pages as replies make them up.
-/
namespace LogTail

open LogTail.Json

namespace Reply

def ordered (r : Reply) (full : Bool) : List Record :=
  if full then r.logs.reverse else r.logs

/-- Where a reply leads to: to its timestamp, or to that of the record that arrived last if that is
later. -/
def nextOf (last : String) (records : List Record) : Cursor :=
  match records.getLast? with
  | none => .ofToken last
  | some newest => (Cursor.ofToken last).advance (.ofToken newest.timestamp)

theorem ordered_eq_nil {r : Reply} {full : Bool} : r.ordered full = [] ↔ r.logs = [] := by
  unfold ordered
  split
  · exact List.reverse_eq_nil_iff
  · exact Iff.rfl

/-- A timestamp always leads somewhere, whatever the records. -/
theorem isAbsent_nextOf {last : String} (h : last ≠ "") (records : List Record) :
    (nextOf last records).isAbsent = false := by
  have hlast : (Cursor.ofToken last).isAbsent = false :=
    Bool.eq_false_of_not_eq_true (mt Cursor.isAbsent_ofToken.mp h)
  unfold nextOf
  split
  · exact hlast
  · rw [Cursor.isAbsent_advance, hlast, Bool.false_and]

/-- The page of a reply, with the only way in which it can fail. -/
theorem page_eq {r : Reply} {last : String} (h : r.lastTimestamp = some last) (full : Bool) :
    r.page full =
      if !(r.ordered full).isEmpty && (nextOf last (r.ordered full)).isAbsent then
        .error (.protocol "non-empty page without a cursor")
      else .ok ⟨r.ordered full, nextOf last (r.ordered full)⟩ := by
  unfold Reply.page
  rw [h]
  rfl

/-- What a page has from the reply that makes it up. Records do not come without a cursor. -/
theorem of_page {r : Reply} {full : Bool} {page : Page} (h : r.page full = .ok page) :
    ∃ last, r.lastTimestamp = some last ∧ page = ⟨r.ordered full, nextOf last (r.ordered full)⟩ ∧
      (r.logs ≠ [] → page.next.isAbsent = false) := by
  cases hlast : r.lastTimestamp with
  | none =>
    rw [Reply.page, hlast] at h
    cases h
  | some last =>
    rw [page_eq hlast] at h
    split at h
    case isTrue => cases h
    case isFalse hguard =>
      obtain rfl := Except.ok.inj h
      refine ⟨last, rfl, rfl, ?_⟩
      intro hlogs
      have hsome : (r.ordered full).isEmpty = false :=
        List.isEmpty_eq_false_iff.mpr (mt ordered_eq_nil.mp hlogs)
      rw [hsome, Bool.not_false, Bool.true_and] at hguard
      exact Bool.eq_false_of_not_eq_true hguard

/-- A reply with a timestamp always makes a page. -/
theorem page_of_lastTimestamp {r : Reply} {last : String} (h : r.lastTimestamp = some last)
    (hlast : last ≠ "") (full : Bool) :
    r.page full = .ok ⟨r.ordered full, nextOf last (r.ordered full)⟩ := by
  rw [page_eq h, isAbsent_nextOf hlast, Bool.and_false]
  rfl

/-- Only a reply that has neither records nor a timestamp makes up a page without a cursor. -/
theorem isAbsent_page {r : Reply} {full : Bool} {page : Page} (h : r.page full = .ok page) :
    page.next.isAbsent = true ↔ r.logs = [] ∧ r.lastTimestamp = some "" := by
  obtain ⟨last, hlast, hpage, hsome⟩ := of_page h
  rw [hlast, Option.some_inj]
  by_cases hlogs : r.logs = []
  · have hnext : page.next = .ofToken last := by
      rw [hpage, ordered_eq_nil.mpr hlogs]
      rfl
    rw [hnext, Cursor.isAbsent_ofToken]
    exact ⟨fun hempty => ⟨hlogs, hempty⟩, fun hempty => hempty.2⟩
  · rw [hsome hlogs]
    exact ⟨fun habsent => Bool.noConfusion habsent, fun hempty => absurd hempty.1 hlogs⟩

end Reply

/-- A page that is read from a body is that of a reply. -/
theorem Page.of_ofBody {body : List Char} {full : Bool} {page : Page}
    (h : ofBody body full = .ok page) :
    ∃ r, (Tree.parse? body).bind Reply.ofTree? = some r ∧ r.page full = .ok page := by
  unfold ofBody at h
  cases hread : (Tree.parse? body).bind Reply.ofTree? with
  | none =>
    rw [hread] at h
    cases h
  | some r =>
    rw [hread] at h
    exact ⟨r, rfl, h⟩

end LogTail
