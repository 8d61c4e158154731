import LogTail.Service.Exchange

/-!
How a request to clear the log of the service may end. It is granted by a response whose status is
one of success and whose body, all of it, says so. Every other response is a fault, and so is a call
that brings no response at all.
-/
namespace LogTail

open LogTail.Json

/-- Whether a body has the form of an answer to a request to clear the log, and what stands in it
under `success`, if anything. -/
def ClearReply.States (body : List Char) (stated : Option Bool) (reply : ClearReply) : Prop :=
  ∃ t p, Tree.parse? body = some t ∧ ClearReply.ofTree? t = some reply ∧
    t.parts? ["success", "message", "error"] = some p ∧
    p.get? "success" = stated.map .bool

namespace ClearReply

variable {body : List Char} {stated : Option Bool} {reply : ClearReply}

/-- Success that is not stated is no success. -/
theorem success_of_states (h : States body stated reply) :
    reply.success = stated.getD false := by
  obtain ⟨t, p, -, hreply, hparts, hget⟩ := h
  simp only [ofTree?, hparts, Option.bind_eq_bind, Option.bind_some, Option.bind_eq_some_iff,
    Option.pure_def, Option.some_inj] at hreply
  obtain ⟨success, hsuccess, message, -, error, -, rfl⟩ := hreply
  rw [Parts.optional?, hget] at hsuccess
  cases stated with
  | none => exact (Option.some.inj hsuccess).symm
  | some b => exact (Option.some.inj hsuccess).symm

/-- An answer that is read says what its body states. -/
theorem states_of_ofTree? {t : Tree} (ht : Tree.parse? body = some t)
    (h : ofTree? t = some reply) : ∃ stated, States body stated reply := by
  have hreply := h
  simp only [ofTree?, Option.bind_eq_bind, Option.bind_eq_some_iff, Option.pure_def,
    Option.some_inj] at hreply
  obtain ⟨p, hparts, success, hsuccess, -⟩ := hreply
  rw [Parts.optional?] at hsuccess
  cases hget : p.get? "success" with
  | none => exact ⟨none, t, p, ht, h, hparts, hget⟩
  | some part =>
    rw [hget] at hsuccess
    -- of all values only the two truth values can be read
    cases part with
    | bool b => exact ⟨some b, t, p, ht, h, hparts, hget⟩
    | _ => cases hsuccess

theorem ofBody_of_states (h : States body stated reply) : ofBody body = reply.outcome := by
  obtain ⟨t, p, ht, hreply, -⟩ := h
  rw [ofBody, ht, Option.bind_some, hreply]

/-- A body that states nothing is unreadable. -/
theorem ofBody_of_not_states (h : ∀ stated reply, ¬ States body stated reply) :
    ofBody body = .error .unreadable := by
  have hnone : (Tree.parse? body).bind ofTree? = none := by
    apply Option.eq_none_iff_forall_ne_some.mpr
    intro reply hreply
    obtain ⟨t, ht, hreply⟩ := Option.bind_eq_some_iff.mp hreply
    obtain ⟨stated, hstates⟩ := states_of_ofTree? ht hreply
    exact h stated reply hstates
  rw [ofBody, hnone]

end ClearReply

namespace Response

variable {α : Type} {r : Response} {read : List Char → Except Fault α}

def IsWhole (r : Response) : Prop :=
  r.hasBody = true → r.complete = true

theorem isFinal_of_isSuccess (h : r.isSuccess = true) : r.isFinal = true := by
  simp only [isSuccess, isFinal, Bool.and_eq_true, decide_eq_true_eq, Bool.or_eq_true,
    beq_iff_eq] at h ⊢
  omega

theorem result_of_not_final (h : r.isFinal = false) :
    r.result read = .error (.network "no answer") := by
  rw [result, h]
  rfl

/-- A response that broke off is unreadable, whatever its status. -/
theorem result_of_cut (final : r.isFinal = true) (cut : ¬ r.IsWhole) :
    r.result read = .error .unreadable := by
  obtain ⟨hbody, hcut⟩ := Classical.not_imp.mp cut
  rw [result, final, hbody, Bool.eq_false_iff.mpr hcut]
  rfl

/-- A whole response means what its body says if it is a success, and a fault of its status
otherwise. -/
theorem result_of_whole (final : r.isFinal = true) (whole : r.IsWhole) :
    r.result read =
      if r.isSuccess then read r.text else .error (.ofResponse r.status r.text) := by
  have hcut : (r.hasBody && !r.complete) = false := by
    cases hbody : r.hasBody with
    | false => rfl
    | true => rw [whole hbody]; rfl
  rw [result, final, hcut]
  rfl

structure Confirms (r : Response) : Prop where
  success : r.isSuccess = true
  whole : r.IsWhole
  says_so : ∃ reply, ClearReply.States r.text (some true) reply

end Response

inductive ClearAnswer
  | response (r : Response)
  | unreachable (detail : String)
  | overdue (limit : Duration)

namespace ClearAnswer

def result : ClearAnswer → Except Fault Unit
  | .response r => r.cleared
  | .unreachable detail => .error (.network detail)
  | .overdue limit => .error (.timeout limit)

def Confirms : ClearAnswer → Prop
  | .response r => r.Confirms
  | _ => False

/-- The ways in which a request may end other than by being granted, and the fault that each is. -/
inductive Faults : ClearAnswer → Fault → Prop
  | unreachable (detail : String) : Faults (.unreachable detail) (.network detail)
  | overdue (limit : Duration) : Faults (.overdue limit) (.timeout limit)
  | informs {r : Response} (informs_only : r.isFinal = false) :
      Faults (.response r) (.network "no answer")
  | cut {r : Response} (final : r.isFinal = true) (cut : ¬ r.IsWhole) :
      Faults (.response r) .unreadable
  | status {r : Response} (final : r.isFinal = true) (whole : r.IsWhole)
      (no_success : r.isSuccess = false) :
      Faults (.response r) (.ofResponse r.status r.text)
  | malformed {r : Response} (success : r.isSuccess = true) (whole : r.IsWhole)
      (says_nothing : ∀ stated reply, ¬ ClearReply.States r.text stated reply) :
      Faults (.response r) .unreadable
  | refused {r : Response} {stated : Option Bool} {reply : ClearReply}
      (success : r.isSuccess = true) (whole : r.IsWhole)
      (states : ClearReply.States r.text stated reply) (refusal : stated ≠ some true) :
      Faults (.response r) (.rejected (reply.error.getD "unknown error"))

variable {a : ClearAnswer}

/-- A request to clear the log is granted, or it ends in one of the faults. -/
theorem confirms_or_faults (a : ClearAnswer) : a.Confirms ∨ ∃ fault, a.Faults fault := by
  cases a with
  | unreachable detail => exact .inr ⟨_, .unreachable detail⟩
  | overdue limit => exact .inr ⟨_, .overdue limit⟩
  | response r =>
    cases hfinal : r.isFinal with
    | false => exact .inr ⟨_, .informs hfinal⟩
    | true =>
      by_cases hwhole : r.IsWhole
      case neg => exact .inr ⟨_, .cut hfinal hwhole⟩
      cases hsuccess : r.isSuccess with
      | false => exact .inr ⟨_, .status hfinal hwhole hsuccess⟩
      | true =>
        by_cases hstates : ∃ stated reply, ClearReply.States r.text stated reply
        · obtain ⟨stated, reply, hstates⟩ := hstates
          by_cases hstated : stated = some true
          · subst hstated
            exact .inl ⟨hsuccess, hwhole, reply, hstates⟩
          · exact .inr ⟨_, .refused hsuccess hwhole hstates hstated⟩
        · refine .inr ⟨_, .malformed hsuccess hwhole ?_⟩
          intro stated reply h
          exact hstates ⟨stated, reply, h⟩

/-- Where the service has cleared its log, the session is told so. -/
theorem result_of_confirms (h : a.Confirms) : a.result = .ok () := by
  cases a with
  | unreachable => cases h
  | overdue => cases h
  | response r =>
    obtain ⟨hsuccess, hwhole, reply, hstates⟩ := h
    have hreply : reply.success = true := ClearReply.success_of_states hstates
    have hfinal := Response.isFinal_of_isSuccess hsuccess
    rw [result, Response.cleared, Response.result_of_whole hfinal hwhole, if_pos hsuccess,
      ClearReply.ofBody_of_states hstates, ClearReply.outcome, if_pos hreply]

/-- Each of the other ways comes to the fault that it is. -/
theorem result_of_faults {fault : Fault} (h : a.Faults fault) : a.result = .error fault := by
  cases h with
  | unreachable => rfl
  | overdue => rfl
  | informs informs_only => exact Response.result_of_not_final informs_only
  | cut final cut => exact Response.result_of_cut final cut
  | status final whole no_success =>
    rw [result, Response.cleared, Response.result_of_whole final whole, no_success]
    rfl
  | malformed success whole says_nothing =>
    have hfinal := Response.isFinal_of_isSuccess success
    rw [result, Response.cleared, Response.result_of_whole hfinal whole, if_pos success,
      ClearReply.ofBody_of_not_states says_nothing]
  | @refused _ stated reply success whole states refusal =>
    have hreply : reply.success = false := by
      rw [ClearReply.success_of_states states]
      match stated, refusal with
      | none, _ => rfl
      | some false, _ => rfl
      | some true, hne => exact absurd rfl hne
    have hfinal := Response.isFinal_of_isSuccess success
    rw [result, Response.cleared, Response.result_of_whole hfinal whole, if_pos success,
      ClearReply.ofBody_of_states states, ClearReply.outcome, hreply]
    rfl

/-- A request is granted if the service confirms it, and otherwise the fault says why not. -/
theorem result_cases (a : ClearAnswer) :
    a.Confirms ∧ a.result = .ok () ∨ ∃ fault, a.Faults fault ∧ a.result = .error fault := by
  obtain h | ⟨fault, h⟩ := a.confirms_or_faults
  · exact .inl ⟨h, result_of_confirms h⟩
  · exact .inr ⟨fault, h, result_of_faults h⟩

end ClearAnswer

end LogTail
