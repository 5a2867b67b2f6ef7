import SwapArchive.Proofs.Retry.Outcomes
import SwapArchive.Proofs.Source.Page
import SwapArchive.Source.Client

/-!
# What a client is answered

A reply is broken if it gives no page for a reason of transport. A client asks again after a broken
reply, with the same query, as long as it has attempts left; any other reply is final. So it makes
no difference to a page how many broken replies came before it.
-/

namespace SwapArchive

/-- **A broken reply**: no answer, a status that is no success, or a body that is cut short. An
answer without a body has none that could be. -/
def Reply.IsBroken : Reply → Prop
  | .complete status _ => isSuccess status = false
  | .cut status => status ≠ noContent
  | .dropped => True

/-- **Replies with broken ones between them**: at most so many before each. -/
inductive Padded (greatest : Nat) : List Reply → List Reply → Prop
  | nil : Padded greatest [] []
  | cons {reply : Reply} {rest rest' broken : List Reply} (hBroken : ∀ b ∈ broken, b.IsBroken)
      (hFew : broken.length ≤ greatest) (hRest : Padded greatest rest rest') :
      Padded greatest (reply :: rest) (broken ++ reply :: rest')

/-- An endpoint that gives broken replies between those of another one. -/
def Endpoint.IsPadded (greatest : Nat) (e padded : Endpoint) : Prop :=
  Padded greatest e.replies padded.replies

/-- A body is never a failure of transport, whatever it is. -/
theorem not_transport_readPage (body : List UInt8) : ¬ IsTransport (readPage body) := by
  rintro ⟨reason, h⟩
  obtain ⟨_, hMalformed⟩ := isMalformed_of_readPage h
  cases hMalformed

namespace Client

/-- **Broken replies are failures of transport**, and no others are. -/
theorem transport_iff (address : String) (reply : Reply) :
    IsTransport (pageOfReply address reply) ↔ reply.IsBroken := by
  cases reply with
  | dropped => exact ⟨fun _ => trivial, fun _ => ⟨_, rfl⟩⟩
  | cut status =>
    have hNoContent : isFinal noContent = true ∧ isSuccess noContent = true := by decide
    simp only [pageOfReply, Reply.IsBroken]
    -- A reply of this status has no body that could be cut off.
    by_cases hEmpty : status = noContent
    · subst hEmpty
      simp [hNoContent, not_transport_readPage]
    · refine iff_of_true ?_ hEmpty
      rw [if_neg hEmpty]
      split
      · exact ⟨_, rfl⟩
      split
      · exact ⟨_, rfl⟩
      · exact ⟨_, rfl⟩
  | complete status body =>
    simp only [pageOfReply, Reply.IsBroken]
    by_cases hSuccess : isSuccess status = true
    · have hFinal : isFinal status = true := by
        simp only [isSuccess, isFinal, Bool.and_eq_true, Bool.or_eq_true, decide_eq_true_eq] at *
        omega
      simp [hSuccess, hFinal, not_transport_readPage]
    · refine iff_of_true ?_ (Bool.eq_false_iff.2 hSuccess)
      split
      · exact ⟨_, rfl⟩
      · rw [if_pos (by simp [hSuccess])]
        exact ⟨_, rfl⟩

end Client

/-! ## Retries -/

namespace Client

variable {client : Client} {address : String} {policy : RetryPolicy} {draw : Nat → UInt64}
  {reply : Reply} {broken : List Reply} {left : Nat}

/-- The swaps that a client is answered have times of 64 bits, whatever the reply is. -/
theorem allTimed_request {asOf : Int} {e : Endpoint} {page : List Swap}
    (h : (client.request asOf e).1 = .ok page) : AllTimed page := by
  unfold request at h
  split at h
  · cases h
  · cases h
  · cases h
  simp only [pageOfReply] at h
  split at h
  · cases h
  · split at h
    · cases h
    split at h
    · cases h
    split at h
    · exact allTimed_readPage h
    · cases h
  · split at h
    · cases h
    split at h
    · cases h
    · exact allTimed_readPage h

/-- **The pages of a client** hold swaps with times of 64 bits, whatever the replies are. -/
theorem allTimed_fetch {asOf : Int} {e : Endpoint} {page : List Swap}
    (h : ((client.source draw).fetch asOf e).reply = .ok page) : AllTimed page :=
  have ⟨_, hCall⟩ := RetryPolicy.exists_of_runFrom _ _ _ _ h
  allTimed_request hCall

/-- A query that fails for no reason of transport has been sent to the endpoint. -/
theorem exists_endpoint {asOf : Int} {e : Endpoint} (h : ¬ IsTransport (client.request asOf e).1) :
    ∃ address, Target.ofText client.proxies client.url = .endpoint address := by
  unfold request at h
  split at h
  · exact absurd ⟨_, rfl⟩ h
  · exact absurd ⟨_, rfl⟩ h
  · exact absurd ⟨_, rfl⟩ h
  · next address hTarget => exact ⟨address, hTarget⟩

section Endpoint

variable (policy draw) (hTarget : Target.ofText client.proxies client.url = .endpoint address)

include hTarget

/-- A query to an address that leads to the endpoint. -/
theorem request_eq (asOf : Int) (e : Endpoint) : client.request asOf e =
    (pageOfReply address (e.replies.headD (.complete 500 [])),
      ⟨e.replies.tail, client.query asOf :: e.received⟩) := by
  rw [request, hTarget]
  rfl

/-- **The queries of one page** are the same, and no more than the attempts. -/
theorem runFrom_received (asOf : Int) (left attempt : Nat) (e : Endpoint) : ∃ n ≤ left,
    (policy.runFrom draw (client.request asOf) left attempt e).state.received
      = List.replicate (n + 1) (client.query asOf) ++ e.received := by
  -- The induction is on the retries left; each call sends the query once.
  induction left generalizing attempt e with
  | zero =>
    refine ⟨0, Nat.le_refl 0, ?_⟩
    by_cases hLast : IsTransport (pageOfReply address (e.replies.headD (.complete 500 [])))
    · obtain ⟨reason, hLast⟩ := hLast
      rw [policy.runFrom_last draw attempt (request_eq hTarget asOf e) hLast]
      rfl
    · rw [policy.runFrom_final draw 0 attempt (request_eq hTarget asOf e) hLast]
      rfl
  | succ left ih =>
    by_cases hAgain : IsTransport (pageOfReply address (e.replies.headD (.complete 500 [])))
    · obtain ⟨n, hFew, hRest⟩ := ih (attempt + 1) ⟨e.replies.tail, client.query asOf :: e.received⟩
      obtain ⟨reason, hAgain⟩ := hAgain
      refine ⟨n + 1, Nat.succ_le_succ hFew, ?_⟩
      rw [policy.runFrom_again draw left attempt (request_eq hTarget asOf e) hAgain]
      refine hRest.trans ?_
      rw [List.replicate_succ' (n := n + 1), List.append_assoc]
      rfl
    · refine ⟨0, Nat.zero_le _, ?_⟩
      rw [policy.runFrom_final draw _ attempt (request_eq hTarget asOf e) hAgain]
      rfl

/-- **A page behind broken replies** is the page in the reply after them. -/
theorem runFrom_padded (hBroken : ∀ b ∈ broken, b.IsBroken) (hFew : broken.length ≤ left)
    (hReply : ¬ reply.IsBroken) (rest : List Reply) (asOf : Int) (attempt : Nat)
    (received : List String) :
    let retried := policy.runFrom draw (client.request asOf) left attempt
      ⟨broken ++ reply :: rest, received⟩
    retried.result = pageOfReply address reply ∧ retried.state.replies = rest := by
  -- every broken reply uses up one of the attempts
  induction broken generalizing left attempt received with
  | nil =>
    have hFinal : ¬ IsTransport (pageOfReply address reply) :=
      mt (transport_iff address reply).1 hReply
    dsimp only [List.nil_append]
    rw [policy.runFrom_final draw left attempt
      (request_eq hTarget asOf ⟨reply :: rest, received⟩) hFinal]
    exact ⟨rfl, rfl⟩
  | cons b broken ih =>
    rw [List.forall_mem_cons] at hBroken
    obtain ⟨left, rfl⟩ := Nat.exists_eq_add_one.2 (Nat.lt_of_lt_of_le (Nat.succ_pos _) hFew)
    obtain ⟨reason, hAgain⟩ : IsTransport (pageOfReply address b) :=
      (transport_iff address b).2 hBroken.1
    dsimp only [List.cons_append]
    rw [policy.runFrom_again draw left attempt
      (request_eq hTarget asOf ⟨b :: (broken ++ reply :: rest), received⟩) hAgain]
    exact ih hBroken.2 (Nat.le_of_succ_le_succ hFew) (attempt + 1) (client.query asOf :: received)

end Endpoint

end Client
end SwapArchive
