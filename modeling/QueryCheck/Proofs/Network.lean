import QueryCheck.Network

/-!
# Requests in turn

What a network answers depends on the number of the request alone, and a server that is reached by all
requests of a list has recorded that list.
-/

namespace QueryCheck.Network

set_option autoImplicit false

/-- The reply to the request of this number, counted from zero. -/
def replyTo (network : Network) (number : Nat) : Reply :=
  (network.pending[number]?).getD (.error network.afterwards)

/-- The network after requests that are made one after the other. -/
def sending (network : Network) (requests : List Request) : Network :=
  requests.foldl (fun current request => (current.exchange request).2) network

theorem sending_nil (network : Network) : network.sending [] = network := rfl

theorem sending_append (network : Network) (first second : List Request) :
    network.sending (first ++ second) = (network.sending first).sending second :=
  List.foldl_append

theorem sending_one (network : Network) (request : Request) :
    network.sending [request] = (network.exchange request).2 := rfl

theorem record_pending (network : Network) (request : Request) (reply : Reply) :
    (network.record request reply).pending = network.pending := by
  unfold record
  split <;> rfl

theorem record_afterwards (network : Network) (request : Request) (reply : Reply) :
    (network.record request reply).afterwards = network.afterwards := by
  unfold record
  split <;> rfl

theorem record_complaint (network : Network) (request : Request) (reply : Reply) :
    (network.record request reply).complaint = network.complaint := by
  unfold record
  split <;> rfl

theorem record_log (network : Network) (request : Request) (reply : Reply)
    (reached : reply.reachedServer = true) :
    (network.record request reply).log = network.log ++ [request] := by
  unfold record
  rw [if_pos reached]

theorem exchange_eq (network : Network) (request : Request) :
    network.exchange request = (network.replyTo 0,
      { network with pending := network.pending.tail }.record request (network.replyTo 0)) := by
  obtain ⟨pending, afterwards, complaint, log⟩ := network
  cases pending <;> rfl

theorem exchange_reply_to (network : Network) (request : Request) (number : Nat) :
    (network.exchange request).2.replyTo number = network.replyTo (number + 1) := by
  rw [exchange_eq]
  unfold replyTo
  rw [record_pending, record_afterwards, List.getElem?_tail]

/-- Every request moves the numbers of those behind it by one. -/
theorem sending_reply_to (network : Network) (requests : List Request) (number : Nat) :
    (network.sending requests).replyTo number = network.replyTo (requests.length + number) := by
  induction requests generalizing network with
  | nil => simp [sending_nil]
  | cons request rest induction =>
      rw [← List.singleton_append, sending_append, induction, sending_one, exchange_reply_to,
        List.length_append, List.length_singleton]
      congr 1
      omega

/-- Every request takes one of the replies that are pending. -/
theorem sending_pending (network : Network) (requests : List Request) :
    (network.sending requests).pending = network.pending.drop requests.length := by
  induction requests generalizing network with
  | nil => rfl
  | cons request rest induction =>
      have one : (network.exchange request).2.pending = network.pending.tail := by
        rw [exchange_eq, record_pending]
      rw [← List.singleton_append, sending_append, induction, sending_one, one, List.drop_tail,
        List.length_append, List.length_singleton, Nat.add_comm]

theorem sending_complaint (network : Network) (requests : List Request) :
    (network.sending requests).complaint = network.complaint := by
  induction requests generalizing network with
  | nil => rfl
  | cons request rest induction =>
      rw [← List.singleton_append, sending_append, induction, sending_one, exchange_eq,
        record_complaint]

/-- The record of a server that all these requests reach. -/
theorem sending_log (network : Network) (requests : List Request)
    (reached : ∀ number < requests.length, (network.replyTo number).reachedServer = true) :
    (network.sending requests).log = network.log ++ requests := by
  induction requests generalizing network with
  | nil => rw [sending_nil, List.append_nil]
  | cons request rest induction =>
      have later : ∀ number < rest.length,
          ((network.exchange request).2.replyTo number).reachedServer = true := by
        intro number bound
        rw [exchange_reply_to]
        exact reached (number + 1) (Nat.succ_lt_succ bound)
      have first : (network.exchange request).2.log = network.log ++ [request] := by
        rw [exchange_eq]
        exact record_log _ _ _ (reached 0 (Nat.succ_pos _))
      rw [← List.singleton_append, sending_append, sending_one, induction _ later, first,
        List.append_assoc]

end QueryCheck.Network
