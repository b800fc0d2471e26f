import Mathlib.Tactic.Common
import ZenPass.Lib.KeyedStore
import ZenPass.Lib.Transition

set_option autoImplicit false

-- A client numbers its calls, keeps them in a table until a reply with their id comes back, and
-- drops replies that match none. The server handles one request after the other.

namespace ZenPass.Rpc

open KeyedStore Transition

/-- `E` is what the server draws for a request from outside of its state. -/
structure Protocol (ι C M R H E : Type) where
  -- The id of the call that follows as many others.
  callId : Nat → ι
  request : ι → C → M
  handle : H → E → M → R × H
  replyTo : R → ι

inductive Outcome (R : Type) where
  | reply (reply : R)
  | error
  | terminated
deriving DecidableEq, Repr

/-- `calls` are all calls so far, `settled` those that have ended, in that order. -/
structure Link (ι C M R H : Type) where
  calls : List C
  pending : InsertionMap ι C
  requests : List M
  server : H
  replies : List R
  terminated : Bool
  settled : List (ι × Outcome R)

inductive Action (C E : Type) where
  | call (call : C)
  | serve (drawn : E)
  | receive
  | error
  | terminate

def Action.drawn {C E : Type} : Action C E → Option E
  | .serve drawn => some drawn
  | _ => none

def Action.rejects {C E : Type} : Action C E → Bool
  | .error | .terminate => true
  | _ => false

section

variable {ι C M R H E : Type} [DecidableEq ι] (protocol : Protocol ι C M R H E)

def Link.initial (server : H) : Link ι C M R H where
  calls := []
  pending := .empty
  requests := []
  server := server
  replies := []
  terminated := false
  settled := []

def Link.rejectAll (link : Link ι C M R H) (outcome : Outcome R) : Link ι C M R H :=
  { link with
    pending := .empty
    settled := link.settled ++ link.pending.keys.map fun id => (id, outcome) }

def step (link : Link ι C M R H) : Action C E → Option (Link ι C M R H)
  | .call call =>
      let id := protocol.callId link.calls.length
      some { link with
        calls := link.calls ++ [call]
        pending := link.pending.set id call
        requests := if link.terminated then link.requests
          else link.requests ++ [protocol.request id call] }
  | .serve drawn =>
      match link.requests with
      | [] => none
      | request :: rest =>
          let (reply, server) := protocol.handle link.server drawn request
          some { link with requests := rest, server, replies := link.replies ++ [reply] }
  | .receive =>
      match link.replies with
      | [] => none
      | reply :: rest =>
          match link.pending.get (protocol.replyTo reply) with
          | none => some { link with replies := rest }
          | some _ =>
              some { link with
                pending := link.pending.delete (protocol.replyTo reply)
                replies := rest
                settled := link.settled ++ [(protocol.replyTo reply, .reply reply)] }
  | .error => some (link.rejectAll .error)
  | .terminate => some { link.rejectAll .terminated with requests := [], terminated := true }

theorem step_serve {link : Link ι C M R H} {drawn : E} {request : M} {rest : List M} {reply : R}
    {server : H} (waiting : link.requests = request :: rest)
    (handled : protocol.handle link.server drawn request = (reply, server)) :
    step protocol link (.serve drawn) =
      some { link with requests := rest, server, replies := link.replies ++ [reply] } := by
  simp only [step, waiting, handled]

def serveAll : H → Nat → List C → List E → List R × H
  | server, n, call :: calls, drawn :: draws =>
      let (reply, next) := protocol.handle server drawn (protocol.request (protocol.callId n) call)
      let (replies, final) := serveAll next (n + 1) calls draws
      (reply :: replies, final)
  | server, _, _, _ => ([], server)

section ServeAll

variable {protocol} {calls : List C} {draws : List E} {server : H} {n : Nat}

omit [DecidableEq ι] in
theorem serveAll_length (long : draws.length ≤ calls.length) :
    (serveAll protocol server n calls draws).1.length = draws.length := by
  induction draws generalizing calls server n with
  | nil => cases calls <;> rfl
  | cons drawn draws ih =>
      cases calls with
      | nil => simp at long
      | cons call calls =>
          simp only [serveAll, List.length_cons]
          rw [ih (by simpa using long)]

omit [DecidableEq ι] in
theorem serveAll_append_calls (more : List C) (long : draws.length ≤ calls.length) :
    serveAll protocol server n (calls ++ more) draws = serveAll protocol server n calls draws := by
  induction draws generalizing calls server n with
  | nil =>
      cases calls with
      | nil => cases more <;> rfl
      | cons => rfl
  | cons drawn draws ih =>
      cases calls with
      | nil => simp at long
      | cons call calls =>
          simp only [List.cons_append, serveAll]
          rw [ih (by simpa using long)]

omit [DecidableEq ι] in
theorem serveAll_snoc (drawn : E) {call : C} (next : calls[draws.length]? = some call) :
    serveAll protocol server n calls (draws ++ [drawn]) =
      let handled := protocol.handle (serveAll protocol server n calls draws).2 drawn
        (protocol.request (protocol.callId (n + draws.length)) call)
      ((serveAll protocol server n calls draws).1 ++ [handled.1], handled.2) := by
  induction draws generalizing calls server n with
  | nil =>
      cases calls with
      | nil => simp at next
      | cons first calls =>
          simp only [List.length_nil, List.getElem?_cons_zero, Option.some.injEq] at next
          subst next
          cases calls <;> rfl
  | cons first draws ih =>
      cases calls with
      | nil => simp at next
      | cons call' calls =>
          simp only [List.length_cons, List.getElem?_cons_succ] at next
          simp only [List.cons_append, serveAll]
          rw [ih next]
          simp [Nat.add_comm, Nat.add_left_comm]

omit [DecidableEq ι] in
theorem serveAll_reply {k : Nat} {reply : R}
    (served : (serveAll protocol server n calls draws).1[k]? = some reply) :
    ∃ call drawn, calls[k]? = some call ∧ draws[k]? = some drawn ∧
      reply = (protocol.handle (serveAll protocol server n calls (draws.take k)).2 drawn
        (protocol.request (protocol.callId (n + k)) call)).1 := by
  induction calls generalizing draws server n k with
  | nil => simp [serveAll] at served
  | cons call calls ih =>
      cases draws with
      | nil => simp [serveAll] at served
      | cons drawn draws =>
          simp only [serveAll] at served
          cases k with
          | zero =>
              simp only [List.getElem?_cons_zero, Option.some.injEq] at served
              exact ⟨call, drawn, by simp, by simp, served.symm⟩
          | succ k =>
              simp only [List.getElem?_cons_succ, List.take_succ_cons, serveAll] at served ⊢
              obtain ⟨call', drawn', found, there, is⟩ := ih served
              refine ⟨call', drawn', found, there, ?_⟩
              rw [is, Nat.add_right_comm, Nat.add_assoc]

omit [DecidableEq ι] in
theorem serveAll_take_succ {k : Nat} {drawn : E} (drew : draws[k]? = some drawn) {call : C}
    (called : calls[k]? = some call) :
    (serveAll protocol server n calls (draws.take (k + 1))).2 =
      (protocol.handle (serveAll protocol server n calls (draws.take k)).2 drawn
        (protocol.request (protocol.callId (n + k)) call)).2 := by
  obtain ⟨less, is⟩ := List.getElem?_eq_some_iff.mp drew
  have length : (draws.take k).length = k := by
    rw [List.length_take]
    omega
  have taken : draws.take (k + 1) = draws.take k ++ [drawn] := by
    rw [List.take_succ_eq_append_getElem less, is]
  have next : calls[(draws.take k).length]? = some call := by rw [length, called]
  rw [taken, serveAll_snoc drawn next, length]

end ServeAll

/-- Below `limit` the ids are distinct, and no reply names another call than its own. -/
structure Protocol.Correct (limit : Nat) : Prop where
  distinct : ∀ m n, m < limit → n < limit → protocol.callId m = protocol.callId n → m = n
  own : ∀ server drawn n call m, m < limit → n < limit →
    protocol.replyTo (protocol.handle server drawn (protocol.request (protocol.callId n) call)).1 =
      protocol.callId m → m = n

def Link.served (initial : H) (draws : List E) (link : Link ι C M R H) : List R × H :=
  serveAll protocol initial 0 link.calls draws

structure Linked (initial : H) (draws : List E) (received : Nat) (link : Link ι C M R H) : Prop where
  bound : draws.length + link.requests.length ≤ link.calls.length
  queued : ∀ k request, link.requests[k]? = some request →
    ∃ call, link.calls[draws.length + k]? = some call ∧
      request = protocol.request (protocol.callId (draws.length + k)) call
  sent : link.terminated = false → draws.length + link.requests.length = link.calls.length
  server : link.server = (link.served protocol initial draws).2
  arrived : received ≤ draws.length
  replies : link.replies = (link.served protocol initial draws).1.drop received
  pending : ∀ id call, link.pending.get id = some call →
    ∃ n, link.calls[n]? = some call ∧ id = protocol.callId n
  settled : ∀ id outcome, (id, outcome) ∈ link.settled →
    ∃ n, n < link.calls.length ∧ id = protocol.callId n ∧ ∀ reply, outcome = .reply reply →
      (link.served protocol initial draws).1[n]? = some reply ∧ protocol.replyTo reply = id
  once : (link.settled.map Prod.fst).Nodup
  apart : ∀ id outcome, (id, outcome) ∈ link.settled → link.pending.get id = none
  all : ∀ n, n < link.calls.length → link.pending.get (protocol.callId n) = none →
    protocol.callId n ∈ link.settled.map Prod.fst
  missed : ∀ n reply, n < received → (link.served protocol initial draws).1[n]? = some reply →
    protocol.replyTo reply = protocol.callId n → link.pending.get (protocol.callId n) = none

section Steps

variable {protocol} {initial : H} {draws : List E} {received limit : Nat}
  {link next : Link ι C M R H}

theorem linked_initial : Linked protocol initial ([] : List E) 0 (Link.initial initial) := by
  constructor <;> simp [Link.initial, Link.served, serveAll, InsertionMap.get, InsertionMap.empty]

theorem Linked.long (linked : Linked protocol initial draws received link) :
    draws.length ≤ link.calls.length := le_trans (Nat.le_add_right _ _) linked.bound

theorem Linked.call (correct : protocol.Correct limit)
    (linked : Linked protocol initial draws received link) (call : C)
    (few : link.calls.length < limit)
    (stepped : step protocol link (.call call : Action C E) = some next) :
    Linked protocol initial draws received next := by
  cases stepped
  have same : Link.served protocol initial draws
      { link with
        calls := link.calls ++ [call]
        pending := link.pending.set (protocol.callId link.calls.length) call
        requests := if link.terminated then link.requests
          else link.requests ++ [protocol.request (protocol.callId link.calls.length) call] } =
      link.served protocol initial draws := serveAll_append_calls [call] linked.long
  have grown : ∀ n, n < link.calls.length → (link.calls ++ [call])[n]? = link.calls[n]? :=
    fun n less => List.getElem?_append_left less
  have fresh : ∀ n, n < link.calls.length →
      protocol.callId n ≠ protocol.callId link.calls.length := by
    intro n less equal
    exact absurd (correct.distinct n _ (less.trans few) few equal) (Nat.ne_of_lt less)
  have bound := linked.bound
  refine ⟨?bound, ?queued, ?sent, ?server, ?arrived, ?replies, ?pending, ?settled, linked.once,
    ?apart, ?all, ?missed⟩
  case bound =>
    simp only [List.length_append, List.length_singleton]
    split
    · omega
    · simp only [List.length_append, List.length_singleton]
      omega
  case queued =>
    intro k request found
    have old (found : link.requests[k]? = some request) :
        ∃ call', (link.calls ++ [call])[draws.length + k]? = some call' ∧
          request = protocol.request (protocol.callId (draws.length + k)) call' := by
      obtain ⟨call', there, is⟩ := linked.queued k request found
      obtain ⟨less, -⟩ := List.getElem?_eq_some_iff.mp there
      exact ⟨call', (grown _ less).trans there, is⟩
    dsimp only at found
    split at found
    · exact old found
    · rename_i running
      by_cases less : k < link.requests.length
      · rw [List.getElem?_append_left less] at found
        exact old found
      · have last : k = link.requests.length := by
          obtain ⟨within, -⟩ := List.getElem?_eq_some_iff.mp found
          rw [List.length_append, List.length_singleton] at within
          omega
        subst last
        rw [List.getElem?_concat_length, Option.some.injEq] at found
        rw [linked.sent (by simpa using running)]
        exact ⟨call, List.getElem?_concat_length, found.symm⟩
  case sent =>
    intro running
    change link.terminated = false at running
    have sent := linked.sent running
    simp only [running, Bool.false_eq_true, if_false, List.length_append, List.length_singleton]
    omega
  case server =>
    rw [same]
    exact linked.server
  case arrived =>
    exact linked.arrived
  case replies =>
    rw [same]
    exact linked.replies
  case pending =>
    intro id call' found
    rcases InsertionMap.get_set_cases found with ⟨rfl, rfl⟩ | ⟨-, old⟩
    · exact ⟨link.calls.length, List.getElem?_concat_length, rfl⟩
    · obtain ⟨n, there, is⟩ := linked.pending id call' old
      obtain ⟨less, -⟩ := List.getElem?_eq_some_iff.mp there
      exact ⟨n, (grown n less).trans there, is⟩
  case settled =>
    intro id outcome member
    obtain ⟨n, less, is, replied⟩ := linked.settled id outcome member
    refine ⟨n, ?_, is, ?_⟩
    · rw [List.length_append]
      omega
    · rw [same]
      exact replied
  case apart =>
    intro id outcome member
    obtain ⟨n, less, rfl, -⟩ := linked.settled id outcome member
    dsimp only
    rw [InsertionMap.get_set, if_neg (fresh n less)]
    exact linked.apart _ outcome member
  case all =>
    intro n less absent
    dsimp only at absent less
    rw [List.length_append, List.length_singleton] at less
    rw [InsertionMap.get_set] at absent
    split at absent
    · cases absent
    · rename_i different
      have earlier : n ≠ link.calls.length := fun equal => different (congrArg _ equal)
      exact linked.all n (by omega) absent
  case missed =>
    intro n reply before served names
    rw [same] at served
    have less : n < link.calls.length := by
      obtain ⟨within, -⟩ := List.getElem?_eq_some_iff.mp served
      rw [Link.served, serveAll_length linked.long] at within
      exact lt_of_lt_of_le within linked.long
    dsimp only
    rw [InsertionMap.get_set, if_neg (fresh n less)]
    exact linked.missed n reply before served names

theorem Linked.serve (linked : Linked protocol initial draws received link) {drawn : E}
    (stepped : step protocol link (.serve drawn : Action C E) = some next) :
    Linked protocol initial (draws ++ [drawn]) received next := by
  simp only [step] at stepped
  cases waiting : link.requests with
  | nil => simp [waiting] at stepped
  | cons request rest =>
      simp only [waiting, Option.some.injEq] at stepped
      obtain ⟨call, there, rfl⟩ := linked.queued 0 request (by rw [waiting]; rfl)
      have length : (link.served protocol initial draws).1.length = draws.length :=
        serveAll_length linked.long
      have served := @serveAll_snoc _ _ _ _ _ _ protocol _ draws initial 0 drawn _ there
      rw [Nat.zero_add] at served
      dsimp only [Nat.add_zero] at stepped served
      have handled := linked.server
      unfold Link.served at handled length
      rw [← handled] at served
      have bound := linked.bound
      have sent := linked.sent
      rw [waiting, List.length_cons] at bound sent
      have later : ∀ (n : Nat) (reply : R), (link.served protocol initial draws).1[n]? = some reply →
          (serveAll protocol initial 0 link.calls (draws ++ [drawn])).1[n]? = some reply := by
        intro n reply found
        obtain ⟨within, -⟩ := List.getElem?_eq_some_iff.mp found
        rw [served]
        exact (List.getElem?_append_left within).trans found
      subst stepped
      refine ⟨?bound, ?queued, ?sent, ?server, ?arrived, ?replies, linked.pending, ?settled,
        linked.once, linked.apart, linked.all, ?missed⟩
      case bound =>
        rw [List.length_append, List.length_singleton]
        dsimp only
        omega
      case queued =>
        intro k request found
        have before := linked.queued (k + 1) request (by rw [waiting]; exact found)
        rw [List.length_append, List.length_singleton, Nat.add_assoc, Nat.add_comm 1 k]
        exact before
      case sent =>
        intro running
        have := sent running
        rw [List.length_append, List.length_singleton]
        dsimp only
        omega
      case server =>
        exact (congrArg Prod.snd served).symm
      case arrived =>
        rw [List.length_append]
        exact Nat.le_add_right_of_le linked.arrived
      case replies =>
        change link.replies ++ [_] =
          (serveAll protocol initial 0 link.calls (draws ++ [drawn])).1.drop received
        rw [served, linked.replies]
        symm
        apply List.drop_append_of_le_length
        rw [length]
        exact linked.arrived
      case settled =>
        intro id outcome member
        obtain ⟨n, less, is, replied⟩ := linked.settled id outcome member
        exact ⟨n, less, is, fun reply came =>
          ⟨later n reply (replied reply came).1, (replied reply came).2⟩⟩
      case missed =>
        intro n reply before found names
        have within : n < (serveAll protocol initial 0 link.calls draws).1.length := by
          rw [length]
          exact lt_of_lt_of_le before linked.arrived
        obtain ⟨old, there⟩ : ∃ old, (link.served protocol initial draws).1[n]? = some old :=
          ⟨_, List.getElem?_eq_getElem within⟩
        have same : old = reply := Option.some.inj ((later n old there).symm.trans found)
        subst same
        exact linked.missed n old before there names

theorem Linked.receive (correct : protocol.Correct limit)
    (linked : Linked protocol initial draws received link)
    (few : link.calls.length ≤ limit)
    (stepped : step protocol link (.receive : Action C E) = some next) :
    Linked protocol initial draws (received + 1) next := by
  simp only [step] at stepped
  cases arriving : link.replies with
  | nil => simp [arriving] at stepped
  | cons reply rest =>
      have dropped := linked.replies
      rw [arriving] at dropped
      have length : (link.served protocol initial draws).1.length = draws.length :=
        serveAll_length linked.long
      have here : (link.served protocol initial draws).1[received]? = some reply := by
        rw [← List.head?_drop, ← dropped]
        rfl
      have arrived : received + 1 ≤ draws.length := by
        obtain ⟨within, -⟩ := List.getElem?_eq_some_iff.mp here
        rw [length] at within
        exact within
      have remaining : rest = (link.served protocol initial draws).1.drop (received + 1) := by
        rw [← List.tail_drop, ← dropped]
        rfl
      have called : received < link.calls.length := lt_of_lt_of_le arrived linked.long
      obtain ⟨call, drawn, there, -, is⟩ := serveAll_reply here
      rw [Nat.zero_add] at is
      simp only [arriving] at stepped
      cases found : link.pending.get (protocol.replyTo reply) with
      | none =>
          simp only [found, Option.some.injEq] at stepped
          subst stepped
          refine ⟨linked.bound, linked.queued, linked.sent, linked.server, arrived, remaining,
            linked.pending, linked.settled, linked.once, linked.apart, linked.all, ?_⟩
          intro n other before served names
          rcases Nat.lt_succ_iff_lt_or_eq.mp before with earlier | rfl
          · exact linked.missed n other earlier served names
          · have same : other = reply := Option.some.inj (served.symm.trans here)
            rw [← names, same]
            exact found
      | some waiting =>
          simp only [found, Option.some.injEq] at stepped
          subst stepped
          obtain ⟨m, call', named⟩ := linked.pending _ waiting found
          obtain ⟨less, -⟩ := List.getElem?_eq_some_iff.mp call'
          have names := named
          rw [is] at names
          have own : m = received :=
            correct.own _ drawn received call m (less.trans_le few) (called.trans_le few) names
          subst own
          refine ⟨linked.bound, linked.queued, linked.sent, linked.server, arrived, remaining,
            ?pending, ?settled, ?once, ?apart, ?all, ?missed⟩
          case pending =>
            intro id call left
            exact linked.pending id call (InsertionMap.get_of_get_delete left)
          case settled =>
            intro id outcome member
            rcases List.mem_append.mp member with old | new
            · exact linked.settled id outcome old
            · cases List.mem_singleton.mp new
              refine ⟨m, called, named, ?_⟩
              rintro other ⟨⟩
              exact ⟨here, rfl⟩
          case once =>
            rw [List.map_append, List.nodup_append]
            refine ⟨linked.once, List.nodup_singleton _, ?_⟩
            rintro id member other last rfl
            rw [List.map_singleton, List.mem_singleton] at last
            obtain ⟨⟨other, outcome⟩, settled, same⟩ := List.mem_map.mp member
            change other = id at same
            rw [same, last] at settled
            rw [linked.apart _ outcome settled] at found
            cases found
          case apart =>
            intro id outcome member
            dsimp only
            rw [InsertionMap.get_delete]
            split
            · rfl
            · rename_i different
              rcases List.mem_append.mp member with old | new
              · exact linked.apart id outcome old
              · cases List.mem_singleton.mp new
                exact absurd rfl different
          case all =>
            intro n less absent
            dsimp only at absent less ⊢
            rw [List.map_append, List.mem_append]
            rw [InsertionMap.get_delete] at absent
            split at absent
            · rename_i same
              exact .inr (by simp [same])
            · exact .inl (linked.all n less absent)
          case missed =>
            intro n other before served naming
            dsimp only
            rw [InsertionMap.get_delete]
            split
            · rfl
            · rename_i different
              rcases Nat.lt_succ_iff_lt_or_eq.mp before with earlier | rfl
              · exact linked.missed n other earlier served naming
              · exact absurd named.symm different

theorem Linked.rejectAll (linked : Linked protocol initial draws received link)
    (outcome : Outcome R) (unanswered : ∀ reply, outcome ≠ .reply reply) :
    Linked protocol initial draws received (link.rejectAll outcome) := by
  have none_ : ∀ id, (InsertionMap.empty : InsertionMap ι C).get id = none := fun _ => rfl
  refine ⟨linked.bound, linked.queued, linked.sent, linked.server, linked.arrived, linked.replies,
    ?_, ?_, ?_, ?_, ?_, ?_⟩
  · intro id call found
    change InsertionMap.empty.get id = some call at found
    rw [none_] at found
    cases found
  · intro id given member
    rcases List.mem_append.mp member with old | new
    · exact linked.settled id given old
    · obtain ⟨_, waiting, same⟩ := List.mem_map.mp new
      cases same
      obtain ⟨call, there⟩ := (InsertionMap.mem_keys _ _).mp waiting
      obtain ⟨n, called, named⟩ :=
        linked.pending id call ((InsertionMap.get_eq_some _ _ _).mpr there)
      obtain ⟨less, -⟩ := List.getElem?_eq_some_iff.mp called
      exact ⟨n, less, named, fun reply given => absurd given (unanswered reply)⟩
  · change ((link.settled ++ link.pending.keys.map fun id => (id, outcome)).map Prod.fst).Nodup
    rw [List.map_append, List.map_map, List.nodup_append]
    have keys : link.pending.keys.map (Prod.fst ∘ fun id => (id, outcome)) = link.pending.keys :=
      List.map_id _
    rw [keys]
    refine ⟨linked.once, link.pending.nodup, ?_⟩
    rintro id member _ waiting rfl
    obtain ⟨⟨other, given⟩, settled, same⟩ := List.mem_map.mp member
    change other = id at same
    rw [same] at settled
    exact (InsertionMap.get_eq_none _ _).mp (linked.apart _ given settled) waiting
  · exact fun id _ _ => none_ id
  · intro n less _
    change protocol.callId n ∈
      (link.settled ++ link.pending.keys.map fun id => (id, outcome)).map Prod.fst
    rw [List.map_append, List.mem_append]
    cases found : link.pending.get (protocol.callId n) with
    | none => exact .inl (linked.all n less found)
    | some call =>
        right
        rw [List.map_map]
        refine List.mem_map.mpr ⟨protocol.callId n, ?_, rfl⟩
        exact (InsertionMap.mem_keys _ _).mpr ⟨call, (InsertionMap.get_eq_some _ _ _).mp found⟩
  · exact fun n _ _ _ _ => none_ _

theorem linked_step (correct : protocol.Correct limit) {action : Action C E}
    (linked : Linked protocol initial draws received link) (few : next.calls.length ≤ limit)
    (stepped : step protocol link action = some next) :
    ∃ received, Linked protocol initial (draws ++ action.drawn.toList) received next := by
  have nothing : draws = draws ++ [] := (List.append_nil draws).symm
  cases action with
  | call call =>
      have grown : link.calls.length < limit := by
        cases stepped
        simp only [List.length_append, List.length_singleton] at few
        omega
      refine ⟨received, ?_⟩
      change Linked protocol initial (draws ++ []) received next
      rw [List.append_nil]
      exact linked.call correct call grown stepped
  | serve drawn => exact ⟨received, linked.serve stepped⟩
  | receive =>
      have same : next.calls = link.calls := by
        simp only [step] at stepped
        split at stepped
        · cases stepped
        · split at stepped <;> cases stepped <;> rfl
      rw [same] at few
      refine ⟨received + 1, ?_⟩
      change Linked protocol initial (draws ++ []) (received + 1) next
      rw [List.append_nil]
      exact linked.receive correct few stepped
  | error =>
      cases stepped
      refine ⟨received, ?_⟩
      change Linked protocol initial (draws ++ []) received _
      rw [List.append_nil]
      exact linked.rejectAll .error (by rintro _ ⟨⟩)
  | terminate =>
      cases stepped
      refine ⟨received, ?_⟩
      change Linked protocol initial (draws ++ []) received _
      rw [List.append_nil]
      have rejected := linked.rejectAll .terminated (by rintro _ ⟨⟩)
      refine { rejected with bound := ?_, queued := ?_, sent := ?_ }
      · exact linked.long
      · intro k request found
        cases found
      · intro running
        cases running

theorem step_calls {action : Action C E} (stepped : step protocol link action = some next) :
    link.calls.length ≤ next.calls.length := by
  cases action with
  | call call =>
      cases stepped
      simp
  | serve drawn =>
      simp only [step] at stepped
      split at stepped
      · cases stepped
      · cases stepped
        exact Nat.le_refl _
  | receive =>
      simp only [step] at stepped
      split at stepped
      · cases stepped
      · split at stepped <;> cases stepped <;> exact Nat.le_refl _
  | error | terminate =>
      cases stepped
      exact Nat.le_refl _

theorem run_calls {actions : List (Action C E)} {final : Link ι C M R H}
    (ran : run (step protocol) link actions = some final) :
    link.calls.length ≤ final.calls.length := by
  induction actions generalizing link with
  | nil =>
      cases ran
      exact Nat.le_refl _
  | cons action rest ih =>
      rw [run_cons, Option.bind_eq_some_iff] at ran
      obtain ⟨next, stepped, ran⟩ := ran
      exact (step_calls stepped).trans (ih ran)

theorem linked_run (correct : protocol.Correct limit) {actions : List (Action C E)}
    {final : Link ι C M R H} (linked : Linked protocol initial draws received link)
    (few : final.calls.length ≤ limit) (ran : run (step protocol) link actions = some final) :
    ∃ received, Linked protocol initial (draws ++ actions.filterMap Action.drawn) received final := by
  induction actions generalizing link draws received with
  | nil =>
      cases ran
      exact ⟨received, by simpa using linked⟩
  | cons action rest ih =>
      rw [run_cons, Option.bind_eq_some_iff] at ran
      obtain ⟨next, stepped, ran⟩ := ran
      obtain ⟨there, goesOn⟩ := linked_step correct linked ((run_calls ran).trans few) stepped
      have again := ih goesOn ran
      rw [List.append_assoc] at again
      rw [List.filterMap_cons]
      cases drawn : action.drawn with
      | none => simpa [drawn] using again
      | some value => simpa [drawn] using again

theorem rejected_run {actions : List (Action C E)} {final : Link ι C M R H}
    (ran : run (step protocol) link actions = some final)
    (before : ∀ id outcome, (id, outcome) ∈ link.settled → ∃ reply, outcome = .reply reply)
    (quiet : ∀ action ∈ actions, action.rejects = false) :
    ∀ id outcome, (id, outcome) ∈ final.settled → ∃ reply, outcome = .reply reply := by
  induction actions generalizing link with
  | nil =>
      cases ran
      exact before
  | cons action rest ih =>
      rw [run_cons, Option.bind_eq_some_iff] at ran
      obtain ⟨next, stepped, ran⟩ := ran
      refine ih ran ?_ fun other member => quiet other (List.mem_cons_of_mem _ member)
      have allowed := quiet action List.mem_cons_self
      cases action with
      | error | terminate => cases allowed
      | call call =>
          cases stepped
          exact before
      | serve drawn =>
          simp only [step] at stepped
          split at stepped
          · cases stepped
          · cases stepped
            exact before
      | receive =>
          simp only [step] at stepped
          split at stepped
          · cases stepped
          · split at stepped
            · cases stepped
              exact before
            · cases stepped
              intro id outcome member
              rcases List.mem_append.mp member with old | new
              · exact before id outcome old
              · cases List.mem_singleton.mp new
                exact ⟨_, rfl⟩

theorem running_run {actions : List (Action C E)} {final : Link ι C M R H}
    (ran : run (step protocol) link actions = some final) (before : link.terminated = false)
    (quiet : ∀ action ∈ actions, action.rejects = false) : final.terminated = false := by
  induction actions generalizing link with
  | nil =>
      cases ran
      exact before
  | cons action rest ih =>
      rw [run_cons, Option.bind_eq_some_iff] at ran
      obtain ⟨next, stepped, ran⟩ := ran
      refine ih ran ?_ fun other member => quiet other (List.mem_cons_of_mem _ member)
      have allowed := quiet action List.mem_cons_self
      cases action with
      | error | terminate => cases allowed
      | call call =>
          cases stepped
          exact before
      | serve drawn =>
          simp only [step] at stepped
          split at stepped
          · cases stepped
          · cases stepped
            exact before
      | receive =>
          simp only [step] at stepped
          split at stepped
          · cases stepped
          · split at stepped <;> cases stepped <;> exact before

theorem Linked.quiescent (correct : protocol.Correct limit)
    (linked : Linked protocol initial draws received link) (few : link.calls.length ≤ limit)
    (requests : link.requests = []) (replies : link.replies = []) (running : link.terminated = false)
    (replied : ∀ id outcome, (id, outcome) ∈ link.settled → ∃ reply, outcome = .reply reply)
    {n : Nat} (called : n < link.calls.length) :
    ∃ reply, (link.served protocol initial draws).1[n]? = some reply ∧
      (link.pending.get (protocol.callId n) = none ↔
        protocol.replyTo reply = protocol.callId n) := by
  have sent := linked.sent running
  rw [requests, List.length_nil, Nat.add_zero] at sent
  have length : (link.served protocol initial draws).1.length = draws.length :=
    serveAll_length linked.long
  have everything : draws.length ≤ received := by
    have dropped := linked.replies
    rw [replies] at dropped
    have short := List.drop_eq_nil_iff.mp dropped.symm
    rwa [length] at short
  have within : n < (link.served protocol initial draws).1.length := by omega
  refine ⟨_, List.getElem?_eq_getElem within, fun closed => ?_, fun names => ?_⟩
  · obtain ⟨⟨id, outcome⟩, member, same⟩ := List.mem_map.mp (linked.all n called closed)
    change id = _ at same
    subst same
    obtain ⟨reply, rfl⟩ := replied _ outcome member
    obtain ⟨m, less, named, answered⟩ := linked.settled _ _ member
    have own : n = m := correct.distinct n m (called.trans_le few) (less.trans_le few) named
    subst own
    have here := (answered reply rfl).1
    rw [List.getElem?_eq_getElem within, Option.some.injEq] at here
    rw [here]
    exact (answered reply rfl).2
  · exact linked.missed n _ (by omega) (List.getElem?_eq_getElem within) names

end Steps

end

end ZenPass.Rpc
