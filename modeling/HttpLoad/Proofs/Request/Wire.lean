import Mathlib.Data.List.Forall2
import HttpLoad.Proofs.Basic
import HttpLoad.Proofs.Workers.Ledger

/-!
# What a request puts on the wire

A client that is answered by a redirect sends another request by itself. So what is measured as one
request is a chain of exchanges: the request of the spec, and up to ten more that follow from the
answers. What is recorded is the end of the chain, which is the answer to the request of the spec
only if nothing follows from that answer.

## Main definitions

* `Exchange`: a request on the wire, with its answer
* `Network.tapped`: a network whose exchanges are kept
* `Client.Chain origin left a exchanges e`: the exchanges of a request and of what follows from it
* `Client.Transaction spec body exchanges outcome`: what one measured request comes to

## Main results

* `Client.follow_tapped`: following redirects makes a chain
* `Client.execute_tapped`: a measured request makes a transaction
* `RunPlan.exchanges_of_run`: the exchanges of a run are those of its requests
* `RunPlan.two_exchanges_of_redirect`: two exchanges for one measured request
-/

namespace HttpLoad

/-- **A request on the wire, with its answer.** -/
structure Exchange where
  request : WireRequest
  answer : Answer

/-- **A network whose exchanges are kept**, the latest last. It answers as without that. -/
def Network.tapped {σ : Type} (net : Network σ) : Network (σ × List Exchange) where
  exchange := fun r s =>
    let (answer, s') := net.exchange r s.1
    (answer, s', s.2 ++ [⟨r, answer⟩])
  latency := fun s s' => net.latency s.1 s'.1
  wallTime := fun s s' => net.wallTime s.1 s'.1

/-- The statuses of redirects that are followed. -/
def Redirect.statuses : List Nat := [301, 302, 303, 307, 308]

/-- An answer points elsewhere: it has the status of a redirect, and a location. -/
def Answer.PointsElsewhere (answer : Answer) : Prop :=
  ∃ status location body, answer = .response status (some location) body ∧
    status ∈ Redirect.statuses

theorem WireRequest.framed_method_url (r : WireRequest) :
    r.framed.method = r.method ∧ r.framed.url = r.url := by
  unfold framed
  split
  · exact ⟨rfl, rfl⟩
  · split
    · exact ⟨rfl, rfl⟩
    · split <;> exact ⟨rfl, rfl⟩

/-- What is asked for is in the first request. -/
theorem Attempt.of_first? {spec : RequestSpec} {body : Option Bytes} {first : Attempt}
    (h : first? spec body = .ok first) :
    first.wire.method = spec.method ∧ first.body = body.getD [] ∧
      ∃ given, Address.parse spec.url.toList = .ok (.web given) ∧
        (first.wire.url = given ∨ first.wire.url = given.anonymous) := by
  unfold first? at h
  split at h
  next => cases h
  next given hgiven =>
    dsimp only at h
    split at h
    next => cases h
    next uri huri =>
      obtain rfl := Except.ok.inj h
      refine ⟨(WireRequest.framed_method_url _).1, rfl, given, hgiven, ?_⟩
      rw [Attempt.wire, (WireRequest.framed_method_url _).2]
      dsimp only
      split
      · exact .inr rfl
      · exact .inl rfl
  next => cases h

theorem Redirect.mem_statuses_of_recast? {a a' : Attempt} {status : Nat}
    (h : recast? a status = some a') : status ∈ statuses := by
  by_contra hstatus
  simp only [statuses, List.mem_cons, List.not_mem_nil, or_false, not_or] at hstatus
  obtain ⟨h301, h302, h303, h307, h308⟩ := hstatus
  simp [recast?, h301, h302, h303, h307, h308] at h

namespace Client

variable {σ : Type} (net : Network σ) {origin : Url} {left : Nat} {a : Attempt}
  {exchanges : List Exchange} {e : Ending}

/-- Another request follows only from an answer that points elsewhere. -/
theorem pointsElsewhere_of_digest {answer : Answer} {next : Except Breakdown Attempt}
    (h : digest origin a answer = .inr next) : answer.PointsElsewhere := by
  cases answer with
  | failed what => cases h
  | response status location body =>
    cases hr : Redirect.recast? a status with
    | none =>
      have hstay : Redirect.next a status location = .stay := by simp [Redirect.next, hr]
      simp only [digest, hstay] at h
      split at h <;> cases h
    | some a' =>
      cases location with
      | none =>
        have hstay : Redirect.next a status none = .stay := by simp [Redirect.next]
        simp only [digest, hstay] at h
        split at h <;> cases h
      | some location =>
        exact ⟨status, location, body, rfl, Redirect.mem_statuses_of_recast? hr⟩

/-- What a client is done with is the answer: a whole response, or a failure. -/
theorem eq_response_of_digest {answer : Answer} {status : Nat} {body : Bytes}
    (h : digest origin a answer = .inl (.ok (status, body))) :
    ∃ location, answer = .response status location (.ok body) := by
  cases answer with
  | failed what => cases h
  | response status' location body' =>
    cases hn : Redirect.next a status' location with
    | stay =>
      cases body' with
      | ok bytes =>
        simp only [digest, hn, Sum.inl.injEq, Except.ok.injEq, Prod.mk.injEq] at h
        obtain ⟨rfl, rfl⟩ := h
        exact ⟨location, rfl⟩
      | error what => simp [digest, hn] at h
    | refused what => simp [digest, hn] at h
    | follow next => simp [digest, hn] at h

/-! ## Chains of exchanges -/

/-- **The exchanges of a request and of what follows from it**, at most `left` more, and how they
end. There is a constructor for each way in which a client goes on after an answer. -/
inductive Chain (origin : Url) : Nat → Attempt → List Exchange → Ending → Prop
  | done {left : Nat} {a : Attempt} {answer : Answer} {e : Ending}
      (hd : digest origin a answer = .inl e) : Chain origin left a [⟨a.wire, answer⟩] e
  | exhausted {a : Attempt} {answer : Answer} {next : Except Breakdown Attempt}
      (hd : digest origin a answer = .inr next) :
      Chain origin 0 a [⟨a.wire, answer⟩] (.error (tooManyRedirects a.url))
  | refused {left : Nat} {a : Attempt} {answer : Answer} {what : Breakdown}
      (hd : digest origin a answer = .inr (.error what)) :
      Chain origin (left + 1) a [⟨a.wire, answer⟩] (.error what)
  | followed {left : Nat} {a next : Attempt} {answer : Answer} {rest : List Exchange} {e : Ending}
      (hd : digest origin a answer = .inr (.ok next)) (hrest : Chain origin left next rest e) :
      Chain origin (left + 1) a (⟨a.wire, answer⟩ :: rest) e

namespace Chain

theorem exists_eq_cons (c : Chain origin left a exchanges e) :
    ∃ answer rest, exchanges = ⟨a.wire, answer⟩ :: rest := by
  cases c with
  | done _ => exact ⟨_, _, rfl⟩
  | exhausted _ => exact ⟨_, _, rfl⟩
  | refused _ => exact ⟨_, _, rfl⟩
  | followed _ _ => exact ⟨_, _, rfl⟩

theorem length_le (c : Chain origin left a exchanges e) : exchanges.length ≤ left + 1 := by
  induction c with
  | done _ => simp
  | exhausted _ => simp
  | refused _ => simp
  | followed _ _ ih => simpa using ih

/-- One exchange is all exactly if no request follows from the answer to the first one. -/
theorem rest_eq_nil_iff {answer : Answer} {rest : List Exchange}
    (c : Chain origin (left + 1) a (⟨a.wire, answer⟩ :: rest) e) :
    rest = [] ↔ ∀ next, digest origin a answer ≠ .inr (.ok next) := by
  cases c with
  | done hd => simp [hd]
  | refused hd => simp [hd]
  | followed hd hrest =>
    obtain ⟨answer', rest', rfl⟩ := hrest.exists_eq_cons
    simp [hd]

/-- Every answer but the last one points elsewhere. -/
theorem pointsElsewhere_of_mem_dropLast (c : Chain origin left a exchanges e) :
    ∀ x ∈ exchanges.dropLast, x.answer.PointsElsewhere := by
  induction c with
  | done _ => simp
  | exhausted _ => simp
  | refused _ => simp
  | followed hd hrest ih =>
    obtain ⟨answer', rest', rfl⟩ := hrest.exists_eq_cons
    intro x hx
    rw [List.dropLast_cons_cons, List.mem_cons] at hx
    rcases hx with rfl | hx
    · exact pointsElsewhere_of_digest hd
    · exact ih x hx

/-- A response that a chain ends with is its last answer. -/
theorem getLast?_of_ok {status : Nat} {body : Bytes} (c : Chain origin left a exchanges e)
    (he : e = .ok (status, body)) :
    ∃ request location,
      exchanges.getLast? = some ⟨request, .response status location (.ok body)⟩ := by
  induction c with
  | done hd =>
    subst he
    obtain ⟨location, rfl⟩ := eq_response_of_digest hd
    exact ⟨_, location, rfl⟩
  | exhausted _ => cases he
  | refused _ => cases he
  | followed hd hrest ih =>
    obtain ⟨request, location, hlast⟩ := ih he
    obtain ⟨answer', rest', rfl⟩ := hrest.exists_eq_cons
    exact ⟨request, location, by rw [List.getLast?_cons_cons, hlast]⟩

end Chain

section Follow

variable {s : σ}

theorem follow_of_done (hd : digest origin a (net.exchange a.wire s).1 = .inl e) :
    follow net origin left a s = (e, (net.exchange a.wire s).2) := by
  cases left with
  | zero =>
    rw [follow, followWith, stateM_bind_apply, hd]
    rfl
  | succ left =>
    rw [follow, followWith, stateM_bind_apply, hd]
    rfl

theorem follow_of_exhausted {next : Except Breakdown Attempt}
    (hd : digest origin a (net.exchange a.wire s).1 = .inr next) :
    follow net origin 0 a s = (.error (tooManyRedirects a.url), (net.exchange a.wire s).2) := by
  rw [follow, followWith, stateM_bind_apply, hd]
  rfl

theorem follow_of_refused {what : Breakdown}
    (hd : digest origin a (net.exchange a.wire s).1 = .inr (.error what)) :
    follow net origin (left + 1) a s = (.error what, (net.exchange a.wire s).2) := by
  rw [follow, followWith, stateM_bind_apply, hd]
  rfl

theorem follow_of_followed {next : Attempt}
    (hd : digest origin a (net.exchange a.wire s).1 = .inr (.ok next)) :
    follow net origin (left + 1) a s = follow net origin left next (net.exchange a.wire s).2 := by
  rw [follow, followWith, stateM_bind_apply, hd]
  rfl

theorem ending_of_error {spec : RequestSpec} {body : Option Bytes} {what : Breakdown}
    (hf : Attempt.first? spec body = .error what) : ending net spec body s = (.error what, s) := by
  unfold ending endingWith
  simp only [hf]
  rfl

theorem ending_of_ok {spec : RequestSpec} {body : Option Bytes} {first : Attempt}
    (hf : Attempt.first? spec body = .ok first) :
    ending net spec body s = follow net first.url redirectsMax first s := by
  unfold ending endingWith
  simp only [hf]
  rfl

theorem execute_eq (spec : RequestSpec) (body : Option Bytes) :
    execute net spec body s =
      (performed spec (net.latency s (ending net spec body s).2) (ending net spec body s).1,
        (ending net spec body s).2) := rfl

end Follow

/-- **Following redirects makes a chain**, which starts with the answer to the first request. That
the exchanges are kept changes nothing else. -/
theorem follow_tapped (origin : Url) (left : Nat) (a : Attempt) (s : σ) (log : List Exchange) :
    ∃ rest, Chain origin left a (⟨a.wire, (net.exchange a.wire s).1⟩ :: rest)
        (follow net origin left a s).1 ∧
      follow net.tapped origin left a (s, log) =
        ((follow net origin left a s).1, (follow net origin left a s).2,
          log ++ ⟨a.wire, (net.exchange a.wire s).1⟩ :: rest) := by
  induction left generalizing a s log with
  | zero =>
    cases hd : digest origin a (net.exchange a.wire s).1 with
    | inl e =>
      rw [follow_of_done net hd, follow_of_done net.tapped hd]
      exact ⟨[], .done hd, rfl⟩
    | inr next =>
      rw [follow_of_exhausted net hd, follow_of_exhausted net.tapped hd]
      exact ⟨[], .exhausted hd, rfl⟩
  | succ left ih =>
    cases hd : digest origin a (net.exchange a.wire s).1 with
    | inl e =>
      rw [follow_of_done net hd, follow_of_done net.tapped hd]
      exact ⟨[], .done hd, rfl⟩
    | inr next =>
      cases next with
      | error what =>
        rw [follow_of_refused net hd, follow_of_refused net.tapped hd]
        exact ⟨[], .refused hd, rfl⟩
      | ok next =>
        rw [follow_of_followed net hd, follow_of_followed net.tapped hd]
        obtain ⟨rest, hrest, htapped⟩ := ih next (net.exchange a.wire s).2
          (log ++ [⟨a.wire, (net.exchange a.wire s).1⟩])
        refine ⟨_, .followed hd hrest, ?_⟩
        rw [List.append_assoc] at htapped
        exact htapped

/-! ## One measured request -/

/-- **What one measured request comes to**: the exchanges it makes, and its recorded outcome. -/
structure Transaction (spec : RequestSpec) (body : Option Bytes) (exchanges : List Exchange)
    (outcome : Outcome) : Prop where
  /-- A request that cannot be built is not sent. -/
  unbuilt : ∀ what, Attempt.first? spec body = .error what →
    exchanges = [] ∧ outcome = .failed what.why
  /-- The request of the spec comes first. It is alone exactly if none follows from its answer, and
  the others are at most ten. -/
  built : ∀ first, Attempt.first? spec body = .ok first →
    ∃ answer rest, exchanges = ⟨first.wire, answer⟩ :: rest ∧ rest.length ≤ 10 ∧
      (rest = [] ↔ ∀ next, digest first.url first answer ≠ .inr (.ok next))
  /-- It has the method and the body that are asked for, and goes to the address that is asked for,
  of which it only leaves out a name and a password. -/
  asked : ∀ first, Attempt.first? spec body = .ok first →
    first.wire.method = spec.method ∧ first.body = body.getD [] ∧
      ∃ given, Address.parse spec.url.toList = .ok (.web given) ∧
        (first.wire.url = given ∨ first.wire.url = given.anonymous)
  /-- Every answer but the last one points elsewhere. -/
  pointsElsewhere : ∀ x ∈ exchanges.dropLast, x.answer.PointsElsewhere
  /-- A recorded response is the last answer. -/
  recorded : ∀ status bytes createdId, outcome = .response status bytes createdId →
    ∃ request location body,
      exchanges.getLast? = some ⟨request, .response status location (.ok body)⟩ ∧
        bytes = body.length ∧
        createdId = if spec.capturesId && isSuccess status then CreatedId.parse? body else none

namespace Transaction

variable {spec : RequestSpec} {body : Option Bytes} {outcome : Outcome}

theorem of_unbuilt {what : Breakdown} (hf : Attempt.first? spec body = .error what) :
    Transaction spec body [] (.failed what.why) where
  unbuilt what' hf' := by
    obtain rfl := Except.error.inj (hf.symm.trans hf')
    exact ⟨rfl, rfl⟩
  built first hf' := absurd (hf.symm.trans hf') (by simp)
  asked _ := Attempt.of_first?
  pointsElsewhere := by simp
  recorded status bytes createdId h := by cases h

theorem of_chain {first : Attempt} (hf : Attempt.first? spec body = .ok first)
    (c : Chain first.url redirectsMax first exchanges e) :
    Transaction spec body exchanges (outcomeOf spec.capturesId e) where
  unbuilt what hf' := absurd (hf.symm.trans hf') (by simp)
  built first' hf' := by
    obtain rfl := Except.ok.inj (hf.symm.trans hf')
    obtain ⟨answer, rest, rfl⟩ := c.exists_eq_cons
    refine ⟨answer, rest, rfl, ?_, c.rest_eq_nil_iff⟩
    have hlength := c.length_le
    exact Nat.le_of_succ_le_succ hlength
  asked _ := Attempt.of_first?
  pointsElsewhere := c.pointsElsewhere_of_mem_dropLast
  recorded status bytes createdId h := by
    cases e with
    | error what => cases h
    | ok response =>
      obtain ⟨status', body'⟩ := response
      simp only [outcomeOf, Outcome.response.injEq] at h
      obtain ⟨rfl, rfl, rfl⟩ := h
      obtain ⟨request, location, hlast⟩ := c.getLast?_of_ok rfl
      exact ⟨request, location, body', hlast, rfl, rfl⟩

variable (t : Transaction spec body exchanges outcome)
include t

theorem length_le : exchanges.length ≤ 11 := by
  cases hf : Attempt.first? spec body with
  | error what => simp [(t.unbuilt what hf).1]
  | ok first =>
    obtain ⟨answer, rest, rfl, hrest, -⟩ := t.built first hf
    exact Nat.succ_le_succ hrest

theorem length_pos {first : Attempt} (hf : Attempt.first? spec body = .ok first) :
    1 ≤ exchanges.length := by
  obtain ⟨answer, rest, rfl, -, -⟩ := t.built first hf
  simp

/-- If no answer points elsewhere, there is no second exchange. -/
theorem length_le_one (h : ∀ x ∈ exchanges, ¬ x.answer.PointsElsewhere) :
    exchanges.length ≤ 1 := by
  have hdrop : exchanges.dropLast = [] := by
    refine List.eq_nil_iff_forall_not_mem.mpr fun x hx => ?_
    exact h x ((List.dropLast_sublist _).subset hx) (t.pointsElsewhere x hx)
  have hlength := congrArg List.length hdrop
  rw [List.length_dropLast, List.length_nil] at hlength
  omega

end Transaction

/-- **A measured request makes a transaction.** That the exchanges are kept changes nothing else. -/
theorem execute_tapped (spec : RequestSpec) (body : Option Bytes) (s : σ) (log : List Exchange) :
    ∃ exchanges, Transaction spec body exchanges (execute net spec body s).1.1.outcome ∧
      execute net.tapped spec body (s, log) =
        ((execute net spec body s).1, (execute net spec body s).2, log ++ exchanges) := by
  cases hf : Attempt.first? spec body with
  | error what =>
    refine ⟨[], ?_, ?_⟩
    · rw [execute_eq, ending_of_error net hf]
      exact Transaction.of_unbuilt hf
    · rw [execute_eq, execute_eq, ending_of_error net hf, ending_of_error net.tapped hf,
        List.append_nil]
      rfl
  | ok first =>
    obtain ⟨rest, c, htapped⟩ := follow_tapped net first.url redirectsMax first s log
    refine ⟨⟨first.wire, (net.exchange first.wire s).1⟩ :: rest, ?_, ?_⟩
    · rw [execute_eq, ending_of_ok net hf]
      exact Transaction.of_chain hf c
    · rw [execute_eq, execute_eq, ending_of_ok net hf, ending_of_ok net.tapped hf, htapped]
      rfl

end Client

/-! ## A whole run -/

namespace RunPlan

open scoped List
open Client

variable {σ : Type} (net : Network σ) (plan : RunPlan)

/-- A performed request makes the exchanges of a transaction. -/
def Makes (performed : (Nat × Nat) × Performed) (exchanges : List Exchange) : Prop :=
  Transaction plan.request (plan.bodies.get? performed.1.2) exchanges performed.2.1.outcome

/-- The exchanges of requests that are performed one after the other, the latest first, by induction
on these. -/
theorem exchanges_of_replay (s : σ) (performed : List ((Nat × Nat) × Performed))
    {world : σ × List Exchange}
    (h : (plan.work net.tapped).replay (s, []) (performed.map Prod.fst) =
      (performed.map Prod.snd, world)) :
    ∃ transactions : List (List Exchange), world.2 = transactions.flatten ∧
      List.Forall₂ plan.Makes performed.reverse transactions := by
  induction performed generalizing world with
  | nil =>
    obtain rfl : (s, []) = world := congrArg Prod.snd h
    exact ⟨[], rfl, .nil⟩
  | cons p earlier ih =>
    obtain ⟨⟨worker, number⟩, result⟩ := p
    let before := (plan.work net.tapped).replay (s, []) (earlier.map Prod.fst)
    obtain ⟨hresults, hworld⟩ := Prod.mk.inj h
    obtain ⟨hresult, hbefore⟩ := List.cons.inj hresults
    have hearlier : (plan.work net.tapped).replay (s, []) (earlier.map Prod.fst) =
        (earlier.map Prod.snd, before.2) := Prod.ext hbefore rfl
    obtain ⟨transactions, hlog, hmake⟩ := ih hearlier
    obtain ⟨exchanges, t, htapped⟩ := execute_tapped net plan.request (plan.bodies.get? number)
      before.2.1 before.2.2
    have hperform : Client.execute net.tapped plan.request (plan.bodies.get? number) before.2 =
        (result, world) := Prod.ext hresult hworld
    obtain ⟨rfl, rfl⟩ := Prod.mk.inj (htapped.symm.trans hperform)
    refine ⟨transactions ++ [exchanges], ?_, ?_⟩
    · rw [List.flatten_append, ← hlog, List.flatten_singleton]
    · rw [List.reverse_cons]
      exact List.rel_append hmake (.cons t .nil)

/-- Requests that can be built make one to eleven exchanges each, and just one each if no answer
points elsewhere. -/
theorem length_flatten {performed : List ((Nat × Nat) × Performed)}
    {transactions : List (List Exchange)} (h : List.Forall₂ plan.Makes performed transactions)
    (built : ∀ body, ∃ first, Attempt.first? plan.request body = .ok first) :
    performed.length ≤ transactions.flatten.length ∧
      transactions.flatten.length ≤ 11 * performed.length ∧
      ((∀ x ∈ transactions.flatten, ¬ x.answer.PointsElsewhere) →
        transactions.flatten.length = performed.length) := by
  induction h with
  | nil => simp
  | @cons p exchanges _ _ t _ ih =>
    obtain ⟨first, hf⟩ := built (plan.bodies.get? p.1.2)
    have hpos : 1 ≤ exchanges.length := Transaction.length_pos t hf
    have hle : exchanges.length ≤ 11 := Transaction.length_le t
    rw [List.flatten_cons, List.length_append, List.length_cons]
    refine ⟨by omega, by omega, fun hstay => ?_⟩
    have hone : exchanges.length ≤ 1 := Transaction.length_le_one t fun x hx =>
      hstay x (List.mem_append_left _ hx)
    have hrest := ih.2.2 fun x hx => hstay x (List.mem_append_right _ hx)
    omega

/-- **The exchanges of a run**, and of each of its requests. A request makes a transaction: it is
recorded with what it ends with, which need not be the answer to the request that was asked for.
When a run has come to its end, every request has been performed once, and all exchanges are those
of the requests, in the order in which they were performed. They are as many as requests if no
answer points elsewhere, and otherwise up to eleven times as many. -/
theorem exchanges_of_run {workers : Nat} (hpos : 1 ≤ workers)
    (fit : plan.total + workers < 2 ^ 64) (s : σ) {movers : List Mover}
    {h : Hall (σ × List Exchange) Performed}
    (hrun : (Hall.start workers (s, [])).after (plan.work net.tapped) movers = some h)
    (hf : Hall.Final (plan.work net.tapped) h) :
    (∀ spec body s log, ∃ exchanges,
      Transaction spec body exchanges (Client.execute net spec body s).1.1.outcome ∧
        Client.execute net.tapped spec body (s, log) =
          ((Client.execute net spec body s).1, (Client.execute net spec body s).2,
            log ++ exchanges)) ∧
      h.performed.map (fun p => p.1.2) ~ List.range plan.total ∧
      h.collected ~ h.performed.map Prod.snd ∧
      ∃ transactions : List (List Exchange), h.world.2 = transactions.flatten ∧
        List.Forall₂ plan.Makes h.performed.reverse transactions ∧
        ((∀ body, ∃ first, Attempt.first? plan.request body = .ok first) →
          plan.total ≤ h.world.2.length ∧ h.world.2.length ≤ 11 * plan.total ∧
            ((∀ x ∈ h.world.2, ¬ x.answer.PointsElsewhere) → h.world.2.length = plan.total)) := by
  have l := Hall.ledger_of_after fit hrun
  obtain ⟨-, hnumbers, hresults⟩ := l.complete_of_closed hpos hf.closed
  change h.performed.map (fun p => p.1.2) ~ List.range plan.total at hnumbers
  obtain ⟨transactions, hlog, hmake⟩ := plan.exchanges_of_replay net s h.performed l.replay
  refine ⟨execute_tapped net, hnumbers, hresults, transactions, hlog, hmake, fun built => ?_⟩
  have hlength : h.performed.reverse.length = plan.total := by
    simpa using hnumbers.length_eq
  have hbounds := plan.length_flatten hmake built
  rw [hlength, ← hlog] at hbounds
  exact hbounds

/-- A service that sends those who have not signed in elsewhere, and answers everything else. -/
def signIn : Network Nat where
  exchange := fun _ n =>
    if n = 0 then (.response 302 (some (Bytes.ofString "/login")) (.ok []), 1)
    else (.response 200 none (.ok (Bytes.ofString "\x7b\"id\":7\x7d")), n + 1)
  latency := fun _ _ => Double.zero
  wallTime := fun _ _ => ⟨0, 0⟩

/-- A run of one request that stores something. -/
def oneStored : RunPlan where
  request := {
    method := Method.post
    url := "http://[::1]:8080/bills"
    headers := []
    capturesId := true }
  bodies := .shared (Bytes.ofString "\x7b\x7d")
  total := 1
  concurrency := 1
  deadline := ⟨Deadline.nanosPerSecond⟩
  warmUps := 0
  reportPath := none

/-- The moves of one worker that performs one request. -/
def alone : List Mover :=
  [.worker 0, .worker 0, .worker 0, .collector, .worker 0, .worker 0, .collector]

/-- The run of one request makes two exchanges, which is within the bounds. -/
theorem exchanges_of_run_oneStored :
    ∃ h, (Hall.start 1 (0, [])).after (oneStored.work signIn.tapped) alone = some h ∧
      Hall.Final (oneStored.work signIn.tapped) h ∧ h.world.2.length = 2 ∧
      h.performed.map (fun p => p.1.2) ~ List.range 1 ∧
      ∃ transactions : List (List Exchange), h.world.2 = transactions.flatten ∧
        List.Forall₂ oneStored.Makes h.performed.reverse transactions := by
  have hends : ((Hall.start 1 (0, [])).after (oneStored.work signIn.tapped) alone).map
      (fun h => (h.world.2.length, h.allGone, h.closed)) = some (2, true, true) := by
    decide +kernel
  obtain ⟨h, hrun, hends⟩ := Option.map_eq_some_iff.mp hends
  simp only [Prod.mk.injEq] at hends
  obtain ⟨hlength, hends⟩ := hends
  have hf : Hall.Final (oneStored.work signIn.tapped) h := Hall.final_iff.mpr hends
  obtain ⟨-, hnumbers, -, transactions, hlog, hmake, -⟩ :=
    exchanges_of_run signIn oneStored (by decide) (by decide) 0 hrun hf
  exact ⟨h, hrun, hf, hlength, hnumbers, transactions, hlog, hmake⟩

/-- **Two exchanges for one measured request**: it is answered by a redirect, and recorded as a
success with the id that stands in the page that it leads to. -/
theorem two_exchanges_of_redirect :
    (oneStored.send signIn.tapped 0 (0, [])).1.1.outcome = .response 200 8 (some 7) ∧
      (oneStored.send signIn.tapped 0 (0, [])).2.2.map
          (fun x => (x.request.method, x.request.target, x.request.body)) =
        [(Method.post, "/bills".toList, Bytes.ofString "\x7b\x7d"),
          (Method.get, "/login".toList, [])] := by
  decide +kernel

end RunPlan

end HttpLoad
