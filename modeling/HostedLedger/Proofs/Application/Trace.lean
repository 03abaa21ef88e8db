import HostedLedger.Application.Lawful
import HostedLedger.Proofs.Application.Request

/-!
# Calls without a trace

A host reaches an application by written requests, by requests, and by calls on its ledger. Calls
that are refused, transactions that are not accepted and questions leave no trace: the rest of a
run goes on as if they had not been made.

## Main definitions

* `Application.Call`, `Application.perform`: the calls, and the machine that carries them out
* `Application.traceless`: the steps that leave no trace

## Main results

* `Application.eq_of_process_error`: a written request that is refused has no effect
* `Application.traceless_steps_erasable`: they may be left out of every run
-/

namespace HostedLedger

namespace Application

/-- A call that may change an application. -/
inductive Call
  | process (bs : Bytes)
  | handle (request : Request)
  | ledger (call : Ledger.Call)

/-- What is answered to a call that is not refused. -/
inductive Reply
  | written (bs : Bytes)
  | response (response : Response)
  | ledger (block : Option Block)

/-- The answer to a call. -/
abbrev Answer : Type := Except Error Reply

/-- Carries out a call. -/
def perform : Machine Application Call Answer
  | a, .process bs => (a.process bs).map id (·.map .written)
  | a, .handle request => (a.handle request).map id (·.map .response)
  | a, .ledger call =>
    (Ledger.perform a.ledger call).map ({ a with ledger := · }) (·.map .ledger)

/-- The request that a call makes. -/
def Call.request? : Call → Option Request
  | .process bs => (Request.decode bs).toOption
  | .handle r => some r
  | .ledger _ => none

/-- The response that a reply tells. -/
def Reply.response? : Reply → Option Response
  | .written bs => (Response.decode bs).toOption
  | .response r => some r
  | .ledger _ => none

/-- Whether a request is a question, or a transaction that is answered and not accepted. -/
def ineffective : Request → Option Response → Bool
  | .info, _ => true
  | .query .., _ => true
  | .deliverTx _, some (.deliverTx code _) => code ≠ ResponseCode.ok
  | _, _ => false

/-- Whether a step is refused, a question or a transaction that is not accepted. -/
def traceless (step : Step Application Call Answer) : Bool :=
  match step.answer with
  | .error _ => true
  | .ok reply => step.input.request?.any (ineffective · reply.response?)

/-- What a call may do to an application. -/
inductive CallEffect (a : Application) : Call → Answer → Application → Prop
  | refused {call : Call} {e : Error} : CallEffect a call (.error e) a
  | request {call : Call} {request : Request} {reply : Reply} {response : Response}
    {a' : Application} (asks : call.request? = some request)
    (tells : reply.response? = some response) (effect : Effect a request (.ok response) a') :
    CallEffect a call (.ok reply) a'
  | ledger {call : Ledger.Call} {block : Option Block} {ledger : Ledger}
    (effect : Ledger.Effect a.ledger call (.ok block) ledger) :
    CallEffect a (.ledger call) (.ok (.ledger block)) { a with ledger }

theorem callEffect_handle (a : Application) (request : Request) :
    CallEffect a (.handle request) (perform a (.handle request)).2
      (perform a (.handle request)).1 := by
  have h := obeys_effect a request
  rw [perform]
  generalize a.handle request = outcome at h ⊢
  obtain ⟨a', e | response⟩ := outcome
  · cases h
    exact .refused
  · exact .request rfl rfl h

theorem callEffect_process (a : Application) (bs : Bytes) :
    CallEffect a (.process bs) (perform a (.process bs)).2 (perform a (.process bs)).1 := by
  rw [perform, Application.process]
  split
  · exact .refused
  next request hrequest =>
  have h := obeys_effect a request
  split
  · next a' e hhandle =>
    rw [hhandle] at h
    cases h
    exact .refused
  next a' response hhandle =>
  rw [hhandle] at h
  change Effect a request (.ok response) a' at h
  cases hencode : response.encode with
  | error e =>
    rw [h.eq_of_encode_error hencode]
    exact .refused
  | ok written =>
    have hdecode : Response.decode written = .ok response :=
      Response.lawful_format.decode_eq_ok_iff.mpr hencode
    refine .request ?_ ?_ h
    · rw [Call.request?, hrequest]
      rfl
    · rw [Reply.response?, hdecode]
      rfl

/-- A written request that is refused has no effect. -/
theorem eq_of_process_error {a a' : Application} {bs : Bytes} {e : Error}
    (h : a.process bs = (a', .error e)) : a' = a := by
  have heffect := a.callEffect_process bs
  rw [perform, h] at heffect
  change CallEffect a (.process bs) (.error e) a' at heffect
  cases heffect
  rfl

theorem callEffect_ledger (a : Application) (call : Ledger.Call) :
    CallEffect a (.ledger call) (perform a (.ledger call)).2 (perform a (.ledger call)).1 := by
  have h := Ledger.obeys_effect a.ledger call
  rw [perform]
  generalize Ledger.perform a.ledger call = outcome at h ⊢
  obtain ⟨ledger, e | block⟩ := outcome
  · obtain rfl := h.eq_of_error
    exact .refused
  · exact .ledger h

theorem obeys_callEffect : perform.Obeys CallEffect := by
  intro a call
  cases call with
  | process request => exact a.callEffect_process request
  | handle request => exact a.callEffect_handle request
  | ledger call => exact a.callEffect_ledger call

theorem Effect.eq_of_ineffective {a a' : Application} {request : Request} {response : Response}
    (h : Effect a request (.ok response) a') (hidle : ineffective request (some response) = true) :
    a' = a := by
  cases h with
  | info => rfl
  | reject => rfl
  | undecodable => rfl
  | query => rfl
  | initChain => cases hidle
  | beginBlock => cases hidle
  | accept => cases hidle
  | endBlock => cases hidle
  | commit => cases hidle

/-- A step without a trace leaves the application as it is. -/
theorem CallEffect.eq_of_traceless {a a' : Application} {call : Call} {answer : Answer}
    (h : CallEffect a call answer a') (hidle : traceless ⟨a, call, answer⟩ = true) : a' = a := by
  cases h with
  | refused => rfl
  | request asks tells effect =>
    simp only [traceless, asks, tells, Option.any_some] at hidle
    exact effect.eq_of_ineffective hidle
  | ledger effect => cases hidle

/-- **Calls without a trace.** Leave out of a run the calls that are refused, the transactions that
are not accepted and the questions: the other calls meet the same applications, get the same
answers and lead to the same application in the end. -/
theorem traceless_steps_erasable (a : Application) (calls : List Call) :
    let kept := (perform.steps a calls).filter (!traceless ·)
    perform.after a (kept.map (·.input)) = perform.after a calls ∧
      perform.steps a (kept.map (·.input)) = kept :=
  obeys_callEffect.steps_filter CallEffect.eq_of_traceless a calls

example :
    let calls : List Call :=
      [.handle .commit, .handle (.initChain [] [⟨"alice", 10⟩]),
       .handle (.initChain [] [⟨"bob", 1⟩, ⟨"", 1⟩]), .process [1], .process [],
       .handle (.beginBlock 1 "v1"), .handle (.deliverTx []), .handle (.query "/x" []),
       .ledger (.sealBlock ""), .ledger (.apply ⟨"alice", "bob", 7, 0, 0, 0, []⟩),
       .ledger (.apply ⟨"alice", "bob", 7, 0, 0, 0, []⟩), .process [6]]
    (perform.steps default calls).map traceless =
      [true, false, true, true, true, false, true, true, true, false, true, false] := by
  decide +kernel

end Application

end HostedLedger
