import Mathlib.Logic.Relation
import WebhookRelay.Delivery

/-!
# Waiting for a call

While a call is waited for, three parties act, in any order: the call itself, the caller, who is
asked whether it is still there, and whoever may break off the waiting. The state of the waiting is
the call, where the waiting stands, and how often the caller has been asked; the rounds of a
schedule are what can be seen of that.

- `Schedule.Reaches`: what happens after some rounds in which nothing has ended the waiting.
- `Delivery.AsScheduled`: what becomes of a delivery, by the round that ends the waiting.
- `Waiting.Step`: what can happen next, whoever does it.
- `Waiting.Sound`: once the waiting has ended, the call is not running, and its answer is not lost.
- `Waiting.run_of_schedule`, `Waiting.schedule_of_run`: a schedule is what can be seen of a run.
- `deliverUnlessDisconnected_settles`: all this holds of a delivery that can be sent.
-/

namespace WebhookRelay

/-! ## The rounds of a schedule -/

/-- After some rounds in which the call has not finished and the caller has not gone, this is what
happens from then on. -/
inductive Schedule.Reaches : Schedule → Nat → Schedule → Prop
  | here (s : Schedule) : Reaches s 0 s
  | later {rest s : Schedule} {n : Nat} (h : Reaches rest n s) :
    Reaches (.unfinished false rest) (n + 1) s

/-- Does the waiting end in the first round? -/
def Schedule.endsAtOnce : Schedule → Bool
  | .unfinished false _ => false
  | _ => true

/-- Some round ends the waiting. -/
theorem Schedule.exists_reaches (s : Schedule) :
    ∃ n last, s.Reaches n last ∧ last.endsAtOnce = true := by
  induction s with
  | finished reply => exact ⟨0, _, .here _, rfl⟩
  | unfinished gone rest ih =>
    cases gone with
    | true => exact ⟨0, _, .here _, rfl⟩
    | false =>
      obtain ⟨n, last, hreach, hlast⟩ := ih
      exact ⟨n + 1, last, .later hreach, hlast⟩
  | unasked | interrupted => exact ⟨0, _, .here _, rfl⟩

/-- In each round before that one the caller is asked once. -/
theorem Schedule.Reaches.watch {s last : Schedule} {n : Nat} (h : s.Reaches n last) :
    s.watch = { last.watch with polls := n + last.watch.polls } := by
  induction h with
  | here s => rw [Nat.zero_add]
  | later _ ih => rw [Schedule.watch, ih, Nat.add_right_comm]

/-! ## What becomes of a delivery -/

namespace Delivery

/-- The request was sent once, the caller was asked so often, and this is the result. -/
structure Came (d : Delivery) (request : Outbound) (cancelled : Bool) (polls : Nat)
    (result : Except Failure TargetResponse) : Prop where
  sent : d.sent = [⟨request, cancelled⟩]
  polls : d.polls = polls
  result : d.outcome.result = result

/-- What becomes of a delivery, by the round that ends the waiting. -/
structure AsScheduled (request : Outbound) (schedule : Schedule) (d : Delivery) : Prop where
  /-- The response of a call that has finished is the result. -/
  responded : ∀ n r, schedule.Reaches n (.finished (.response r)) →
    d.Came request false n (.ok r)
  /-- Its failure is the fault, with its kind for want of a message. -/
  failed : ∀ n kind message, schedule.Reaches n (.finished (.failure kind message)) →
    d.Came request false n (.error (.fault (.relay (if message.isEmpty then kind else message))))
  /-- Any other failure is not caught. -/
  broken : ∀ n, schedule.Reaches n (.finished .broken) →
    d.Came request false n (.error (.crash .callBroken))
  /-- If the caller is gone first, the call is cancelled. -/
  gone : ∀ n rest, schedule.Reaches n (.unfinished true rest) →
    d.Came request true (n + 1)
      (.error (.fault (.relay "the inbound delivery was cancelled by the caller")))
  /-- So it is if the caller cannot be asked. -/
  unasked : ∀ n, schedule.Reaches n .unasked →
    d.Came request true (n + 1) (.error (.crash .pollFailed))
  /-- So it is if the waiting is broken off, and then the caller is not asked any more. -/
  interrupted : ∀ n, schedule.Reaches n .interrupted →
    d.Came request true n (.error (.crash .interrupted))
  /-- One of these happens. -/
  settled : ∃ n last, schedule.Reaches n last ∧ last.endsAtOnce = true
  /-- Exactly a call that has finished brings its own outcome. -/
  own : (∃ reply : Reply, d.outcome = reply.outcome request.url) ↔
    ∃ n reply, schedule.Reaches n (.finished reply)

end Delivery

/-- Only a reply has the outcome of a reply: other endings are told apart by what is recorded. -/
theorem Ending.replied_of_outcome {url : String} {ending : Ending} {reply : Reply}
    (h : ending.outcome url = reply.outcome url) : ∃ reply', ending = .replied reply' := by
  cases ending with
  | replied reply' => exact ⟨reply', rfl⟩
  | callerGone | pollFailed | interrupted =>
    cases reply with
    | response r => exact nomatch congrArg Logged.result h
    | failure kind message => exact nomatch congrArg (fun x => x.records.map Log.Record.level) h
    | broken => exact nomatch congrArg Logged.result h

section Sendable

variable {request : Outbound} (hascii : request.headers.isAscii = true) (schedule : Schedule)

include hascii

theorem deliverUnlessDisconnected_of_isAscii :
    deliverUnlessDisconnected request schedule =
      ⟨[⟨request, schedule.watch.cancelled⟩], schedule.watch.polls,
        schedule.watch.ending.outcome request.url⟩ :=
  if_pos hascii

/-- The round that ends the waiting decides what becomes of a delivery. -/
theorem came_of_reaches {n : Nat} {last : Schedule} (h : schedule.Reaches n last) :
    (deliverUnlessDisconnected request schedule).Came request last.watch.cancelled
      (n + last.watch.polls) (last.watch.ending.outcome request.url).result := by
  rw [deliverUnlessDisconnected_of_isAscii hascii, h.watch]
  exact ⟨rfl, rfl, rfl⟩

theorem deliverUnlessDisconnected_asScheduled :
    (deliverUnlessDisconnected request schedule).AsScheduled request schedule where
  responded _ _ h := came_of_reaches hascii schedule h
  failed _ _ _ h := came_of_reaches hascii schedule h
  broken _ h := came_of_reaches hascii schedule h
  gone _ _ h := came_of_reaches hascii schedule h
  unasked _ h := came_of_reaches hascii schedule h
  interrupted _ h := came_of_reaches hascii schedule h
  settled := schedule.exists_reaches
  own := by
    rw [deliverUnlessDisconnected_of_isAscii hascii]
    constructor
    · rintro ⟨reply, houtcome⟩
      -- The waiting has ended with a reply, so the round that ended it is one with a finished call.
      obtain ⟨reply', hending⟩ := Ending.replied_of_outcome houtcome
      obtain ⟨n, last, hreach, hlast⟩ := schedule.exists_reaches
      rw [hreach.watch] at hending
      cases last with
      | finished reply => exact ⟨n, reply, hreach⟩
      | unfinished gone rest =>
        cases gone with
        | true => cases hending
        | false => cases hlast
      | unasked | interrupted => cases hending
    · rintro ⟨n, reply, hreach⟩
      rw [hreach.watch]
      exact ⟨reply, rfl⟩

end Sendable

/-! ## What can happen -/

/-- What has become of a call that was started. -/
inductive Call where
  | running
  | finished (reply : Reply)
  | cancelled

namespace Call

/-- Give up a call, if it is still running. -/
def giveUp : Call → Call
  | .running => .cancelled
  | c => c

theorem giveUp_ne_running (c : Call) : c.giveUp ≠ .running := by
  cases c <;> exact nofun

theorem giveUp_of_ne_running {c : Call} (h : c ≠ .running) : c.giveUp = c := by
  cases c with
  | running => exact absurd rfl h
  | finished _ | cancelled => rfl

end Call

/-- What has become of the call when the waiting ends as it does. -/
def Ending.call : Ending → Call
  | .replied reply => .finished reply
  | .callerGone | .pollFailed | .interrupted => .cancelled

/-- Where the waiting stands: for the call, for the caller's answer, or at its end. -/
inductive Stage where
  | waiting
  | asking
  | left (ending : Ending)

/-- The state of a waiting. -/
structure Waiting where
  call : Call
  stage : Stage
  /-- How often the caller was asked. -/
  polls : Nat

namespace Waiting

/-- A call has just been started. -/
def begun : Waiting := ⟨.running, .waiting, 0⟩

/-- However the waiting ends, a call that is still running is given up. -/
def leave (c : Call) (ending : Ending) (n : Nat) : Waiting :=
  ⟨c.giveUp, .left ending, n⟩

/-- What can happen next. The call can finish at any moment, also while the caller is asked. -/
inductive Step : Waiting → Waiting → Prop
  /-- The call finishes. -/
  | finish {stage : Stage} {n : Nat} (reply : Reply) :
    Step ⟨.running, stage, n⟩ ⟨.finished reply, stage, n⟩
  /-- A round is over and the call has finished: its reply is taken. -/
  | take {n : Nat} (reply : Reply) :
    Step ⟨.finished reply, .waiting, n⟩ (leave (.finished reply) (.replied reply) n)
  /-- A round is over and the call has not finished: the caller is asked. -/
  | ask {n : Nat} : Step ⟨.running, .waiting, n⟩ ⟨.running, .asking, n + 1⟩
  /-- The caller is still there. -/
  | stay {c : Call} {n : Nat} : Step ⟨c, .asking, n⟩ ⟨c, .waiting, n⟩
  /-- The caller is gone. -/
  | goAway {c : Call} {n : Nat} : Step ⟨c, .asking, n⟩ (leave c .callerGone n)
  /-- The caller cannot be asked. -/
  | failToAsk {c : Call} {n : Nat} : Step ⟨c, .asking, n⟩ (leave c .pollFailed n)
  /-- The waiting for the call is broken off. -/
  | breakOff {c : Call} {n : Nat} : Step ⟨c, .waiting, n⟩ (leave c .interrupted n)
  /-- The waiting for the caller's answer is broken off. -/
  | breakOffAsking {c : Call} {n : Nat} : Step ⟨c, .asking, n⟩ (leave c .interrupted n)

/-- What can happen after some time. -/
def Run : Waiting → Waiting → Prop := Relation.ReflTransGen Step

variable {w w' : Waiting}

/-! ## The call is accounted for -/

/-- The call is accounted for. -/
structure Sound (w : Waiting) : Prop where
  /-- Once the waiting has ended, the call is not running. -/
  noOrphan : ∀ ending, w.stage = .left ending → w.call ≠ .running
  /-- A reply that the waiting ends with is that of the call. -/
  ownReply : ∀ reply, w.stage = .left (.replied reply) → w.call = .finished reply
  /-- Until the waiting has ended, the call is not cancelled. -/
  notGivenUp : w.call = .cancelled → ∃ ending, w.stage = .left ending

theorem sound_begun : begun.Sound where
  noOrphan _ h := nomatch h
  ownReply _ h := nomatch h
  notGivenUp h := nomatch h

/-- A waiting that ends leaves the call accounted for. -/
theorem sound_leave {c : Call} {ending : Ending} {n : Nat}
    (h : ∀ reply, ending = .replied reply → c = .finished reply) : (leave c ending n).Sound where
  noOrphan _ _ := c.giveUp_ne_running
  ownReply reply hstage := congrArg Call.giveUp (h reply (Stage.left.inj hstage))
  notGivenUp _ := ⟨ending, rfl⟩

/-- Every step keeps the call accounted for. -/
theorem Step.sound (h : Step w w') (hw : w.Sound) : w'.Sound := by
  cases h with
  | finish reply =>
    -- A call that finishes was running, so the waiting has not ended.
    exact ⟨nofun, fun _ hstage => absurd rfl (hw.noOrphan _ hstage), nofun⟩
  | take reply =>
    exact sound_leave fun _ hending => congrArg Call.finished (Ending.replied.inj hending)
  | ask => exact ⟨nofun, nofun, nofun⟩
  | stay =>
    refine ⟨nofun, nofun, fun hcancelled => ?_⟩
    obtain ⟨_, hstage⟩ := hw.notGivenUp hcancelled
    cases hstage
  | goAway | failToAsk | breakOff | breakOffAsking => exact sound_leave nofun

/-- So the call is accounted for, whatever happens. -/
theorem Run.sound (h : Run begun w) : w.Sound := by
  induction h with
  | refl => exact sound_begun
  | tail _ hstep ih => exact hstep.sound ih

/-- A call that is not running stays as it is, and the caller is not asked about it again. -/
theorem Step.quiet (h : Step w w') (hdone : w.call ≠ .running) :
    w'.call = w.call ∧ w'.polls = w.polls := by
  cases h with
  | finish | ask => exact absurd rfl hdone
  | take | stay => exact ⟨rfl, rfl⟩
  | goAway | failToAsk | breakOff | breakOffAsking => exact ⟨Call.giveUp_of_ne_running hdone, rfl⟩

theorem Run.quiet (h : Run w w') (hdone : w.call ≠ .running) :
    w'.call = w.call ∧ w'.polls = w.polls := by
  induction h with
  | refl => exact ⟨rfl, rfl⟩
  | tail _ hstep ih =>
    obtain ⟨hcall, hpolls⟩ := ih
    obtain ⟨hcall', hpolls'⟩ := hstep.quiet (hcall ▸ hdone)
    exact ⟨hcall'.trans hcall, hpolls'.trans hpolls⟩

/-! ## Runs and schedules -/

/-- What a schedule says can happen. -/
theorem run_of_schedule (s : Schedule) (n : Nat) :
    Run ⟨.running, .waiting, n⟩
      ⟨s.watch.ending.call, .left s.watch.ending, n + s.watch.polls⟩ := by
  induction s generalizing n with
  | finished reply => exact .head (.finish reply) (.single (.take reply))
  | unfinished gone rest ih =>
    cases gone with
    | true => exact .head .ask (.single .goAway)
    | false =>
      have hrest := ih (n + 1)
      rw [Nat.add_assoc, Nat.add_comm 1] at hrest
      exact .head .ask (.head .stay hrest)
  | unasked => exact .head .ask (.single .failToAsk)
  | interrupted => exact .single .breakOff

/-- A schedule says that the waiting ends in this way and after so many questions. While the caller
is asked, the round that is going on is the first one of the schedule. -/
def Foretold (w : Waiting) (ending : Ending) (n : Nat) : Prop :=
  match w.stage with
  | .waiting => ∃ s : Schedule, s.watch.ending = ending ∧ w.polls + s.watch.polls = n
  | .asking => ∃ s : Schedule, s.watch.ending = ending ∧ w.polls + s.watch.polls = n + 1
  | .left ending' => ending' = ending ∧ w.polls = n

/-- What a schedule says after a step, another one says before it. -/
theorem Step.foretold {ending : Ending} {n : Nat} (h : Step w w') (hw : w'.Foretold ending n) :
    w.Foretold ending n := by
  cases h with
  | finish => exact hw
  | take reply =>
    obtain ⟨rfl, rfl⟩ := hw
    exact ⟨.finished reply, rfl, rfl⟩
  | @ask k =>
    -- The schedule is the same: only now is the question of its first round counted.
    obtain ⟨s, hending, hpolls⟩ := hw
    have hpolls : k + 1 + s.watch.polls = n + 1 := hpolls
    have hbefore : k + s.watch.polls = n := by omega
    exact ⟨s, hending, hbefore⟩
  | stay =>
    -- The round that goes on here comes before all others.
    obtain ⟨s, hending, hpolls⟩ := hw
    exact ⟨.unfinished false s, hending, congrArg Nat.succ hpolls⟩
  | goAway =>
    -- What a schedule says after this does not matter.
    obtain ⟨rfl, rfl⟩ := hw
    exact ⟨.unfinished true .interrupted, rfl, rfl⟩
  | failToAsk =>
    obtain ⟨rfl, rfl⟩ := hw
    exact ⟨.unasked, rfl, rfl⟩
  | breakOff =>
    obtain ⟨rfl, rfl⟩ := hw
    exact ⟨.interrupted, rfl, rfl⟩
  | breakOffAsking =>
    obtain ⟨rfl, rfl⟩ := hw
    exact ⟨.unfinished false .interrupted, rfl, rfl⟩

/-- So a schedule says how a run ends before anything has happened. -/
theorem Run.foretold {c : Call} {ending : Ending} {n : Nat} (h : Run w ⟨c, .left ending, n⟩) :
    w.Foretold ending n := by
  induction h using Relation.ReflTransGen.head_induction_on with
  | refl => exact ⟨rfl, rfl⟩
  | head hstep _ ih => exact hstep.foretold ih

/-- Whatever happens, if the waiting ends, it ends as some schedule says. -/
theorem schedule_of_run {c : Call} {ending : Ending} {n : Nat}
    (h : Run begun ⟨c, .left ending, n⟩) :
    ∃ s : Schedule, s.watch.ending = ending ∧ s.watch.polls = n := by
  obtain ⟨s, hending, hpolls⟩ := h.foretold
  exact ⟨s, hending, (Nat.zero_add _).symm.trans hpolls⟩

end Waiting

/-! ## Deliveries that can be sent -/

/-- No answer to a request is lost, and no call is left behind. -/
structure Outbound.Settles (request : Outbound) : Prop where
  /-- The round that ends the waiting decides what becomes of a delivery. -/
  asScheduled : ∀ schedule,
    (deliverUnlessDisconnected request schedule).AsScheduled request schedule
  /-- Whatever happens, the call is accounted for. -/
  sound : ∀ w, Waiting.Run .begun w → w.Sound
  /-- Once the call is not running, it stays as it is and the caller is not asked again. -/
  quiet : ∀ w w', Waiting.Run .begun w → w.Run w' → w.call ≠ .running →
    w'.call = w.call ∧ w'.polls = w.polls
  /-- What becomes of a delivery by its schedule can happen. -/
  possible : ∀ schedule, ∃ ending : Ending,
    Waiting.Run .begun
      ⟨ending.call, .left ending, (deliverUnlessDisconnected request schedule).polls⟩ ∧
    (deliverUnlessDisconnected request schedule).outcome = ending.outcome request.url
  /-- Whatever can happen becomes of a delivery by some schedule. -/
  complete : ∀ c ending n, Waiting.Run .begun ⟨c, .left ending, n⟩ → ∃ schedule,
    (deliverUnlessDisconnected request schedule).polls = n ∧
    (deliverUnlessDisconnected request schedule).outcome = ending.outcome request.url

/-- **No answer is lost and no call is left behind**: a request that can be sent is sent once, its
reply is the outcome unless the caller is gone first, and when the waiting has ended, however it
did, the call has finished or is cancelled. -/
theorem deliverUnlessDisconnected_settles {request : Outbound}
    (hascii : request.headers.isAscii = true) : request.Settles where
  asScheduled schedule := deliverUnlessDisconnected_asScheduled hascii schedule
  sound _ h := h.sound
  quiet _ _ _ h hdone := h.quiet hdone
  possible schedule := by
    have hrun := Waiting.run_of_schedule schedule 0
    rw [Nat.zero_add] at hrun
    rw [deliverUnlessDisconnected_of_isAscii hascii]
    exact ⟨schedule.watch.ending, hrun, rfl⟩
  complete c ending n h := by
    obtain ⟨schedule, rfl, rfl⟩ := Waiting.schedule_of_run h
    refine ⟨schedule, ?_⟩
    rw [deliverUnlessDisconnected_of_isAscii hascii]
    exact ⟨rfl, rfl⟩

/-- A call that finishes in the second round: its response comes after one question. -/
theorem deliverUnlessDisconnected_settles_of_late :
    ∃ request : Outbound, request.headers.isAscii = true ∧ ∀ response,
      (deliverUnlessDisconnected request
        (.unfinished false (.finished (.response response)))).Came request false 1
          (.ok response) := by
  let request : Outbound := ⟨"POST", "", [("Content-Type", "application/json")], .empty⟩
  have hascii : request.headers.isAscii = true := by decide +kernel
  exact ⟨request, hascii, fun response =>
    ((deliverUnlessDisconnected_settles hascii).asScheduled _).responded 1 response
      (.later (.here _))⟩

end WebhookRelay
