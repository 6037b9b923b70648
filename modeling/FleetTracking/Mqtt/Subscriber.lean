import FleetTracking.Mqtt.Client

/-!
# The subscriber as a task

`mqtt_subscriber_task` runs from one `await` to the next.  What it waits for comes back with a
`Reply`: it returns, or raises into the task, and `task.cancel()` raises `CancelledError` there.
`runClient` is `_run_client` between two awaits, `mqttSubscriberTask` the loop around it.

`cancellation`: wherever the cancel finds the task, it ends the task without a further
connection attempt, unless the task is in its back-off sleep.  There the cancel is swallowed,
and with a broker that stays down the task never ends (`brokerDown_never_ends`).
-/

namespace FleetTracking.Subscriber

/-- The exceptions the clauses tell apart.  `exception` is any other `Exception`. -/
inductive Exn
  | mqttError
  | exception
  | cancelledError
deriving DecidableEq

/-- `except Exception` takes it. -/
def Exn.isException : Exn → Bool
  | .cancelledError => false
  | _ => true

/-- What the awaited operation comes back with.  `exhausted` ends an `async for`. -/
inductive Reply
  | returned
  | exhausted
  | raised (e : Exn)
deriving DecidableEq

/-- Where `_run_client` waits. -/
inductive ClientPoint
  /-- `Client.__aenter__` -/
  | connect
  | subscribe
  /-- `async for message in client.messages` -/
  | messages
  /-- `_process_message` -/
  | process
  /-- `Client.__aexit__`, with what the body has raised. -/
  | disconnect (pending : Option Exn)
deriving DecidableEq

/-- `_run_client`: where it waits next, or how it ends. -/
def runClient : ClientPoint → Reply → ClientPoint ⊕ Except Exn Unit
  | .connect, .raised e => .inr (.error e)
  | .connect, _ => .inl .subscribe
  | .subscribe, .raised e => .inl (.disconnect (some e))
  | .subscribe, _ => .inl .messages
  | .messages, .raised e => .inl (.disconnect (some e))
  | .messages, .exhausted => .inl (.disconnect none)
  | .messages, .returned => .inl .process
  | .process, .raised e =>
      if e.isException then .inl .messages else .inl (.disconnect (some e))
  | .process, _ => .inl .messages
  | .disconnect _, .raised e => .inr (.error e)
  | .disconnect (some e), _ => .inr (.error e)
  | .disconnect none, _ => .inr (.ok ())

/-- Where the task is. -/
inductive Point
  /-- Not started yet. -/
  | created
  | client (point : ClientPoint)
  /-- `asyncio.sleep(RECONNECT_SECONDS)` -/
  | backoff
  | ended (e : Exn)
deriving DecidableEq

/-- The `except` clauses of the loop.  Without an exception, the loop goes round. -/
def afterClient : Except Exn Unit → Point
  | .ok () => .client .connect
  | .error .mqttError => .backoff
  | .error e => .ended e

/-- `mqtt_subscriber_task`.  `contextlib.suppress` makes a cancelled sleep one that is over. -/
def mqttSubscriberTask : Point → Reply → Point
  | .created, .raised e => .ended e
  | .created, _ => .client .connect
  | .client point, reply =>
      match runClient point reply with
      | .inl next => .client next
      | .inr result => afterClient result
  | .backoff, .raised .cancelledError => .client .connect
  | .backoff, .raised e => .ended e
  | .backoff, _ => .client .connect
  | .ended e, _ => .ended e

/-- The task, and how many times `_run_client` was started. -/
structure Task where
  point : Point
  attempts : Nat
deriving DecidableEq

namespace Task

/-- `asyncio.create_task(mqtt_subscriber_task())` -/
def start : Task := ⟨.created, 0⟩

def step (t : Task) (reply : Reply) : Task :=
  let next := mqttSubscriberTask t.point reply
  ⟨next, if next = .client .connect then t.attempts + 1 else t.attempts⟩

def run (t : Task) (replies : List Reply) : Task := replies.foldl step t

/-- `task.cancel()` -/
def cancel (t : Task) : Task := t.step (.raised .cancelledError)

/-- Nobody cancels the task, and the client's context manager exits cleanly once it was. -/
def Clean (t : Task) : List Reply → Prop
  | [] => True
  | reply :: replies =>
      reply ≠ .raised .cancelledError ∧
        (t.point = .client (.disconnect (some .cancelledError)) → reply = .returned) ∧
        Clean (t.step reply) replies

/-- `asyncio.gather(*background, return_exceptions=True)` returns. -/
def gatherReturns (background : List Task) : Prop := ∀ t ∈ background, ∃ e, t.point = .ended e

/-- Cancelled now, the task makes no more connection attempts and ends with `CancelledError`
once the broker's client has been left, so that gathering it returns. -/
def ObeysCancel (t : Task) : Prop :=
  (∀ later, t.cancel.Clean later → (t.cancel.run later).attempts = t.attempts) ∧
    ∃ n, ∀ later, t.cancel.Clean later → n ≤ later.length →
      (t.cancel.run later).point = .ended .cancelledError ∧
        gatherReturns [t.cancel.run later]

/-! ## What one reply does -/

section

variable {t : Task} {e : Exn}

theorem run_cons (t : Task) (reply : Reply) (replies : List Reply) :
    t.run (reply :: replies) = (t.step reply).run replies := rfl

theorem step_ended (ended : t.point = .ended e) (reply : Reply) : t.step reply = t := by
  rcases t with ⟨point, attempts⟩
  subst ended
  rfl

/-- A task that has ended stays as it is. -/
theorem run_ended (ended : t.point = .ended e) (replies : List Reply) : t.run replies = t := by
  induction replies with
  | nil => rfl
  | cons reply replies ih => rw [run_cons, step_ended ended, ih]

/-- Outside the back-off sleep a cancel ends the task or makes it leave the client. -/
theorem cancel_cases (alive : ∀ e, t.point ≠ .ended e) (awake : t.point ≠ .backoff) :
    t.cancel = ⟨.ended .cancelledError, t.attempts⟩ ∨
      t.cancel = ⟨.client (.disconnect (some .cancelledError)), t.attempts⟩ := by
  rcases t with ⟨point, attempts⟩
  cases point with
  | created => exact .inl rfl
  | client point =>
      cases point with
      | connect => exact .inl rfl
      | subscribe => exact .inr rfl
      | messages => exact .inr rfl
      | process => exact .inr rfl
      | disconnect pending => exact .inl rfl
  | backoff => exact absurd rfl awake
  | ended e => exact absurd rfl (alive e)

/-- A cancel during the back-off sleep is a new connection attempt. -/
theorem cancel_backoff (asleep : t.point = .backoff) :
    t.cancel = ⟨.client .connect, t.attempts + 1⟩ := by
  rcases t with ⟨point, attempts⟩
  subst asleep
  rfl

/-- Leaving the client because of the cancel ends the task. -/
theorem run_leaving (leaving : t.point = .client (.disconnect (some .cancelledError)))
    {later : List Reply} (clean : t.Clean later) :
    (t.run later).attempts = t.attempts ∧
      (1 ≤ later.length → (t.run later).point = .ended .cancelledError) := by
  cases later with
  | nil => exact ⟨rfl, fun some => by cases some⟩
  | cons reply later =>
      obtain ⟨-, exits, -⟩ := clean
      have left : t.step reply = ⟨.ended .cancelledError, t.attempts⟩ := by
        rcases t with ⟨point, attempts⟩
        rw [exits leaving]
        subst leaving
        rfl
      rw [run_cons, left, run_ended rfl]
      exact ⟨rfl, fun _ => rfl⟩

/-- Awake, the task obeys: at most one more reply, and it has ended. -/
theorem obeysCancel_of_awake (alive : ∀ e, t.point ≠ .ended e) (awake : t.point ≠ .backoff) :
    t.ObeysCancel := by
  have gathered {t : Task} (ended : t.point = .ended .cancelledError) : gatherReturns [t] :=
    fun t' member => ⟨_, (List.mem_singleton.mp member) ▸ ended⟩
  rcases cancel_cases alive awake with stopped | leaving
  · have stays (later : List Reply) :
        t.cancel.run later = ⟨.ended .cancelledError, t.attempts⟩ := by
      rw [stopped, run_ended rfl]
    refine ⟨fun later _ => by rw [stays], 0, fun later _ _ => ?_⟩
    rw [stays]
    exact ⟨rfl, gathered rfl⟩
  · have left {later : List Reply} (clean : t.cancel.Clean later) :=
      run_leaving (by rw [leaving]) clean
    refine ⟨fun later clean => ?_, 1, fun later clean long => ?_⟩
    · rw [(left clean).1, leaving]
    · exact ⟨(left clean).2 long, gathered ((left clean).2 long)⟩

/-- Asleep, it does not: the sleep is cut short and the next attempt begins. -/
theorem not_obeysCancel_of_backoff (asleep : t.point = .backoff) : ¬ t.ObeysCancel := by
  intro obeys
  have unchanged := obeys.1 [] trivial
  rw [cancel_backoff asleep] at unchanged
  exact absurd unchanged (Nat.succ_ne_self _)

end

/-- **Cancellation.**  Whatever has happened to the task before, and wherever it waits now, the
cancel is obeyed exactly when the task is not in its back-off sleep. -/
theorem cancellation (history : List Reply) (alive : ∀ e, (start.run history).point ≠ .ended e) :
    (start.run history).ObeysCancel ↔ (start.run history).point ≠ .backoff :=
  ⟨fun obeys asleep => not_obeysCancel_of_backoff asleep obeys, obeysCancel_of_awake alive⟩

/-- While the task waits for messages. -/
theorem cancellation_messages :
    (start.run [.returned, .returned, .returned]).ObeysCancel ↔
      (start.run [.returned, .returned, .returned]).point ≠ .backoff :=
  cancellation [.returned, .returned, .returned] fun e => by cases e <;> decide

/-! ## A broker that is down -/

/-- The first attempt has failed when the cancel comes. -/
theorem cancel_swallowed :
    ¬ ∀ history : List Reply, .raised .cancelledError ∉ history →
      (∀ e, (start.run history).point ≠ .ended e) → (start.run history).ObeysCancel := by
  intro obeys
  exact not_obeysCancel_of_backoff rfl
    (obeys [.returned, .raised .mqttError] (by decide) fun e => by cases e <;> decide)

/-- `n` attempts that fail, each with its back-off. -/
def brokerDown : Nat → List Reply
  | 0 => []
  | n + 1 => .raised .mqttError :: .returned :: brokerDown n

theorem brokerDown_reconnects (attempts n : Nat) :
    Clean ⟨.client .connect, attempts⟩ (brokerDown n) ∧
      run ⟨.client .connect, attempts⟩ (brokerDown n) = ⟨.client .connect, attempts + n⟩ := by
  induction n generalizing attempts with
  | zero => exact ⟨trivial, rfl⟩
  | succ n ih =>
      have attempt : (step ⟨.client .connect, attempts⟩ (.raised .mqttError)).step .returned =
          ⟨.client .connect, attempts + 1⟩ := rfl
      have asleep : step ⟨.client .connect, attempts⟩ (.raised .mqttError) =
          ⟨.backoff, attempts⟩ := rfl
      obtain ⟨clean, ran⟩ := ih (attempts + 1)
      refine ⟨⟨by simp, by simp, by simp, ?_, ?_⟩, ?_⟩
      · simp [asleep]
      · rw [attempt]
        exact clean
      · rw [brokerDown, run_cons, run_cons, attempt, ran, Nat.add_assoc, Nat.add_comm 1]

/-- **Shutdown hangs.**  Cancelled in its back-off sleep while the broker stays down, the task
goes on for as many attempts as one likes, and gathering it does not return. -/
theorem brokerDown_never_ends {t : Task} (asleep : t.point = .backoff) (n : Nat) :
    t.cancel.Clean (brokerDown n) ∧
      (t.cancel.run (brokerDown n)).attempts = t.attempts + 1 + n ∧
      ¬ gatherReturns [t.cancel.run (brokerDown n)] := by
  obtain ⟨clean, ran⟩ := brokerDown_reconnects (t.attempts + 1) n
  rw [cancel_backoff asleep, ran]
  refine ⟨clean, rfl, fun returns => ?_⟩
  obtain ⟨e, ended⟩ := returns _ List.mem_cons_self
  cases ended

end Task

end FleetTracking.Subscriber
