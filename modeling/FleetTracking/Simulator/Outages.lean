import FleetTracking.Simulator.Contract

/-!
# Broker outages

`run_simulator` as a task: it runs from one `await` to the next, where what it waits for comes
back or raises `MqttError` into it.  `outer`, `inner` and `walk` are the heads of its three
loops; with a broker that answers, a pass of the task is `tick` (`walk_tick`).

The outer loop is there to connect again, but nothing takes the `MqttError` that would lead to
it: the first failure ends the task, so that it survives a run exactly when there is none before
the stop event is set (`simulator_survives_iff`).
-/

namespace FleetTracking.Simulator

open Relational Python Pydantic

/-- What a run is given, and what it draws. -/
structure Setup where
  haversineM : Haversine
  interval : Int
  coerce : Coerce
  printer : Printer
  topicPrefix : String
  start : Nat → Start
  /-- In each pass, for each walker. -/
  draws : Nat → Nat → Draw

/-- Pydantic takes the numbers of a fix for what they are, and reads its timestamp back. -/
structure Setup.ReadsBack (s : Setup) : Prop where
  own : TakesOwn s.coerce
  timestamp : ∀ pass i, s.coerce.datetime (.str (s.printer.isoformat (s.draws pass i).now)) =
    some (s.draws pass i).now.1

/-- What ends the task when it does not return. -/
inductive Raised
  | mqttError
  | run (e : RunError)

/-- Where the task waits. -/
inductive Point
  /-- `Client.__aenter__` -/
  | connect
  /-- `client.publish`, for the `i`-th walker. -/
  | publish (i : Nat) (delivery : Delivery)
  /-- `asyncio.sleep`, or `asyncio.wait_for` and its `TimeoutError` -/
  | pause
  /-- `Client.__aexit__`, with what the body has raised. -/
  | disconnect (pending : Option Raised)
  | ended (result : Except Raised Unit)

inductive Event
  /-- What the task waits for comes back. -/
  | returned
  /-- It raises `MqttError`. -/
  | raised
  /-- `stop.set()` -/
  | setStop
deriving DecidableEq

/-- A run of the simulator, where it waits. -/
structure Task (s : Setup) where
  point : Point
  walkers : List (BusWalker s.haversineM × Int)
  bases : Int → Option ℚ
  /-- The complete passes. -/
  passes : Nat
  published : List Delivery
  /-- Whether the stop event is set, when there is one. -/
  stop : Option Bool

namespace Task

variable {s : Setup}

/-- `while stop is None or not stop.is_set()`, around the client. -/
def outer (t : Task s) : Task s :=
  if t.stop = some true then { t with point := .ended (.ok ()) } else { t with point := .connect }

/-- `for walker, vid in walkers`, from the `i`-th on. -/
def walk (t : Task s) (i : Nat) : Task s :=
  match t.walkers[i]? with
  | none => { t with point := .pause, passes := t.passes + 1 }
  | some (walker, vid) =>
      match drive s.interval t.bases (s.draws t.passes i) walker vid with
      | .error e => { t with point := .disconnect (some (.run e)) }
      | .ok (walker, fix) =>
          let walkers := t.walkers.set i (walker, vid)
          match Simulator.publish s.coerce s.printer s.topicPrefix fix with
          | .error e => { t with walkers, point := .disconnect (some (.run e)) }
          | .ok delivery => { t with walkers, point := .publish i delivery }

/-- `while stop is None or not stop.is_set()`, around a pass. -/
def inner (t : Task s) : Task s :=
  if t.stop = some true then { t with point := .disconnect none } else t.walk 0

/-- What it waits for comes back. -/
def resume (t : Task s) : Task s :=
  match t.point with
  | .connect => t.inner
  | .publish i delivery => { t with published := t.published ++ [delivery] }.walk (i + 1)
  | .pause => t.inner
  | .disconnect none => t.outer
  | .disconnect (some e) => { t with point := .ended (.error e) }
  | .ended _ => t

/-- What it waits for raises `MqttError`, which the client's context manager does not take. -/
def fail (t : Task s) : Task s :=
  match t.point with
  | .connect => { t with point := .ended (.error .mqttError) }
  | .publish _ _ => { t with point := .disconnect (some .mqttError) }
  | .pause => { t with point := .disconnect (some .mqttError) }
  | .disconnect _ => { t with point := .ended (.error .mqttError) }
  | .ended _ => t

def step (t : Task s) : Event → Task s
  | .returned => t.resume
  | .raised => t.fail
  | .setStop => { t with stop := t.stop.map fun _ => true }

def run (t : Task s) (events : List Event) : Task s := events.foldl step t

end Task

/-- `run_simulator`, on what `_load_assignments` gave, up to the first connection attempt. -/
def Setup.begin (s : Setup) (assignments : List Assignment) (stop : Option Bool) : Task s :=
  let t : Task s := ⟨.ended (.ok ()), [], fun _ => none, 0, [], stop⟩
  if assignments.isEmpty then t
  else
    match buildWalkers s.haversineM s.start 0 assignments with
    | .error e => { t with point := .ended (.error (.run e)) }
    | .ok walkers => { t with walkers, bases := drawBases s.start 0 walkers }.outer

namespace Task

variable {s : Setup} {t t' : Task s}

/-! ## What survival is -/

/-- It has not ended before the stop event was set. -/
def Alive (t : Task s) : Prop := ∀ result, t.point = .ended result → t.stop = some true

/-- With a broker that answers again, it gets from `t'` to a connection attempt, with the walkers
where they were in `t`. -/
def Reconnects (t t' : Task s) : Prop :=
  ∃ n, (t'.run (List.replicate n .returned)).point = .connect ∧
    (t'.run (List.replicate n .returned)).walkers = t.walkers

/-- All through the run it is alive, and after each failure before the stop event is set it
connects again. -/
def Survives (t : Task s) : List Event → Prop
  | [] => t.Alive
  | event :: events =>
      t.Alive ∧ (event = .raised → t.stop ≠ some true → t.Reconnects (t.step event)) ∧
        Survives (t.step event) events

/-- No failure comes before the stop event is set. -/
def NoOutage : Option Bool → List Event → Prop
  | _, [] => True
  | stop, .returned :: events => NoOutage stop events
  | stop, .raised :: events => stop = some true ∧ NoOutage stop events
  | stop, .setStop :: events => NoOutage (stop.map fun _ => true) events

/-! ## What one event does -/

/-- It leaves the client, or has left. -/
def Leaving : Point → Prop
  | .disconnect _ => True
  | .ended _ => True
  | _ => False

/-- Its walkers can go on, and so does it until the stop event is set. -/
structure Healthy (t : Task s) : Prop where
  ready : ∀ walker ∈ t.walkers, Ready t.bases walker
  stays : Leaving t.point → t.stop = some true

theorem run_cons (t : Task s) (event : Event) (events : List Event) :
    t.run (event :: events) = (t.step event).run events := rfl

/-- **Step.**  A walker that is ready moves and publishes, and is ready again; after the last
one the pass is over. -/
theorem walk_healthy (readsBack : s.ReadsBack)
    (ready : ∀ walker ∈ t.walkers, Ready t.bases walker) (i : Nat) : (t.walk i).Healthy := by
  unfold walk
  split
  · exact ⟨ready, False.elim⟩
  · next walker vid here =>
      obtain ⟨walkable, ⟨base, drawn, band⟩, vehicleId⟩ := ready _ (List.mem_of_getElem? here)
      obtain ⟨walker', fix, driven, walkable', rfl, publishable, now⟩ :=
        drive_spec s.interval walkable drawn band vehicleId (s.draws t.passes i)
      obtain ⟨_, _, _, published⟩ := publish_ok readsBack.own
        (now ▸ readsBack.timestamp t.passes i) publishable s.topicPrefix
      simp only [driven, published]
      refine ⟨fun other member => ?_, False.elim⟩
      rcases List.mem_or_eq_of_mem_set member with old | rfl
      · exact ready other old
      · exact ⟨walkable', ⟨base, drawn, band⟩, vehicleId⟩

/-- Only `stop.set()` sets the event. -/
theorem walk_stop (t : Task s) (i : Nat) : (t.walk i).stop = t.stop := by
  unfold walk
  split
  · rfl
  · split
    · rfl
    · dsimp only
      split <;> rfl

theorem resume_stop (t : Task s) : t.resume.stop = t.stop := by
  have atInner : t.inner.stop = t.stop := by
    unfold inner
    split
    · rfl
    · exact walk_stop t 0
  unfold resume
  split
  · exact atInner
  · exact walk_stop _ _
  · exact atInner
  · unfold outer
    split <;> rfl
  · rfl
  · rfl

theorem fail_stop (t : Task s) : t.fail.stop = t.stop := by
  unfold fail
  split <;> rfl

/-- At the head of a pass, it begins the pass or leaves. -/
theorem inner_healthy (readsBack : s.ReadsBack)
    (ready : ∀ walker ∈ t.walkers, Ready t.bases walker) : t.inner.Healthy := by
  unfold inner
  split
  · next stopped => exact ⟨ready, fun _ => stopped⟩
  · exact walk_healthy readsBack ready 0

theorem outer_healthy (ready : ∀ walker ∈ t.walkers, Ready t.bases walker) :
    t.outer.Healthy := by
  unfold outer
  split
  · next stopped => exact ⟨ready, fun _ => stopped⟩
  · exact ⟨ready, False.elim⟩

/-- **Step.**  As long as nothing fails before the stop event is set, it goes on. -/
theorem Healthy.step (readsBack : s.ReadsBack) (healthy : t.Healthy)
    {event : Event} (noOutage : event = .raised → t.stop = some true) :
    (t.step event).Healthy := by
  obtain ⟨ready, stays⟩ := healthy
  cases event with
  | returned =>
      change t.resume.Healthy
      unfold resume
      split
      · exact inner_healthy readsBack ready
      · next i delivery _ =>
          exact walk_healthy readsBack (t := { t with published := t.published ++ [delivery] })
            ready (i + 1)
      · exact inner_healthy readsBack ready
      · exact outer_healthy ready
      · next e here => exact ⟨ready, fun _ => stays (here ▸ trivial)⟩
      · next result here => exact ⟨ready, stays⟩
  | raised =>
      have stopped := noOutage rfl
      change t.fail.Healthy
      unfold fail
      split <;> exact ⟨ready, fun _ => stopped⟩
  | setStop =>
      refine ⟨ready, fun leaving => ?_⟩
      change t.stop.map _ = some true
      rw [stays leaving]
      rfl

/-- Once an exception is on its way, the task only ends. -/
def Doomed (t : Task s) : Prop :=
  (∃ e, t.point = .disconnect (some e)) ∨ ∃ result, t.point = .ended result

theorem Doomed.resume (doomed : t.Doomed) : t.resume.Doomed := by
  rcases doomed with ⟨e, here⟩ | ⟨result, here⟩
  · simp only [Task.resume, here]
    exact .inr ⟨_, rfl⟩
  · simp only [Task.resume, here]
    exact .inr ⟨_, here⟩

theorem Doomed.run (doomed : t.Doomed) (n : Nat) :
    (t.run (List.replicate n .returned)).Doomed := by
  induction n generalizing t with
  | zero => exact doomed
  | succ n ih => exact ih doomed.resume

/-- A failure dooms the task, wherever it waits. -/
theorem fail_doomed (t : Task s) : t.fail.Doomed := by
  unfold fail
  split
  · exact .inr ⟨_, rfl⟩
  · exact .inl ⟨_, rfl⟩
  · exact .inl ⟨_, rfl⟩
  · exact .inr ⟨_, rfl⟩
  · next result here => exact .inr ⟨_, here⟩

/-- So it does not connect again. -/
theorem not_reconnects (t : Task s) : ¬ t.Reconnects t.fail := by
  intro reconnects
  obtain ⟨n, connects, _⟩ := reconnects
  rcases (fail_doomed t).run n with ⟨e, here⟩ | ⟨result, here⟩
  · cases connects.symm.trans here
  · cases connects.symm.trans here

/-! ## Runs -/

/-- An outage is a failure now, or one later. -/
theorem noOutage_cons (t : Task s) (event : Event) (events : List Event) :
    NoOutage t.stop (event :: events) ↔
      (event = .raised → t.stop = some true) ∧ NoOutage (t.step event).stop events := by
  cases event with
  | returned =>
      change NoOutage t.stop events ↔ _ ∧ NoOutage t.resume.stop events
      rw [resume_stop]
      exact ⟨fun quiet => ⟨nofun, quiet⟩, And.right⟩
  | raised =>
      change t.stop = some true ∧ NoOutage t.stop events ↔ _ ∧ NoOutage t.fail.stop events
      rw [fail_stop]
      exact ⟨fun quiet => ⟨fun _ => quiet.1, quiet.2⟩, fun quiet => ⟨quiet.1 rfl, quiet.2⟩⟩
  | setStop => exact ⟨fun quiet => ⟨nofun, quiet⟩, And.right⟩

/-- **Run.**  From a healthy state, it survives exactly the runs without an outage. -/
theorem Healthy.survives_iff (readsBack : s.ReadsBack) (healthy : t.Healthy)
    (events : List Event) : t.Survives events ↔ NoOutage t.stop events := by
  have alive {t : Task s} (healthy : t.Healthy) : t.Alive := fun result here =>
    healthy.stays (here ▸ trivial)
  induction events generalizing t with
  | nil => exact ⟨fun _ => trivial, fun _ => alive healthy⟩
  | cons event events ih =>
      rw [noOutage_cons]
      constructor
      · rintro ⟨_, reconnects, rest⟩
        have quiet : event = .raised → t.stop = some true := fun failed =>
          Decidable.byContradiction fun going =>
            not_reconnects t (by subst failed; exact reconnects rfl going)
        exact ⟨quiet, (ih (healthy.step readsBack quiet)).mp rest⟩
      · rintro ⟨quiet, rest⟩
        exact ⟨alive healthy, fun failed going => (going (quiet failed)).elim,
          (ih (healthy.step readsBack quiet)).mpr rest⟩

end Task

/-! ## A broker that answers -/

namespace Task

variable {s : Setup} {t : Task s}

theorem run_append (t : Task s) (first second : List Event) :
    t.run (first ++ second) = (t.run first).run second := List.foldl_append

/-- **A pass** in which every publish comes back is `tick`, from any walker on. -/
theorem walk_tick {visited rest rest' : List (BusWalker s.haversineM × Int)}
    {deliveries : List Delivery} (here : t.walkers = visited ++ rest)
    (ticked : tick s.interval t.bases s.coerce s.printer s.topicPrefix (s.draws t.passes)
      visited.length rest = .ok (rest', deliveries)) :
    (t.walk visited.length).run (List.replicate rest.length .returned) =
      { t with
        point := .pause
        walkers := visited ++ rest'
        passes := t.passes + 1
        published := t.published ++ deliveries } := by
  induction rest generalizing t visited rest' deliveries with
  | nil =>
      cases ticked
      have beyond : t.walkers[visited.length]? = none := by simp [here]
      simp only [walk, beyond, List.length_nil, List.replicate_zero, run, List.foldl_nil,
        List.append_nil, ← here]
  | cons head rest ih =>
      obtain ⟨walker, vid⟩ := head
      rw [tick] at ticked
      split at ticked
      · cases ticked
      next walker' fix driven =>
      split at ticked
      · cases ticked
      next delivery published =>
      obtain ⟨⟨rest', deliveries⟩, later, out⟩ := map_eq_ok.mp ticked
      cases out
      have current : t.walkers[visited.length]? = some (walker, vid) := by simp [here]
      have moved : t.walkers.set visited.length (walker', vid) =
          (visited ++ [(walker', vid)]) ++ rest := by simp [here]
      have walked : t.walk visited.length =
          { t with
            walkers := (visited ++ [(walker', vid)]) ++ rest
            point := .publish visited.length delivery } := by
        simp only [walk, current, driven, published, moved]
      have next : (visited ++ [(walker', vid)]).length = visited.length + 1 := List.length_append
      have tail := ih (t := { t with
        walkers := (visited ++ [(walker', vid)]) ++ rest
        point := .publish visited.length delivery
        published := t.published ++ [delivery] }) rfl (by rw [next]; exact later)
      rw [next] at tail
      rw [walked, List.length_cons, List.replicate_succ, run_cons]
      refine tail.trans ?_
      simp only [List.append_assoc, List.singleton_append]

/-- **Passes.**  With a broker that answers, and until the stop event is set, the passes of the
task publish what those of the loop do. -/
theorem published_runTicks {passes : Nat} {published : List (List Delivery)}
    (waits : t.point = .connect ∨ t.point = .pause) (going : t.stop ≠ some true)
    (ran : runTicks s.interval t.bases s.coerce s.printer s.topicPrefix
      ((List.range' t.passes passes).map s.draws) t.walkers = .ok published) :
    ∃ n, (t.run (List.replicate n .returned)).published = t.published ++ published.flatten := by
  induction passes generalizing t published with
  | zero =>
      cases ran
      exact ⟨0, (List.append_nil _).symm⟩
  | succ passes ih =>
      rw [List.range'_succ, List.map_cons, runTicks] at ran
      split at ran
      · cases ran
      next walkers deliveries ticked =>
      obtain ⟨later, rest, out⟩ := map_eq_ok.mp ran
      cases out
      have begun : t.step .returned = t.walk 0 := by
        rcases waits with here | here
        · simp only [step, resume, here, inner, if_neg going]
        · simp only [step, resume, here, inner, if_neg going]
      have passed := walk_tick (show t.walkers = [] ++ t.walkers from rfl) ticked
      rw [List.length_nil, List.nil_append] at passed
      obtain ⟨n, published⟩ := ih (t := { t with
        point := .pause
        walkers
        passes := t.passes + 1
        published := t.published ++ deliveries }) (.inr rfl) going rest
      refine ⟨t.walkers.length + n + 1, ?_⟩
      rw [List.replicate_succ, run_cons, begun, List.replicate_add, run_append, passed, published,
        List.flatten_cons, List.append_assoc]

end Task

/-- **The task runs the simulator loop.**  What `runSimulator` publishes in some passes, the task
publishes too when the broker answers. -/
theorem Setup.begin_runSimulator (s : Setup) {assignments : List Assignment} {stop : Option Bool}
    (going : stop ≠ some true) {passes : Nat} {published : List (List Delivery)}
    (ran : runSimulator s.haversineM s.interval s.coerce s.printer s.topicPrefix assignments s.start
      ((List.range' 0 passes).map s.draws) = .ok published) :
    ∃ n, ((s.begin assignments stop).run (List.replicate n .returned)).published =
      published.flatten := by
  unfold runSimulator at ran
  unfold Setup.begin
  split at ran
  · next none =>
      cases ran
      exact ⟨0, by rw [if_pos none]; rfl⟩
  · next some =>
      rw [if_neg some]
      split at ran
      · cases ran
      · next walkers built =>
          obtain ⟨n, same⟩ := Task.published_runTicks (s := s) (t := ⟨.connect, walkers,
            drawBases s.start 0 walkers, 0, [], stop⟩) (.inl rfl) going ran
          refine ⟨n, ?_⟩
          simp only [built, Task.outer, if_neg going]
          exact same

/-! ## Outages -/

/-- A run on a list of walkers that are ready starts healthy. -/
theorem Setup.begin_healthy (s : Setup) {assignments : List Assignment}
    (assigned : assignments ≠ []) {walkers : List (BusWalker s.haversineM × Int)}
    (built : buildWalkers s.haversineM s.start 0 assignments = .ok walkers)
    (ready : ∀ walker ∈ walkers, Ready (drawBases s.start 0 walkers) walker)
    (stop : Option Bool) :
    (s.begin assignments stop).Healthy ∧ (s.begin assignments stop).stop = stop := by
  rw [Setup.begin, if_neg (by simpa using assigned), built]
  refine ⟨Task.outer_healthy ready, ?_⟩
  simp only [Task.outer]
  split <;> rfl

/-- **Outages.**  From every database with an assigned vehicle, with or without a stop event:
the simulator survives a run exactly when no `MqttError` is raised before the event is set.
`columns` says that an id column holds 64-bit integers. -/
theorem simulator_survives_iff (settings : Settings) {db : DB}
    (reachable : Reachable postgres settings db)
    (columns : ∀ v ∈ db.vehicles.toTable, postgres.bigint v.id = true)
    (assigned : ∃ u ∈ db.users.toTable, u.vehicleId.isSome = true) (s : Setup)
    (readsBack : s.ReadsBack) :
    ∃ assignments, loadAssignments db = some assignments ∧ assignments ≠ [] ∧
      ∀ (stop : Option Bool) (events : List Event),
        (s.begin assignments stop).Survives events ↔ Task.NoOutage stop events := by
  obtain ⟨assignments, loaded, listed, walkers, built, _, ready⟩ :=
    walkers_ready reachable columns s.haversineM s.start
  have some : assignments ≠ [] := by
    obtain ⟨u, member, holds⟩ := assigned
    obtain ⟨v, holds⟩ := Option.isSome_iff_exists.mp holds
    obtain ⟨a, there, _⟩ := (listed v).mp ⟨u, member, holds⟩
    exact List.ne_nil_of_mem there
  refine ⟨assignments, loaded, some, fun stop events => ?_⟩
  obtain ⟨healthy, stays⟩ := s.begin_healthy some built ready stop
  rw [healthy.survives_iff readsBack, stays]

/-- One bus, every two seconds. -/
def oneBus : Setup where
  haversineM := kilometre
  interval := 2
  coerce := busDecoder.coerce
  printer := busPrinter
  topicPrefix := "fleet"
  start _ := atStart
  draws _ _ := steady

/-- A pass, and then the broker goes away when the simulator has been stopped. -/
theorem simulator_survives_oneBus :
    (oneBus.begin [raviAssignment] (some false)).Survives
      [.returned, .returned, .setStop, .raised] := by
  obtain ⟨assignments, loaded, _, survives⟩ :=
    simulator_survives_iff {} ⟨onlyRavi, rfl⟩ onlyRavi_loaded.2.1 onlyRavi_loaded.2.2 oneBus
      ⟨⟨fun _ => rfl, fun _ => rfl⟩, fun _ _ => rfl⟩
  cases onlyRavi_loaded.1.symm.trans loaded
  exact (survives (some false) _).mpr ⟨rfl, trivial⟩

/-- The broker is down when the simulator starts, and nobody stops it. -/
theorem simulator_dies_in_outage :
    loadAssignments (runOps postgres {} .empty onlyRavi) = some [raviAssignment] ∧
      ¬ ∀ events, (oneBus.begin [raviAssignment] none).Survives events := by
  refine ⟨onlyRavi_loaded.1, fun survives => ?_⟩
  obtain ⟨_, _, alive⟩ := survives [.raised]
  cases alive (.error .mqttError) rfl

end FleetTracking.Simulator
