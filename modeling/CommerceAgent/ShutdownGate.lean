import CommerceAgent.CriticalSections
import Mathlib.Algebra.Order.Ring.Rat

/-! The gate that admits requests, the executor that their handlers feed, and the graceful shutdown
that closes the one and joins the other: what holds in every interleaving. -/
namespace CommerceAgent.Shutdown

open Programs

structure ShutdownGate where
  accepting : Bool := true
  active : ℤ := 0

namespace ShutdownGate

def stopAccepting (gate : ShutdownGate) : ShutdownGate := { gate with accepting := false }

/-- The block of `admission` before its body, with what it yields. -/
def enter (gate : ShutdownGate) : Bool × ShutdownGate :=
  if gate.accepting then (true, { gate with active := gate.active + 1 }) else (false, gate)

/-- The block in the `finally` of `admission`. -/
def leave (gate : ShutdownGate) : ShutdownGate := { gate with active := gate.active - 1 }

/-- The predicate that `wait_for_idle` waits for. -/
def idle (gate : ShutdownGate) : Bool := gate.active = 0

end ShutdownGate

/-- A `ThreadPoolExecutor` with one worker: the jobs it holds, and those it has run. -/
structure RunExecutor (Job : Type) where
  queue : List Job := []
  running : Option Job := none
  finished : List Job := []
  down : Bool := false

inductive Raised (E : Type) where
  | httpException (statusCode : ℕ) (detail : String)
  | runtimeError (message : String)
  | valueError (message : String)
  | other (e : E)

/-- The operations of the gate, of the executor and of the worker. -/
inductive GateOp (Job : Type) : Type → Type
  | enter : GateOp Job Bool
  | leave : GateOp Job Unit
  | increment (name : String) : GateOp Job Unit
  | stopAccepting : GateOp Job Unit
  | stopScheduler : GateOp Job Unit
  | idle : GateOp Job Bool
  | shutdown : GateOp Job Unit
  | join : GateOp Job Unit
  | take : GateOp Job Job
  | finish : GateOp Job Unit

inductive Submit (Job : Type) : Type → Type
  | run (job : Job) : Submit Job Unit

/-- What a handler does: it submits runs, and uses whatever else the application has. -/
inductive HandlerOp (Job : Type) (B : Type → Type) (β : Type) where
  | submit (o : Submit Job β)
  | work (o : B β)

/-- The atomic operations of the application's threads. -/
inductive AppOp (Job : Type) (B : Type → Type) (β : Type) where
  | own (o : GateOp Job β)
  | handler (o : HandlerOp Job B β)

structure AppState (Job W : Type) where
  gate : ShutdownGate := {}
  counters : String → ℕ := fun _ => 0
  executor : RunExecutor Job := {}
  world : W

section Machine

variable {Job W E R : Type} {B : Type → Type}

/-- `executor.submit`. -/
def submitTo (executor : RunExecutor Job) (job : Job) : Except (Raised E) Unit × RunExecutor Job :=
  if executor.down then
    (.error (.runtimeError "cannot schedule new futures after shutdown"), executor)
  else (.ok (), { executor with queue := executor.queue ++ [job] })

/-- How an operation is answered. `take` waits for a job and a free worker, `join` for the end of
all of them; `M` answers what the model knows nothing of. -/
def appStep (M : Machine B (Raised E) W) (s : AppState Job W) :
    {β : Type} → AppOp Job B β → Except (Raised E) β → AppState Job W → Prop
  | _, .own .enter, r, s' => r = .ok s.gate.enter.1 ∧ s' = { s with gate := s.gate.enter.2 }
  | _, .own .leave, r, s' => r = .ok () ∧ s' = { s with gate := s.gate.leave }
  | _, .own (.increment name), r, s' =>
    r = .ok () ∧ s' = { s with counters := Function.update s.counters name (s.counters name + 1) }
  | _, .handler (.submit (.run job)), r, s' =>
    r = (submitTo s.executor job).1 ∧ s' = { s with executor := (submitTo (E := E) s.executor job).2 }
  | _, .handler (.work o), r, s' => M s.world o r s'.world ∧ s' = { s with world := s'.world }
  | _, .own .stopAccepting, r, s' => r = .ok () ∧ s' = { s with gate := s.gate.stopAccepting }
  | _, .own .stopScheduler, r, s' => r = .ok () ∧ s' = s
  | _, .own .idle, r, s' => r = .ok s.gate.idle ∧ s' = s
  | _, .own .shutdown, r, s' => r = .ok () ∧ s' = { s with executor := { s.executor with down := true } }
  | _, .own .join, r, s' => r = .ok () ∧ s' = s ∧ s.executor.queue = [] ∧ s.executor.running = none
  | _, .own .take, r, s' => ∃ job rest, s.executor.queue = job :: rest ∧ s.executor.running = none ∧ r = .ok job ∧
      s' = { s with executor := { s.executor with queue := rest, running := some job } }
  | _, .own .finish, r, s' => ∃ job, s.executor.running = some job ∧ r = .ok () ∧
      s' = { s with executor := { s.executor with
        running := none, finished := s.executor.finished ++ [job] } }

def appMachine (M : Machine B (Raised E) W) : Machine (AppOp Job B) (Raised E) (AppState Job W) :=
  fun s _ o r s' => appStep M s o r s'

/-- `require_admission` around a handler: the dependency ends after the handler has. -/
def requireAdmission (handler : Prog (HandlerOp Job B) (Raised E) R) : Prog (AppOp Job B) (Raised E) R := do
  if ← .perform (.own .enter) then
    Prog.ensure (do
      let _ ← .perform (.own (.increment "requests_admitted"))
      handler.embed .handler) (.perform (.own .leave))
  else .raise (.httpException 503 "service_draining")

/-- `Condition.wait_for`: the predicate, and again after each of the wake-ups before the timeout. -/
def waitFor : ℕ → Prog (AppOp Job B) (Raised E) Bool
  | 0 => .perform (.own .idle)
  | wakeups + 1 => do if ← .perform (.own .idle) then return true else waitFor wakeups

def waitForIdle (timeout : ℚ) (wakeups : ℕ) : Prog (AppOp Job B) (Raised E) Bool :=
  if timeout < 0 then .raise (.valueError "timeout must not be negative") else waitFor wakeups

/-- The shutdown handler of `create_app`; it does not look at what `wait_for_idle` returns. -/
def gracefulShutdown (scheduler : Bool) (wakeups : ℕ) : Prog (AppOp Job B) (Raised E) Unit := do
  let _ ← .perform (.own .stopAccepting)
  if scheduler then
    let _ ← .perform (.own .stopScheduler)
  let _ ← waitForIdle 5 wakeups
  let _ ← .perform (.own .shutdown)
  .perform (.own .join)

/-- One turn of the worker; a job keeps what it raises in its future. -/
def workerTurn : Prog (AppOp Job B) (Raised E) Unit := do
  let _ ← .perform (.own .take)
  .perform (.own .finish)

/-- The requests, the shutdown handler, and the turns of the worker. -/
inductive Party (ι : Type) where
  | request (i : ι)
  | shutdown
  | worker (turn : ℕ)
  deriving DecidableEq

def Party.Result {ι : Type} (R : Type) : Party ι → Type
  | .request _ => R
  | .shutdown => Unit
  | .worker _ => Unit

def parties {ι : Type} (handlers : ι → Prog (HandlerOp Job B) (Raised E) R) (scheduler : Bool)
    (wakeups : ℕ) : (p : Party ι) → Prog (AppOp Job B) (Raised E) (p.Result R)
  | .request i => requireAdmission (handlers i)
  | .shutdown => gracefulShutdown scheduler wakeups
  | .worker _ => workerTurn

end Machine

section Calls

variable {Job E : Type} {B : Type → Type}

/-- A request was let in. -/
def admits : Call (AppOp Job B) (Raised E) → Bool
  | ⟨.own .enter, .ok true⟩ => true
  | _ => false

/-- A request is over. -/
def ends : Call (AppOp Job B) (Raised E) → Bool
  | ⟨.own .leave, _⟩ => true
  | _ => false

/-- A handler did something. -/
def serves : Call (AppOp Job B) (Raised E) → Bool
  | ⟨.handler _, _⟩ => true
  | _ => false

/-- The executor refused a run. -/
def refuses : Call (AppOp Job B) (Raised E) → Bool
  | ⟨.handler (.submit (.run _)), .error _⟩ => true
  | _ => false

/-- The run that the executor accepted. -/
def accepts? : Call (AppOp Job B) (Raised E) → Option Job
  | ⟨.handler (.submit (.run job)), .ok _⟩ => some job
  | _ => none

/-- `stop_accepting` was called. -/
def closes : Call (AppOp Job B) (Raised E) → Bool
  | ⟨.own .stopAccepting, _⟩ => true
  | _ => false

/-- The predicate of `wait_for_idle` held, so that it returned True. -/
def drains : Call (AppOp Job B) (Raised E) → Bool
  | ⟨.own .idle, .ok true⟩ => true
  | _ => false

/-- `executor.shutdown` waited for the last run. -/
def joins : Call (AppOp Job B) (Raised E) → Bool
  | ⟨.own .join, _⟩ => true
  | _ => false

/-- `executor.shutdown` was called. -/
def downs : Call (AppOp Job B) (Raised E) → Bool
  | ⟨.own .shutdown, _⟩ => true
  | _ => false

/-- How far the shutdown handler is. -/
inductive Phase where
  | serving
  | closed
  | down
  deriving DecidableEq

def Phase.after (phase : Phase) : Call (AppOp Job B) (Raised E) → Phase
  | ⟨.own .stopAccepting, _⟩ => .closed
  | ⟨.own .shutdown, _⟩ => .down
  | _ => phase

theorem phase_after (phase : Phase) (c : Call (AppOp Job B) (Raised E)) :
    phase.after c = if closes c then .closed else if downs c then .down else phase := by
  obtain ⟨o, r⟩ := c
  rcases o with o | o
  · cases o <;> rfl
  · rfl

theorem serves_of_refuses {c : Call (AppOp Job B) (Raised E)} (hc : refuses c = true) : serves c = true := by
  obtain ⟨o, r⟩ := c
  rcases o with o | o
  · exact absurd hc (by simp [refuses])
  · rfl

theorem closes_of_downs {c : Call (AppOp Job B) (Raised E)} (hc : downs c = true) : closes c = false := by
  obtain ⟨o, r⟩ := c
  rcases o with o | o
  · cases o <;> first | rfl | exact absurd hc (by simp [downs])
  · rfl

end Calls

section Steps

variable {Job W E : Type} {B : Type → Type} {M : Machine B (Raised E) W} {s s' : AppState Job W}
  {β : Type} {o : AppOp Job B β} {r : Except (Raised E) β}

/-- The runs that the executor was given, in the order in which it takes them. -/
def RunExecutor.jobs (executor : RunExecutor Job) : List Job :=
  executor.finished ++ executor.running.toList ++ executor.queue

/-- What a call does to the gate and to the executor, and what it needed of them. -/
structure StepFacts (s s' : AppState Job W) (c : Call (AppOp Job B) (Raised E)) : Prop where
  active : s'.gate.active = s.gate.active + shift admits ends c
  accepting : s'.gate.accepting = (s.gate.accepting && !closes c)
  down : s'.executor.down = (s.executor.down || downs c)
  jobs : s'.executor.jobs = s.executor.jobs ++ (accepts? c).toList
  admitted : admits c = true → s.gate.accepting = true
  drained : drains c = true → s.gate.active = 0
  refused : refuses c = true → s.executor.down = true
  accepted : (accepts? c).isSome = true → s.executor.down = false
  joined : joins c = true → s.executor.queue = [] ∧ s.executor.running = none
  spent : accepts? c = none → s.executor.queue = [] ∧ s.executor.running = none →
    s'.executor.queue = [] ∧ s'.executor.running = none

theorem own_facts {o : GateOp Job β} (hm : appMachine M s (.own o) r s') :
    StepFacts s s' (⟨.own o, r⟩ : Call (AppOp Job B) (Raised E)) := by
  cases o <;> simp only [appMachine, appStep] at hm
  case enter =>
    obtain ⟨rfl, rfl⟩ := hm
    cases hgate : s.gate.accepting <;> constructor <;>
      simp [ShutdownGate.enter, hgate, shift, admits, ends, closes, downs, accepts?, drains, refuses,
        joins]
  case take =>
    obtain ⟨job, rest, hqueue, hrunning, rfl, rfl⟩ := hm
    constructor <;>
      simp [RunExecutor.jobs, hqueue, hrunning, shift, admits, ends, closes, downs, accepts?, drains,
        refuses, joins]
  case finish =>
    obtain ⟨job, hrunning, rfl, rfl⟩ := hm
    constructor <;>
      simp [RunExecutor.jobs, hrunning, shift, admits, ends, closes, downs, accepts?, drains, refuses,
        joins]
  case join =>
    obtain ⟨rfl, rfl, hqueue, hrunning⟩ := hm
    constructor <;>
      simp [hqueue, hrunning, shift, admits, ends, closes, downs, accepts?, drains, refuses, joins]
  case idle =>
    obtain ⟨rfl, rfl⟩ := hm
    by_cases hidle : s'.gate.active = 0 <;> constructor <;>
      simp [ShutdownGate.idle, hidle, shift, admits, ends, closes, downs, accepts?, drains, refuses,
        joins]
  all_goals
    obtain ⟨rfl, rfl⟩ := hm
    constructor <;>
      simp [ShutdownGate.stopAccepting, ShutdownGate.leave, RunExecutor.jobs, sub_eq_add_neg, shift,
        admits, ends, closes, downs, accepts?, drains, refuses, joins]

theorem submit_facts {job : Job} {r : Except (Raised E) Unit}
    (hm : appMachine M s (.handler (.submit (.run job))) r s') :
    StepFacts s s' (⟨.handler (.submit (.run job)), r⟩ : Call (AppOp Job B) (Raised E)) := by
  obtain ⟨rfl, rfl⟩ := hm
  cases hdown : s.executor.down <;> constructor <;>
    simp [submitTo, hdown, RunExecutor.jobs, shift, admits, ends, closes, downs, accepts?, drains,
      refuses, joins]

theorem work_facts {o : B β} (hm : appMachine M s (.handler (.work o)) r s') :
    StepFacts s s' (⟨.handler (.work o), r⟩ : Call (AppOp Job B) (Raised E)) := by
  obtain ⟨_, hsame⟩ := hm
  have hgate : s'.gate = s.gate := by rw [hsame]
  have hexecutor : s'.executor = s.executor := by rw [hsame]
  constructor <;>
    simp [hgate, hexecutor, shift, admits, ends, closes, downs, accepts?, drains, refuses, joins]

theorem step_facts (hm : appMachine M s o r s') :
    StepFacts s s' (⟨o, r⟩ : Call (AppOp Job B) (Raised E)) := by
  rcases o with o | ⟨⟨job⟩⟩ | o
  · exact own_facts hm
  · exact submit_facts hm
  · exact work_facts hm

end Steps

section Promises

variable {Job E R ι : Type} {B : Type → Type}

/-- A party enters from outside, and leaves and serves from inside. -/
def Serving (b : Bool) {β : Type} (o : AppOp Job B β) : Prop :=
  InTurn (ε := Raised E) admits ends b o ∧
    ∀ r : Except (Raised E) β, serves ⟨o, r⟩ = true → b = true

/-- The shutdown handler, and nobody else, closes the gate, then waits, then shuts the executor down
and joins it. -/
def Closing (p : Party ι) (phase : Phase) {β : Type} (o : AppOp Job B β) : Prop :=
  ∀ r : Except (Raised E) β,
    (closes ⟨o, r⟩ = true → p = .shutdown ∧ phase = .serving) ∧
    (drains ⟨o, r⟩ = true → p = .shutdown ∧ phase = .closed) ∧
    (downs ⟨o, r⟩ = true → p = .shutdown ∧ phase = .closed) ∧
    (joins ⟨o, r⟩ = true → p = .shutdown ∧ phase = .down)

theorem serving_requireAdmission (handler : Prog (HandlerOp Job B) (Raised E) R) :
    Safe (.ghost (inside admits ends)) (fun b {_} o => Serving (E := E) b o) (fun _ _ => True)
      (requireAdmission handler) false := by
  have hleave : ∀ b, b = true → Safe (.ghost (inside admits ends))
      (fun b {_} o => Serving (E := E) b o) (fun _ _ => True)
      (.perform (.own .leave) : Prog (AppOp Job B) (Raised E) Unit) b := by
    intro b hb
    simp [Serving, InTurn, admits, ends, serves, hb]
  have hbody : Safe (.ghost (inside admits ends)) (fun b {_} o => Serving (E := E) b o)
      (fun _ b => b = true) (do
        let _ ← .perform (.own (.increment "requests_admitted"))
        handler.embed .handler) true := by
    have huses : Uses (fun {β} (o : AppOp Job B β) =>
        ∀ r : Except (Raised E) β, admits ⟨o, r⟩ = false ∧ ends ⟨o, r⟩ = false) (do
        let _ ← Prog.perform (.own (.increment "requests_admitted"))
        handler.embed .handler) := by
      refine Uses.bind (.perform ?_) fun _ => Uses.embed ?_ handler
      · simp [admits, ends]
      · simp [admits, ends]
    apply huses.idle
    · intro β o ho
      refine ⟨?_, fun r _ => rfl⟩
      intro r
      simp [ho r]
    · intro β o r ho
      simp [inside, ho r]
  unfold requireAdmission
  rw [safe_bind, safe_perform]
  refine ⟨by simp [Serving, InTurn, ends, serves], ?_⟩
  intro r b hb
  cases r with
  | error e => trivial
  | ok accepted =>
    cases accepted
    · trivial
    · have hin : b = true := hb
      rw [thenSafe_ok, hin]
      exact Safe.ensure hbody hleave

theorem uses_waitForIdle {P : {β : Type} → AppOp Job B β → Prop} (hidle : P (.own .idle)) (timeout : ℚ)
    (wakeups : ℕ) : Uses P (waitForIdle timeout wakeups : Prog (AppOp Job B) (Raised E) Bool) := by
  have hwait : ∀ n, Uses P (waitFor n : Prog (AppOp Job B) (Raised E) Bool) := by
    intro n
    induction n with
    | zero => exact .perform hidle
    | succ n ih =>
      refine Uses.bind (.perform hidle) fun b => ?_
      cases b
      · exact ih
      · exact .pure _
  unfold waitForIdle
  exact .ite (.raise _) (hwait wakeups)

theorem uses_gracefulShutdown {P : {β : Type} → AppOp Job B β → Prop} (hclose : P (.own .stopAccepting))
    (hscheduler : P (.own .stopScheduler)) (hidle : P (.own .idle)) (hdown : P (.own .shutdown))
    (hjoin : P (.own .join)) (scheduler : Bool) (wakeups : ℕ) :
    Uses P (gracefulShutdown scheduler wakeups : Prog (AppOp Job B) (Raised E) Unit) := by
  have hrest : Uses P (do
      let _ ← waitForIdle 5 wakeups
      let _ ← Prog.perform (.own .shutdown)
      .perform (.own .join) : Prog (AppOp Job B) (Raised E) Unit) :=
    Uses.bind (uses_waitForIdle hidle 5 wakeups) fun _ => Uses.bind (.perform hdown) fun _ => .perform hjoin
  refine Uses.bind (.perform hclose) fun _ => ?_
  cases scheduler
  · exact hrest
  · exact Uses.bind (.perform hscheduler) fun _ => hrest

/-- What every party keeps to about the gate. -/
theorem serving_parties (handlers : ι → Prog (HandlerOp Job B) (Raised E) R) (scheduler : Bool)
    (wakeups : ℕ) (p : Party ι) :
    Safe (.ghost (inside admits ends)) (fun b {_} o => Serving (E := E) b o) (fun _ _ => True)
      (parties handlers scheduler wakeups p) false := by
  have hidle : ∀ {α : Type} (q : Prog (AppOp Job B) (Raised E) α), Uses (fun {β} (o : AppOp Job B β) =>
      ∀ r : Except (Raised E) β, admits ⟨o, r⟩ = false ∧ ends ⟨o, r⟩ = false ∧ serves ⟨o, r⟩ = false) q →
      Safe (.ghost (inside admits ends)) (fun b {_} o => Serving (E := E) b o) (fun _ _ => True) q
        false := by
    intro α q hq
    refine Safe.post (hq.idle ?_ ?_) fun _ _ _ => trivial
    · intro β o ho
      refine ⟨?_, ?_⟩ <;> intro r <;> simp [ho r]
    · intro β o r ho
      simp [inside, ho r]
  cases p with
  | request i => exact serving_requireAdmission (handlers i)
  | shutdown =>
    apply hidle
    apply uses_gracefulShutdown <;> simp [admits, ends, serves]
  | worker turn =>
    apply hidle
    refine Uses.bind (.perform ?_) fun _ => .perform ?_ <;> simp [admits, ends, serves]

/-- The shutdown handler closes the gate, then waits, then shuts the executor down and joins it. -/
theorem closing_gracefulShutdown (scheduler : Bool) (wakeups : ℕ) :
    Safe (.ghost Phase.after) (fun phase {_} o => Closing (E := E) (.shutdown : Party ι) phase o)
      (fun _ _ => True) (gracefulShutdown scheduler wakeups : Prog (AppOp Job B) (Raised E) Unit)
      .serving := by
  have hjoin : Safe (.ghost Phase.after) (fun phase {_} o => Closing (E := E) (.shutdown : Party ι) phase o)
      (fun _ _ => True) (.perform (.own .join) : Prog (AppOp Job B) (Raised E) Unit) .down := by
    simp [Closing, closes, drains, downs]
  have hrest : Safe (.ghost Phase.after) (fun phase {_} o => Closing (E := E) (.shutdown : Party ι) phase o)
      (fun _ _ => True) (do
        let _ ← waitForIdle 5 wakeups
        let _ ← Prog.perform (.own .shutdown)
        .perform (.own .join) : Prog (AppOp Job B) (Raised E) Unit) .closed := by
    have hwait : Uses (fun {β} (o : AppOp Job B β) => ∀ r : Except (Raised E) β,
        closes ⟨o, r⟩ = false ∧ downs ⟨o, r⟩ = false ∧ joins ⟨o, r⟩ = false)
        (waitForIdle 5 wakeups : Prog (AppOp Job B) (Raised E) Bool) :=
      uses_waitForIdle (by simp [closes, downs, joins]) 5 wakeups
    rw [safe_bind]
    refine (hwait.idle ?_ ?_).post ?_
    · intro β o ho r
      simp [ho r]
    · intro β o r ho
      simp [phase_after, ho r]
    · intro r phase hphase
      cases r with
      | error e => trivial
      | ok _ =>
        rw [thenSafe_ok, hphase, safe_bind, safe_perform]
        refine ⟨by simp [Closing, closes, drains, joins], ?_⟩
        intro r phase hphase
        cases r with
        | error e => trivial
        | ok _ =>
          have hdown : phase = .down := hphase
          rw [thenSafe_ok, hdown]
          exact hjoin
  unfold gracefulShutdown
  rw [safe_bind, safe_perform]
  refine ⟨by simp [Closing, closes, drains, downs, joins], ?_⟩
  intro r phase hphase
  cases r with
  | error e => trivial
  | ok _ =>
    have hclosed : phase = .closed := hphase
    rw [thenSafe_ok, hclosed]
    cases scheduler
    · exact hrest
    · refine (safe_bind _ _ _).mpr ((safe_perform _ _).mpr ⟨by simp [Closing, closes, drains, downs, joins], ?_⟩)
      intro r phase hphase
      cases r with
      | error e => trivial
      | ok _ =>
        have hclosed : phase = .closed := hphase
        rw [thenSafe_ok, hclosed]
        exact hrest

/-- What every party keeps to about the shutdown. -/
theorem closing_parties (handlers : ι → Prog (HandlerOp Job B) (Raised E) R) (scheduler : Bool)
    (wakeups : ℕ) (p : Party ι) :
    Safe (.ghost Phase.after) (fun phase {_} o => Closing (E := E) p phase o) (fun _ _ => True)
      (parties handlers scheduler wakeups p) .serving := by
  have hidle : ∀ {α : Type} (q : Prog (AppOp Job B) (Raised E) α), Uses (fun {β} (o : AppOp Job B β) =>
      ∀ r : Except (Raised E) β, closes ⟨o, r⟩ = false ∧ drains ⟨o, r⟩ = false ∧ downs ⟨o, r⟩ = false ∧
        joins ⟨o, r⟩ = false) q →
      Safe (.ghost Phase.after) (fun phase {_} o => Closing (E := E) p phase o) (fun _ _ => True) q
        .serving := by
    intro α q hq
    refine Safe.post (hq.idle ?_ ?_) fun _ _ _ => trivial
    · intro β o ho r
      simp [ho r]
    · intro β o r ho
      simp [phase_after, ho r]
  cases p with
  | request i =>
    apply hidle
    change Uses _ (requireAdmission (handlers i))
    unfold requireAdmission
    refine Uses.bind (.perform (by simp [closes, drains, downs, joins])) fun accepted => ?_
    cases accepted
    · exact .raise _
    · refine Uses.ensure (Uses.bind (.perform ?_) fun _ => Uses.embed ?_ _) (.perform ?_) <;>
        simp [closes, drains, downs, joins]
  | shutdown => exact closing_gracefulShutdown scheduler wakeups
  | worker turn =>
    apply hidle
    refine Uses.bind (.perform ?_) fun _ => .perform ?_ <;> simp [closes, drains, downs, joins]

end Promises

section Runs

variable {Job W E R ι : Type} {B : Type → Type} [DecidableEq ι] {M : Machine B (Raised E) W}
  {handlers : ι → Prog (HandlerOp Job B) (Raised E) R} {scheduler : Bool} {wakeups : ℕ} {w : W}
  {h : History (Party ι) (AppOp Job B) (Raised E) (AppState Job W)}
  {ps : (p : Party ι) → Prog (AppOp Job B) (Raised E) (p.Result R)} {s : AppState Job W}

/-- What holds of the gate and the executor after a history. -/
structure Orderly (h : History (Party ι) (AppOp Job B) (Raised E) (AppState Job W))
    (s : AppState Job W) : Prop where
  closed : Occurs closes h ∨ view Phase.after .serving .shutdown h ≠ .serving →
    s.gate.accepting = false
  down : s.executor.down = true ↔ view Phase.after .serving .shutdown h = .down
  refused : Occurs refuses h → s.executor.down = true
  drained : Occurs drains h → s.gate.active = 0 ∧ s.gate.accepting = false ∧ ¬ Occurs refuses h
  joined : Occurs joins h → s.executor.down = true ∧ s.executor.queue = [] ∧ s.executor.running = none
  admission : NeverAfter closes admits h
  service : NeverAfter drains serves h

theorem run_active (run : Run (appMachine M) (parties handlers scheduler wakeups) { world := w } h ps s) :
    s.gate.active = (members admits ends h).card := by
  refine run.card_members (Q := fun _ _ _ => True) (fun s => s.gate.active) (fun p => ?_) rfl
    fun s _ o r s' hm => (step_facts hm).active
  exact (serving_parties handlers scheduler wakeups p).mono (fun _ _ _ hg => hg.1) fun _ _ h => h

theorem run_orderly (run : Run (appMachine M) (parties handlers scheduler wakeups) { world := w } h ps s) :
    Orderly h s := by
  induction run with
  | start => constructor <;> simp
  | @step h ps s s' p β o k r run hp hm ih =>
    have hfacts := step_facts hm
    have hcount := run_active run
    have hserving := run.local_safe (serving_parties handlers scheduler wakeups p)
    have hclosing := run.local_safe (closing_parties handlers scheduler wakeups p)
    rw [hp] at hserving hclosing
    have hinside : view (inside admits ends) false p h = true → 0 < s.gate.active := by
      intro hc
      rw [hcount]
      exact_mod_cast Finset.card_pos.mpr ⟨p, mem_members.mpr hc⟩
    have hserve : serves ⟨o, r⟩ = true → 0 < s.gate.active := fun hc => hinside (hserving.1.2 r hc)
    obtain ⟨hclose, hdrain, hdowns, hjoin⟩ := hclosing.1 r
    have hview : view Phase.after .serving .shutdown (h ++ [(p, ⟨⟨o, r⟩, s, s'⟩)]) =
        (view Phase.after .serving .shutdown h).after ⟨o, r⟩ := by
      by_cases hp : p = .shutdown
      · rw [hp, view_snoc_self]
      · -- the others neither close the gate nor shut the executor down
        rw [view_snoc_other _ _ hp, phase_after, if_neg fun hc => hp (hclose hc).1,
          if_neg fun hc => hp (hdowns hc).1]
    rw [phase_after] at hview
    have hclosePhase : closes ⟨o, r⟩ = true → view Phase.after .serving .shutdown h = .serving := by
      intro hc
      obtain ⟨rfl, hphase⟩ := hclose hc
      exact hphase
    have hdownPhase : downs ⟨o, r⟩ = true → view Phase.after .serving .shutdown h = .closed := by
      intro hc
      obtain ⟨rfl, hphase⟩ := hdowns hc
      exact hphase
    have hdrainPhase : drains ⟨o, r⟩ = true → view Phase.after .serving .shutdown h = .closed := by
      intro hc
      obtain ⟨rfl, hphase⟩ := hdrain hc
      exact hphase
    have hjoinPhase : joins ⟨o, r⟩ = true → view Phase.after .serving .shutdown h = .down := by
      intro hc
      obtain ⟨rfl, hphase⟩ := hjoin hc
      exact hphase
    constructor
    case closed =>
      rw [occurs_snoc, hview, hfacts.accepting]
      by_cases hc : closes ⟨o, r⟩ = true
      · simp [hc]
      · simp only [hc, or_false, Bool.not_false, Bool.and_true, Bool.false_eq_true, if_false]
        intro hbefore
        apply ih.closed
        rcases hbefore with hbefore | hbefore
        · exact Or.inl hbefore
        · refine Or.inr ?_
          by_cases hd : downs ⟨o, r⟩ = true
          · rw [hdownPhase hd]
            decide
          · simpa [hd] using hbefore
    case down =>
      rw [hview, hfacts.down]
      by_cases hc : closes ⟨o, r⟩ = true
      · have hnot : s.executor.down = false := by
          rw [← Bool.not_eq_true, ih.down, hclosePhase hc]
          decide
        have hnd : downs ⟨o, r⟩ = false := by
          rw [← Bool.not_eq_true]
          intro hd
          exact absurd (closes_of_downs hd) (by simp [hc])
        simp [hc, hnot, hnd]
      · by_cases hd : downs ⟨o, r⟩ = true
        · simp [hc, hd]
        · simpa [hc, hd] using ih.down
    case refused =>
      rw [occurs_snoc, hfacts.down]
      intro hr
      have hbefore : s.executor.down = true := hr.elim ih.refused hfacts.refused
      rw [hbefore, Bool.true_or]
    case drained =>
      rw [occurs_snoc, occurs_snoc]
      intro hd
      have hbefore : s.gate.active = 0 ∧ s.gate.accepting = false ∧ ¬ Occurs refuses h := by
        rcases hd with hd | hd
        · exact ih.drained hd
        · have hphase := hdrainPhase hd
          refine ⟨hfacts.drained hd, ih.closed (Or.inr (by rw [hphase]; decide)), ?_⟩
          intro hr
          have hdown := ih.down.mp (ih.refused hr)
          rw [hphase] at hdown
          cases hdown
      obtain ⟨hactive, haccepting, hrefused⟩ := hbefore
      have hadmit : admits ⟨o, r⟩ = false := by
        rw [← Bool.not_eq_true]
        intro ha
        have hopen := hfacts.admitted ha
        rw [haccepting] at hopen
        exact Bool.noConfusion hopen
      have hend : ends ⟨o, r⟩ = false := by
        rw [← Bool.not_eq_true]
        intro he
        have hpos := hinside (hserving.1.1 r |>.2 he)
        rw [hactive] at hpos
        exact lt_irrefl 0 hpos
      refine ⟨?_, ?_, ?_⟩
      · rw [hfacts.active, hactive]
        simp [shift, hadmit, hend]
      · rw [hfacts.accepting, haccepting, Bool.false_and]
      · rintro (hr | hr)
        · exact hrefused hr
        · have hpos := hserve (serves_of_refuses hr)
          rw [hactive] at hpos
          exact lt_irrefl 0 hpos
    case joined =>
      rw [occurs_snoc, hfacts.down]
      intro hj
      have hbefore : s.executor.down = true ∧ s.executor.queue = [] ∧ s.executor.running = none := by
        rcases hj with hj | hj
        · exact ih.joined hj
        · exact ⟨ih.down.mpr (hjoinPhase hj), hfacts.joined hj⟩
      have hnone : accepts? ⟨o, r⟩ = none := by
        by_contra hsome
        have hup := hfacts.accepted (Option.isSome_iff_ne_none.mpr hsome)
        rw [hbefore.1] at hup
        exact Bool.noConfusion hup
      exact ⟨by rw [hbefore.1, Bool.true_or], hfacts.spent hnone hbefore.2⟩
    case admission =>
      rw [neverAfter_snoc]
      refine ⟨ih.admission, ?_⟩
      intro hc
      rw [← Bool.not_eq_true]
      intro ha
      have hopen := hfacts.admitted ha
      rw [ih.closed (Or.inl hc)] at hopen
      exact Bool.noConfusion hopen
    case service =>
      rw [neverAfter_snoc]
      refine ⟨ih.service, ?_⟩
      intro hd
      rw [← Bool.not_eq_true]
      intro hs
      have hpos := hserve hs
      rw [(ih.drained hd).1] at hpos
      exact lt_irrefl 0 hpos

/-- The runs that the executor accepted, in order. -/
def accepted (h : History (Party ι) (AppOp Job B) (Raised E) (AppState Job W)) : List Job :=
  h.filterMap fun e => accepts? e.2.toCall

theorem run_jobs (run : Run (appMachine M) (parties handlers scheduler wakeups) { world := w } h ps s) :
    s.executor.jobs = accepted h := by
  induction run with
  | start => rfl
  | @step h ps s s' p β o k r run hp hm ih =>
    rw [(step_facts hm).jobs, ih, accepted, accepted, List.filterMap_append]
    cases hjob : accepts? (⟨o, r⟩ : Call (AppOp Job B) (Raised E)) <;> simp [hjob]

/-- Nothing but the runs. -/
def noWork : Machine (fun _ => Empty) (Raised Empty) Unit := fun _ _ _ _ _ => False

def oneRequest : (p : Party Unit) → Prog (AppOp String fun _ => Empty) (Raised Empty) (p.Result Unit) :=
  parties (fun _ => Prog.perform (.submit (.run "run-1"))) false 0

/-- A request that submits a run, the shutdown, and the worker's turn before it joins. -/
theorem oneRequest_run : ∃ h ps s, Run (appMachine noWork) oneRequest { world := () } h ps s ∧
    Occurs drains h ∧ Occurs joins h ∧ accepted h = ["run-1"] := by
  have fresh : Run (appMachine noWork) oneRequest { world := () } [] oneRequest { world := () } := .start
  have entered := fresh.step (i := .request ()) (o := AppOp.own GateOp.enter) (r := .ok true) rfl ⟨rfl, rfl⟩
  have counted := entered.step (i := .request ()) (o := AppOp.own (GateOp.increment "requests_admitted"))
    (r := .ok ()) rfl ⟨rfl, rfl⟩
  have submitted := counted.step (i := .request ()) (o := AppOp.handler (HandlerOp.submit (Submit.run "run-1")))
    (r := .ok ()) rfl ⟨rfl, rfl⟩
  have ended := submitted.step (i := .request ()) (o := AppOp.own GateOp.leave) (r := .ok ()) rfl ⟨rfl, rfl⟩
  have closed := ended.step (i := .shutdown) (o := AppOp.own GateOp.stopAccepting) (r := .ok ()) rfl ⟨rfl, rfl⟩
  have drained := closed.step (i := .shutdown) (o := AppOp.own GateOp.idle) (r := .ok true) rfl ⟨rfl, rfl⟩
  have down := drained.step (i := .shutdown) (o := AppOp.own GateOp.shutdown) (r := .ok ()) rfl ⟨rfl, rfl⟩
  have taken := down.step (i := .worker 0) (o := AppOp.own GateOp.take) (r := .ok "run-1") rfl
    ⟨"run-1", [], rfl, rfl, rfl, rfl⟩
  have finished := taken.step (i := .worker 0) (o := AppOp.own GateOp.finish) (r := .ok ()) rfl
    ⟨"run-1", rfl, rfl, rfl⟩
  have joined := finished.step (i := .shutdown) (o := AppOp.own GateOp.join) (r := .ok ()) rfl
    ⟨rfl, rfl, rfl, rfl⟩
  refine ⟨_, _, _, joined, ?_, ?_, rfl⟩
  · simp [Occurs, drains]
  · simp [Occurs, joins]

/-- In every interleaving of the requests, the shutdown and the worker, the gate counts the requests
inside; none is let in after it closed. Once `wait_for_idle` returned True no handler does anything
more, and the executor has refused none of their runs. -/
theorem shutdown_safe
    (run : Run (appMachine M) (parties handlers scheduler wakeups) { world := w } h ps s) :
    s.gate.active = (members admits ends h).card ∧ NeverAfter closes admits h ∧
      NeverAfter drains serves h ∧ (Occurs drains h → ¬ Occurs refuses h) := by
  have horderly := run_orderly run
  exact ⟨run_active run, horderly.admission, horderly.service, fun hd => (horderly.drained hd).2.2⟩

theorem shutdown_safe_of_oneRequest : ∃ h ps s,
    Run (appMachine noWork) oneRequest { world := () } h ps s ∧ Occurs drains h ∧ ¬ Occurs refuses h := by
  obtain ⟨h, ps, s, run, hdrain, _⟩ := oneRequest_run
  exact ⟨h, ps, s, run, hdrain, (shutdown_safe run).2.2.2 hdrain⟩

/-- The worker runs the accepted runs in their order and each once; when `executor.shutdown` returned
all of them were run, also when `wait_for_idle` gave up. -/
theorem accepted_runs_finish
    (run : Run (appMachine M) (parties handlers scheduler wakeups) { world := w } h ps s) :
    s.executor.finished <+: accepted h ∧ (Occurs joins h → s.executor.finished = accepted h) := by
  rw [← run_jobs run]
  constructor
  · rw [RunExecutor.jobs, List.append_assoc]
    exact List.prefix_append _ _
  · intro hj
    obtain ⟨_, hqueue, hrunning⟩ := (run_orderly run).joined hj
    simp [RunExecutor.jobs, hqueue, hrunning]

theorem accepted_runs_finish_of_oneRequest : ∃ h ps s,
    Run (appMachine noWork) oneRequest { world := () } h ps s ∧ s.executor.finished = ["run-1"] := by
  obtain ⟨h, ps, s, run, _, hjoin, hjobs⟩ := oneRequest_run
  exact ⟨h, ps, s, run, ((accepted_runs_finish run).2 hjoin).trans hjobs⟩

end Runs

end CommerceAgent.Shutdown
