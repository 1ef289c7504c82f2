import CommerceAgent.Interleaving
import CommerceAgent.Json

/-! The idempotency boundary of the control plane. The calls are those for one tenant, operation
and key, whose records the unique constraint of the table leaves at most one of; every statement
is a step of its own, between which the other workers go on. -/
namespace CommerceAgent.ControlPlane

open Json Programs

variable {κ : Type}

structure Slot where
  tenantId : String
  operation : String
  idempotencyKey : String

inductive Status where
  | reserved
  | inProgress
  | completed
  deriving DecidableEq, Repr

structure Record where
  recordId : String
  requestFingerprint : String
  status : Status
  response : Option Dict := none

structure Claim where
  recordId : String
  acquired : Bool
  response : Option Dict := none

inductive Failure where
  | valueError (message : String)
  | conflict
  | inProgress
  | runtimeError (message : String)
  | noResult
  | database
  deriving DecidableEq, Repr

/-- The statements, with the connection that they are executed on. -/
inductive Stmt (κ : Type) : Type → Type
  | uuid4 : Stmt κ String
  | insertReserved (c : κ) (recordId fingerprint : String) : Stmt κ Unit
  | selectRecord (c : κ) : Stmt κ (Option Record)
  | takeReserved (c : κ) (recordId : String) : Stmt κ (Option String)
  | completeInProgress (c : κ) (recordId : String) (response : Dict) : Stmt κ ℕ
  | deleteInProgress (c : κ) (recordId : String) : Stmt κ Unit
  | commit (c : κ) : Stmt κ Unit
  | rollback (c : κ) : Stmt κ Unit

abbrev Act (κ α : Type) : Type 1 := Prog (Stmt κ) Failure α

/-- `with engine.begin()`. -/
def transaction {α : Type} (c : κ) (body : Act κ α) : Act κ α := do
  let a ← body.handle fun e => do
    Prog.perform (.rollback c)
    .raise e
  Prog.perform (.commit c)
  pure a

def claim (slot : Slot) (c : κ) (fingerprint : String) : Act κ Claim :=
  if ¬ (8 ≤ slot.idempotencyKey.length ∧ slot.idempotencyKey.length ≤ 128) then
    .raise (.valueError "invalid_idempotency_key")
  else if ¬ (1 ≤ slot.operation.length ∧ slot.operation.length ≤ 80) ∨ fingerprint = "" then
    .raise (.valueError "invalid_idempotency_request")
  else transaction c do
    let recordId ← Prog.perform .uuid4
    Prog.perform (.insertReserved c recordId fingerprint)
    let row ← Prog.perform (.selectRecord c)
    match row with
    | none => .raise .noResult
    | some row =>
      if row.requestFingerprint ≠ fingerprint then .raise .conflict
      else if row.status = .completed then
        match row.response with
        | none => .raise (.runtimeError "completed_idempotency_response_invalid")
        | some response => pure ⟨row.recordId, false, some response⟩
      else if row.status ≠ .reserved then .raise .inProgress
      else do
        let claimed ← Prog.perform (.takeReserved c row.recordId)
        match claimed with
        | none => .raise .inProgress
        | some recordId => pure ⟨recordId, true, none⟩

def complete (c : κ) (recordId : String) (response : Dict) : Act κ Unit := do
  let changed ← transaction c (Prog.perform (.completeInProgress c recordId response))
  if changed ≠ 1 then .raise (.runtimeError "idempotency_completion_failed") else pure ()

def abandon (c : κ) (recordId : String) : Act κ Unit :=
  transaction c (Prog.perform (.deleteInProgress c recordId))

/-- What a committed transaction has done to a claim. -/
inductive Effect where
  | acquire (recordId fingerprint : String)
  | complete (recordId : String) (response : Dict)
  | abandon (recordId : String)

/-- The record as its transactions have left it, the one change that may be uncommitted, the
effects that were committed and by whom, and the identifiers that were drawn. -/
structure Shared (κ : Type) where
  row : Option Record := none
  pending : Option (κ × Option Record × Option Effect) := none
  log : List (κ × Effect) := []
  drawn : List String := []

/-- A claim that was acquired, as long as its worker has neither completed nor abandoned it. -/
def Shared.Holds (s : Shared κ) (c : κ) (recordId : String) : Prop :=
  (∃ fingerprint, (c, .acquire recordId fingerprint) ∈ s.log) ∧
    (∀ response, (c, .complete recordId response) ∉ s.log) ∧ (c, .abandon recordId) ∉ s.log

section Database

variable [DecidableEq κ]

/-- A change is seen by its own transaction only, until it is committed. -/
def Shared.visible (s : Shared κ) (c : κ) : Option Record :=
  match s.pending with
  | some (c', row, _) => if c' = c then row else s.row
  | none => s.row

/-- The uncommitted change of another transaction makes a statement on the record wait. -/
def Shared.free (s : Shared κ) (c : κ) : Bool := s.pending.all fun change => change.1 = c

def Shared.dropped (s : Shared κ) (c : κ) : Shared κ :=
  if s.pending.any fun change => change.1 = c then { s with pending := none } else s

def Shared.changed (s : Shared κ) (c : κ) (row : Option Record) (effect : Option Effect) : Shared κ where
  row := row
  log := s.log ++ effect.toList.map (c, ·)
  drawn := s.drawn

def Shared.committed (s : Shared κ) (c : κ) : Shared κ :=
  match s.pending with
  | some (c', row, effect) => if c' = c then s.changed c row effect else s
  | none => s

/-- What is open when a statement is executed: whether it fails, whether a commit whose answer is
lost took effect, and the identifier that is drawn. -/
structure Choice where
  fault : Bool
  durable : Bool
  uuid : String

/-- `UPDATE` and `DELETE` of the record with this identifier and status. -/
def Shared.change (s : Shared κ) (c : κ) (recordId : String) (status : Status)
    (after : Record → Option Record) (effect : Record → Effect) : Option (Option Record × Shared κ) :=
  match s.visible c with
  | some row =>
    if row.recordId = recordId ∧ row.status = status then
      if s.free c then some (row, { s with pending := some (c, after row, some (effect row)) })
      else none
    else some (none, s)
  | none => some (none, s)

/-- The answer to a statement that does not fail; `none` while it has to wait. -/
def Shared.execute (s : Shared κ) (uuid : String) : {α : Type} → Stmt κ α → Option (α × Shared κ)
  | _, .uuid4 => some (uuid, { s with drawn := uuid :: s.drawn })
  | _, .insertReserved c recordId fingerprint =>
    if s.free c then
      if s.visible c = none then
        some ((), { s with pending := some (c, some ⟨recordId, fingerprint, .reserved, none⟩, none) })
      else some ((), s)
    else none
  | _, .selectRecord c => some (s.visible c, s)
  | _, .takeReserved c recordId =>
    (s.change c recordId .reserved (fun row => some { row with status := .inProgress })
      fun row => .acquire row.recordId row.requestFingerprint).map fun x =>
        (x.1.map Record.recordId, x.2)
  | _, .completeInProgress c recordId response =>
    (s.change c recordId .inProgress
      (fun row => some { row with status := .completed, response := some response })
      fun row => .complete row.recordId response).map fun x => (x.1.toList.length, x.2)
  | _, .deleteInProgress c recordId =>
    (s.change c recordId .inProgress (fun _ => none) fun row => .abandon row.recordId).map
      fun x => ((), x.2)
  | _, .commit c => some ((), s.committed c)
  | _, .rollback c => some ((), s.dropped c)

def Stmt.connection? : {α : Type} → Stmt κ α → Option κ
  | _, .uuid4 => none
  | _, .insertReserved c _ _ => some c
  | _, .selectRecord c => some c
  | _, .takeReserved c _ => some c
  | _, .completeInProgress c _ _ => some c
  | _, .deleteInProgress c _ => some c
  | _, .commit c => some c
  | _, .rollback c => some c

/-- A statement that fails ends its transaction: the change is rolled back, but for a commit whose
answer is lost. A worker that crashed gets no further answer. -/
def Shared.failed (s : Shared κ) (durable : Bool) : {α : Type} → Stmt κ α → Shared κ
  | _, .commit c => if durable then s.committed c else s.dropped c
  | _, o => o.connection?.elim s s.dropped

def answer (choice : Choice) (s : Shared κ) {α : Type} (o : Stmt κ α) :
    Except Failure α × Shared κ :=
  if choice.fault then (.error .database, s.failed choice.durable o)
  else match s.execute choice.uuid o with
    | some (a, s') => (.ok a, s')
    | none => (.error .database, s.failed choice.durable o)

/-- The database; `uuid4` never draws an identifier twice. -/
def database : Machine (Stmt κ) Failure (Shared κ) := fun s _ o r s' =>
  (∃ choice, answer choice s o = (r, s')) ∧
    ∀ recordId, s'.drawn = recordId :: s.drawn → recordId ∉ s.drawn

end Database

/-- What a worker does: call after call, each chosen from what the earlier ones answered. -/
inductive Script where
  | done
  | claim (fingerprint : String) (next : Except Failure Claim → Script)
  | complete (recordId : String) (response : Dict) (next : Except Failure Unit → Script)
  | abandon (recordId : String) (next : Except Failure Unit → Script)

/-- A worker completes and abandons records that one of its own claims has named. -/
def Script.Honest : List String → Script → Prop
  | _, .done => True
  | known, .claim _ next =>
    (∀ e, (next (.error e)).Honest known) ∧ ∀ a, (next (.ok a)).Honest (a.recordId :: known)
  | known, .complete recordId _ next => recordId ∈ known ∧ ∀ r, (next r).Honest known
  | known, .abandon recordId next => recordId ∈ known ∧ ∀ r, (next r).Honest known

/-- The calls of a worker, with the fingerprints and the results of its claims. -/
def Script.program (slot : Slot) (c : κ) : Script → Act κ (List (String × Except Failure Claim))
  | .done => pure []
  | .claim fingerprint next => do
    let r ← (ControlPlane.claim slot c fingerprint).attempt
    let results ← (next r).program slot c
    pure ((fingerprint, r) :: results)
  | .complete recordId response next => do
    let r ← (ControlPlane.complete c recordId response).attempt
    (next r).program slot c
  | .abandon recordId next => do
    let r ← (ControlPlane.abandon c recordId).attempt
    (next r).program slot c

section Worker

/-- What a worker knows from its own statements: the identifier it has drawn for an insertion,
whether its transaction may have changed the record, the record that the transaction will name
once it is committed, and the records that earlier ones have named. -/
structure View where
  fresh : Option String := none
  changing : Bool := false
  tentative : Option String := none
  known : List String := []

/-- The view after a transaction has ended without a result. -/
def View.ended (g : View) : View := { g with changing := false, tentative := none }

def View.named (g : View) : View where
  fresh := g.fresh
  known := g.tentative.toList ++ g.known

def View.after (g : View) : {α : Type} → Stmt κ α → Except Failure α → View
  | _, _, .error _ => g.ended
  | _, .uuid4, .ok recordId => { g with fresh := some recordId }
  | _, .insertReserved _ _ _, .ok _ => { g with fresh := none, changing := true }
  | _, .selectRecord _, .ok row =>
    { g with tentative := (row.filter fun x => x.status = .completed).map Record.recordId }
  | _, .takeReserved _ _, .ok claimed => { g with changing := true, tentative := claimed }
  | _, .completeInProgress _ _ _, .ok _ => { g with changing := true }
  | _, .deleteInProgress _ _, .ok _ => { g with changing := true }
  | _, .commit _, .ok _ => g.named
  | _, .rollback _, .ok _ => g.ended

def track (g : View) (c : Call (Stmt κ) Failure) : View := g.after c.op c.answer

/-- What the program of a worker with connection `i` promises about each of its statements. -/
def Promise (i : κ) (g : View) : {α : Type} → Stmt κ α → Prop
  | _, .uuid4 => g.changing = false
  | _, .insertReserved c recordId _ => c = i ∧ g.fresh = some recordId ∧ g.changing = false
  | _, .selectRecord c => c = i
  | _, .takeReserved c _ => c = i
  | _, .completeInProgress c recordId _ => c = i ∧ recordId ∈ g.known ∧ g.changing = false
  | _, .deleteInProgress c recordId => c = i ∧ recordId ∈ g.known ∧ g.changing = false
  | _, .commit c => c = i
  | _, .rollback c => c = i

/-- Between two calls: no transaction is open. -/
def View.Between (known : List String) (g : View) : Prop := g.changing = false ∧ ∀ r ∈ known, r ∈ g.known

def Answered (known : List String) : Except Failure Claim → View → Prop
  | .ok a, g => g.Between (a.recordId :: known)
  | .error _, g => g.Between known

theorem View.Between.ended {known : List String} {g : View} (h : ∀ r ∈ known, r ∈ g.known) :
    g.ended.Between known := ⟨rfl, h⟩

/-- A rollback ends the transaction, whether it is answered or not. -/
theorem safe_rollback {α : Type} {c : κ} {g : View} {e : Failure} {Q : Except Failure α → View → Prop}
    (hQ : ∀ e, Q (.error e) g.ended) :
    Safe (.ghost track) (fun g {_} o => Promise c g o) Q
      (do Prog.perform (.rollback c); .raise e) g := by
  rw [safe_bind, safe_perform]
  refine ⟨rfl, ?_⟩
  rintro (e' | a) _ rfl
  · exact hQ e'
  · exact hQ e

/-- A transaction whose body keeps its promises, and leaves the transaction open with `R`. -/
theorem safe_transaction {α : Type} {c : κ} {g : View} {known : List String} {R : α → View → Prop}
    {Q : Except Failure α → View → Prop} {body : Act κ α}
    (hbody : Safe (.ghost track) (fun g {_} o => Promise c g o)
      (fun r g => (∀ r ∈ known, r ∈ g.known) ∧ ∀ a, r = .ok a → R a g) body g)
    (herror : ∀ e g, (∀ r ∈ known, r ∈ g.known) → g.changing = false → Q (.error e) g)
    (hok : ∀ a g, (∀ r ∈ known, r ∈ g.known) → R a g → Q (.ok a) g.named) :
    Safe (.ghost track) (fun g {_} o => Promise c g o) Q (transaction c body) g := by
  unfold transaction
  rw [safe_bind, safe_handle]
  refine hbody.post ?_
  rintro (e | a) g ⟨hknown, hR⟩
  · apply safe_rollback
    exact fun e => herror e g.ended hknown rfl
  · change Safe _ _ Q (do Prog.perform (Stmt.commit c); Pure.pure a) g
    rw [safe_bind, safe_perform]
    refine ⟨rfl, ?_⟩
    rintro (e | _) _ rfl
    · exact herror e g.ended hknown rfl
    · exact hok a g hknown (hR a rfl)

/-- What the body of a transaction ends with: nothing is forgotten, and a result is as `R` says. -/
def Inside {α : Type} (known : List String) (R : α → View → Prop) (r : Except Failure α) (g : View) : Prop :=
  (∀ r ∈ known, r ∈ g.known) ∧ ∀ a, r = .ok a → R a g

theorem safe_statement {α β : Type} {c : κ} {g : View} {known : List String} {R : β → View → Prop}
    {o : Stmt κ α} {f : α → Act κ β} (ho : Promise c g o) (hknown : ∀ r ∈ known, r ∈ g.known)
    (hf : ∀ a, Safe (.ghost track) (fun g {_} o => Promise c g o) (Inside known R) (f a)
      (g.after o (.ok a))) :
    Safe (.ghost track) (fun g {_} o => Promise c g o) (Inside known R)
      (do let a ← Prog.perform o; f a) g := by
  rw [safe_bind, safe_perform]
  refine ⟨ho, ?_⟩
  rintro (e | a) _ rfl
  · exact ⟨hknown, fun a ha => absurd ha (by simp)⟩
  · exact hf a

theorem inside_raise {α : Type} {c : κ} {known : List String} {R : α → View → Prop} {g : View}
    (e : Failure) (hknown : ∀ r ∈ known, r ∈ g.known) :
    Safe (.ghost track) (fun g {_} o => Promise c g o) (Inside known R) (.raise e) g :=
  ⟨hknown, fun a ha => absurd ha (by simp)⟩

theorem safe_claim {slot : Slot} {c : κ} {fingerprint : String} {known : List String} {g : View}
    (hg : g.Between known) :
    Safe (.ghost track) (fun g {_} o => Promise c g o) (Answered known)
      (claim slot c fingerprint) g := by
  obtain ⟨hidle, hknown⟩ := hg
  unfold claim
  split
  · exact ⟨hidle, hknown⟩
  split
  · exact ⟨hidle, hknown⟩
  refine @safe_transaction _ _ _ _ known (fun a g => g.tentative = some a.recordId) _ _ ?_ ?_ ?_
  · refine safe_statement hidle hknown fun recordId => ?_
    refine safe_statement ⟨rfl, rfl, hidle⟩ hknown fun _ => ?_
    refine safe_statement rfl hknown fun row => ?_
    cases row with
    | none => exact inside_raise _ hknown
    | some row =>
      refine (safe_ite _ _ _ _).mpr ⟨fun _ => inside_raise _ hknown, fun _ => ?_⟩
      refine (safe_ite _ _ _ _).mpr ⟨fun hcompleted => ?_, fun _ => ?_⟩
      · cases row.response with
        | none => exact inside_raise _ hknown
        | some response =>
          refine ⟨hknown, ?_⟩
          intro a ha
          obtain rfl := Except.ok.inj ha
          simp [View.after, hcompleted]
      · refine (safe_ite _ _ _ _).mpr ⟨fun _ => inside_raise _ hknown, fun _ => ?_⟩
        refine safe_statement rfl hknown fun claimed => ?_
        cases claimed with
        | none => exact inside_raise _ hknown
        | some recordId =>
          refine ⟨hknown, ?_⟩
          intro a ha
          obtain rfl := Except.ok.inj ha
          rfl
  · exact fun e g hknown hidle => ⟨hidle, hknown⟩
  · intro a g hknown hnamed
    refine ⟨rfl, ?_⟩
    have hall : ∀ r ∈ known, r ∈ g.named.known := fun r hr => List.mem_append_right _ (hknown r hr)
    have hnew : a.recordId ∈ g.named.known := by
      simp [View.named, hnamed]
    exact List.forall_mem_cons.mpr ⟨hnew, hall⟩

/-- A transaction of one statement, on a record that the worker knows. -/
theorem safe_single {α : Type} {c : κ} {o : Stmt κ α} {known : List String} {g : View}
    (hg : g.Between known) (ho : Promise c g o) :
    Safe (.ghost track) (fun g {_} o => Promise c g o) (fun _ g => g.Between known)
      (transaction c (Prog.perform o)) g := by
  refine @safe_transaction _ _ _ _ known (fun _ _ => True) _ _ ?_ ?_ ?_
  · rw [← bind_pure (Prog.perform o)]
    apply safe_statement ho hg.2
    intro a
    have hafter : (g.after o (.ok a)).known = g.known ∨ ∃ r, (g.after o (.ok a)).known = r ++ g.known := by
      cases o <;> first | exact .inl rfl | exact .inr ⟨_, rfl⟩
    refine ⟨?_, fun _ _ => trivial⟩
    rcases hafter with h | ⟨l, h⟩
    · rw [h]
      exact hg.2
    · rw [h]
      exact fun r hr => List.mem_append_right _ (hg.2 r hr)
  · exact fun e g hknown hidle => ⟨hidle, hknown⟩
  · exact fun a g hknown _ => ⟨rfl, fun r hr => List.mem_append_right _ (hknown r hr)⟩

/-- By recursion on the script: whatever is answered, a worker keeps its promises. -/
theorem safe_script (slot : Slot) (c : κ) {script : Script} {known : List String} {g : View}
    (honest : script.Honest known) (hg : g.Between known) :
    Safe (.ghost track) (fun g {_} o => Promise c g o) (fun _ _ => True)
      (script.program slot c) g := by
  induction script generalizing known g with
  | done => trivial
  | claim fingerprint next ih =>
    unfold Script.program
    rw [safe_bind, safe_attempt]
    refine (safe_claim hg).post ?_
    rintro (e | a) g' hr
    · refine (safe_bind _ _ _).mpr ((ih _ (honest.1 e) hr).post ?_)
      rintro (_ | _) _ _ <;> trivial
    · refine (safe_bind _ _ _).mpr ((ih _ (honest.2 a) hr).post ?_)
      rintro (_ | _) _ _ <;> trivial
  | complete recordId response next ih =>
    unfold Script.program
    rw [safe_bind, safe_attempt]
    unfold ControlPlane.complete
    rw [safe_bind]
    have hsingle := safe_single (c := c) (o := .completeInProgress c recordId response) hg
      ⟨rfl, hg.2 _ honest.1, hg.1⟩
    refine hsingle.post ?_
    rintro (e | changed) g' hr
    · exact ih _ (honest.2 _) hr
    · refine (safe_ite _ _ _ _).mpr ⟨fun _ => ih _ (honest.2 _) hr, fun _ => ih _ (honest.2 _) hr⟩
  | abandon recordId next ih =>
    unfold Script.program
    rw [safe_bind, safe_attempt]
    have hsingle := safe_single (c := c) (o := .deleteInProgress c recordId) hg
      ⟨rfl, hg.2 _ honest.1, hg.1⟩
    refine hsingle.post ?_
    intro r g' hr
    exact ih r (honest.2 r) hr

end Worker

section Record

def Effect.recordId : Effect → String
  | acquire r _ => r
  | complete r _ => r
  | abandon r => r

def ids (log : List (κ × Effect)) : List String := log.map fun entry => entry.2.recordId

/-- The committed past of claims that were all given up again, each by its own worker. -/
inductive Closed : List (κ × Effect) → Prop
  | nil : Closed []
  | abandoned {past : List (κ × Effect)} {c : κ} {r fingerprint : String} (h : Closed past)
      (hr : r ∉ ids past) : Closed (past ++ [(c, .acquire r fingerprint), (c, .abandon r)])

/-- How the record stands after a log: there is none, it is offered, it is claimed, or settled. -/
inductive Standing : List (κ × Effect) → Option Record → Prop
  | absent {past : List (κ × Effect)} (h : Closed past) : Standing past none
  | offered {past : List (κ × Effect)} {r fingerprint : String} (h : Closed past) (hr : r ∉ ids past) :
      Standing past (some ⟨r, fingerprint, .reserved, none⟩)
  | claimed {past : List (κ × Effect)} {c : κ} {r fingerprint : String} (h : Closed past)
      (hr : r ∉ ids past) :
      Standing (past ++ [(c, .acquire r fingerprint)]) (some ⟨r, fingerprint, .inProgress, none⟩)
  | settled {past : List (κ × Effect)} {c : κ} {r fingerprint : String} {response : Dict}
      (h : Closed past) (hr : r ∉ ids past) :
      Standing (past ++ [(c, .acquire r fingerprint), (c, .complete r response)])
        (some ⟨r, fingerprint, .completed, some response⟩)

theorem mem_ids {log : List (κ × Effect)} {c : κ} {effect : Effect} (h : (c, effect) ∈ log) :
    effect.recordId ∈ ids log :=
  List.mem_map.mpr ⟨_, h, rfl⟩

/-- Every claim of a closed past was abandoned by the worker that had acquired it. -/
theorem Closed.released {past : List (κ × Effect)} (h : Closed past) {c : κ} {r fingerprint : String}
    (ha : (c, .acquire r fingerprint) ∈ past) : (c, .abandon r) ∈ past := by
  induction h with
  | nil => simp at ha
  | abandoned h hr ih =>
    rcases List.mem_append.mp ha with ha | ha
    · exact List.mem_append_left _ (ih ha)
    · simp only [List.mem_cons, Prod.mk.injEq, Effect.acquire.injEq, reduceCtorEq, and_false,
        List.not_mem_nil, or_false] at ha
      obtain ⟨rfl, rfl, rfl⟩ := ha
      simp

theorem Closed.no_complete {past : List (κ × Effect)} (h : Closed past) {c : κ} {r : String}
    {response : Dict} : (c, .complete r response) ∉ past := by
  induction h with
  | nil => simp
  | abandoned h hr ih => simp [ih]

/-- The one claim that is held is the one the record stands for. -/
theorem Standing.holds {s : Shared κ} (h : Standing s.log s.row) {c : κ} {r : String}
    (hr : s.Holds c r) : ∃ past fingerprint, s.log = past ++ [(c, .acquire r fingerprint)] := by
  obtain ⟨⟨fingerprint, ha⟩, hcomplete, habandon⟩ := hr
  generalize s.log = log at *
  generalize s.row = row at *
  cases h with
  | absent h => exact absurd (h.released ha) habandon
  | offered h hr => exact absurd (h.released ha) habandon
  | @claimed past c' r' fingerprint' h hr =>
    rcases List.mem_append.mp ha with ha | ha
    · exact absurd (List.mem_append_left _ (h.released ha)) habandon
    · simp only [List.mem_singleton, Prod.mk.injEq, Effect.acquire.injEq] at ha
      obtain ⟨rfl, rfl, rfl⟩ := ha
      exact ⟨past, fingerprint, rfl⟩
  | @settled past c' r' fingerprint' response h hr =>
    rcases List.mem_append.mp ha with ha | ha
    · exact absurd (List.mem_append_left _ (h.released ha)) habandon
    · simp only [List.mem_cons, Prod.mk.injEq, Effect.acquire.injEq, reduceCtorEq, and_false,
        List.not_mem_nil, or_false] at ha
      obtain ⟨rfl, rfl, rfl⟩ := ha
      exact absurd (by simp) (hcomplete response)

theorem Standing.completed {log : List (κ × Effect)} {row : Option Record} (h : Standing log row)
    {c : κ} {r : String} {response : Dict} (hr : (c, .complete r response) ∈ log) :
    ∃ fingerprint, (c, .acquire r fingerprint) ∈ log ∧
      row = some ⟨r, fingerprint, .completed, some response⟩ := by
  cases h with
  | absent h => exact absurd hr h.no_complete
  | offered h _ => exact absurd hr h.no_complete
  | claimed h _ => simp [h.no_complete] at hr
  | @settled past c' r' fingerprint response' h _ =>
    simp only [List.mem_append, h.no_complete, List.mem_cons, Prod.mk.injEq, reduceCtorEq, and_false,
      Effect.complete.injEq, List.not_mem_nil, or_false, false_or] at hr
    obtain ⟨rfl, rfl, rfl⟩ := hr
    exact ⟨fingerprint, by simp, rfl⟩

/-- The record that the worker of a log's last claim goes on with. -/
theorem Standing.inProgress {log : List (κ × Effect)} {row : Record} (h : Standing log (some row))
    (hrow : row.status = .inProgress) {c : κ} {fingerprint : String}
    (ha : (c, .acquire row.recordId fingerprint) ∈ log) :
    ∃ past, Closed past ∧ row.recordId ∉ ids past ∧
      log = past ++ [(c, .acquire row.recordId row.requestFingerprint)] ∧ row.response = none := by
  cases h with
  | offered h hr => simp at hrow
  | settled h hr => simp at hrow
  | @claimed past c' r fingerprint' h hr =>
    rcases List.mem_append.mp ha with ha | ha
    · exact absurd (mem_ids ha) hr
    · simp only [List.mem_singleton, Prod.mk.injEq, Effect.acquire.injEq] at ha
      obtain ⟨rfl, _⟩ := ha
      exact ⟨past, h, hr, rfl, rfl⟩

theorem Standing.take {log : List (κ × Effect)} {row : Record} (h : Standing log (some row))
    (hrow : row.status = .reserved) {c : κ} :
    Standing (log ++ [(c, .acquire row.recordId row.requestFingerprint)])
      (some { row with status := .inProgress }) := by
  cases h with
  | offered hclosed hr => exact .claimed hclosed hr
  | claimed => simp at hrow
  | settled => simp at hrow

theorem Standing.settled_log {log : List (κ × Effect)} {row : Record} (h : Standing log (some row))
    (hrow : row.status = .completed) : ∃ c fingerprint response past,
      log = past ++ [(c, .acquire row.recordId fingerprint), (c, .complete row.recordId response)] := by
  cases h with
  | offered => simp at hrow
  | claimed => simp at hrow
  | settled _ _ => exact ⟨_, _, _, _, rfl⟩

end Record

section Invariant

variable {s s' : Shared κ} {i j c : κ} {g : View} {r : String}

def Shared.Used (s : Shared κ) (r : String) : Prop :=
  r ∈ ids s.log ∨ (∃ x ∈ s.row, x.recordId = r) ∨
    ∃ c row effect, s.pending = some (c, row, effect) ∧
      ((∃ x ∈ row, x.recordId = r) ∨ ∃ y ∈ effect, y.recordId = r)

/-- Records that a worker may have been told of: those that it acquired, and the settled one. -/
def Shared.Owned (s : Shared κ) (i : κ) (r : String) : Prop :=
  (∃ fingerprint, (i, .acquire r fingerprint) ∈ s.log) ∨
    ∃ x ∈ s.row, x.recordId = r ∧ x.status = .completed

structure View.Fits (g : View) (s : Shared κ) (i : κ) : Prop where
  fresh : ∀ r, g.fresh = some r → r ∈ s.drawn ∧ ¬ s.Used r
  known : ∀ r ∈ g.known, s.Owned i r
  tentative : ∀ r, g.tentative = some r →
    (∃ row fingerprint, s.pending = some (i, row, some (.acquire r fingerprint))) ∨ s.Owned i r
  changing : ∀ row effect, s.pending = some (i, row, effect) → g.changing = true

/-- The invariant: the record stands as its log says, and will after the commit that is open. -/
structure Sound (v : κ → View) (s : Shared κ) : Prop where
  standing : Standing s.log s.row
  pending : ∀ c row effect, s.pending = some (c, row, effect) →
    Standing (s.log ++ effect.toList.map (c, ·)) row ∧
      (∀ x ∈ row, x.status = .reserved → effect = none) ∧ ∀ x ∈ s.row, x.status ≠ .completed
  drawn : ∀ r, s.Used r → r ∈ s.drawn
  fits : ∀ i, (v i).Fits s i
  apart : ∀ i j r, (v i).fresh = some r → (v j).fresh = some r → i = j

theorem View.Fits.mono (h : g.Fits s i) (hdrawn : ∀ r ∈ s.drawn, r ∈ s'.drawn)
    (hused : ∀ r, g.fresh = some r → s'.Used r → s.Used r) (howned : ∀ r, s.Owned i r → s'.Owned i r)
    (hpending : ∀ row effect, s.pending = some (i, row, effect) ↔ s'.pending = some (i, row, effect)) :
    g.Fits s' i where
  fresh r hr := ⟨hdrawn r (h.fresh r hr).1, fun hu => (h.fresh r hr).2 (hused r hr hu)⟩
  known r hr := howned r (h.known r hr)
  tentative r hr := by
    rcases h.tentative r hr with ⟨row, fingerprint, hp⟩ | hr
    · exact .inl ⟨row, fingerprint, (hpending _ _).mp hp⟩
    · exact .inr (howned r hr)
  changing row effect hp := h.changing row effect ((hpending row effect).mpr hp)

variable [DecidableEq κ] {v : κ → View}

/-- After a step of `i`: what the others see has not changed, and `i` has the view `g`. -/
theorem Sound.step (h : Sound v s) (hstanding : Standing s'.log s'.row)
    (hpending : ∀ c row effect, s'.pending = some (c, row, effect) →
      Standing (s'.log ++ effect.toList.map (c, ·)) row ∧
        (∀ x ∈ row, x.status = .reserved → effect = none) ∧ ∀ x ∈ s'.row, x.status ≠ .completed)
    (hdrawn : ∀ r, s'.Used r → r ∈ s'.drawn) (hothers : ∀ j, j ≠ i → (v j).Fits s' j)
    (hg : g.Fits s' i) (hfresh : ∀ j r, j ≠ i → g.fresh = some r → (v j).fresh ≠ some r) :
    Sound (Function.update v i g) s' where
  standing := hstanding
  pending := hpending
  drawn := hdrawn
  fits j := by
    by_cases hj : j = i
    · subst hj
      rw [Function.update_self]
      exact hg
    · rw [Function.update_of_ne hj]
      exact hothers j hj
  apart j k r hjr hkr := by
    by_cases hj : j = i <;> by_cases hk : k = i
    · rw [hj, hk]
    · subst hj
      rw [Function.update_self] at hjr
      rw [Function.update_of_ne hk] at hkr
      exact absurd hkr (hfresh k r hk hjr)
    · subst hk
      rw [Function.update_self] at hkr
      rw [Function.update_of_ne hj] at hjr
      exact absurd hjr (hfresh j r hj hkr)
    · rw [Function.update_of_ne hj] at hjr
      rw [Function.update_of_ne hk] at hkr
      exact h.apart j k r hjr hkr

/-- A statement that reads. -/
theorem Sound.look (h : Sound v s) (hg : g.Fits s i) (hfresh : g.fresh = none ∨ g.fresh = (v i).fresh) :
    Sound (Function.update v i g) s := by
  refine h.step h.standing h.pending h.drawn (fun j _ => h.fits j) hg ?_
  intro j r hj hr hjr
  rcases hfresh with hnone | hsame
  · simp [hnone] at hr
  · exact hj (h.apart j i r hjr (hsame ▸ hr))

theorem Sound.uuid4 (h : Sound v s) {r : String} (hr : r ∉ s.drawn) :
    Sound (Function.update v i { v i with fresh := some r }) { s with drawn := r :: s.drawn } := by
  have hmono : ∀ j, (v j).Fits { s with drawn := r :: s.drawn } j := fun j =>
    (h.fits j).mono (fun _ => List.mem_cons_of_mem r) (fun _ _ hu => hu) (fun _ ho => ho) fun _ _ => .rfl
  refine h.step h.standing h.pending (fun r' hu => List.mem_cons_of_mem r (h.drawn r' hu))
    (fun j _ => hmono j) ⟨?_, (hmono i).known, (hmono i).tentative, (hmono i).changing⟩ ?_
  · intro r' hr'
    obtain rfl := Option.some.inj hr'
    exact ⟨List.mem_cons_self, fun hu => hr (h.drawn r hu)⟩
  · intro j r' _ hr' hjr
    obtain rfl := Option.some.inj hr'
    exact hr ((h.fits j).fresh r hjr).1

theorem Shared.dropped_eq : s.dropped c = { s with pending := s.pending.filter fun change => change.1 ≠ c } := by
  obtain ⟨row, pending, log, drawn⟩ := s
  cases pending with
  | none => rfl
  | some change => by_cases hc : change.1 = c <;> simp [Shared.dropped, Option.filter, hc]

theorem Sound.dropped (h : Sound v s) : Sound (Function.update v i (v i).ended) (s.dropped i) := by
  rw [Shared.dropped_eq]
  have hsub : ∀ c row effect, (s.pending.filter fun change => change.1 ≠ i) = some (c, row, effect) ↔
      s.pending = some (c, row, effect) ∧ c ≠ i := by
    intro c row effect
    simp [Option.filter_eq_some_iff]
  have hused : ∀ r, Shared.Used { s with pending := s.pending.filter fun change => change.1 ≠ i } r →
      s.Used r := by
    rintro r (hr | hr | ⟨c, row, effect, hp, hr⟩)
    · exact .inl hr
    · exact .inr (.inl hr)
    · exact .inr (.inr ⟨c, row, effect, ((hsub _ _ _).mp hp).1, hr⟩)
  refine h.step h.standing ?_ (fun r hr => h.drawn r (hused r hr)) ?_ ⟨?_, ?_, ?_, ?_⟩ ?_
  · intro c row effect hp
    exact h.pending c row effect ((hsub _ _ _).mp hp).1
  · intro j hj
    refine (h.fits j).mono (fun _ hr => hr) (fun r _ => hused r) (fun _ ho => ho) ?_
    intro row effect
    rw [hsub]
    exact ⟨fun hp => ⟨hp, hj⟩, fun hp => hp.1⟩
  · exact fun r hr => ⟨((h.fits i).fresh r hr).1, fun hu => ((h.fits i).fresh r hr).2 (hused r hu)⟩
  · exact (h.fits i).known
  · exact fun r hr => absurd hr (by simp [View.ended])
  · intro row effect hp
    exact absurd rfl ((hsub _ _ _).mp hp).2
  · intro j r hj hr hjr
    exact hj (h.apart j i r hjr hr)

/-- A commit of the own change, whether its answer arrives (`told`) or is lost. -/
theorem Sound.committed (h : Sound v s) (hg : g.fresh = (v i).fresh) (hnone : g.tentative = none) (hknown : ∀ r ∈ g.known, r ∈ (v i).known ∨ (v i).tentative = some r) :
    Sound (Function.update v i g) (s.committed i) := by
  have hfresh : ∀ j r, j ≠ i → g.fresh = some r → (v j).fresh ≠ some r :=
    fun j r hj hr hjr => hj (h.apart j i r hjr (hg ▸ hr))
  cases hp : s.pending with
  | none =>
    -- Nothing is open, and the commit changes nothing.
    simp only [Shared.committed, hp]
    refine h.look ⟨fun r hr => (h.fits i).fresh r (hg ▸ hr), ?_, by simp [hnone], by simp [hp]⟩ (.inr hg)
    intro r hr
    rcases hknown r hr with hr | hr
    · exact (h.fits i).known r hr
    · rcases (h.fits i).tentative r hr with ⟨_, _, hpend⟩ | ho
      · simp [hp] at hpend
      · exact ho
  | some change =>
    obtain ⟨c, row, effect⟩ := change
    by_cases hc : c = i
    · subst hc
      -- The own change becomes the record, and its effect the last one of the log.
      simp only [Shared.committed, hp, if_true]
      obtain ⟨hstanding, hreserved, hopen⟩ := h.pending c row effect hp
      have hused : ∀ r, (s.changed c row effect).Used r → s.Used r := by
        rintro r (hr | ⟨x, hx, hr⟩ | ⟨_, _, _, hnone, _⟩)
        · obtain ⟨⟨c', y⟩, hy, rfl⟩ := List.mem_map.mp hr
          rcases List.mem_append.mp hy with hy | hy
          · exact .inl (mem_ids hy)
          · obtain ⟨y', hy', hpair⟩ := List.mem_map.mp hy
            obtain ⟨rfl, rfl⟩ := Prod.mk.inj hpair
            exact .inr (.inr ⟨c, row, effect, hp, .inr ⟨y', by simpa using hy', rfl⟩⟩)
        · exact .inr (.inr ⟨c, row, effect, hp, .inl ⟨x, hx, hr⟩⟩)
        · simp [Shared.changed] at hnone
      have howned : ∀ j r, s.Owned j r → (s.changed c row effect).Owned j r := by
        rintro j r (⟨fingerprint, hr⟩ | ⟨x, hx, _, hcompleted⟩)
        · exact .inl ⟨fingerprint, List.mem_append_left _ hr⟩
        · exact absurd hcompleted (hopen x hx)
      refine h.step hstanding (by simp [Shared.changed]) (fun r hr => h.drawn r (hused r hr)) ?_
        ⟨?_, ?_, by simp [hnone], by simp [Shared.changed]⟩ hfresh
      · intro j hj
        refine (h.fits j).mono (fun _ hr => hr) (fun r _ => hused r) (howned j) ?_
        intro row' effect'
        simp [hp, Shared.changed, Ne.symm hj]
      · intro r hr
        obtain ⟨hdrawn, hu⟩ := (h.fits c).fresh r (hg ▸ hr)
        exact ⟨hdrawn, fun hu' => hu (hused r hu')⟩
      · intro r hr
        rcases hknown r hr with hr | hr
        · exact howned c r ((h.fits c).known r hr)
        · rcases (h.fits c).tentative r hr with ⟨row', fingerprint, hpend⟩ | ho
          · rw [hp, Option.some.injEq, Prod.mk.injEq, Prod.mk.injEq] at hpend
            obtain ⟨_, _, rfl⟩ := hpend
            exact .inl ⟨fingerprint, by simp [Shared.changed]⟩
          · exact howned c r ho
    -- The change of another connection stays open.
    · simp only [Shared.committed, hp, if_neg hc]
      refine h.look ⟨fun r hr => (h.fits i).fresh r (hg ▸ hr), ?_, by simp [hnone], ?_⟩ (.inr hg)
      · intro r hr
        rcases hknown r hr with hr | hr
        · exact (h.fits i).known r hr
        · rcases (h.fits i).tentative r hr with ⟨_, _, hpend⟩ | ho
          · rw [hp, Option.some.injEq, Prod.mk.injEq] at hpend
            exact absurd hpend.1 hc
          · exact ho
      · intro row' effect' hpend
        rw [hp, Option.some.injEq, Prod.mk.injEq] at hpend
        exact absurd hpend.1 hc

/-- A change of the record that its commit makes stand. -/
theorem Sound.propose (h : Sound v s) {row : Option Record} {effect : Option Effect}
    (hfree : s.free i = true) (hstanding : Standing (s.log ++ effect.toList.map (i, ·)) row)
    (hreserved : ∀ x ∈ row, x.status = .reserved → effect = none)
    (hopen : ∀ x ∈ s.row, x.status ≠ .completed)
    (hused : ∀ r, ((∃ x ∈ row, x.recordId = r) ∨ ∃ y ∈ effect, y.recordId = r) →
      s.Used r ∨ (v i).fresh = some r)
    (hg : g.known = (v i).known) (hchanging : g.changing = true)
    (hfresh : g.fresh = none ∨ g.fresh = (v i).fresh ∧ ∀ r, (v i).fresh = some r →
      ¬ ((∃ x ∈ row, x.recordId = r) ∨ ∃ y ∈ effect, y.recordId = r))
    (htentative : ∀ r, g.tentative = some r → (∃ fingerprint, effect = some (.acquire r fingerprint)) ∨
      s.Owned i r) :
    Sound (Function.update v i g) { s with pending := some (i, row, effect) } := by
  have hafter : ∀ r, Shared.Used { s with pending := some (i, row, effect) } r →
      s.Used r ∨ ((∃ x ∈ row, x.recordId = r) ∨ ∃ y ∈ effect, y.recordId = r) := by
    rintro r (hr | hr | ⟨c, row', effect', hp, hr⟩)
    · exact .inl (.inl hr)
    · exact .inl (.inr (.inl hr))
    · obtain ⟨rfl, rfl, rfl⟩ := (by simpa using hp : i = c ∧ row = row' ∧ effect = effect')
      exact .inr hr
  refine h.step h.standing ?_ ?_ ?_ ⟨?_, ?_, ?_, ?_⟩ ?_
  · intro c row' effect' hp
    obtain ⟨rfl, rfl, rfl⟩ := (by simpa using hp : i = c ∧ row = row' ∧ effect = effect')
    exact ⟨hstanding, hreserved, hopen⟩
  · intro r hr
    rcases hafter r hr with hr | hr
    · exact h.drawn r hr
    · rcases hused r hr with hr | hr
      · exact h.drawn r hr
      · exact ((h.fits i).fresh r hr).1
  · intro j hj
    refine (h.fits j).mono (fun _ hr => hr) ?_ (fun _ ho => ho) ?_
    · intro r hjr hr
      rcases hafter r hr with hr | hr
      · exact hr
      · rcases hused r hr with hr | hr
        · exact hr
        · exact absurd (h.apart j i r hjr hr) hj
    -- The record was free, so no other connection has lost a change of its own.
    · intro row' effect'
      have hpend : ∀ x, s.pending = some x → x.1 = i := by
        intro x hx
        simpa [Shared.free, hx] using hfree
      constructor
      · intro hp
        exact absurd (hpend _ hp) hj
      · intro hp
        simp [Ne.symm hj] at hp
  · intro r hr
    rcases hfresh with hnone | ⟨hsame, hapart⟩
    · simp [hnone] at hr
    · obtain ⟨hdrawn, hu⟩ := (h.fits i).fresh r (hsame ▸ hr)
      refine ⟨hdrawn, fun hr' => ?_⟩
      rcases hafter r hr' with hr' | hr'
      · exact hu hr'
      · exact hapart r (hsame ▸ hr) hr'
  · intro r hr
    exact (h.fits i).known r (hg ▸ hr)
  · intro r hr
    rcases htentative r hr with ⟨fingerprint, rfl⟩ | ho
    · exact .inl ⟨row, fingerprint, rfl⟩
    · exact .inr ho
  · exact fun _ _ _ => hchanging
  · intro j r hj hr hjr
    rcases hfresh with hnone | ⟨hsame, _⟩
    · simp [hnone] at hr
    · exact hj (h.apart j i r hjr (hsame ▸ hr))

/-- Without a change of its own, a transaction sees the committed record. -/
theorem Sound.visible (h : Sound v s) (hidle : (v i).changing = false) : s.visible i = s.row := by
  unfold Shared.visible
  cases hp : s.pending with
  | none => rfl
  | some change =>
    obtain ⟨c, row, effect⟩ := change
    by_cases hc : c = i
    · subst hc
      have hchanging := (h.fits c).changing row effect hp
      simp [hidle] at hchanging
    · simp [hc]

theorem Sound.no_pending (h : Sound v s) (hidle : (v i).changing = false) (hfree : s.free i = true) :
    s.pending = none := by
  cases hp : s.pending with
  | none => rfl
  | some change =>
    obtain ⟨c, row, effect⟩ := change
    obtain rfl : c = i := by simpa [Shared.free, hp] using hfree
    have hchanging := (h.fits c).changing row effect hp
    simp [hidle] at hchanging

theorem Shared.change_cases {status : Status} {after : Record → Option Record} {effect : Record → Effect}
    {x : Option Record × Shared κ} (h : s.change c r status after effect = some x) :
    x = (none, s) ∨ ∃ row, s.visible c = some row ∧ row.recordId = r ∧ row.status = status ∧
      s.free c = true ∧ x = (some row, { s with pending := some (c, after row, some (effect row)) }) := by
  unfold Shared.change at h
  split at h
  · rename_i row hrow
    split at h
    · rename_i hmatch
      split at h
      · rename_i hfree
        exact .inr ⟨row, hrow, hmatch.1, hmatch.2, hfree, (Option.some.inj h).symm⟩
      · simp at h
    · exact .inl (Option.some.inj h).symm
  · exact .inl (Option.some.inj h).symm

/-- The record that a transaction sees and may change, with the log that goes with it. -/
theorem Sound.visible_reserved (h : Sound v s) {row : Record} (hrow : s.visible i = some row)
    (hreserved : row.status = .reserved) (hfree : s.free i = true) :
    Standing s.log (some row) ∧ s.Used row.recordId ∧ ∀ x ∈ s.row, x.status ≠ .completed := by
  unfold Shared.visible at hrow
  cases hp : s.pending with
  | none =>
    rw [hp] at hrow
    have hstanding := h.standing
    have hsrow : s.row = some row := hrow
    rw [hsrow] at hstanding ⊢
    refine ⟨hstanding, .inr (.inl ⟨row, hsrow, rfl⟩), ?_⟩
    intro x hx
    obtain rfl := Option.some.inj hx
    simp [hreserved]
  | some change =>
    obtain ⟨c, row', effect⟩ := change
    obtain rfl : c = i := by simpa [Shared.free, hp] using hfree
    rw [hp] at hrow
    obtain rfl : row' = some row := by simpa using hrow
    -- A reserved record that is pending is the own insertion, which has no effect on the log.
    obtain ⟨hstanding, hnone, hopen⟩ := h.pending c _ effect hp
    obtain rfl := hnone row rfl hreserved
    simp only [Option.toList_none, List.map_nil, List.append_nil] at hstanding
    exact ⟨hstanding, .inr (.inr ⟨c, _, none, hp, .inl ⟨row, rfl, rfl⟩⟩), hopen⟩

/-- A settled record that a transaction sees is one that it may tell its worker of. -/
theorem Sound.seen (h : Sound v s) {row : Record} (hrow : s.visible i = some row)
    (hcompleted : row.status = .completed) : s.Owned i row.recordId := by
  unfold Shared.visible at hrow
  cases hp : s.pending with
  | none =>
    rw [hp] at hrow
    exact .inr ⟨row, hrow, rfl, hcompleted⟩
  | some change =>
    obtain ⟨c, row', effect⟩ := change
    rw [hp] at hrow
    by_cases hc : c = i
    · subst hc
      obtain rfl : row' = some row := by simpa using hrow
      obtain ⟨hstanding, _, hopen⟩ := h.pending c _ effect hp
      obtain ⟨c', fingerprint, response, past, hlog⟩ := hstanding.settled_log hcompleted
      -- The log ends with the completion, and that is not in the committed part: it is the open change.
      cases effect with
      | none =>
        have hlast : (c', Effect.complete row.recordId response) ∈ s.log := by
          simp only [Option.toList_none, List.map_nil, List.append_nil] at hlog
          simp [hlog]
        obtain ⟨_, _, hrow⟩ := h.standing.completed hlast
        exact absurd rfl (hopen _ hrow)
      | some effect =>
        have hsplit : s.log ++ [(c, effect)] = past ++ [(c', .acquire row.recordId fingerprint)] ++
            [(c', .complete row.recordId response)] := by simpa using hlog
        obtain ⟨hbefore, hlast⟩ := List.append_inj' hsplit rfl
        obtain ⟨rfl, _⟩ := Prod.mk.inj (List.cons.inj hlast).1
        exact .inl ⟨fingerprint, by simp [hbefore]⟩
    · exact .inr ⟨row, by simpa [hc] using hrow, rfl, hcompleted⟩

theorem Sound.failed {α : Type} {o : Stmt κ α} (h : Sound v s) (ho : Promise i (v i) o) (durable : Bool) :
    Sound (Function.update v i (v i).ended) (s.failed durable o) := by
  have hdropped := h.dropped (i := i)
  cases o with
  | uuid4 =>
    have hidle : (v i).changing = false := ho
    refine h.look ⟨(h.fits i).fresh, (h.fits i).known, by simp [View.ended], ?_⟩ (.inr rfl)
    intro row effect hp
    have hchanging := (h.fits i).changing row effect hp
    simp [hidle] at hchanging
  | commit c =>
    obtain rfl := ho
    -- An error of the commit does not tell whether the change is durable.
    cases durable
    · exact hdropped
    · exact h.committed rfl rfl fun r hr => .inl hr
  | insertReserved c recordId fingerprint =>
    obtain ⟨rfl, _⟩ := ho
    exact hdropped
  | completeInProgress c recordId response =>
    obtain ⟨rfl, _⟩ := ho
    exact hdropped
  | deleteInProgress c recordId =>
    obtain ⟨rfl, _⟩ := ho
    exact hdropped
  | selectRecord c =>
    obtain rfl := ho
    exact hdropped
  | takeReserved c recordId =>
    obtain rfl := ho
    exact hdropped
  | rollback c =>
    obtain rfl := ho
    exact hdropped

/-- The change of a claim that is in progress, by a worker that knows its record. -/
theorem Sound.finish (h : Sound v s) {row : Record} {after : Option Record} {effect : Effect}
    (hknown : row.recordId ∈ (v i).known) (hidle : (v i).changing = false)
    (htentative : ∀ r, (v i).tentative = some r → s.Owned i r)
    (hrow : s.visible i = some row) (hprogress : row.status = .inProgress) (hfree : s.free i = true)
    (hstanding : ∀ past, Closed past → row.recordId ∉ ids past → row.response = none →
      Standing (past ++ [(i, .acquire row.recordId row.requestFingerprint), (i, effect)]) after)
    (hafter : ∀ x ∈ after, x.recordId = row.recordId ∧ x.status ≠ .reserved)
    (heffect : effect.recordId = row.recordId) :
    Sound (Function.update v i { v i with changing := true })
      { s with pending := some (i, after, some effect) } := by
  rw [h.visible hidle] at hrow
  have hnow := h.standing
  rw [hrow] at hnow
  -- What a worker knows it has acquired, unless somebody else has completed it since.
  have hacquired : ∃ fingerprint, (i, .acquire row.recordId fingerprint) ∈ s.log := by
    rcases (h.fits i).known _ hknown with hr | ⟨x, hx, _, hcompleted⟩
    · exact hr
    · rw [hrow] at hx
      obtain rfl := Option.some.inj hx
      simp [hprogress] at hcompleted
  obtain ⟨fingerprint, hacquired⟩ := hacquired
  obtain ⟨past, hclosed, hnew, hlog, hresponse⟩ := hnow.inProgress hprogress hacquired
  have hids : ∀ r, ((∃ x ∈ after, x.recordId = r) ∨ ∃ y ∈ some effect, y.recordId = r) → r = row.recordId := by
    rintro r (⟨x, hx, rfl⟩ | ⟨y, hy, rfl⟩)
    · exact (hafter x hx).1
    · obtain rfl := Option.some.inj hy
      exact heffect
  have hused : s.Used row.recordId := .inr (.inl ⟨row, hrow, rfl⟩)
  refine h.propose hfree ?_ ?_ ?_ ?_ rfl rfl (.inr ⟨rfl, ?_⟩) fun r hr => .inr (htentative r hr)
  · have hnext := hstanding past hclosed hnew hresponse
    rw [hlog]
    simpa using hnext
  · intro x hx hreserved
    exact absurd hreserved (hafter x hx).2
  · intro x hx
    rw [hrow] at hx
    obtain rfl := Option.some.inj hx
    simp [hprogress]
  · intro r hr
    rw [hids r hr]
    exact .inl hused
  · intro r hr hr'
    rw [hids r hr'] at hr
    exact ((h.fits i).fresh _ hr).2 hused

omit [DecidableEq κ] in
theorem Sound.tentative_owned (h : Sound v s) (hidle : (v i).changing = false) (r : String)
    (hr : (v i).tentative = some r) : s.Owned i r := by
  rcases (h.fits i).tentative r hr with ⟨row, fingerprint, hp⟩ | ho
  · have hchanging := (h.fits i).changing _ _ hp
    simp [hidle] at hchanging
  · exact ho

/-- A statement that finds nothing to change. -/
theorem Sound.unchanged (h : Sound v s) (hg : g.fresh = none ∨ g.fresh = (v i).fresh)
    (hknown : g.known = (v i).known) (hchanging : g.changing = true)
    (htentative : ∀ r, g.tentative = some r → s.Owned i r) : Sound (Function.update v i g) s := by
  refine h.look ⟨?_, ?_, fun r hr => .inr (htentative r hr), fun _ _ _ => hchanging⟩ hg
  · intro r hr
    rcases hg with hnone | hsame
    · simp [hnone] at hr
    · exact (h.fits i).fresh r (hsame ▸ hr)
  · intro r hr
    exact (h.fits i).known r (hknown ▸ hr)

theorem Sound.inserted (h : Sound v s) {fingerprint : String} {x : Unit × Shared κ} {uuid : String}
    (hfresh : (v i).fresh = some r) (hidle : (v i).changing = false)
    (hx : s.execute uuid (.insertReserved i r fingerprint) = some x) :
    Sound (Function.update v i { v i with fresh := none, changing := true }) x.2 := by
  simp only [Shared.execute] at hx
  split at hx
  · rename_i hfree
    have hpending := h.no_pending hidle hfree
    have howned := h.tentative_owned hidle
    split at hx
    · rename_i hvisible
      rw [h.visible hidle] at hvisible
      obtain rfl := Option.some.inj hx
      have hstanding := h.standing
      rw [hvisible] at hstanding
      -- The drawn identifier is in use nowhere, so the new record does not continue an old one.
      have hunused := ((h.fits i).fresh r hfresh).2
      refine h.propose hfree ?_ (fun _ _ _ => rfl) (by simp [hvisible]) ?_ rfl rfl (.inl rfl)
        fun r hr => .inr (howned r hr)
      · rw [Option.toList_none, List.map_nil, List.append_nil]
        generalize hlog : s.log = log at hstanding
        cases hstanding with
        | absent hclosed => exact .offered hclosed fun hids => hunused (.inl (hlog ▸ hids))
      · rintro r' (⟨y, hy, rfl⟩ | ⟨y, hy, _⟩)
        · obtain rfl := Option.some.inj hy
          exact .inr hfresh
        · simp at hy
    · obtain rfl := Option.some.inj hx
      exact h.unchanged (.inl rfl) rfl rfl howned
  · simp at hx

theorem Sound.taken (h : Sound v s) {x : Option String × Shared κ} {uuid recordId : String}
    (hx : s.execute uuid (.takeReserved i recordId) = some x) :
    Sound (Function.update v i { v i with changing := true, tentative := x.1 }) x.2 := by
  simp only [Shared.execute, Option.map_eq_some_iff] at hx
  obtain ⟨y, hy, rfl⟩ := hx
  rcases Shared.change_cases hy with rfl | ⟨row, hrow, rfl, hreserved, hfree, rfl⟩
  · exact h.unchanged (.inr rfl) rfl rfl (by simp)
  · obtain ⟨hstanding, hused, hopen⟩ := h.visible_reserved hrow hreserved hfree
    have hids : ∀ r, ((∃ x ∈ some { row with status := Status.inProgress }, x.recordId = r) ∨
        ∃ y ∈ some (Effect.acquire row.recordId row.requestFingerprint), y.recordId = r) →
        r = row.recordId := by
      rintro r (⟨x, hx, rfl⟩ | ⟨y, hy, rfl⟩)
      · obtain rfl := Option.some.inj hx
        rfl
      · obtain rfl := Option.some.inj hy
        rfl
    refine h.propose hfree ?_ ?_ hopen ?_ rfl rfl (.inr ⟨rfl, ?_⟩) ?_
    · exact hstanding.take hreserved
    · intro x hx hres
      obtain rfl := Option.some.inj hx
      simp at hres
    · intro r hr
      rw [hids r hr]
      exact .inl hused
    · intro r hr hr'
      rw [hids r hr'] at hr
      exact ((h.fits i).fresh _ hr).2 hused
    · intro r hr
      obtain rfl := Option.some.inj hr
      exact .inl ⟨_, rfl⟩

/-- Each statement, whatever is answered, keeps the invariant. -/
theorem Sound.next {α : Type} {o : Stmt κ α} {a : Except Failure α} (h : Sound v s)
    (ho : Promise i (v i) o) (hm : database s o a s') :
    Sound (Function.update v i (track (v i) ⟨o, a⟩)) s' := by
  obtain ⟨⟨choice, hanswer⟩, hnew⟩ := hm
  unfold answer at hanswer
  split at hanswer
  · obtain ⟨rfl, rfl⟩ := Prod.mk.inj hanswer
    exact h.failed ho choice.durable
  split at hanswer
  · rename_i x s'' hx
    obtain ⟨rfl, rfl⟩ := Prod.mk.inj hanswer
    cases o with
    | uuid4 =>
      obtain ⟨rfl, rfl⟩ := Prod.mk.inj (Option.some.inj hx)
      exact h.uuid4 (hnew _ rfl)
    | insertReserved c recordId fingerprint =>
      obtain ⟨rfl, hfresh, hidle⟩ := ho
      exact h.inserted hfresh hidle hx
    | selectRecord c =>
      obtain rfl := ho
      obtain ⟨rfl, rfl⟩ := Prod.mk.inj (Option.some.inj hx)
      refine h.look ⟨(h.fits c).fresh, (h.fits c).known, ?_, (h.fits c).changing⟩ (.inr rfl)
      intro r hr
      simp only [track, View.after, Option.map_eq_some_iff, Option.filter_eq_some_iff,
        decide_eq_true_eq] at hr
      obtain ⟨row, ⟨hrow, hcompleted⟩, rfl⟩ := hr
      exact .inr (h.seen hrow hcompleted)
    | takeReserved c recordId =>
      obtain rfl := ho
      exact h.taken hx
    | completeInProgress c recordId response =>
      obtain ⟨rfl, hknown, hidle⟩ := ho
      simp only [Shared.execute, Option.map_eq_some_iff] at hx
      obtain ⟨y, hy, hyx⟩ := hx
      obtain ⟨rfl, rfl⟩ := Prod.mk.inj hyx
      have howned := h.tentative_owned hidle
      rcases Shared.change_cases hy with rfl | ⟨row, hrow, rfl, hprogress, hfree, rfl⟩
      · exact h.unchanged (.inr rfl) rfl rfl howned
      · refine h.finish hknown hidle howned hrow hprogress hfree ?_ ?_ rfl
        · intro past hclosed hr _
          exact .settled hclosed hr
        · intro x hx
          obtain rfl := Option.some.inj hx
          exact ⟨rfl, by simp⟩
    | deleteInProgress c recordId =>
      obtain ⟨rfl, hknown, hidle⟩ := ho
      simp only [Shared.execute, Option.map_eq_some_iff] at hx
      obtain ⟨y, hy, hyx⟩ := hx
      obtain ⟨rfl, rfl⟩ := Prod.mk.inj hyx
      have howned := h.tentative_owned hidle
      rcases Shared.change_cases hy with rfl | ⟨row, hrow, rfl, hprogress, hfree, rfl⟩
      · exact h.unchanged (.inr rfl) rfl rfl howned
      · refine h.finish hknown hidle howned hrow hprogress hfree ?_ (by simp) rfl
        intro past hclosed hr _
        exact .absent (.abandoned hclosed hr)
    | commit c =>
      obtain rfl := ho
      obtain ⟨rfl, rfl⟩ := Prod.mk.inj (Option.some.inj hx)
      refine h.committed rfl rfl ?_
      intro r hr
      rcases List.mem_append.mp hr with hr | hr
      · exact .inr (by simpa using hr)
      · exact .inl hr
    | rollback c =>
      obtain rfl := ho
      obtain ⟨rfl, rfl⟩ := Prod.mk.inj (Option.some.inj hx)
      exact h.dropped
  · obtain ⟨rfl, rfl⟩ := Prod.mk.inj hanswer
    exact h.failed ho choice.durable

end Invariant

section Runs

variable {slot : Slot} {scripts : κ → Script}
  {h : History κ (Stmt κ) Failure (Shared κ)}
  {ps : κ → Act κ (List (String × Except Failure Claim))} {s : Shared κ}

theorem Sound.start : Sound (κ := κ) (fun _ => {}) {} where
  standing := .absent .nil
  pending := by simp
  drawn r hr := by simp [Shared.Used, ids] at hr
  fits i := ⟨by simp, by simp, by simp, by simp⟩
  apart := by simp

theorem Run.sound [DecidableEq κ] (honest : ∀ i, (scripts i).Honest [])
    (run : Run database (fun i => (scripts i).program slot i) {} h ps s) :
    Sound (fun i => view track {} i h) s := by
  have hlocal : ∀ i, Safe (.ghost track) (fun g {_} o => Promise i g o) (fun _ _ => True)
      ((scripts i).program slot i) {} :=
    fun i => safe_script slot i (honest i) ⟨rfl, by simp⟩
  refine run.invariant (fun h s => Sound (fun i => view track {} i h) s) hlocal ?_ ?_
  · exact Sound.start
  · intro h s i β o r s' hs ho hm
    rw [view_snoc]
    exact hs.next ho hm

/-- The arguments that `claim` accepts. -/
def Slot.Valid (slot : Slot) : Prop :=
  (8 ≤ slot.idempotencyKey.length ∧ slot.idempotencyKey.length ≤ 128) ∧
    1 ≤ slot.operation.length ∧ slot.operation.length ≤ 80

/-- The record once it is settled: nothing is about to change it. -/
def Shared.Fixed (s : Shared κ) (row : Record) : Prop :=
  s.row = some row ∧ row.status = .completed ∧ s.pending = none

theorem Sound.fixed {v : κ → View} (h : Sound v s) {i : κ} {r : String} {response : Dict}
    (hr : (i, .complete r response) ∈ s.log) : ∃ fingerprint, (i, .acquire r fingerprint) ∈ s.log ∧
      s.Fixed ⟨r, fingerprint, .completed, some response⟩ := by
  obtain ⟨fingerprint, hacquired, hrow⟩ := h.standing.completed hr
  refine ⟨fingerprint, hacquired, hrow, rfl, ?_⟩
  cases hp : s.pending with
  | none => rfl
  | some change =>
    obtain ⟨c, row, effect⟩ := change
    exact absurd rfl ((h.pending c row effect hp).2.2 _ hrow)

/-- Answers to calls while the record is settled, when all failures are in `E`. -/
def Faithful (row : Record) (E : Failure → Prop) : {α : Type} → Stmt κ α → Except Failure α → Prop
  | _, _, .error e => E e
  | _, .selectRecord _, .ok seen => seen = some row
  | _, _, .ok _ => True

/-- What a claim answers once the record is settled. -/
def Replays (row : Record) (E : Failure → Prop) (fingerprint : String) (r : Except Failure Claim) : Prop :=
  (∃ e, r = .error e ∧ E e) ∨
    (fingerprint = row.requestFingerprint → r = .ok ⟨row.recordId, false, row.response⟩) ∧
      (fingerprint ≠ row.requestFingerprint → fingerprint ≠ "" → r = .error .conflict)

/-- A settled record stays as it is, whoever executes what. -/
theorem Shared.Fixed.step [DecidableEq κ] {row : Record} {s' : Shared κ} {α : Type} {o : Stmt κ α}
    {a : Except Failure α} (h : s.Fixed row) (hm : database s o a s') :
    Faithful row (· = .database) o a ∧ s'.Fixed row := by
  obtain ⟨hrow, hcompleted, hpending⟩ := h
  have hvisible : ∀ c, s.visible c = some row := fun c => by simp [Shared.visible, hpending, hrow]
  have hdropped : ∀ c, s.dropped c = s := fun c => by simp [Shared.dropped, hpending]
  have hcommitted : ∀ c, s.committed c = s := fun c => by simp [Shared.committed, hpending]
  have hfailed : ∀ durable, s.failed durable o = s := by
    intro durable
    cases o <;> simp [Shared.failed, Stmt.connection?, hdropped, hcommitted]
  obtain ⟨⟨choice, hanswer⟩, _⟩ := hm
  unfold answer at hanswer
  split at hanswer
  · obtain ⟨rfl, rfl⟩ := Prod.mk.inj hanswer
    rw [hfailed]
    exact ⟨rfl, hrow, hcompleted, hpending⟩
  split at hanswer
  · rename_i x s'' hx
    obtain ⟨rfl, rfl⟩ := Prod.mk.inj hanswer
    have hnone : ∀ {c r status after effect}, status ≠ Status.completed →
        s.change c r status after effect = some (none, s) := by
      intro c r status after effect hstatus
      have hne : ¬ (row.recordId = r ∧ row.status = status) := fun hmatch =>
        hstatus (hmatch.2.symm.trans hcompleted)
      simp [Shared.change, hvisible, hne]
    cases o with
    | uuid4 =>
      obtain ⟨rfl, rfl⟩ := Prod.mk.inj (Option.some.inj hx)
      exact ⟨trivial, hrow, hcompleted, hpending⟩
    | insertReserved c recordId fingerprint =>
      have hfree : s.free c = true := by simp [Shared.free, hpending]
      simp only [Shared.execute, hfree, hvisible, if_true, reduceCtorEq, if_false] at hx
      obtain ⟨rfl, rfl⟩ := Prod.mk.inj (Option.some.inj hx)
      exact ⟨trivial, hrow, hcompleted, hpending⟩
    | selectRecord c =>
      obtain ⟨rfl, rfl⟩ := Prod.mk.inj (Option.some.inj hx)
      exact ⟨hvisible c, hrow, hcompleted, hpending⟩
    | takeReserved c recordId =>
      rw [Shared.execute, hnone (by simp)] at hx
      obtain ⟨rfl, rfl⟩ := Prod.mk.inj (Option.some.inj hx)
      exact ⟨trivial, hrow, hcompleted, hpending⟩
    | completeInProgress c recordId response =>
      rw [Shared.execute, hnone (by simp)] at hx
      obtain ⟨rfl, rfl⟩ := Prod.mk.inj (Option.some.inj hx)
      exact ⟨trivial, hrow, hcompleted, hpending⟩
    | deleteInProgress c recordId =>
      rw [Shared.execute, hnone (by simp)] at hx
      obtain ⟨rfl, rfl⟩ := Prod.mk.inj (Option.some.inj hx)
      exact ⟨trivial, hrow, hcompleted, hpending⟩
    | commit c =>
      obtain ⟨rfl, rfl⟩ := Prod.mk.inj (Option.some.inj hx)
      rw [hcommitted]
      exact ⟨trivial, hrow, hcompleted, hpending⟩
    | rollback c =>
      obtain ⟨rfl, rfl⟩ := Prod.mk.inj (Option.some.inj hx)
      rw [hdropped]
      exact ⟨trivial, hrow, hcompleted, hpending⟩
  · obtain ⟨rfl, rfl⟩ := Prod.mk.inj hanswer
    rw [hfailed]
    exact ⟨rfl, hrow, hcompleted, hpending⟩

/-- The machine of a worker that only knows the answers to be faithful. -/
def settledMachine (row : Record) (E : Failure → Prop) : Machine (Stmt κ) Failure Unit :=
  (Machine.ghost fun g _ => g).restrict fun c => Faithful row E c.op c.answer

theorem safe_settled {α β : Type} {row : Record} {E : Failure → Prop} {o : Stmt κ α}
    {f : α → Act κ β} {Q : Except Failure β → Unit → Prop} (herror : ∀ e, E e → Q (.error e) ())
    (hf : ∀ a, Faithful row E o (.ok a) → Safe (settledMachine row E) (fun _ {_} _ => True) Q (f a) ()) :
    Safe (settledMachine row E) (fun _ {_} _ => True) Q (do let a ← Prog.perform o; f a) () := by
  rw [safe_bind, safe_perform]
  refine ⟨trivial, ?_⟩
  rintro (e | a) _ ⟨_, hr⟩
  · exact herror e hr
  · exact hf a hr

theorem claim_settled {row : Record} {E : Failure → Prop} {c : κ} {fingerprint : String}
    (hvalid : slot.Valid) (hcompleted : row.status = .completed) (hresponse : row.response.isSome)
    (hnonempty : row.requestFingerprint ≠ "") :
    Safe (settledMachine row E) (fun _ {_} _ => True) (fun r _ => Replays row E fingerprint r)
      (claim slot c fingerprint) () := by
  have herror : ∀ e, E e → Replays row E fingerprint (.error e) := fun e he => .inl ⟨e, rfl, he⟩
  unfold claim
  rw [if_neg (not_not.mpr hvalid.1)]
  split
  · rename_i hempty
    obtain rfl : fingerprint = "" := hempty.resolve_left (not_not.mpr hvalid.2)
    exact .inr ⟨fun h => absurd h.symm hnonempty, fun _ h => absurd rfl h⟩
  unfold transaction
  rw [safe_bind, safe_handle]
  have hrollback : ∀ e, Replays row E fingerprint (.error e) →
      Safe (settledMachine row E) (fun _ {_} _ => True)
        (thenSafe (settledMachine row E) (fun _ {_} _ => True)
          (fun r _ => Replays row E fingerprint r) fun a => do
            Prog.perform (Stmt.commit c)
            pure a)
        (do Prog.perform (.rollback c); .raise e) () :=
    fun e he => safe_settled herror fun _ _ => he
  refine safe_settled (fun e he => hrollback e (herror e he)) fun recordId _ => ?_
  refine safe_settled (fun e he => hrollback e (herror e he)) fun _ _ => ?_
  refine safe_settled (fun e he => hrollback e (herror e he)) fun seen hseen => ?_
  obtain rfl : seen = some row := hseen
  refine (safe_ite _ _ _ _).mpr ⟨fun hother => ?_, fun hsame => ?_⟩
  · exact hrollback _ (.inr ⟨fun h => absurd h.symm hother, fun _ _ => rfl⟩)
  · rw [if_pos hcompleted]
    obtain ⟨response, hresponse⟩ := Option.isSome_iff_exists.mp hresponse
    rw [hresponse]
    refine safe_settled herror fun _ _ => .inr ⟨fun _ => ?_, fun h => absurd (not_not.mp hsame).symm h⟩
    rw [hresponse]

theorem script_settled {row : Record} {E : Failure → Prop} {c : κ} (script : Script)
    (hvalid : slot.Valid) (hcompleted : row.status = .completed) (hresponse : row.response.isSome)
    (hnonempty : row.requestFingerprint ≠ "") :
    Safe (settledMachine row E) (fun _ {_} _ => True)
      (fun r _ => ∀ results, r = .ok results → ∀ entry ∈ results, Replays row E entry.1 entry.2)
      (script.program slot c) () := by
  induction script with
  | done =>
    intro results hr
    obtain rfl := Except.ok.inj hr
    simp
  | claim fingerprint next ih =>
    unfold Script.program
    rw [safe_bind, safe_attempt]
    refine (claim_settled hvalid hcompleted hresponse hnonempty).post ?_
    intro r _ hr
    refine (safe_bind _ _ _).mpr ((ih r).post ?_)
    rintro (e | results) _ hrest
    · exact fun _ h => absurd h (by simp)
    · intro all hall
      obtain rfl := Except.ok.inj hall
      exact List.forall_mem_cons.mpr ⟨hr, hrest results rfl⟩
  | complete recordId response next ih =>
    unfold Script.program
    rw [safe_bind, safe_attempt]
    exact (Safe.of_stable (J := fun _ => True) (fun _ _ _ _ _ _ _ => trivial) trivial _).mono
      (fun _ _ _ _ => trivial) fun r _ _ => ih r
  | abandon recordId next ih =>
    unfold Script.program
    rw [safe_bind, safe_attempt]
    exact (Safe.of_stable (J := fun _ => True) (fun _ _ _ _ _ _ _ => trivial) trivial _).mono
      (fun _ _ _ _ => trivial) fun r _ _ => ih r

/-- Only checked arguments are inserted. -/
def Checked (slot : Slot) : {α : Type} → Stmt κ α → Prop
  | _, .insertReserved _ _ fingerprint => slot.Valid ∧ fingerprint ≠ ""
  | _, _ => True

theorem uses_transaction {α : Type} {c : κ} {body : Act κ α} (h : Uses (Checked slot) body) :
    Uses (Checked slot) (transaction c body) :=
  .bind (.handle h fun e => .bind (.perform trivial) fun _ => .raise e) fun _ =>
    .bind (.perform trivial) fun _ => .pure _

theorem uses_claim (c : κ) (fingerprint : String) :
    Uses (Checked slot) (claim slot c fingerprint) := by
  unfold claim
  refine Yields.ite (fun _ => .raise _) fun hkey => Yields.ite (fun _ => .raise _) fun hrequest => ?_
  have hvalid : slot.Valid ∧ fingerprint ≠ "" := by
    have hkey := not_not.mp hkey
    obtain ⟨hoperation, hfingerprint⟩ := not_or.mp hrequest
    exact ⟨⟨hkey, not_not.mp hoperation⟩, hfingerprint⟩
  apply uses_transaction
  refine .bind (.perform trivial) fun _ => .bind (.perform hvalid) fun _ =>
    .bind (.perform trivial) fun row => ?_
  cases row with
  | none => exact .raise _
  | some row =>
    refine .ite (.raise _) (.ite ?_ (.ite (.raise _) (.bind (.perform trivial) fun claimed => ?_)))
    · cases row.response with
      | none => exact .raise _
      | some response => exact .pure _
    · cases claimed with
      | none => exact .raise _
      | some recordId => exact .pure _

theorem uses_script (c : κ) (script : Script) : Uses (Checked slot) (script.program slot c) := by
  induction script with
  | done => exact .pure _
  | claim fingerprint next ih =>
    exact .bind (.attempt (uses_claim c fingerprint)) fun r => .bind (ih r) fun _ => .pure _
  | complete recordId response next ih =>
    refine .bind (.attempt (.bind (uses_transaction (.perform trivial)) fun _ => ?_)) ih
    exact .ite (.raise _) (.pure _)
  | abandon recordId next ih =>
    exact .bind (.attempt (uses_transaction (.perform trivial))) ih

/-- Where a record is, its slot and its fingerprint have passed the checks. -/
def Shared.Vetted (s : Shared κ) (slot : Slot) : Prop :=
  (∀ x ∈ s.row, slot.Valid ∧ x.requestFingerprint ≠ "") ∧
    ∀ c row effect, s.pending = some (c, row, effect) →
      ∀ x ∈ row, slot.Valid ∧ x.requestFingerprint ≠ ""

section Vetting

variable [DecidableEq κ]

theorem Shared.Vetted.dropped (h : s.Vetted slot) (c : κ) : (s.dropped c).Vetted slot := by
  refine ⟨by simpa [Shared.dropped_eq] using h.1, ?_⟩
  intro c' row effect hp
  rw [Shared.dropped_eq] at hp
  exact h.2 c' row effect (Option.filter_eq_some_iff.mp hp).1

/-- A commit makes the row of the pending transaction the row, and that one was vetted with it. -/
theorem Shared.Vetted.committed (h : s.Vetted slot) (c : κ) : (s.committed c).Vetted slot := by
  unfold Shared.committed
  split
  · rename_i c' row effect hp
    split
    · exact ⟨h.2 c' row effect hp, by simp [Shared.changed]⟩
    · exact h
  · exact h

theorem Shared.Vetted.visible (h : s.Vetted slot) (c : κ) :
    ∀ x ∈ s.visible c, slot.Valid ∧ x.requestFingerprint ≠ "" := by
  intro x hx
  unfold Shared.visible at hx
  split at hx
  · rename_i c' row effect hp
    split at hx
    · exact h.2 c' row effect hp x hx
    · exact h.1 x hx
  · exact h.1 x hx

omit [DecidableEq κ] in
theorem Shared.Vetted.propose (h : s.Vetted slot) {c : κ} {row : Option Record} {effect : Option Effect}
    (hrow : ∀ x ∈ row, slot.Valid ∧ x.requestFingerprint ≠ "") :
    Shared.Vetted { s with pending := some (c, row, effect) } slot := by
  refine ⟨h.1, ?_⟩
  intro c' row' effect' hp
  obtain ⟨rfl, rfl, rfl⟩ := (by simpa using hp : c = c' ∧ row = row' ∧ effect = effect')
  exact hrow

/-- A change keeps the fingerprint of the row that it finds. -/
theorem Shared.Vetted.change (h : s.Vetted slot) {c : κ} {r : String} {status : Status}
    {after : Record → Option Record} {effect : Record → Effect} {x : Option Record × Shared κ}
    (hx : s.change c r status after effect = some x)
    (hafter : ∀ row, ∀ y ∈ after row, y.requestFingerprint = row.requestFingerprint) :
    x.2.Vetted slot := by
  rcases Shared.change_cases hx with rfl | ⟨row, hrow, _, _, _, rfl⟩
  · exact h
  · apply h.propose
    intro y hy
    rw [hafter row y hy]
    exact h.visible c row hrow

theorem Shared.Vetted.failed (h : s.Vetted slot) (durable : Bool) {α : Type} (o : Stmt κ α) :
    (s.failed durable o).Vetted slot := by
  cases o with
  | uuid4 => exact h
  | commit c =>
    -- A commit that reports an error may have been carried out.
    cases durable
    · exact h.dropped c
    · exact h.committed c
  | _ => exact h.dropped _

theorem Shared.Vetted.step {s' : Shared κ} {α : Type} {o : Stmt κ α}
    {a : Except Failure α} (h : s.Vetted slot) (ho : Checked slot o) (hm : database s o a s') :
    s'.Vetted slot := by
  obtain ⟨⟨choice, hanswer⟩, _⟩ := hm
  unfold answer at hanswer
  split at hanswer
  · obtain ⟨rfl, rfl⟩ := Prod.mk.inj hanswer
    exact h.failed _ o
  split at hanswer
  · rename_i x s'' hx
    obtain ⟨rfl, rfl⟩ := Prod.mk.inj hanswer
    cases o with
    | uuid4 =>
      obtain ⟨rfl, rfl⟩ := Prod.mk.inj (Option.some.inj hx)
      exact h
    | insertReserved c recordId fingerprint =>
      simp only [Shared.execute] at hx
      split at hx
      · split at hx
        · obtain ⟨rfl, rfl⟩ := Prod.mk.inj (Option.some.inj hx)
          -- The only statement that brings a fingerprint in, which its caller has checked.
          apply h.propose
          intro y hy
          obtain rfl := Option.some.inj hy
          exact ho
        · obtain ⟨rfl, rfl⟩ := Prod.mk.inj (Option.some.inj hx)
          exact h
      · simp at hx
    | selectRecord c =>
      obtain ⟨rfl, rfl⟩ := Prod.mk.inj (Option.some.inj hx)
      exact h
    | takeReserved c recordId =>
      obtain ⟨y, hy, hyx⟩ := Option.map_eq_some_iff.mp hx
      obtain ⟨rfl, rfl⟩ := Prod.mk.inj hyx
      exact h.change hy (by simp)
    | completeInProgress c recordId response =>
      obtain ⟨y, hy, hyx⟩ := Option.map_eq_some_iff.mp hx
      obtain ⟨rfl, rfl⟩ := Prod.mk.inj hyx
      exact h.change hy (by simp)
    | deleteInProgress c recordId =>
      obtain ⟨y, hy, hyx⟩ := Option.map_eq_some_iff.mp hx
      obtain ⟨rfl, rfl⟩ := Prod.mk.inj hyx
      exact h.change hy (by simp)
    | commit c =>
      obtain ⟨rfl, rfl⟩ := Prod.mk.inj (Option.some.inj hx)
      exact h.committed c
    | rollback c =>
      obtain ⟨rfl, rfl⟩ := Prod.mk.inj (Option.some.inj hx)
      exact h.dropped c
  · obtain ⟨rfl, rfl⟩ := Prod.mk.inj hanswer
    exact h.failed _ o

end Vetting

theorem database_error [DecidableEq κ] {s' : Shared κ} {α : Type} {o : Stmt κ α} {f : Failure}
    (hm : database s o (.error f) s') : f = .database := by
  obtain ⟨⟨choice, hanswer⟩, _⟩ := hm
  unfold answer at hanswer
  split at hanswer
  · exact (Except.error.inj (Prod.mk.inj hanswer).1).symm
  split at hanswer
  · exact absurd (Prod.mk.inj hanswer).1 (by simp)
  · exact (Except.error.inj (Prod.mk.inj hanswer).1).symm

theorem Run.vetted [DecidableEq κ]
    (run : Run database (fun i => (scripts i).program slot i) {} h ps s) : s.Vetted slot := by
  have hlocal : ∀ i, Safe (.ghost fun (g : Unit) _ => g) (fun _ {_} o => Checked slot o)
      (fun _ _ => True) ((scripts i).program slot i) () := by
    intro i
    exact (Yields.keeps (uses_script i (scripts i)) (J := fun _ => True)
      (fun _ _ _ _ _ _ _ _ => trivial) trivial).mono (fun _ _ _ h => h.2) fun _ _ _ => trivial
  refine run.invariant (fun _ s => s.Vetted slot) hlocal ?_ ?_
  · exact ⟨by simp, by simp⟩
  · intro h s i β o r s' hs ho hm
    exact hs.step ho hm

/-- From a settled record on: it stays, and the claims of a worker that goes on with new calls are
all replayed, but for those that end in a failure from `E`. -/
theorem Run.settled [DecidableEq κ] {row : Record} {j : κ} {script : Script}
    {h' : History κ (Stmt κ) Failure (Shared κ)}
    {ps' : κ → Act κ (List (String × Except Failure Claim))} {s' : Shared κ}
    (hvetted : s.Vetted slot) (hfixed : s.Fixed row) (hresponse : row.response.isSome)
    (run : Run database ps s h' ps' s') (hj : ps j = script.program slot j) (E : Failure → Prop)
    (hE : ∀ e, (j, e) ∈ h' → ∀ f, e.answer = .error f → E f) :
    s'.Fixed row ∧ ∀ results, ps' j = .ret results → ∀ entry ∈ results, Replays row E entry.1 entry.2 := by
  obtain ⟨hvalid, hnonempty⟩ := hvetted.1 row hfixed.1
  let Q : κ → Except Failure (List (String × Except Failure Claim)) → Unit → Prop := fun i r _ =>
    i = j → ∀ results, r = .ok results → ∀ entry ∈ results, Replays row E entry.1 entry.2
  have hlocal : ∀ i, Safe ((Machine.ghost fun (g : Unit) _ => g).restrict fun c =>
      i = j → Faithful row E c.op c.answer) (fun _ {_} _ => True) (Q i) (ps i) () := by
    intro i
    by_cases hi : i = j
    · subst hi
      rw [hj]
      have hscript := script_settled (c := i) (E := E) script hvalid hfixed.2.1 hresponse hnonempty
      have hmachine : ((Machine.ghost fun (g : Unit) _ => g).restrict fun c : Call (Stmt κ) Failure =>
          i = i → Faithful row E c.op c.answer) = settledMachine row E := by
        unfold settledMachine
        simp only [true_imp_iff]
      rw [hmachine]
      exact hscript.post fun r _ hr _ => hr
    · refine (Safe.of_stable (J := fun _ => True) (fun _ _ _ _ _ _ _ => trivial) trivial _).mono
        (fun _ _ _ _ => trivial) ?_
      exact fun _ _ _ h => absurd h hi
  obtain ⟨hend, hsafe⟩ := run.conditional_invariant
    (P := fun i c => i = j → Faithful row E c.op c.answer)
    (C := fun i e => i = j → ∀ f, e.answer = .error f → E f)
    (G := fun _ _ {_} _ => True) (g := fun _ => ()) (Q := Q) (fun _ s => s.Fixed row) hlocal hfixed
    (by
      intro h s i β o r s' hs _ hm hC
      obtain ⟨hfaithful, hnext⟩ := hs.step hm
      refine ⟨?_, hnext⟩
      intro hi
      cases r with
      | error f => exact hC hi f rfl
      | ok a => cases o <;> exact hfaithful)
    (fun i e he hi => hE e (hi ▸ he))
  refine ⟨hend, ?_⟩
  intro results hresults
  have hlast := hsafe j
  rw [hresults] at hlast
  exact hlast rfl results rfl

/-- Any number of workers, whose statements interleave and may fail: at most one claim is held at
a time. Once a completion is committed, the record stays, and every claim that begins later is
answered with the stored response, or with the conflict if its fingerprint is another one, unless
the database fails it. -/
theorem control_plane_idempotent [DecidableEq κ] (honest : ∀ i, (scripts i).Honest [])
    (run : Run database (fun i => (scripts i).program slot i) {} h ps s) :
    (∀ i j r r', s.Holds i r → s.Holds j r' → i = j ∧ r = r') ∧
      ∀ i r response, (i, .complete r response) ∈ s.log →
        ∃ fingerprint, (i, .acquire r fingerprint) ∈ s.log ∧
          ∀ {h' ps' s'}, Run database ps s h' ps' s' →
            s'.row = some ⟨r, fingerprint, .completed, some response⟩ ∧
            ∀ j (script : Script) results, ps j = script.program slot j → ps' j = .ret results →
              ∀ fingerprint' result, (fingerprint', result) ∈ results →
                (result = .error .database ∧ ∃ e, (j, e) ∈ h' ∧ e.answer = .error .database) ∨
                (fingerprint' = fingerprint → result = .ok ⟨r, false, some response⟩) ∧
                  (fingerprint' ≠ fingerprint → fingerprint' ≠ "" → result = .error .conflict) := by
  have hsound := Run.sound honest run
  have hvetted := Run.vetted run
  constructor
  · intro i j r r' hi hj
    obtain ⟨past, fingerprint, hlog⟩ := hsound.standing.holds hi
    obtain ⟨past', fingerprint', hlog'⟩ := hsound.standing.holds hj
    obtain ⟨_, hlast⟩ := List.append_inj' (hlog.symm.trans hlog') rfl
    obtain ⟨hij, heffect⟩ := Prod.mk.inj (List.cons.inj hlast).1
    exact ⟨hij, (Effect.acquire.inj heffect).1⟩
  · intro i r response hr
    obtain ⟨fingerprint, hacquired, hfixed⟩ := hsound.fixed hr
    refine ⟨fingerprint, hacquired, ?_⟩
    intro h' ps' s' run'
    have hstays := run'.state_invariant (J := fun s' => s'.Fixed ⟨r, fingerprint, .completed, some response⟩)
      hfixed fun _ _ _ _ _ hs hm => (hs.step hm).2
    refine ⟨hstays.1, ?_⟩
    intro j script results hj hresults fingerprint' result hentry
    obtain ⟨_, hreplays⟩ := Run.settled hvetted hfixed rfl run' hj
      (fun f => f = .database ∧ ∃ e, (j, e) ∈ h' ∧ e.answer = .error .database) (by
        intro e he f hf
        have hdatabase : f = .database := by
          obtain ⟨h₁, h₂, rfl⟩ := List.append_of_mem he
          obtain ⟨_, _, _, hm, _⟩ := run'.entry
          rw [hf] at hm
          exact database_error hm
        exact ⟨hdatabase, e, he, hdatabase ▸ hf⟩)
    rcases hreplays results hresults _ hentry with ⟨f, hf, rfl, hfailed⟩ | hexact
    · exact .inl ⟨hf, hfailed⟩
    · exact .inr hexact

section Demo

def demoSlot : Slot := ⟨"demo-shop", "failure_review", "review-key-001"⟩

def demoResponse : Dict := [("status", .str "reviewed")]

/-- One worker claims and completes; the other one then claims twice. -/
def demoScripts : Bool → Script
  | true => .claim "sha256:a" fun
    | .ok a => .complete a.recordId demoResponse fun _ => .done
    | .error _ => .done
  | false => .claim "sha256:a" fun _ => .claim "sha256:b" fun _ => .done

theorem demoScripts_honest (i : Bool) : (demoScripts i).Honest [] := by
  cases i
  · simp [demoScripts, Script.Honest]
  · refine ⟨fun _ => trivial, fun a => ⟨List.mem_cons_self, fun _ => trivial⟩⟩

def demoRun (workers : List Bool) (first : ℕ)
    (ps : Bool → Act Bool (List (String × Except Failure Claim))) (s : Shared Bool) :
    History Bool (Stmt Bool) Failure (Shared Bool) ×
      (Bool → Act Bool (List (String × Except Failure Claim))) × Shared Bool :=
  play answer (workers.mapIdx fun n worker => (worker, ⟨false, false, toString (first + n)⟩)) ps s

def demoFirst := demoRun (List.replicate 7 true) 0 (fun i => (demoScripts i).program demoSlot i) {}

def demoSecond := demoRun (List.replicate 8 false) 7 demoFirst.2.1 demoFirst.2.2

def freshly (h : History Bool (Stmt Bool) Failure (Shared Bool)) : Bool :=
  h.all fun e => match e.2.after.drawn with
    | r :: rest => rest ≠ e.2.before.drawn ∨ r ∉ e.2.before.drawn
    | [] => true

theorem demoRun_run {workers : List Bool} {first : ℕ}
    {ps : Bool → Act Bool (List (String × Except Failure Claim))} {s : Shared Bool}
    (hfresh : freshly (demoRun workers first ps s).1 = true) :
    Run database ps s (demoRun workers first ps s).1 (demoRun workers first ps s).2.1
      (demoRun workers first ps s).2.2 := by
  refine (play_run answer _ ps s).refine ?_
  intro i e he hm
  refine ⟨hm, ?_⟩
  intro r hr
  have hentry := List.all_eq_true.mp hfresh _ he
  simp only [hr, ne_eq, not_true_eq_false, false_or, decide_eq_true_eq] at hentry
  exact hentry

end Demo

theorem demoFirst_log : demoFirst.2.2.log =
    [(true, .acquire "0" "sha256:a"), (true, .complete "0" demoResponse)] := by rfl

theorem control_plane_idempotent_demo :
    demoSecond.2.2.row = some ⟨"0", "sha256:a", .completed, some demoResponse⟩ := by
  have hfirst : freshly demoFirst.1 = true := by decide +kernel
  have hsecond : freshly demoSecond.1 = true := by decide +kernel
  obtain ⟨_, hsettled⟩ := control_plane_idempotent demoScripts_honest (demoRun_run hfirst)
  have hcompleted : (true, Effect.complete "0" demoResponse) ∈ demoFirst.2.2.log := by
    simp [demoFirst_log]
  obtain ⟨fingerprint, hacquired, hstays⟩ := hsettled true "0" demoResponse hcompleted
  have hacquired : (true, Effect.acquire "0" fingerprint) ∈ demoFirst.2.2.log := hacquired
  have hrow := (hstays (demoRun_run hsecond)).1
  obtain rfl : fingerprint = "sha256:a" := by simpa [demoFirst_log] using hacquired
  exact hrow

end Runs

end CommerceAgent.ControlPlane
