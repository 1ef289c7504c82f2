import CommerceAgent.MutationWorkflow

/-! What the first calls of a confirmation leave: nothing at all, or a fresh intent beside its
consumed token. -/
namespace CommerceAgent

open Json Tables Programs

/-- A consumption that committed. -/
def Event.consumes : Event → Bool
  | ⟨.tokens (.consumeAndInsert _), .ok _⟩ => true
  | _ => false

/-- A checkpoint that committed. -/
def Event.commits : Event → Bool
  | ⟨.runs (.commitStep _), .ok _⟩ => true
  | _ => false

/-- Some call that happened satisfies `f`. -/
def saw (f : Event → Bool) (t : List (Happened Op Exc DB)) : Bool := t.any fun e => f e.toCall

@[simp] theorem saw_snoc (f : Event → Bool) (t : List (Happened Op Exc DB))
    (e : Happened Op Exc DB) : saw f (t ++ [e]) = (saw f t || f e.toCall) := by
  simp [saw]

/-- Nothing has been written. -/
structure Untouched (db₀ : DB) (s : Recorded) : Prop where
  same : s.1 = db₀
  consumes : saw Event.consumes s.2 = false
  commits : saw Event.commits s.2 = false

/-- One consumption has been committed, and nothing else. -/
structure FreshIntent (params : ConsumeParams) (db₀ : DB) (reservation : IdempotencyReservation)
    (s : Recorded) : Prop where
  consumed : ∃ env token, params.Consumed env token db₀ s.1 ∧
    reservation = ⟨env.uuid, .reserved, false⟩
  consumes : saw Event.consumes s.2 = true
  commits : saw Event.commits s.2 = false

/-- What a reservation leaves: a reuse or an exception wrote nothing. -/
def Reserved (params : ConsumeParams) (db₀ : DB) :
    Except Exc IdempotencyReservation → Recorded → Prop
  | .ok reservation, s =>
    if reservation.reused then Untouched db₀ s else FreshIntent params db₀ reservation s
  | .error _, s => Untouched db₀ s

section Steps

variable {db₀ db db' : DB} {params : ConsumeParams}

theorem Untouched.read {α : Type} {o : Op α} {r : Except Exc α} {t : List (Happened Op Exc DB)}
    (h : Untouched db₀ (db, t)) (hdb : db' = db)
    (hconsumes : Event.consumes ⟨o, r⟩ = false) (hcommits : Event.commits ⟨o, r⟩ = false) :
    Untouched db₀ (db', t ++ [⟨⟨o, r⟩, db, db'⟩]) := by
  refine ⟨hdb.trans h.same, ?_, ?_⟩
  · rw [saw_snoc, h.consumes, hconsumes]
    rfl
  · rw [saw_snoc, h.commits, hcommits]
    rfl

theorem Untouched.consume {t : List (Happened Op Exc DB)} {env : Env} {token : ConfirmationToken}
    (h : Untouched db₀ (db, t)) (hc : params.Consumed env token db db') :
    FreshIntent params db₀ ⟨env.uuid, .reserved, false⟩ (db', t ++
      [⟨⟨.tokens (.consumeAndInsert params), .ok ⟨env.uuid, .reserved, false⟩⟩, db, db'⟩]) := by
  obtain rfl : db = db₀ := h.same
  refine ⟨⟨env, token, hc, rfl⟩, ?_, ?_⟩
  · rw [saw_snoc, h.consumes]
    rfl
  · rw [saw_snoc, h.commits]
    rfl

end Steps

section Calls

/- A guard that every untouched state satisfies. -/
variable {db₀ : DB} {G : Recorded → {β : Type} → Op β → Prop} {s : Recorded}
  {params : ConsumeParams} (hG : ∀ {s}, Untouched db₀ s → ∀ {β : Type} (o : Op β), G s o)

include hG

theorem safe_requireWaiting {context : RunContext} {tokenHash message : String}
    (h : Untouched db₀ s) :
    Safe store.recording G (fun _ s' => Untouched db₀ s')
      (requireWaiting context tokenHash message) s := by
  obtain ⟨db, t⟩ := s
  simp only [requireWaiting, safe_bind]
  refine safe_tx rfl (hG h _) (fun e => h.read rfl rfl rfl) ?_
  intro env record db' hx
  obtain rfl : db = db' := congrArg Prod.snd (Except.ok.inj hx)
  have hread : Untouched db₀ (db, t ++ [⟨⟨.tokens (.loadForRun context.runId context.tenantId
    context.actorId (some tokenHash)), .ok record⟩, db, db⟩]) := h.read rfl rfl rfl
  cases record with
  | none => exact hread
  | some record =>
    simp only [thenSafe_ok, safe_ite]
    exact ⟨fun _ => hread, fun _ => hread⟩

omit hG in
theorem safe_matchExisting_untouched {existing : Uuid × String × MutationExecutionStatus}
    {fingerprint : String} (h : Untouched db₀ s) :
    Safe store.recording G (Reserved params db₀) (matchExisting existing fingerprint) s := by
  unfold matchExisting
  split <;> exact h

/-- The pre-read, and the one after an integrity error, go on from an untouched state. -/
theorem safe_loadIdempotency
    {f : Option (Uuid × String × MutationExecutionStatus) → Act IdempotencyReservation}
    (h : Untouched db₀ s)
    (hf : ∀ existing s, Untouched db₀ s → Safe store.recording G (Reserved params db₀) (f existing) s) :
    Safe store.recording G (Reserved params db₀)
      (Prog.perform (.tokens (.loadIdempotency params.tenantId params.operation
        params.idempotencyKeyHash)) >>= f) s := by
  obtain ⟨db, t⟩ := s
  rw [safe_bind]
  refine safe_tx rfl (hG h _) (fun e => h.read rfl rfl rfl) ?_
  intro env existing db' hx
  obtain rfl : db = db' := congrArg Prod.snd (Except.ok.inj hx)
  exact hf existing _ (h.read rfl rfl rfl)

theorem safe_consumeAndReserve_untouched (h : Untouched db₀ s) :
    Safe store.recording G (Reserved params db₀) (consumeAndReserve params) s := by
  refine safe_loadIdempotency hG h fun existing s h => ?_
  cases existing with
  | some existing => exact safe_matchExisting_untouched h
  | none =>
    obtain ⟨db, t⟩ := s
    simp only [safe_handle]
    refine safe_tx rfl (hG h _) (fun e => ?_) ?_
    · have hfail : Untouched db₀ (db, t ++ [⟨⟨.tokens (.consumeAndInsert params), .error e⟩, db,
        db⟩]) := h.read rfl rfl rfl
      cases e with
      | integrity =>
        refine safe_loadIdempotency hG hfail fun existing s h => ?_
        cases existing with
        | none => exact h
        | some existing => exact safe_matchExisting_untouched h
      | _ => exact hfail
    · intro env reservation db' hx
      obtain ⟨rfl, token, hc⟩ := consumeAndInsert_consumed hx
      exact h.consume hc

theorem safe_reserveConfirmation (params : ConsumeParams) (h : Untouched db₀ s) :
    Safe store.recording G (Reserved params db₀) (reserveConfirmation params) s := by
  rw [reserveConfirmation, safe_handle]
  refine (safe_consumeAndReserve_untouched hG h).post ?_
  intro r s' hs'
  cases r with
  | ok reservation => exact hs'
  | error e => cases e <;> exact hs'

end Calls

end CommerceAgent
