import CommerceAgent.LowRisk
import CommerceAgent.Sessions

/-! Whose orders the business systems are asked to change. -/
namespace CommerceAgent

open Json Tables Programs

variable (π : Platform) (orders : List DemoOrder)

/-- The table of orders has the resource, as the actor's. -/
def Owned (actorId resourceRef : String) : Prop :=
  ∃ order ∈ orders, order.orderId = resourceRef ∧ order.ownerId = actorId

instance (actorId resourceRef : String) : Decidable (Owned orders actorId resourceRef) :=
  inferInstanceAs (Decidable (∃ order ∈ orders, _))

/-- The actor and the resource of a business commit. -/
def WorldOp.committed? : {α : Type} → WorldOp α → Option (String × String)
  | _, .commit _ _ actorId resourceRef _ _ => some (actorId, resourceRef)
  | _, _ => none

def Op.committed? {α : Type} : Op α → Option (String × String)
  | .world w => w.committed?
  | _ => none

/-- A state with a preview holds the resource of the preview, an order of the actor. -/
def BoundState (actorId : String) (state : Dict) : Prop :=
  state.get? "mutation_preview_hash" ≠ none →
    ∃ ref, state.get? "mutation_resource_ref" = some (.str ref) ∧ Owned orders actorId ref

structure BoundContext (actorId : String) (context : RunContext) : Prop where
  actor : context.actorId = actorId
  state : BoundState orders actorId context.state

/-- What the write paths promise about each call: checkpoints of the run are bound, and commits
are on orders of the actor. -/
structure Op.Fair (entering : RunContext) {α : Type} (o : Op α) : Prop where
  checkpoint : ∀ p, o.commit? = some p → p.runId = entering.runId →
    BoundContext orders entering.actorId p.checkpoint
  resource : ∀ c, o.committed? = some c → Owned orders c.1 c.2

/-- Whether a low-risk request stays on the orders of the actor: it is refused before anything
is reserved, or it names one of them. -/
def LowRiskOwn (actorId route : String) (arguments : Dict) : Prop :=
  route ∈ LOW_RISK_ROUTES → lowRiskMissing route arguments = [] →
    Owned orders actorId (lowRiskResource π arguments)

/-- Every checkpoint of the run is bound. -/
def DB.Bound (entering : RunContext) (db : DB) : Prop :=
  ∀ c ∈ db.checkpoints.rows, c.runId = entering.runId →
    BoundContext orders entering.actorId c.stateJson

variable {π orders}

section States

variable {actorId : String} {state state' : Dict}

/-- The two entries that bind a state are the same. -/
def SameBinding (state state' : Dict) : Prop :=
  state'.get? "mutation_preview_hash" = state.get? "mutation_preview_hash" ∧
    state'.get? "mutation_resource_ref" = state.get? "mutation_resource_ref"

theorem SameBinding.refl (state : Dict) : SameBinding state state := ⟨rfl, rfl⟩

theorem SameBinding.trans {state'' : Dict} (h : SameBinding state state')
    (h' : SameBinding state' state'') : SameBinding state state'' :=
  ⟨h'.1.trans h.1, h'.2.trans h.2⟩

theorem SameBinding.set (state : Dict) {key : String} (v : Value)
    (hpreview : key ≠ "mutation_preview_hash") (hresource : key ≠ "mutation_resource_ref") :
    SameBinding state (state.set key v) :=
  ⟨Dict.get?_set_of_ne _ _ hpreview, Dict.get?_set_of_ne _ _ hresource⟩

theorem SameBinding.update (state : Dict) {d : Dict}
    (hpreview : "mutation_preview_hash" ∉ d.map Prod.fst)
    (hresource : "mutation_resource_ref" ∉ d.map Prod.fst) :
    SameBinding state (state.update d) :=
  ⟨Dict.get?_update_of_not_mem _ hpreview, Dict.get?_update_of_not_mem _ hresource⟩

theorem BoundState.same (h : BoundState orders actorId state) (hs : SameBinding state state') :
    BoundState orders actorId state' := by
  intro hpreview
  rw [hs.1] at hpreview
  obtain ⟨ref, href, howned⟩ := h hpreview
  exact ⟨ref, hs.2.trans href, howned⟩

theorem sameBinding_committing (state : Dict) (recordId keyHash : String) :
    SameBinding state (committingState state recordId keyHash) :=
  ((SameBinding.set _ _ (by decide) (by decide)).trans
    (SameBinding.set _ _ (by decide) (by decide))).trans
    (SameBinding.set _ _ (by decide) (by decide))

theorem sameBinding_stateAfter (completion : MutationCompletion) (state : Dict) :
    SameBinding state (completion.stateAfter state) := by
  unfold MutationCompletion.stateAfter
  split
  · exact (SameBinding.set _ _ (by decide) (by decide)).trans
      (SameBinding.set _ _ (by decide) (by decide))
  · exact SameBinding.set _ _ (by decide) (by decide)

theorem sameBinding_ticket (state : Dict) (ticketId : Option Uuid) :
    SameBinding state (match ticketId with
      | some ticketId => state.set "handoff_ticket_id" (.str ticketId)
      | none => state) := by
  cases ticketId with
  | none => exact .refl _
  | some ticketId => exact SameBinding.set _ _ (by decide) (by decide)

theorem sameBinding_uncertain (c : Confirmation) (outcome : MutationExecutionOutcome)
    (readback : Option Dict) (ticketId : Option Uuid) :
    SameBinding c.committing.state (c.uncertainState outcome readback ticketId) := by
  unfold Confirmation.uncertainState
  refine .trans ?_ (sameBinding_ticket _ ticketId)
  refine .trans (SameBinding.set _ _ (by decide) (by decide) :
    SameBinding _ (c.committing.state.set "mutation_outcome" (.str outcome.status.value))) ?_
  split
  · cases readback with
    | none => exact SameBinding.update _ (by simp [readbackReference]) (by simp [readbackReference])
    | some found =>
      exact SameBinding.update _ (by simp [readbackReference]) (by simp [readbackReference])
  · exact .refl _

theorem sameBinding_lowRisk (context : RunContext) (route : String) (arguments : Dict) :
    SameBinding context.state (lowRiskState context route arguments) :=
  SameBinding.update _ (by simp) (by simp)

theorem sameBinding_lowRiskAfter (completion : MutationCompletion) (state : Dict) :
    SameBinding state (completion.lowRiskAfter state) := by
  unfold MutationCompletion.lowRiskAfter
  split
  · exact (SameBinding.set _ _ (by decide) (by decide)).trans
      (SameBinding.set _ _ (by decide) (by decide))
  · exact SameBinding.set _ _ (by decide) (by decide)

end States

section Planner

theorem ownOrder_owned {actorId : String} {orderId : Option String} {order : DemoOrder}
    (h : ownOrder orders actorId orderId = some order) : Owned orders actorId order.orderId := by
  obtain ⟨hfind, howner⟩ := Option.filter_eq_some_iff.mp h
  refine ⟨order, ?_, rfl, of_decide_eq_true howner⟩
  exact List.mem_reverse.mp (List.mem_of_find?_eq_some hfind)

/-- The planner gives previews of the actor's own orders only. -/
theorem prepare_owned {mutationType actorId policyVersion : String} {arguments : Dict}
    {preview : MutationPreview}
    (h : prepare π mutationType actorId arguments orders policyVersion = .ok preview) :
    Owned orders actorId preview.resourceRef := by
  unfold prepare at h
  split at h
  · exact absurd h (by simp)
  · obtain ⟨normalized, _, h⟩ := Except.bind_eq_ok.mp h
    split at h
    · exact absurd h (by simp)
    · split at h
      · exact absurd h (by simp)
      · rename_i order horder
        obtain ⟨_, _, h⟩ := Except.bind_eq_ok.mp h
        dsimp only at h
        split at h
        · exact absurd h (by simp)
        · obtain rfl := Except.ok.inj h
          exact ownOrder_owned horder

end Planner

section Programs

variable {entering context : RunContext}

theorem Op.Fair.quiet {α : Type} {o : Op α} (hcommit : o.commit? = none)
    (hresource : o.committed? = none) : o.Fair orders entering :=
  ⟨fun p hp => absurd (hcommit.symm.trans hp) (by simp),
    fun c hc => absurd (hresource.symm.trans hc) (by simp)⟩

theorem fair_records {α : Type} (t : RecordTx α) : (Op.records t).Fair orders entering :=
  .quiet rfl rfl

theorem fair_tokens {α : Type} (t : TokenTx α) : (Op.tokens t).Fair orders entering :=
  .quiet rfl rfl

theorem fair_tickets {α : Type} (t : TicketTx α) : (Op.tickets t).Fair orders entering :=
  .quiet rfl rfl

theorem fair_audit (tenantId actorRef eventType : String) :
    (Op.world (.auditAppend tenantId actorRef eventType)).Fair orders entering :=
  .quiet rfl rfl

/-- A checkpoint of a bound state. -/
theorem uses_checkpoint_fair {status : RunStatus} {nextStep : String} {state : Dict}
    {events : List DomainEvent} {c : Option MutationCompletion}
    (hactor : context.actorId = entering.actorId)
    (hstate : BoundState orders entering.actorId state) :
    Uses (Op.Fair orders entering) (commitCheckpoint context status nextStep state events c) := by
  refine uses_commitCheckpoint_of (fun _ => ⟨?_, fun c hc => absurd hc ?_⟩) (.quiet rfl rfl)
  · intro p hp _
    obtain rfl := Option.some.inj hp
    exact ⟨hactor, hstate⟩
  · simp [Op.committed?]

theorem yields_planMutation {mutationType actorId : String} {arguments : Dict} :
    Yields (Op.Fair orders entering) (fun preview => Owned orders actorId preview.resourceRef)
      (planMutation π mutationType actorId arguments orders) := by
  unfold planMutation
  split
  · rename_i preview hpreview
    exact .pure (prepare_owned hpreview)
  · exact .raise _
  · exact .raise _

/-- A preparation binds its checkpoint to an order of the actor. -/
theorem uses_prepare_fair {mutationType : String} {arguments : Dict}
    (h : BoundContext orders entering.actorId context) :
    Uses (Op.Fair orders entering) (prepareMutation π context mutationType arguments orders) := by
  refine Yields.bind yields_planMutation fun preview hpreview => ?_
  refine Uses.bind (.perform (.quiet rfl rfl)) fun now => ?_
  refine .bind (.perform (.quiet rfl rfl)) fun token => ?_
  refine .bind (.perform (fair_tokens _)) fun _ => ?_
  refine .bind (uses_checkpoint_fair h.actor fun _ => ?_) fun version => .pure _
  refine ⟨preview.resourceRef, ?_, h.actor ▸ hpreview⟩
  simp [MutationPreview.stateUpdate]

theorem uses_refresh_fair (h : BoundContext orders entering.actorId context) :
    Uses (Op.Fair orders entering) (refreshMutationToken π context) := by
  unfold refreshMutationToken
  refine .ite (.raise _) (.bind (.perform (fair_tokens _)) fun record => ?_)
  split
  · refine .ite (.raise _) (.bind (.perform (.quiet rfl rfl)) fun now => ?_)
    refine .bind (.perform (.quiet rfl rfl)) fun token => ?_
    refine .bind (.perform (fair_tokens _)) fun _ => ?_
    refine .bind (uses_checkpoint_fair h.actor (h.state.same ?_)) fun version => .pure _
    exact SameBinding.set _ _ (by decide) (by decide)
  · exact .raise _

theorem uses_reject_fair {tokenHash : String} (h : BoundContext orders entering.actorId context) :
    Uses (Op.Fair orders entering) (rejectMutation context tokenHash) := by
  refine .bind (uses_requireWaiting fair_tokens _ _ _) fun record => ?_
  refine .bind (uses_rejectToken fair_tokens _ _ _ _) fun _ => ?_
  refine .bind (uses_checkpoint_fair h.actor (h.state.same ?_)) fun version => .pure _
  exact SameBinding.set _ _ (by decide) (by decide)

/-- What a confirmation holds once it is committing. -/
structure Confirmation.Holds (orders : List DemoOrder) (entering : RunContext)
    (c : Confirmation) : Prop where
  context : c.context.actorId = entering.actorId
  committing : c.committing.actorId = entering.actorId
  resource : ∃ ref, c.committing.state.get? "mutation_resource_ref" = some (.str ref) ∧
    Owned orders entering.actorId ref

section Confirmations

variable {c : Confirmation} {options : ConfirmOptions}

theorem Confirmation.Holds.bound {state : Dict} (h : c.Holds orders entering)
    (hs : SameBinding c.committing.state state) : BoundState orders entering.actorId state := by
  intro _
  obtain ⟨ref, href, howned⟩ := h.resource
  exact ⟨ref, hs.2.trans href, howned⟩

theorem uses_adapter_fair (h : c.Holds orders entering) (key : String) :
    Uses (Op.Fair orders entering) (c.adapter π key) := by
  unfold Confirmation.adapter
  split
  · exact .raise _
  · refine .perform ⟨fun p hp => absurd hp (by simp [Op.commit?]), fun found hfound => ?_⟩
    obtain rfl := Option.some.inj hfound
    obtain ⟨ref, href, howned⟩ := h.resource
    rw [href]
    exact h.context ▸ howned

theorem yields_checkpointCompletion (h : c.Holds orders entering)
    (completion : MutationCompletion) :
    Yields (Op.Fair orders entering) (fun left => SameBinding c.committing.state left.2)
      (c.checkpointCompletion completion) := by
  have hsame := sameBinding_stateAfter completion c.committing.state
  refine Yields.bind (uses_checkpoint_fair h.committing (h.bound hsame)) fun version _ => ?_
  exact .pure hsame

theorem uses_settleUnsuccessful_fair (h : c.Holds orders entering)
    (outcome : MutationExecutionOutcome) (left : Option (ℕ × Dict)) :
    Uses (Op.Fair orders entering) (c.settleUnsuccessful options outcome left) := by
  unfold Confirmation.settleUnsuccessful Confirmation.readback Confirmation.handOver
  refine .bind (.ite (.perform (.quiet rfl rfl)) (.pure _)) fun readback => ?_
  refine .bind (.ite (uses_createHandoff fair_tickets fair_audit _ _ _ _ _) (.pure _)) fun ticketId => ?_
  cases left with
  | none => exact .raise _
  | some left =>
    have hsame := sameBinding_uncertain c outcome readback ticketId
    rw [requireOutcomeVersion, Prog.pure_eq_ret, Prog.ret_bind]
    exact .bind (uses_checkpoint_fair h.committing (h.bound hsame)) fun version => .pure _

theorem uses_settleSucceeded_fair (h : c.Holds orders entering) {left : Option (ℕ × Dict)}
    (hleft : ∀ l, left = some l → SameBinding c.committing.state l.2) :
    Uses (Op.Fair orders entering) (c.settleSucceeded π options left) := by
  cases left with
  | none => exact .raise _
  | some left =>
    obtain ⟨version, state⟩ := left
    have hstate : SameBinding c.committing.state
        (if state.isEmpty then c.committing.state else state) := by
      split
      · exact .refl _
      · exact hleft _ rfl
    have hverifying := hstate.trans (SameBinding.set _ (.str "succeeded")
      (by decide : "mutation_outcome" ≠ "mutation_preview_hash") (by decide))
    have hset : ∀ {key : String} (v : Value), key ≠ "mutation_preview_hash" →
        key ≠ "mutation_resource_ref" → SameBinding c.committing.state
          (((if state.isEmpty then c.committing.state else state).set "mutation_outcome"
            (.str "succeeded")).set key v) :=
      fun v hpreview hresource => hverifying.trans (SameBinding.set _ v hpreview hresource)
    unfold Confirmation.settleSucceeded
    rw [requireOutcomeVersion, Prog.pure_eq_ret, Prog.ret_bind]
    refine .bind (.perform (.quiet rfl rfl)) fun verified => .ite ?_ ?_
    · refine .bind (uses_createHandoff fair_tickets fair_audit _ _ _ _ _) fun ticketId => ?_
      have hmismatch := (hset (.str "verification_mismatch")
        (by decide : "mutation_outcome" ≠ "mutation_preview_hash") (by decide)).trans
          (sameBinding_ticket _ ticketId)
      exact .bind (uses_checkpoint_fair h.committing (h.bound hmismatch)) fun version => .pure _
    · have hverified := hset (.obj [("operation", .str c.operation), ("status", .str "applied")])
        (by decide : "verified_state" ≠ "mutation_preview_hash") (by decide)
      exact .bind (uses_checkpoint_fair h.committing (h.bound hverified)) fun version => .pure _

theorem uses_confirmation_fair (h : c.Holds orders entering) :
    Uses (Op.Fair orders entering) (c.run π options) := by
  refine Yields.bind (yields_execute fair_records (uses_adapter_fair h) (yields_checkpointCompletion h))
    fun executed hleft => ?_
  obtain ⟨outcome, left⟩ := executed
  exact .ite (fun _ => uses_settleUnsuccessful_fair h outcome left)
    fun _ => uses_settleSucceeded_fair h hleft

/-- A confirmation commits on the order that the confirmed preview was about. -/
theorem uses_confirm_fair {tokenPlaintext idempotencyKey : String}
    (h : BoundContext orders entering.actorId context) :
    Uses (Op.Fair orders entering)
      (confirmMutation π options context tokenPlaintext idempotencyKey) := by
  refine .bind (uses_requireWaiting fair_tokens _ _ _) fun record => ?_
  refine Yields.ite (fun _ => .raise _) fun hpreview => ?_
  have hresource : ∃ ref, context.state.get? "mutation_resource_ref" = some (.str ref) ∧
      Owned orders entering.actorId ref := by
    refine h.state fun hnone => ?_
    rw [Dict.getStr?, hnone] at hpreview
    exact hpreview (by simp)
  refine Uses.bind (uses_reserveConfirmation fair_tokens _) fun reservation => .ite (.pure _) ?_
  have hcommitting := sameBinding_committing context.state reservation.recordId
    (hashSecret π idempotencyKey)
  refine Yields.bind (Yields.bind (uses_checkpoint_fair h.actor (h.state.same hcommitting))
    fun version _ => Yields.pure (R := Confirmation.Holds orders entering) ⟨h.actor, h.actor, ?_⟩)
    fun c hc => uses_confirmation_fair hc
  obtain ⟨ref, href, howned⟩ := hresource
  exact ⟨ref, hcommitting.2.trans href, howned⟩

end Confirmations

section LowRisk

variable {options : ConfirmOptions} {route : String} {arguments : Dict}

theorem uses_lowRiskUnknown_fair {outcome : MutationExecutionOutcome} {state : Dict} {version : ℕ}
    (hactor : context.actorId = entering.actorId)
    (hstate : BoundState orders entering.actorId state) :
    Uses (Op.Fair orders entering)
      (lowRiskUnknown options context route outcome state version) := by
  unfold lowRiskUnknown lowRiskHandoff
  refine .bind (.bind (uses_createTicket fair_tickets options _) fun ticketId => ?_) fun ticketId => ?_
  · exact .ite (.bind (.perform (fair_audit _ _ _)) fun _ => .pure _) (.pure _)
  · refine .bind (uses_checkpoint_fair hactor (hstate.same ?_)) fun finalVersion => .pure _
    exact (SameBinding.set state _ (by decide) (by decide)).trans (sameBinding_ticket _ ticketId)

/-- The low-risk workflow looks at no order: it is fair on requests that name one of the actor. -/
theorem uses_lowRisk_fair (h : BoundContext orders entering.actorId context)
    (hown : LowRiskOwn π orders entering.actorId route arguments) :
    Uses (Op.Fair orders entering) (executeLowRisk π options context route arguments) := by
  unfold executeLowRisk
  refine Yields.ite (fun _ => .raise _) fun hroute => Yields.ite (fun _ => .raise _) fun hmissing => ?_
  have howned := hown (not_not.mp hroute) (not_not.mp hmissing)
  have hstart := sameBinding_lowRisk context route arguments
  refine Uses.bind (uses_reserve π fair_records _ _) fun _ => ?_
  refine Yields.bind (yields_execute (R := fun left => SameBinding context.state left.2)
    fair_records (fun key => ?_) fun completion => ?_) fun executed hleft => ?_
  · refine .perform ⟨fun p hp => absurd hp (by simp [Op.commit?]), fun c hc => ?_⟩
    obtain rfl := Option.some.inj hc
    exact h.actor ▸ howned
  · have hafter := hstart.trans (sameBinding_lowRiskAfter completion _)
    refine Yields.bind (uses_checkpoint_fair h.actor (h.state.same hafter)) fun version _ => ?_
    exact .pure hafter
  · obtain ⟨outcome, left⟩ := executed
    have hstate : SameBinding context.state (left.getD
        (context.checkpointVersion, lowRiskState context route arguments)).2 := by
      cases left with
      | none => exact hstart
      | some left => exact hleft left rfl
    refine .ite (fun _ => ?_) fun _ => Uses.ite (.pure _) (.pure _)
    exact uses_lowRiskUnknown_fair h.actor (h.state.same hstate)

end LowRisk

end Programs

section Sessions

variable (π orders)

/-- A request of the write routes. -/
inductive WriteRequest where
  | prepare (mutationType : String) (arguments : Dict)
  | refresh
  | reject (tokenHash : String)
  | confirm (options : ConfirmOptions) (tokenPlaintext idempotencyKey : String)
  | lowRisk (options : ConfirmOptions) (route : String) (arguments : Dict)

/-- Every request goes on with the latest checkpoint of the run. -/
def WriteRequest.serve (entering : RunContext) : WriteRequest → DB → Act Unit
  | .prepare mutationType arguments, db => do
    let _ ← prepareMutation π (entering.current db) mutationType arguments orders
    pure ()
  | .refresh, db => do
    let _ ← refreshMutationToken π (entering.current db)
    pure ()
  | .reject tokenHash, db => do
    let _ ← rejectMutation (entering.current db) tokenHash
    pure ()
  | .confirm options tokenPlaintext idempotencyKey, db => do
    let _ ← confirmMutation π options (entering.current db) tokenPlaintext idempotencyKey
    pure ()
  | .lowRisk options route arguments, db => do
    let _ ← executeLowRisk π options (entering.current db) route arguments
    pure ()

/-- Whether a request stays on the orders of the actor; the planner sees to the other four. -/
def WriteRequest.StaysOwn (actorId : String) : WriteRequest → Prop
  | .lowRisk _ route arguments => LowRiskOwn π orders actorId route arguments
  | _ => True

variable {π orders} {entering : RunContext} {db db' : DB}

theorem DB.Bound.current (h : db.Bound orders entering)
    (hentering : BoundContext orders entering.actorId entering) :
    BoundContext orders entering.actorId (entering.current db) := by
  unfold RunContext.current
  cases hc : db.latestCheckpoint entering.runId with
  | none => exact hentering
  | some c =>
    obtain ⟨hmem, hid⟩ := List.mem_filter.mp (latestBy_mem hc)
    exact h c hmem (of_decide_eq_true hid)

/-- Only a commit writes a checkpoint, and a fair one writes a bound one. -/
theorem DB.Bound.step {α : Type} {o : Op α} {r : Except Exc α} (h : db.Bound orders entering)
    (ho : o.Fair orders entering) (hm : store db o r db') : db'.Bound orders entering := by
  have hsame : db'.checkpoints = db.checkpoints → db'.Bound orders entering := by
    intro hrows
    unfold DB.Bound
    rw [hrows]
    exact h
  cases (store_effect hm).writes with
  | nothing h => exact hsame (by rw [h])
  | runs _ h => obtain ⟨_, _, rfl⟩ := h; exact hsame rfl
  | tokens _ h => obtain ⟨_, rfl⟩ := h; exact hsame rfl
  | consume _ _ h => obtain ⟨_, _, rfl⟩ := h.others; exact hsame rfl
  | records h _ => obtain ⟨_, rfl⟩ := h; exact hsame rfl
  | tickets _ h => obtain ⟨_, rfl⟩ := h; exact hsame rfl
  | messages _ h => obtain ⟨_, rfl⟩ := h; exact hsame rfl
  | commit _ hp hcommit =>
    intro c hc hid
    rw [hcommit.checkpoint] at hc
    rcases List.mem_append.mp hc with hc | hc
    · exact h c hc hid
    · obtain rfl := List.mem_singleton.mp hc
      exact ho.checkpoint _ hp hid

theorem uses_serve_fair {request : WriteRequest} (h : db.Bound orders entering)
    (hentering : BoundContext orders entering.actorId entering)
    (hown : request.StaysOwn π orders entering.actorId) :
    Uses (Op.Fair orders entering) (request.serve π orders entering db) := by
  have hcurrent := h.current hentering
  cases request with
  | prepare mutationType arguments =>
    exact .bind (uses_prepare_fair hcurrent) fun _ => .pure _
  | refresh => exact .bind (uses_refresh_fair hcurrent) fun _ => .pure _
  | reject tokenHash => exact .bind (uses_reject_fair hcurrent) fun _ => .pure _
  | confirm options tokenPlaintext idempotencyKey =>
    exact .bind (uses_confirm_fair hcurrent) fun _ => .pure _
  | lowRisk options route arguments =>
    exact .bind (uses_lowRisk_fair hcurrent hown) fun _ => .pure _

/-- Every commit of a business system in the turns is on an order that the table has as the one
of the acting actor. -/
def CommitsOwn (orders : List DemoOrder) (turns : List (Turn WriteRequest Op Exc DB)) : Prop :=
  ∀ turn ∈ turns, ∀ e ∈ turn.calls, ∀ c, e.op.committed? = some c → Owned orders c.1 c.2

theorem CommitsOwn.owned {turns : List (Turn WriteRequest Op Exc DB)} {actorId resourceRef : String}
    (h : CommitsOwn orders turns) {turn : Turn WriteRequest Op Exc DB} (hturn : turn ∈ turns)
    (hcall : ∃ e ∈ turn.calls, e.op.committed? = some (actorId, resourceRef)) :
    Owned orders actorId resourceRef := by
  obtain ⟨e, he, hcommitted⟩ := hcall
  exact h turn hturn e he _ hcommitted

/-- Requests that stay on the orders of the actor commit on no other order. -/
theorem commitsOwn_of_staysOwn {db₀ : DB} {turns : List (Turn WriteRequest Op Exc DB)}
    (session : Session store (WriteRequest.serve π orders entering) db₀ turns db)
    (hentering : BoundContext orders entering.actorId entering)
    (hfresh : ∀ c ∈ db₀.checkpoints.rows, c.runId ≠ entering.runId)
    (hown : ∀ turn ∈ turns, turn.request.StaysOwn π orders entering.actorId) :
    CommitsOwn orders turns := by
  have hbound : db₀.Bound orders entering := fun c hc hid => absurd hid (hfresh c hc)
  have hcalls := (session.invariant (J := DB.Bound orders entering)
    (P := fun request _ => request.StaysOwn π orders entering.actorId)
    (G := fun _ _ _ {_} o => o.Fair orders entering) (fun request db h hrequest =>
      (Yields.keeps (uses_serve_fair h hentering hrequest)
        (fun _ _ _ _ _ hJ ho hm => hJ.step ho hm) h).mono
          (fun _ _ _ h => h) fun _ _ h => h.1) hbound hown).2
  intro turn hturn e he c hc
  exact (hcalls turn hturn e he).resource c hc

end Sessions

section Reaching

/-- A choice under which every transaction goes through. -/
def calmChoice : Choice := ⟨⟨0, "", fun _ => 0⟩, false, fun _ => .error .database⟩

section Calm

variable {intent : MutationExecutionIntent} {r : IdempotencyRecord} {db : DB}

theorem calm_reserve (intent : MutationExecutionIntent) (keyHash : String) : ∃ db r,
    respond calmChoice {} (.records (.reserve intent keyHash none)) = (.ok (), db) ∧
      db.records.rows = [r] ∧ r.storedExecution = ⟨intent, .reserved, none, none⟩ := by
  let r : IdempotencyRecord := {
    recordId := intent.recordId
    tenantId := intent.tenantId
    operation := intent.operation
    idempotencyKeyHash := keyHash
    requestFingerprint := intent.requestFingerprint
    status := .reserved }
  have hinsert : (Table.empty : Table IdempotencyRecord IdempotencyRecord.clash).insert? r =
      some ⟨[r], List.pairwise_singleton _ _⟩ := rfl
  exact ⟨{ records := ⟨[r], List.pairwise_singleton _ _⟩ }, r, rfl, rfl, rfl⟩

theorem calm_load (hrows : db.records.rows = [r]) (hr : r.storedExecution.intent = intent) :
    respond calmChoice db (.records (.load intent)) = (.ok (some r.storedExecution), db) := by
  subst hr
  simp [respond, settle, calmChoice, RecordTx.exec, loadExecution, DB.record, Table.lookup, hrows,
    IdempotencyRecord.storedExecution, Option.filter]

theorem calm_claim (hrows : db.records.rows = [r])
    (hr : r.storedExecution = ⟨intent, .reserved, none, none⟩) : ∃ db',
    respond calmChoice db (.records (.claim intent)) =
      (.ok (some ⟨intent, .inProgress, none, none⟩), db') := by
  obtain ⟨hintent, hstatus, hreference, hresponse⟩ := StoredMutationExecution.mk.inj hr
  have hclaimable : r.claimable intent = true := by
    subst hintent
    simpa [IdempotencyRecord.claimable] using hstatus
  have hfind : db.records.rows.find? (IdempotencyRecord.claimable intent) = some r := by
    rw [hrows]
    exact List.find?_cons_of_pos hclaimable
  have hclaimed : r.claimed.storedExecution = ⟨intent, .inProgress, none, none⟩ := by
    simp [IdempotencyRecord.claimed, IdempotencyRecord.storedExecution, hreference, hresponse,
      ← hintent]
  refine ⟨(respond calmChoice db (.records (.claim intent))).2, Prod.ext ?_ rfl⟩
  simp only [respond, settle, calmChoice, RecordTx.exec, claimTx, Bool.false_eq_true, if_false]
  rw [hfind, Option.map_some, hclaimed]

end Calm

/-- Without records the low-risk workflow reaches its commit. -/
theorem lowRisk_reaches (π : Platform) (orders : List DemoOrder) (entering : RunContext)
    (options : ConfirmOptions) {route : String} {arguments : Dict} (hroute : route ∈ LOW_RISK_ROUTES)
    (hmissing : lowRiskMissing route arguments = []) : ∃ calls q db,
      Exec store ((WriteRequest.lowRisk options route arguments).serve π orders entering {}) {} calls
        q db ∧
      ∃ e ∈ calls, e.op.committed? = some (entering.actorId, lowRiskResource π arguments) := by
  have hreaches : ∃ calls q db,
      Exec store (executeLowRisk π options entering route arguments) {} calls q db ∧
      ∃ e ∈ calls, e.op.committed? = some (entering.actorId, lowRiskResource π arguments) := by
    rw [executeLowRisk, if_neg (not_not.mpr hroute), if_neg (not_not.mpr hmissing)]
    dsimp only
    generalize lowRiskIntent π entering route arguments = intent
    obtain ⟨db, r, hreserve, hrows, hr⟩ := calm_reserve intent (recordKeyHash π intent.recordId)
    have hload := calm_load hrows (congrArg StoredMutationExecution.intent hr)
    rw [hr] at hload
    obtain ⟨db', hclaim⟩ := calm_claim hrows hr
    refine ⟨_, _, _, .step ⟨_, hreserve⟩ (.step ⟨_, hload⟩ (.step ⟨_, hload⟩
      (.step ⟨_, hclaim⟩ (.step ⟨calmChoice, rfl⟩ (.stop _ _))))), ?_⟩
    simp [Op.committed?, WorldOp.committed?]
  obtain ⟨calls, q, db, hexec, hcommitted⟩ := hreaches
  exact ⟨calls, _, db, hexec.bind fun _ => pure (), hcommitted⟩

/-- The write paths of a run commit on orders of its actor, whatever is requested and wherever it
stops, exactly when the low-risk requests among them name such orders. -/
theorem own_orders_written_iff (π : Platform) (orders : List DemoOrder) (entering : RunContext)
    (requests : List WriteRequest)
    (hentering : entering.state.get? "mutation_preview_hash" = none) :
    (∀ db₀ turns db, Session store (WriteRequest.serve π orders entering) db₀ turns db →
      (∀ c ∈ db₀.checkpoints.rows, c.runId ≠ entering.runId) →
      turns.map Turn.request = requests → CommitsOwn orders turns) ↔
    ∀ request ∈ requests, request.StaysOwn π orders entering.actorId := by
  constructor
  · intro hwritten request hrequest
    cases request with
    | lowRisk options route arguments =>
      intro hroute hmissing
      -- The requests before it stop at once, so that it finds no record of its own.
      obtain ⟨before, after, rfl⟩ := List.append_of_mem hrequest
      obtain ⟨calls, q, db, hserved, hcommitted⟩ :=
        lowRisk_reaches π orders entering options hroute hmissing
      have hidle : Session store (WriteRequest.serve π orders entering) ({} : DB)
          ([] ++ before.map fun request => ⟨request, {}, []⟩) {} := Session.idle .start before
      have hsession := (hidle.turn hserved).idle after
      have hturn : ⟨.lowRisk options route arguments, {}, calls⟩ ∈
          [] ++ before.map (fun request => ⟨request, {}, []⟩) ++
            [⟨.lowRisk options route arguments, {}, calls⟩] ++
            after.map (fun request => (⟨request, db, []⟩ : Turn WriteRequest Op Exc DB)) := by
        simp
      have hown := hwritten _ _ _ hsession (by simp) (by simp [Function.comp_def])
      exact hown.owned hturn hcommitted
    | _ => trivial
  · intro hown db₀ turns db session hfresh hrequests
    refine commitsOwn_of_staysOwn session ⟨rfl, ?_⟩ hfresh ?_
    · exact fun hpreview => absurd hentering hpreview
    · intro turn hturn
      exact hown _ (hrequests ▸ List.mem_map_of_mem hturn)

end Reaching

section Demo

/-- Two requests of the demo user, on an order of their own. -/
def ownRequests : List WriteRequest :=
  [.prepare "cancel_order" (cancelArguments "不想要"),
    .lowRisk ⟨true, true⟩ "invoice_request"
      (extractLowRiskArguments demoPlatform "invoice_request" "订单 ORD-DEMO-001 开发票" none)]

theorem ownRequests_stayOwn : ∀ request ∈ ownRequests,
    request.StaysOwn demoPlatform DEFAULT_DEMO_ORDERS demoContext.actorId := by
  intro request hrequest
  rcases List.mem_pair.mp hrequest with rfl | rfl
  · trivial
  · intro _ _
    exact ⟨⟨"ORD-DEMO-001", "demo-user-001", "shipped", "TAH6206", "无线蓝牙耳机", 299, 1, "CNY"⟩,
      List.mem_cons_self, by decide +kernel, rfl⟩

/-- A cancellation and an invoice on own orders. -/
theorem own_orders_written_demo :
    (∀ request ∈ ownRequests,
      request.StaysOwn demoPlatform DEFAULT_DEMO_ORDERS demoContext.actorId) ∧
    ∀ db₀ turns db,
      Session store (WriteRequest.serve demoPlatform DEFAULT_DEMO_ORDERS demoContext) db₀ turns db →
      (∀ c ∈ db₀.checkpoints.rows, c.runId ≠ demoContext.runId) →
      turns.map Turn.request = ownRequests → CommitsOwn DEFAULT_DEMO_ORDERS turns :=
  ⟨ownRequests_stayOwn, (own_orders_written_iff demoPlatform DEFAULT_DEMO_ORDERS demoContext
    ownRequests rfl).mpr ownRequests_stayOwn⟩

/-- An invoice request on the order of somebody else. -/
def foreignArguments : Dict :=
  extractLowRiskArguments demoPlatform "invoice_request" "订单 ord-demo-003 开发票" none

theorem foreignArguments_facts : lowRiskMissing "invoice_request" foreignArguments = [] ∧
    ¬ Owned DEFAULT_DEMO_ORDERS demoContext.actorId
      (lowRiskResource demoPlatform foreignArguments) := by
  decide +kernel

/-- The invoice system is asked for an invoice on a foreign order. -/
theorem invoice_on_foreign_order :
    ¬ ∀ (π : Platform) (orders : List DemoOrder) (entering : RunContext) (db₀ db : DB)
      (turns : List (Turn WriteRequest Op Exc DB)),
      Session store (WriteRequest.serve π orders entering) db₀ turns db →
      entering.state.get? "mutation_preview_hash" = none →
      (∀ c ∈ db₀.checkpoints.rows, c.runId ≠ entering.runId) →
      (∀ turn ∈ turns, ∀ options route arguments, turn.request = .lowRisk options route arguments →
        ∃ text intent, arguments = extractLowRiskArguments π route text intent) →
      CommitsOwn orders turns := by
  intro hclaim
  obtain ⟨hmissing, hforeign⟩ := foreignArguments_facts
  obtain ⟨calls, q, db, hserved, hcommitted⟩ := lowRisk_reaches demoPlatform
    DEFAULT_DEMO_ORDERS demoContext ⟨true, true⟩ List.mem_cons_self hmissing
  have hsession := Session.turn .start hserved
  have hown := hclaim _ _ _ _ _ _ hsession rfl (by simp) ?_
  · exact hforeign (hown.owned List.mem_cons_self hcommitted)
  · intro turn hturn options route arguments hrequest
    obtain rfl := List.mem_singleton.mp hturn
    obtain ⟨rfl, rfl, rfl⟩ := WriteRequest.lowRisk.inj hrequest
    exact ⟨_, _, rfl⟩

end Demo

end CommerceAgent
