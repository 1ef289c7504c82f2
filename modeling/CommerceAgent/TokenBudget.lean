import CommerceAgent.AgentLoop
import CommerceAgent.Interleaving

/-! The token budget of the readonly loop. Steps that ask the model once keep to it; the repair of a
format and the retry of a decision are asked for without looking at it, and their steps are charged
for one of two answers. -/
namespace CommerceAgent.Agent

open Json Programs

/-- The usage of an answer of the provider, as the gateway charges it. -/
def usageOf (maxTokens : ℕ) : Except Failure ProviderResponse → ℕ
  | .ok response => response.usage.getD maxTokens
  | .error _ => 0

/-- What a run has spent, whether its present step has asked the model, and whether some step has
asked it more than once. -/
structure Tally where
  spent : ℕ := 0
  asked : Bool := false
  again : Bool := false

def Tally.after (maxTokens : ℕ) (g : Tally) : {α : Type} → AgentOp α → Except Failure α → Tally
  | _, .buildPrompt _, _ => { g with asked := false }
  | _, .post _ _, r =>
    { spent := g.spent + usageOf maxTokens r, asked := true, again := g.again || g.asked }
  | _, _, _ => g

def tally (maxTokens : ℕ) (g : Tally) (c : Call AgentOp Failure) : Tally := g.after maxTokens c.op c.answer

/-- The calls that neither begin a step nor ask the model. -/
def AgentOp.Free {α : Type} : AgentOp α → Prop
  | .buildPrompt _ => False
  | .post _ _ => False
  | _ => True

theorem Tally.after_free {α : Type} {o : AgentOp α} (h : o.Free) (maxTokens : ℕ) (g : Tally)
    (r : Except Failure α) : g.after maxTokens o r = g := by
  cases o <;> first | rfl | exact False.elim h

theorem AgentOp.Idle.free {α : Type} {o : AgentOp α} (h : o.Idle) : o.Free := by
  cases o <;> first | exact trivial | exact False.elim h

theorem AgentOp.OfTool.free {α : Type} {o : AgentOp α} {name : String} {arguments : Dict}
    (h : o.OfTool name arguments) : o.Free := by
  cases o <;> first | exact trivial | exact False.elim h

/-- The first request of a step, in a run that has not asked twice in a step, finds budget left. -/
def Affordable (budget : ℕ) (g : Tally) {α : Type} : AgentOp α → Prop
  | .post _ _ => g.again = false → g.asked = false → g.spent < budget
  | _ => True

theorem AgentOp.Free.affordable {α : Type} {o : AgentOp α} (h : o.Free) (budget : ℕ) (g : Tally) :
    Affordable budget g o := by
  cases o <;> first | exact trivial | exact False.elim h

section Steps

variable {maxTokens budget : ℕ}

/-- The tally of a run that goes on with `remaining` tokens. -/
def Tally.Left (budget remaining : ℕ) (g : Tally) : Prop :=
  g.again = false → remaining = budget - g.spent

/-- The tally after the model has answered with this usage. -/
def Tally.Charged (budget remaining : ℕ) (usage : Option ℕ) (g : Tally) : Prop :=
  g.asked = true ∧ (g.again = false → ∃ tokens, usage = some tokens ∧ remaining - tokens = budget - g.spent)

theorem idly_tally (J : Tally → Prop) : Idly (.ghost (tally maxTokens)) (fun g {_} o => Affordable budget g o) J := by
  intro g hg α o ho
  refine ⟨ho.free.affordable budget g, ?_⟩
  rintro r g' rfl
  rw [tally, Tally.after_free ho.free]
  exact hg

/-- A request: its usage is spent, and charged if there is a decision. -/
theorem safe_request (remaining : ℕ) {prompt : PromptView} {repair : Bool} {g : Tally}
    (hafford : g.again = false → g.asked = false → g.spent < budget)
    (hleft : g.asked = false → g.Left budget remaining) :
    Safe (.ghost (tally maxTokens)) (fun g {_} o => Affordable budget g o)
      (fun r g' => g'.asked = true ∧ ∀ a, r = .ok a → g'.Charged budget remaining a.usageTokens)
      (request maxTokens prompt repair) g := by
  refine (safe_bind _ _ _).mpr ((safe_perform _ _).mpr ⟨hafford, ?_⟩)
  rintro (e | response) _ rfl
  · exact ⟨rfl, fun _ h => absurd h (by simp)⟩
  simp only [thenSafe_ok]
  split
  · exact ⟨rfl, fun _ h => absurd h (by simp)⟩
  refine ⟨rfl, ?_⟩
  intro answer hanswer
  obtain rfl := Except.ok.inj hanswer
  refine ⟨rfl, fun honce => ⟨_, rfl, ?_⟩⟩
  obtain ⟨hagain, hasked⟩ : g.again = false ∧ g.asked = false := by simpa [tally, Tally.after] using honce
  have hremaining := hleft hasked hagain
  simp only [tally, Tally.after, usageOf]
  omega

/-- What the gateway asks: one request within the budget, and perhaps a repair. -/
theorem safe_gatewayDecide (remaining : ℕ) {prompt : PromptView} {g : Tally}
    (hafford : g.again = false → g.asked = false → g.spent < budget)
    (hleft : g.asked = false → g.Left budget remaining) :
    Safe (.ghost (tally maxTokens)) (fun g {_} o => Affordable budget g o)
      (fun r g' => g'.asked = true ∧ ∀ a, r = .ok a → g'.Charged budget remaining a.usageTokens)
      ((OpenAICompatibleGateway maxTokens).decide prompt) g := by
  have hfail : ∀ {e : Failure} {g' : Tally}, g'.asked = true → g'.asked = true ∧
      ∀ a, (.error e : Except Failure ModelDecision) = .ok a → g'.Charged budget remaining a.usageTokens :=
    fun h => ⟨h, fun _ h => absurd h (by simp)⟩
  refine (safe_handle _ _ _).mpr ((safe_request remaining hafford hleft).post ?_)
  rintro (e | answer) g' ⟨hasked, hanswer⟩
  · cases e with
    | format =>
      have hno : ∀ {P : Prop}, g'.asked = false → P := fun h => absurd (hasked.symm.trans h) (by simp)
      refine (safe_handle _ _ _).mpr ((safe_request remaining (fun _ => hno) hno).post ?_)
      rintro (e | answer) g'' ⟨hasked, hanswer⟩
      · cases e <;> exact hfail hasked
      · exact ⟨hasked, hanswer⟩
    | _ => exact hfail hasked
  · exact ⟨hasked, hanswer⟩

/-- What a step leaves to the loop: if the loop goes on, what it will charge. -/
def Owed (budget remaining : ℕ) (r : Except Failure StepResult) (g : Tally) : Prop :=
  ∀ result, r = .ok result → result.status = .continue → g.Charged budget remaining result.usageTokens

def budgetRule {agent : Composition} (hmodel : agent.model = OpenAICompatibleGateway maxTokens)
    (budget remaining : ℕ) (context : RunContext) (prompt : PromptView) (toolContext : ToolContext) :
    StepRule (.ghost (tally maxTokens)) (fun g {_} o => Affordable budget g o) (Owed budget remaining)
      agent context prompt toolContext (some remaining) where
  asking := fun g => g.asked = false ∧ g.Left budget remaining
  answered := fun usage g => g.Charged budget remaining usage
  ending := fun _ => True
  idle_asking := idly_tally _
  idle_answered := fun _ => idly_tally _
  idle_ending := idly_tally _
  ends_asking := fun _ _ => trivial
  ends_answered := fun _ _ _ => trivial
  error := fun _ _ _ _ h => absurd h (by simp)
  plain := by
    intro result g _ hplain result' hresult hcontinue
    obtain rfl := Except.ok.inj hresult
    exact absurd hcontinue hplain.status
  decide := by
    rintro hbudget g ⟨hasked, hleft⟩
    rw [hmodel]
    have hafford : g.again = false → g.asked = false → g.spent < budget := by
      intro honce _
      have hremaining := hleft honce
      have hpositive : remaining ≠ 0 := fun h => hbudget (by rw [h])
      omega
    exact (safe_gatewayDecide remaining hafford fun _ => hleft).post fun r g' h => ⟨trivial, h.2⟩
  retry := by
    rintro usage g ⟨hasked, _⟩
    have hno : ∀ {P : Prop}, g.asked = false → P := fun h => absurd (hasked.symm.trans h) (by simp)
    rw [hmodel]
    exact (safe_gatewayDecide remaining (fun _ => hno) hno).post fun _ _ _ => trivial
  tool := by
    intro usage decision spec g _ hcharged _ _
    have huses := uses_executeTool spec toolContext decision.args agent.deadlineAt
    have hkeeps : Safe (.ghost (tally maxTokens)) _ _ _ g :=
      Yields.keeps (J := fun g' => g' = g) huses (by
        rintro g' β o r g'' rfl ho rfl
        exact Tally.after_free ho.free _ _ _) rfl
    refine hkeeps.mono (by intro g' β o h; exact h.2.free.affordable budget g') ?_
    rintro (e | execution) g' ⟨rfl, _⟩ result hresult hcontinue
    · obtain rfl := Except.ok.inj hresult
      exact absurd hcontinue (by simp [StepResult.callFailed])
    · obtain rfl := Except.ok.inj hresult
      exact hcharged

theorem safe_free {α β : Type} {o : AgentOp α} {f : α → Act β} {Q : Except Failure β → Tally → Prop} {g : Tally}
    (ho : o.Free) (herror : ∀ e, Q (.error e) g)
    (hf : ∀ a, Safe (.ghost (tally maxTokens)) (fun g {_} o => Affordable budget g o) Q (f a) g) :
    Safe (.ghost (tally maxTokens)) (fun g {_} o => Affordable budget g o) Q
      (do let a ← Prog.perform o; f a) g := by
  refine (safe_bind _ _ _).mpr ((safe_perform _ _).mpr ⟨ho.affordable budget g, ?_⟩)
  rintro (e | a) g' rfl
  · rw [tally, Tally.after_free ho]
    exact herror e
  · rw [tally, Tally.after_free ho]
    exact hf a

theorem safe_advance_budget {agent : Composition} (hmodel : agent.model = OpenAICompatibleGateway maxTokens)
    {context : RunContext} {toolContext : ToolContext} {remaining : ℕ} {g : Tally}
    (hstatus : context.status = .runningReadonly) (hg : g.Left budget remaining) :
    Safe (.ghost (tally maxTokens)) (fun g {_} o => Affordable budget g o)
      (fun r g' => ∀ current result, r = .ok (current, result) → current.status = .runningReadonly →
        g'.Charged budget remaining result.usageTokens)
      (advance agent context toolContext (some remaining)) g := by
  unfold advance
  refine (safe_bind _ _ _).mpr ((safe_perform _ _).mpr ⟨trivial, ?_⟩)
  rintro (e | prompt) _ rfl
  · exact fun _ _ h => absurd h (by simp)
  refine (safe_bind _ _ _).mpr ((safe_ofExcept _ _).mpr ?_)
  cases validateStepInputs agent context prompt (agent.boundary.withEvidence context.state) toolContext with
  | error e => exact fun _ _ h => absurd h (by simp)
  | ok =>
  refine (safe_bind _ _ _).mpr ?_
  have hasking : (tally maxTokens g ⟨.buildPrompt context, .ok prompt⟩).asked = false ∧
      Tally.Left budget remaining (tally maxTokens g ⟨.buildPrompt context, .ok prompt⟩) := ⟨rfl, hg⟩
  refine ((budgetRule hmodel budget remaining context prompt toolContext).safe_executeStep hasking).post ?_
  rintro (e | result) g' howed
  · exact fun _ _ h => absurd h (by simp)
  refine (safe_bind _ _ _).mpr (safe_checkTransition ?_ fun _ => ?_)
  · exact fun _ _ _ h => absurd h (by simp)
  refine (safe_ite _ _ _ _).mpr ⟨fun _ _ _ h => absurd h (by simp), fun _ => ?_⟩
  refine safe_free trivial (fun _ _ _ h => absurd h (by simp)) fun version => ?_
  intro current result' hr hrunning
  obtain ⟨rfl, rfl⟩ := Prod.mk.inj (Except.ok.inj hr)
  have htarget : targetStatus context.status (result.loopResult agent) = .runningReadonly := hrunning
  rw [hstatus] at htarget
  exact howed result rfl (targetStatus_running htarget)

/-- By induction on the iterations left; each begins with what the one before has not been charged. -/
theorem safe_run_budget {agent : Composition} (hmodel : agent.model = OpenAICompatibleGateway maxTokens)
    (n : ℕ) {context : RunContext} {remaining : ℕ} {previous : Option String} {steps : List StepResult} {g : Tally}
    (hg : g.Left budget remaining) :
    Safe (.ghost (tally maxTokens)) (fun g {_} o => Affordable budget g o) (fun _ _ => True)
      (run agent n context (some remaining) previous steps) g := by
  induction n generalizing g context remaining previous steps with
  | zero => trivial
  | succ n ih =>
    unfold run
    refine (safe_ite _ _ _ _).mpr ⟨fun _ => trivial, fun hrunning => ?_⟩
    refine safe_free trivial (fun _ => trivial) fun toolContext => ?_
    refine (safe_bind _ _ _).mpr ((safe_advance_budget hmodel (not_not.mp hrunning) hg).post ?_)
    rintro (e | ⟨current, result⟩) g' hcharged
    · trivial
    change Safe _ _ _ (chargedTokens agent result >>= fun usage => _) g'
    have hrest : ∀ usage, (current.status = .runningReadonly → g'.Left budget (remaining - usage)) →
        Safe (.ghost (tally maxTokens)) (fun g {_} o => Affordable budget g o) (fun _ _ => True)
          (runAfter agent n previous steps current result (some (remaining - usage))) g' := by
      intro usage hleft
      refine (safe_ite _ _ _ _).mpr ⟨fun _ => trivial, fun hstill => ?_⟩
      refine (safe_ite _ _ _ _).mpr ⟨fun _ => ?_, fun _ => ih (hleft (not_not.mp hstill))⟩
      refine (safe_bind _ _ _).mpr ((safe_bind _ _ _).mpr (safe_checkTransition (fun _ => trivial) fun _ => ?_))
      exact safe_free trivial (fun _ => trivial) fun _ => trivial
    by_cases honce : current.status = .runningReadonly ∧ g'.again = false
    · obtain ⟨tokens, husage, hleft⟩ := (hcharged current result rfl honce.1).2 honce.2
      have hcharge : chargedTokens agent result = pure tokens := by simp [chargedTokens, husage]
      rw [hcharge]
      exact hrest tokens fun _ _ => hleft
    · rcases chargedTokens_cases agent result with ⟨usage, hcharge⟩ | ⟨e, hcharge⟩
      · rw [hcharge]
        exact hrest usage fun hrunning hagain => absurd ⟨hrunning, hagain⟩ honce
      · rw [hcharge]
        trivial

/-- The tally of the calls of an execution. -/
def tallyOf (maxTokens : ℕ) {σ : Type} (t : List (Happened AgentOp Failure σ)) : Tally :=
  t.foldl (fun g e => tally maxTokens g e.toCall) {}

/-- The readonly loop over a provider whose usage is reported, under a budget: as long as no step has
asked the model twice, a step asks the model only while what all the requests before it have used is
below the budget. -/
theorem budget_respected {agent : Composition} (hmodel : agent.model = OpenAICompatibleGateway maxTokens)
    {n : ℕ} {context : RunContext} {σ : Type} {M : Machine AgentOp Failure σ} {s s' : σ}
    {q : Act (Option AgentRunResult)} {t t' : List (Happened AgentOp Failure σ)} {e : Happened AgentOp Failure σ}
    (he : Exec M (run agent n context (some budget) none []) s (t ++ e :: t') q s') (hpost : e.op.Provider)
    (honce : (tallyOf maxTokens (t ++ [e])).again = false) : (tallyOf maxTokens t).spent < budget := by
  have hleft : Tally.Left budget budget {} := fun _ => by simp
  have hsafe := @safe_run_budget _ _ _ hmodel n context _ none [] _ hleft
  have hafford : Affordable budget (tallyOf maxTokens t) e.op := hsafe.ghost_guard he
  rw [tallyOf, List.foldl_append] at honce
  change (tally maxTokens (tallyOf maxTokens t) e.toCall).again = false at honce
  obtain ⟨⟨o, r⟩, s₁, s₂⟩ := e
  cases o with
  | post prompt repair =>
    obtain ⟨hagain, hasked⟩ := Bool.or_eq_false_iff.mp honce
    exact hafford hagain hasked
  | _ => exact False.elim hpost

end Steps

section Demo

/-- An answer that is no decision. -/
def demoGarbled : ProviderResponse where
  usage := some 100
  decision := none

/-- Of the calls of a run over this provider, with a budget of 100, the one at a position. -/
def demoSplit (response : ProviderResponse) (i : ℕ) :
    List (Happened AgentOp Failure Unit) × List (Happened AgentOp Failure Unit) :=
  (demoDrive response (run demoAgent 7 (demoContext .runningReadonly) (some 100) none [])).1.splitAt i

theorem demoSplit_eq (response : ProviderResponse) (i : ℕ) :
    (demoDrive response (run demoAgent 7 (demoContext .runningReadonly) (some 100) none [])).1 =
      (demoSplit response i).1 ++ (demoSplit response i).2 := by
  simp [demoSplit]

/-- The second request of a run, after one that has used 40. -/
theorem budget_respected_demo : (tallyOf 100 (demoSplit demoCall 20).1).spent < 100 := by
  have he := drive_exec (fun _ s {_} o => (demoAnswers demoCall o, s)) (List.replicate 100 ())
    (run demoAgent 7 (demoContext .runningReadonly) (some 100) none []) ()
  have hsplit := demoSplit_eq demoCall 20
  have hcons : ∃ e t', (demoSplit demoCall 20).2 = e :: t' ∧ e.op.Provider ∧
      (tallyOf 100 ((demoSplit demoCall 20).1 ++ [e])).again = false := ⟨_, _, rfl, trivial, rfl⟩
  obtain ⟨e, t', hcall, hpost, honce⟩ := hcons
  rw [hcall, demoDrive] at hsplit
  rw [hsplit] at he
  exact budget_respected rfl he hpost honce

/-- A budget of 100 is spent by an answer that is no decision, and the repair is asked for all the
same. -/
theorem repair_exceeds_budget : ∃ e t', (demoSplit demoGarbled 5).2 = e :: t' ∧ e.op.Provider ∧
    (tallyOf 100 (demoSplit demoGarbled 5).1).spent = 100 := ⟨_, _, rfl, trivial, rfl⟩

end Demo

end CommerceAgent.Agent
