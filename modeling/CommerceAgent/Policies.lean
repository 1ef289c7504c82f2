import CommerceAgent.Operators
import CommerceAgent.Mutations

/-! The rule interpreter of `policies/engine.py`, and which exceptions leave an evaluation. -/
namespace CommerceAgent.Policies

open Operators

variable {V : Type} [Comparable V]

inductive PolicyEffect where
  | allow
  | deny
  | requireHandoff
  deriving DecidableEq, Repr

/-- `_EFFECT_ORDER`. -/
def PolicyEffect.order : PolicyEffect → ℕ
  | allow => 0
  | requireHandoff => 1
  | deny => 2

def OPERATORS : List String := ["eq", "ne", "lt", "lte", "gt", "gte", "in", "not_in"]

structure FactCondition (V : Type) where
  fact : String
  op : String
  value : V

structure PolicyRule (V : Type) where
  ruleId : String
  appliesTo : String
  priority : ℤ
  conditions : List (FactCondition V)
  effect : PolicyEffect
  reasonCode : String

structure PolicyDecision where
  policyVersion : String
  effect : PolicyEffect
  ruleIds : List String
  reasonCode : String
  factsHash : String

abbrev Facts (V : Type) : Type := List (String × V)

/-- What the constructor of the engine rejects about a condition. -/
def FactCondition.rejected (allowedFacts : List String) (condition : FactCondition V) : Option String :=
  if condition.fact ∉ allowedFacts then some "policy rule uses an unapproved fact"
  else if condition.op ∉ OPERATORS then some "policy rule uses an unapproved operator"
  else if Comparable.isDictOrSet condition.value then some "policy constants must be scalar or a list"
  else none

/-- An engine that its constructor has accepted. -/
structure PolicyEngine (V : Type) [Comparable V] where
  version : String
  allowedFacts : List String
  rules : List (PolicyRule V)
  versioned : version ≠ ""
  ids : (rules.map PolicyRule.ruleId).Nodup
  conditions : (rules.flatMap PolicyRule.conditions).findSome? (FactCondition.rejected allowedFacts) = none

/-- `PolicyEngine.__init__`. -/
def PolicyEngine.create (version : String) (allowedFacts : List String) (rules : List (PolicyRule V)) :
    Except String (PolicyEngine V) :=
  if hversion : version = "" then .error "policy version must not be empty"
  else if hids : (rules.map PolicyRule.ruleId).Nodup then
    match hconditions : (rules.flatMap PolicyRule.conditions).findSome?
        (FactCondition.rejected allowedFacts) with
    | some message => .error message
    | none => .ok ⟨version, allowedFacts, rules, hversion, hids, hconditions⟩
  else .error "duplicate policy rule id"

/-- `_matches_condition`. -/
def FactCondition.matches (condition : FactCondition V) (actual : V) : Except Raised Bool :=
  let expected := condition.value
  match condition.op with
  | "eq" => Comparable.eq actual expected
  | "ne" => Comparable.ne actual expected
  | "lt" => Comparable.order .lt actual expected
  | "lte" => Comparable.order .lte actual expected
  | "gt" => Comparable.order .gt actual expected
  | "gte" => Comparable.order .gte actual expected
  | "in" => Comparable.isIn actual expected
  | _ => (Comparable.isIn actual expected).map not

/-- A condition on the fact that it names; the facts that the rules require are there. -/
def FactCondition.holds (facts : Facts V) (condition : FactCondition V) : Except Raised Bool :=
  match facts.lookup condition.fact with
  | some actual => condition.matches actual
  | none => .error .other

/-- `_matches`: the conditions up to the first that does not hold. -/
def allHold (facts : Facts V) : List (FactCondition V) → Except Raised Bool
  | [] => .ok true
  | condition :: conditions => do
    if ← condition.holds facts then allHold facts conditions else .ok false

/-- The rules whose conditions hold. -/
def matched (facts : Facts V) : List (PolicyRule V) → Except Raised (List (PolicyRule V))
  | [] => .ok []
  | rule :: rules => do
    let holds ← allHold facts rule.conditions
    let rest ← matched facts rules
    .ok (if holds then rule :: rest else rest)

variable (π : Platform)

/-- `evaluate`; a `PolicyEngineError` is a `ValueError`. -/
def PolicyEngine.evaluate (engine : PolicyEngine V) (action : String) (facts : Facts V) :
    Except Raised PolicyDecision :=
  if facts.any (·.1 ∉ engine.allowedFacts) then .error .valueError
  else do
    let encoded ← Comparable.dumps facts
    let decision (effect : PolicyEffect) (ruleIds : List String) (reasonCode : String) : PolicyDecision :=
      ⟨engine.version, effect, ruleIds, reasonCode, "sha256:" ++ π.sha256 encoded⟩
    let candidates := engine.rules.filter (·.appliesTo = action)
    if (candidates.flatMap PolicyRule.conditions).any fun condition =>
        (facts.lookup condition.fact).isNone then
      .ok (decision .deny [] "MISSING_REQUIRED_FACTS")
    else do
      let matched ← matched facts candidates
      if matched = [] then .ok (decision .deny [] "NO_POLICY_RULE_MATCHED")
      else
        let effect := matched.foldl (fun winning rule =>
          if winning.order < rule.effect.order then rule.effect else winning) .allow
        let winning := (matched.filter (·.effect = effect)).insertionSort fun r r' =>
          r'.priority < r.priority ∨ r.priority = r'.priority ∧ r.ruleId ≤ r'.ruleId
        .ok (decision effect (winning.map PolicyRule.ruleId)
          ((winning.head?.map PolicyRule.reasonCode).getD ""))

section Exceptions

variable {facts : Facts V} {e : Raised}

/-- A condition that the evaluation of a list of conditions comes to. -/
def ReachedIn (facts : Facts V) (conditions : List (FactCondition V)) (condition : FactCondition V) : Prop :=
  ∃ before after, conditions = before ++ condition :: after ∧ ∀ c ∈ before, c.holds facts = .ok true

/-- A condition that the evaluation of rules comes to: the rules before its own are settled. -/
def Reached (facts : Facts V) (rules : List (PolicyRule V)) (condition : FactCondition V) : Prop :=
  ∃ before rule after, rules = before ++ rule :: after ∧
    (∀ r ∈ before, ∃ b, allHold facts r.conditions = .ok b) ∧ ReachedIn facts rule.conditions condition

theorem reachedIn_cons {c : FactCondition V} {conditions : List (FactCondition V)}
    {condition : FactCondition V} : ReachedIn facts (c :: conditions) condition ↔
      condition = c ∨ c.holds facts = .ok true ∧ ReachedIn facts conditions condition := by
  constructor
  · rintro ⟨before, after, heq, hbefore⟩
    cases before with
    | nil => exact .inl (List.cons.inj heq).1.symm
    | cons c' before =>
      obtain ⟨rfl, rfl⟩ := List.cons.inj heq
      obtain ⟨hc, hbefore⟩ := List.forall_mem_cons.mp hbefore
      exact .inr ⟨hc, before, after, rfl, hbefore⟩
  · rintro (rfl | ⟨hc, before, after, rfl, hbefore⟩)
    · exact ⟨[], conditions, rfl, fun _ h => absurd h List.not_mem_nil⟩
    · exact ⟨c :: before, after, rfl, List.forall_mem_cons.mpr ⟨hc, hbefore⟩⟩

theorem reached_cons {rule : PolicyRule V} {rules : List (PolicyRule V)} {condition : FactCondition V} :
    Reached facts (rule :: rules) condition ↔ ReachedIn facts rule.conditions condition ∨
      (∃ b, allHold facts rule.conditions = .ok b) ∧ Reached facts rules condition := by
  constructor
  · rintro ⟨before, r, after, heq, hbefore, hreached⟩
    cases before with
    | nil =>
      obtain ⟨rfl, _⟩ := List.cons.inj heq
      exact .inl hreached
    | cons r' before =>
      obtain ⟨rfl, rfl⟩ := List.cons.inj heq
      obtain ⟨hr, hbefore⟩ := List.forall_mem_cons.mp hbefore
      exact .inr ⟨hr, before, r, after, rfl, hbefore, hreached⟩
  · rintro (hreached | ⟨hr, before, r, after, rfl, hbefore, hreached⟩)
    · exact ⟨[], rule, rules, rfl, fun _ h => absurd h List.not_mem_nil, hreached⟩
    · exact ⟨rule :: before, r, after, rfl, List.forall_mem_cons.mpr ⟨hr, hbefore⟩, hreached⟩

/-- The conditions of a rule raise what the first of them raises that is reached. -/
theorem allHold_eq_error {conditions : List (FactCondition V)} :
    allHold facts conditions = .error e ↔
      ∃ condition, ReachedIn facts conditions condition ∧ condition.holds facts = .error e := by
  induction conditions with
  | nil =>
    refine ⟨fun h => (nomatch h), ?_⟩
    rintro ⟨condition, ⟨before, after, heq, _⟩, _⟩
    exact absurd heq.symm (by simp)
  | cons c conditions ih =>
    have hcases : allHold facts (c :: conditions) = .error e ↔
        c.holds facts = .error e ∨ c.holds facts = .ok true ∧ allHold facts conditions = .error e := by
      rw [allHold]
      rcases c.holds facts with e' | (_ | _) <;> simp [bind, Except.bind]
    rw [hcases, ih]
    constructor
    · rintro (hc | ⟨hc, condition, hreached, hraised⟩)
      · exact ⟨c, reachedIn_cons.mpr (.inl rfl), hc⟩
      · exact ⟨condition, reachedIn_cons.mpr (.inr ⟨hc, hreached⟩), hraised⟩
    · rintro ⟨condition, hreached, hraised⟩
      rcases reachedIn_cons.mp hreached with rfl | ⟨hc, hreached⟩
      · exact .inl hraised
      · exact .inr ⟨hc, condition, hreached, hraised⟩

theorem matched_eq_error {rules : List (PolicyRule V)} :
    matched facts rules = .error e ↔
      ∃ condition, Reached facts rules condition ∧ condition.holds facts = .error e := by
  induction rules with
  | nil =>
    refine ⟨fun h => (nomatch h), ?_⟩
    rintro ⟨condition, ⟨before, rule, after, heq, _⟩, _⟩
    exact absurd heq.symm (by simp)
  | cons rule rules ih =>
    have hcases : matched facts (rule :: rules) = .error e ↔ allHold facts rule.conditions = .error e ∨
        (∃ b, allHold facts rule.conditions = .ok b) ∧ matched facts rules = .error e := by
      rw [matched]
      rcases allHold facts rule.conditions with e' | b <;>
        rcases matched facts rules with e'' | rest <;> simp [bind, Except.bind]
    rw [hcases, ih, allHold_eq_error]
    constructor
    · rintro (⟨condition, hreached, hraised⟩ | ⟨hb, condition, hreached, hraised⟩)
      · exact ⟨condition, reached_cons.mpr (.inl hreached), hraised⟩
      · exact ⟨condition, reached_cons.mpr (.inr ⟨hb, hreached⟩), hraised⟩
    · rintro ⟨condition, hreached, hraised⟩
      rcases reached_cons.mp hreached with hreached | ⟨hb, hreached⟩
      · exact .inl ⟨condition, hreached, hraised⟩
      · exact .inr ⟨hb, condition, hreached, hraised⟩

/-- The rules that an action is decided by. -/
def PolicyEngine.candidates (engine : PolicyEngine V) (action : String) : List (PolicyRule V) :=
  engine.rules.filter (·.appliesTo = action)

/-- Every fact that the rules of an action name is there. -/
def PolicyEngine.Informed (engine : PolicyEngine V) (action : String) (facts : Facts V) : Prop :=
  ∀ rule ∈ engine.candidates action, ∀ condition ∈ rule.conditions, (facts.lookup condition.fact).isSome

/-- The exceptions that an evaluation lets through: those of the encoding of the facts, and those of
the first condition that raises. -/
theorem evaluate_eq_error {engine : PolicyEngine V} {action : String}
    (hallowed : ∀ fact ∈ facts, fact.1 ∈ engine.allowedFacts) :
    engine.evaluate π action facts = .error e ↔ Comparable.dumps facts = .error e ∨
      (∃ encoded, Comparable.dumps facts = .ok encoded) ∧ engine.Informed action facts ∧
        ∃ condition, Reached facts (engine.candidates action) condition ∧
          condition.holds facts = .error e := by
  have hknown : facts.any (·.1 ∉ engine.allowedFacts) = false := by simpa using hallowed
  have hinformed : engine.Informed action facts ↔
      ((engine.candidates action).flatMap PolicyRule.conditions).any (fun condition =>
        (facts.lookup condition.fact).isNone) = false := by
    simp only [PolicyEngine.Informed, List.any_eq_false, List.mem_flatMap, Option.isNone_iff_eq_none,
      ← Option.not_isSome_iff_eq_none, not_not]
    exact ⟨fun h c ⟨rule, hrule, hc⟩ => h rule hrule c hc, fun h rule hrule c hc => h c ⟨rule, hrule, hc⟩⟩
  rw [PolicyEngine.evaluate, hknown, ← matched_eq_error, hinformed]
  cases Comparable.dumps facts with
  | error e' => simp [bind, Except.bind]
  | ok encoded =>
    simp only [Bool.false_eq_true, if_false, bind, Except.bind, reduceCtorEq, false_or, Except.ok.injEq,
      exists_eq', true_and]
    rw [← PolicyEngine.candidates]
    split
    · rename_i hmissing
      simp [hmissing]
    · rename_i hnone
      rw [Bool.not_eq_true] at hnone
      rw [hnone]
      cases matched facts (engine.candidates action) with
      | error e' => simp
      | ok rules =>
        simp only [reduceCtorEq, and_false, iff_false]
        split <;> exact fun h => nomatch h

end Exceptions

end CommerceAgent.Policies
