import CommerceAgent.Policies
import CommerceAgent.MutationWorkflow
import CommerceAgent.Rearrangements
import Mathlib.Data.String.Basic

/-! What an evaluation of `policies/engine.py` decides: the order of the rules does not matter, an
`ALLOW` has to be earned, and a rule that denies earns none. -/
namespace CommerceAgent.Policies

open Operators Rearrangements

variable {V : Type}

section Precedence

/-- The effect that wins among the rules that match. -/
def strongest (rules : List (PolicyRule V)) : PolicyEffect :=
  rules.foldl (fun winning rule =>
    if winning.order < rule.effect.order then rule.effect else winning) .allow

/-- The order of the rules of one effect. -/
def PolicyRule.Before (r r' : PolicyRule V) : Prop :=
  r'.priority < r.priority ∨ r.priority = r'.priority ∧ r.ruleId ≤ r'.ruleId

instance : DecidableRel (PolicyRule.Before (V := V)) := fun r r' =>
  inferInstanceAs (Decidable (r'.priority < r.priority ∨ r.priority = r'.priority ∧ r.ruleId ≤ r'.ruleId))

/-- The rules of the effect that wins, in order. -/
def winners (rules : List (PolicyRule V)) : List (PolicyRule V) :=
  (rules.filter (·.effect = strongest rules)).insertionSort PolicyRule.Before

variable {rules rules' : List (PolicyRule V)}

theorem foldl_eq_allow {winning : PolicyEffect} : rules.foldl (fun winning rule =>
    if winning.order < rule.effect.order then rule.effect else winning) winning = .allow ↔
      winning = .allow ∧ ∀ rule ∈ rules, rule.effect = .allow := by
  induction rules generalizing winning with
  | nil => simp
  | cons rule rules ih =>
    rw [List.foldl_cons, ih, List.forall_mem_cons, ← and_assoc]
    have : (if winning.order < rule.effect.order then rule.effect else winning) = .allow ↔
        winning = .allow ∧ rule.effect = .allow := by
      cases winning <;> cases rule.effect <;> decide
    rw [this]

/-- Only rules that allow leave `ALLOW` as the effect that wins. -/
theorem strongest_eq_allow : strongest rules = .allow ↔ ∀ rule ∈ rules, rule.effect = .allow := by
  rw [strongest, foldl_eq_allow]
  exact and_iff_right rfl

theorem strongest_perm (h : rules.Perm rules') : strongest rules = strongest rules' := by
  apply h.foldl_eq'
  intro r _ r' _ winning
  cases winning <;> cases r.effect <;> cases r'.effect <;> rfl

theorem before_total (r r' : PolicyRule V) : r.Before r' ∨ r'.Before r := by
  rcases lt_trichotomy r.priority r'.priority with hlt | heq | hgt
  · exact .inr (.inl hlt)
  · rcases le_total r.ruleId r'.ruleId with hid | hid
    · exact .inl (.inr ⟨heq, hid⟩)
    · exact .inr (.inr ⟨heq.symm, hid⟩)
  · exact .inl (.inl hgt)

theorem before_trans (r r' r'' : PolicyRule V) (h : r.Before r') (h' : r'.Before r'') : r.Before r'' := by
  rcases h with hlt | ⟨heq, hid⟩ <;> rcases h' with hlt' | ⟨heq', hid'⟩
  · exact .inl (hlt'.trans hlt)
  · exact .inl (heq' ▸ hlt)
  · exact .inl (heq ▸ hlt')
  · exact .inr ⟨heq.trans heq', hid.trans hid'⟩

/-- Two rules that come before each other have one id. -/
theorem before_antisymm {r r' : PolicyRule V} (h : r.Before r') (h' : r'.Before r) :
    r.ruleId = r'.ruleId := by
  rcases h with hlt | ⟨heq, hid⟩ <;> rcases h' with hlt' | ⟨heq', hid'⟩
  · exact absurd hlt' hlt.not_gt
  · exact absurd hlt (heq' ▸ lt_irrefl _)
  · exact absurd hlt' (heq ▸ lt_irrefl _)
  · exact le_antisymm hid hid'

theorem winners_perm (hids : (rules.map PolicyRule.ruleId).Nodup) (h : rules.Perm rules') :
    winners rules = winners rules' := by
  rw [winners, winners, strongest_perm h]
  apply insertionSort_eq_of_perm before_total before_trans
  · intro r hr r' hr' hbefore hbefore'
    exact List.inj_on_of_nodup_map hids (List.mem_of_mem_filter hr) (List.mem_of_mem_filter hr')
      (before_antisymm hbefore hbefore')
  · exact h.filter _

end Precedence

variable [Comparable V]

section Verdicts

/-- Comparisons that raise nothing on the facts that are there. -/
def Defined (facts : Facts V) (rules : List (PolicyRule V)) : Prop :=
  ∀ rule ∈ rules, ∀ condition ∈ rule.conditions, ∀ actual,
    facts.lookup condition.fact = some actual → ∃ b, condition.matches actual = .ok b

/-- A rule all of whose conditions hold. -/
def PolicyRule.holds (facts : Facts V) (rule : PolicyRule V) : Bool :=
  match allHold facts rule.conditions with
  | .ok holds => holds
  | .error _ => false

structure Verdict where
  effect : PolicyEffect
  ruleIds : List String
  reasonCode : String

/-- What the candidates decide when nothing raises. -/
def verdict (facts : Facts V) (candidates : List (PolicyRule V)) : Verdict :=
  if (candidates.flatMap PolicyRule.conditions).any fun condition =>
      (facts.lookup condition.fact).isNone then
    ⟨.deny, [], "MISSING_REQUIRED_FACTS"⟩
  else
    let matched := candidates.filter (PolicyRule.holds facts)
    if matched = [] then ⟨.deny, [], "NO_POLICY_RULE_MATCHED"⟩
    else ⟨strongest matched, (winners matched).map PolicyRule.ruleId,
      ((winners matched).head?.map PolicyRule.reasonCode).getD ""⟩

variable {facts : Facts V}

/-- A rule whose conditions all hold. -/
def PolicyRule.Matches (facts : Facts V) (rule : PolicyRule V) : Prop :=
  ∀ condition ∈ rule.conditions, condition.holds facts = .ok true

/-- Rules whose evaluation raises nothing. -/
def Settled (facts : Facts V) (rules : List (PolicyRule V)) : Prop :=
  ∀ rule ∈ rules, ∃ b, allHold facts rule.conditions = .ok b

theorem allHold_eq_true {conditions : List (FactCondition V)} :
    allHold facts conditions = .ok true ↔
      ∀ condition ∈ conditions, condition.holds facts = .ok true := by
  induction conditions with
  | nil => exact ⟨fun _ _ h => absurd h List.not_mem_nil, fun _ => rfl⟩
  | cons c conditions ih =>
    rw [List.forall_mem_cons, ← ih, allHold]
    rcases c.holds facts with e | (_ | _) <;> simp [bind, Except.bind]

theorem holds_iff_matches {rule : PolicyRule V} : rule.holds facts = true ↔ rule.Matches facts := by
  rw [PolicyRule.Matches, ← allHold_eq_true, PolicyRule.holds]
  rcases allHold facts rule.conditions with e | b <;> simp

theorem allHold_of_defined {conditions : List (FactCondition V)}
    (hinformed : ∀ condition ∈ conditions, (facts.lookup condition.fact).isSome)
    (hdefined : ∀ condition ∈ conditions, ∀ actual, facts.lookup condition.fact = some actual →
      ∃ b, condition.matches actual = .ok b) : ∃ b, allHold facts conditions = .ok b := by
  induction conditions with
  | nil => exact ⟨true, rfl⟩
  | cons c conditions ih =>
    obtain ⟨hc, hinformed⟩ := List.forall_mem_cons.mp hinformed
    obtain ⟨hc', hdefined⟩ := List.forall_mem_cons.mp hdefined
    obtain ⟨actual, hactual⟩ := Option.isSome_iff_exists.mp hc
    obtain ⟨b, hb⟩ := hc' actual hactual
    obtain ⟨b', hb'⟩ := ih hinformed hdefined
    have hholds : c.holds facts = .ok b := by
      rw [FactCondition.holds, hactual]
      exact hb
    rw [allHold, hholds]
    cases b with
    | false => exact ⟨false, rfl⟩
    | true => exact ⟨b', hb'⟩

/-- All rules are evaluated, and those that match are kept. -/
theorem matched_eq_ok {rules m : List (PolicyRule V)} : matched facts rules = .ok m ↔
    Settled facts rules ∧ m = rules.filter (PolicyRule.holds facts) := by
  induction rules generalizing m with
  | nil =>
    refine ⟨fun h => ⟨fun _ h => absurd h List.not_mem_nil, (Except.ok.inj h).symm⟩, ?_⟩
    rintro ⟨_, rfl⟩
    rfl
  | cons rule rules ih =>
    rw [matched, List.filter_cons, PolicyRule.holds, Settled, List.forall_mem_cons]
    cases hrule : allHold facts rule.conditions with
    | error e =>
      constructor
      · rintro ⟨⟩
      · rintro ⟨⟨⟨b, hb⟩, _⟩, _⟩
        cases hb
    | ok b =>
      cases hrest : matched facts rules with
      | error e =>
        constructor
        · rintro ⟨⟩
        · rintro ⟨⟨_, hsettled⟩, _⟩
          cases hrest.symm.trans (ih.mpr ⟨hsettled, rfl⟩)
      | ok rest =>
        obtain ⟨hsettled, rfl⟩ := ih.mp hrest
        constructor
        · intro h
          exact ⟨⟨⟨b, rfl⟩, hsettled⟩, (Except.ok.inj h).symm⟩
        · rintro ⟨_, rfl⟩
          rfl

end Verdicts

section Evaluations

variable (π : Platform) {engine : PolicyEngine V} {action : String} {facts : Facts V}

theorem settled_of_defined (hinformed : engine.Informed action facts)
    (hdefined : Defined facts (engine.candidates action)) :
    Settled facts (engine.candidates action) :=
  fun rule hrule => allHold_of_defined (hinformed rule hrule) (hdefined rule hrule)

/-- The test of `evaluate` for a fact that is missing. -/
theorem informed_iff : engine.Informed action facts ↔
    ((engine.candidates action).flatMap PolicyRule.conditions).any (fun condition =>
      (facts.lookup condition.fact).isNone) = false := by
  simp only [PolicyEngine.Informed, List.any_eq_false, List.mem_flatMap, Option.isNone_iff_eq_none,
    ← Option.not_isSome_iff_eq_none, not_not]
  constructor
  · rintro h c ⟨rule, hrule, hc⟩
    exact h rule hrule c hc
  · intro h rule hrule c hc
    exact h c ⟨rule, hrule, hc⟩

/-- The decision that a verdict stands for. -/
def PolicyEngine.decision (engine : PolicyEngine V) (encoded : String) (v : Verdict) : PolicyDecision :=
  ⟨engine.version, v.effect, v.ruleIds, v.reasonCode, "sha256:" ++ π.sha256 encoded⟩

/-- An evaluation that gets as far as its candidates decides what they decide. -/
theorem evaluate_eq_verdict {encoded : String} (hknown : facts.any (·.1 ∉ engine.allowedFacts) = false)
    (hencoded : Comparable.dumps facts = .ok encoded)
    (hsettled : engine.Informed action facts → Settled facts (engine.candidates action)) :
    engine.evaluate π action facts =
      .ok (engine.decision π encoded (verdict facts (engine.candidates action))) := by
  rw [PolicyEngine.evaluate, hknown, hencoded]
  simp only [Bool.false_eq_true, if_false, bind, Except.bind]
  rw [← PolicyEngine.candidates, verdict]
  split
  · rfl
  · rename_i hinformed
    rw [Bool.not_eq_true, ← informed_iff] at hinformed
    rw [matched_eq_ok.mpr ⟨hsettled hinformed, rfl⟩]
    dsimp only
    split
    · rfl
    · rfl

end Evaluations

section Order

variable {facts : Facts V} {rules rules' : List (PolicyRule V)}

/-- The order of the candidates does not matter to what they decide. -/
theorem verdict_perm (hids : (rules.map PolicyRule.ruleId).Nodup) (h : rules.Perm rules') :
    verdict facts rules = verdict facts rules' := by
  have hmissing : (rules.flatMap PolicyRule.conditions).any (fun condition =>
        (facts.lookup condition.fact).isNone) =
      (rules'.flatMap PolicyRule.conditions).any fun condition =>
        (facts.lookup condition.fact).isNone :=
    (h.flatMap_right _).any_eq
  have hmatched : (rules.filter (PolicyRule.holds facts)).Perm (rules'.filter (PolicyRule.holds facts)) :=
    h.filter _
  have hnone : rules.filter (PolicyRule.holds facts) = [] ↔ rules'.filter (PolicyRule.holds facts) = [] :=
    ⟨fun hnil => (hnil ▸ hmatched).nil_eq.symm, fun hnil => (hnil ▸ hmatched).eq_nil⟩
  have hids' : ((rules.filter (PolicyRule.holds facts)).map PolicyRule.ruleId).Nodup :=
    hids.sublist (List.filter_sublist.map _)
  rw [verdict, verdict, hmissing]
  dsimp only
  rw [strongest_perm hmatched, winners_perm hids' hmatched]
  simp only [hnone]

/-- An `ALLOW` of the candidates: nothing is missing, some rule matches, and only rules that allow. -/
theorem verdict_eq_allow : (verdict facts rules).effect = .allow ↔
    ((rules.flatMap PolicyRule.conditions).any fun condition =>
      (facts.lookup condition.fact).isNone) = false ∧
    (∃ rule ∈ rules, rule.Matches facts) ∧
    ∀ rule ∈ rules, rule.Matches facts → rule.effect = .allow := by
  rw [verdict]
  split
  · rename_i hmissing
    simp [hmissing]
  · rename_i hnone
    rw [Bool.not_eq_true] at hnone
    rw [and_iff_right hnone]
    dsimp only
    split
    · rename_i hnil
      refine ⟨fun h => (nomatch h), ?_⟩
      rintro ⟨⟨rule, hrule, hmatches⟩, _⟩
      exact absurd (List.mem_filter.mpr ⟨hrule, holds_iff_matches.mpr hmatches⟩) (hnil ▸ List.not_mem_nil)
    · rename_i hsome
      obtain ⟨rule, hrule⟩ := List.exists_mem_of_ne_nil _ hsome
      obtain ⟨hrule, hholds⟩ := List.mem_filter.mp hrule
      have hmatch : ∃ rule ∈ rules, rule.Matches facts := ⟨rule, hrule, holds_iff_matches.mp hholds⟩
      rw [and_iff_right hmatch, strongest_eq_allow]
      simp only [List.mem_filter, and_imp, holds_iff_matches]

end Order

section Decisions

variable (π : Platform) {engine engine' : PolicyEngine V} {action : String} {facts : Facts V}

/-- The same policy with its rules in another order. -/
structure Reordered (engine engine' : PolicyEngine V) : Prop where
  version : engine'.version = engine.version
  allowedFacts : engine'.allowedFacts = engine.allowedFacts
  rules : engine.rules.Perm engine'.rules

/-- The policy with one rule more, wherever it stands. -/
structure Extended (engine : PolicyEngine V) (rule : PolicyRule V) (engine' : PolicyEngine V) : Prop where
  allowedFacts : engine'.allowedFacts = engine.allowedFacts
  rules : engine'.rules.Perm (rule :: engine.rules)

/-- A decision is the verdict of candidates that could all be evaluated. -/
theorem evaluate_eq_ok {d : PolicyDecision} (h : engine.evaluate π action facts = .ok d) :
    facts.any (·.1 ∉ engine.allowedFacts) = false ∧
    (engine.Informed action facts → Settled facts (engine.candidates action)) ∧
    ∃ encoded, Comparable.dumps facts = .ok encoded ∧
      d = engine.decision π encoded (verdict facts (engine.candidates action)) := by
  have hknown : facts.any (·.1 ∉ engine.allowedFacts) = false := by
    rw [← Bool.not_eq_true]
    intro hunknown
    rw [PolicyEngine.evaluate, if_pos hunknown] at h
    cases h
  cases hencoded : Comparable.dumps facts with
  | error e =>
    rw [PolicyEngine.evaluate, hknown, hencoded] at h
    cases h
  | ok encoded =>
    have hsettled : engine.Informed action facts → Settled facts (engine.candidates action) := by
      intro hinformed
      cases hmatched : matched facts (engine.candidates action) with
      | error e =>
        have hraised : engine.evaluate π action facts = .error e :=
          (evaluate_eq_error π (by simpa using hknown)).mpr
            (.inr ⟨⟨encoded, hencoded⟩, hinformed, matched_eq_error.mp hmatched⟩)
        cases h.symm.trans hraised
      | ok m => exact (matched_eq_ok.mp hmatched).1
    refine ⟨hknown, hsettled, encoded, rfl, ?_⟩
    exact Except.ok.inj (h.symm.trans (evaluate_eq_verdict π hknown hencoded hsettled))

theorem candidates_ids : ((engine.candidates action).map PolicyRule.ruleId).Nodup :=
  engine.ids.sublist (List.filter_sublist.map _)

/-- What an `ALLOW` has behind it. -/
theorem allow_earned {d : PolicyDecision} (h : engine.evaluate π action facts = .ok d)
    (hallow : d.effect = .allow) :
    engine.Informed action facts ∧
    (∃ rule ∈ engine.candidates action, rule.effect = .allow ∧ rule.Matches facts) ∧
    ∀ rule ∈ engine.candidates action, rule.Matches facts → rule.effect = .allow := by
  obtain ⟨_, _, encoded, _, rfl⟩ := evaluate_eq_ok π h
  obtain ⟨hnone, ⟨rule, hrule, hmatches⟩, honly⟩ := verdict_eq_allow.mp hallow
  exact ⟨informed_iff.mpr hnone, ⟨rule, hrule, honly rule hrule hmatches, hmatches⟩, honly⟩

/-- A decision on rules in another order is the same decision. -/
theorem evaluate_reordered (hreordered : Reordered engine engine')
    (hdefined : Defined facts (engine.candidates action)) :
    engine'.evaluate π action facts = engine.evaluate π action facts := by
  obtain ⟨hversion, hallowed, hrules⟩ := hreordered
  have hcandidates : (engine.candidates action).Perm (engine'.candidates action) := hrules.filter _
  have hdefined' : Defined facts (engine'.candidates action) :=
    fun rule hrule => hdefined rule (hcandidates.mem_iff.mpr hrule)
  cases hknown : facts.any (·.1 ∉ engine.allowedFacts) with
  | true =>
    -- Both refuse a fact that no rule may use.
    rw [PolicyEngine.evaluate, PolicyEngine.evaluate, hallowed, hknown]
    rfl
  | false =>
    have hknown' : facts.any (·.1 ∉ engine'.allowedFacts) = false := hallowed ▸ hknown
    cases hencoded : Comparable.dumps facts with
    | error e =>
      rw [PolicyEngine.evaluate, PolicyEngine.evaluate, hknown, hknown', hencoded]
      rfl
    | ok encoded =>
      rw [evaluate_eq_verdict π hknown hencoded fun h => settled_of_defined h hdefined,
        evaluate_eq_verdict π hknown' hencoded fun h => settled_of_defined h hdefined',
        verdict_perm candidates_ids hcandidates, PolicyEngine.decision, PolicyEngine.decision, hversion]

/-- A rule that denies or asks for a handoff earns no `ALLOW`. -/
theorem extended_not_allow {rule : PolicyRule V} {d d' : PolicyDecision}
    (hextended : Extended engine rule engine') (heffect : rule.effect ≠ .allow)
    (h : engine.evaluate π action facts = .ok d) (h' : engine'.evaluate π action facts = .ok d')
    (hnot : d.effect ≠ .allow) : d'.effect ≠ .allow := by
  intro hallow
  obtain ⟨hinformed, ⟨winner, hwinner, hwins, hmatches⟩, honly⟩ := allow_earned π h' hallow
  have hmem : ∀ r ∈ engine.candidates action, r ∈ engine'.candidates action := by
    intro r hr
    obtain ⟨hr, happlies⟩ := List.mem_filter.mp hr
    exact List.mem_filter.mpr
      ⟨hextended.rules.mem_iff.mpr (List.mem_cons_of_mem rule hr), happlies⟩
  -- The rule that allows is not the new one, so the old policy has it as well.
  have hold : winner ∈ engine.candidates action := by
    obtain ⟨hmemWinner, happlies⟩ := List.mem_filter.mp hwinner
    rcases List.mem_cons.mp (hextended.rules.mem_iff.mp hmemWinner) with rfl | hmemWinner
    · exact absurd hwins heffect
    · exact List.mem_filter.mpr ⟨hmemWinner, happlies⟩
  obtain ⟨_, _, encoded, _, rfl⟩ := evaluate_eq_ok π h
  apply hnot
  apply verdict_eq_allow.mpr
  refine ⟨informed_iff.mp fun r hr => hinformed r (hmem r hr), ⟨winner, hold, hmatches⟩, ?_⟩
  exact fun r hr => honly r (hmem r hr)

/-- A decision does not depend on the order of the rules, an `ALLOW` of it has every fact that the
rules of the action name, a rule behind it that allows and none against it that matches, and a
policy with one more rule that denies or asks for a handoff allows nothing that was not allowed. -/
theorem policy_evaluation (engine : PolicyEngine V) (action : String) (facts : Facts V)
    (hdefined : Defined facts (engine.candidates action)) :
    (∀ engine' : PolicyEngine V, Reordered engine engine' →
      engine'.evaluate π action facts = engine.evaluate π action facts) ∧
    (∀ d, engine.evaluate π action facts = .ok d → d.effect = .allow →
      engine.Informed action facts ∧
      (∃ rule ∈ engine.candidates action, rule.effect = .allow ∧ rule.Matches facts) ∧
      ∀ rule ∈ engine.candidates action,
        rule.effect = .deny ∨ rule.effect = .requireHandoff → ¬ rule.Matches facts) ∧
    (∀ (engine' : PolicyEngine V) (rule : PolicyRule V), Extended engine rule engine' →
      rule.effect = .deny ∨ rule.effect = .requireHandoff →
      ∀ d d', engine.evaluate π action facts = .ok d → engine'.evaluate π action facts = .ok d' →
        d.effect ≠ .allow → d'.effect ≠ .allow) := by
  refine ⟨fun engine' hreordered => evaluate_reordered π hreordered hdefined, ?_, ?_⟩
  · intro d h hallow
    obtain ⟨hinformed, hsome, honly⟩ := allow_earned π h hallow
    refine ⟨hinformed, hsome, ?_⟩
    intro rule hrule heffect hmatches
    have := honly rule hrule hmatches
    rcases heffect with heffect | heffect <;> exact nomatch this.symm.trans heffect
  · intro engine' rule hextended heffect d d' h h' hnot
    have hne : rule.effect ≠ .allow := by
      rcases heffect with heffect | heffect <;> rw [heffect] <;> decide
    exact extended_not_allow π hextended hne h h' hnot

end Decisions

section Demo

open Json

def demoSmall : PolicyRule Value :=
  ⟨"R1", "refund", 1, [⟨"amount", "lte", .int 100⟩], .allow, "SMALL_REFUND"⟩

def demoFrozen : PolicyRule Value :=
  ⟨"R2", "refund", 2, [⟨"frozen", "eq", .bool true⟩], .deny, "ACCOUNT_FROZEN"⟩

def demoRefunds : PolicyEngine Value :=
  ⟨"p1", ["amount", "frozen"], [demoSmall, demoFrozen], by decide, by decide, by decide⟩

def demoSwapped : PolicyEngine Value :=
  ⟨"p1", ["amount", "frozen"], [demoFrozen, demoSmall], by decide, by decide, by decide⟩

def demoRefund : Facts Value := [("amount", .int 30), ("frozen", .bool false)]

/-- A small refund is allowed in either order of the rules. -/
theorem policy_evaluation_refund :
    demoSwapped.evaluate demoPlatform "refund" demoRefund =
      demoRefunds.evaluate demoPlatform "refund" demoRefund ∧
    ¬ demoFrozen.Matches demoRefund := by
  have hcandidates : demoRefunds.candidates "refund" = [demoSmall, demoFrozen] := rfl
  have hfrozen : demoFrozen ∈ demoRefunds.candidates "refund" :=
    hcandidates ▸ List.mem_cons_of_mem _ (List.mem_singleton_self _)
  have hdefined : Defined demoRefund (demoRefunds.candidates "refund") := by
    intro rule hrule condition hcondition actual hactual
    rw [hcandidates] at hrule
    rcases List.mem_pair.mp hrule with rfl | rfl <;> cases List.mem_singleton.mp hcondition
    · obtain rfl : .int 30 = actual := Option.some.inj hactual
      exact ⟨true, rfl⟩
    · obtain rfl : .bool false = actual := Option.some.inj hactual
      exact ⟨false, rfl⟩
  obtain ⟨hreordered, hallow, _⟩ := policy_evaluation demoPlatform demoRefunds "refund" demoRefund hdefined
  obtain ⟨d, hd, heffect⟩ : ∃ d, demoRefunds.evaluate demoPlatform "refund" demoRefund = .ok d ∧
      d.effect = .allow := ⟨_, rfl, rfl⟩
  exact ⟨hreordered demoSwapped ⟨rfl, rfl, .swap _ _ _⟩,
    (hallow d hd heffect).2.2 demoFrozen hfrozen (.inl rfl)⟩

end Demo

end CommerceAgent.Policies
