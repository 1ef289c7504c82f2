import CommerceAgent.SkillRepository

/-! Which Skill versions are offered to a match, and which of them a text selects. -/
namespace CommerceAgent.Skills

open Json Tables

/-- The statuses that a match mode allows. -/
def statuses (mode : String) : Option (List SkillStatus) :=
  if mode = "active" then some [.active, .canary]
  else if mode = "canary" then some [.canary]
  else if mode = "shadow" then some [.approved, .canary, .active]
  else none

section Query

variable (reg : Registry) (tenantId : String)

/-- The join of the candidates of a tenant with their versions that can be served. -/
def Registry.joined (allowed : List SkillStatus) (now : ℕ) : List (Candidate × Version) :=
  (reg.candidates.select fun c => decide (c.tenantId = tenantId ∧ c.status ∈ allowed)).flatMap fun c =>
    (reg.versions.select fun v =>
      decide (v.skillId = c.skillId ∧ v.status = c.status ∧ now < v.expiresAt)).map fun v => (c, v)

/-- `candidates_for_match`: the sweep, and the query at a later time. -/
def Registry.candidatesForMatch (mode : String) (limit : ℤ) (now later : ℕ) :
    Except SkillError (List (Candidate × Version)) := do
  let reg ← reg.expireDue (some tenantId) now
  match statuses mode with
  | none => .error (.value "invalid_skill_match_mode")
  | some allowed => .ok (((reg.joined tenantId allowed later).insertionSort
      fun a b => b.1.updatedAt ≤ a.1.updatedAt).take (max 1 (min limit 500)).toNat)

end Query

structure SkillMatch where
  skillId : Uuid
  skillVersionId : Uuid
  score : ℚ
  scopeType : String
  scopeValue : String
  mode : String
  strategyView : Dict

section Selection

variable (casefold : String → String)

def matchSkill (textValue : String) (trigger : Dict) : ℚ :=
  match trigger.get? "keywords" with
  | some (.arr keywords) =>
    let hits := (keywords.take 32).countP fun keyword =>
      keyword.asStr?.any fun keyword => Texts.contains (casefold textValue) (casefold keyword)
    if keywords.isEmpty then 0 else min 1 (hits / max 1 (min keywords.length 8))
  | _ => 0

def scopeRank (scopeType : String) : Option ℕ :=
  if scopeType = "route" then some 0
  else if scopeType = "tenant" then some 1
  else if scopeType = "global" then some 2
  else none

def scopeMatches (scopeType scopeValue tenantId : String) (route : Option String) : Bool :=
  if scopeType = "global" then true
  else if scopeType = "route" then decide (route = some scopeValue)
  else decide (scopeType = "tenant" ∧ scopeValue = tenantId)

def strategyView (strategy : Dict) : Dict :=
  ["response_policy", "allowed_decisions", "forbidden_tools", "ttl_seconds"].filterMap fun key =>
    (strategy.get? key).map fun value => (key, value)

variable (textValue tenantId : String) (route : Option String) (mode : String) (minimumScore : ℚ) (now : ℕ)

/-- What the loop of `select_skill` makes of a row: the key that it sorts by, and the match. -/
def option (allowed : List SkillStatus) (row : Candidate × Version) :
    Option ((ℚ × ℕ × String) × SkillMatch) :=
  let candidate := row.1
  let score := matchSkill casefold textValue candidate.trigger
  if candidate.tenantId ≠ tenantId then none
  else if candidate.status ∉ allowed then none
  else if row.2.expiresAt ≤ now then none
  else match scopeRank candidate.scopeType with
  | none => none
  | some rank =>
    if ¬ scopeMatches candidate.scopeType candidate.scopeValue tenantId route then none
    else if score < minimumScore then none
    else some ((-score, rank, candidate.skillId), {
      skillId := candidate.skillId, skillVersionId := row.2.skillVersionId, score
      scopeType := candidate.scopeType, scopeValue := candidate.scopeValue, mode
      strategyView := strategyView candidate.strategy })

/-- The order of the tuples. -/
abbrev Precedes (a b : ℚ × ℕ × String) : Prop :=
  a.1 < b.1 ∨ a.1 = b.1 ∧ (a.2.1 < b.2.1 ∨ a.2.1 = b.2.1 ∧ a.2.2 ≤ b.2.2)

/-- `select_skill` on the rows of `candidates_for_match`. -/
def selectSkill (candidates : List (Candidate × Version)) : Except SkillError (Option SkillMatch) :=
  match statuses mode with
  | none => .error (.value "invalid_skill_match_mode")
  | some allowed =>
    let options := candidates.filterMap
      (option casefold textValue tenantId route mode minimumScore now allowed)
    .ok ((options.insertionSort fun a b => Precedes a.1 b.1).head?.map Prod.snd)

variable {casefold textValue tenantId route mode minimumScore now}

/-- A row that makes an option is of the tenant and has not expired. -/
theorem option_eq_some {allowed : List SkillStatus} {row : Candidate × Version}
    {item : (ℚ × ℕ × String) × SkillMatch}
    (h : option casefold textValue tenantId route mode minimumScore now allowed row = some item) :
    row.1.tenantId = tenantId ∧ now < row.2.expiresAt ∧ item.2.skillId = row.1.skillId ∧
      item.2.skillVersionId = row.2.skillVersionId := by
  unfold option at h
  dsimp only at h
  split at h
  · exact absurd h (by simp)
  rename_i htenant
  split at h
  · exact absurd h (by simp)
  split at h
  · exact absurd h (by simp)
  rename_i hexpires
  split at h
  · exact absurd h (by simp)
  split at h
  · exact absurd h (by simp)
  split at h
  · exact absurd h (by simp)
  · obtain rfl := Option.some.inj h
    exact ⟨not_not.mp htenant, Nat.lt_of_not_le hexpires, rfl, rfl⟩

/-- What is selected is one of the rows. -/
theorem selectSkill_mem {candidates : List (Candidate × Version)} {m : SkillMatch}
    (h : selectSkill casefold textValue tenantId route mode minimumScore now candidates = .ok (some m)) :
    ∃ row ∈ candidates, row.1.tenantId = tenantId ∧ now < row.2.expiresAt ∧
      m.skillId = row.1.skillId ∧ m.skillVersionId = row.2.skillVersionId := by
  unfold selectSkill at h
  split at h
  · exact absurd h (by simp)
  obtain ⟨item, hitem, rfl⟩ := Option.map_eq_some_iff.mp (Except.ok.inj h)
  have hoption := (List.mem_insertionSort _).mp (List.mem_of_mem_head? hitem)
  obtain ⟨row, hrow, hmakes⟩ := List.mem_filterMap.mp hoption
  exact ⟨row, hrow, option_eq_some hmakes⟩

end Selection

section Offers

variable {reg : Registry} {tenantId mode : String} {limit : ℤ} {now later : ℕ}
  {offers : List (Candidate × Version)}

/-- The rows that the query gives are rows of the two tables after the sweep. -/
theorem candidatesForMatch_ok (h : reg.candidatesForMatch tenantId mode limit now later = .ok offers) :
    ∃ reg' allowed, reg.expireDue (some tenantId) now = .ok reg' ∧ statuses mode = some allowed ∧
      ∀ row ∈ offers, row.1 ∈ reg'.candidates.rows ∧ row.1.tenantId = tenantId ∧ row.1.status ∈ allowed ∧
        row.2 ∈ reg'.versions.rows ∧ row.2.skillId = row.1.skillId ∧ row.2.status = row.1.status ∧
        later < row.2.expiresAt := by
  unfold Registry.candidatesForMatch at h
  cases hsweep : reg.expireDue (some tenantId) now with
  | error error => simp [hsweep, bind, Except.bind] at h
  | ok reg' =>
    simp only [hsweep, bind, Except.bind] at h
    split at h
    · exact absurd h (by simp)
    rename_i allowed hmode
    obtain rfl := Except.ok.inj h
    refine ⟨reg', allowed, rfl, hmode, ?_⟩
    intro row hrow
    have hjoined := (List.mem_insertionSort _).mp (List.mem_of_mem_take hrow)
    obtain ⟨c, hc, hversion⟩ := List.mem_flatMap.mp hjoined
    obtain ⟨v, hv, rfl⟩ := List.mem_map.mp hversion
    obtain ⟨hc, hfound⟩ := List.mem_filter.mp hc
    obtain ⟨hv, hserved⟩ := List.mem_filter.mp hv
    simp only [decide_eq_true_eq] at hfound hserved
    exact ⟨hc, hfound.1, hfound.2, hv, hserved⟩

/-- Every mode serves live versions only. -/
theorem live_of_mem_statuses {allowed : List SkillStatus} {status : SkillStatus}
    (h : statuses mode = some allowed) (hstatus : status ∈ allowed) : status.Live := by
  unfold statuses at h
  split at h
  · obtain rfl := Option.some.inj h
    revert hstatus
    cases status <;> decide
  split at h
  · obtain rfl := Option.some.inj h
    revert hstatus
    cases status <;> decide
  split at h
  · obtain rfl := Option.some.inj h
    revert hstatus
    cases status <;> decide
  · exact absurd h (by simp)

end Offers

end CommerceAgent.Skills
