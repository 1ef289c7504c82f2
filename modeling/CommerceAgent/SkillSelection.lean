import CommerceAgent.JsonSizes
import CommerceAgent.Rearrangements
import CommerceAgent.SkillMatching

/-! The selection of a Skill from untyped records: the filters, the sort key, and what does not depend on
the order of the records or on those of other tenants. -/
namespace CommerceAgent.Selection

open Json Skills

/-- A `datetime`: its wall clock, and the offset from UTC of an aware one. -/
structure DateTime where
  wall : ℤ
  offset : Option ℤ

/-- The time in UTC, which a naive one is taken to be in. -/
def DateTime.instant (d : DateTime) : ℤ := d.wall - d.offset.getD 0

inductive Field where
  | json (v : Payload)
  | datetime (d : DateTime)

/-- The standard library functions that the selection rests on. -/
structure Library where
  casefold : String → String
  /-- `str` of a value that is not a string. -/
  repr : Field → String
  fromisoformat : String → Option DateTime

abbrev SkillRecord : Type := List (String × Field)

namespace SkillRecord

def get? (candidate : SkillRecord) (name : String) : Option Field := candidate.lookup name

/-- The string of a field, if it holds one. -/
def text? (candidate : SkillRecord) (name : String) : Option String :=
  match candidate.get? name with
  | some (.json (.str s)) => some s
  | _ => none

/-- `str(candidate.get(name, ""))`. -/
def str (lib : Library) (candidate : SkillRecord) (name : String) : String :=
  match candidate.get? name with
  | some (.json (.str s)) => s
  | some v => lib.repr v
  | none => ""

/-- `_dict`. -/
def dict (candidate : SkillRecord) (name : String) : Members :=
  match candidate.get? name with
  | some (.json (.obj d)) => d
  | _ => []

end SkillRecord

structure SkillMatch where
  skillId : String
  skillVersionId : String
  score : ℚ
  scopeType : String
  scopeValue : String
  mode : String
  strategyView : Members

section Filters

variable (lib : Library)

def matchSkill (textValue : String) (trigger : Members) : ℚ :=
  match trigger.get? "keywords" with
  | some (.arr keywords) =>
    let hits := (keywords.take 32).countP fun
      | .str keyword => Texts.contains (lib.casefold textValue) (lib.casefold keyword)
      | _ => false
    if keywords.isEmpty then 0 else min 1 (hits / max 1 (min keywords.length 8))
  | _ => 0

/-- `value.replace("Z", "+00:00")`. -/
def replaceZulu (value : String) : String :=
  String.ofList (value.toList.flatMap fun c => if c = 'Z' then "+00:00".toList else [c])

/-- `_expired`, at one reading of the clock. -/
def expired (now : ℤ) : Option Field → Bool
  | none | some (.json .null) => false
  | some (.datetime expiresAt) => expiresAt.instant ≤ now
  | some (.json (.str value)) =>
    match lib.fromisoformat (replaceZulu value) with
    | some expiresAt => expiresAt.instant ≤ now
    | none => true
  | some (.json _) => true

def strategyView (strategy : Members) : Members :=
  ["response_policy", "allowed_decisions", "forbidden_tools", "ttl_seconds"].filterMap fun key =>
    (strategy.get? key).map fun value => (key, value)

/-- The statuses that a mode lets through. -/
def allowedStatuses (mode : String) : Option (List String) :=
  if mode = "active" then some ["ACTIVE", "CANARY"]
  else if mode = "canary" then some ["CANARY"]
  else if mode = "shadow" then some ["APPROVED", "CANARY", "ACTIVE"]
  else none

end Filters

section Selecting

variable (lib : Library) (textValue tenantId : String) (route : Option String) (mode : String)
  (tooLow : ℚ → Bool) (now : ℤ)

def SkillRecord.score (candidate : SkillRecord) : ℚ := matchSkill lib textValue (candidate.dict "trigger")

/-- The options of `select_skill` that a record gives: its sort key, and the match. `tooLow` is the
comparison with the minimum score. -/
def option (allowed : List String) (candidate : SkillRecord) :
    Option ((ℚ × ℕ × String) × SkillMatch) :=
  if candidate.text? "tenant_id" ≠ some tenantId then none
  else if candidate.str lib "status" ∉ allowed then none
  else if expired lib now (candidate.get? "expires_at") then none
  else match scopeRank (candidate.str lib "scope_type") with
  | none => none
  | some rank =>
    if ¬ scopeMatches (candidate.str lib "scope_type") (candidate.str lib "scope_value") tenantId route then
      none
    else if tooLow (candidate.score lib textValue) then none
    else match candidate.text? "skill_id", candidate.text? "skill_version_id" with
    | some skillId, some versionId => some ((-candidate.score lib textValue, rank, skillId), {
        skillId := skillId
        skillVersionId := versionId
        score := candidate.score lib textValue
        scopeType := candidate.str lib "scope_type"
        scopeValue := candidate.str lib "scope_value"
        mode := mode
        strategyView := strategyView (candidate.dict "strategy") })
    | _, _ => none

/-- The first of the options in the order of their keys. -/
def first (options : List ((ℚ × ℕ × String) × SkillMatch)) : Option SkillMatch :=
  (options.insertionSort fun a b => Precedes a.1 b.1).head?.map Prod.snd

def selectSkill (candidates : List SkillRecord) : Except String (Option SkillMatch) :=
  match allowedStatuses mode with
  | none => .error "invalid_skill_match_mode"
  | some allowed => .ok (first (candidates.filterMap
      (option lib textValue tenantId route mode tooLow now allowed)))

/-- A record that may be selected, and its rank and identifiers. -/
structure Eligible (candidate : SkillRecord) (rank : ℕ) (skillId versionId : String) : Prop where
  tenant : candidate.text? "tenant_id" = some tenantId
  status : ∃ allowed, allowedStatuses mode = some allowed ∧ candidate.str lib "status" ∈ allowed
  unexpired : expired lib now (candidate.get? "expires_at") = false
  ranked : scopeRank (candidate.str lib "scope_type") = some rank
  inScope : scopeMatches (candidate.str lib "scope_type") (candidate.str lib "scope_value") tenantId route = true
  passes : tooLow (candidate.score lib textValue) = false
  skill : candidate.text? "skill_id" = some skillId
  version : candidate.text? "skill_version_id" = some versionId

/-- The match of a record. -/
structure Describes (candidate : SkillRecord) (m : SkillMatch) : Prop where
  skill : candidate.text? "skill_id" = some m.skillId
  version : candidate.text? "skill_version_id" = some m.skillVersionId
  score : m.score = candidate.score lib textValue
  scopeType : m.scopeType = candidate.str lib "scope_type"
  scopeValue : m.scopeValue = candidate.str lib "scope_value"
  mode : m.mode = mode
  strategy : m.strategyView = strategyView (candidate.dict "strategy")

/-- The match is that of an eligible record, and no eligible one is better. -/
structure Best (candidates : List SkillRecord) (m : SkillMatch) : Prop where
  selected : ∃ candidate ∈ candidates, Describes lib textValue mode candidate m ∧
    ∃ rank, Eligible lib textValue tenantId route mode tooLow now candidate rank m.skillId m.skillVersionId ∧
      ∀ other ∈ candidates, ∀ rank' skillId versionId,
        Eligible lib textValue tenantId route mode tooLow now other rank' skillId versionId →
          other.score lib textValue ≤ m.score ∧ (other.score lib textValue = m.score → rank ≤ rank')

variable {lib textValue tenantId route mode tooLow now} {allowed : List String}
  {candidates candidates' : List SkillRecord}

theorem option_of_eligible {candidate : SkillRecord} {rank : ℕ} {skillId versionId : String}
    (hmode : allowedStatuses mode = some allowed)
    (h : Eligible lib textValue tenantId route mode tooLow now candidate rank skillId versionId) :
    ∃ m, option lib textValue tenantId route mode tooLow now allowed candidate =
      some ((-candidate.score lib textValue, rank, skillId), m) := by
  obtain ⟨allowed', hallowed, hstatus⟩ := h.status
  obtain rfl := Option.some.inj (hmode.symm.trans hallowed)
  unfold option
  rw [if_neg (not_not.mpr h.tenant), if_neg (not_not.mpr hstatus),
    if_neg (Bool.not_eq_true _ ▸ h.unexpired), h.ranked]
  dsimp only
  rw [if_neg (not_not.mpr h.inScope), if_neg (Bool.not_eq_true _ ▸ h.passes), h.skill, h.version]
  exact ⟨_, rfl⟩

theorem eligible_of_option {candidate : SkillRecord} {item : (ℚ × ℕ × String) × SkillMatch}
    (hmode : allowedStatuses mode = some allowed)
    (h : option lib textValue tenantId route mode tooLow now allowed candidate = some item) :
    Describes lib textValue mode candidate item.2 ∧ ∃ rank,
      Eligible lib textValue tenantId route mode tooLow now candidate rank item.2.skillId
        item.2.skillVersionId ∧
      item.1 = (-candidate.score lib textValue, rank, item.2.skillId) := by
  unfold option at h
  split at h
  · cases h
  rename_i htenant
  split at h
  · cases h
  rename_i hstatus
  split at h
  · cases h
  rename_i hexpired
  split at h
  · cases h
  rename_i rank hrank
  split at h
  · cases h
  rename_i hscope
  split at h
  · cases h
  rename_i hlow
  split at h
  · rename_i skillId versionId hskill hversion
    obtain rfl := Option.some.inj h
    refine ⟨⟨hskill, hversion, rfl, rfl, rfl, rfl, rfl⟩, rank, ?_, rfl⟩
    exact ⟨not_not.mp htenant, ⟨allowed, hmode, not_not.mp hstatus⟩, Bool.not_eq_true _ ▸ hexpired, hrank,
      not_not.mp hscope, Bool.not_eq_true _ ▸ hlow, hskill, hversion⟩
  · cases h

theorem precedes_total (a b : ℚ × ℕ × String) : Precedes a b ∨ Precedes b a := by
  rcases lt_trichotomy a.1 b.1 with h | h | h
  · exact Or.inl (Or.inl h)
  · rcases lt_trichotomy a.2.1 b.2.1 with h' | h' | h'
    · exact Or.inl (Or.inr ⟨h, Or.inl h'⟩)
    · rcases le_total a.2.2 b.2.2 with h'' | h''
      · exact Or.inl (Or.inr ⟨h, Or.inr ⟨h', h''⟩⟩)
      · exact Or.inr (Or.inr ⟨h.symm, Or.inr ⟨h'.symm, h''⟩⟩)
    · exact Or.inr (Or.inr ⟨h.symm, Or.inl h'⟩)
  · exact Or.inr (Or.inl h)

theorem precedes_trans (a b c : ℚ × ℕ × String) (h : Precedes a b) (h' : Precedes b c) : Precedes a c := by
  rcases h with h | ⟨h, hrest⟩
  · rcases h' with h' | ⟨h', -⟩
    · exact Or.inl (h.trans h')
    · exact Or.inl (h.trans_eq h')
  · rcases h' with h' | ⟨h', hrest'⟩
    · exact Or.inl (h.trans_lt h')
    · refine Or.inr ⟨h.trans h', ?_⟩
      rcases hrest with hrest | ⟨hrest, hlast⟩
      · rcases hrest' with hrest' | ⟨hrest', -⟩
        · exact Or.inl (hrest.trans hrest')
        · exact Or.inl (hrest.trans_eq hrest')
      · rcases hrest' with hrest' | ⟨hrest', hlast'⟩
        · exact Or.inl (hrest.trans_lt hrest')
        · exact Or.inr ⟨hrest.trans hrest', hlast.trans hlast'⟩

/-- Keys that precede each other have the same identifier. -/
theorem precedes_antisymm {a b : ℚ × ℕ × String} (h : Precedes a b) (h' : Precedes b a) :
    a.2.2 = b.2.2 := by
  rcases h with h | ⟨h, hrest⟩
  · rcases h' with h' | ⟨h', -⟩
    · exact absurd h' h.asymm
    · exact absurd h' h.ne'
  · rcases h' with h' | ⟨-, hrest'⟩
    · exact absurd h h'.ne'
    · rcases hrest with hrest | ⟨hrest, hlast⟩
      · rcases hrest' with hrest' | ⟨hrest', -⟩
        · exact absurd hrest' hrest.asymm
        · exact absurd hrest' hrest.ne'
      · rcases hrest' with hrest' | ⟨-, hlast'⟩
        · exact absurd hrest hrest'.ne'
        · exact le_antisymm hlast hlast'

/-- The first option precedes the others. -/
theorem first_eq_some {options : List ((ℚ × ℕ × String) × SkillMatch)} {m : SkillMatch}
    (h : first options = some m) :
    ∃ item ∈ options, item.2 = m ∧ ∀ other ∈ options, Precedes item.1 other.1 := by
  have : Std.Total fun a b : (ℚ × ℕ × String) × SkillMatch => Precedes a.1 b.1 :=
    ⟨fun a b => precedes_total a.1 b.1⟩
  have : IsTrans ((ℚ × ℕ × String) × SkillMatch) fun a b => Precedes a.1 b.1 :=
    ⟨fun a b c => precedes_trans a.1 b.1 c.1⟩
  obtain ⟨item, hhead, hitem⟩ := Option.map_eq_some_iff.mp h
  have hsorted := List.pairwise_insertionSort (fun a b : (ℚ × ℕ × String) × SkillMatch =>
    Precedes a.1 b.1) options
  refine ⟨item, (List.mem_insertionSort _).mp (List.mem_of_mem_head? hhead), hitem, ?_⟩
  intro other hother
  have hmem := (List.mem_insertionSort fun a b : (ℚ × ℕ × String) × SkillMatch =>
    Precedes a.1 b.1).mpr hother
  cases hlist : options.insertionSort fun a b => Precedes a.1 b.1 with
  | nil =>
    rw [hlist] at hmem
    cases hmem
  | cons x rest =>
    rw [hlist] at hhead hmem hsorted
    obtain rfl := Option.some.inj hhead
    rcases List.mem_cons.mp hmem with rfl | hmem
    · exact (precedes_total other.1 other.1).elim id id
    · exact (List.pairwise_cons.mp hsorted).1 other hmem

/-- Members of a list that have one text among distinct ones are the same. -/
theorem eq_of_nodup_filterMap {α β : Type} {f : α → Option β} {l : List α} (h : (l.filterMap f).Nodup)
    {x y : α} (hx : x ∈ l) (hy : y ∈ l) {b : β} (hfx : f x = some b) (hfy : f y = some b) : x = y := by
  induction l with
  | nil => cases hx
  | cons z l ih =>
    rcases List.mem_cons.mp hx with rfl | hxl
    · rcases List.mem_cons.mp hy with rfl | hyl
      · rfl
      · rw [List.filterMap_cons_some hfx, List.nodup_cons] at h
        exact absurd (List.mem_filterMap.mpr ⟨y, hyl, hfy⟩) h.1
    · rcases List.mem_cons.mp hy with rfl | hyl
      · rw [List.filterMap_cons_some hfy, List.nodup_cons] at h
        exact absurd (List.mem_filterMap.mpr ⟨x, hxl, hfx⟩) h.1
      · refine ih ?_ hxl hyl
        cases hz : f z with
        | none => rwa [List.filterMap_cons_none hz] at h
        | some c =>
          rw [List.filterMap_cons_some hz, List.nodup_cons] at h
          exact h.2

/-- The selection depends on the options alone. -/
theorem selectSkill_eq_of_options
    (hdistinct : (candidates.filterMap fun c => c.text? "skill_id").Nodup)
    (h : ∀ allowed, (candidates'.filterMap
        (option lib textValue tenantId route mode tooLow now allowed)).Perm
      (candidates.filterMap (option lib textValue tenantId route mode tooLow now allowed))) :
    selectSkill lib textValue tenantId route mode tooLow now candidates' =
      selectSkill lib textValue tenantId route mode tooLow now candidates := by
  unfold selectSkill
  cases hmode : allowedStatuses mode with
  | none => rfl
  | some allowed =>
    have hsame := Rearrangements.insertionSort_eq_of_perm
      (r := fun a b : (ℚ × ℕ × String) × SkillMatch => Precedes a.1 b.1)
      (fun a b => precedes_total a.1 b.1) (fun a b c => precedes_trans a.1 b.1 c.1) ?_ (h allowed).symm
    · show Except.ok (first _) = Except.ok (first _)
      rw [first, first, hsame]
    · intro a ha b hb hab hba
      -- Tied options have one identifier, so they come from one record.
      obtain ⟨c, hc, hac⟩ := List.mem_filterMap.mp ha
      obtain ⟨d, hd, hbd⟩ := List.mem_filterMap.mp hb
      obtain ⟨hdescribes, _, _, hkey⟩ := eligible_of_option hmode hac
      obtain ⟨hdescribes', _, _, hkey'⟩ := eligible_of_option hmode hbd
      have hids := precedes_antisymm hab hba
      rw [hkey, hkey'] at hids
      have hrecord : c = d := by
        refine eq_of_nodup_filterMap hdistinct hc hd hdescribes.skill ?_
        rw [hdescribes'.skill]
        exact congrArg some hids.symm
      rw [hrecord, hbd] at hac
      exact Option.some.inj hac.symm

theorem selectSkill_best {m : SkillMatch}
    (h : selectSkill lib textValue tenantId route mode tooLow now candidates = .ok (some m)) :
    Best lib textValue tenantId route mode tooLow now candidates m := by
  unfold selectSkill at h
  split at h
  · cases h
  rename_i allowed hmode
  obtain ⟨item, hitem, rfl, hfirst⟩ := first_eq_some (Except.ok.inj h)
  obtain ⟨candidate, hcandidate, hoption⟩ := List.mem_filterMap.mp hitem
  obtain ⟨hdescribes, rank, heligible, hkey⟩ := eligible_of_option hmode hoption
  refine ⟨candidate, hcandidate, hdescribes, rank, heligible, ?_⟩
  intro other hother rank' skillId versionId heligible'
  obtain ⟨m', hoption'⟩ := option_of_eligible hmode heligible'
  have hprecedes := hfirst _ (List.mem_filterMap.mpr ⟨other, hother, hoption'⟩)
  rw [hkey, hdescribes.score.symm] at hprecedes
  -- The keys begin with the negated score: what precedes has the higher one.
  rcases hprecedes with hlt | ⟨heq, hrest⟩
  · have hscore := neg_lt_neg_iff.mp hlt
    exact ⟨hscore.le, fun h => absurd h hscore.ne⟩
  · refine ⟨(neg_inj.mp heq).ge, fun _ => ?_⟩
    rcases hrest with hrest | ⟨hrest, -⟩
    · exact hrest.le
    · exact hrest.le

variable (lib textValue tenantId route mode tooLow now candidates) in
/-- The selection is the same for every order of the records, it is the best of those that are eligible,
and records of other tenants do not change it. -/
theorem skill_selection (hdistinct : (candidates.filterMap fun c => c.text? "skill_id").Nodup) :
    (∀ candidates' : List SkillRecord, candidates'.Perm candidates →
      selectSkill lib textValue tenantId route mode tooLow now candidates' =
        selectSkill lib textValue tenantId route mode tooLow now candidates) ∧
    (∀ m, selectSkill lib textValue tenantId route mode tooLow now candidates = .ok (some m) →
      Best lib textValue tenantId route mode tooLow now candidates m) ∧
    ∀ others candidates' : List SkillRecord, (∀ c ∈ others, c.text? "tenant_id" ≠ some tenantId) →
      candidates'.Perm (candidates ++ others) →
        selectSkill lib textValue tenantId route mode tooLow now candidates' =
          selectSkill lib textValue tenantId route mode tooLow now candidates := by
  refine ⟨fun candidates' hperm => ?_, fun m => selectSkill_best, fun others candidates' hothers hperm => ?_⟩
  · exact selectSkill_eq_of_options hdistinct fun allowed => hperm.filterMap _
  · refine selectSkill_eq_of_options hdistinct fun allowed => ?_
    -- Records of other tenants are no options.
    have hnone : others.filterMap (option lib textValue tenantId route mode tooLow now allowed) = [] := by
      rw [List.filterMap_eq_nil_iff]
      intro c hc
      rw [option, if_pos (hothers c hc)]
    have hall := hperm.filterMap (option lib textValue tenantId route mode tooLow now allowed)
    rwa [List.filterMap_append, hnone, List.append_nil] at hall

end Selecting

section Demo

def asciiLibrary : Library where
  casefold := fun s => String.ofList (s.toList.map Char.toLower)
  repr := fun _ => ""
  fromisoformat := fun _ => none

def demoRecord (skillId tenantId : String) : SkillRecord :=
  [("skill_id", .json (.str skillId)), ("skill_version_id", .json (.str "version-1")),
    ("tenant_id", .json (.str tenantId)), ("status", .json (.str "ACTIVE")),
    ("scope_type", .json (.str "tenant")), ("scope_value", .json (.str tenantId)),
    ("trigger", .json (.obj [("keywords", .arr [.str "hello"])]))]

/-- Two Skills of a tenant that tie, in both orders, and one of another tenant between them. -/
theorem skill_selection_demo :
    selectSkill asciiLibrary "Hello" "tenant-1" none "active" (· < 3 / 4) 0
        [demoRecord "skill-2" "tenant-1", demoRecord "skill-3" "tenant-2", demoRecord "skill-1" "tenant-1"] =
      selectSkill asciiLibrary "Hello" "tenant-1" none "active" (· < 3 / 4) 0
        [demoRecord "skill-1" "tenant-1", demoRecord "skill-2" "tenant-1"] := by
  refine (skill_selection asciiLibrary "Hello" "tenant-1" none "active" (· < 3 / 4) 0
    [demoRecord "skill-1" "tenant-1", demoRecord "skill-2" "tenant-1"] ?_).2.2
      [demoRecord "skill-3" "tenant-2"] _ ?_ ?_
  · decide
  · decide
  · show ([demoRecord "skill-2" "tenant-1", demoRecord "skill-3" "tenant-2"] ++
      [demoRecord "skill-1" "tenant-1"]).Perm
      ([demoRecord "skill-1" "tenant-1"] ++
        [demoRecord "skill-2" "tenant-1", demoRecord "skill-3" "tenant-2"])
    exact List.perm_append_comm

end Demo

end CommerceAgent.Selection
