import CommerceAgent.Releases
import Mathlib.Algebra.Order.Field.Rat

/-! What a release goes through, whatever is called on it: its stages, and the evaluations that have
to come before the full rollout. -/
namespace CommerceAgent.Delivery

open Histories Json Tables Texts

variable {F : Type} [LT F] [DecidableLT F] [Mul F] [OfScientific F] [Zero F] [One F]

def Stage.percent : Stage → ℕ
  | .shadow => 0
  | .canary5 => 5
  | .canary25 => 25
  | .canary50 => 50
  | .full => 100
  | .stopped => 0
  | .rolledBack => 0

def Stage.next : Stage → Option Stage
  | .shadow => some .canary5
  | .canary5 => some .canary25
  | .canary25 => some .canary50
  | .canary50 => some .full
  | .full => none
  | .stopped => none
  | .rolledBack => none

/-- The number of stages that come before. -/
def Stage.rank : Stage → ℕ
  | .shadow => 0
  | .canary5 => 1
  | .canary25 => 2
  | .canary50 => 3
  | .full => 4
  | .stopped => 0
  | .rolledBack => 0

theorem Stage.rank_next {stage next : Stage} (h : stage.next = some next) :
    next.rank = stage.rank + 1 := by
  cases stage <;> cases h <;> rfl

section Transition

variable {metrics : CanaryMetrics F} {stage : Stage} {version : String}

theorem transitionStage_stop (h : evaluateCanary metrics ≠ []) :
    transitionStage stage version metrics = stopTransition version (evaluateCanary metrics) := by
  simp [transitionStage, h]

theorem transitionStage_next {next : Stage} (h : evaluateCanary metrics = [])
    (hnext : stage.next = some next) :
    transitionStage stage version metrics = ⟨next, .active, next.percent, none, []⟩ := by
  cases stage <;> cases hnext <;> simp [transitionStage, h, STAGES, Stage.percent, List.findIdx?_cons]

theorem transitionStage_full (h : evaluateCanary metrics = []) :
    transitionStage .full version metrics = ⟨.full, .completed, 100, none, []⟩ := by
  simp [transitionStage, h, STAGES, List.findIdx?_cons]

theorem transitionStage_unknown (h : evaluateCanary metrics = []) (hnext : stage.next = none)
    (hfull : stage ≠ .full) :
    transitionStage stage version metrics = stopTransition version ["unknown_release_stage"] := by
  cases stage <;> simp_all [transitionStage, STAGES, Stage.next, List.findIdx?_cons]

/-- What a decision can be. -/
theorem transitionStage_cases (stage : Stage) (version : String) (metrics : CanaryMetrics F) :
    (∃ reasons, transitionStage stage version metrics = stopTransition version reasons) ∨
      evaluateCanary metrics = [] ∧
        (stage = .full ∧ transitionStage stage version metrics = ⟨.full, .completed, 100, none, []⟩ ∨
          ∃ next, stage.next = some next ∧
            transitionStage stage version metrics = ⟨next, .active, next.percent, none, []⟩) := by
  by_cases h : evaluateCanary metrics = []
  · by_cases hfull : stage = .full
    · subst hfull
      exact .inr ⟨h, .inl ⟨rfl, transitionStage_full h⟩⟩
    · cases hnext : stage.next with
      | none => exact .inl ⟨_, transitionStage_unknown h hnext hfull⟩
      | some next => exact .inr ⟨h, .inr ⟨next, rfl, transitionStage_next h hnext⟩⟩
  · exact .inl ⟨_, transitionStage_stop h⟩

end Transition

section Rows

variable {db : DB} {e : Step F} {releaseId : Uuid} {r r' : Release}

def Step.Creates (e : Step F) (releaseId : Uuid) (r : Release) : Prop :=
  ∃ tenantId ownerRef currentVersion candidateVersion gates,
    e.op = .create tenantId ownerRef currentVersion candidateVersion gates releaseId ∧
      r = .shadowing tenantId ownerRef currentVersion candidateVersion gates releaseId e.later

def Step.Stops (e : Step F) (r r' : Release) : Prop :=
  r.status = .active ∧ ∃ reason, r' = r.halted reason e.later

/-- The evaluation of a release with these metrics, as far as it comes to a decision. -/
structure Step.Evaluates (e : Step F) (db : DB) (r : Release) (metrics : CanaryMetrics F) : Prop where
  called : ∃ actorRef, e.op = .evaluateAndAdvance r.tenantId r.releaseId actorRef metrics
  active : r.status = .active
  available : db.candidateAvailable r.tenantId r = true
  observed : ∀ ends ∈ r.observationEndsAt, ends ≤ e.now

def Step.Decides (e : Step F) (db : DB) (r r' : Release) : Prop :=
  ∃ metrics, e.Evaluates db r metrics ∧
    r' = r.decided (transitionStage r.stage r.currentVersion metrics) e.later

theorem clash_key (a b : Release) (h : a.releaseId = b.releaseId) : Clash a b := h

theorem release_eq_some : db.release releaseId = some r ↔
    r ∈ db.releases.rows ∧ r.releaseId = releaseId :=
  Table.lookup_eq_some clash_key

theorem select_addressed {tenantId : String} {l : List Release}
    (h : db.releases.select (Release.addressed tenantId releaseId) = r :: l) :
    db.release releaseId = some r ∧ r.tenantId = tenantId := by
  have hmem : r ∈ db.releases.select (Release.addressed tenantId releaseId) := by simp [h]
  obtain ⟨hrow, haddressed⟩ := List.mem_filter.mp hmem
  have haddressed : r.tenantId = tenantId ∧ r.releaseId = releaseId := by
    simpa [Release.addressed] using haddressed
  exact ⟨release_eq_some.mpr ⟨hrow, haddressed.2⟩, haddressed.1⟩

theorem create_ok {tenantId ownerRef currentVersion candidateVersion : String} {gates : Dict} {now : ℕ}
    {db' : DB} (h : create db tenantId ownerRef currentVersion candidateVersion gates releaseId now = .ok db') :
    db.releases.insert? (.shadowing tenantId ownerRef currentVersion candidateVersion gates releaseId now) =
      some db'.releases := by
  unfold create at h
  split at h
  · exact absurd h (by simp)
  · rename_i releases hinsert
    obtain rfl := Except.ok.inj h
    exact hinsert

theorem stop_ok {tenantId actorRef reason : String} {now : ℕ} {db' : DB}
    (h : stop db tenantId releaseId actorRef reason now = .ok db') :
    db'.releases = db.releases.update
      (fun r => r.addressed tenantId releaseId && decide (r.status = .active))
      (Release.halted reason now) (neutral_keep fun _ => rfl) := by
  unfold stop at h
  dsimp only at h
  split at h
  · exact absurd h (by simp)
  split at h
  · exact absurd h (by simp)
  · obtain rfl := Except.ok.inj h
    rfl

/-- An evaluation that comes to a decision, and what it writes. -/
theorem evaluateAndAdvance_ok {tenantId actorRef : String} {metrics : CanaryMetrics F} {now later : ℕ}
    {db' : DB} (h : evaluateAndAdvance db tenantId releaseId actorRef metrics now later = .ok db') :
    ∃ r, db.release releaseId = some r ∧ r.tenantId = tenantId ∧ r.status = .active ∧
      db.candidateAvailable r.tenantId r = true ∧ (∀ ends ∈ r.observationEndsAt, ends ≤ now) ∧
      db'.releases = db.releases.update (Release.addressed tenantId releaseId)
        (Release.decided (transitionStage r.stage r.currentVersion metrics) later)
        (neutral_keep fun _ => rfl) := by
  unfold evaluateAndAdvance at h
  split at h
  · exact absurd h (by simp)
  rename_i r l hselect
  obtain ⟨hr, htenant⟩ := select_addressed hselect
  split at h
  · exact absurd h (by simp)
  rename_i hactive
  split at h
  · exact absurd h (by simp)
  rename_i havailable
  split at h
  · exact absurd h (by simp)
  rename_i hobserved
  obtain rfl := Except.ok.inj h
  refine ⟨r, hr, htenant, not_not.mp hactive, ?_, ?_, rfl⟩
  · rw [htenant]
    exact not_not.mp havailable
  · intro ends hends
    have hends : r.observationEndsAt = some ends := hends
    simpa [hends] using hobserved

theorem after_error {error : Error} (h : e.attempt db = .error error) : after db e = db := by
  simp [after, h, Except.toOption]

theorem after_ok {db' : DB} (h : e.attempt db = .ok db') : after db e = db' := by
  simp [after, h, Except.toOption]

theorem lookup_after {db' : DB} {p : Release → Bool} {f : Release → Release}
    {hf : Table.Neutral Clash f} (h : db'.releases = db.releases.update p f hf)
    (hkey : ∀ r, (f r).releaseId = r.releaseId) :
    db'.release releaseId = (db.release releaseId).map (Table.changed p f) := by
  unfold DB.release
  rw [h, Table.lookup_update hf hkey]

/-- Everything that a step does to a release. -/
theorem release_after (hr : db.release releaseId = some r) (e : Step F) :
    ∃ r', (after db e).release releaseId = some r' ∧ (r' = r ∨ e.Stops r r' ∨ e.Decides db r r') := by
  have hid := (release_eq_some.mp hr).2
  cases hattempt : e.attempt db with
  | error error =>
    rw [after_error hattempt]
    exact ⟨r, hr, .inl rfl⟩
  | ok db' =>
    rw [after_ok hattempt]
    unfold Step.attempt at hattempt
    split at hattempt
    · have hinsert := create_ok hattempt
      refine ⟨r, ?_, .inl rfl⟩
      have hlookup : db.releases.lookup Release.releaseId releaseId = some r := hr
      rw [DB.release, Table.lookup_insert releaseId hinsert, hlookup, Option.some_or]
    · have hrows := @lookup_after db releaseId db' _ _ _ (stop_ok hattempt) fun _ => rfl
      rw [hr] at hrows
      refine ⟨_, hrows, ?_⟩
      unfold Table.changed
      split
      · rename_i hactive
        simp only [Bool.and_eq_true, decide_eq_true_eq] at hactive
        exact .inr (.inl ⟨hactive.2, _, rfl⟩)
      · exact .inl rfl
    · rename_i tenantId evaluatedId actorRef metrics hop
      obtain ⟨r₀, hr₀, htenant, hactive, havailable, hobserved, hupdate⟩ := evaluateAndAdvance_ok hattempt
      have hrows := @lookup_after db releaseId db' _ _ _ hupdate fun _ => rfl
      rw [hr] at hrows
      refine ⟨_, hrows, ?_⟩
      unfold Table.changed
      split
      · rename_i haddressed
        have haddressed : r.tenantId = tenantId ∧ r.releaseId = evaluatedId := by
          simpa [Release.addressed] using haddressed
        have hsame : r₀ = r := by
          rw [← haddressed.2, hid, hr] at hr₀
          exact (Option.some.inj hr₀).symm
        subst hsame
        have hcalled : e.op = .evaluateAndAdvance r₀.tenantId r₀.releaseId actorRef metrics := by
          rw [hop, haddressed.1, haddressed.2]
        exact .inr (.inr ⟨metrics, ⟨⟨actorRef, hcalled⟩, hactive, havailable, hobserved⟩, rfl⟩)
      · exact .inl rfl
    · obtain rfl := Except.ok.inj hattempt
      exact ⟨r, hr, .inl rfl⟩

/-- A release appears by its creation only. -/
theorem release_new (hnone : db.release releaseId = none)
    (hr : (after db e).release releaseId = some r) : e.Creates releaseId r := by
  cases hattempt : e.attempt db with
  | error error =>
    rw [after_error hattempt, hnone] at hr
    exact absurd hr (by simp)
  | ok db' =>
    rw [after_ok hattempt] at hr
    unfold Step.attempt at hattempt
    split at hattempt
    · rename_i tenantId ownerRef currentVersion candidateVersion gates newId hop
      have hlookup : db.releases.lookup Release.releaseId releaseId = none := hnone
      rw [DB.release, Table.lookup_insert releaseId (create_ok hattempt), hlookup, Option.none_or] at hr
      split at hr
      · rename_i hid
        have hid : newId = releaseId := hid
        subst hid
        exact ⟨tenantId, ownerRef, currentVersion, candidateVersion, gates, hop, (Option.some.inj hr).symm⟩
      · exact absurd hr (by simp)
    · rw [lookup_after (stop_ok hattempt) fun _ => rfl, hnone] at hr
      exact absurd hr (by simp)
    · obtain ⟨_, _, _, _, _, _, hupdate⟩ := evaluateAndAdvance_ok hattempt
      rw [lookup_after hupdate fun _ => rfl, hnone] at hr
      exact absurd hr (by simp)
    · obtain rfl := Except.ok.inj hattempt
      have hr : db.release releaseId = some r := hr
      exact absurd (hnone.symm.trans hr) (by simp)

end Rows

/-- The stage stays, goes on to its successor, or is stopped. -/
def Stage.Moves (stage stage' : Stage) : Prop :=
  stage' = stage ∨ stage.next = some stage' ∨ stage' = .stopped

/-- An evaluation of the release that passes, while its candidate has an active runtime. -/
def Passes (releaseId : Uuid) (x : DB × Step F) : Prop :=
  ∃ r metrics, x.1.release releaseId = some r ∧ x.2.Evaluates x.1 r metrics ∧ evaluateCanary metrics = []

def CreatedAt (releaseId : Uuid) (x : DB × Step F) : Prop := ∃ r, x.2.Creates releaseId r

/-- A day lies between the end of one step and the beginning of the other. -/
def DayApart (x y : DB × Step F) : Prop := x.2.later + day ≤ y.2.now

/-- The evaluations that a release has passed, at least a day after its creation and one another. -/
structure Promoted (h : List (Step F)) (releaseId : Uuid) (created : DB × Step F)
    (passed : List (DB × Step F)) : Prop where
  inOrder : (created :: passed).Sublist (trace after {} h)
  creation : CreatedAt releaseId created
  passes : ∀ x ∈ passed, Passes releaseId x
  apart : (created :: passed).IsChain DayApart

theorem Promoted.left {h h' : List (Step F)} {releaseId : Uuid} {created : DB × Step F}
    {passed : List (DB × Step F)} (hp : Promoted h releaseId created passed) :
    Promoted (h ++ h') releaseId created passed where
  inOrder := by
    rw [trace_append]
    exact hp.inOrder.trans (List.sublist_append_left _ _)
  creation := hp.creation
  passes := hp.passes
  apart := hp.apart

theorem Promoted.snoc {h : List (Step F)} {e : Step F} {releaseId : Uuid} {created : DB × Step F}
    {passed : List (DB × Step F)} (hp : Promoted h releaseId created passed)
    (hpass : Passes releaseId (run after {} h, e))
    (hday : ∀ x ∈ (created :: passed).getLast?, x.2.later + day ≤ e.now) :
    Promoted (h ++ [e]) releaseId created (passed ++ [(run after {} h, e)]) where
  inOrder := by
    rw [trace_snoc, ← List.cons_append]
    exact hp.inOrder.append (List.Sublist.refl _)
  creation := hp.creation
  passes x hx := by
    rcases List.mem_append.mp hx with hx | hx
    · exact hp.passes x hx
    · obtain rfl := List.mem_singleton.mp hx
      exact hpass
  apart := by
    rw [← List.cons_append, List.isChain_append]
    refine ⟨hp.apart, List.isChain_singleton _, ?_⟩
    intro x hx y hy
    obtain rfl := Option.some.inj hy
    exact hday x hx

/-- What is kept of every release: its share of the traffic is that of its stage, and as long as it is
not stopped it has passed one evaluation for each stage behind it, the last of them a window ago. -/
structure Sound (h : List (Step F)) (r : Release) : Prop where
  percent : r.trafficPercent = r.stage.percent
  promoted : r.stage ≠ .stopped → ∃ created passed, Promoted h r.releaseId created passed ∧
    passed.length = r.stage.rank ∧ (r.stage ≠ .full →
      ∀ x ∈ (created :: passed).getLast?, ∃ ends ∈ r.observationEndsAt, x.2.later + day ≤ ends)

theorem Sound.created {h : List (Step F)} {e : Step F} {releaseId : Uuid} {r : Release}
    (hr : e.Creates releaseId r) : Sound (h ++ [e]) r := by
  have hcreates := hr
  obtain ⟨tenantId, ownerRef, currentVersion, candidateVersion, gates, _, rfl⟩ := hr
  refine ⟨rfl, fun _ => ?_⟩
  refine ⟨(run after {} h, e), [], ⟨?_, ⟨_, hcreates⟩, by simp, List.isChain_singleton _⟩, rfl, fun _ => ?_⟩
  · rw [trace_snoc]
    exact List.sublist_append_right _ _
  · intro x hx
    obtain rfl := Option.some.inj hx
    exact ⟨_, rfl, Nat.le_refl _⟩

theorem Sound.left {h h' : List (Step F)} {r : Release} (hs : Sound h r) : Sound (h ++ h') r where
  percent := hs.percent
  promoted hstage := by
    obtain ⟨created, passed, hpromoted, hlength, hwindow⟩ := hs.promoted hstage
    exact ⟨created, passed, hpromoted.left, hlength, hwindow⟩

theorem Sound.decided {h : List (Step F)} {e : Step F} {r r' : Release} {releaseId : Uuid}
    (hs : Sound h r) (hr : (run after {} h).release releaseId = some r)
    (hd : e.Decides (run after {} h) r r') : Sound (h ++ [e]) r' := by
  obtain ⟨metrics, heval, rfl⟩ := hd
  have hid := (release_eq_some.mp hr).2
  rcases transitionStage_cases r.stage r.currentVersion metrics with
    ⟨reasons, hstop⟩ | ⟨hpass, ⟨hfull, hcompleted⟩ | ⟨next, hnext, hactive⟩⟩
  · rw [hstop]
    refine ⟨rfl, fun hstage => ?_⟩
    exact absurd rfl hstage
  · rw [hcompleted]
    refine ⟨rfl, fun _ => ?_⟩
    obtain ⟨created, passed, hpromoted, hlength, _⟩ := hs.promoted (by simp [hfull])
    rw [hfull] at hlength
    exact ⟨created, passed, hpromoted.left, hlength, fun hstage => absurd rfl hstage⟩
  · have hrank := Stage.rank_next hnext
    have hstage : r.stage ≠ .stopped ∧ r.stage ≠ .full := by
      constructor <;> intro hstage <;> simp [hstage, Stage.next] at hnext
    rw [hactive]
    refine ⟨rfl, fun _ => ?_⟩
    obtain ⟨created, passed, hpromoted, hlength, hwindow⟩ := hs.promoted hstage.1
    have hpasses : Passes releaseId (run after {} h, e) := ⟨r, metrics, hr, heval, hpass⟩
    have hday : ∀ x ∈ (created :: passed).getLast?, x.2.later + day ≤ e.now := by
      intro x hx
      obtain ⟨ends, hends, hle⟩ := hwindow hstage.2 x hx
      exact hle.trans (heval.observed ends hends)
    rw [hid] at hpromoted
    have hsnoc := hpromoted.snoc hpasses hday
    rw [← hid] at hsnoc
    refine ⟨created, _, hsnoc, ?_, fun hnotFull => ?_⟩
    · change (passed ++ [_]).length = next.rank
      rw [List.length_append, hlength, hrank]
      rfl
    · intro x hx
      rw [← List.cons_append, List.getLast?_concat] at hx
      obtain rfl := Option.some.inj hx
      have hnotFull : next ≠ .full := hnotFull
      refine ⟨e.later + day, ?_, Nat.le_refl _⟩
      simp [Release.decided, hnotFull]

theorem run_sound (h : List (Step F)) {releaseId : Uuid} {r : Release}
    (hr : (run after {} h).release releaseId = some r) : Sound h r := by
  induction h using List.reverseRecOn generalizing r with
  | nil => exact absurd hr (by simp [DB.release, Table.lookup, Table.empty])
  | append_singleton h e ih =>
    rw [run_append] at hr
    have hr : (after (run after {} h) e).release releaseId = some r := hr
    cases hbefore : (run after {} h).release releaseId with
    | none => exact .created (release_new hbefore hr)
    | some r₀ =>
      have hs := ih hbefore
      obtain ⟨r', hr', hcases⟩ := release_after hbefore e
      obtain rfl := Option.some.inj (hr.symm.trans hr')
      rcases hcases with rfl | ⟨_, _, rfl⟩ | hd
      · exact hs.left
      · refine ⟨rfl, fun hstage => ?_⟩
        exact absurd rfl hstage
      · exact hs.decided hbefore hd

theorem release_moves {db : DB} {releaseId : Uuid} {r : Release} (hr : db.release releaseId = some r)
    (e : Step F) : ∃ r', (after db e).release releaseId = some r' ∧ r.stage.Moves r'.stage ∧
      (r.status ≠ .active → r' = r) := by
  obtain ⟨r', hr', hcases⟩ := release_after hr e
  refine ⟨r', hr', ?_⟩
  rcases hcases with rfl | ⟨hactive, _, rfl⟩ | ⟨metrics, heval, rfl⟩
  · exact ⟨.inl rfl, fun _ => rfl⟩
  · exact ⟨.inr (.inr rfl), fun hended => absurd hactive hended⟩
  · refine ⟨?_, fun hended => absurd heval.active hended⟩
    rcases transitionStage_cases r.stage r.currentVersion metrics with
      ⟨reasons, hstop⟩ | ⟨_, ⟨hfull, hcompleted⟩ | ⟨next, hnext, hactive⟩⟩
    · rw [hstop]
      exact .inr (.inr rfl)
    · rw [hcompleted]
      exact .inl hfull.symm
    · rw [hactive]
      exact .inr (.inl hnext)

/-- A release that has ended stays as it is. -/
theorem release_ended {db : DB} {releaseId : Uuid} {r : Release} (hr : db.release releaseId = some r)
    (hended : r.status ≠ .active) (h : List (Step F)) : (run after db h).release releaseId = some r := by
  refine run_invariant (J := fun db : DB => db.release releaseId = some r) hr fun db e hdb => ?_
  obtain ⟨r', hr', _, hsame⟩ := release_moves hdb e
  rw [hr', hsame hended]

/-- The creation of a release and the four evaluations that it has passed since, each at least a day
after the step before it and with an active runtime of the candidate. -/
structure FullyObserved (h : List (Step F)) (releaseId : Uuid) (created first second third fourth : DB × Step F) :
    Prop where
  inOrder : [created, first, second, third, fourth].Sublist (trace after {} h)
  creation : CreatedAt releaseId created
  passes : ∀ x ∈ [first, second, third, fourth], Passes releaseId x
  apart : DayApart created first ∧ DayApart first second ∧ DayApart second third ∧ DayApart third fourth

/-- Whatever is called, in whatever order: the stages of a release follow one another up to the full
rollout or a stop, its share of the traffic is that of its stage, a stopped or completed one never
changes again, and nothing is rolled out in full before four evaluations have passed in time. -/
theorem release_lifecycle {h : List (Step F)} {releaseId : Uuid} {r : Release}
    (hr : (run after {} h).release releaseId = some r) :
    r.trafficPercent = r.stage.percent ∧
      (∀ e : Step F, ∃ r', (after (run after {} h) e).release releaseId = some r' ∧ r.stage.Moves r'.stage) ∧
      (r.status = .stopped ∨ r.status = .completed →
        ∀ h' : List (Step F), (run after {} (h ++ h')).release releaseId = some r) ∧
      (r.stage = .full → ∃ created first second third fourth,
        FullyObserved h releaseId created first second third fourth) := by
  have hs := run_sound h hr
  refine ⟨hs.percent, fun e => ?_, fun hended h' => ?_, fun hfull => ?_⟩
  · obtain ⟨r', hr', hmoves, _⟩ := release_moves hr e
    exact ⟨r', hr', hmoves⟩
  · rw [run_append]
    apply release_ended hr
    rcases hended with hended | hended <;> simp [hended]
  · obtain ⟨created, passed, hpromoted, hlength, _⟩ := hs.promoted (by simp [hfull])
    rw [(release_eq_some.mp hr).2] at hpromoted
    rw [hfull] at hlength
    obtain ⟨first, second, third, fourth, rfl⟩ := List.length_eq_four.mp hlength
    have hapart := hpromoted.apart
    simp only [List.isChain_cons_cons, List.isChain_singleton, and_true] at hapart
    exact ⟨created, first, second, third, fourth, hpromoted.inOrder, hpromoted.creation,
      hpromoted.passes, hapart⟩

section Demo

def greenMetrics : CanaryMetrics ℚ where
  qualityGatePass := some true
  safetyGatePass := some true
  terminalResponseCoverage := some 1

def demoCreation : Op ℚ := .create "demo-shop" "admin" "v1" "v2" [] "release-1"

def demoEvaluation : Op ℚ := .evaluateAndAdvance "demo-shop" "release-1" "admin" greenMetrics

/-- A runtime that is registered, a release of it, and the four evaluations of the first four days. -/
def demoRollout : List (Step ℚ) :=
  [⟨.registrations [⟨"demo-shop", "v2", true⟩], 0, 0⟩, ⟨demoCreation, 0, 0⟩, ⟨demoEvaluation, day, day⟩,
    ⟨demoEvaluation, 2 * day, 2 * day⟩, ⟨demoEvaluation, 3 * day, 3 * day⟩,
    ⟨demoEvaluation, 4 * day, 4 * day⟩]

theorem demoRollout_full :
    ((run after {} demoRollout).release "release-1").map Release.stage = some .full := by
  decide +kernel

end Demo

theorem release_lifecycle_rollout : ∃ created first second third fourth,
    FullyObserved demoRollout "release-1" created first second third fourth := by
  obtain ⟨r, hr, hfull⟩ := Option.map_eq_some_iff.mp demoRollout_full
  exact (release_lifecycle hr).2.2.2 hfull

end CommerceAgent.Delivery
