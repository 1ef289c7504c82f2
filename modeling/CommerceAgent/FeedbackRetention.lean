import CommerceAgent.Histories
import CommerceAgent.MutationWorkflow
import CommerceAgent.Protocols
import CommerceAgent.Redaction
import CommerceAgent.Tables

/-! Feedback of users: the first submission under a key stands, and its correction is held until it is purged and
never again. -/
namespace CommerceAgent.Feedback

open Histories Tables Texts

section Repository

inductive FeedbackError where
  | value (message : String)
  | integrity

structure UserFeedback where
  feedbackId : Uuid
  tenantId : String
  actorHash : String
  runId : Uuid
  rating : String
  reasonCodes : List String
  correctionRedacted : Option String
  correctionHash : Option String
  consentForImprovement : Bool
  idempotencyKey : String
  createdAt : ℕ
  expiresAt : Option ℕ
  deriving DecidableEq

/-- `UNIQUE (tenant_id, actor_hash, idempotency_key)`. -/
def UserFeedback.key (row : UserFeedback) : String × String × String :=
  (row.tenantId, row.actorHash, row.idempotencyKey)

abbrev UserFeedback.Clash (a b : UserFeedback) : Prop := a.feedbackId = b.feedbackId ∨ a.key = b.key

theorem UserFeedback.key_clash (a b : UserFeedback) (h : a.key = b.key) : UserFeedback.Clash a b := Or.inr h

abbrev FeedbackTable : Type := Table UserFeedback UserFeedback.Clash

/-- The arguments of `submit`. -/
structure Submission where
  tenantId : String
  actorId : String
  runId : Uuid
  rating : String
  reasonCodes : List String
  correction : Option String
  consentForImprovement : Bool
  idempotencyKey : String
  ttlDays : ℤ := 30

variable (π : Platform)

def digest (text : String) : String := "sha256:" ++ π.sha256 text

def Submission.actorHash (p : Submission) : String := digest π p.actorId

def Submission.key (p : Submission) : String × String × String :=
  (p.tenantId, p.actorHash π, p.idempotencyKey)

/-- What is kept of a correction: nothing without consent. -/
def Submission.safeCorrection (p : Submission) : Option String :=
  match p.correction with
  | some text => if p.consentForImprovement = true ∧ text ≠ "" then some (take (sanitize π text) 2000) else none
  | none => none

/-- The text of a correction, when there is any. -/
def held (correction : Option String) : Option String :=
  correction.filter fun text => text ≠ ""

def day : ℕ := 86400

/-- The row of a submission: `clock` is the clock of the application, `now` that of the database. -/
def Submission.row (p : Submission) (feedbackId : Uuid) (clock now : ℕ) : UserFeedback where
  feedbackId := feedbackId
  tenantId := p.tenantId
  actorHash := p.actorHash π
  runId := p.runId
  rating := p.rating
  reasonCodes := p.reasonCodes
  correctionRedacted := p.safeCorrection π
  correctionHash := (held (p.safeCorrection π)).map (digest π)
  consentForImprovement := p.consentForImprovement
  idempotencyKey := p.idempotencyKey
  createdAt := now
  expiresAt := (held (p.safeCorrection π)).map fun _ => clock + p.ttlDays.toNat * day

/-- The checks of `submit`, in their order. -/
def Submission.refusal (p : Submission) : Option FeedbackError :=
  if p.rating ∉ ["up", "down"] then some (.value "rating must be up or down")
  else if ¬ (1 ≤ p.idempotencyKey.length ∧ p.idempotencyKey.length ≤ 128) ∨ ¬ (0 < p.ttlDays ∧ p.ttlDays ≤ 30) then
    some (.value "invalid feedback contract")
  else if 8 < p.reasonCodes.length ∨ p.reasonCodes.any (fun code => 64 < code.length) = true then
    some (.value "invalid feedback reason codes")
  else none

/-- `submit`: under a key that is taken it changes nothing and answers with the row that is there. `runKnown` says
whether the run that a new row refers to is stored. -/
def submit (t : FeedbackTable) (p : Submission) (feedbackId : Uuid) (runKnown : Bool) (clock now : ℕ) :
    Except FeedbackError UserFeedback × FeedbackTable :=
  match p.refusal with
  | some e => (.error e, t)
  | none =>
    match t.lookup UserFeedback.key (p.key π) with
    | some row => (.ok row, t)
    | none =>
      let row := p.row π feedbackId clock now
      match if runKnown then t.insert? row else none with
      | some t' => (.ok row, t')
      | none => (.error .integrity, t)

def UserFeedback.overdue (now : ℕ) (row : UserFeedback) : Bool :=
  row.correctionRedacted.isSome && row.expiresAt.any fun expires => decide (expires ≤ now)

def UserFeedback.cleared (row : UserFeedback) : UserFeedback :=
  { row with correctionRedacted := none, expiresAt := none }

theorem cleared_neutral : Table.Neutral UserFeedback.Clash UserFeedback.cleared := fun _ _ => ⟨id, id⟩

/-- `purge` of the maintenance script. -/
def purge (t : FeedbackTable) (now : ℕ) : FeedbackTable :=
  t.update (UserFeedback.overdue now) UserFeedback.cleared cleared_neutral

inductive Step where
  | submit (p : Submission) (feedbackId : Uuid) (runKnown : Bool) (clock now : ℕ)
  | purge (now : ℕ)

def after (t : FeedbackTable) : Step → FeedbackTable
  | .submit p feedbackId runKnown clock now => (submit π t p feedbackId runKnown clock now).2
  | .purge now => purge t now

end Repository

section Rows

variable {π : Platform} {t : FeedbackTable} {p : Submission} {row : UserFeedback}
  {key : String × String × String} {feedbackId : Uuid} {clock now : ℕ}

/-- A step clears a row if it is a purge that finds it overdue. -/
def Step.clear (row : UserFeedback) : Step → UserFeedback
  | .submit .. => row
  | .purge now => if row.overdue now = true then row.cleared else row

/-- The row after some steps. -/
def clearedBy (row : UserFeedback) (h : List Step) : UserFeedback := h.foldl Step.clear row

theorem insert_of_known {t' : FeedbackTable} {runKnown : Bool}
    (h : (if runKnown then t.insert? row else none) = some t') : t.insert? row = some t' := by
  cases runKnown with
  | true => exact h
  | false => cases h

/-- A row stays under its key, and only purges change it. -/
theorem lookup_after (h : t.lookup UserFeedback.key key = some row) (e : Step) :
    (after π t e).lookup UserFeedback.key key = some (e.clear row) := by
  cases e with
  | purge now =>
    have hkey : ∀ x : UserFeedback, x.cleared.key = x.key := fun _ => rfl
    calc (purge t now).lookup UserFeedback.key key
        = (t.lookup UserFeedback.key key).map (Table.changed (UserFeedback.overdue now) UserFeedback.cleared) :=
          Table.lookup_update cleared_neutral hkey key
      _ = some (Table.changed (UserFeedback.overdue now) UserFeedback.cleared row) := by rw [h]; rfl
  | submit p feedbackId runKnown clock now =>
    show (submit π t p feedbackId runKnown clock now).2.lookup UserFeedback.key key = some row
    unfold submit
    split
    · exact h
    · split
      · exact h
      · dsimp only
        split
        · rename_i t' hinsert
          rw [Table.lookup_insert key (insert_of_known hinsert), h]
          rfl
        · exact h

theorem lookup_run (h : t.lookup UserFeedback.key key = some row) (l : List Step) :
    (run (after π) t l).lookup UserFeedback.key key = some (clearedBy row l) := by
  induction l generalizing t row with
  | nil => exact h
  | cons e l ih => exact ih (lookup_after h e)

/-- What a purge may still do to a row: nothing once its correction is cleared. -/
theorem clearedBy_eq (row : UserFeedback) (l : List Step) : clearedBy row l = row ∨ clearedBy row l = row.cleared := by
  induction l generalizing row with
  | nil => exact Or.inl rfl
  | cons e l ih =>
    have hstep : e.clear row = row ∨ e.clear row = row.cleared := by
      cases e with
      | submit => exact Or.inl rfl
      | purge now =>
        by_cases h : row.overdue now = true
        · exact Or.inr (if_pos h)
        · exact Or.inl (if_neg h)
    show clearedBy (e.clear row) l = row ∨ clearedBy (e.clear row) l = row.cleared
    rcases hstep with hsame | hcleared
    · rw [hsame]
      exact ih row
    · rw [hcleared]
      -- a cleared row is cleared again to itself
      exact Or.inr ((ih row.cleared).elim id id)

/-- A purge among the steps that comes when the correction has expired. -/
def Purged (expires : ℕ) (l : List Step) : Prop := ∃ now, Step.purge now ∈ l ∧ expires ≤ now

theorem clearedBy_of_expires {correction : String} {expires : ℕ} (hheld : row.correctionRedacted = some correction)
    (hexpires : row.expiresAt = some expires) (l : List Step) :
    (Purged expires l → clearedBy row l = row.cleared) ∧ (¬ Purged expires l → clearedBy row l = row) := by
  induction l with
  | nil =>
    refine ⟨?_, fun _ => rfl⟩
    rintro ⟨now, hmem, _⟩
    cases hmem
  | cons e l ih =>
    have hnever : ∀ m : List Step, clearedBy row.cleared m = row.cleared := fun m =>
      (clearedBy_eq row.cleared m).elim id id
    have hoverdue : ∀ now, row.overdue now = decide (expires ≤ now) := by
      intro now
      simp [UserFeedback.overdue, hheld, hexpires]
    cases e with
    | submit p feedbackId runKnown clock now =>
      have hpurged : Purged expires (.submit p feedbackId runKnown clock now :: l) ↔ Purged expires l := by
        simp [Purged]
      rw [hpurged]
      exact ih
    | purge now =>
      by_cases hnow : expires ≤ now
      · have hclear : clearedBy row (.purge now :: l) = row.cleared := by
          show clearedBy (Step.clear row (.purge now)) l = row.cleared
          rw [Step.clear, hoverdue now, if_pos (decide_eq_true hnow)]
          exact hnever l
        exact ⟨fun _ => hclear, fun h => absurd ⟨now, List.mem_cons_self, hnow⟩ h⟩
      · have hkeep : clearedBy row (.purge now :: l) = clearedBy row l := by
          show clearedBy (Step.clear row (.purge now)) l = clearedBy row l
          rw [Step.clear, hoverdue now, if_neg (by simp [hnow])]
        -- too early a purge is no purge
        have hpurged : Purged expires (.purge now :: l) ↔ Purged expires l := by
          constructor
          · rintro ⟨later, hmem, hlater⟩
            rcases List.mem_cons.mp hmem with heq | hmem
            · cases heq
              exact absurd hlater hnow
            · exact ⟨later, hmem, hlater⟩
          · rintro ⟨later, hmem, hlater⟩
            exact ⟨later, List.mem_cons_of_mem _ hmem, hlater⟩
        rw [hpurged, hkeep]
        exact ih

/-- The correction of a row had expired at one of the purges. -/
def Forgotten (row : UserFeedback) (l : List Step) : Prop := ∃ expires, row.expiresAt = some expires ∧ Purged expires l

theorem clearedBy_of_lasting (hlasting : row.expiresAt = none) (l : List Step) : clearedBy row l = row := by
  induction l with
  | nil => rfl
  | cons e l ih =>
    have hclear : e.clear row = row := by
      cases e with
      | submit => rfl
      | purge now => simp [Step.clear, UserFeedback.overdue, hlasting]
    show clearedBy (e.clear row) l = row
    rw [hclear]
    exact ih

/-- A new row is the one of its submission, which passed the checks. -/
theorem submit_new (hnew : t.lookup UserFeedback.key (p.key π) = none) {runKnown : Bool} {t' : FeedbackTable}
    (hok : submit π t p feedbackId runKnown clock now = (.ok row, t')) :
    row = p.row π feedbackId clock now ∧ t.insert? row = some t' ∧ p.refusal = none := by
  unfold submit at hok
  split at hok
  · cases hok
  · rename_i hrefusal
    rw [hnew] at hok
    dsimp only at hok
    split at hok
    · rename_i t'' hinsert
      cases hok
      exact ⟨rfl, insert_of_known hinsert, hrefusal⟩
    · cases hok

theorem submit_again (q : Submission) (hkept : t.lookup UserFeedback.key (q.key π) = some row)
    (hq : q.refusal = none) (feedbackId : Uuid) (runKnown : Bool) (clock now : ℕ) :
    submit π t q feedbackId runKnown clock now = (.ok row, t) := by
  unfold submit
  rw [hq]
  dsimp only
  rw [hkept]

theorem ttl_of_accepted (h : p.refusal = none) : p.ttlDays ≤ 30 := by
  unfold Submission.refusal at h
  split at h
  · cases h
  · split at h
    · cases h
    · rename_i hcontract
      omega

/-- What is held of a correction: with consent, redacted and cut to what the column takes, and for thirty days at
most. -/
theorem row_held (hp : p.refusal = none) {correction : String}
    (h : (p.row π feedbackId clock now).correctionRedacted = some correction) :
    p.consentForImprovement = true ∧ (∃ text, p.correction = some text ∧ correction = take (sanitize π text) 2000) ∧
      (correction ≠ "" → ∃ expires, (p.row π feedbackId clock now).expiresAt = some expires ∧
        expires ≤ clock + 30 * day) := by
  have hsafe : p.safeCorrection π = some correction := h
  have hcut : p.consentForImprovement = true ∧
      ∃ text, p.correction = some text ∧ correction = take (sanitize π text) 2000 := by
    unfold Submission.safeCorrection at hsafe
    split at hsafe
    · rename_i text htext
      split at hsafe
      · rename_i hgiven
        exact ⟨hgiven.1, text, htext, (Option.some.inj hsafe).symm⟩
      · cases hsafe
    · cases hsafe
  obtain ⟨hconsent, htext⟩ := hcut
  refine ⟨hconsent, htext, ?_⟩
  intro hne
  have hheld : held (p.safeCorrection π) = some correction := by
    rw [hsafe]
    simp [held, hne]
  refine ⟨clock + p.ttlDays.toNat * day, ?_, ?_⟩
  · calc (p.row π feedbackId clock now).expiresAt
        = (held (p.safeCorrection π)).map fun _ => clock + p.ttlDays.toNat * day := rfl
      _ = some (clock + p.ttlDays.toNat * day) := by rw [hheld, Option.map_some]
  · have httl : p.ttlDays.toNat ≤ 30 := by
      have := ttl_of_accepted hp
      omega
    exact Nat.add_le_add_left (Nat.mul_le_mul_right day httl) clock

/-- Only a row with a correction expires. -/
theorem row_expires {expires : ℕ} (h : (p.row π feedbackId clock now).expiresAt = some expires) :
    ∃ correction, (p.row π feedbackId clock now).correctionRedacted = some correction := by
  have hmap : (held (p.safeCorrection π)).map (fun _ => clock + p.ttlDays.toNat * day) = some expires := h
  obtain ⟨correction, hheld, _⟩ := Option.map_eq_some_iff.mp hmap
  exact ⟨correction, (Option.filter_eq_some_iff.mp hheld).1⟩

theorem clearedBy_row (π : Platform) (p : Submission) (feedbackId : Uuid) (clock now : ℕ)
    (l : List Step) :
    (Forgotten (p.row π feedbackId clock now) l →
      clearedBy (p.row π feedbackId clock now) l = (p.row π feedbackId clock now).cleared) ∧
    (¬ Forgotten (p.row π feedbackId clock now) l →
      clearedBy (p.row π feedbackId clock now) l = p.row π feedbackId clock now) := by
  cases hexpires : (p.row π feedbackId clock now).expiresAt with
  | none =>
    refine ⟨?_, fun _ => clearedBy_of_lasting hexpires l⟩
    rintro ⟨expires, hsome, _⟩
    rw [hexpires] at hsome
    cases hsome
  | some expires =>
    obtain ⟨correction, hheld⟩ := row_expires hexpires
    obtain ⟨hpurged, hkept⟩ := clearedBy_of_expires hheld hexpires l
    refine ⟨?_, ?_⟩
    · rintro ⟨expires', hsome, hexpired⟩
      rw [hexpires] at hsome
      cases hsome
      exact hpurged hexpired
    · intro hnever
      exact hkept fun hexpired => hnever ⟨expires, hexpires, hexpired⟩

end Rows

/-- The first submission under a key is what is stored under it after any later submissions and purges, and what every
later submission under it is answered with. Only its correction goes, at the first purge after it expired, and it does
not come back: no text of it is left after a purge thirty days on. -/
theorem first_submission_stands (π : Platform) (t t' : FeedbackTable) (p : Submission)
    (feedbackId : Uuid) (runKnown : Bool) (clock now : ℕ) (row : UserFeedback)
    (hnew : t.lookup UserFeedback.key (p.key π) = none)
    (hok : submit π t p feedbackId runKnown clock now = (.ok row, t')) (l : List Step) :
    ∃ kept,
      (run (after π) t' l).lookup UserFeedback.key (p.key π) = some kept ∧
      (Forgotten row l → kept = row.cleared) ∧ (¬ Forgotten row l → kept = row) ∧
      (∀ (q : Submission) (feedbackId : Uuid) (runKnown : Bool) (clock now : ℕ),
        q.key π = p.key π → q.refusal = none →
        submit π (run (after π) t' l) q feedbackId runKnown clock now =
          (.ok kept, run (after π) t' l)) ∧
      (∀ correction, kept.correctionRedacted = some correction → correction ≠ "" →
        p.consentForImprovement = true ∧
        (∃ text, p.correction = some text ∧ correction = take (sanitize π text) 2000) ∧
        ∀ later, Step.purge later ∈ l → later < clock + 30 * day) := by
  obtain ⟨rfl, hinsert, hp⟩ := submit_new hnew hok
  have hstored : t'.lookup UserFeedback.key (p.key π) = some (p.row π feedbackId clock now) := by
    rw [Table.lookup_insert _ hinsert, hnew]
    exact if_pos rfl
  obtain ⟨hforgotten, hlasting⟩ := clearedBy_row π p feedbackId clock now l
  refine ⟨_, lookup_run hstored l, hforgotten, hlasting, ?_, ?_⟩
  · intro q feedbackId' runKnown' clock' now' hkey hq
    exact submit_again q (hkey ▸ lookup_run hstored l) hq feedbackId' runKnown' clock' now'
  · intro correction hkept hne
    have hnever : ¬ Forgotten (p.row π feedbackId clock now) l := by
      intro h
      rw [hforgotten h] at hkept
      cases hkept
    rw [hlasting hnever] at hkept
    obtain ⟨hconsent, htext, hexpires⟩ := row_held hp hkept
    obtain ⟨expires, hsome, hbound⟩ := hexpires hne
    refine ⟨hconsent, htext, ?_⟩
    intro later hpurge
    by_contra hlater
    exact hnever ⟨expires, hsome, later, hpurge, by omega⟩

def consentedSubmission : Submission where
  tenantId := "demo"
  actorId := "actor"
  runId := "run"
  rating := "down"
  reasonCodes := []
  correction := some "13800000000"
  consentForImprovement := true
  idempotencyKey := "key"

theorem first_submission_stands_purged :
    ∃ kept, (run (after demoPlatform) (.single (consentedSubmission.row demoPlatform "f" 0 0))
        [.purge (30 * day)]).lookup UserFeedback.key (consentedSubmission.key demoPlatform) = some kept ∧
      ∀ correction, kept.correctionRedacted = some correction → correction = "" := by
  have hrefusal : consentedSubmission.refusal = none := by decide
  have hok : submit demoPlatform .empty consentedSubmission "f" true 0 0 =
      (.ok (consentedSubmission.row demoPlatform "f" 0 0), .single (consentedSubmission.row demoPlatform "f" 0 0)) := by
    unfold submit
    rw [hrefusal]
    rfl
  obtain ⟨kept, hkept, _, _, _, hheld⟩ :=
    first_submission_stands demoPlatform .empty _ consentedSubmission "f" true 0 0 _ rfl hok [.purge (30 * day)]
  refine ⟨kept, hkept, ?_⟩
  intro correction hcorrection
  by_contra hne
  have hlater : 30 * day < 0 + 30 * day := (hheld correction hcorrection hne).2.2 _ List.mem_cons_self
  omega

end CommerceAgent.Feedback
