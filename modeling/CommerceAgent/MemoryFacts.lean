import CommerceAgent.Histories
import CommerceAgent.Tables
import CommerceAgent.Json
import CommerceAgent.Protocols
import Mathlib.Data.List.Sort
import Mathlib.Algebra.Order.Field.Rat

/-! Long-term preferences: the statements of concurrent writers on the table of memory facts, and the slots
that a prompt is built with. -/
namespace CommerceAgent.Memory

open Histories Json Tables

section Model

inductive FactStatus where
  | active
  | superseded
  | deleted
  deriving DecidableEq

structure FactKey where
  tenantId : String
  actorRef : String
  factType : String
  deriving DecidableEq

structure MemoryFact where
  factId : Uuid
  key : FactKey
  value : Dict
  sourceType : String
  sourceRef : String
  confidence : ℚ
  observedAt : ℕ
  validUntil : Option ℕ
  supersedesFactId : Option Uuid
  status : FactStatus

/-- The primary key of the facts; no other constraint backs them. -/
abbrev MemoryFact.Clash (a b : MemoryFact) : Prop := a.factId = b.factId

def ALLOWED_PREFERENCE_TYPES : List String :=
  ["preferred_category", "preferred_size", "preferred_color", "preferred_delivery_method", "preferred_language"]

def FORBIDDEN_FACT_TYPES : List String :=
  ["order_status", "payment_status", "refund_status", "delivery_status", "inferred_preference"]

/-- The arguments of `upsert_preference`, with the identifier that it draws. -/
structure Preference where
  factId : Uuid
  key : FactKey
  value : Dict
  sourceType : String
  sourceRef : String
  confidence : ℚ
  observedAt : ℕ
  validUntil : Option ℕ := none

/-- `_validate_write`. -/
def Preference.validateWrite (p : Preference) : Except String Unit :=
  if p.key.factType ∉ ALLOWED_PREFERENCE_TYPES ∨ p.key.factType ∈ FORBIDDEN_FACT_TYPES then
    .error "only controlled preference facts may be stored"
  else if p.sourceType ∉ ["user", "tool"] then .error "memory source must be user or tool"
  else if ¬ (0 ≤ p.confidence ∧ p.confidence ≤ 1) then .error "memory confidence must be between 0 and 1"
  else if p.value = [] ∨ 8 < p.value.length then .error "memory value is invalid"
  else .ok ()

/-- The row that an upsert inserts. -/
def Preference.fact (p : Preference) (previous : Option Uuid) : MemoryFact where
  factId := p.factId
  key := p.key
  value := p.value
  sourceType := p.sourceType
  sourceRef := p.sourceRef
  confidence := p.confidence
  observedAt := p.observedAt
  validUntil := p.validUntil
  supersedesFactId := previous
  status := .active

/-- Where an open upsert is: it waits for the lock on the row that its snapshot chose, or its
`SELECT … FOR UPDATE` has returned. -/
inductive Phase where
  | waiting (choice : Uuid)
  | locked (previous : Option Uuid)
  deriving DecidableEq

structure Upsert where
  tx : ℕ
  preference : Preference
  phase : Phase

/-- The committed facts, and the upserts that are under way. -/
structure Store where
  facts : Table MemoryFact MemoryFact.Clash := .empty
  upserts : List Upsert := []

/-- An active fact of the key. -/
def MemoryFact.isActive (key : FactKey) (f : MemoryFact) : Bool := decide (f.key = key ∧ f.status = .active)

/-- Of two facts the one that was observed last; of two observed at one time the query may return either. -/
def later (best : Option MemoryFact) (f : MemoryFact) : Option MemoryFact :=
  if best.any fun b => decide (f.observedAt ≤ b.observedAt) then best else some f

/-- `ORDER BY observed_at DESC LIMIT 1` on the active facts of the key. -/
def Store.newest (s : Store) (key : FactKey) : Option MemoryFact :=
  (s.facts.select (MemoryFact.isActive key)).foldl later none

def Store.upsert (s : Store) (tx : ℕ) : Option Upsert := s.upserts.find? fun u => u.tx = tx

/-- The row lock on the fact is held by an upsert other than `tx`. -/
def Store.lockedByOther (s : Store) (tx : ℕ) (factId : Uuid) : Bool :=
  s.upserts.any fun u => decide (u.tx ≠ tx ∧ u.phase = .locked (some factId))

def Store.close (s : Store) (tx : ℕ) : Store := { s with upserts := s.upserts.filter fun u => u.tx ≠ tx }

def MemoryFact.setStatus (status : FactStatus) (f : MemoryFact) : MemoryFact := { f with status := status }

theorem MemoryFact.neutral_setStatus (status : FactStatus) : Table.Neutral Clash (setStatus status) :=
  fun _ _ => ⟨id, id⟩

/-- The statements of the writers. `begin` is the snapshot of the `SELECT`, `lock` the lock on the row it
chose, which looks at the row again, and `commit` the update, the insertion and the commit. -/
inductive Step where
  | begin (tx : ℕ) (p : Preference)
  | lock (tx : ℕ)
  | commit (tx : ℕ)
  | rollback (tx : ℕ)
  | delete (factId : Uuid) (tenantId actorRef : String)

def Store.begin (s : Store) (tx : ℕ) (p : Preference) : Store :=
  if (s.upsert tx).isSome ∨ ¬ p.validateWrite.isOk then s
  else
    let phase := match s.newest p.key with
      | some f => .waiting f.factId
      | none => .locked none
    { s with upserts := s.upserts ++ [⟨tx, p, phase⟩] }

def Store.lock (s : Store) (tx : ℕ) : Store :=
  match s.upsert tx with
  | some ⟨_, p, .waiting choice⟩ =>
    if s.lockedByOther tx choice then s
    else
      -- Of a row that is no longer active the query returns nothing, and does not look for another.
      let found := s.facts.rows.any fun f => decide (f.factId = choice) && f.isActive p.key
      { s.close tx with
        upserts := (s.close tx).upserts ++ [⟨tx, p, .locked (if found then some choice else none)⟩] }
  | _ => s

def Store.commit (s : Store) (tx : ℕ) : Store :=
  match s.upsert tx with
  | some ⟨_, p, .locked previous⟩ =>
    let facts := s.facts.update (fun f => decide (some f.factId = previous ∧ f.key.tenantId = p.key.tenantId))
      (MemoryFact.setStatus .superseded) (MemoryFact.neutral_setStatus _)
    -- The primary key is the only constraint on what is inserted.
    match facts.insert? (p.fact previous) with
    | some facts => { s.close tx with facts := facts }
    | none => s.close tx
  | _ => s

def Store.delete (s : Store) (factId : Uuid) (tenantId actorRef : String) : Store :=
  if s.upserts.any fun u => decide (u.phase = .locked (some factId)) then s
  else
    let owned := fun f : MemoryFact => decide (f.factId = factId ∧ f.key.tenantId = tenantId ∧
      f.key.actorRef = actorRef ∧ f.status = .active)
    { s with facts := s.facts.update owned (MemoryFact.setStatus .deleted) (MemoryFact.neutral_setStatus _) }

/-- A step of a transaction that is not there, or that has to wait, leaves the store as it is. -/
def after (s : Store) : Step → Store
  | .begin tx p => s.begin tx p
  | .lock tx => s.lock tx
  | .commit tx => s.commit tx
  | .rollback tx => s.close tx
  | .delete factId tenantId actorRef => s.delete factId tenantId actorRef

/-- The fact counts at a time. -/
def MemoryFact.isValid (now : ℕ) (f : MemoryFact) : Bool := f.validUntil.all fun u => decide (now < u)

/-- `active_for_actor`. -/
def Store.activeForActor (s : Store) (tenantId actorRef : String) (now : ℕ) : List MemoryFact :=
  (s.facts.rows.filter fun f => decide (f.key.tenantId = tenantId ∧ f.key.actorRef = actorRef ∧
    f.status = .active) && f.isValid now).insertionSort fun f g => g.observedAt ≤ f.observedAt

/-- The value of a fact that may fill a slot. -/
def MemoryFact.slot? (f : MemoryFact) : Option Value :=
  match f.value.get? "value" with
  | some (.str v) => some (.str v)
  | some (.int v) => some (.int v)
  | some (.bool v) => some (.bool v)
  | _ => none

/-- The `known_slots` of `ApiPromptBuilder.build`; the source of all of them is the user. -/
def knownSlots (preferences : List MemoryFact) : Dict :=
  preferences.foldl (fun slots f => match f.slot? with
    | some v => slots.set f.key.factType v
    | none => slots) []

end Model

section Single

variable {s : Store} {key : FactKey} {h : List Step}

/-- At most one active fact for each tenant, actor and type. -/
def Store.Single (s : Store) : Prop := ∀ key, s.facts.count (MemoryFact.isActive key) ≤ 1

/-- The fact that the slot of its type should show at a time. -/
structure Store.Latest (s : Store) (key : FactKey) (now : ℕ) (f : MemoryFact) : Prop where
  mem : f ∈ s.facts.rows
  active : f.isActive key = true
  valid : f.isValid now = true
  last : ∀ g ∈ s.facts.rows, g.isActive key = true → g.isValid now = true → g.observedAt ≤ f.observedAt

/-- The slots of the prompt show the latest facts, and no others. -/
def Store.ShowsLatest (s : Store) : Prop :=
  ∀ key now, (∀ f, s.Latest key now f →
      (knownSlots (s.activeForActor key.tenantId key.actorRef now)).get? key.factType = f.slot?) ∧
    ((∀ f, ¬ s.Latest key now f) →
      (knownSlots (s.activeForActor key.tenantId key.actorRef now)).get? key.factType = none)

/-- The upsert that commits next has seen every active fact of its key. -/
def Informed (s : Store) : Step → Prop
  | .commit tx => ∀ u, s.upsert tx = some u → ∀ previous, u.phase = .locked previous →
      (∀ f ∈ s.facts.rows, f.factId ≠ u.preference.factId) →
        ∀ f ∈ s.facts.rows, f.isActive u.preference.key = true → some f.factId = previous
  | _ => True

/-- No update makes a fact active. -/
theorem count_changed_le {p : MemoryFact → Bool} {status : FactStatus} (hstatus : status ≠ .active)
    (rows : List MemoryFact) : (rows.map (Table.changed p (MemoryFact.setStatus status))).countP
      (MemoryFact.isActive key) ≤ rows.countP (MemoryFact.isActive key) := by
  rw [List.countP_map]
  apply List.countP_mono_left
  intro f _ hactive
  unfold Function.comp Table.changed at hactive
  split at hactive
  · simp [MemoryFact.isActive, MemoryFact.setStatus, hstatus] at hactive
  · exact hactive

theorem facts_begin (s : Store) (tx : ℕ) (p : Preference) : (s.begin tx p).facts = s.facts := by
  unfold Store.begin
  split
  · rfl
  · rfl

theorem facts_lock (s : Store) (tx : ℕ) : (s.lock tx).facts = s.facts := by
  unfold Store.lock
  split
  · split
    · rfl
    · rfl
  · rfl

theorem Store.Single.of_facts {s' : Store} (hs : s.Single) (h : s'.facts = s.facts) : s'.Single := by
  intro key
  rw [h]
  exact hs key

theorem single_delete (hs : s.Single) (factId : Uuid) (tenantId actorRef : String) :
    (s.delete factId tenantId actorRef).Single := by
  unfold Store.delete
  split
  · exact hs
  · intro key
    exact (count_changed_le (by decide) s.facts.rows).trans (hs key)

/-- After a commit the key has the new fact, and the active ones that were not superseded. -/
theorem count_committed {rows : List MemoryFact} {p : Preference} {previous : Option Uuid} {key : FactKey} :
    (rows.map (Table.changed (fun f => decide (some f.factId = previous ∧ f.key.tenantId = p.key.tenantId))
        (MemoryFact.setStatus .superseded)) ++ [p.fact previous]).countP (MemoryFact.isActive key) =
      (rows.filter fun f => !decide (some f.factId = previous ∧ f.key.tenantId = p.key.tenantId)).countP
        (MemoryFact.isActive key) + if p.key = key then 1 else 0 := by
  rw [List.countP_append, List.countP_map, List.countP_singleton, List.countP_filter]
  congr 1
  · apply List.countP_congr
    intro f _
    unfold Function.comp Table.changed
    by_cases hseen : decide (some f.factId = previous ∧ f.key.tenantId = p.key.tenantId) = true
    · simp [hseen, MemoryFact.isActive, MemoryFact.setStatus]
    · simp [hseen]
  · simp [MemoryFact.isActive, Preference.fact]

theorem informed_commit_iff {tx tx' : ℕ} {p : Preference} {previous : Option Uuid}
    (hu : s.upsert tx = some ⟨tx', p, .locked previous⟩) :
    Informed s (.commit tx) ↔ ((∀ f ∈ s.facts.rows, f.factId ≠ p.factId) →
      ∀ f ∈ s.facts.rows, f.isActive p.key = true → some f.factId = previous) := by
  constructor
  · intro h
    exact h _ hu previous rfl
  · intro h u hu' previous' hphase
    obtain rfl := Option.some.inj (hu.symm.trans hu')
    cases hphase
    exact h

/-- The facts after the update of a commit. -/
def Store.superseded (s : Store) (p : Preference) (previous : Option Uuid) :
    Table MemoryFact MemoryFact.Clash :=
  s.facts.update (fun f => decide (some f.factId = previous ∧ f.key.tenantId = p.key.tenantId))
    (MemoryFact.setStatus .superseded) (MemoryFact.neutral_setStatus _)

/-- The insertion goes through exactly if the drawn identifier is new: the update keeps the identifiers. -/
theorem insert_superseded_iff {p : Preference} {previous : Option Uuid} :
    (∃ facts, (s.superseded p previous).insert? (p.fact previous) = some facts) ↔
      ∀ f ∈ s.facts.rows, f.factId ≠ p.factId := by
  have hids : ∀ f, (Table.changed (fun f => decide (some f.factId = previous ∧ f.key.tenantId = p.key.tenantId))
      (MemoryFact.setStatus .superseded) f).factId = f.factId := by
    intro f
    unfold Table.changed
    split
    · rfl
    · rfl
  constructor
  · rintro ⟨facts, hinsert⟩ f hf hsame
    have hnew := (Table.insert?_eq_some.mp hinsert).1 _ (List.mem_map_of_mem hf)
    exact hnew ((hids f).trans hsame)
  · intro hfresh
    have hnew : ∀ x ∈ (s.superseded p previous).rows, ¬ x.Clash (p.fact previous) := by
      intro x hx hclash
      obtain ⟨f, hf, rfl⟩ := List.mem_map.mp hx
      exact hfresh f hf ((hids f).symm.trans hclash)
    unfold Table.insert?
    rw [dif_pos hnew]
    exact ⟨_, rfl⟩

/-- With the new fact each key has a single active one exactly if no other of its key was left active. -/
theorem single_inserted_iff (hs : s.Single) {p : Preference} {previous : Option Uuid} {s' : Store}
    (hinsert : (s.superseded p previous).insert? (p.fact previous) = some s'.facts) :
    s'.Single ↔ ∀ f ∈ s.facts.rows, f.isActive p.key = true → some f.factId = previous := by
  have hcount : ∀ key, s'.facts.count (MemoryFact.isActive key) =
      (s.facts.rows.filter fun f => !decide (some f.factId = previous ∧
        f.key.tenantId = p.key.tenantId)).countP (MemoryFact.isActive key) +
          if p.key = key then 1 else 0 := by
    intro key
    unfold Table.count
    rw [(Table.insert?_eq_some.mp hinsert).2]
    exact count_committed
  constructor
  · intro hsingle f hf hactive
    have hone := hsingle p.key
    rw [hcount, if_pos rfl] at hone
    have hzero := List.countP_eq_zero.mp (Nat.le_zero.mp (Nat.le_of_add_le_add_right hone))
    by_contra hunseen
    refine hzero f (List.mem_filter.mpr ⟨hf, ?_⟩) hactive
    rw [Bool.not_eq_true', decide_eq_false_iff_not]
    exact fun hseen => hunseen hseen.1
  · intro hseen key
    rw [hcount]
    by_cases hkey : p.key = key
    · subst hkey
      rw [if_pos rfl, List.countP_eq_zero.mpr]
      intro f hf hactive
      obtain ⟨hf, hunseen⟩ := List.mem_filter.mp hf
      have htenant : f.key = p.key := (of_decide_eq_true hactive).1
      rw [Bool.not_eq_true', decide_eq_false_iff_not] at hunseen
      exact hunseen ⟨hseen f hf hactive, by rw [htenant]⟩
    -- The facts of another key lose at most the one that the commit supersedes.
    · rw [if_neg hkey, Nat.add_zero]
      exact (List.filter_sublist.countP_le).trans (hs key)

/-- A commit keeps a single active fact exactly if its upsert is informed. -/
theorem single_commit_iff (hs : s.Single) (tx : ℕ) : (s.commit tx).Single ↔ Informed s (.commit tx) := by
  unfold Store.commit
  cases hu : s.upsert tx with
  | none =>
    refine iff_of_true hs fun u hu' => ?_
    rw [hu] at hu'
    cases hu'
  | some u =>
    obtain ⟨tx', p, phase⟩ := u
    cases phase with
    | waiting choice =>
      refine iff_of_true hs fun u hu' previous hphase => ?_
      obtain rfl := Option.some.inj (hu.symm.trans hu')
      cases hphase
    | locked previous =>
      rw [informed_commit_iff hu]
      change (match (s.superseded p previous).insert? (p.fact previous) with
        | some facts => { s.close tx with facts := facts }
        | none => s.close tx).Single ↔ _
      cases hinsert : (s.superseded p previous).insert? (p.fact previous) with
      | some facts =>
        rw [forall_prop_of_true (insert_superseded_iff.mp ⟨facts, hinsert⟩)]
        exact single_inserted_iff hs hinsert
      -- An identifier that is taken rolls the whole transaction back.
      | none =>
        refine iff_of_true (hs.of_facts rfl) fun hfresh => ?_
        obtain ⟨facts, hinserted⟩ := insert_superseded_iff.mpr hfresh
        rw [hinsert] at hinserted
        cases hinserted

theorem single_after_iff (hs : s.Single) (e : Step) : (after s e).Single ↔ Informed s e := by
  cases e with
  | begin tx p => exact iff_of_true (hs.of_facts (facts_begin s tx p)) trivial
  | lock tx => exact iff_of_true (hs.of_facts (facts_lock s tx)) trivial
  | commit tx => exact single_commit_iff hs tx
  | rollback tx => exact iff_of_true hs trivial
  | delete factId tenantId actorRef => exact iff_of_true (single_delete hs _ _ _) trivial

/-- The facts that a list of preferences may fill one slot with, in its order. -/
def slotsOf (factType : String) (l : List MemoryFact) : List Value :=
  (l.filter fun f => f.key.factType = factType).filterMap MemoryFact.slot?

/-- The last of them fills it. -/
theorem get?_knownSlots (l : List MemoryFact) (factType : String) :
    (knownSlots l).get? factType = (slotsOf factType l).getLast? := by
  unfold knownSlots slotsOf
  -- From the end of the list: the last preference of a type is written last.
  induction l using List.reverseRecOn with
  | nil => rfl
  | append_singleton l f ih =>
    rw [List.foldl_append, List.filter_append, List.filterMap_append, List.getLast?_append]
    simp only [List.foldl_cons, List.foldl_nil]
    by_cases htype : f.key.factType = factType
    · rw [List.filter_singleton, decide_eq_true htype, cond_true]
      cases hslot : f.slot? with
      | none => simpa [List.filterMap_cons, hslot] using ih
      | some v => simp [hslot, htype]
    · rw [List.filter_singleton, decide_eq_false htype, cond_false]
      cases hslot : f.slot? with
      | none => simpa using ih
      | some v =>
        rw [Dict.get?_set_of_ne _ _ htype]
        simpa using ih

/-- The facts that a type is shown from are the valid active ones of its key. -/
theorem activeForActor_perm (s : Store) (key : FactKey) (now : ℕ) :
    ((s.activeForActor key.tenantId key.actorRef now).filter fun f => f.key.factType = key.factType).Perm
      (s.facts.rows.filter fun f => f.isActive key && f.isValid now) := by
  apply ((List.perm_insertionSort _ _).filter _).trans
  rw [List.filter_filter]
  apply List.Perm.of_eq
  apply List.filter_congr
  intro f _
  obtain ⟨factId, ⟨tenantId, actorRef, factType⟩, value, sourceType, sourceRef, confidence, observedAt,
    validUntil, supersedes, status⟩ := f
  obtain ⟨tenantId', actorRef', factType'⟩ := key
  unfold MemoryFact.isActive
  dsimp only
  rw [← Bool.and_assoc, ← Bool.decide_and]
  congr 1
  apply decide_eq_decide.mpr
  rw [FactKey.mk.injEq]
  tauto

/-- With a single active fact the slots show it while it is valid. -/
theorem Store.Single.showsLatest (hs : s.Single) : s.ShowsLatest := by
  intro key now
  have hperm := activeForActor_perm s key now
  have hone : (s.facts.rows.filter fun f => f.isActive key && f.isValid now).length ≤ 1 := by
    rw [← List.countP_eq_length_filter]
    apply (List.countP_mono_left fun f _ hf => ?_).trans (hs key)
    exact (Bool.and_eq_true_iff.mp hf).1
  rw [get?_knownSlots]
  unfold slotsOf
  constructor
  · intro f hf
    have hmem : f ∈ s.facts.rows.filter fun f => f.isActive key && f.isValid now :=
      List.mem_filter.mpr ⟨hf.mem, Bool.and_eq_true_iff.mpr ⟨hf.active, hf.valid⟩⟩
    obtain ⟨g, hg⟩ := List.length_eq_one_iff.mp (le_antisymm hone (List.length_pos_of_mem hmem))
    rw [hg] at hmem hperm
    obtain rfl := List.mem_singleton.mp hmem
    rw [List.perm_singleton.mp hperm]
    cases hslot : f.slot? with
    | none => simp [hslot]
    | some v => simp [hslot]
  · intro hnone
    have hnil : (s.facts.rows.filter fun f => f.isActive key && f.isValid now) = [] := by
      apply List.eq_nil_iff_forall_not_mem.mpr
      intro f hmem
      obtain ⟨g, hg⟩ := List.length_eq_one_iff.mp (le_antisymm hone (List.length_pos_of_mem hmem))
      obtain ⟨hrow, hactive⟩ := List.mem_filter.mp hmem
      obtain ⟨hactive, hvalid⟩ := Bool.and_eq_true_iff.mp hactive
      -- The only valid active fact would be the latest one.
      refine hnone f ⟨hrow, hactive, hvalid, fun other hother hactive' hvalid' => ?_⟩
      have hmem' : other ∈ s.facts.rows.filter fun f => f.isActive key && f.isValid now :=
        List.mem_filter.mpr ⟨hother, Bool.and_eq_true_iff.mpr ⟨hactive', hvalid'⟩⟩
      rw [hg] at hmem hmem'
      rw [List.mem_singleton.mp hmem, List.mem_singleton.mp hmem']
    rw [hnil] at hperm
    rw [List.perm_nil.mp hperm]
    rfl

/-- In every state there is a single active fact for each key, and the slots show the latest facts. -/
def SingleValued (h : List Step) : Prop :=
  ∀ before rest, h = before ++ rest → (run after {} before).Single ∧ (run after {} before).ShowsLatest

theorem single_empty : ({} : Store).Single := fun _ => Nat.zero_le _

/-- The preferences are single-valued in every interleaving whose upserts commit informed, and in no other. -/
theorem single_valued_iff (h : List Step) : SingleValued h ↔ Along after Informed {} h := by
  constructor
  · intro hvalued
    -- A history is single-valued only if what begins it is, so each commit is judged by the state before it.
    induction h using List.reverseRecOn with
    | nil => trivial
    | append_singleton h e ih =>
      refine along_snoc.mpr ⟨ih ?_, ?_⟩
      · intro before rest hsplit
        exact hvalued before (rest ++ [e]) (by rw [hsplit, List.append_assoc])
      · have hbefore := (hvalued h [e] rfl).1
        have hafter := (hvalued (h ++ [e]) [] (List.append_nil _).symm).1
        rw [run_append] at hafter
        exact (single_after_iff hbefore e).mp hafter
  · rintro hinformed before rest rfl
    have hsingle : (run after {} before).Single :=
      (along_append.mp hinformed).1.invariant single_empty fun _ e hs he => (single_after_iff hs e).mpr he
    exact ⟨hsingle, hsingle.showsLatest⟩

end Single

section Demo

def demoKey : FactKey := ⟨"demo-shop", "demo-user-001", "preferred_size"⟩

def demoPreference (factId size : String) (observedAt : ℕ) : Preference where
  factId := factId
  key := demoKey
  value := [("value", .str size)]
  sourceType := "user"
  sourceRef := "api"
  confidence := 1
  observedAt := observedAt

/-- Two first preferences of an actor, the second one written before the first one commits. -/
def demoOverlap : List Step :=
  [.begin 1 (demoPreference "fact-1" "M" 10), .begin 2 (demoPreference "fact-2" "L" 20), .commit 1, .commit 2]

theorem demoOverlap_eq : (run after {} demoOverlap).facts.count (MemoryFact.isActive demoKey) = 2 ∧
    ((knownSlots ((run after {} demoOverlap).activeForActor "demo-shop" "demo-user-001" 30)).get?
      "preferred_size").bind Value.asStr? = some "M" := by
  decide +kernel

/-- Both facts stay active, and the prompt shows the older one. -/
theorem preference_doubled : ¬ ∀ h : List Step, SingleValued h := by
  intro hclaim
  have hsingle := (hclaim demoOverlap demoOverlap [] rfl).1 demoKey
  rw [demoOverlap_eq.1] at hsingle
  exact absurd hsingle (by decide)

end Demo

end CommerceAgent.Memory
