import CommerceAgent.JsonText
import CommerceAgent.Rearrangements
import Mathlib.Data.Finset.Basic
import Mathlib.Data.List.Perm.Basic

/-! The catalog questions and their splits: whole seed families are allocated to calibration, to the
frozen candidates, to the held-out part and to what is left. -/
namespace CommerceAgent.Catalog

open Json

structure SpecFact where
  specKey : String
  value : String
  raw : String

structure ProductRecord where
  productId : String
  productName : String
  productDesc : String
  price : String
  specs : List SpecFact

structure CatalogCandidate where
  productId : String
  sourceRow : ℕ
  userVisibleName : String

inductive AnswerMode where
  | selectProduct | noneOfCandidates
  deriving DecidableEq

def AnswerMode.text : AnswerMode → String
  | selectProduct => "select_product"
  | noneOfCandidates => "none_of_candidates"

structure CatalogSeed where
  seedId : String
  question : String
  userProfile : String
  candidateProductIds : List String
  candidates : List CatalogCandidate
  goldProductIds : List String
  answerMode : AnswerMode
  requiredConstraints : List String
  requiredEvidence : List String
  mustWarn : List String
  mustNot : List String
  failureType : String
  trapFamily : String
  five : candidateProductIds.length = 5

structure CatalogDataset where
  products : List (String × ProductRecord)
  seeds : List CatalogSeed

/-- A scenario; its simulated profile is a variant of the one of the seed. -/
structure CatalogScenario where
  scenarioId : String
  seedId : String
  taskType : String
  question : String
  candidateProducts : List ProductRecord
  profile : String
  variantType : String
  completeness : String
  goldProductIds : List String
  answerMode : AnswerMode
  requiredConstraints : List String
  requiredEvidence : List String
  mustWarn : List String
  mustNot : List String
  failureType : String
  trapFamily : String

inductive Raised where
  | valueError (message : String)
  | keyError (key : String)

/-- The variants of a profile, each with how complete it is at first. -/
def VARIANTS : List (String × String) :=
  [("faithful", "complete"), ("information_insufficient", "low"), ("correction_pressure", "partial")]

section Scenarios

variable (dataset : CatalogDataset)

/-- `self.products[product_id]`. -/
def CatalogDataset.product (productId : String) : Except Raised ProductRecord :=
  match dataset.products.lookup productId with
  | some product => .ok product
  | none => .error (.keyError productId)

def CatalogDataset.multiturnScenario (seed : CatalogSeed) (variant : String × String) :
    Except Raised CatalogScenario := do
  let candidateProducts ← seed.candidateProductIds.mapM dataset.product
  pure {
    scenarioId := seed.seedId ++ "_" ++ variant.1
    seedId := seed.seedId
    taskType := "catalog_multiturn_v1"
    question := seed.question
    candidateProducts
    profile := seed.userProfile
    variantType := variant.1
    completeness := variant.2
    goldProductIds := seed.goldProductIds
    answerMode := seed.answerMode
    requiredConstraints := seed.requiredConstraints
    requiredEvidence := seed.requiredEvidence
    mustWarn := seed.mustWarn
    mustNot := seed.mustNot
    failureType := seed.failureType
    trapFamily := seed.trapFamily }

/-- `scenarios("catalog_multiturn_v1")`. -/
def CatalogDataset.scenarios : Except Raised (List CatalogScenario) :=
  (dataset.seeds.flatMap fun seed => VARIANTS.map fun variant => (seed, variant)).mapM fun p =>
    dataset.multiturnScenario p.1 p.2

/-- Every candidate of every seed is a product of the dataset. -/
def CatalogDataset.Known : Prop :=
  ∀ seed ∈ dataset.seeds, ∀ productId ∈ seed.candidateProductIds,
    (dataset.products.lookup productId).isSome

end Scenarios

structure CatalogSplit where
  name : String
  seedIds : List String
  scenarioIds : List String
  scenarioCount : ℕ

structure CatalogSplitManifest where
  datasetId : String
  datasetVersion : String
  sourceHash : String
  splitPolicy : List (String × ℤ)
  seedCount : ℕ
  scenarioCount : ℕ
  partitions : List CatalogSplit

/-- Where an index of a slice lies in a list of `n` members. -/
def position (n : ℕ) (i : ℤ) : ℕ := if 0 ≤ i then min i.toNat n else (n + i).toNat

/-- `values[i:j]`. -/
def between {α : Type} (values : List α) (i j : ℤ) : List α :=
  (values.take (position values.length j)).drop (position values.length i)

/-- The part of `build_catalog_split_manifest` that gives every split its seeds, of the sorted
ones. -/
def allocate (seeds : List CatalogSeed) (calibrationSeedCount frozenSeedCount heldOutSeedCount : ℤ) :
    Except Raised (List (String × List String)) :=
  let requested := calibrationSeedCount + frozenSeedCount + heldOutSeedCount
  if min (min calibrationSeedCount frozenSeedCount) heldOutSeedCount < 1 then
    .error (.valueError "each catalog split must contain at least one seed")
  else if seeds.length ≤ requested then
    .error (.valueError "split allocation must leave candidate seeds")
  else
    let safety := seeds.filter fun seed => seed.answerMode = .noneOfCandidates
    let selection := seeds.filter fun seed => seed.answerMode = .selectProduct
    let calibration := safety.map CatalogSeed.seedId ++
      (between selection 0 (calibrationSeedCount - safety.length)).map CatalogSeed.seedId
    let cursor := calibrationSeedCount - safety.length
    if calibration.length ≠ calibrationSeedCount then
      .error (.valueError "unable to allocate calibration seeds")
    else
      let frozen := (between selection cursor (cursor + frozenSeedCount)).map CatalogSeed.seedId
      let cursor := cursor + frozenSeedCount
      let heldOut := (between selection cursor (cursor + heldOutSeedCount)).map CatalogSeed.seedId
      let assigned := calibration ++ frozen ++ heldOut
      let candidate := (seeds.map CatalogSeed.seedId).filter fun seedId => seedId ∉ assigned
      if frozen.length ≠ frozenSeedCount ∨ heldOut.length ≠ heldOutSeedCount ∨ candidate = [] then
        .error (.valueError "catalog split allocation does not match requested counts")
      else
        .ok [("calibration", calibration), ("frozen_candidate", frozen), ("held_out", heldOut),
          ("candidate", candidate)]

/-- `_partition`. -/
def partition (scenarios : List CatalogScenario) (part : String × List String) :
    Except Raised CatalogSplit :=
  let scenarioIds := (scenarios.filter fun s => s.seedId ∈ part.2).map CatalogScenario.scenarioId
  if scenarioIds = [] then .error (.valueError ("catalog split has no scenarios: " ++ part.1))
  else .ok ⟨part.1, part.2, scenarioIds, scenarioIds.length⟩

def sortedSeeds (dataset : CatalogDataset) : List CatalogSeed :=
  dataset.seeds.insertionSort fun a b => a.seedId ≤ b.seedId

variable (sha256 : String → String)

/-- `_source_hash`; `sha256` is the hex digest of the UTF-8 bytes. -/
def sourceHash (dataset : CatalogDataset) : String :=
  "sha256:" ++ sha256 (dumps (.arr ((sortedSeeds dataset).map fun seed => .obj [
    ("seed_id", .str seed.seedId), ("question", .str seed.question),
    ("candidate_product_ids", .arr (seed.candidateProductIds.map .str)),
    ("gold_product_ids", .arr (seed.goldProductIds.map .str)),
    ("answer_mode", .str seed.answerMode.text)])))

/-- The last check of `build_catalog_split_manifest`. -/
def Exhaustive (scenarios : List CatalogScenario) (seeds : ℕ) (partitions : List CatalogSplit) : Prop :=
  (partitions.flatMap CatalogSplit.scenarioIds).toFinset =
      (scenarios.map CatalogScenario.scenarioId).toFinset ∧
    (partitions.map fun p => p.seedIds.length).sum = seeds

instance (scenarios : List CatalogScenario) (seeds : ℕ) (partitions : List CatalogSplit) :
    Decidable (Exhaustive scenarios seeds partitions) := inferInstanceAs (Decidable (_ ∧ _))

def buildCatalogSplitManifest (dataset : CatalogDataset)
    (calibrationSeedCount frozenSeedCount heldOutSeedCount : ℤ) :
    Except Raised CatalogSplitManifest := do
  let scenarios ← dataset.scenarios
  let seeds := sortedSeeds dataset
  let parts ← allocate seeds calibrationSeedCount frozenSeedCount heldOutSeedCount
  let partitions ← parts.mapM (partition scenarios)
  if ¬Exhaustive scenarios seeds.length partitions then
    .error (.valueError "catalog partitions are not exhaustive and disjoint")
  else
    pure {
      datasetId := "long_tail_catalog"
      datasetVersion := "candidate"
      sourceHash := sourceHash sha256 dataset
      splitPolicy := [("calibration_seed_count", calibrationSeedCount),
        ("frozen_candidate_seed_count", frozenSeedCount),
        ("held_out_seed_count", heldOutSeedCount), ("scenarios_per_seed", 3)]
      seedCount := seeds.length
      scenarioCount := scenarios.length
      partitions }

def scenariosForSplit (scenarios : List CatalogScenario) (manifest : CatalogSplitManifest)
    (split : String) : Except Raised (List CatalogScenario) :=
  match manifest.partitions.find? fun item => item.name = split with
  | none => .error (.valueError ("unknown catalog split: " ++ split))
  | some part =>
    let selected := scenarios.filter fun item => item.scenarioId ∈ part.scenarioIds
    if (selected.map CatalogScenario.scenarioId).toFinset ≠ part.scenarioIds.toFinset then
      .error (.valueError "split manifest does not match catalog scenarios")
    else .ok selected

section Slices

variable {α : Type} {values : List α}

theorem between_eq {i j : ℤ} (hi : 0 ≤ i) (hij : i ≤ j) :
    between values i j = (values.drop i.toNat).take (j.toNat - i.toNat) := by
  -- A bound beyond the end of the list cuts where the end does.
  have hdrop : ∀ (l : List α) (n : ℕ), l.length ≤ values.length →
      l.drop (min n values.length) = l.drop n := by
    intro l n hl
    rcases le_total n values.length with hn | hn
    · rw [min_eq_left hn]
    · rw [min_eq_right hn, List.drop_eq_nil_of_le hl, List.drop_eq_nil_of_le (hl.trans hn)]
  have htake : values.take (min j.toNat values.length) = values.take j.toNat := by
    rw [← List.take_take, List.take_length]
  rw [between, position, position, if_pos hi, if_pos (hi.trans hij), htake,
    hdrop _ _ (List.length_take_le' _ _), List.drop_take]

/-- Neighbouring slices make up one slice. -/
theorem drop_eq_between_append {i j : ℤ} (hi : 0 ≤ i) (hij : i ≤ j) :
    values.drop i.toNat = between values i j ++ values.drop j.toNat := by
  have hrest : values.drop j.toNat = (values.drop i.toNat).drop (j.toNat - i.toNat) := by
    rw [List.drop_drop]
    congr 1
    omega
  rw [between_eq hi hij, hrest, List.take_append_drop]

variable (values) in
theorem between_zero_length {j : ℤ} (hj : j < 0) :
    (between values 0 j).length = (values.length + j).toNat := by
  have h0 : position values.length 0 = 0 := by simp [position]
  rw [between, h0, List.drop_zero, List.length_take, position, if_neg (by omega)]
  omega

end Slices

section Allocation

variable {seeds : List CatalogSeed} {calibrationSeedCount frozenSeedCount heldOutSeedCount : ℤ}

/-- The seeds of the four splits, as the counts ask for them. -/
structure Allocated (seeds : List CatalogSeed)
    (calibrationSeedCount frozenSeedCount heldOutSeedCount : ℤ)
    (calibration frozen heldOut candidate : List String) : Prop where
  calibrationCount : (calibration.length : ℤ) = calibrationSeedCount
  frozenCount : (frozen.length : ℤ) = frozenSeedCount
  heldOutCount : (heldOut.length : ℤ) = heldOutSeedCount
  positive : 1 ≤ calibrationSeedCount ∧ 1 ≤ frozenSeedCount ∧ 1 ≤ heldOutSeedCount
  left : candidate ≠ []
  safety : ∀ seed ∈ seeds, seed.answerMode = .noneOfCandidates → seed.seedId ∈ calibration
  perm : (calibration ++ frozen ++ heldOut ++ candidate).Perm (seeds.map CatalogSeed.seedId)

variable (seeds) in
/-- Every seed has one of the two answer modes. -/
theorem safety_append_selection :
    ((seeds.filter fun seed => seed.answerMode = .noneOfCandidates) ++
      seeds.filter fun seed => seed.answerMode = .selectProduct).Perm seeds := by
  have hmode : (fun seed : CatalogSeed => decide (seed.answerMode = .selectProduct)) =
      fun seed => !decide (seed.answerMode = .noneOfCandidates) := by
    funext seed
    cases seed.answerMode <;> rfl
  rw [hmode]
  exact List.filter_append_perm _ _

/-- What is not assigned is left, when no member occurs twice. -/
theorem filter_notMem_perm {ids assigned rest : List String} (hnodup : ids.Nodup)
    (h : ids.Perm (assigned ++ rest)) : (ids.filter fun id => id ∉ assigned).Perm rest := by
  have hdisjoint := (List.nodup_append'.mp (h.nodup_iff.mp hnodup)).2.2
  have hassigned : (assigned.filter fun id => id ∉ assigned) = [] := by
    rw [List.filter_eq_nil_iff]
    intro id hid
    simpa using hid
  have hrest : (rest.filter fun id => id ∉ assigned) = rest := by
    rw [List.filter_eq_self]
    intro id hid
    exact decide_eq_true fun hassigned => hdisjoint hassigned hid
  refine (h.filter _).trans ?_
  rw [List.filter_append, hassigned, hrest, List.nil_append]

/-- The size check of the calibration part refuses a slice from the end: no more safety seeds than
calibration seeds are left. -/
theorem cursor_nonneg {safety selection : List CatalogSeed}
    (h : (((safety.map CatalogSeed.seedId ++
      (between selection 0 (calibrationSeedCount - safety.length)).map
        CatalogSeed.seedId).length : ℕ) : ℤ) = calibrationSeedCount) :
    0 ≤ calibrationSeedCount - safety.length := by
  by_contra hneg
  have hlength := between_zero_length selection (not_le.mp hneg)
  simp only [List.length_append, List.length_map, hlength] at h
  omega

theorem allocate_eq_ok {parts : List (String × List String)}
    (hnodup : (seeds.map CatalogSeed.seedId).Nodup)
    (h : allocate seeds calibrationSeedCount frozenSeedCount heldOutSeedCount = .ok parts) :
    ∃ calibration frozen heldOut candidate,
      parts = [("calibration", calibration), ("frozen_candidate", frozen), ("held_out", heldOut),
        ("candidate", candidate)] ∧
      Allocated seeds calibrationSeedCount frozenSeedCount heldOutSeedCount calibration frozen
        heldOut candidate := by
  unfold allocate at h
  dsimp only at h
  split_ifs at h with hmin hleft hcalibration hcounts
  obtain rfl := (Except.ok.inj h).symm
  refine ⟨_, _, _, _, rfl, ?_⟩
  push Not at hmin hcalibration hcounts
  obtain ⟨hfrozen, hheldOut, hcandidate⟩ := hcounts
  -- From here on every slice begins where the one before it ends.
  have hcursor := cursor_nonneg hcalibration
  have hpositive : 1 ≤ calibrationSeedCount ∧ 1 ≤ frozenSeedCount ∧ 1 ≤ heldOutSeedCount := by
    simpa [and_assoc] using hmin
  refine ⟨hcalibration, hfrozen, hheldOut, hpositive, hcandidate, ?_, ?_⟩
  · intro seed hseed hmode
    refine List.mem_append_left _ (List.mem_map_of_mem (List.mem_filter.mpr ⟨hseed, ?_⟩))
    exact decide_eq_true hmode
  · set selection := seeds.filter fun seed => seed.answerMode = .selectProduct with hselection
    set safety := seeds.filter fun seed => seed.answerMode = .noneOfCandidates with hsafety
    -- The slices follow one another in the list of selection seeds.
    set first := calibrationSeedCount - safety.length with hfirst
    have hslices : selection = between selection 0 first ++
        (between selection first (first + frozenSeedCount) ++
          (between selection (first + frozenSeedCount)
            (first + frozenSeedCount + heldOutSeedCount) ++
          selection.drop (first + frozenSeedCount + heldOutSeedCount).toNat)) := by
      have hstart : selection = selection.drop (0 : ℤ).toNat := rfl
      rw [← drop_eq_between_append (by omega) (by omega),
        ← drop_eq_between_append (by omega) (by omega),
        ← drop_eq_between_append (by omega) (by omega), ← hstart]
    have hall : (seeds.map CatalogSeed.seedId).Perm
        (safety.map CatalogSeed.seedId ++ (between selection 0 first).map CatalogSeed.seedId ++
          (between selection first (first + frozenSeedCount)).map CatalogSeed.seedId ++
          (between selection (first + frozenSeedCount)
            (first + frozenSeedCount + heldOutSeedCount)).map CatalogSeed.seedId ++
          (selection.drop (first + frozenSeedCount + heldOutSeedCount).toNat).map
            CatalogSeed.seedId) := by
      have hperm := (safety_append_selection seeds).symm.map CatalogSeed.seedId
      rw [← hsafety, ← hselection, List.map_append] at hperm
      have hmapped := congrArg (List.map CatalogSeed.seedId) hslices
      rw [hmapped] at hperm
      simpa only [List.map_append, List.append_assoc] using hperm
    exact ((filter_notMem_perm hnodup hall).append_left _).trans hall.symm

end Allocation

section Manifests

variable {dataset : CatalogDataset} {scenarios : List CatalogScenario} {seeds : List CatalogSeed}
  {parts : List (String × List String)}
  {calibrationSeedCount frozenSeedCount heldOutSeedCount : ℤ}

theorem mapM_of_forall {α β γ ε : Type} {f : α → Except ε β} {g : β → γ} {g' : α → γ} {l : List α}
    (h : ∀ a ∈ l, ∃ b, f a = .ok b ∧ g b = g' a) :
    ∃ bs, l.mapM f = .ok bs ∧ bs.map g = l.map g' := by
  induction l with
  | nil => exact ⟨[], rfl, rfl⟩
  | cons a l ih =>
    obtain ⟨b, hb, hg⟩ := h a List.mem_cons_self
    obtain ⟨bs, hbs, hmap⟩ := ih fun a' ha' => h a' (List.mem_cons_of_mem _ ha')
    refine ⟨b :: bs, ?_, ?_⟩
    · rw [List.mapM_cons, hb, hbs]
      rfl
    · rw [List.map_cons, List.map_cons, hg, hmap]

/-- The scenarios of a seed, by their ids. -/
def scenarioKeys (seeds : List CatalogSeed) : List (String × String) :=
  seeds.flatMap fun seed => VARIANTS.map fun variant => (seed.seedId ++ "_" ++ variant.1, seed.seedId)

/-- A dataset with known candidates has three scenarios for each of its seeds. -/
theorem scenarios_eq_ok (h : dataset.Known) :
    ∃ scenarios, dataset.scenarios = .ok scenarios ∧
      (scenarios.map fun s => (s.scenarioId, s.seedId)) = scenarioKeys dataset.seeds := by
  have hscenario : ∀ p ∈ dataset.seeds.flatMap fun seed => VARIANTS.map fun variant => (seed, variant),
      ∃ s, dataset.multiturnScenario p.1 p.2 = .ok s ∧
        (s.scenarioId, s.seedId) = (p.1.seedId ++ "_" ++ p.2.1, p.1.seedId) := by
    rintro ⟨seed, variant⟩ hp
    obtain ⟨seed', hseed, hvariant⟩ := List.mem_flatMap.mp hp
    obtain ⟨variant', _, heq⟩ := List.mem_map.mp hvariant
    obtain ⟨rfl, rfl⟩ := Prod.mk.inj heq
    have hproduct : ∀ productId ∈ seed'.candidateProductIds,
        ∃ product, dataset.product productId = .ok product ∧ () = () := by
      intro productId hid
      obtain ⟨product, hproduct⟩ := Option.isSome_iff_exists.mp (h _ hseed _ hid)
      exact ⟨product, by rw [CatalogDataset.product, hproduct], rfl⟩
    obtain ⟨products, hproducts, _⟩ := mapM_of_forall hproduct
    simp only [CatalogDataset.multiturnScenario, hproducts]
    exact ⟨_, rfl, rfl⟩
  obtain ⟨scenarios, hok, hmap⟩ := mapM_of_forall hscenario
  refine ⟨scenarios, hok, hmap.trans ?_⟩
  simp only [scenarioKeys, List.map_flatMap, List.map_map]
  rfl

/-- The last letter tells the variants apart, so no two scenarios share their id. -/
theorem scenarioKeys_nodup (hnodup : (seeds.map CatalogSeed.seedId).Nodup) :
    ((scenarioKeys seeds).map Prod.fst).Nodup := by
  have hinj : ∀ a b v w : String, v ∈ VARIANTS.map Prod.fst → w ∈ VARIANTS.map Prod.fst →
      a ++ "_" ++ v = b ++ "_" ++ w → a = b ∧ v = w := by
    intro a b v w hv hw heq
    have hvw : v = w := by
      have hchars := congrArg (fun s : String => s.toList.getLast?) heq
      simp only [VARIANTS, List.map_cons, List.map_nil, List.mem_cons, List.not_mem_nil,
        or_false] at hv hw
      rcases hv with rfl | rfl | rfl <;> rcases hw with rfl | rfl | rfl <;>
        first | rfl | simp at hchars
    subst hvw
    refine ⟨?_, rfl⟩
    have hlist := congrArg String.toList heq
    simp only [String.toList_append, List.append_assoc] at hlist
    exact String.ext (List.append_cancel_right hlist)
  simp only [scenarioKeys, List.map_flatMap, List.map_map, List.nodup_flatMap]
  constructor
  · intro seed _
    refine (List.nodup_map_iff_inj_on (by decide)).mpr fun v hv w hw heq => ?_
    have hvariant := (hinj _ _ _ _ (List.mem_map_of_mem hv) (List.mem_map_of_mem hw) heq).2
    simp only [VARIANTS, List.mem_cons, List.not_mem_nil, or_false] at hv hw
    rcases hv with rfl | rfl | rfl <;> rcases hw with rfl | rfl | rfl <;>
      first | rfl | exact absurd hvariant (by decide)
  · rw [List.Nodup, List.pairwise_map] at hnodup
    refine hnodup.imp fun {a b} hne x hxa hxb => hne ?_
    obtain ⟨v, hv, rfl⟩ := List.mem_map.mp hxa
    obtain ⟨w, hw, heq⟩ := List.mem_map.mp hxb
    exact (hinj _ _ _ _ (List.mem_map_of_mem hw) (List.mem_map_of_mem hv) heq).1.symm

/-- Parts of the keys that have none in common part the members. -/
theorem filter_parts_perm {α κ : Type} [DecidableEq κ] {parts : List (List κ)} (key : α → κ) (l : List α)
    (h : parts.Pairwise List.Disjoint) :
    (parts.flatMap fun part => l.filter fun a => key a ∈ part).Perm
      (l.filter fun a => key a ∈ parts.flatten) := by
  induction parts with
  | nil => simp
  | cons part parts ih =>
    obtain ⟨hpart, hparts⟩ := List.pairwise_cons.mp h
    have hsplit := List.filter_append_perm (fun a => decide (key a ∈ part))
      (l.filter fun a => key a ∈ (part :: parts).flatten)
    rw [List.filter_filter, List.filter_filter] at hsplit
    have hfirst : (fun a => decide (key a ∈ part) && decide (key a ∈ (part :: parts).flatten)) =
        fun a => decide (key a ∈ part) := by
      funext a
      simp only [List.flatten_cons, List.mem_append, ← Bool.decide_and, decide_eq_decide]
      exact ⟨And.left, fun ha => ⟨ha, Or.inl ha⟩⟩
    have hrest : (fun a => !decide (key a ∈ part) && decide (key a ∈ (part :: parts).flatten)) =
        fun a => decide (key a ∈ parts.flatten) := by
      funext a
      simp only [List.flatten_cons, List.mem_append, ← decide_not, ← Bool.decide_and,
        decide_eq_decide]
      refine ⟨fun ha => ha.2.resolve_left ha.1, fun ha => ⟨fun hin => ?_, Or.inr ha⟩⟩
      obtain ⟨other, hother, hmem⟩ := List.mem_flatten.mp ha
      exact hpart other hother hin hmem
    rw [hfirst, hrest] at hsplit
    exact ((ih hparts).append_left _).trans hsplit

/-- The split of some seeds. -/
def splitOf (scenarios : List CatalogScenario) (part : String × List String) : CatalogSplit :=
  let scenarioIds := (scenarios.filter fun s => s.seedId ∈ part.2).map CatalogScenario.scenarioId
  ⟨part.1, part.2, scenarioIds, scenarioIds.length⟩

theorem partition_eq_ok {part : String × List String}
    (h : ∃ s ∈ scenarios, s.seedId ∈ part.2) :
    partition scenarios part = .ok (splitOf scenarios part) := by
  obtain ⟨s, hs, hseed⟩ := h
  have hmem : s.scenarioId ∈
      (scenarios.filter fun s => s.seedId ∈ part.2).map CatalogScenario.scenarioId :=
    List.mem_map_of_mem (List.mem_filter.mpr ⟨hs, decide_eq_true hseed⟩)
  rw [partition, if_neg (List.ne_nil_of_mem hmem)]
  rfl

/-- The scenarios of the seeds, and none of others. -/
structure Keyed (seeds : List CatalogSeed) (scenarios : List CatalogScenario) : Prop where
  keys : (scenarios.map fun s => (s.scenarioId, s.seedId)) = scenarioKeys seeds
  nodup : (seeds.map CatalogSeed.seedId).Nodup

theorem Keyed.seed_mem (h : Keyed seeds scenarios) {s : CatalogScenario} (hs : s ∈ scenarios) :
    s.seedId ∈ seeds.map CatalogSeed.seedId := by
  have hkey : (s.scenarioId, s.seedId) ∈ scenarioKeys seeds :=
    h.keys ▸ List.mem_map_of_mem (f := fun s => (s.scenarioId, s.seedId)) hs
  obtain ⟨seed, hseed, hvariant⟩ := List.mem_flatMap.mp hkey
  obtain ⟨variant, _, heq⟩ := List.mem_map.mp hvariant
  exact (Prod.mk.inj heq).2 ▸ List.mem_map_of_mem hseed

theorem Keyed.exists_scenario (h : Keyed seeds scenarios) {seedId : String}
    (hid : seedId ∈ seeds.map CatalogSeed.seedId) : ∃ s ∈ scenarios, s.seedId = seedId := by
  obtain ⟨seed, hseed, rfl⟩ := List.mem_map.mp hid
  have hkey : (seed.seedId ++ "_" ++ "faithful", seed.seedId) ∈ scenarioKeys seeds :=
    List.mem_flatMap.mpr ⟨seed, hseed, List.mem_cons_self⟩
  rw [← h.keys] at hkey
  obtain ⟨s, hs, heq⟩ := List.mem_map.mp hkey
  exact ⟨s, hs, (Prod.mk.inj heq).2⟩

theorem Keyed.ids_nodup (h : Keyed seeds scenarios) :
    (scenarios.map CatalogScenario.scenarioId).Nodup := by
  have hids : scenarios.map CatalogScenario.scenarioId = (scenarioKeys seeds).map Prod.fst := by
    rw [← h.keys, List.map_map]
    rfl
  exact hids ▸ scenarioKeys_nodup h.nodup

/-- A scenario id stands for one scenario. -/
theorem Keyed.eq_of_id (h : Keyed seeds scenarios) {s t : CatalogScenario} (hs : s ∈ scenarios)
    (ht : t ∈ scenarios) (heq : s.scenarioId = t.scenarioId) : s = t :=
  List.inj_on_of_nodup_map h.ids_nodup hs ht heq

theorem Keyed.mem_splitOf (h : Keyed seeds scenarios) {s : CatalogScenario} (hs : s ∈ scenarios)
    (part : String × List String) :
    s.scenarioId ∈ (splitOf scenarios part).scenarioIds ↔ s.seedId ∈ part.2 := by
  constructor
  · intro hmem
    obtain ⟨t, ht, heq⟩ := List.mem_map.mp hmem
    obtain ⟨htmem, htseed⟩ := List.mem_filter.mp ht
    exact h.eq_of_id htmem hs heq ▸ of_decide_eq_true htseed
  · intro hseed
    exact List.mem_map_of_mem (List.mem_filter.mpr ⟨hs, decide_eq_true hseed⟩)

/-- What the parts of an allocation are for: they part the seeds, and none is empty. -/
structure Parts (seeds : List CatalogSeed) (parts : List (String × List String)) : Prop where
  perm : (parts.flatMap Prod.snd).Perm (seeds.map CatalogSeed.seedId)
  nonempty : ∀ part ∈ parts, part.2 ≠ []

theorem Parts.apart (h : Parts seeds parts) (hk : Keyed seeds scenarios) :
    (parts.map Prod.snd).Pairwise List.Disjoint := by
  have hnodup := h.perm.nodup_iff.mpr hk.nodup
  rw [List.flatMap_def, List.nodup_flatten] at hnodup
  exact hnodup.2

/-- The scenarios of the parts are all scenarios. -/
theorem Parts.scenarios_perm (h : Parts seeds parts) (hk : Keyed seeds scenarios) :
    (parts.flatMap fun part => scenarios.filter fun s => s.seedId ∈ part.2).Perm scenarios := by
  have hall : (scenarios.filter fun s => s.seedId ∈ (parts.map Prod.snd).flatten) = scenarios := by
    rw [List.filter_eq_self]
    intro s hs
    rw [← List.flatMap_def]
    exact decide_eq_true (h.perm.mem_iff.mpr (hk.seed_mem hs))
  have hparts := filter_parts_perm CatalogScenario.seedId scenarios (h.apart hk)
  rw [hall, List.flatMap_map] at hparts
  exact hparts

theorem Parts.splits_ok (h : Parts seeds parts) (hk : Keyed seeds scenarios) :
    parts.mapM (partition scenarios) = .ok (parts.map (splitOf scenarios)) := by
  have hpart : ∀ part ∈ parts, ∃ split, partition scenarios part = .ok split ∧
      id split = splitOf scenarios part := by
    intro part hmem
    obtain ⟨seedId, hid⟩ := List.exists_mem_of_ne_nil _ (h.nonempty part hmem)
    have hseed := h.perm.mem_iff.mp (List.mem_flatMap.mpr ⟨part, hmem, hid⟩)
    obtain ⟨s, hs, rfl⟩ := hk.exists_scenario hseed
    exact ⟨_, partition_eq_ok ⟨s, hs, hid⟩, rfl⟩
  obtain ⟨splits, hok, hmap⟩ := mapM_of_forall hpart
  rw [List.map_id] at hmap
  rw [hok, hmap]

theorem Parts.exhaustive (h : Parts seeds parts) (hk : Keyed seeds scenarios) :
    Exhaustive scenarios seeds.length (parts.map (splitOf scenarios)) := by
  constructor
  · have hids := (h.scenarios_perm hk).map CatalogScenario.scenarioId
    rw [List.map_flatMap] at hids
    rw [List.flatMap_map]
    exact List.toFinset_eq_of_perm _ _ hids
  · rw [List.map_map, ← List.length_map (f := CatalogSeed.seedId), ← h.perm.length_eq,
      List.length_flatMap]
    rfl

variable {sha256 : String → String}

theorem sortedSeeds_perm : (sortedSeeds dataset).Perm dataset.seeds := List.perm_insertionSort _ _

variable (sha256) in
/-- Nothing after the allocation raises: every part has scenarios, and they are exhaustive. -/
theorem build_eq_ok (hs : dataset.scenarios = .ok scenarios) (hk : Keyed dataset.seeds scenarios)
    (ha : allocate (sortedSeeds dataset) calibrationSeedCount frozenSeedCount heldOutSeedCount =
      .ok parts) (hp : Parts dataset.seeds parts) :
    ∃ manifest, buildCatalogSplitManifest sha256 dataset calibrationSeedCount frozenSeedCount
        heldOutSeedCount = .ok manifest ∧ manifest.partitions = parts.map (splitOf scenarios) := by
  have hexhaustive := hp.exhaustive hk
  rw [← sortedSeeds_perm.length_eq] at hexhaustive
  simp only [buildCatalogSplitManifest, hs, ha, hp.splits_ok hk, bind, Except.bind, hexhaustive,
    not_true_eq_false, if_false]
  exact ⟨_, rfl, rfl⟩

/-- A split gives the scenarios of its seeds. -/
theorem scenariosForSplit_eq_ok {manifest : CatalogSplitManifest} {part : String × List String}
    (hk : Keyed seeds scenarios)
    (hfind : manifest.partitions.find? (fun item => item.name = part.1) =
      some (splitOf scenarios part)) :
    scenariosForSplit scenarios manifest part.1 =
      .ok (scenarios.filter fun s => s.seedId ∈ part.2) := by
  have hfilter : (scenarios.filter fun s => s.scenarioId ∈ (splitOf scenarios part).scenarioIds) =
      scenarios.filter fun s => s.seedId ∈ part.2 := by
    refine List.filter_congr fun s hs => ?_
    rw [decide_eq_decide]
    exact hk.mem_splitOf hs part
  simp only [scenariosForSplit, hfind, hfilter]
  exact if_neg fun hne => hne rfl

end Manifests

/-- The names of the four splits. -/
def SPLITS : List String := ["calibration", "frozen_candidate", "held_out", "candidate"]

/-- A manifest whose splits part the seeds and the scenarios as the counts ask for it. -/
structure IsSplit (dataset : CatalogDataset) (scenarios : List CatalogScenario)
    (calibrationSeedCount frozenSeedCount heldOutSeedCount : ℤ) (manifest : CatalogSplitManifest) :
    Prop where
  names : manifest.partitions.map CatalogSplit.name = SPLITS
  counts : (manifest.partitions.take 3).map (fun p => (p.seedIds.length : ℤ)) =
    [calibrationSeedCount, frozenSeedCount, heldOutSeedCount]
  seedIds : (manifest.partitions.flatMap CatalogSplit.seedIds).Perm
    (dataset.seeds.map CatalogSeed.seedId)
  seedsApart : (manifest.partitions.map CatalogSplit.seedIds).Pairwise List.Disjoint
  scenarioIds : (manifest.partitions.flatMap CatalogSplit.scenarioIds).Perm
    (scenarios.map CatalogScenario.scenarioId)
  scenariosApart : (manifest.partitions.map CatalogSplit.scenarioIds).Pairwise List.Disjoint
  together : ∀ p ∈ manifest.partitions, ∀ s ∈ scenarios,
    s.scenarioId ∈ p.scenarioIds ↔ s.seedId ∈ p.seedIds
  safety : ∀ seed ∈ dataset.seeds, seed.answerMode = .noneOfCandidates →
    ∃ p ∈ manifest.partitions, p.name = "calibration" ∧ seed.seedId ∈ p.seedIds
  selected : ∃ parts, SPLITS.mapM (scenariosForSplit scenarios manifest) = .ok parts ∧
    parts.flatten.Perm scenarios ∧ parts.Pairwise List.Disjoint

section Results

variable {sha256 : String → String} {dataset : CatalogDataset} {scenarios : List CatalogScenario}
  {calibration frozen heldOut candidate : List String}
  {calibrationSeedCount frozenSeedCount heldOutSeedCount : ℤ}

theorem Allocated.parts {seeds : List CatalogSeed} (h : Allocated seeds calibrationSeedCount
    frozenSeedCount heldOutSeedCount calibration frozen heldOut candidate) :
    Parts seeds [("calibration", calibration), ("frozen_candidate", frozen), ("held_out", heldOut),
      ("candidate", candidate)] := by
  have hne : ∀ l : List String, (1 : ℤ) ≤ l.length → l ≠ [] := by
    rintro l hl rfl
    simp at hl
  constructor
  · simpa [List.append_assoc] using h.perm
  · obtain ⟨hcalibration, hfrozen, hheldOut⟩ := h.positive
    simp only [List.forall_mem_cons, List.not_mem_nil, false_implies, implies_true, and_true]
    exact ⟨hne _ (h.calibrationCount ▸ hcalibration), hne _ (h.frozenCount ▸ hfrozen),
      hne _ (h.heldOutCount ▸ hheldOut), h.left⟩

theorem allocate_error {seeds : List CatalogSeed} {e : Raised}
    (h : allocate seeds calibrationSeedCount frozenSeedCount heldOutSeedCount = .error e) :
    ∃ message, e = .valueError message := by
  unfold allocate at h
  dsimp only at h
  split_ifs at h <;> exact ⟨_, (Except.error.inj h).symm⟩

/-- An allocation does not depend on the order of the seeds. -/
theorem Allocated.of_perm {seeds seeds' : List CatalogSeed} (h : Allocated seeds calibrationSeedCount
    frozenSeedCount heldOutSeedCount calibration frozen heldOut candidate)
    (hperm : seeds.Perm seeds') : Allocated seeds' calibrationSeedCount
    frozenSeedCount heldOutSeedCount calibration frozen heldOut candidate :=
  { h with
    safety := fun seed hseed => h.safety seed (hperm.mem_iff.mpr hseed)
    perm := h.perm.trans (hperm.map _) }

/-- Distinct ids leave one sorted order. -/
theorem sortedSeeds_eq {dataset' : CatalogDataset}
    (hnodup : (dataset.seeds.map CatalogSeed.seedId).Nodup)
    (hperm : dataset'.seeds.Perm dataset.seeds) : sortedSeeds dataset' = sortedSeeds dataset := by
  have hnodup' := (hperm.map CatalogSeed.seedId).nodup_iff.mpr hnodup
  refine Rearrangements.insertionSort_eq_of_perm (fun a b => le_total _ _)
    (fun _ _ _ => le_trans) (fun a ha b hb hab hba => ?_) hperm
  exact List.inj_on_of_nodup_map hnodup' ha hb (le_antisymm hab hba)

theorem isSplit_of_allocated (hk : Keyed dataset.seeds scenarios)
    (h : Allocated dataset.seeds calibrationSeedCount frozenSeedCount heldOutSeedCount calibration
      frozen heldOut candidate) {manifest : CatalogSplitManifest}
    (hpartitions : manifest.partitions = [("calibration", calibration),
      ("frozen_candidate", frozen), ("held_out", heldOut), ("candidate", candidate)].map
        (splitOf scenarios)) :
    IsSplit dataset scenarios calibrationSeedCount frozenSeedCount heldOutSeedCount manifest := by
  have hparts := h.parts
  have hscenarios := hparts.scenarios_perm hk
  have hids := hscenarios.map CatalogScenario.scenarioId
  have hapart := hscenarios.nodup_iff.mpr (List.Nodup.of_map _ hk.ids_nodup)
  have hidsApart := hids.nodup_iff.mpr hk.ids_nodup
  rw [List.map_flatMap] at hids hidsApart
  rw [List.flatMap_def, List.nodup_flatten] at hapart hidsApart
  -- Each split is found under its own name, since the four names differ.
  have hselected : ∀ part ∈ [("calibration", calibration), ("frozen_candidate", frozen),
      ("held_out", heldOut), ("candidate", candidate)],
      scenariosForSplit scenarios manifest part.1 =
        .ok (scenarios.filter fun s => s.seedId ∈ part.2) := by
    intro part hpart
    refine scenariosForSplit_eq_ok hk ?_
    rw [hpartitions]
    simp only [List.mem_cons, List.not_mem_nil, or_false] at hpart
    rcases hpart with rfl | rfl | rfl | rfl <;> rfl
  have hall : ∃ parts, SPLITS.mapM (scenariosForSplit scenarios manifest) = .ok parts ∧
      parts.flatten.Perm scenarios ∧ parts.Pairwise List.Disjoint := by
    rw [List.flatMap_def] at hscenarios
    refine ⟨_, ?_, hscenarios, hapart.2⟩
    simp only [List.forall_mem_cons] at hselected
    obtain ⟨hcalibration, hfrozen, hheldOut, hcandidate, _⟩ := hselected
    simp only [SPLITS, List.mapM_cons, List.mapM_nil, hcalibration, hfrozen, hheldOut, hcandidate]
    rfl
  refine ⟨?_, ?_, ?_, ?_, ?_, ?_, ?_, ?_, hall⟩
  · rw [hpartitions]
    rfl
  · rw [hpartitions, ← h.calibrationCount, ← h.frozenCount, ← h.heldOutCount]
    rfl
  · rw [hpartitions, List.flatMap_map]
    exact hparts.perm
  · rw [hpartitions, List.map_map]
    exact hparts.apart hk
  · rw [hpartitions, List.flatMap_map]
    exact hids
  · rw [hpartitions, List.map_map]
    exact hidsApart.2
  · intro p hp s hs
    rw [hpartitions] at hp
    obtain ⟨part, _, rfl⟩ := List.mem_map.mp hp
    exact hk.mem_splitOf hs part
  · intro seed hseed hmode
    rw [hpartitions]
    exact ⟨_, List.mem_cons_self, rfl, h.safety seed hseed hmode⟩

variable (sha256 dataset calibrationSeedCount frozenSeedCount heldOutSeedCount) in
/-- The splits of a dataset, in whatever order its seeds come. -/
theorem catalog_split (hnodup : (dataset.seeds.map CatalogSeed.seedId).Nodup)
    (hknown : dataset.Known) :
    match buildCatalogSplitManifest sha256 dataset calibrationSeedCount frozenSeedCount
      heldOutSeedCount with
    | .error e => ∃ message, e = .valueError message
    | .ok manifest => ∃ scenarios, dataset.scenarios = .ok scenarios ∧
      IsSplit dataset scenarios calibrationSeedCount frozenSeedCount heldOutSeedCount manifest ∧
      ∀ dataset' : CatalogDataset, dataset'.products = dataset.products →
        dataset'.seeds.Perm dataset.seeds → ∃ manifest', buildCatalogSplitManifest sha256 dataset'
            calibrationSeedCount frozenSeedCount heldOutSeedCount = .ok manifest' ∧
          manifest'.partitions.map (fun p => (p.name, p.seedIds)) =
            manifest.partitions.map fun p => (p.name, p.seedIds) := by
  obtain ⟨scenarios, hs, hkeys⟩ := scenarios_eq_ok hknown
  have hk : Keyed dataset.seeds scenarios := ⟨hkeys, hnodup⟩
  cases ha : allocate (sortedSeeds dataset) calibrationSeedCount frozenSeedCount
      heldOutSeedCount with
  | error e =>
    have hbuild : buildCatalogSplitManifest sha256 dataset calibrationSeedCount frozenSeedCount
        heldOutSeedCount = .error e := by
      simp only [buildCatalogSplitManifest, hs, ha]
      rfl
    rw [hbuild]
    exact allocate_error ha
  | ok parts =>
    have hsorted : ((sortedSeeds dataset).map CatalogSeed.seedId).Nodup :=
      (sortedSeeds_perm.map CatalogSeed.seedId).nodup_iff.mpr hnodup
    obtain ⟨calibration, frozen, heldOut, candidate, rfl, hallocated⟩ := allocate_eq_ok hsorted ha
    have hall := hallocated.of_perm sortedSeeds_perm
    obtain ⟨manifest, hbuild, hpartitions⟩ := build_eq_ok sha256 hs hk ha hall.parts
    rw [hbuild]
    refine ⟨scenarios, hs, isSplit_of_allocated hk hall hpartitions, ?_⟩
    intro dataset' hproducts hperm
    have hknown' : dataset'.Known := by
      intro seed hseed
      rw [hproducts]
      exact hknown seed (hperm.mem_iff.mp hseed)
    obtain ⟨scenarios', hs', hkeys'⟩ := scenarios_eq_ok hknown'
    have hk' : Keyed dataset'.seeds scenarios' :=
      ⟨hkeys', (hperm.map CatalogSeed.seedId).nodup_iff.mpr hnodup⟩
    rw [← sortedSeeds_eq hnodup hperm] at ha
    obtain ⟨manifest', hbuild', hpartitions'⟩ :=
      build_eq_ok sha256 hs' hk' ha (hall.of_perm hperm.symm).parts
    refine ⟨manifest', hbuild', ?_⟩
    rw [hpartitions, hpartitions']
    rfl

/-- Five products of one name. -/
def demoProducts : List (String × ProductRecord) :=
  ["P0001", "P0002", "P0003", "P0004", "P0005"].map fun id => (id, ⟨id, "杯子", "保温杯", "20", []⟩)

def demoSeed (seedId : String) (answerMode : AnswerMode) : CatalogSeed where
  seedId := seedId
  question := "选哪个"
  userProfile := "unknown"
  candidateProductIds := demoProducts.map Prod.fst
  candidates := []
  goldProductIds := if answerMode = .selectProduct then ["P0001"] else []
  answerMode := answerMode
  requiredConstraints := []
  requiredEvidence := []
  mustWarn := []
  mustNot := []
  failureType := "unknown"
  trapFamily := "unknown"
  five := rfl

/-- Five seeds in no order, one of them without a gold product. -/
def demoDataset : CatalogDataset :=
  ⟨demoProducts, [demoSeed "q4" .selectProduct, demoSeed "q2" .noneOfCandidates,
    demoSeed "q3" .selectProduct, demoSeed "q1" .selectProduct, demoSeed "q5" .selectProduct]⟩

theorem catalog_split_demo : ∃ manifest scenarios,
    buildCatalogSplitManifest id demoDataset 1 1 1 = .ok manifest ∧
      IsSplit demoDataset scenarios 1 1 1 manifest := by
  have hknown : demoDataset.Known := by
    unfold CatalogDataset.Known
    decide
  have hnodup : (demoDataset.seeds.map CatalogSeed.seedId).Nodup := by decide +kernel
  have hsplit := catalog_split id demoDataset 1 1 1 hnodup hknown
  have hok : (buildCatalogSplitManifest id demoDataset 1 1 1).isOk = true := by decide +kernel
  cases hbuild : buildCatalogSplitManifest id demoDataset 1 1 1 with
  | error e =>
    rw [hbuild] at hok
    exact nomatch hok
  | ok manifest =>
    rw [hbuild] at hsplit
    obtain ⟨scenarios, _, h, _⟩ := hsplit
    exact ⟨manifest, scenarios, rfl, h⟩

end Results

end CommerceAgent.Catalog
