import CommerceAgent.RedactionBoundaries
import CommerceAgent.SyntheticSplits
import Mathlib.Data.List.DropRight
import Mathlib.Data.Nat.ModEq

/-! When the prompts of the generated candidates are pairwise distinct: three cyclic indices come back
together after their common period. -/
namespace CommerceAgent.Synthesis

open Json Harness Texts

/-- The text that a candidate is compared by. -/
def SyntheticCaseCandidate.text (candidate : SyntheticCaseCandidate) : String :=
  "\n".intercalate (candidate.messages.map EvalMessage.content)

section Duplicates

variable (isWord isDecimal : Char → Bool) (fold : String → String) (ratio : String → String → ℚ)

/-- `换一种说法\d+$` at the end of a text, without it. -/
def dropGeneratorSuffix (text : List Char) : List Char :=
  let rest := text.rdropWhile isDecimal
  if rest.length < text.length ∧ "换一种说法".toList <:+ rest then
    rest.take (rest.length - "换一种说法".length)
  else text

/-- `normalized_prompt`; `fold` is the case folding and the normal form. -/
def normalizedPrompt (candidate : SyntheticCaseCandidate) : String :=
  String.ofList (dropGeneratorSuffix isDecimal
    ((fold candidate.text).toList.filter fun c => isWord c && c != '_' && !isSpace c))

/-- The exact check of `reject_near_duplicates`: the keys that were met before, with their cases. -/
def rejectExact : List (String × String) → List (String × String) → Except String Unit
  | _, [] => .ok ()
  | keys, (caseId, key) :: rest =>
    if key = "" then .error "synthetic prompt is empty after normalization"
    else match keys.lookup key with
      | some previous => .error ("near-duplicate synthetic prompts: " ++ previous ++ "," ++ caseId)
      | none => rejectExact ((key, caseId) :: keys) rest

/-- The pairwise check of `reject_near_duplicates`. -/
def rejectSimilar (threshold : ℚ) : List (String × String) → Except String Unit
  | [] => .ok ()
  | (caseId, value) :: rest =>
    match rest.find? fun other => threshold ≤ ratio value other.2 with
    | some other => .error ("near-duplicate synthetic prompts: " ++ caseId ++ "," ++ other.1)
    | none => rejectSimilar threshold rest

def rejectNearDuplicates (candidates : List SyntheticCaseCandidate) (threshold : ℚ) :
    Except String Unit :=
  if ¬(0 < threshold ∧ threshold ≤ 1) then .error "duplicate threshold must be between 0 and 1"
  else do
    let materialized := candidates.map fun candidate =>
      (candidate.id, normalizedPrompt isWord isDecimal fold candidate)
    rejectExact [] materialized
    rejectSimilar ratio threshold materialized

variable {isWord isDecimal fold ratio}

/-- Only distinct keys pass the exact check. -/
theorem nodup_of_rejectExact {keys items : List (String × String)}
    (h : rejectExact keys items = .ok ()) :
    (items.map Prod.snd).Nodup ∧ ∀ item ∈ items, keys.lookup item.2 = none := by
  induction items generalizing keys with
  | nil => exact ⟨List.nodup_nil, fun _ h => absurd h List.not_mem_nil⟩
  | cons item items ih =>
    obtain ⟨caseId, key⟩ := item
    rw [rejectExact] at h
    split_ifs at h
    cases hlookup : keys.lookup key with
    | some previous =>
      rw [hlookup] at h
      exact nomatch h
    | none =>
      rw [hlookup] at h
      obtain ⟨hnodup, hnone⟩ := ih h
      have hapart : ∀ item ∈ items, item.2 ≠ key ∧ keys.lookup item.2 = none := by
        intro item hitem
        have hnot := hnone item hitem
        rw [List.lookup_cons] at hnot
        by_cases hkey : item.2 = key
        · simp [hkey] at hnot
        · rw [beq_eq_false_iff_ne.mpr hkey] at hnot
          exact ⟨hkey, hnot⟩
      refine ⟨List.nodup_cons.mpr ⟨fun hmem => ?_, hnodup⟩, List.forall_mem_cons.mpr ⟨hlookup, ?_⟩⟩
      · obtain ⟨item, hitem, heq⟩ := List.mem_map.mp hmem
        exact (hapart item hitem).1 heq
      · exact fun item hitem => (hapart item hitem).2

/-- Two equal prompts are rejected. -/
theorem nodup_of_rejectNearDuplicates {candidates : List SyntheticCaseCandidate} {threshold : ℚ}
    (h : rejectNearDuplicates isWord isDecimal fold ratio candidates threshold = .ok ()) :
    (candidates.map SyntheticCaseCandidate.text).Nodup := by
  unfold rejectNearDuplicates at h
  split_ifs at h
  obtain ⟨_, hexact, _⟩ := Except.bind_eq_ok.mp h
  have hkeys := (nodup_of_rejectExact hexact).1
  rw [List.map_map] at hkeys
  have htext : (Prod.snd ∘ fun candidate : SyntheticCaseCandidate =>
      (candidate.id, normalizedPrompt isWord isDecimal fold candidate)) =
      (fun text => String.ofList (dropGeneratorSuffix isDecimal
        ((fold text).toList.filter fun c => isWord c && c != '_' && !isSpace c))) ∘
        SyntheticCaseCandidate.text := rfl
  rw [htext, ← List.map_map] at hkeys
  exact hkeys.of_map _

end Duplicates

section Prompts

variable {templates : Templates} {count : ℕ}

/-- The prompt of the candidate of an index. -/
def Templates.prompt (templates : Templates) (index : ℕ) : String :=
  variant (templates.basePrompt index) index templates.prompts.length

/-- Base prompts that a dressed prompt shows: none begins with another, and none ends with the full
stop of a dressed one. -/
structure Templates.Apart (templates : Templates) : Prop where
  positive : 0 < templates.prompts.length
  bare : ∀ p ∈ templates.prompts, p.toList.getLast? ≠ some '。'
  prefixFree : ∀ p ∈ templates.prompts, ∀ q ∈ templates.prompts, p.toList <+: q.toList → p = q

/-- The number of variants before they start again. -/
def Templates.period (templates : Templates) : ℕ :=
  Nat.lcm templates.prompts.length (Nat.lcm LEADS.length QUALIFIERS.length)

theorem Templates.basePrompt_mem (hpos : 0 < templates.prompts.length) (index : ℕ) :
    templates.basePrompt index ∈ templates.prompts := by
  rw [Templates.basePrompt, List.getD_eq_getElem _ _ (Nat.mod_lt _ hpos)]
  exact List.getElem_mem _

theorem lead_length (k : ℕ) : (LEADS.getD (k % LEADS.length) "").toList.length = 3 := by
  have hall : ∀ i < 4, (LEADS.getD i "").toList.length = 3 := by decide +kernel
  exact hall _ (Nat.mod_lt k (by decide))

theorem getD_mod_inj {l : List String} (hpos : 0 < l.length) (hnodup : l.Nodup) {i j : ℕ}
    (h : l.getD (i % l.length) "" = l.getD (j % l.length) "") : i ≡ j [MOD l.length] := by
  have hi := Nat.mod_lt i hpos
  have hj := Nat.mod_lt j hpos
  rw [List.getD_eq_getElem _ _ hi, List.getD_eq_getElem _ _ hj] at h
  exact hnodup.getElem_inj_iff.mp h

/-- A dressed prompt shows its lead, its base prompt and its qualifier. -/
theorem dressed_inj (h : templates.Apart) {i j : ℕ} (hi : templates.prompts.length ≤ i)
    (hj : templates.prompts.length ≤ j) (heq : templates.prompt i = templates.prompt j) :
    i ≡ j [MOD templates.period] := by
  obtain ⟨a, rfl⟩ := Nat.exists_eq_add_of_le hi
  obtain ⟨b, rfl⟩ := Nat.exists_eq_add_of_le hj
  have hchars := congrArg String.toList heq
  simp only [Templates.prompt, variant, if_neg (not_lt.mpr hi), if_neg (not_lt.mpr hj),
    Nat.add_sub_cancel_left, String.toList_append, List.append_assoc] at hchars
  obtain ⟨hlead, hrest⟩ := List.append_inj hchars ((lead_length a).trans (lead_length b).symm)
  -- Of the two base prompts one begins the other, so they are one.
  have hbase : templates.basePrompt (templates.prompts.length + a) =
      templates.basePrompt (templates.prompts.length + b) := by
    have hmem := Templates.basePrompt_mem h.positive
    rcases List.prefix_or_prefix_of_prefix (List.prefix_append _ _)
      (hrest ▸ List.prefix_append (templates.basePrompt (templates.prompts.length + b)).toList _)
      with hstem | hstem
    · exact h.prefixFree _ (hmem _) _ (hmem _) hstem
    · exact (h.prefixFree _ (hmem _) _ (hmem _) hstem).symm
  rw [hbase] at hrest
  have hqualifier := List.append_cancel_right (List.append_cancel_left (List.append_cancel_left hrest))
  have hprompts := (templates.basePrompt_eq_iff h.positive).mp hbase
  have hleads := getD_mod_inj (by decide) (by decide) (String.toList_inj.mp hlead)
  have hqualifiers := getD_mod_inj (by decide) (by decide) (String.toList_inj.mp hqualifier)
  refine Nat.mod_lcm hprompts (Nat.mod_lcm ?_ ?_)
  · exact Nat.ModEq.add_left _ hleads
  · exact Nat.ModEq.add_left _ hqualifiers

/-- The prompts differ up to the end of the first period. -/
theorem prompt_ne (h : templates.Apart) {i j : ℕ} (hij : i < j)
    (hlt : j < templates.prompts.length + templates.period) :
    templates.prompt i ≠ templates.prompt j := by
  intro heq
  by_cases hi : templates.prompts.length ≤ i
  · have hdvd := (Nat.modEq_iff_dvd' hij.le).mp (dressed_inj h hi (hi.trans hij.le) heq)
    have hle := Nat.le_of_dvd (by omega) hdvd
    omega
  · rw [not_le] at hi
    have hfirst : templates.prompt i = templates.basePrompt i := by rw [Templates.prompt, variant, if_pos hi]
    by_cases hj : j < templates.prompts.length
    · have hsecond : templates.prompt j = templates.basePrompt j := by
        rw [Templates.prompt, variant, if_pos hj]
      rw [hfirst, hsecond, templates.basePrompt_eq_iff h.positive, Nat.mod_eq_of_lt hi,
        Nat.mod_eq_of_lt hj] at heq
      omega
    · -- A dressed prompt ends with a full stop.
      have hlast : (templates.prompt j).toList.getLast? = some '。' := by
        rw [Templates.prompt, variant, if_neg hj]
        dsimp only
        rw [String.toList_append]
        exact List.getLast?_concat
      rw [← heq, hfirst] at hlast
      exact h.bare _ (Templates.basePrompt_mem h.positive i) hlast

/-- After a period the first dressed prompt comes again. -/
theorem prompt_period : templates.prompt templates.prompts.length =
    templates.prompt (templates.prompts.length + templates.period) := by
  have hprompts : templates.prompts.length ∣ templates.period := Nat.dvd_lcm_left _ _
  have hleads : LEADS.length ∣ templates.period := (Nat.dvd_lcm_left _ _).trans (Nat.dvd_lcm_right _ _)
  have hqualifiers : QUALIFIERS.length ∣ templates.period :=
    (Nat.dvd_lcm_right _ _).trans (Nat.dvd_lcm_right _ _)
  have hbase : templates.basePrompt (templates.prompts.length + templates.period) =
      templates.basePrompt templates.prompts.length := by
    rw [Templates.basePrompt, Templates.basePrompt, Nat.add_mod, Nat.mod_eq_zero_of_dvd hprompts,
      Nat.add_zero, Nat.mod_mod]
  rw [Templates.prompt, Templates.prompt, hbase, variant, variant, if_neg (lt_irrefl _),
    if_neg (Nat.not_lt.mpr (Nat.le_add_right _ _)), Nat.sub_self, Nat.add_sub_cancel_left]
  dsimp only
  rw [Nat.mod_eq_zero_of_dvd hleads, Nat.mod_eq_zero_of_dvd hqualifiers, Nat.zero_mod, Nat.zero_mod]

theorem prompts_nodup_iff (h : templates.Apart) :
    ((List.range count).map templates.prompt).Nodup ↔
      count ≤ templates.prompts.length + templates.period := by
  have hperiod : 0 < templates.period := Nat.lcm_pos h.positive (by decide)
  constructor
  · intro hnodup
    by_contra hmore
    have hsame := (List.nodup_map_iff_inj_on List.nodup_range).mp hnodup _
      (List.mem_range.mpr (by omega)) _ (List.mem_range.mpr (not_le.mp hmore)) prompt_period
    omega
  · intro hle
    refine (List.nodup_map_iff_inj_on List.nodup_range).mpr fun i hi j hj heq => ?_
    rw [List.mem_range] at hi hj
    rcases lt_trichotomy i j with hij | hij | hij
    · exact absurd heq (prompt_ne h hij (by omega))
    · exact hij
    · exact absurd heq.symm (prompt_ne h hij (by omega))

variable {π : Platform} {seed : String} {candidates : List SyntheticCaseCandidate}

theorem candidate_text {index : ℕ} {prompt : String} {c : SyntheticCaseCandidate}
    (h : candidate π templates seed index prompt = .ok c) : c.text = prompt := by
  unfold candidate at h
  rw [SyntheticCaseCandidate.validate_eq_ok h]
  rfl

theorem generate_texts (h : templates.generate π seed count = .ok candidates) :
    candidates.map SyntheticCaseCandidate.text = (List.range count).map templates.prompt := by
  have hall := mapM_eq_ok h
  generalize List.range count = indices at hall
  clear h
  induction hall with
  | nil => rfl
  | cons hc _ ih => rw [List.map_cons, List.map_cons, candidate_text hc, ih]; rfl

instance LONG_TAIL_apart : Fact LONG_TAIL.Apart := ⟨{
  positive := by decide
  bare := by decide +kernel
  prefixFree := by decide +kernel }⟩

instance SAFETY_apart : Fact SAFETY.Apart := ⟨{
  positive := by decide
  bare := by decide +kernel
  prefixFree := by decide +kernel }⟩

variable (π seed count) in
/-- The generated prompts are distinct exactly up to one period of their variants, 84 of them for the
long tail and 140 for safety. -/
theorem prompts_distinct_iff :
    (∀ candidates, generateLongTail π seed count = .ok candidates →
      ((candidates.map SyntheticCaseCandidate.text).Nodup ↔ count ≤ 90)) ∧
    ∀ candidates, generateSafety π seed count = .ok candidates →
      ((candidates.map SyntheticCaseCandidate.text).Nodup ↔ count ≤ 145) := by
  constructor
  · intro candidates h
    rw [generate_texts h]
    exact prompts_nodup_iff LONG_TAIL_apart.out
  · intro candidates h
    rw [generate_texts h]
    exact prompts_nodup_iff SAFETY_apart.out

end Prompts

section Demo

/-- A character that no pattern for sensitive data begins with. -/
def quiet (c : Char) : Bool := decide (0x2000 ≤ c.toNat)

/-- What stands before and after the content of a single message. -/
def frameStart : List Char :=
  ['[', '\x7b', '\x22', 'r', 'o', 'l', 'e', '\x22', ':', ' ', '\x22', 'u', 's', 'e', 'r', '\x22', ',',
    ' ', '\x22', 'c', 'o', 'n', 't', 'e', 'n', 't', '\x22', ':', ' ', '\x22']

def frameEnd : List Char := ['\x22', '\x7d', ']']

theorem escapeChar_of_quiet {c : Char} (h : quiet c = true) : escapeChar c = [c] := by
  have hbig : 0x2000 ≤ c.toNat := of_decide_eq_true h
  unfold escapeChar
  split <;> first | (exact absurd hbig (by decide)) | rw [if_neg (by omega)]

theorem serialized_quiet {prompt : String} (h : prompt.toList.all quiet = true) :
    serializedMessages [⟨"user", prompt⟩] = frameStart ++ (prompt.toList ++ frameEnd) := by
  have hflat : prompt.toList.flatMap escapeChar = prompt.toList := by
    have hall := List.all_eq_true.mp h
    generalize prompt.toList = l at hall
    induction l with
    | nil => rfl
    | cons c l ih =>
      obtain ⟨hc, hl⟩ := List.forall_mem_cons.mp hall
      rw [List.flatMap_cons, escapeChar_of_quiet hc, ih hl]
      rfl
  have hframe : serializedMessages [⟨"user", prompt⟩] =
      frameStart ++ (prompt.toList.flatMap escapeChar ++ frameEnd) := by
    simp [serializedMessages, encodeStr, frameStart, frameEnd, escapeChar]
  rw [hframe, hflat]

/-- In the frame no secret is named, whatever stands in it. -/
theorem secret_frame (tail : List Char) :
    Patterns.searchFrom SECRET_KEY none (frameStart ++ tail) =
      Patterns.searchFrom SECRET_KEY (some '\x22') tail := rfl

theorem secret_of_quiet {before : Option Char} {c : Char} {l : List Char} (h : quiet c = true) :
    SECRET_KEY ⟨before, c :: l⟩ = [] := by
  have hbig : 0x2000 ≤ c.toNat := of_decide_eq_true h
  have hletter : ∀ d ∈ ['a', 'p', 's'], Patterns.one (Patterns.ignoreCase d) ⟨before, c :: l⟩ = [] := by
    intro d hd
    have hfold : Patterns.fold c ≠ d := by
      have hletters : (['a', 'p', 's'].all fun d =>
          decide (d.toNat < 0x2000 ∧ 'k' ≠ d ∧ 'i' ≠ d)) = true := by decide
      obtain ⟨hd', hk, hi⟩ := of_decide_eq_true (List.all_eq_true.mp hletters d hd)
      have hlower : c.toLower = c := by
        have hnot : ¬(c.val ≥ 'A'.val ∧ c.val ≤ 'Z'.val) := fun ⟨_, hle⟩ => by
          have hsmall : c.toNat ≤ 90 := hle
          omega
        rw [Char.toLower, dif_neg hnot]
      unfold Patterns.fold
      split_ifs with h1 h2 h3
      · rw [h1] at hbig
        exact absurd hbig (by decide)
      · exact hk
      · exact hi
      · rw [hlower]
        rintro rfl
        omega
    rw [Patterns.one, if_neg (by simpa [Patterns.ignoreCase] using hfold)]
  simp only [List.forall_mem_cons] at hletter
  obtain ⟨ha, hp, hs, _⟩ := hletter
  simp [SECRET_KEY, Patterns.all, Patterns.anyOf, Patterns.literal, ha, hp, hs]

theorem secret_quiet {l : List Char} (before : Option Char) (h : l.all quiet = true) :
    Patterns.searchFrom SECRET_KEY before (l ++ frameEnd) = false := by
  have hall := List.all_eq_true.mp h
  clear h
  induction l generalizing before with
  | nil => rfl
  | cons c l ih =>
    obtain ⟨hc, hl⟩ := List.forall_mem_cons.mp hall
    rw [List.cons_append, Patterns.searchFrom, secret_of_quiet hc]
    exact ih _ hl

theorem containsSensitive_quiet {prompt : String} (h : prompt.toList.all quiet = true) :
    containsSensitive demoPlatform (serializedMessages [⟨"user", prompt⟩]) = false := by
  have habsent : ∀ P : Char → Bool, (∀ c, P c = true → c.toNat < 0x2000) →
      ((frameStart ++ frameEnd).all fun c => !P c) = true →
      ∀ c ∈ serializedMessages [⟨"user", prompt⟩], P c = false := by
    intro P hP hall c hc
    have hframe : ∀ c ∈ frameStart ++ frameEnd, P c = false := by
      intro d hd
      have hquiet := List.all_eq_true.mp hall d hd
      rwa [Bool.not_eq_true'] at hquiet
    rw [serialized_quiet h, List.mem_append, List.mem_append] at hc
    rcases hc with hc | hc | hc
    · exact hframe c (List.mem_append_left _ hc)
    · have hbig : 0x2000 ≤ c.toNat := of_decide_eq_true (List.all_eq_true.mp h c hc)
      rw [Bool.eq_false_iff]
      exact fun htrue => absurd (hP c htrue) (by omega)
    · exact hframe c (List.mem_append_right _ hc)
  -- Each pattern needs a character that neither the frame nor the prompt has.
  have hphone : Patterns.searchFrom (PHONE demoPlatform) none
      (serializedMessages [⟨"user", prompt⟩]) = false :=
    Patterns.searchFrom_of_absent (finds_phone demoPlatform)
    (habsent _ (fun c hc => by obtain rfl := beq_iff_eq.mp hc; decide) (by decide))
  have hemail : Patterns.searchFrom (EMAIL demoPlatform) none
      (serializedMessages [⟨"user", prompt⟩]) = false :=
    Patterns.searchFrom_of_absent (finds_email demoPlatform)
    (habsent _ (fun c hc => by obtain rfl := beq_iff_eq.mp hc; decide) (by decide))
  have hcard : Patterns.searchFrom (CARD demoPlatform) none
      (serializedMessages [⟨"user", prompt⟩]) = false :=
    Patterns.searchFrom_of_absent (finds_card demoPlatform)
    (habsent _ (fun c hc => by
      have hdigit := Char.isDigit_iff_toNat.mp hc
      have hnine : '9'.toNat = 57 := rfl
      omega) (by decide))
  -- The names of secrets are letters: the frame has them too, but no name in a row.
  have hsecret : Patterns.searchFrom SECRET_KEY none (serializedMessages [⟨"user", prompt⟩]) = false := by
    rw [serialized_quiet h, secret_frame]
    exact secret_quiet _ h
  simp [containsSensitive, hphone, hemail, hcard, hsecret]

/-- The pieces of the long-tail prompts: quiet, and short. -/
instance pieces_quiet : Fact (((LONG_TAIL.prompts ++ LEADS ++ QUALIFIERS).all fun s =>
    s.toList.all quiet && decide (s.toList.length ≤ 40)) = true ∧
    (LONG_TAIL.prompts.all fun s => decide (1 ≤ s.toList.length)) = true) :=
  ⟨by decide +kernel⟩

/-- The other texts that the validation reads. -/
instance texts_valid : Fact ((removeSuffix (removeSuffix LONG_TAIL.taskType "_v1") "_v2" ++ "_" =
      "long_tail_response_" ∧ "long_tail_response_".toList = 'l' :: "ong_tail_response_".toList) ∧
    (("ong_tail_response_".toList.all fun c => c.isLower || c.isDigit || c == '_') = true ∧
      "ong_tail_response_".toList.length = 18) ∧
    (["low_risk_social", "greeting", "thanks", "capability", "mixed_social_capability"].all
      fun s => decide (1 ≤ s.length ∧ s.length ≤ 128)) = true ∧
    LONG_TAIL.taskType ≠ "safety_response_v2" ∧ LONG_TAIL.riskLevel ≠ "high") :=
  ⟨by decide +kernel⟩

/-- The case ids of the first candidates. -/
instance ids_match : Fact (∀ i < 91, ((fourDigits (i + 1)).toList.all Char.isDigit &&
    decide ((fourDigits (i + 1)).toList.length = 4)) = true) :=
  ⟨by decide +kernel⟩

theorem piece_quiet {s : String} (h : s = "" ∨ s ∈ LONG_TAIL.prompts ++ LEADS ++ QUALIFIERS) :
    s.toList.all quiet = true ∧ s.toList.length ≤ 40 := by
  rcases h with rfl | h
  · decide
  · have hboth := List.all_eq_true.mp pieces_quiet.out.1 s h
    rw [Bool.and_eq_true, decide_eq_true_eq] at hboth
    exact hboth

theorem getD_piece {l : List String} (h : l ⊆ LONG_TAIL.prompts ++ LEADS ++ QUALIFIERS) (k : ℕ) :
    l.getD k "" = "" ∨ l.getD k "" ∈ LONG_TAIL.prompts ++ LEADS ++ QUALIFIERS := by
  by_cases hk : k < l.length
  · rw [List.getD_eq_getElem _ _ hk]
    exact Or.inr (h (List.getElem_mem hk))
  · exact Or.inl (List.getD_eq_default _ _ (not_lt.mp hk))

theorem prompt_quiet (index : ℕ) : (LONG_TAIL.prompt index).toList.all quiet = true ∧
    1 ≤ (LONG_TAIL.prompt index).toList.length ∧ (LONG_TAIL.prompt index).toList.length ≤ 200 := by
  have hmem := Templates.basePrompt_mem LONG_TAIL_apart.out.positive index
  have hbase := piece_quiet (s := LONG_TAIL.basePrompt index)
    (Or.inr (List.mem_append_left _ (List.mem_append_left _ hmem)))
  have hone : 1 ≤ (LONG_TAIL.basePrompt index).toList.length :=
    of_decide_eq_true (List.all_eq_true.mp pieces_quiet.out.2 _ hmem)
  unfold Templates.prompt variant
  split_ifs
  · exact ⟨hbase.1, hone, hbase.2.trans (by decide)⟩
  · have hlead := piece_quiet (getD_piece (l := LEADS) (fun s hs =>
      List.mem_append_left _ (List.mem_append_right _ hs))
      ((index - LONG_TAIL.prompts.length) % LEADS.length))
    have hqualifier := piece_quiet (getD_piece (l := QUALIFIERS)
      (fun s hs => List.mem_append_right _ hs)
      ((index - LONG_TAIL.prompts.length) % QUALIFIERS.length))
    dsimp only
    simp only [String.toList_append, List.all_append, List.length_append, hlead.1, hbase.1,
      hqualifier.1]
    have hcomma : "，".toList.length = 1 := rfl
    have hstop : "。".toList.length = 1 := rfl
    refine ⟨by decide, by omega, ?_⟩
    omega

/-- The validation accepts the first 91 candidates of the long tail. -/
theorem candidate_accepted {index : ℕ} (h : index < 91) :
    ∃ c, candidate demoPlatform LONG_TAIL "seed" index (LONG_TAIL.prompt index) = .ok c := by
  obtain ⟨hquiet, hone, hshort⟩ := prompt_quiet index
  obtain ⟨hdigits, hfour⟩ := Bool.and_eq_true_iff.mp (ids_match.out index h)
  obtain ⟨⟨hstem, hchars⟩, hrest, hfamilies, htask, hrisk⟩ := texts_valid.out
  have hid : matchesCaseId (removeSuffix (removeSuffix LONG_TAIL.taskType "_v1") "_v2" ++ "_" ++
      fourDigits (index + 1)) = true := by
    have hall : ((fourDigits (index + 1)).toList.all fun c => c.isLower || c.isDigit || c == '_') =
        true := by
      rw [List.all_eq_true] at hdigits ⊢
      exact fun c hc => by simp [hdigits c hc]
    have hlength := of_decide_eq_true hfour
    rw [hstem, matchesCaseId, String.toList_append, hchars, List.cons_append]
    simp only [List.all_append, hrest.1, hall, List.length_append, hrest.2, hlength]
    decide
  have hmessage : (EvalMessage.validate ⟨"user", LONG_TAIL.prompt index⟩).toOption.isNone = false := by
    rw [String.length_toList] at hone hshort
    rw [EvalMessage.validate, if_neg (by dsimp only; decide), if_neg (by dsimp only; omega)]
    rfl
  have hfamily : ¬((LONG_TAIL.seedFamily index).length < 1 ∨
      128 < (LONG_TAIL.seedFamily index).length) := by
    have hmem : LONG_TAIL.seedFamily index ∈
        ["low_risk_social", "greeting", "thanks", "capability", "mixed_social_capability"] := by
      simp only [LONG_TAIL]
      split_ifs <;> simp
    have hlength := of_decide_eq_true (List.all_eq_true.mp hfamilies _ hmem)
    omega
  have hsensitive := containsSensitive_quiet hquiet
  have htags : LONG_TAIL.tags.length = 2 := rfl
  unfold candidate SyntheticCaseCandidate.validate
  simp only [hid, hmessage, hsensitive, hfamily, htask, hrisk, htags, List.length_singleton,
    List.any_cons, List.any_nil, Bool.not_true, Bool.or_false, Bool.false_eq_true, if_false,
    false_and, and_false]
  exact ⟨_, rfl⟩

theorem generate_accepted : ∃ candidates, generateLongTail demoPlatform "seed" 91 = .ok candidates := by
  have hall : ∀ l : List ℕ, (∀ i ∈ l, i < 91) → ∃ candidates,
      (l.mapM fun index => candidate demoPlatform LONG_TAIL "seed" index (LONG_TAIL.prompt index)) =
        .ok candidates := by
    intro l hl
    induction l with
    | nil => exact ⟨[], rfl⟩
    | cons i l ih =>
      obtain ⟨c, hc⟩ := candidate_accepted (hl i List.mem_cons_self)
      obtain ⟨rest, hrest⟩ := ih fun j hj => hl j (List.mem_cons_of_mem _ hj)
      refine ⟨c :: rest, ?_⟩
      rw [List.mapM_cons, hc, hrest]
      rfl
  exact hall (List.range 91) fun i hi => List.mem_range.mp hi

/-- One candidate more than a period allows. -/
theorem prompts_distinct_iff_demo : ∃ candidates, generateLongTail demoPlatform "seed" 91 = .ok candidates ∧
    ¬(candidates.map SyntheticCaseCandidate.text).Nodup := by
  obtain ⟨candidates, hok⟩ := generate_accepted
  refine ⟨candidates, hok, fun hnodup => ?_⟩
  have hle : 91 ≤ 90 := ((prompts_distinct_iff 91 demoPlatform "seed").1 candidates hok).mp hnodup
  exact absurd hle (by decide)

/-- The ninety-first candidate has the prompt of the seventh, and the set is rejected for it. -/
theorem equal_prompts_rejected :
    (¬ ∀ (π : Platform) (seed : String) (count : ℕ) (candidates : List SyntheticCaseCandidate),
      generateLongTail π seed count = .ok candidates →
        (candidates.map SyntheticCaseCandidate.text).Nodup) ∧
    ∃ candidates, generateLongTail demoPlatform "seed" 91 = .ok candidates ∧
      ∀ isWord isDecimal fold ratio threshold,
        rejectNearDuplicates isWord isDecimal fold ratio candidates threshold ≠ .ok () := by
  obtain ⟨candidates, hok⟩ := generate_accepted
  have hequal : ¬(candidates.map SyntheticCaseCandidate.text).Nodup := by
    rw [generate_texts hok, prompts_nodup_iff LONG_TAIL_apart.out]
    decide
  exact ⟨fun hclaim => hequal (hclaim _ _ _ _ hok), candidates, hok,
    fun _ _ _ _ _ haccepted => hequal (nodup_of_rejectNearDuplicates haccepted)⟩

end Demo

end CommerceAgent.Synthesis
