import CommerceAgent.PatternPlaces
import CommerceAgent.SlotAccumulation

/-! Where the extractor of `workflows/mutations.py` finds an order id and SKUs. Its patterns know nothing of
one another: what one of them reads may be a part of what the other has read. -/
namespace CommerceAgent

open Json

section Mentions

open Patterns hiding none

/-- A character of an order id behind its prefix. -/
def orderChar (c : Char) : Bool := alnumChar c || c == '-'

/-- A character of a SKU behind its digit. -/
def skuChar (c : Char) : Bool := alnumChar c || c == '/' || c == '-'

variable {a b : Place}

/-- What `_ORDER_PATTERN` reads. -/
structure OrderMention (a : Place) (ord run : List Char) (b : Place) : Prop where
  alone : a.before.any alnumChar = false
  between : Between a (ord ++ run) b
  start : ord.map fold = "ord-".toList
  chars : ∀ c ∈ run, orderChar c = true
  length : 3 ≤ run.length ∧ run.length ≤ 40
  ends : b.rest.head?.any alnumChar = false

/-- What `_SKU_PATTERN` reads. -/
structure SkuMention (a : Place) (letters : List Char) (digit : Char) (tail : List Char) (b : Place) : Prop where
  alone : a.before.any alnumChar = false
  between : Between a (letters ++ digit :: tail) b
  allLetters : ∀ c ∈ letters, letterChar c = true
  lettersLength : 2 ≤ letters.length ∧ letters.length ≤ 8
  isDigit : digitChar digit = true
  chars : ∀ c ∈ tail, skuChar c = true
  tailLength : 2 ≤ tail.length ∧ tail.length ≤ 24
  ends : b.rest.head?.any alnumChar = false

theorem mem_orderPattern : b ∈ orderPattern a ↔ ∃ ord run, OrderMention a ord run b := by
  unfold orderPattern
  simp only [mem_all_cons, mem_all_nil, mem_notBefore, mem_notAfter, mem_literal, mem_times_one]
  constructor
  · rintro ⟨_, ⟨rfl, halone⟩, c, ⟨ord, hord, hstart⟩, d, ⟨run, hrun, hchars, hlo, hhi⟩, _, ⟨rfl, hends⟩, rfl⟩
    exact ⟨ord, run, halone, hord.trans hrun, hstart, hchars, ⟨hlo, hhi⟩, hends⟩
  · rintro ⟨ord, run, h⟩
    obtain ⟨c, hord, hrun⟩ := h.between.split
    exact ⟨a, ⟨rfl, h.alone⟩, c, ⟨ord, hord, h.start⟩, b, ⟨run, hrun, h.chars, h.length.1, h.length.2⟩, b,
      ⟨rfl, h.ends⟩, rfl⟩

theorem mem_skuPattern : b ∈ skuPattern a → ∃ letters digit tail, SkuMention a letters digit tail b := by
  unfold skuPattern
  simp only [mem_all_cons, mem_all_nil, mem_notBefore, mem_notAfter, mem_one, mem_times_one]
  rintro ⟨_, ⟨rfl, halone⟩, c, ⟨letters, hletters, hkind, hlo, hhi⟩, d, ⟨digit, hdigit, hone⟩, e,
    ⟨tail, htail, hchars, hlo', hhi'⟩, _, ⟨rfl, hends⟩, rfl⟩
  exact ⟨letters, digit, tail, halone, hletters.trans (hone.trans htail), hkind, ⟨hlo, hhi⟩, hdigit, hchars,
    ⟨hlo', hhi'⟩, hends⟩

theorem moves_orderPattern : Moves orderPattern := by
  intro a b hb
  obtain ⟨ord, run, h⟩ := mem_orderPattern.mp hb
  exact ⟨_, h.between⟩

theorem moves_skuPattern : Moves skuPattern := by
  intro a b hb
  obtain ⟨letters, digit, tail, h⟩ := mem_skuPattern hb
  exact ⟨_, h.between⟩

/-- Folding moves letters only. -/
theorem fold_eq_or_letter (c : Char) : fold c = c ∨ letterChar c = true := by
  by_cases hspecial : c ∈ ['ſ', 'K', 'İ', 'ı']
  · have hall : ['ſ', 'K', 'İ', 'ı'].all letterChar = true := by decide
    exact .inr (List.all_eq_true.mp hall c hspecial)
  by_cases hupper : 65 ≤ c.toNat ∧ c.toNat ≤ 90
  · right
    rw [← Char.ofNat_toNat c]
    generalize c.toNat = n at hupper
    have hall : ∀ n < 91, 65 ≤ n → letterChar (Char.ofNat n) = true := by decide
    exact hall n (by omega) hupper.1
  · left
    simp only [List.mem_cons, List.not_mem_nil, or_false, not_or] at hspecial
    obtain ⟨hs, hk, hi, hi'⟩ := hspecial
    have hlower : c.toLower = c := dif_neg fun h => hupper ⟨h.1, h.2⟩
    simp [fold, hs, hk, hi, hi', hlower]

/-- Nothing but the hyphen folds to it. -/
theorem fold_eq_hyphen {c : Char} (h : fold c = '-') : c = '-' := by
  rcases fold_eq_or_letter c with hsame | hletter
  · exact hsame.symm.trans h
  · rw [letterChar, h] at hletter
    exact absurd hletter (by decide)

theorem digit_not_letter {c : Char} (h : digitChar c = true) : letterChar c = false := by
  simp only [digitChar, Bool.and_eq_true, decide_eq_true_eq] at h
  have hlo : 48 ≤ c.toNat := h.1
  have hhi : c.toNat ≤ 57 := h.2
  rw [← Char.ofNat_toNat c]
  generalize c.toNat = n at hlo hhi
  have hall : ∀ n < 58, 48 ≤ n → letterChar (Char.ofNat n) = false := by decide
  exact hall n (by omega) hlo

variable {ord run letters tail : List Char} {digit : Char}

/-- A character of a mention. -/
def MentionChar (c : Char) : Prop := alnumChar c = true ∨ c = '-' ∨ c = '/'

theorem OrderMention.mentionChar (h : OrderMention a ord run b) : ∀ c ∈ ord ++ run, MentionChar c := by
  intro c hc
  rcases List.mem_append.mp hc with hc | hc
  · have hfold : fold c ∈ "ord-".toList := h.start ▸ List.mem_map_of_mem hc
    have hletter : "ord-".toList.all (fun d => decide (d = '-' ∨ ('a' ≤ d ∧ d ≤ 'z'))) = true := by
      decide
    rcases of_decide_eq_true (List.all_eq_true.mp hletter _ hfold) with hhyphen | ⟨hlo, hhi⟩
    · exact .inr (.inl (fold_eq_hyphen hhyphen))
    · exact .inl (by simp [alnumChar, letterChar, hlo, hhi])
  · have hchar := h.chars c hc
    simp only [orderChar, Bool.or_eq_true, beq_iff_eq] at hchar
    exact hchar.imp id .inl

theorem SkuMention.mentionChar (h : SkuMention a letters digit tail b) :
    ∀ c ∈ letters ++ digit :: tail, MentionChar c := by
  intro c hc
  rcases List.mem_append.mp hc with hc | hc
  · exact .inl (by simp [alnumChar, h.allLetters c hc])
  rcases List.mem_cons.mp hc with rfl | hc
  · exact .inl (by simp [alnumChar, h.isDigit])
  · have hchar := h.chars c hc
    simp only [skuChar, Bool.or_eq_true, beq_iff_eq] at hchar
    rcases hchar with (halnum | hslash) | hhyphen
    · exact .inl halnum
    · exact .inr (.inr hslash)
    · exact .inr (.inl hhyphen)

/-- The fourth character of a SKU is no hyphen, if its third one is a letter. -/
theorem sku_fourth {rest l : List Char} {c₀ c₁ c₂ : Char} (hletters : ∀ c ∈ letters, letterChar c = true)
    (hlength : 2 ≤ letters.length) (hdigit : digitChar digit = true) (hc : letterChar c₂ = true) :
    letters ++ digit :: rest ≠ c₀ :: c₁ :: c₂ :: '-' :: l := by
  intro heq
  match letters, hlength with
  | [_, _], _ =>
    simp only [List.cons_append, List.nil_append, List.cons.injEq] at heq
    obtain ⟨_, _, rfl, _⟩ := heq
    exact absurd hc (by simp [digit_not_letter hdigit])
  | [_, _, _], _ =>
    simp only [List.cons_append, List.nil_append, List.cons.injEq] at heq
    obtain ⟨_, _, _, rfl, _⟩ := heq
    exact absurd hdigit (by decide)
  | _ :: _ :: _ :: l₃ :: _, _ =>
    simp only [List.cons_append, List.cons.injEq] at heq
    obtain ⟨_, _, _, rfl, _⟩ := heq
    exact absurd (hletters '-' (by simp)) (by decide)

/-- What is read of a prefix that ends with its hyphen. -/
theorem prefix_letters {start : List Char} {d₀ d₁ d₂ : Char} (h : start.map fold = [d₀, d₁, d₂, '-'])
    (hd : 'a' ≤ d₂ ∧ d₂ ≤ 'z') : ∃ c₀ c₁ c₂, start = [c₀, c₁, c₂, '-'] ∧ letterChar c₂ = true := by
  have hlength : start.length = 4 := by simpa using congrArg List.length h
  match start, hlength with
  | [c₀, c₁, c₂, c₃], _ =>
    simp only [List.map_cons, List.map_nil, List.cons.injEq, and_true] at h
    obtain ⟨_, _, hthird, hfourth⟩ := h
    refine ⟨c₀, c₁, c₂, by rw [fold_eq_hyphen hfourth], ?_⟩
    simp [letterChar, hthird, hd.1, hd.2]

/-- No place begins both an order id and a SKU. -/
theorem OrderMention.not_sku {b' : Place} (h : OrderMention a ord run b)
    (h' : SkuMention a letters digit tail b') : False := by
  obtain ⟨c₀, c₁, c₂, rfl, hletter⟩ := prefix_letters h.start (by decide)
  have hsame : letters ++ digit :: (tail ++ b'.rest) = c₀ :: c₁ :: c₂ :: '-' :: (run ++ b.rest) := by
    simpa using h'.between.rest.symm.trans h.between.rest
  exact sku_fourth h'.allLetters h'.lettersLength.1 h'.isDigit hletter hsame

end Mentions

section Spans

open Patterns hiding none

/-- Where `_ORDER_PATTERN.search` finds an order id. -/
def orderSpan (text : String) : Option Span := (found? orderPattern text).map (spanIn text)

/-- Where `_SKU_PATTERN.findall` finds SKUs. -/
def skuSpans (text : String) : List Span := (found skuPattern text).map (spanIn text)

def itemSpan (mutationType text : String) : Option Span :=
  if mutationType ∈ ["request_refund", "return_product", "exchange_product"] then (skuSpans text).head? else none

def replacementSpan (mutationType text : String) : Option Span :=
  if mutationType = "exchange_product" then (skuSpans text).getLast? else none

/-- The slots that the extractor reads out of a text, each with where it is read. -/
def slotSpans (mutationType text : String) : List (String × Span) :=
  (orderSpan text).toList.map (fun span => ("order_id", span)) ++
    ((itemSpan mutationType text).toList.map fun span => ("item_id", span)) ++
    ((replacementSpan mutationType text).toList.map fun span => ("replacement_sku", span))

/-- The extracted slots are found in spans of the text that have nothing in common. -/
structure SlotsDisjoint (mutationType text : String) : Prop where
  read : ∀ slot ∈ slotSpans mutationType text,
    (extractArguments mutationType text).get? slot.1 = some (.str (spanText text slot.2))
  apart : ((slotSpans mutationType text).map Prod.snd).Pairwise Span.Apart

/-- `inner` is read right behind a hyphen or a slash that belongs to `outer`. -/
def Behind (text : String) (outer inner : Span) : Prop :=
  ∃ i c, outer.start ≤ i ∧ i + 1 = inner.start ∧ inner.start < outer.stop ∧ text.toList[i]? = some c ∧
    (c = '-' ∨ c = '/')

/-- A span that stands alone, made of the characters of a mention. -/
structure Shaped (text : String) (span : Span) : Prop where
  nonempty : span.start < span.stop
  chars : ∀ i, span.start ≤ i → i < span.stop → ∃ c, text.toList[i]? = some c ∧ MentionChar c
  alone : ∀ i c, i + 1 = span.start → text.toList[i]? = some c → alnumChar c = false

variable {text mutationType : String} {s t order sku : Span} {a b : Place}

theorem shaped_spanIn {skipped matched : List Char} (ha : Between ⟨none, text.toList⟩ skipped a)
    (hmatched : Between a matched b) (hnonempty : matched ≠ []) (halone : a.before.any alnumChar = false)
    (hchars : ∀ c ∈ matched, MentionChar c) : Shaped text (spanIn text (matched, b)) := by
  have htext : text.toList = skipped ++ (matched ++ b.rest) := by
    rw [← hmatched.rest]
    exact ha.rest
  have hpos := List.length_pos_iff.mpr hnonempty
  rw [spanIn_eq ha hmatched]
  refine ⟨by dsimp only; omega, fun i hlo hhi => ?_, fun i c hi hc => ?_⟩
  · dsimp only at hlo hhi
    have hindex : i - skipped.length < matched.length := by omega
    refine ⟨matched[i - skipped.length], ?_, hchars _ (List.getElem_mem hindex)⟩
    rw [htext, List.getElem?_append_right hlo, List.getElem?_append_left hindex, List.getElem?_eq_getElem]
  · have hbefore := ha.before_iff.mpr ⟨i, hi, hc⟩
    rw [hbefore] at halone
    simpa using halone

/-- A span that begins inside another one stands behind a hyphen or a slash of it. -/
theorem Shaped.behind (hs : Shaped text s) (ht : Shaped text t) (hlo : s.start < t.start)
    (hhi : t.start < s.stop) : Behind text s t := by
  obtain ⟨c, hc, hkind⟩ := hs.chars (t.start - 1) (by omega) (by omega)
  have halone := ht.alone (t.start - 1) c (by omega) hc
  refine ⟨t.start - 1, c, by omega, by omega, hhi, hc, ?_⟩
  rcases hkind with halnum | hother
  · rw [halone] at halnum
    exact absurd halnum (by simp)
  · exact hother

/-- Two mentions that do not begin together are apart if and only if neither is read out of the other. -/
theorem Shaped.apart_iff (hs : Shaped text s) (ht : Shaped text t) (hne : s.start ≠ t.start) :
    s.Apart t ↔ ¬ Behind text s t ∧ ¬ Behind text t s := by
  have hspos := hs.nonempty
  have htpos := ht.nonempty
  constructor
  · intro hapart
    refine ⟨?_, ?_⟩
    · rintro ⟨i, c, hlo, hi, hhi, _⟩
      unfold Span.Apart at hapart
      omega
    · rintro ⟨i, c, hlo, hi, hhi, _⟩
      unfold Span.Apart at hapart
      omega
  · rintro ⟨hbehind, hbehind'⟩
    by_contra hapart
    unfold Span.Apart at hapart
    rcases Nat.lt_or_gt_of_ne hne with hlt | hlt
    · exact hbehind (hs.behind ht hlt (by omega))
    · exact hbehind' (ht.behind hs hlt (by omega))

/-- The place of an order mention. -/
theorem orderSpan_mention (h : orderSpan text = some order) : ∃ skipped a ord run b,
    Between ⟨none, text.toList⟩ skipped a ∧ OrderMention a ord run b ∧
      order = spanIn text (ord ++ run, b) := by
  obtain ⟨⟨matched, b⟩, hfound, rfl⟩ := Option.map_eq_some_iff.mp h
  obtain ⟨skipped, a, ha, hhead, hmatched, _⟩ :=
    (findFrom_eq_some (a := ⟨none, text.toList⟩) moves_orderPattern).mp hfound
  obtain ⟨ord, run, hmention⟩ := mem_orderPattern.mp (List.mem_of_mem_head? hhead)
  refine ⟨skipped, a, ord, run, b, ha, hmention, ?_⟩
  exact congrArg (fun piece => spanIn text (piece, b)) (hmatched.piece_eq hmention.between)

theorem skuSpans_mention (h : sku ∈ skuSpans text) : ∃ skipped a letters digit tail b,
    Between ⟨none, text.toList⟩ skipped a ∧ SkuMention a letters digit tail b ∧
      sku = spanIn text (letters ++ digit :: tail, b) := by
  obtain ⟨⟨matched, b⟩, hfound, rfl⟩ := List.mem_map.mp h
  obtain ⟨skipped, a, ha, hhead, hmatched⟩ := foundFrom_behind moves_skuPattern hfound
  obtain ⟨letters, digit, tail, hmention⟩ := mem_skuPattern (List.mem_of_mem_head? hhead)
  refine ⟨skipped, a, letters, digit, tail, b, ha, hmention, ?_⟩
  exact congrArg (fun piece => spanIn text (piece, b)) (hmatched.piece_eq hmention.between)

theorem shaped_orderSpan (h : orderSpan text = some order) : Shaped text order := by
  obtain ⟨skipped, a, ord, run, b, ha, hmention, rfl⟩ := orderSpan_mention h
  refine shaped_spanIn ha hmention.between ?_ hmention.alone hmention.mentionChar
  intro hnil
  have hlength := hmention.length
  rw [(List.append_eq_nil_iff.mp hnil).2] at hlength
  exact absurd hlength.1 (by simp)

theorem shaped_skuSpans (h : sku ∈ skuSpans text) : Shaped text sku := by
  obtain ⟨skipped, a, letters, digit, tail, b, ha, hmention, rfl⟩ := skuSpans_mention h
  exact shaped_spanIn ha hmention.between (by simp) hmention.alone hmention.mentionChar

theorem starts_ne (horder : orderSpan text = some order) (hsku : sku ∈ skuSpans text) :
    order.start ≠ sku.start := by
  obtain ⟨skipped, a, ord, run, b, ha, hmention, rfl⟩ := orderSpan_mention horder
  obtain ⟨skipped', a', letters, digit, tail, b', ha', hmention', rfl⟩ := skuSpans_mention hsku
  intro hstart
  rw [spanIn_eq ha hmention.between, spanIn_eq ha' hmention'.between] at hstart
  obtain ⟨_, rfl⟩ := ha.eq_of_length ha' hstart
  exact hmention.not_sku hmention'

theorem find?_orderPattern (text : String) : find? orderPattern text = (orderSpan text).map (spanText text) :=
  find?_spans moves_orderPattern text

theorem findAll_skuPattern (text : String) : findAll skuPattern text = (skuSpans text).map (spanText text) :=
  findAll_spans moves_skuPattern text

theorem slotSpans_read (mutationType text : String) : ∀ slot ∈ slotSpans mutationType text,
    (extractArguments mutationType text).get? slot.1 = some (.str (spanText text slot.2)) := by
  intro slot hslot
  refine (Dict.get?_eq_some_iff (extractArguments_keys mutationType text)).mpr ?_
  unfold extractArguments
  simp only [List.mem_append]
  simp only [slotSpans, List.mem_append, List.mem_map, Option.mem_toList] at hslot
  rcases hslot with (⟨span, hspan, rfl⟩ | ⟨span, hspan, rfl⟩) | ⟨span, hspan, rfl⟩
  · refine .inl (.inl (.inl (.inl ?_)))
    rw [find?_orderPattern, hspan]
    exact List.mem_singleton_self _
  · unfold itemSpan at hspan
    split at hspan
    · rename_i htype
      refine .inl (.inl (.inr ?_))
      rw [if_pos htype, findAll_skuPattern, List.head?_map, hspan]
      exact List.mem_singleton_self _
    · exact absurd hspan (by simp)
  · unfold replacementSpan at hspan
    split at hspan
    · rename_i htype
      refine .inl (.inl (.inl (.inr ?_)))
      rw [if_pos htype, findAll_skuPattern, List.getLast?_map, hspan]
      exact List.mem_singleton_self _
    · exact absurd hspan (by simp)

/-- The first and the last of some spans that follow one another are apart unless they are the same. -/
theorem first_last_apart {spans : List Span} (horder : spans.Pairwise fun x y => x.stop ≤ y.start)
    (hnonempty : ∀ span ∈ spans, span.start < span.stop) (hs : spans.head? = some s)
    (ht : spans.getLast? = some t) : s.Apart t ↔ spans.length ≠ 1 := by
  cases spans with
  | nil => exact absurd hs (by simp)
  | cons first rest =>
    obtain rfl := Option.some.inj hs
    rcases List.eq_nil_or_concat' rest with rfl | ⟨front, last, rfl⟩
    · obtain rfl : first = t := Option.some.inj ht
      have hpos := hnonempty first List.mem_cons_self
      unfold Span.Apart
      simp only [List.length_singleton, ne_eq, not_true_eq_false, iff_false]
      omega
    · rw [← List.cons_append, List.getLast?_concat] at ht
      obtain rfl := Option.some.inj ht
      have hbefore := (List.pairwise_cons.mp horder).1 last (by simp)
      refine ⟨fun _ => by simp, fun _ => .inl hbefore⟩

/-- What keeps the slots of a text apart: an exchange does not mention exactly one SKU, and neither the order
id nor a SKU that the extractor takes stands behind a hyphen or a slash of the other. -/
structure MentionsApart (mutationType text : String) : Prop where
  mentions : mutationType = "exchange_product" → (skuSpans text).length ≠ 1
  separate : ∀ order ∈ orderSpan text,
    ∀ sku ∈ (itemSpan mutationType text).toList ++ (replacementSpan mutationType text).toList,
      ¬ Behind text order sku ∧ ¬ Behind text sku order

theorem itemSpan_mem (h : itemSpan mutationType text = some sku) : sku ∈ skuSpans text := by
  unfold itemSpan at h
  split at h
  · exact List.mem_of_head? h
  · exact absurd h (by simp)

theorem replacementSpan_mem (h : replacementSpan mutationType text = some sku) : sku ∈ skuSpans text := by
  unfold replacementSpan at h
  split at h
  · exact List.mem_of_getLast? h
  · exact absurd h (by simp)

/-- Item and replacement of an exchange. -/
theorem item_replacement_apart (mutationType text : String) :
    (∀ s ∈ itemSpan mutationType text, ∀ t ∈ replacementSpan mutationType text, s.Apart t) ↔
      (mutationType = "exchange_product" → (skuSpans text).length ≠ 1) := by
  have hpairwise : (skuSpans text).Pairwise fun x y => x.stop ≤ y.start := spans_pairwise moves_skuPattern text
  have hnonempty : ∀ span ∈ skuSpans text, span.start < span.stop := fun span h => (shaped_skuSpans h).nonempty
  constructor
  · rintro hapart rfl hone
    obtain ⟨sku, hsku⟩ := List.length_eq_one_iff.mp hone
    have hhead : (skuSpans text).head? = some sku := by rw [hsku]; rfl
    have hlast : (skuSpans text).getLast? = some sku := by rw [hsku]; rfl
    exact (first_last_apart hpairwise hnonempty hhead hlast).mp (hapart sku hhead sku hlast) hone
  · intro hmentions s hs t ht
    have htype : mutationType = "exchange_product" := by
      by_contra hne
      simp [replacementSpan, hne] at ht
    subst htype
    exact (first_last_apart hpairwise hnonempty hs ht).mpr (hmentions rfl)

/-- Whatever the text: the extracted slots are disjoint if and only if their mentions are apart. -/
theorem slots_disjoint_iff (mutationType text : String) :
    SlotsDisjoint mutationType text ↔ MentionsApart mutationType text := by
  have happart : ∀ order ∈ orderSpan text, ∀ sku ∈ skuSpans text,
      (order.Apart sku ↔ ¬ Behind text order sku ∧ ¬ Behind text sku order) := by
    intro order horder sku hsku
    exact (shaped_orderSpan horder).apart_iff (shaped_skuSpans hsku) (starts_ne horder hsku)
  have hsku : ∀ sku ∈ (itemSpan mutationType text).toList ++ (replacementSpan mutationType text).toList,
      sku ∈ skuSpans text := by
    intro sku hmem
    rcases List.mem_append.mp hmem with hmem | hmem
    · exact itemSpan_mem (Option.mem_toList.mp hmem)
    · exact replacementSpan_mem (Option.mem_toList.mp hmem)
  have hone : ∀ o : Option Span, o.toList.Pairwise Span.Apart := by
    intro o
    cases o <;> simp
  have hspans : ((slotSpans mutationType text).map Prod.snd).Pairwise Span.Apart ↔
      (∀ s ∈ itemSpan mutationType text, ∀ t ∈ replacementSpan mutationType text, s.Apart t) ∧
        ∀ order ∈ orderSpan text,
          ∀ sku ∈ (itemSpan mutationType text).toList ++ (replacementSpan mutationType text).toList,
            order.Apart sku := by
    simp only [slotSpans, List.map_append, List.map_map, Function.comp_def, List.map_id', List.append_assoc]
    rw [List.pairwise_append, List.pairwise_append]
    simp only [hone, true_and, Option.mem_toList, Option.mem_def]
  constructor
  · intro h
    obtain ⟨hslots, horder⟩ := hspans.mp h.apart
    refine ⟨(item_replacement_apart _ _).mp hslots, fun order ho sku hmem => ?_⟩
    exact (happart order ho sku (hsku sku hmem)).mp (horder order ho sku hmem)
  · intro h
    refine ⟨slotSpans_read _ _, hspans.mpr ⟨(item_replacement_apart _ _).mpr h.mentions, ?_⟩⟩
    intro order ho sku hmem
    exact (happart order ho sku (hsku sku hmem)).mpr (h.separate order ho sku hmem)

end Spans

section Demo

/-- A part of the order id is taken for the item, and one SKU for both items of an exchange. -/
theorem slots_overlap : ¬ SlotsDisjoint "request_refund" "退款 ORD-AB1234 不想要" ∧
    ¬ SlotsDisjoint "exchange_product" "订单 ORD-DEMO-002 的 BHD308/10 换一个" := by
  refine ⟨fun h => ?_, fun h => ?_⟩
  · exact absurd h.apart (by decide +kernel)
  · exact absurd h.apart (by decide +kernel)

end Demo

end CommerceAgent
