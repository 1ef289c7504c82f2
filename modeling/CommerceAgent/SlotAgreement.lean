import CommerceAgent.LowRisk
import CommerceAgent.SlotSpans

/-! The two extractors of the write routes over one text. The planner's order id stands alone and is three to
forty characters long; the low-risk one begins anywhere. What one calls an item is never one to the other. -/
namespace CommerceAgent

open Json

section Identifiers

open Patterns hiding none

variable {a b : Place} {start : String}

/-- What an identifier of the low-risk routes reads: its prefix and the whole run behind it. -/
structure IdentifierMention (start : String) (a : Place) (head run : List Char) (b : Place) : Prop where
  between : Between a (head ++ run) b
  start : head.map fold = start.toList
  chars : ∀ c ∈ run, identifierChar c = true
  nonempty : run ≠ []

theorem identifierChar_eq (c : Char) : identifierChar c = orderChar c := by
  rcases fold_eq_or_letter c with hsame | hletter
  · simp [identifierChar, orderChar, alnumChar, letterChar, digitChar, hsame]
  · have hboth := hletter
    simp only [letterChar] at hboth
    simp [identifierChar, orderChar, alnumChar, hletter, hboth]

theorem mem_identifierPattern (h : b ∈ identifierPattern start a) :
    ∃ head run, IdentifierMention start a head run b := by
  unfold identifierPattern at h
  simp only [mem_all_cons, mem_all_nil, mem_literal] at h
  obtain ⟨c, ⟨head, hhead, hstart⟩, d, hd, rfl⟩ := h
  obtain ⟨run, hrun, hchars, hlo, _⟩ := mem_times_one.mp hd
  exact ⟨head, run, hhead.trans hrun, hstart, hchars, List.length_pos_iff.mp hlo⟩

/-- All that is read, if the prefix is made of lower case letters and hyphens. -/
theorem IdentifierMention.identifierChar {head run : List Char} (h : IdentifierMention start a head run b)
    (hstart : start.toList.all (fun d => decide (('a' ≤ d ∧ d ≤ 'z') ∨ d = '-')) = true) :
    ∀ c ∈ head ++ run, identifierChar c = true := by
  intro c hc
  rcases List.mem_append.mp hc with hc | hc
  · have hfold : fold c ∈ start.toList := h.start ▸ List.mem_map_of_mem hc
    rcases of_decide_eq_true (List.all_eq_true.mp hstart _ hfold) with ⟨hlo, hhi⟩ | hhyphen
    · simp [CommerceAgent.identifierChar, hlo, hhi]
    · simp [CommerceAgent.identifierChar, hhyphen]
  · exact h.chars c hc

theorem moves_identifierPattern (start : String) : Moves (identifierPattern start) := by
  intro a b hb
  obtain ⟨head, run, h⟩ := mem_identifierPattern hb
  exact ⟨_, h.between⟩

/-- The preferred match takes the whole run. -/
theorem identifierPattern_head {t : List Place} (h : identifierPattern start a = b :: t) :
    ∃ head run, IdentifierMention start a head run b ∧ ∀ d ∈ b.rest.head?, identifierChar d = false := by
  have hmem : b ∈ identifierPattern start a := by
    rw [h]
    exact List.mem_cons_self
  obtain ⟨head, run, hmention⟩ := mem_identifierPattern hmem
  obtain ⟨c, _, t', ht'⟩ := exists_of_flatMap_eq_cons h
  have hrun : atLeast 1 (one identifierChar) c = b :: t' := by
    rw [← ht']
    exact (List.flatMap_singleton' _).symm
  exact ⟨head, run, hmention, (atLeast_one_head hrun).2⟩

/-- Where the planner reads an order id, the low-risk routes read one too. -/
theorem identifier_of_order (h : b ∈ orderPattern a) : identifierPattern "ord-" a ≠ [] := by
  obtain ⟨ord, run, hmention⟩ := mem_orderPattern.mp h
  obtain ⟨c, hord, hrun⟩ := hmention.between.split
  have hmem : b ∈ identifierPattern "ord-" a := by
    unfold identifierPattern
    simp only [mem_all_cons, mem_all_nil, mem_literal]
    refine ⟨_, ⟨ord, hord, hmention.start⟩, b, mem_times_one.mpr ⟨run, hrun, fun c hc => ?_, ?_, ?_⟩, rfl⟩
    · rw [identifierChar_eq]
      exact hmention.chars c hc
    · exact le_trans (by decide) hmention.length.1
    · rw [hrun.rest, List.length_append]
      omega
  exact List.ne_nil_of_mem hmem

/-- Where a run of the right length stands alone, the planner takes the whole of it. -/
theorem orderPattern_head {head run : List Char} (h : IdentifierMention "ord-" a head run b)
    (hend : ∀ d ∈ b.rest.head?, identifierChar d = false) (halone : a.before.any alnumChar = false)
    (hlo : 3 ≤ run.length) (hhi : run.length ≤ 40) : (orderPattern a).head? = some b := by
  obtain ⟨c, hhead, hrun⟩ := h.between.split
  have hchars : ∀ c ∈ run, orderChar c = true := fun c hc => identifierChar_eq c ▸ h.chars c hc
  have hstop : ∀ d ∈ b.rest.head?, orderChar d = false := fun d hd => identifierChar_eq d ▸ hend d hd
  obtain ⟨t, ht⟩ := @times_one_eq orderChar _ _ run 3 37 hrun hchars hstop hlo hhi
  have hbefore : notBefore alnumChar a = [a] := if_neg (by simp [halone])
  have hafter : notAfter alnumChar b = [b] := by
    refine if_neg ?_
    cases hnext : b.rest.head? with
    | none => simp
    | some d =>
      have hd := hstop d hnext
      simp only [orderChar, Bool.or_eq_false_iff] at hd
      simp [hd.1]
  change ((notBefore alnumChar a).flatMap fun a => (literal ignoreCase "ord-" a).flatMap fun c =>
    (times (one orderChar) 3 37 c).flatMap fun d => (notAfter alnumChar d).flatMap Patterns.none).head? = some b
  rw [hbefore, List.flatMap_singleton, literal_eq hhead h.start, List.flatMap_singleton, ht,
    List.flatMap_cons, hafter, List.flatMap_singleton]
  rfl

end Identifiers

section Agreement

open Patterns hiding none

variable (π : Platform)

/-- The same text up to letter case. -/
def SameCase (s t : String) : Prop := s.toList.map fold = t.toList.map fold

/-- Upper case changes the letter case of an identifier and nothing else. -/
def Platform.UppersCase : Prop :=
  ∀ s : String, (∀ c ∈ s.toList, identifierChar c = true) → SameCase (π.upper s) s

/-- Two extractors give the same text up to letter case, or both none. -/
def Agree : Option Value → Option Value → Prop
  | none, none => True
  | some (.str s), some (.str t) => SameCase s t
  | _, _ => False

/-- The order ids of the two extractors. -/
def OrderIdsAgree (mutationType route text : String) (intent : Option String) : Prop :=
  Agree ((extractArguments mutationType text).get? "order_id")
    ((extractLowRiskArguments π route text intent).get? "order_id")

/-- The first `ORD-` run of a text. -/
def firstRun (text : String) : Option Span := (found? (identifierPattern "ord-") text).map (spanIn text)

/-- The first `ORD-` run, if there is one, has three to forty characters behind its prefix, and it stands alone
or the first order id that does is the same. -/
def RunStandsAlone (text : String) : Prop :=
  ∀ run ∈ firstRun text, (7 ≤ run.stop - run.start ∧ run.stop - run.start ≤ 44) ∧
    ((∀ i c, i + 1 = run.start → text.toList[i]? = some c → alnumChar c = false) ∨
      ∃ alone ∈ orderSpan text, SameCase (spanText text alone) (spanText text run))

/-- An order id, and an item id, of the shape that the planner's patterns accept. -/
def OrderShaped (orderId : String) : Prop := ∃ b ∈ orderPattern ⟨none, orderId.toList⟩, b.rest = []

def ItemShaped (itemId : String) : Prop := ∃ b ∈ skuPattern ⟨none, itemId.toList⟩, b.rest = []

/-- What the extractor of a write route gives. -/
def routeArguments (route text : String) (intent : Option String) : Dict :=
  match mutationTypeForRoute route with
  | some mutationType => extractArguments mutationType text
  | none => extractLowRiskArguments π route text intent

/-- Every route that asks for an order and an item gives just these two. -/
def BothReturned (orderId itemId : String) (intent : Option String) : Prop :=
  ∀ route ∈ ["refund", "return", "exchange", "delivery_issue"],
    Agree ((routeArguments π route (orderId ++ " " ++ itemId) intent).get? "order_id") (some (.str orderId)) ∧
      Agree ((routeArguments π route (orderId ++ " " ++ itemId) intent).get? "item_id") (some (.str itemId))

variable {π} {mutationType route text : String} {intent : Option String} {a b : Place}

theorem SameCase.length {s t : String} (h : SameCase s t) : s.toList.length = t.toList.length := by
  simpa [SameCase] using congrArg List.length h

theorem SameCase.trans {s t u : String} (h : SameCase s t) (h' : SameCase t u) : SameCase s u := Eq.trans h h'

theorem SameCase.symm {s t : String} (h : SameCase s t) : SameCase t s := Eq.symm h

theorem get?_orderId (mutationType text : String) :
    (extractArguments mutationType text).get? "order_id" =
      (orderSpan text).map fun span => Value.str (spanText text span) := by
  have hfind := find?_orderPattern text
  cases horder : orderSpan text with
  | some span => exact slotSpans_read mutationType text ("order_id", span) (by simp [slotSpans, horder])
  | none =>
    rw [horder] at hfind
    have hkey : "order_id" ∉ (extractArguments mutationType text).map Prod.fst := by
      unfold extractArguments
      simp only [hfind, Option.map_none, List.nil_append, List.map_append, List.mem_append, not_or]
      refine ⟨⟨⟨?_, ?_⟩, ?_⟩, ?_⟩
      · split
        · cases (findAll skuPattern text).getLast? <;> simp
        · simp
      · split <;> simp
      · split <;> simp
      · split
        · generalize ((addressPart text).map _).filter _ = address
          cases address <;> simp
        · simp
    rw [← Dict.get?_isSome] at hkey
    simpa using hkey

theorem get?_orderId_lowRisk (route text : String) (intent : Option String) :
    (extractLowRiskArguments π route text intent).get? "order_id" =
      (firstRun text).map fun run => Value.str (π.upper (spanText text run)) := by
  have hfind : find? (identifierPattern "ord-") text = (firstRun text).map (spanText text) :=
    find?_spans (moves_identifierPattern _) text
  unfold extractLowRiskArguments
  rw [hfind]
  dsimp only
  split
  · cases firstRun text <;> simp
  split
  · cases firstRun text <;> cases (findAll (identifierPattern "sku-") text).head? <;> simp
  · cases firstRun text <;> simp

/-- The first run of a text, with what stands before it and after it. -/
theorem firstRun_mention {run : Span} (h : firstRun text = some run) : ∃ skipped a head r b,
    Between ⟨none, text.toList⟩ skipped a ∧ IdentifierMention "ord-" a head r b ∧
      (∀ d ∈ b.rest.head?, identifierChar d = false) ∧ run = spanIn text (head ++ r, b) ∧
      ∀ earlier c, Between ⟨none, text.toList⟩ earlier c → earlier.length < skipped.length → orderPattern c = [] := by
  obtain ⟨⟨matched, b⟩, hfound, rfl⟩ := Option.map_eq_some_iff.mp h
  obtain ⟨skipped, a, ha, hhead, hmatched, hearlier⟩ :=
    (findFrom_eq_some (a := ⟨none, text.toList⟩) (moves_identifierPattern _)).mp hfound
  obtain ⟨t, ht⟩ := List.head?_eq_some_iff.mp hhead
  obtain ⟨head, r, hmention, hend⟩ := identifierPattern_head ht
  refine ⟨skipped, a, head, r, b, ha, hmention, hend, ?_, fun earlier c hc hlt => ?_⟩
  · exact congrArg (fun piece => spanIn text (piece, b)) (hmatched.piece_eq hmention.between)
  · by_contra hne
    obtain ⟨d, hd⟩ := List.exists_mem_of_ne_nil _ hne
    exact identifier_of_order hd (hearlier earlier c hc hlt)

/-- Without a run there is no order id. -/
theorem orderSpan_eq_none (h : firstRun text = none) : orderSpan text = none := by
  have hnone := (findFrom_eq_none (a := ⟨none, text.toList⟩)).mp (Option.map_eq_none_iff.mp h)
  refine Option.map_eq_none_iff.mpr ((findFrom_eq_none (a := ⟨none, text.toList⟩)).mpr fun skipped a ha => ?_)
  by_contra hne
  obtain ⟨b, hb⟩ := List.exists_mem_of_ne_nil _ hne
  exact identifier_of_order hb (hnone skipped a ha)

/-- A first run of the right length that stands alone is the planner's order id too. -/
theorem orderSpan_eq_firstRun {run : Span} (h : firstRun text = some run)
    (hlength : 7 ≤ run.stop - run.start ∧ run.stop - run.start ≤ 44)
    (halone : ∀ i c, i + 1 = run.start → text.toList[i]? = some c → alnumChar c = false) :
    orderSpan text = some run := by
  obtain ⟨skipped, a, head, r, b, ha, hmention, hend, rfl, hearlier⟩ := firstRun_mention h
  rw [spanIn_eq ha hmention.between] at hlength halone ⊢
  have hfour : head.length = 4 := by simpa using congrArg List.length hmention.start
  dsimp only at hlength halone
  rw [List.length_append, hfour] at hlength
  have hbefore : a.before.any alnumChar = false := by
    cases hchar : a.before with
    | none => rfl
    | some c =>
      obtain ⟨i, hi, hc⟩ := ha.before_iff.mp hchar
      exact halone i c hi hc
  have hhead := orderPattern_head hmention hend hbefore (by omega) (by omega)
  have hfound : found? orderPattern text = some (head ++ r, b) :=
    (findFrom_eq_some (a := ⟨none, text.toList⟩) moves_orderPattern).mpr
      ⟨skipped, a, ha, hhead, hmention.between, hearlier⟩
  rw [orderSpan, hfound, ← spanIn_eq ha hmention.between]
  rfl

theorem orderSpan_length {order : Span} (h : orderSpan text = some order) :
    7 ≤ (spanText text order).toList.length ∧ (spanText text order).toList.length ≤ 44 := by
  obtain ⟨skipped, a, ord, run, b, ha, hmention, rfl⟩ := orderSpan_mention h
  have hfour : ord.length = 4 := by simpa using congrArg List.length hmention.start
  have hrun := hmention.length
  rw [spanText_spanIn ha hmention.between, String.toList_ofList, List.length_append]
  omega

theorem firstRun_text {run : Span} (h : firstRun text = some run) :
    (spanText text run).toList.length = run.stop - run.start ∧
      ∀ c ∈ (spanText text run).toList, identifierChar c = true := by
  obtain ⟨skipped, a, head, r, b, ha, hmention, _, rfl, _⟩ := firstRun_mention h
  rw [spanText_spanIn ha hmention.between, spanIn_eq ha hmention.between, String.toList_ofList]
  exact ⟨by dsimp only; omega, hmention.identifierChar (by decide)⟩

/-- Whatever the text: the two extractors give the same order id if and only if its first run stands alone. -/
theorem orderIds_agree_iff (hupper : π.UppersCase) (mutationType route text : String) (intent : Option String) :
    OrderIdsAgree π mutationType route text intent ↔ RunStandsAlone text := by
  unfold OrderIdsAgree RunStandsAlone
  rw [get?_orderId, get?_orderId_lowRisk]
  cases hrun : firstRun text with
  | none =>
    rw [orderSpan_eq_none hrun]
    simp [Agree]
  | some run =>
    obtain ⟨hlength, hchars⟩ := firstRun_text hrun
    have hcase : SameCase (π.upper (spanText text run)) (spanText text run) := hupper _ hchars
    simp only [Option.mem_def, Option.some.injEq, forall_eq']
    cases horder : orderSpan text with
    | none =>
      refine iff_of_false (fun h => h) ?_
      rintro ⟨hbounds, halone | ⟨alone, halone, _⟩⟩
      · rw [orderSpan_eq_firstRun hrun hbounds halone] at horder
        exact absurd horder (by simp)
      · exact absurd halone (by simp)
    | some order =>
      constructor
      · intro hagree
        have hsame : SameCase (spanText text order) (spanText text run) := SameCase.trans hagree hcase
        refine ⟨?_, .inr ⟨order, rfl, hsame⟩⟩
        rw [← hlength, ← hsame.length]
        exact orderSpan_length horder
      · rintro ⟨hbounds, halone | ⟨alone, halone, hsame⟩⟩
        · rw [orderSpan_eq_firstRun hrun hbounds halone] at horder
          obtain rfl := Option.some.inj horder
          exact hcase.symm
        · obtain rfl := Option.some.inj halone
          exact hsame.trans hcase.symm

theorem get?_itemId_lowRisk (text : String) (intent : Option String) :
    (extractLowRiskArguments π "delivery_issue" text intent).get? "item_id" =
      (findAll (identifierPattern "sku-") text).head?.map fun sku => Value.str (π.upper sku) := by
  unfold extractLowRiskArguments
  rw [if_neg (by decide), if_pos rfl]
  cases find? (identifierPattern "ord-") text <;>
    cases (findAll (identifierPattern "sku-") text).head? <;> simp

/-- What the delivery route takes for an item is none to the planner. -/
theorem sku_not_itemShaped {found itemId : String} (h : found ∈ findAll (identifierPattern "sku-") text)
    (hitem : ItemShaped itemId) :
    (∀ c ∈ found.toList, identifierChar c = true) ∧ ¬ SameCase found itemId := by
  rw [findAll_eq] at h
  obtain ⟨⟨matched, b⟩, hfound, rfl⟩ := List.mem_map.mp h
  obtain ⟨skipped, a, _, hhead, hmatched⟩ := foundFrom_behind (moves_identifierPattern _) hfound
  obtain ⟨head, run, hmention⟩ := mem_identifierPattern (List.mem_of_mem_head? hhead)
  obtain rfl : matched = head ++ run := hmatched.piece_eq hmention.between
  rw [String.toList_ofList]
  refine ⟨hmention.identifierChar (by decide), fun hsame => ?_⟩
  obtain ⟨b', hb', hrest⟩ := hitem
  obtain ⟨letters, digit, tail, hsku⟩ := mem_skuPattern hb'
  have hid : itemId.toList = letters ++ digit :: tail := by
    have hread : itemId.toList = (letters ++ digit :: tail) ++ b'.rest := hsku.between.rest
    rw [hread, hrest, List.append_nil]
  -- The id would begin with `SKU-`.
  rw [SameCase, String.toList_ofList, List.map_append, hmention.start] at hsame
  obtain ⟨first, rest, hsplit, hfirst, _⟩ := List.map_eq_append_iff.mp hsame.symm
  obtain ⟨c₀, c₁, c₂, rfl, hletter⟩ := prefix_letters hfirst (by decide)
  exact sku_fourth hsku.allLetters hsku.lettersLength.1 hsku.isDigit hletter (hid.symm.trans hsplit)

/-- No item id of the planner's shape comes through the delivery route. -/
theorem not_bothReturned (hupper : π.UppersCase) {orderId itemId : String} (hitem : ItemShaped itemId)
    (intent : Option String) : ¬ BothReturned π orderId itemId intent := by
  intro hboth
  have hdelivery := (hboth "delivery_issue" (by decide)).2
  have hroute : routeArguments π "delivery_issue" (orderId ++ " " ++ itemId) intent =
      extractLowRiskArguments π "delivery_issue" (orderId ++ " " ++ itemId) intent := rfl
  rw [hroute, get?_itemId_lowRisk] at hdelivery
  cases hhead : (findAll (identifierPattern "sku-") (orderId ++ " " ++ itemId)).head? with
  | none =>
    rw [hhead] at hdelivery
    exact hdelivery
  | some found =>
    rw [hhead] at hdelivery
    obtain ⟨hchars, hdifferent⟩ := sku_not_itemShaped (List.mem_of_head? hhead) hitem
    exact hdifferent ((hupper found hchars).symm.trans hdelivery)

/-- The order ids agree if and only if the first run of the text stands alone; the items never do. -/
theorem extractors_agree_iff (π : Platform) (hupper : π.UppersCase) :
    (∀ mutationType route text intent,
      OrderIdsAgree π mutationType route text intent ↔ RunStandsAlone text) ∧
      ∀ orderId itemId intent, OrderShaped orderId → ItemShaped itemId →
        ¬ BothReturned π orderId itemId intent :=
  ⟨orderIds_agree_iff hupper, fun _ _ intent _ hitem => not_bothReturned hupper hitem intent⟩

end Agreement

section Demo

open Patterns hiding none

theorem fold_toUpper (c : Char) : fold c.toUpper = fold c := by
  by_cases hlower : 97 ≤ c.toNat ∧ c.toNat ≤ 122
  · rw [← Char.ofNat_toNat c]
    generalize c.toNat = n at hlower
    have hall : ∀ n < 123, 97 ≤ n → fold (Char.ofNat n).toUpper = fold (Char.ofNat n) := by decide
    exact hall n (by omega) hlower.1
  · have hsame : c.toUpper = c := dif_neg fun h => hlower ⟨h.1, h.2⟩
    rw [hsame]

theorem uppersCase_demo : demoPlatform.UppersCase := by
  intro s _
  change (String.ofList (s.toList.map Char.toUpper)).toList.map fold = s.toList.map fold
  rw [String.toList_ofList, List.map_map]
  exact List.map_congr_left fun c _ => fold_toUpper c

theorem demo_shaped : OrderShaped "ORD-DEMO-001" ∧ ItemShaped "TAH6206" := by
  have horder : (orderPattern ⟨none, "ORD-DEMO-001".toList⟩).any (fun b => b.rest.isEmpty) = true := by
    decide +kernel
  have hitem : (skuPattern ⟨none, "TAH6206".toList⟩).any (fun b => b.rest.isEmpty) = true := by
    decide +kernel
  obtain ⟨b, hb, hrest⟩ := List.any_eq_true.mp horder
  obtain ⟨b', hb', hrest'⟩ := List.any_eq_true.mp hitem
  exact ⟨⟨b, hb, List.isEmpty_iff.mp hrest⟩, ⟨b', hb', List.isEmpty_iff.mp hrest'⟩⟩

theorem runStandsAlone_demo : RunStandsAlone "订单ORD-DEMO-001" := by
  intro run hrun
  have hfirst : firstRun "订单ORD-DEMO-001" = some ⟨2, 14⟩ := by decide +kernel
  rw [Option.mem_def, hfirst] at hrun
  obtain rfl := Option.some.inj hrun
  refine ⟨by decide, .inl fun i c hi hc => ?_⟩
  obtain rfl : i = 1 := by simpa using hi
  have hchar : '单' = c := by simpa using hc
  rw [← hchar]
  decide

/-- An order id that stands alone, and the demo order with its own item. -/
theorem extractors_agree_demo :
    OrderIdsAgree demoPlatform "cancel_order" "invoice_request" "订单ORD-DEMO-001" none ∧
      ¬ BothReturned demoPlatform "ORD-DEMO-001" "TAH6206" none := by
  obtain ⟨horders, hitems⟩ := extractors_agree_iff demoPlatform uppersCase_demo
  rw [horders]
  exact ⟨runStandsAlone_demo, hitems "ORD-DEMO-001" "TAH6206" none demo_shaped.1 demo_shaped.2⟩

/-- The low-risk extractor finds an order id inside another word, and no item of the demo orders. -/
theorem extractors_disagree :
    ¬ OrderIdsAgree demoPlatform "cancel_order" "invoice_request" "单号XORD-DEMO-001" none ∧
      OrderShaped "ORD-DEMO-001" ∧ ItemShaped "TAH6206" ∧
        ¬ BothReturned demoPlatform "ORD-DEMO-001" "TAH6206" none := by
  refine ⟨?_, demo_shaped.1, demo_shaped.2, not_bothReturned uppersCase_demo demo_shaped.2 none⟩
  have horder : orderSpan "单号XORD-DEMO-001" = none := by decide +kernel
  have hrun : firstRun "单号XORD-DEMO-001" = some ⟨3, 15⟩ := by decide +kernel
  unfold OrderIdsAgree
  rw [get?_orderId, get?_orderId_lowRisk, horder, hrun]
  exact id

end Demo

end CommerceAgent
