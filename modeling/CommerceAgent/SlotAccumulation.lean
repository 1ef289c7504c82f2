import CommerceAgent.RefusedWrites

/-! The slots that a conversation collects for a write. What a later message does not mention is kept,
except for the item: every message overwrites it. A low-risk route keeps nothing at all. -/
namespace CommerceAgent

open Json Texts

section Extraction

open Patterns hiding none

variable {mutationType text : String}

theorem consumes_orderPattern : Consumes orderPattern 1 :=
  (consumes_filter.all_cons ((consumes_literal _ "ord-").all_cons
    (((consumes_one _).times 3 37).all_cons (consumes_filter.all_cons consumes_all_nil)))).mono (by decide)

theorem consumes_skuPattern : Consumes skuPattern 1 :=
  (consumes_filter.all_cons (((consumes_one _).times 2 6).all_cons ((consumes_one _).all_cons
    (((consumes_one _).times 2 22).all_cons (consumes_filter.all_cons consumes_all_nil))))).mono (by decide)

/-- The extractor mentions each slot at most once. -/
theorem extractArguments_keys (mutationType text : String) :
    ((extractArguments mutationType text).map Prod.fst).Nodup := by
  have hkeys : ((extractArguments mutationType text).map Prod.fst).Sublist
      (["order_id"] ++ ["replacement_sku"] ++ ["item_id"] ++ ["reason"] ++ ["new_address"]) := by
    unfold extractArguments
    simp only [List.map_append]
    refine .append (.append (.append (.append ?_ ?_) ?_) ?_) ?_
    · split <;> simp
    · split
      · cases (findAll skuPattern text).getLast? <;> simp
      · simp
    · split <;> simp
    · split <;> simp
    · split
      · generalize ((addressPart text).map _).filter _ = address
        cases address <;> simp
      · simp
  exact hkeys.nodup (by decide)

theorem text_ne_empty_of_hint (h : REASON_HINTS.any (contains text) = true) : text ≠ "" := by
  rintro rfl
  exact absurd h (by decide)

/-- What the extractor emits is no empty text, except for an item. -/
theorem extractArguments_truthy {kv : String × Value} (h : kv ∈ extractArguments mutationType text)
    (hitem : kv.1 ≠ "item_id") : kv.2.truthy = true := by
  have hstr : ∀ {s : String}, s ≠ "" → (Value.str s).truthy = true := fun hs => by simpa [Value.truthy] using hs
  unfold extractArguments at h
  simp only [List.mem_append] at h
  rcases h with (((h | h) | h) | h) | h
  · split at h
    · rename_i found hfound
      obtain rfl := List.mem_singleton.mp h
      exact hstr (find?_ne_empty consumes_orderPattern hfound)
    · exact absurd h (by simp)
  · split at h
    · simp only [Option.mem_toList, Option.map_eq_some_iff] at h
      obtain ⟨sku, hsku, rfl⟩ := h
      exact hstr (findAll_ne_empty consumes_skuPattern (List.mem_of_getLast? hsku))
    · exact absurd h (by simp)
  · split at h
    · obtain rfl := List.mem_singleton.mp h
      exact absurd rfl hitem
    · exact absurd h (by simp)
  · split at h
    · rename_i hreason
      obtain rfl := List.mem_singleton.mp h
      exact hstr (text_ne_empty_of_hint hreason.2)
    · exact absurd h (by simp)
  · split at h
    · simp only [Option.mem_toList, Option.map_eq_some_iff, Option.filter_eq_some_iff] at h
      obtain ⟨address, ⟨_, haddress⟩, rfl⟩ := h
      exact hstr (of_decide_eq_true haddress)
    · exact absurd h (by simp)

end Extraction

section Planning

variable {π : Platform} {arguments normalized : Dict}

/-- A part of the normalized arguments: one entry, if its slot is there. -/
def normalizedPart (key : String) (f : Value → String) : Option Value → Dict
  | none => []
  | some v => [(key, .str (f v))]

theorem get?_normalizedPart (key : String) (f : Value → String) (o : Option Value) (k : String) :
    Dict.get? (normalizedPart key f o) k = if key = k then o.map fun v => .str (f v) else none := by
  cases o <;> simp [normalizedPart]

theorem normalizeArguments_parts 
    (h : normalizeArguments π arguments = .ok normalized) : ∃ address : String, 
    (∀ v ∈ slot arguments "new_address", address = joinWords (π.str v) ∧ address ≠ "") ∧
    normalized = normalizedPart "order_id" (fun v => π.upper (π.str v)) (slot arguments "order_id") ++
      normalizedPart "item_id" (fun v => π.upper (π.str v)) (slot arguments "item_id") ++
      normalizedPart "replacement_sku" (fun v => π.upper (π.str v)) (slot arguments "replacement_sku") ++
      normalizedPart "new_address" (fun _ => address) (slot arguments "new_address") ++
      normalizedPart "reason_code" (fun v => reasonCode (strip (π.str v))) (slot arguments "reason") := by
  unfold normalizeArguments at h
  cases hslot : slot arguments "new_address" with
  | none =>
    simp only [hslot] at h
    obtain rfl := Except.ok.inj h
    refine ⟨"", by simp, ?_⟩
    cases slot arguments "order_id" <;> cases slot arguments "item_id" <;>
      cases slot arguments "replacement_sku" <;> cases slot arguments "reason" <;> rfl
  | some v =>
    simp only [hslot] at h
    obtain ⟨address, haddress, h⟩ := Except.bind_eq_ok.mp h
    obtain rfl := Except.ok.inj h
    refine ⟨address, fun w hw => ?_, ?_⟩
    · obtain rfl := Option.some.inj hw
      simp only [normalizeAddress] at haddress
      split at haddress
      · rename_i hlength
        obtain rfl := Except.ok.inj haddress
        refine ⟨rfl, fun hempty => ?_⟩
        rw [hempty] at hlength
        exact absurd hlength.1 (by decide)
      · exact absurd haddress (by simp)
    · cases slot arguments "order_id" <;> cases slot arguments "item_id" <;>
        cases slot arguments "replacement_sku" <;> cases slot arguments "reason" <;> rfl

/-- The arguments that cannot be normalized are not asked for. -/
theorem normalizeArguments_invalid {code message : String} {missing : List String}
    (h : normalizeArguments π arguments = .error (.mutationPlanning code message missing)) :
    code ≠ "MISSING_SLOTS" := by
  unfold normalizeArguments at h
  cases hslot : slot arguments "new_address" with
  | none =>
    simp only [hslot] at h
    exact absurd h (by simp [bind, Except.bind])
  | some v =>
    simp only [hslot] at h
    rcases Except.bind_eq_error h with h | ⟨address, _, h⟩
    · simp only [normalizeAddress] at h
      split at h
      · exact absurd h (by simp)
      · have hcode := Except.error.inj h
        simp only [Exc.mutationPlanning.injEq] at hcode
        rw [← hcode.1]
        decide
    · exact absurd h (by simp [bind, Except.bind])

theorem slots_known {mutationType required : String}
    (h : required ∈ (MUTATION_REQUIRED_SLOTS.lookup mutationType).getD []) :
    required ∈ ["order_id", "item_id", "replacement_sku", "new_address", "reason"] := by
  cases hfound : MUTATION_REQUIRED_SLOTS.lookup mutationType with
  | none =>
    rw [hfound] at h
    exact absurd h (by simp)
  | some slots =>
    have hall : ∀ entry ∈ MUTATION_REQUIRED_SLOTS, ∀ slot ∈ entry.2,
        slot ∈ ["order_id", "item_id", "replacement_sku", "new_address", "reason"] := by decide
    rw [hfound] at h
    obtain ⟨_, _, hentry, _⟩ := List.lookup_eq_some_iff.mp hfound
    have hmem : (mutationType, slots) ∈ MUTATION_REQUIRED_SLOTS := by
      rw [hentry]
      exact List.mem_append_right _ List.mem_cons_self
    exact hall _ hmem required h

theorem reasonCode_ne_empty (raw : String) : reasonCode raw ≠ "" := by
  unfold reasonCode
  cases hfound : REASON_NORMALIZATION.find? fun entry => contains raw entry.1 with
  | none => decide
  | some entry =>
    have hmem : entry ∈ REASON_NORMALIZATION := List.mem_of_find?_eq_some hfound
    have hcodes : ∀ entry ∈ REASON_NORMALIZATION, entry.2 ≠ "" := by decide
    exact hcodes entry hmem

/-- A required slot is missing for the planner if and only if the arguments leave it empty. -/
theorem slot_normalized (hupper : ∀ v : Value, v.truthy = true → π.upper (π.str v) ≠ "")
    {arguments normalized : Dict} (h : normalizeArguments π arguments = .ok normalized) {required : String}
    (hrequired : required ∈ ["order_id", "item_id", "replacement_sku", "new_address", "reason"]) :
    (slot normalized (if required = "reason" then "reason_code" else required)).isNone =
      (slot arguments required).isNone := by
  obtain ⟨address, haddress, rfl⟩ := normalizeArguments_parts h
  have hone : ∀ (o : Option Value) (f : Value → String), (∀ v ∈ o, f v ≠ "") →
      ((o.map fun v => Value.str (f v)).filter Value.truthy).isNone = o.isNone := by
    intro o f hf
    cases o with
    | none => rfl
    | some v => simpa [Option.filter, Value.truthy] using hf v rfl
  have hup : ∀ v ∈ slot arguments required, π.upper (π.str v) ≠ "" := by
    intro v hv
    exact hupper v (Option.filter_eq_some_iff.mp hv).2
  simp only [List.mem_cons, List.not_mem_nil, or_false] at hrequired
  rcases hrequired with rfl | rfl | rfl | rfl | rfl <;> rw [slot] <;>
    simp only [Dict.get?_append, get?_normalizedPart, String.reduceEq, reduceIte, Option.none_or, Option.or_none]
  · exact hone _ _ hup
  · exact hone _ _ hup
  · exact hone _ _ hup
  · exact hone _ _ fun v hv => (haddress v hv).2
  · exact hone _ _ fun v _ => reasonCode_ne_empty _
end Planning

variable (π : Platform) (job : Dispatch) (context : RunContext) (route : String)

/-- A message of the user, with the intent that it is routed by. -/
abbrev Message : Type := String × Option String

/-- The arguments after one more message: those before it are what the pause has left in the state. -/
def accumulate (previous : Dict) (message : Message) : Dict :=
  writeArguments π { job with content := message.1 }
    { context with state := context.state.set "mutation_args" (.obj previous) } route message.2

/-- The arguments that a conversation has collected. -/
def collected (messages : List Message) : Dict := messages.foldl (accumulate π job context route) []

/-- What a message supplies by itself. -/
def supplied (message : Message) : Dict := accumulate π job context route [] message

/-- The slots that a write route requires. -/
def requiredSlots : List String :=
  match mutationTypeForRoute route with
  | some mutationType => (MUTATION_REQUIRED_SLOTS.lookup mutationType).getD []
  | none => if route = "invoice_request" then ["order_id"] else ["order_id", "item_id"]

/-- The slot that a later message without it leaves as it was. -/
def Kept (required : String) : Prop := (mutationTypeForRoute route).isSome ∧ required ≠ "item_id"

/-- However long a conversation goes on, a required slot that is present stays present, and changes only
by a message that supplies it. -/
def Monotone (messages : List Message) : Prop :=
  ∀ before later, before ++ later <+: messages → ∀ required ∈ requiredSlots route,
    (slot (collected π job context route before) required).isSome →
    (slot (collected π job context route (before ++ later)) required).isSome ∧
      (slot (collected π job context route (before ++ later)) required ≠
        slot (collected π job context route before) required →
        ∃ message ∈ later, (slot (supplied π job context route message) required).isSome)

/-- A message that follows one with a slot that is not kept has it too. -/
def Repeating (messages : List Message) : Prop :=
  ∀ before a b later, messages = before ++ a :: b :: later →
    ∀ required ∈ requiredSlots route, ¬ Kept route required →
      (slot (supplied π job context route a) required).isSome →
      (slot (supplied π job context route b) required).isSome

section Accumulation

variable {π job context route}

/-- The slots that a pause asks for are the required ones that the arguments leave empty. -/
theorem asked_slots (hupper : ∀ v : Value, v.truthy = true → π.upper (π.str v) ≠ "") {mutationType : String}
    (hroute : mutationTypeForRoute route = some mutationType) {actorId message : String} {arguments : Dict}
    {missing : List String}
    (h : prepare π mutationType actorId arguments =
      .error (.mutationPlanning "MISSING_SLOTS" message missing)) :
    missing = (requiredSlots route).filter fun required => (slot arguments required).isNone := by
  have hrequired : requiredSlots route = (MUTATION_REQUIRED_SLOTS.lookup mutationType).getD [] := by
    simp only [requiredSlots, hroute]
  unfold prepare at h
  split at h
  · exact absurd (Except.error.inj h) (by simp)
  rcases Except.bind_eq_error h with h | ⟨normalized, hnormalized, h⟩
  · exact absurd rfl (normalizeArguments_invalid h)
  split at h
  · have hmissing : missingSlots mutationType normalized = missing := by
      injection Except.error.inj h
    rw [← hmissing, missingSlots, hrequired]
    refine List.filter_congr fun required hmem => ?_
    exact slot_normalized hupper hnormalized (slots_known hmem)
  · split at h
    · exact absurd (Except.error.inj h) (by simp)
    · dsimp only at h
      rcases Except.bind_eq_error h with h | ⟨_, _, h⟩
      · unfold checkEligibility at h
        split at h
        · exact absurd (Except.error.inj h) (by simp)
        · split at h
          · exact absurd (Except.error.inj h) (by simp)
          · exact absurd h (by simp)
      · split at h
        · exact absurd (Except.error.inj h) (by simp)
        · exact absurd h (by simp)

theorem asked_slots_lowRisk (hroute : route ∈ LOW_RISK_ROUTES) (arguments : Dict) :
    lowRiskMissing route arguments =
      (requiredSlots route).filter fun required => (slot arguments required).isNone := by
  simp only [LOW_RISK_ROUTES, List.mem_cons, List.not_mem_nil, or_false] at hroute
  rcases hroute with rfl | rfl <;> rfl

theorem accumulate_mutation {mutationType : String} (hroute : mutationTypeForRoute route = some mutationType)
    (previous : Dict) (message : Message) :
    accumulate π job context route previous message =
      previous.update (extractArguments mutationType message.1) := by
  simp [accumulate, writeArguments, hroute]

/-- A low-risk route looks at nothing but the message. -/
theorem accumulate_lowRisk (hroute : mutationTypeForRoute route = none) (previous : Dict) (message : Message) :
    accumulate π job context route previous message = supplied π job context route message := by
  simp [supplied, accumulate, writeArguments, hroute]

theorem slot_update (previous : Dict) (mutationType text required : String) :
    slot (previous.update (extractArguments mutationType text)) required =
      (((extractArguments mutationType text).get? required).or (previous.get? required)).filter
        Value.truthy := by
  rw [slot, Dict.get?_update _ (extractArguments_keys _ _)]

/-- One message, for a slot that is kept. -/
theorem slot_accumulate_kept {required : String} (hkept : Kept route required) (previous : Dict)
    (message : Message) :
    slot (accumulate π job context route previous message) required =
      (slot (supplied π job context route message) required).or (slot previous required) := by
  obtain ⟨hroute, hitem⟩ := hkept
  obtain ⟨mutationType, hroute⟩ := Option.isSome_iff_exists.mp hroute
  rw [supplied, accumulate_mutation hroute, accumulate_mutation hroute, slot_update, slot_update]
  cases hfound : (extractArguments mutationType message.1).get? required with
  | none => simp [slot]
  | some v =>
    have htruthy : v.truthy = true := extractArguments_truthy (Dict.mem_of_get? hfound) hitem
    simp [Option.filter, htruthy]

/-- One message, for a slot that is not: what was there is lost. -/
theorem slot_accumulate_dropped {required : String} (hrequired : required ∈ requiredSlots route)
    (hkept : ¬ Kept route required) (previous : Dict) (message : Message) :
    slot (accumulate π job context route previous message) required =
      slot (supplied π job context route message) required := by
  cases hroute : mutationTypeForRoute route with
  | none => rw [accumulate_lowRisk hroute]
  | some mutationType =>
    have hitem : required = "item_id" := by
      by_contra hne
      exact hkept ⟨by simp [hroute], hne⟩
    subst hitem
    have htype : mutationType ∈ ["request_refund", "return_product", "exchange_product"] := by
      simp only [requiredSlots, hroute, MUTATION_REQUIRED_SLOTS, List.lookup_cons, List.lookup_nil] at hrequired
      split at hrequired
      · exact absurd hrequired (by decide)
      split at hrequired
      · exact absurd hrequired (by decide)
      repeat' split at hrequired
      all_goals simp_all
    have hemitted : ((extractArguments mutationType message.1).get? "item_id").isSome := by
      rw [Dict.get?_isSome]
      unfold extractArguments
      simp [htype]
    obtain ⟨v, hfound⟩ := Option.isSome_iff_exists.mp hemitted
    rw [supplied, accumulate_mutation hroute, accumulate_mutation hroute, slot_update, slot_update]
    simp [hfound]

theorem collected_snoc (messages : List Message) (message : Message) :
    collected π job context route (messages ++ [message]) =
      accumulate π job context route (collected π job context route messages) message := by
  simp [collected]

/-- A slot that is kept stays, and changes only by a message that supplies it. -/
theorem kept_later {required : String} (hkept : Kept route required) (before later : List Message)
    (hpresent : (slot (collected π job context route before) required).isSome) :
    (slot (collected π job context route (before ++ later)) required).isSome ∧
      (slot (collected π job context route (before ++ later)) required ≠
        slot (collected π job context route before) required →
        ∃ message ∈ later, (slot (supplied π job context route message) required).isSome) := by
  induction later using List.reverseRecOn with
  | nil =>
    rw [List.append_nil]
    exact ⟨hpresent, fun h => absurd rfl h⟩
  | append_singleton later message ih =>
    rw [← List.append_assoc, collected_snoc, slot_accumulate_kept hkept]
    cases hsupplied : slot (supplied π job context route message) required with
    | none =>
      refine ⟨ih.1, fun hne => ?_⟩
      obtain ⟨m, hm, hslot⟩ := ih.2 hne
      exact ⟨m, List.mem_append_left _ hm, hslot⟩
    | some v =>
      refine ⟨rfl, fun _ => ⟨message, ?_, by rw [hsupplied]; rfl⟩⟩
      exact List.mem_append_right _ (List.mem_singleton_self _)

/-- What is there of a slot that is not kept is what the last message has supplied. -/
theorem dropped_last {required : String} (hrequired : required ∈ requiredSlots route)
    (hkept : ¬ Kept route required) {messages : List Message}
    (hpresent : (slot (collected π job context route messages) required).isSome) :
    ∃ before last, messages = before ++ [last] ∧
      (slot (supplied π job context route last) required).isSome := by
  induction messages using List.reverseRecOn with
  | nil => exact absurd hpresent (by simp [collected, slot])
  | append_singleton before last _ =>
    rw [collected_snoc, slot_accumulate_dropped hrequired hkept] at hpresent
    exact ⟨before, last, rfl, hpresent⟩

/-- By induction on the messages that come later: each of them repeats the slot. -/
theorem dropped_later {messages before later : List Message} (hrepeating : Repeating π job context route messages)
    (hbefore : before ++ later <+: messages) {required : String} (hrequired : required ∈ requiredSlots route)
    (hkept : ¬ Kept route required) (hpresent : (slot (collected π job context route before) required).isSome) :
    (slot (collected π job context route (before ++ later)) required).isSome ∧
      (later ≠ [] → ∃ message ∈ later, (slot (supplied π job context route message) required).isSome) := by
  induction later using List.reverseRecOn with
  | nil => simpa using hpresent
  | append_singleton later message ih =>
    have hshorter : before ++ later <+: messages := by
      refine List.IsPrefix.trans ⟨[message], ?_⟩ hbefore
      simp
    obtain ⟨first, last, hlast, hsupplied⟩ := dropped_last hrequired hkept (ih hshorter).1
    obtain ⟨rest, hrest⟩ := hbefore
    have hnext : (slot (supplied π job context route message) required).isSome := by
      refine hrepeating first last message rest ?_ required hrequired hkept hsupplied
      rw [← hrest, ← List.append_assoc, hlast]
      simp
    refine ⟨?_, fun _ => ⟨message, by simp, hnext⟩⟩
    rw [← List.append_assoc, collected_snoc, slot_accumulate_dropped hrequired hkept]
    exact hnext

end Accumulation

section Demo

/-- A refund whose second message names the order and the reason, and no item. -/
def demoMessages : List Message := [("退款 TAH6206", some "request_refund"),
  ("订单 ORD-DEMO-002 不想要", some "request_refund")]

end Demo

end CommerceAgent
