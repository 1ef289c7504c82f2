import CommerceAgent.Schema
import CommerceAgent.Redaction

/-! The redaction boundary of the event reader, and `ReplayedRunEvent.from_persisted_row`. -/
namespace CommerceAgent

open Json

variable (π : Platform)

section Redaction

/-- `_PHONE_PATTERN.search`. -/
def hasPhone (s : String) : Bool := Patterns.search (PHONE π) s

def FORBIDDEN_PAYLOAD_KEYS : List String :=
  ["api_key", "authorization", "secret", "password", "confirmation_token", "chain_of_thought",
    "reasoning", "hidden_reasoning"]

def MAX_EVENT_PAYLOAD_DEPTH : ℕ := 32

def MAX_EVENT_PAYLOAD_NODES : ℕ := 10000

/-- The checks that `visit` makes of every node, with the count that they leave. -/
def enterNode (depth count : ℕ) : Except Exc ℕ :=
  if MAX_EVENT_PAYLOAD_NODES < count + 1 then
    .error (.eventReplay "persisted event payload is too large")
  else if MAX_EVENT_PAYLOAD_DEPTH < depth then
    .error (.eventReplay "persisted event payload is too deeply nested")
  else .ok (count + 1)

def unredacted (key : String) (item : Value) : Bool :=
  π.lower key ∈ FORBIDDEN_PAYLOAD_KEYS ∧ item.asStr? ≠ some "[REDACTED]"

mutual

/-- `visit` of `_assert_safe_payload`; the count of the nodes is passed on. -/
def visit (depth count : ℕ) : Value → Except Exc ℕ
  | .obj d => do
    let count ← enterNode depth count
    visitMembers (depth + 1) count d
  | .arr l => do
    let count ← enterNode depth count
    visitItems (depth + 1) count l
  | .str s => do
    let count ← enterNode depth count
    if hasPhone π s then .error (.eventReplay "persisted event payload contains unredacted PII")
    else .ok count
  | .null | .bool _ | .int _ => enterNode depth count

def visitItems (depth count : ℕ) : List Value → Except Exc ℕ
  | [] => .ok count
  | v :: l => do
    let count ← visit depth count v
    visitItems depth count l

def visitMembers (depth count : ℕ) : List (String × Value) → Except Exc ℕ
  | [] => .ok count
  | (k, v) :: d =>
    if unredacted π k v then .error (.eventReplay "persisted event payload is not redacted")
    else do
      let count ← visit depth count v
      visitMembers depth count d

end

def assertSafePayload (payload : Dict) : Except Exc Unit := do
  let _ ← visit π 0 0 (.obj payload)
  .ok ()

/-- A value inside a payload, with its depth and the key that it stands under. -/
structure Node where
  depth : ℕ
  key : Option String
  value : Value

mutual

/-- The nodes below a value, in the order of the text. -/
def below (depth : ℕ) : Value → List Node
  | .obj d => memberNodes (depth + 1) d
  | .arr l => itemNodes (depth + 1) l
  | .str _ | .null | .bool _ | .int _ => []

def itemNodes (depth : ℕ) : List Value → List Node
  | [] => []
  | v :: l => ⟨depth, none, v⟩ :: (below depth v ++ itemNodes depth l)

def memberNodes (depth : ℕ) : List (String × Value) → List Node
  | [] => []
  | (k, v) :: d => ⟨depth, some k, v⟩ :: (below depth v ++ memberNodes depth d)

end

/-- A node that may be shown. -/
structure Node.Fine (node : Node) : Prop where
  depth : node.depth ≤ MAX_EVENT_PAYLOAD_DEPTH
  key : ∀ k ∈ node.key, unredacted π k node.value = false
  text : ∀ s ∈ node.value.asStr?, hasPhone π s = false

/-- A payload that may be shown: not too large, and every node of it is fine. -/
structure Disclosable (payload : Dict) : Prop where
  size : (below 0 (.obj payload)).length + 1 ≤ MAX_EVENT_PAYLOAD_NODES
  nodes : ∀ node ∈ below 0 (.obj payload), node.Fine π

variable {π}

theorem enterNode_eq_ok {depth count n : ℕ} :
    enterNode depth count = .ok n ↔
      depth ≤ MAX_EVENT_PAYLOAD_DEPTH ∧ count + 1 ≤ MAX_EVENT_PAYLOAD_NODES ∧ n = count + 1 := by
  unfold enterNode
  split
  · simp only [reduceCtorEq, false_iff]
    omega
  · split
    · simp only [reduceCtorEq, false_iff]
      omega
    · simp only [Except.ok.injEq]
      omega

/-- A node without a key. -/
theorem fine_iff {depth : ℕ} {v : Value} :
    Node.Fine π ⟨depth, none, v⟩ ↔
      depth ≤ MAX_EVENT_PAYLOAD_DEPTH ∧ ∀ s ∈ v.asStr?, hasPhone π s = false :=
  ⟨fun h => ⟨h.depth, h.text⟩, fun h => ⟨h.1, fun _ hk => absurd hk (by simp), h.2⟩⟩

/-- The check of a key and then of the value under it. -/
theorem fine_member {depth : ℕ} {k : String} {v : Value} :
    Node.Fine π ⟨depth, some k, v⟩ ↔ unredacted π k v = false ∧ Node.Fine π ⟨depth, none, v⟩ := by
  rw [fine_iff]
  refine ⟨fun h => ⟨h.key k rfl, h.depth, h.text⟩, fun h => ⟨h.2.1, ?_, h.2.2⟩⟩
  rintro k' hk
  obtain rfl := Option.some.inj hk
  exact h.1

/-- The nodes of a value after the first ones, as `visit` counts them. -/
structure Passes (π : Platform) (nodes : List Node) (count n : ℕ) : Prop where
  fine : ∀ node ∈ nodes, node.Fine π
  count : n = count + nodes.length
  bound : n ≤ MAX_EVENT_PAYLOAD_NODES

theorem passes_nil {count n : ℕ} (hcount : count ≤ MAX_EVENT_PAYLOAD_NODES) :
    Passes π [] count n ↔ count = n := by
  refine ⟨fun h => h.count.symm, ?_⟩
  rintro rfl
  exact ⟨by simp, rfl, hcount⟩

theorem passes_cons {node : Node} {l : List Node} {count n : ℕ} :
    Passes π (node :: l) count n ↔
      node.Fine π ∧ count + 1 ≤ MAX_EVENT_PAYLOAD_NODES ∧ Passes π l (count + 1) n := by
  constructor
  · intro h
    have hn := h.count
    have hb := h.bound
    rw [List.length_cons] at hn
    refine ⟨h.fine node List.mem_cons_self, by omega, ?_, by omega, hb⟩
    exact fun node' hnode => h.fine node' (List.mem_cons_of_mem _ hnode)
  · rintro ⟨hfine, _, h⟩
    refine ⟨List.forall_mem_cons.mpr ⟨hfine, h.fine⟩, ?_, h.bound⟩
    have hn := h.count
    rw [List.length_cons]
    omega

theorem passes_append {l l' : List Node} {count n : ℕ} :
    Passes π (l ++ l') count n ↔ ∃ m, Passes π l count m ∧ Passes π l' m n := by
  constructor
  · intro h
    have hn := h.count
    have hb := h.bound
    rw [List.length_append] at hn
    have hl : ∀ node ∈ l, node.Fine π := fun node hnode => h.fine node (List.mem_append_left _ hnode)
    have hl' : ∀ node ∈ l', node.Fine π :=
      fun node hnode => h.fine node (List.mem_append_right _ hnode)
    exact ⟨count + l.length, ⟨hl, rfl, by omega⟩, hl', by omega, hb⟩
  · rintro ⟨m, h, h'⟩
    refine ⟨List.forall_mem_append.mpr ⟨h.fine, h'.fine⟩, ?_, h'.bound⟩
    rw [h'.count, h.count, List.length_append, Nat.add_assoc]

/-- A value without parts: only the node itself is checked. -/
theorem passes_singleton {node : Node} {count n : ℕ} :
    Passes π [node] count n ↔
      node.Fine π ∧ count + 1 ≤ MAX_EVENT_PAYLOAD_NODES ∧ count + 1 = n := by
  rw [passes_cons]
  refine and_congr_right fun _ => and_congr_right fun hb => passes_nil hb

/-- The node of a value that is not a text. -/
theorem enterNode_fine {depth count n : ℕ} {v : Value} (hv : v.asStr? = none) :
    enterNode depth count = .ok n ↔
      Node.Fine π ⟨depth, none, v⟩ ∧ count + 1 ≤ MAX_EVENT_PAYLOAD_NODES ∧ count + 1 = n := by
  rw [enterNode_eq_ok, fine_iff, hv]
  simp only [Option.mem_def, reduceCtorEq, false_implies, implies_true, and_true]
  exact and_congr_right fun _ => and_congr_right fun _ => eq_comm

mutual

theorem visit_eq_ok (v : Value) {depth count n : ℕ} :
    visit π depth count v = .ok n ↔ Passes π (⟨depth, none, v⟩ :: below depth v) count n := by
  cases v with
  | obj d =>
    rw [visit, below, passes_cons, Except.bind_eq_ok]
    constructor
    · rintro ⟨c, henter, hvisit⟩
      obtain ⟨hfine, hb, rfl⟩ := (enterNode_fine (v := .obj d) rfl).mp henter
      exact ⟨hfine, hb, (visitMembers_eq_ok d hb).mp hvisit⟩
    · rintro ⟨hfine, hb, h⟩
      exact ⟨_, (enterNode_fine rfl).mpr ⟨hfine, hb, rfl⟩, (visitMembers_eq_ok d hb).mpr h⟩
  | arr l =>
    rw [visit, below, passes_cons, Except.bind_eq_ok]
    constructor
    · rintro ⟨c, henter, hvisit⟩
      obtain ⟨hfine, hb, rfl⟩ := (enterNode_fine (v := .arr l) rfl).mp henter
      exact ⟨hfine, hb, (visitItems_eq_ok l hb).mp hvisit⟩
    · rintro ⟨hfine, hb, h⟩
      exact ⟨_, (enterNode_fine rfl).mpr ⟨hfine, hb, rfl⟩, (visitItems_eq_ok l hb).mpr h⟩
  | str s =>
    rw [visit, below, passes_singleton, Except.bind_eq_ok, fine_iff]
    · constructor
      · rintro ⟨c, henter, hvisit⟩
        obtain ⟨hd, hb, rfl⟩ := enterNode_eq_ok.mp henter
        split at hvisit
        · exact absurd hvisit (by simp)
        · rename_i hphone
          refine ⟨⟨hd, ?_⟩, hb, Except.ok.inj hvisit⟩
          rintro _ ⟨⟩
          simpa using hphone
      · rintro ⟨⟨hd, hphone⟩, hb, rfl⟩
        refine ⟨_, enterNode_eq_ok.mpr ⟨hd, hb, rfl⟩, ?_⟩
        rw [hphone s rfl]
        rfl
  | null =>
    rw [visit, below, passes_singleton]
    exact enterNode_fine rfl
  | bool b =>
    rw [visit, below, passes_singleton]
    exact enterNode_fine rfl
  | int i =>
    rw [visit, below, passes_singleton]
    exact enterNode_fine rfl

theorem visitItems_eq_ok (l : List Value) {depth count n : ℕ}
    (hcount : count ≤ MAX_EVENT_PAYLOAD_NODES) :
    visitItems π depth count l = .ok n ↔ Passes π (itemNodes depth l) count n := by
  cases l with
  | nil =>
    rw [visitItems, itemNodes, passes_nil hcount, Except.ok.injEq]
  | cons v l =>
    rw [visitItems, itemNodes, ← List.cons_append, passes_append, Except.bind_eq_ok]
    refine exists_congr fun m => ?_
    rw [visit_eq_ok v]
    exact and_congr_right fun h => visitItems_eq_ok l h.bound

theorem visitMembers_eq_ok (d : List (String × Value)) {depth count n : ℕ}
    (hcount : count ≤ MAX_EVENT_PAYLOAD_NODES) :
    visitMembers π depth count d = .ok n ↔ Passes π (memberNodes depth d) count n := by
  cases d with
  | nil =>
    rw [visitMembers, memberNodes, passes_nil hcount, Except.ok.injEq]
  | cons kv d =>
    obtain ⟨k, v⟩ := kv
    rw [visitMembers, memberNodes, passes_cons, fine_member]
    split
    · rename_i hk
      simp [hk]
    · rename_i hk
      have hkey : unredacted π k v = false := by simpa using hk
      rw [Except.bind_eq_ok, and_assoc, ← passes_cons, ← List.cons_append, passes_append]
      simp only [hkey, true_and]
      refine exists_congr fun m => ?_
      rw [visit_eq_ok v]
      exact and_congr_right fun h => visitMembers_eq_ok d h.bound

end

/-- The reader's visitor accepts exactly the payloads that may be shown. -/
theorem assertSafePayload_eq_ok {payload : Dict} :
    assertSafePayload π payload = .ok () ↔ Disclosable π payload := by
  rw [assertSafePayload, Except.bind_eq_ok]
  simp only [and_true, visit_eq_ok, passes_cons]
  constructor
  · rintro ⟨n, _, hb, h⟩
    have hn := h.count
    have hbound := h.bound
    exact ⟨by omega, h.fine⟩
  · rintro ⟨hsize, hnodes⟩
    have hroot : Node.Fine π ⟨0, none, .obj payload⟩ :=
      fine_iff.mpr ⟨Nat.zero_le _, fun _ hs => absurd hs (by simp [Value.asStr?])⟩
    exact ⟨_, hroot, by decide, hnodes, rfl, by omega⟩

end Redaction

section Decoding

/-- The columns of an event, as the database returns them. -/
structure PersistedEvent where
  runId : Uuid
  eventSeq : ℕ
  eventType : String
  eventVersion : String
  stepId : String
  payloadJson : Value
  payloadHash : String

/-- The row of an event: both writers fill in the version and the digest of the payload. -/
def RunEvent.persisted (e : RunEvent) : PersistedEvent where
  runId := e.runId
  eventSeq := e.eventSeq
  eventType := e.eventType.value
  eventVersion := "1.0"
  stepId := e.stepId
  payloadJson := .obj e.payload
  payloadHash := hashSecret π (dumps (.obj e.payload))

structure ReplayedRunEvent where
  runId : Uuid
  sequence : ℕ
  stepId : String
  payloadHash : String
  event : DomainEvent

def requireString (value name : String) (maximum : ℕ) : Except Exc String :=
  if value ≠ "" ∧ value.length ≤ maximum then .ok value
  else .error (.eventReplay ("persisted " ++ name ++ " is invalid"))

def decodePayload (raw : Value) : Except Exc Dict :=
  match raw with
  | .obj payload => .ok payload
  | _ => .error (.eventReplay "persisted event payload is not an object")

def isLowerHex (c : Char) : Bool := c.isDigit || ('a' ≤ c && c ≤ 'f')

/-- `_HASH_PATTERN.fullmatch`. -/
def isHash (s : String) : Bool :=
  s.toList.take 7 == "sha256:".toList && (s.toList.drop 7).length == 64 &&
    (s.toList.drop 7).all isLowerHex

def require (c : Bool) (message : String) : Except Exc Unit :=
  if c then .ok () else .error (.eventReplay message)

/-- `ReplayedRunEvent.from_persisted_row`. -/
def fromPersistedRow (row : PersistedEvent) : Except Exc ReplayedRunEvent := do
  require (1 ≤ row.eventSeq) "persisted event_seq is invalid"
  let eventVersion ← requireString row.eventVersion "event_version" 16
  require (eventVersion = "1.0") "unsupported persisted event version"
  let stepId ← requireString row.stepId "step_id" 64
  let payload ← decodePayload row.payloadJson
  assertSafePayload π payload
  let payloadHash ← requireString row.payloadHash "payload_hash" 80
  require (isHash payloadHash) "persisted event hash has an unsupported format"
  require (payloadHash = hashSecret π (dumps (.obj payload)))
    "persisted event payload hash mismatch"
  let value ← requireString row.eventType "event_type" 64
  match EventType.ofValue? value with
  | none => .error (.eventReplay "persisted event violates the domain event contract")
  | some eventType => .ok ⟨row.runId, row.eventSeq, stepId, payloadHash, ⟨eventType, payload⟩⟩

/-- What the reader makes of an event that it accepts. -/
def RunEvent.replayed (e : RunEvent) : ReplayedRunEvent where
  runId := e.runId
  sequence := e.eventSeq
  stepId := e.stepId
  payloadHash := hashSecret π (dumps (.obj e.payload))
  event := ⟨e.eventType, e.payload⟩

/-- The digest function returns 64 hexadecimal digits. -/
def Platform.HexDigests : Prop :=
  ∀ s, (π.sha256 s).toList.length = 64 ∧ (π.sha256 s).toList.all isLowerHex = true

/-- An event that the reader accepts. -/
structure Readable (stepId : String) (event : DomainEvent) : Prop where
  step : stepId ≠ ""
  payload : Disclosable π event.payload

variable {π}

theorem require_eq_ok {c : Bool} {message : String} {u : Unit} :
    require c message = .ok u ↔ c = true := by
  unfold require
  split
  · rename_i hc
    simp [hc]
  · rename_i hc
    simp [hc]

theorem requireString_eq_ok {value name s : String} {maximum : ℕ} :
    requireString value name maximum = .ok s ↔
      (value ≠ "" ∧ value.length ≤ maximum) ∧ value = s := by
  unfold requireString
  split
  · rename_i hc
    simp only [Except.ok.injEq]
    exact ⟨fun h => ⟨hc, h⟩, fun h => h.2⟩
  · rename_i hc
    simp only [reduceCtorEq, false_iff]
    exact fun h => hc h.1

/-- What the reader returns is what was written. -/
theorem eq_replayed {e : RunEvent} {r : ReplayedRunEvent}
    (h : fromPersistedRow π (e.persisted π) = .ok r) : r = e.replayed π := by
  unfold fromPersistedRow at h
  simp only [RunEvent.persisted, decodePayload, Except.bind_eq_ok, require_eq_ok,
    requireString_eq_ok] at h
  obtain ⟨_, _, _, _, _, _, stepId, ⟨_, rfl⟩, payload, hp, _, _, _, ⟨_, rfl⟩, _, _, _, _, value,
    ⟨_, rfl⟩, hr⟩ := h
  obtain rfl := Except.ok.inj hp
  rw [EventType.ofValue?_value] at hr
  exact (Except.ok.inj hr).symm

theorem isHash_hashSecret (hdigest : π.HexDigests) (s : String) :
    isHash (hashSecret π s) = true ∧ (hashSecret π s).length ≤ 80 := by
  obtain ⟨hlength, hhex⟩ := hdigest s
  have htext : (hashSecret π s).toList = "sha256:".toList ++ (π.sha256 s).toList := by
    rw [hashSecret, String.toList_append]
  have hdrop : (hashSecret π s).toList.drop 7 = (π.sha256 s).toList := by
    rw [htext]
    rfl
  refine ⟨?_, ?_⟩
  · have htake : (hashSecret π s).toList.take 7 = "sha256:".toList := by
      rw [htext]
      rfl
    simp [isHash, hdrop, htake, hlength, hhex]
  · rw [← String.length_toList, htext, List.length_append, hlength]
    decide

/-- The reader accepts an event exactly when it has a step and a payload that may be shown, and
then returns it as it was written. -/
theorem fromPersistedRow_eq_ok (hdigest : π.HexDigests) {e : RunEvent} {r : ReplayedRunEvent}
    (hseq : 1 ≤ e.eventSeq) (hstep : e.stepId.length ≤ 64) :
    fromPersistedRow π (e.persisted π) = .ok r ↔
      Readable π e.stepId ⟨e.eventType, e.payload⟩ ∧ r = e.replayed π := by
  obtain ⟨hhash, hlength⟩ := isHash_hashSecret hdigest (dumps (.obj e.payload))
  have hnonempty : hashSecret π (dumps (.obj e.payload)) ≠ "" := by
    intro he
    rw [he] at hhash
    exact absurd hhash (by decide)
  have htype : e.eventType.value ≠ "" ∧ e.eventType.value.length ≤ 64 := by
    cases e.eventType <;> decide
  unfold fromPersistedRow
  simp only [RunEvent.persisted, decodePayload, Except.bind_eq_ok, require_eq_ok,
    requireString_eq_ok]
  constructor
  · rintro ⟨_, _, _, _, _, _, stepId, ⟨⟨hne, _⟩, rfl⟩, payload, hp, _, hsafe, _, ⟨_, rfl⟩, _, _, _, _,
      value, ⟨_, rfl⟩, hr⟩
    obtain rfl := Except.ok.inj hp
    rw [EventType.ofValue?_value] at hr
    exact ⟨⟨hne, assertSafePayload_eq_ok.mp hsafe⟩, (Except.ok.inj hr).symm⟩
  · rintro ⟨⟨hne, hsafe⟩, rfl⟩
    refine ⟨(), decide_eq_true hseq, "1.0", ⟨by decide, rfl⟩, (), by decide, e.stepId,
      ⟨⟨hne, hstep⟩, rfl⟩, e.payload, rfl, (), assertSafePayload_eq_ok.mpr hsafe, _,
      ⟨⟨hnonempty, hlength⟩, rfl⟩, (), hhash, (), by simp, e.eventType.value, ⟨htype, rfl⟩, ?_⟩
    rw [EventType.ofValue?_value]
    rfl

end Decoding

end CommerceAgent
