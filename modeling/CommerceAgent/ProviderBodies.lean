import CommerceAgent.JsonSizes
import CommerceAgent.RunCosts
import CommerceAgent.Schema

/-! How the callers of a chat completion endpoint take its responses apart, and which exception a
body raises that has another shape. -/
namespace CommerceAgent.Provider

open Json

/-- What becomes of a text that is read as JSON. -/
inductive Decoded where
  | value (v : Payload)
  /-- A `JSONDecodeError`. -/
  | notJson
  /-- Another `ValueError`: bytes that are no UTF-8, an integer of too many digits. -/
  | refused
  /-- A `RecursionError`, which is a `RuntimeError`. -/
  | tooDeep

inductive Fault where
  | valueError
  | keyError
  | typeError
  | indexError
  | attributeError
  | recursionError
  /-- `decimal.InvalidOperation`, an `ArithmeticError`. -/
  | arithmeticError
  /-- An `httpx.HTTPError`. -/
  | httpError
  | runtimeError
  | modelGatewayError
  deriving DecidableEq, Repr

/-- `except (ValueError, KeyError, TypeError)`. -/
def Fault.Malformed : Fault → Prop
  | valueError | keyError | typeError => True
  | _ => False

instance : DecidablePred Fault.Malformed := fun e => by
  cases e <;> first | exact isTrue trivial | exact isFalse id

/-- `except (ValueError, KeyError, TypeError, httpx.HTTPError)`. -/
def Fault.Handled (e : Fault) : Prop := e.Malformed ∨ e = httpError

instance : DecidablePred Fault.Handled := fun _ => inferInstanceAs (Decidable (_ ∨ _))

/-- The exceptions of a body that no handler names. -/
def Fault.Escapes : Fault → Prop
  | indexError | attributeError | recursionError | arithmeticError => True
  | _ => False

theorem Fault.Escapes.not_handled {e : Fault} (h : e.Escapes) : ¬e.Handled := by
  cases e <;> first | exact h.elim | decide

theorem Fault.Escapes.ne_modelGatewayError {e : Fault} (h : e.Escapes) :
    e ≠ modelGatewayError := by
  rintro rfl
  exact h

def Decoded.get : Decoded → Except Fault Payload
  | value v => .ok v
  | notJson | refused => .error .valueError
  | tooDeep => .error .recursionError

/-- What one `POST` to the endpoint comes to. -/
inductive HttpOutcome where
  | response (status : ℕ) (body : Decoded)
  /-- A timeout or another transport error. -/
  | transportError
  /-- An `httpx.HTTPError` that is neither of these, such as too many redirects. -/
  | requestError

/-- `raise_for_status` accepts the response. -/
def isSuccess (status : ℕ) : Prop := 200 ≤ status ∧ status < 300

instance (status : ℕ) : Decidable (isSuccess status) := inferInstanceAs (Decidable (_ ∧ _))

/-- `value[key]`. -/
def itemAt (value : Payload) (key : String) : Except Fault Payload :=
  match value with
  | .obj members => match Members.get? members key with
    | some item => .ok item
    | none => .error .keyError
  -- A list and a string have integer indices, and nothing else has any.
  | _ => .error .typeError

/-- `value[0]`. -/
def firstItem : Payload → Except Fault Payload
  | .arr (item :: _) => .ok item
  | .arr [] => .error .indexError
  | .str s => match s.toList with
    | c :: _ => .ok (.str (String.ofList [c]))
    | [] => .error .indexError
  -- The keys of a JSON object are strings.
  | .obj _ => .error .keyError
  | _ => .error .typeError

/-- `body["choices"][0]["message"]["content"]`. -/
def contentOf (body : Payload) : Except Fault Payload := do
  let choices ← itemAt body "choices"
  let choice ← firstItem choices
  let message ← itemAt choice "message"
  itemAt message "content"

/-- A body of the documented shape, with what it has for a content. -/
inductive HasContent : Payload → Payload → Prop
  | mk {body choice message : Members} {rest : List Payload} {content : Payload}
      (choices : Members.get? body "choices" = some (.arr (.obj choice :: rest)))
      (first : Members.get? choice "message" = some (.obj message))
      (found : Members.get? message "content" = some content) : HasContent (.obj body) content

/-- A body with a sequence of choices that has no first one. -/
inductive NoChoice : Payload → Prop
  | list {body : Members} (h : Members.get? body "choices" = some (.arr [])) : NoChoice (.obj body)
  | text {body : Members} (h : Members.get? body "choices" = some (.str "")) : NoChoice (.obj body)

mutual

/-- The value with null for its floats, as good as any other value that is no integer. -/
def plain : Payload → Value
  | .null => .null
  | .bool b => .bool b
  | .int i => .int i
  | .float _ => .null
  | .str s => .str s
  | .arr items => .arr (plainItems items)
  | .obj members => .obj (plainMembers members)

def plainItems : List Payload → List Value
  | [] => []
  | item :: items => plain item :: plainItems items

def plainMembers : List (String × Payload) → List (String × Value)
  | [] => []
  | (key, value) :: members => (key, plain value) :: plainMembers members

end

/-- `_normalize_token_usage`. -/
def normalizeTokenUsage (raw : Option Payload) : Except Fault (Option Costs.TokenUsage) :=
  (Costs.normalizeTokenUsage (raw.map plain)).mapError fun _ => .valueError

/-- `body.get("usage")`, of a dictionary. -/
def rawUsage : Payload → Option Payload
  | .obj body => Members.get? body "usage"
  | _ => none

section Shapes

variable {value body content : Payload} {key : String} {e : Fault}

theorem itemAt_obj (members : Members) (key : String) :
    itemAt (.obj members) key = (Members.get? members key).elim (.error .keyError) .ok := by
  rw [itemAt]
  cases Members.get? members key <;> rfl

theorem itemAt_eq_ok {item : Payload} :
    itemAt value key = .ok item ↔
      ∃ members, value = .obj members ∧ Members.get? members key = some item := by
  cases value with
  | obj members =>
    simp only [itemAt_obj, Payload.obj.injEq, exists_eq_left']
    cases Members.get? members key <;> simp
  | _ => simp [itemAt]

/-- A lookup by name raises nothing that its callers do not catch. -/
theorem malformed_of_itemAt (h : itemAt value key = .error e) : e.Malformed := by
  cases value with
  | obj members =>
    rw [itemAt_obj] at h
    cases hget : Members.get? members key with
    | some item => exact nomatch hget ▸ h
    | none =>
      rw [hget] at h
      exact Except.error.inj h ▸ trivial
  | _ => exact Except.error.inj h ▸ trivial

theorem firstItem_str (s : String) :
    firstItem (.str s) =
      s.toList.head?.elim (.error .indexError) fun c => .ok (.str (String.ofList [c])) := by
  rw [firstItem]
  cases s.toList <;> rfl

theorem firstItem_error (h : firstItem value = .error e) :
    e.Malformed ∨ e = .indexError ∧ (value = .arr [] ∨ value = .str "") := by
  cases value with
  | arr items =>
    cases items with
    | nil => exact Or.inr ⟨(Except.error.inj h).symm, Or.inl rfl⟩
    | cons item items => exact nomatch h
  | str s =>
    rw [firstItem_str] at h
    cases hs : s.toList with
    | nil =>
      rw [hs] at h
      refine Or.inr ⟨(Except.error.inj h).symm, Or.inr ?_⟩
      exact congrArg _ (String.toList_eq_nil_iff.mp hs)
    | cons c rest => exact nomatch hs ▸ h
  | _ => exact Or.inl (Except.error.inj h ▸ trivial)

/-- The first character of a string is no object, so only a list leads to a content. -/
theorem contentOf_eq_ok : contentOf body = .ok content ↔ HasContent body content := by
  constructor
  · intro h
    obtain ⟨choices, hchoices, hrest⟩ := Except.bind_eq_ok.mp h
    obtain ⟨choice, hchoice, hrest⟩ := Except.bind_eq_ok.mp hrest
    obtain ⟨message, hmessage, hcontent⟩ := Except.bind_eq_ok.mp hrest
    obtain ⟨members, rfl, hmembers⟩ := itemAt_eq_ok.mp hchoices
    obtain ⟨first, rfl, hfirst⟩ := itemAt_eq_ok.mp hmessage
    obtain ⟨fields, rfl, hfields⟩ := itemAt_eq_ok.mp hcontent
    cases choices with
    | arr items =>
      cases items with
      | nil => exact nomatch hchoice
      | cons item items =>
        obtain rfl := Except.ok.inj hchoice
        exact .mk hmembers hfirst hfields
    | str s =>
      rw [firstItem_str] at hchoice
      cases hs : s.toList <;> exact nomatch hs ▸ hchoice
    | _ => exact nomatch hchoice
  · rintro ⟨hchoices, hfirst, hfound⟩
    refine Except.bind_eq_ok.mpr ⟨_, itemAt_eq_ok.mpr ⟨_, rfl, hchoices⟩, ?_⟩
    refine Except.bind_eq_ok.mpr ⟨_, rfl, ?_⟩
    exact Except.bind_eq_ok.mpr ⟨_, itemAt_eq_ok.mpr ⟨_, rfl, hfirst⟩,
      itemAt_eq_ok.mpr ⟨_, rfl, hfound⟩⟩

theorem contentOf_noChoice (h : NoChoice body) : contentOf body = .error .indexError := by
  cases h with
  | list h =>
    rw [contentOf, itemAt_obj, h]
    rfl
  | text h =>
    rw [contentOf, itemAt_obj, h]
    rfl

/-- Of the four levels only the list of choices raises what is not caught. -/
theorem contentOf_error (h : contentOf body = .error e) :
    e.Malformed ∨ e = .indexError ∧ NoChoice body := by
  rcases Except.bind_eq_error h with hchoices | ⟨choices, hchoices, hrest⟩
  · exact Or.inl (malformed_of_itemAt hchoices)
  rcases Except.bind_eq_error hrest with hfirst | ⟨choice, _, hmessage⟩
  · obtain ⟨members, rfl, hmembers⟩ := itemAt_eq_ok.mp hchoices
    rcases firstItem_error hfirst with hmalformed | ⟨rfl, rfl | rfl⟩
    · exact Or.inl hmalformed
    · exact Or.inr ⟨rfl, .list hmembers⟩
    · exact Or.inr ⟨rfl, .text hmembers⟩
  rcases Except.bind_eq_error hmessage with hmessage | ⟨message, _, hcontent⟩
  · exact Or.inl (malformed_of_itemAt hmessage)
  · exact Or.inl (malformed_of_itemAt hcontent)

theorem normalizeTokenUsage_error {raw : Option Payload}
    (h : normalizeTokenUsage raw = .error e) : e = .valueError := by
  unfold normalizeTokenUsage at h
  cases hraw : Costs.normalizeTokenUsage (raw.map plain) with
  | ok usage => exact nomatch hraw ▸ h
  | error trouble =>
    rw [hraw] at h
    exact (Except.error.inj h).symm

theorem not_noChoice_of_hasContent (h : HasContent body content) : ¬NoChoice body := by
  intro hnone
  have hok := contentOf_eq_ok.mpr h
  rw [contentOf_noChoice hnone] at hok
  exact nomatch hok

/-- One body has one content. -/
theorem HasContent.unique {other : Payload} (h : HasContent body content)
    (h' : HasContent body other) : content = other := by
  have hok := contentOf_eq_ok.mpr h
  rw [contentOf_eq_ok.mpr h'] at hok
  exact (Except.ok.inj hok).symm

theorem eq_value_of_get {d : Decoded} (h : d.get = .ok value) : d = .value value := by
  cases d with
  | value v => exact congrArg _ (Except.ok.inj h)
  | _ => exact nomatch h

theorem get_error {d : Decoded} (h : d.get = .error e) :
    e.Malformed ∨ e = .recursionError ∧ d = .tooDeep := by
  cases d with
  | value v => exact nomatch h
  | tooDeep => exact Or.inr ⟨(Except.error.inj h).symm, rfl⟩
  | _ => exact Or.inl (Except.error.inj h ▸ trivial)

end Shapes

/-- The exceptions as the account of a run's costs tells them apart. -/
def Fault.trouble : Fault → Costs.Trouble
  | valueError | keyError | typeError => .handled
  | httpError => .http
  | _ => .escaped

theorem get?_plainMembers (members : Members) (key : String) :
    Dict.get? (plainMembers members) key = (Members.get? members key).map plain := by
  induction members with
  | nil => rfl
  | cons kv members ih =>
    obtain ⟨k, v⟩ := kv
    rw [plainMembers, Dict.get?, Members.get?, ih]
    split <;> rfl

theorem itemAt_plain (value : Payload) (key : String) :
    Costs.itemAt (plain value) key = ((itemAt value key).map plain).mapError Fault.trouble := by
  cases value with
  | obj members =>
    rw [itemAt_obj, plain, Costs.itemAt, get?_plainMembers]
    cases Members.get? members key <;> rfl
  | _ => rfl

theorem firstItem_plain (value : Payload) :
    Costs.firstItem (plain value) = ((firstItem value).map plain).mapError Fault.trouble := by
  cases value with
  | arr items => cases items <;> rfl
  | str s =>
    rw [firstItem_str, plain, Costs.firstItem]
    cases s.toList <;> rfl
  | _ => rfl

/-- The content that a run is billed for is the one that is taken apart here. -/
theorem contentOf_plain (body : Payload) :
    Costs.contentOf (plain body) = ((contentOf body).map plain).mapError Fault.trouble := by
  have hbind {x : Except Fault Payload} {f : Payload → Except Fault Payload}
      {g : Value → Except Costs.Trouble Value}
      (hg : ∀ v, g (plain v) = ((f v).map plain).mapError Fault.trouble) :
      ((x.map plain).mapError Fault.trouble >>= g) =
        ((x >>= f).map plain).mapError Fault.trouble := by
    cases x with
    | error e => rfl
    | ok v => exact hg v
  unfold Costs.contentOf contentOf
  rw [itemAt_plain]
  refine hbind fun choices => ?_
  rw [firstItem_plain]
  refine hbind fun choice => ?_
  rw [itemAt_plain]
  exact hbind fun message => itemAt_plain message "content"

end CommerceAgent.Provider
