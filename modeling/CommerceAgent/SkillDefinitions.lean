import CommerceAgent.JsonSizes
import CommerceAgent.Redaction

/-! The validation of a generated Skill: the errors that it finds, and the keys and texts of an accepted
definition that it has not looked at. -/
namespace Json.Payload

mutual

/-- The keys at every depth. -/
def keys : Payload → List String
  | .arr l => itemKeys l
  | .obj d => memberKeys d
  | _ => []

def itemKeys : List Payload → List String
  | [] => []
  | v :: l => v.keys ++ itemKeys l

def memberKeys : List (String × Payload) → List String
  | [] => []
  | (k, v) :: d => k :: (v.keys ++ memberKeys d)

end

mutual

/-- The strings at every depth that are values. -/
def texts : Payload → List String
  | .str s => [s]
  | .arr l => itemTexts l
  | .obj d => memberTexts d
  | _ => []

def itemTexts : List Payload → List String
  | [] => []
  | v :: l => v.texts ++ itemTexts l

def memberTexts : List (String × Payload) → List String
  | [] => []
  | (_, v) :: d => v.texts ++ memberTexts d

end

theorem mem_memberKeys {d : Members} {key : String} :
    key ∈ memberKeys d ↔ key ∈ d.map Prod.fst ∨ ∃ kv ∈ d, key ∈ kv.2.keys := by
  induction d with
  | nil => simp [memberKeys]
  | cons kv d ih =>
    obtain ⟨k, v⟩ := kv
    simp only [memberKeys, List.mem_cons, List.mem_append, ih, List.map_cons, or_and_right, exists_or,
      exists_eq_left]
    tauto

theorem mem_memberTexts {d : Members} {text : String} :
    text ∈ memberTexts d ↔ ∃ kv ∈ d, text ∈ kv.2.texts := by
  induction d with
  | nil => simp [memberTexts]
  | cons kv d ih => simp only [memberTexts, List.mem_append, ih, List.exists_mem_cons_iff]

end Json.Payload

namespace CommerceAgent.Skills

open Json Patterns Texts

def ALLOWED_POLICIES : List String :=
  ["conversational_response", "graceful_unsupported", "safety_deescalation"]

def ALLOWED_ACTIONS : List String := ["respond", "finish"]

def FORBIDDEN_KEYS : List String :=
  ["tool", "tools", "allowed_tools", "route", "permissions", "code", "sql", "url", "external_url",
    "system_prompt"]

def MAX_EXAMPLES : ℕ := 16

def MAX_EXAMPLE_LENGTH : ℕ := 240

section Validation

variable (isWord : Char → Bool) (casefold : String → String)

def DANGEROUS_TEXT : Pattern :=
  anyOf [
    all [literal ignoreCase "http", opt (one (ignoreCase 's')), literal ignoreCase "://"],
    literal ignoreCase "www.",
    literal ignoreCase "```",
    all [boundary isWord,
      anyOf (["select", "insert", "update", "delete", "drop", "alter"].map (literal ignoreCase)),
      atLeast 1 (one isSpace)],
    all [boundary isWord,
      anyOf (["exec", "eval", "os.system", "subprocess"].map (literal ignoreCase)),
      atLeast 0 (one isSpace), literal ignoreCase "("]]

mutual

/-- `_contains_dangerous_text`: of a dictionary, the values only. -/
def containsDangerousText : Payload → Bool
  | .str s => search (DANGEROUS_TEXT isWord) s
  | .obj d => memberContainsDangerousText d
  | .arr l => itemContainsDangerousText l
  | _ => false

def itemContainsDangerousText : List Payload → Bool
  | [] => false
  | v :: l => containsDangerousText v || itemContainsDangerousText l

def memberContainsDangerousText : List (String × Payload) → Bool
  | [] => false
  | (_, v) :: d => containsDangerousText v || memberContainsDangerousText d

end

/-- A string whose stripped text has between one and `limit` characters. -/
def isBoundedText (limit : ℕ) : Payload → Bool
  | .str item => decide (1 ≤ (strip item).length ∧ (strip item).length ≤ limit)
  | _ => false

def isAllowedAction : Payload → Bool
  | .str item => decide (item ∈ ALLOWED_ACTIONS)
  | _ => false

def triggerErrors (definition : Members) : List String :=
  match definition.get? "trigger" with
  | some (.obj trigger) =>
    match Members.get? trigger "keywords" with
    | some (.arr keywords) =>
      if ¬ (1 ≤ keywords.length ∧ keywords.length ≤ 32) then ["trigger_keywords_required"]
      else if keywords.any fun item => !isBoundedText 128 item then ["invalid_trigger_keyword"]
      else []
    | _ => ["trigger_keywords_required"]
  | _ => ["trigger_required"]

def policyErrors (definition : Members) : List String :=
  match definition.get? "response_policy" with
  | some (.str policy) => if policy ∈ ALLOWED_POLICIES then [] else ["unsafe_response_policy"]
  | _ => ["response_policy_required"]

/-- The check of `allowed_actions` and of `allowed_decisions`. -/
def actionErrors (field error : String) (definition : Members) : List String :=
  match (definition.get? field).getD (.arr [.str "respond", .str "finish"]) with
  | .arr items => if items.all isAllowedAction then [] else [error]
  | _ => [error]

/-- The check of the scope, which looks its type up in a set: a list or a dictionary has no hash. -/
def scopeErrors (definition : Members) : Except String (List String) :=
  match definition.get? "scope" with
  | some (.obj scope) =>
    match Members.get? scope "type" with
    | some (.arr _) | some (.obj _) => .error "TypeError"
    | some (.str type) =>
      if type ∉ ["tenant", "route", "global"] then .ok ["scope_required"]
      else match Members.get? scope "value" with
      | some (.str value) => .ok (if strip value = "" then ["scope_required"] else [])
      | _ => .ok ["scope_required"]
    | _ => .ok ["scope_required"]
  | _ => .ok ["scope_required"]

def forbiddenToolErrors (definition : Members) : List String :=
  match definition.get? "forbidden_tools" with
  | some (.arr items) => if items.all (isBoundedText 128) then [] else ["forbidden_tools_required"]
  | _ => ["forbidden_tools_required"]

def ttlErrors (definition : Members) : List String :=
  match definition.get? "ttl_seconds" with
  | some (.int seconds) => if 1 ≤ seconds ∧ seconds ≤ 90 * 86400 then [] else ["invalid_ttl"]
  | _ => ["invalid_ttl"]

def exampleErrors (field : String) (definition : Members) : List String :=
  match definition.get? field with
  | some (.arr items) =>
    if ¬ (1 ≤ items.length ∧ items.length ≤ MAX_EXAMPLES) ∨
        ¬ items.all (isBoundedText MAX_EXAMPLE_LENGTH) then ["invalid_" ++ field] else []
  | _ => ["invalid_" ++ field]

/-- The last loop of the validation, over the members of the definition. -/
def memberErrors (member : String × Payload) : List String :=
  (if casefold member.1 ∈ FORBIDDEN_KEYS then ["capability_expansion"] else []) ++
    if containsDangerousText isWord member.2 then ["unsafe_instruction_text"] else []

def validateSkillDefinition (definition : Members) : Except String (Bool × List String) := do
  let scope ← scopeErrors definition
  let errors := triggerErrors definition ++ policyErrors definition ++
    actionErrors "allowed_actions" "unsafe_action" definition ++
    actionErrors "allowed_decisions" "unsafe_decision_set" definition ++ scope ++
    forbiddenToolErrors definition ++ ttlErrors definition ++
    exampleErrors "positive_examples" definition ++ exampleErrors "negative_examples" definition ++
    definition.flatMap (memberErrors isWord casefold)
  return (errors.isEmpty, errors)

/-- No key names a capability, and no string, key or value, is dangerous. -/
structure SmugglesNothing (definition : Members) : Prop where
  keys : ∀ key ∈ Payload.memberKeys definition, casefold key ∉ FORBIDDEN_KEYS
  texts : ∀ text ∈ Payload.memberKeys definition ++ Payload.memberTexts definition,
    search (DANGEROUS_TEXT isWord) text = false

end Validation

section Walk

variable {isWord : Char → Bool} {casefold : String → String}

mutual

/-- The walk finds what the values contain. -/
theorem containsDangerousText_eq_false : ∀ v : Payload, containsDangerousText isWord v = false ↔
    ∀ text ∈ v.texts, search (DANGEROUS_TEXT isWord) text = false
  | .null | .bool _ | .int _ | .float _ => by simp [containsDangerousText, Payload.texts]
  | .str s => by simp [containsDangerousText, Payload.texts]
  | .arr l => by
    rw [containsDangerousText, Payload.texts]
    exact itemContainsDangerousText_eq_false l
  | .obj d => by
    rw [containsDangerousText, Payload.texts]
    exact memberContainsDangerousText_eq_false d

theorem itemContainsDangerousText_eq_false : ∀ l : List Payload,
    itemContainsDangerousText isWord l = false ↔
      ∀ text ∈ Payload.itemTexts l, search (DANGEROUS_TEXT isWord) text = false
  | [] => by simp [itemContainsDangerousText, Payload.itemTexts]
  | v :: l => by
    rw [itemContainsDangerousText, Bool.or_eq_false_iff, containsDangerousText_eq_false v,
      itemContainsDangerousText_eq_false l, Payload.itemTexts, List.forall_mem_append]

theorem memberContainsDangerousText_eq_false : ∀ d : List (String × Payload),
    memberContainsDangerousText isWord d = false ↔
      ∀ text ∈ Payload.memberTexts d, search (DANGEROUS_TEXT isWord) text = false
  | [] => by simp [memberContainsDangerousText, Payload.memberTexts]
  | (_, v) :: d => by
    rw [memberContainsDangerousText, Bool.or_eq_false_iff, containsDangerousText_eq_false v,
      memberContainsDangerousText_eq_false d, Payload.memberTexts, List.forall_mem_append]

end

theorem memberErrors_eq_nil {member : String × Payload} : memberErrors isWord casefold member = [] ↔
    casefold member.1 ∉ FORBIDDEN_KEYS ∧
      ∀ text ∈ member.2.texts, search (DANGEROUS_TEXT isWord) text = false := by
  rw [← containsDangerousText_eq_false]
  unfold memberErrors
  split_ifs with hkey htext <;> simp_all

/-- An accepted definition has passed the loop over its members. -/
theorem members_of_accepted {definition : Members} {errors : List String}
    (h : validateSkillDefinition isWord casefold definition = .ok (true, errors)) :
    ∀ member ∈ definition, memberErrors isWord casefold member = [] := by
  unfold validateSkillDefinition at h
  cases hscope : scopeErrors definition with
  | error e => rw [hscope] at h; cases h
  | ok scope =>
    rw [hscope] at h
    -- The errors of the loop come last among those that must all be absent.
    injection h with h
    have hempty := (Prod.mk.inj h).1
    rw [List.isEmpty_iff] at hempty
    exact List.flatMap_eq_nil_iff.mp (List.append_eq_nil_iff.mp hempty).2

variable {definition : Members} {errors : List String}

/-- The validation has looked at the values of every depth and at the keys of the definition itself, so
that nothing is smuggled exactly if the keys below name no capability and no key is dangerous. -/
theorem smugglesNothing_iff
    (h : validateSkillDefinition isWord casefold definition = .ok (true, errors)) :
    SmugglesNothing isWord casefold definition ↔
      (∀ member ∈ definition, ∀ key ∈ member.2.keys, casefold key ∉ FORBIDDEN_KEYS) ∧
        ∀ key ∈ Payload.memberKeys definition, search (DANGEROUS_TEXT isWord) key = false := by
  have hmembers : ∀ member ∈ definition, casefold member.1 ∉ FORBIDDEN_KEYS ∧
      ∀ text ∈ member.2.texts, search (DANGEROUS_TEXT isWord) text = false :=
    fun member hmember => memberErrors_eq_nil.mp (members_of_accepted h member hmember)
  constructor
  · rintro ⟨hkeys, htexts⟩
    refine ⟨fun member hmember key hkey => hkeys key ?_, fun key hkey => htexts key ?_⟩
    · exact Payload.mem_memberKeys.mpr (Or.inr ⟨member, hmember, hkey⟩)
    · exact List.mem_append_left _ hkey
  · rintro ⟨hbelow, hkeys⟩
    constructor
    · intro key hkey
      -- The last loop checks the keys of the definition, and none below them.
      rcases Payload.mem_memberKeys.mp hkey with hkey | ⟨member, hmember, hkey⟩
      · obtain ⟨member, hmember, rfl⟩ := List.mem_map.mp hkey
        exact (hmembers member hmember).1
      · exact hbelow member hmember key hkey
    · intro text htext
      rcases List.mem_append.mp htext with htext | htext
      · exact hkeys text htext
      · obtain ⟨member, hmember, htext⟩ := Payload.mem_memberTexts.mp htext
        exact (hmembers member hmember).2 text htext

end Walk

section Demo

def isAsciiWord (c : Char) : Bool := c.isAlphanum || c == '_'

/-- The lower case of the letters of ASCII. -/
def asciiCasefold (s : String) : String := String.ofList (s.toList.map Char.toLower)

/-- A definition with one more member in its trigger. -/
def demoDefinition (key : String) : Members :=
  [("trigger", .obj [("keywords", .arr [.str "a"]), (key, .str "b")]),
    ("response_policy", .str "conversational_response"),
    ("scope", .obj [("type", .str "tenant"), ("value", .str "t")]),
    ("forbidden_tools", .arr []), ("ttl_seconds", .int 60),
    ("positive_examples", .arr [.str "a"]), ("negative_examples", .arr [.str "b"])]

/-- The validation accepts a tool in the trigger, a key that is a statement, and a plain key. -/
instance demo_accepted : Fact (∀ key ∈ ["Tools", "drop x", "note"],
    validateSkillDefinition isAsciiWord asciiCasefold (demoDefinition key) = .ok (true, [])) :=
  ⟨by decide +kernel⟩

instance demo_keys : Fact (asciiCasefold "Tools" ∈ FORBIDDEN_KEYS ∧
    search (DANGEROUS_TEXT isAsciiWord) "drop x" = true) := ⟨by decide +kernel⟩

theorem mem_demo_keys (key : String) : key ∈ Payload.memberKeys (demoDefinition key) := by
  simp [demoDefinition, Payload.memberKeys, Payload.keys]

theorem smugglesNothing_iff_demo :
    ¬ SmugglesNothing isAsciiWord asciiCasefold (demoDefinition "Tools") := by
  have haccepted := demo_accepted.out "Tools" List.mem_cons_self
  intro h
  have hbelow := ((smugglesNothing_iff haccepted).mp h).1
  refine hbelow _ List.mem_cons_self "Tools" ?_ demo_keys.out.1
  simp [Payload.keys, Payload.memberKeys]

/-- A tool in the trigger is accepted, and so is a statement as a key. -/
theorem nested_keys_accepted :
    (validateSkillDefinition isAsciiWord asciiCasefold (demoDefinition "Tools") = .ok (true, []) ∧
      ¬ SmugglesNothing isAsciiWord asciiCasefold (demoDefinition "Tools")) ∧
    validateSkillDefinition isAsciiWord asciiCasefold (demoDefinition "drop x") = .ok (true, []) ∧
      ¬ SmugglesNothing isAsciiWord asciiCasefold (demoDefinition "drop x") := by
  refine ⟨⟨demo_accepted.out _ (by simp), fun h => ?_⟩, demo_accepted.out _ (by simp), fun h => ?_⟩
  · exact h.keys "Tools" (mem_demo_keys "Tools") demo_keys.out.1
  · have hsafe := h.texts "drop x" (List.mem_append_left _ (mem_demo_keys "drop x"))
    rw [demo_keys.out.2] at hsafe
    cases hsafe

end Demo

end CommerceAgent.Skills
