import CommerceAgent.CatalogSplits
import CommerceAgent.JsonLines

/-! The dataset loaders on files of any content: which exceptions they turn into the error that they
promise, which ones get past them, and what a dataset is that they return. -/
namespace CommerceAgent.Loaders

open Json

/-- The exceptions by their classes; `contract` is the error that the loader promises. -/
inductive Raised where
  | contract (message : String)
  | unicodeDecode
  | jsonDecode
  | csv
  | validation
  | key
  | type
  | value
  | attribute
  | recursion
  deriving DecidableEq

section Containment

variable {α β σ : Type}

/-- Nothing but the promised error is raised. -/
def Contained (r : Except Raised α) : Prop := ∀ e, r = .error e → ∃ message, e = .contract message

@[simp] theorem contained_ok (a : α) : Contained (.ok a : Except Raised α) := by
  intro e h
  cases h

@[simp] theorem contained_pure (a : α) : Contained (pure a : Except Raised α) := contained_ok a

theorem contained_error {e : Raised} :
    Contained (.error e : Except Raised α) ↔ ∃ message, e = .contract message := by
  constructor
  · exact fun h => h e rfl
  · rintro h e' he'
    obtain rfl := Except.error.inj he'
    exact h

@[simp] theorem contained_contract (message : String) :
    Contained (.error (.contract message) : Except Raised α) := contained_error.mpr ⟨message, rfl⟩

theorem contained_bind {x : Except Raised α} {f : α → Except Raised β} :
    Contained (x >>= f) ↔ Contained x ∧ ∀ a, x = .ok a → Contained (f a) := by
  cases x with
  | error e =>
    have hbind : ((.error e : Except Raised α) >>= f) = .error e := rfl
    rw [hbind, contained_error, contained_error]
    exact ⟨fun h => ⟨h, nofun⟩, fun h => h.1⟩
  | ok a =>
    have hbind : ((.ok a : Except Raised α) >>= f) = f a := rfl
    rw [hbind]
    refine ⟨fun h => ⟨contained_ok a, ?_⟩, fun h => h.2 a rfl⟩
    rintro b hb
    obtain rfl := Except.ok.inj hb
    exact h

/-- A loop is contained exactly if each of its steps is, from the state that the ones before it leave. -/
theorem contained_foldlM {step : σ → α → Except Raised σ} {l : List α} {s : σ} :
    Contained (l.foldlM step s) ↔ ∀ before a after, l = before ++ a :: after →
      ∀ s', before.foldlM step s = .ok s' → Contained (step s' a) := by
  induction l generalizing s with
  | nil =>
    refine ⟨fun _ before a after h => ?_, fun _ => contained_ok s⟩
    exact absurd h (by simp)
  | cons b l ih =>
    rw [List.foldlM_cons, contained_bind]
    constructor
    · rintro ⟨hfirst, hrest⟩ before a after hsplit s' hs'
      cases before with
      | nil =>
        obtain ⟨rfl, rfl⟩ := List.cons.inj hsplit
        obtain rfl := Except.ok.inj hs'
        exact hfirst
      | cons c before =>
        obtain ⟨rfl, hrest'⟩ := List.cons.inj hsplit
        rw [List.foldlM_cons] at hs'
        cases hstep : step s b with
        | error e =>
          rw [hstep] at hs'
          cases hs'
        | ok s₁ =>
          rw [hstep] at hs'
          exact ih.mp (hrest s₁ hstep) before a after hrest' s' hs'
    · intro h
      refine ⟨h [] b l rfl s rfl, fun s₁ hstep => ih.mpr ?_⟩
      intro before a after hsplit s' hs'
      refine h (b :: before) a after (by rw [hsplit]; rfl) s' ?_
      rw [List.foldlM_cons, hstep]
      exact hs'

/-- A run keeps what each step keeps. -/
theorem foldlM_invariant {step : σ → α → Except Raised σ} {P : σ → Prop} {l : List α} {s s' : σ}
    (h : l.foldlM step s = .ok s') (hstart : P s)
    (hstep : ∀ s a s', P s → step s a = .ok s' → P s') : P s' := by
  induction l generalizing s with
  | nil =>
    obtain rfl := Except.ok.inj h
    exact hstart
  | cons a l ih =>
    rw [List.foldlM_cons] at h
    cases ha : step s a with
    | error e =>
      rw [ha] at h
      cases h
    | ok s₁ =>
      rw [ha] at h
      exact ih h (hstep s a s₁ hstart ha)

theorem mapM_length {f : α → Except Raised β} {l : List α} {l' : List β} (h : l.mapM f = .ok l') :
    l.length = l'.length := by
  induction l generalizing l' with
  | nil =>
    rw [List.mapM_nil] at h
    obtain rfl := Except.ok.inj h
    rfl
  | cons a l ih =>
    rw [List.mapM_cons] at h
    cases ha : f a with
    | error e =>
      rw [ha] at h
      cases h
    | ok b =>
      rw [ha] at h
      cases hl : l.mapM f with
      | error e =>
        rw [hl] at h
        cases h
      | ok bs =>
        rw [hl] at h
        obtain rfl := Except.ok.inj h
        rw [List.length_cons, List.length_cons, ih hl]

theorem exists_of_mapM_error {f : α → Except Raised β} {l : List α} {e : Raised} (h : l.mapM f = .error e) :
    ∃ a ∈ l, f a = .error e := by
  induction l with
  | nil =>
    rw [List.mapM_nil] at h
    cases h
  | cons a l ih =>
    rw [List.mapM_cons] at h
    cases ha : f a with
    | error e' =>
      rw [ha] at h
      obtain rfl := Except.error.inj h
      exact ⟨a, List.mem_cons_self, ha⟩
    | ok b =>
      rw [ha] at h
      cases hl : l.mapM f with
      | error e' =>
        rw [hl] at h
        obtain rfl := Except.error.inj h
        obtain ⟨c, hc, hfc⟩ := ih hl
        exact ⟨c, List.mem_cons_of_mem _ hc, hfc⟩
      | ok bs =>
        rw [hl] at h
        cases h

theorem nodup_map_snoc {f : α → β} {l : List α} {a : α} (h : (l.map f).Nodup) (ha : f a ∉ l.map f) :
    ((l ++ [a]).map f).Nodup := by
  rw [List.map_append, List.map_singleton, List.nodup_append]
  refine ⟨h, List.nodup_singleton _, ?_⟩
  rintro b hb c hc rfl
  exact ha (List.mem_singleton.mp hc ▸ hb)

theorem bind_eq_ok {x : Except Raised α} {f : α → Except Raised β} {b : β} (h : x >>= f = .ok b) :
    ∃ a, x = .ok a ∧ f a = .ok b := by
  cases x with
  | error e => cases h
  | ok a => exact ⟨a, rfl, h⟩

end Containment

section Parsers

/-- The exceptions of `json.loads`; a number may have too many digits, and a value too many levels. -/
inductive LoadsError where
  | decode
  | value
  | recursion

def LoadsError.raised : LoadsError → Raised
  | decode => .jsonDecode
  | value => .value
  | recursion => .recursion

/-- The decoding of UTF-8, `json.loads` and `csv.DictReader`. In a row a column is there with its text, or
with `None` where the row is short. -/
structure Parsers where
  decode : List UInt8 → Option (List Char)
  /-- The same for a file that may begin with a byte order mark. -/
  decodeSig : List UInt8 → Option (List Char)
  loads : List Char → Except LoadsError Payload
  readCsv : List Char → Option (List (List (String × Option String)))

variable (parsers : Parsers)

def readText (bytes : List UInt8) : Except Raised (List Char) :=
  match parsers.decode bytes with
  | some text => .ok text
  | none => .error .unicodeDecode

def jsonLoads (line : List Char) : Except Raised Payload :=
  match parsers.loads line with
  | .ok v => .ok v
  | .error e => .error e.raised

end Parsers

section Cases

/-- An item of a sequence as `dict()` takes it. -/
def pyPair : Payload → Except Raised (Payload × Payload)
  | .arr [.arr _, _] | .arr [.obj _, _] => .error .type
  | .arr [k, v] => .ok (k, v)
  | .arr _ => .error .value
  | .str s =>
    match s.toList with
    | [k, v] => .ok (.str (String.ofList [k]), .str (String.ofList [v]))
    | _ => .error .value
  | .obj [(k, _), (l, _)] => .ok (.str k, .str l)
  | .obj _ => .error .value
  | _ => .error .type

/-- `dict(raw)`. -/
def pyDict : Payload → Except Raised (List (Payload × Payload))
  | .obj d => .ok (d.map fun kv => (.str kv.1, kv.2))
  | .arr items => items.mapM pyPair
  | .str s => if s = "" then .ok [] else .error .value
  | _ => .error .type

def isKey (name : String) : Payload → Bool
  | .str s => s == name
  | _ => false

/-- The keyword arguments, if all keys are strings; of equal ones the last stands. -/
def keywords : List (Payload × Payload) → Option Members
  | [] => some []
  | (.str k, v) :: items => (keywords items).map fun d => if (d.get? k).isSome then d else (k, v) :: d
  | _ => none

/-- What the model of a case makes of its fields. -/
structure CaseModel (κ : Type) where
  validate : Members → Members → Option κ
  id : κ → String
  taskType : κ → String

variable {κ : Type} (model : CaseModel κ) (parsers : Parsers)

/-- `EvalCase.from_raw` on the items of `dict(raw)`. -/
def fromItems (items : List (Payload × Payload)) : Except Raised κ :=
  match (items.reverse.find? fun kv => isKey "expected" kv.1).map Prod.snd with
  | none => .error .key
  | some (.obj expected) =>
    match keywords (items.filter fun kv => !isKey "expected" kv.1) with
    | none => .error .type
    | some fields =>
      match model.validate expected fields with
      | some case => .ok case
      | none => .error .validation
  | some _ => .error .validation

/-- `EvalCase.from_raw`. -/
def fromRaw (raw : Payload) : Except Raised κ := pyDict raw >>= fromItems model

/-- The `except` clause of the loop. -/
def caught (number : ℕ) : Raised → Raised
  | .jsonDecode | .validation | .key => .contract ("invalid case at line " ++ number.repr)
  | e => e

def caseStep (cases : List κ) (line : List Char × ℕ) : Except Raised (List κ) :=
  if Lines.isBlank line.1 then .error (.contract ("blank line at " ++ line.2.repr))
  else
    match jsonLoads parsers line.1 >>= fromRaw model with
    | .error e => .error (caught line.2 e)
    | .ok case =>
      if model.id case ∈ cases.map model.id then .error (.contract "duplicate case identifier")
      else .ok (cases ++ [case])

/-- The counts are those of the manifest; a track without a case has no count. -/
def countsMatch (expectedCounts : List (String × ℕ)) (cases : List κ) : Bool :=
  (expectedCounts.all fun tc =>
    decide (0 < tc.2 ∧ cases.countP (fun case => model.taskType case = tc.1) = tc.2)) &&
  cases.all fun case => (expectedCounts.map Prod.fst).contains (model.taskType case)

def validateFullDataset (expectedCounts : List (String × ℕ)) (cases : List κ) : Except Raised Unit :=
  if cases.length ≠ (expectedCounts.map Prod.snd).sum then .error (.contract "unexpected case count")
  else if ¬ countsMatch model expectedCounts cases then .error (.contract "unexpected track counts")
  else .ok ()

def caseLines (bytes : List UInt8) : Except Raised (List κ) := do
  let text ← readText parsers bytes
  ((Lines.splitlines text).zipIdx 1).foldlM (caseStep model parsers) []

/-- `CaseLoader.load` on the bytes of its dataset. -/
def loadCases (expectedCounts : List (String × ℕ)) (track caseId : Option String) (bytes : List UInt8) :
    Except Raised (List κ) := do
  let cases ← caseLines model parsers bytes
  validateFullDataset model expectedCounts cases
  let filtered := cases.filter fun case => track.all fun track => model.taskType case == track
  if track.any fun track => !(expectedCounts.map Prod.fst).contains track then
    .error (.contract "unknown track")
  else match caseId with
  | none => .ok filtered
  | some caseId =>
    let filtered := filtered.filter fun case => model.id case == caseId
    if filtered = [] then .error (.contract "case identifier not found") else .ok filtered

/-- A line whose value is not taken for a case, in a way that the loader does not expect: the JSON parser
gives up on it, or `dict` or the call refuses it. -/
def Unforeseen (line : List Char) : Prop :=
  Lines.isBlank line = false ∧ ∃ e, (jsonLoads parsers line >>= fromRaw model) = .error e ∧
    e ∈ [Raised.value, Raised.recursion, Raised.type]

/-- The file is text, and no line that the loader comes to is unforeseen. -/
structure CaseFileSound (bytes : List UInt8) : Prop where
  text : (parsers.decode bytes).isSome = true
  lines : ∀ text, parsers.decode bytes = some text →
    ∀ before line after, (Lines.splitlines text).zipIdx 1 = before ++ line :: after →
      (∃ cases, before.foldlM (caseStep model parsers) [] = .ok cases) → ¬ Unforeseen model parsers line.1

/-- What the cases are that are returned: some of the full dataset, with its identifiers and counts. -/
structure CaseShape (expectedCounts : List (String × ℕ)) (returned : List κ) : Prop where
  full : ∃ cases : List κ, (cases.map model.id).Nodup ∧ countsMatch model expectedCounts cases = true ∧
    returned.Sublist cases

end Cases

section Fixtures

/-- What the model of a fixture makes of a JSON value. -/
structure FixtureModel (φ : Type) where
  validate : Payload → Option φ
  caseId : φ → String

variable {φ : Type} (model : FixtureModel φ) (parsers : Parsers)

def fixtureStep (fixtures : List φ) (line : List Char × ℕ) : Except Raised (List φ) :=
  if Lines.isBlank line.1 then .error (.contract ("blank runtime fixture line at " ++ line.2.repr))
  else
    match jsonLoads parsers line.1 with
    | .error .jsonDecode => .error (.contract ("invalid runtime fixture at line " ++ line.2.repr))
    | .error e => .error e
    | .ok v =>
      match model.validate v with
      | none => .error (.contract ("invalid runtime fixture at line " ++ line.2.repr))
      | some fixture =>
        if model.caseId fixture ∈ fixtures.map model.caseId then
          .error (.contract "duplicate runtime fixture case identifier")
        else .ok (fixtures ++ [fixture])

/-- `RuntimeFixtureLoader.load` on the bytes of its file. -/
def loadFixtures (bytes : List UInt8) : Except Raised (List φ) := do
  let text ← readText parsers bytes
  let fixtures ← ((Lines.splitlines text).zipIdx 1).foldlM (fixtureStep model parsers) []
  if fixtures = [] then .error (.contract "runtime fixture is empty") else .ok fixtures

/-- The file is text, and the JSON parser gives up on no line that the loader comes to. -/
structure FixtureFileSound (bytes : List UInt8) : Prop where
  text : (parsers.decode bytes).isSome = true
  lines : ∀ text, parsers.decode bytes = some text →
    ∀ before line after, (Lines.splitlines text).zipIdx 1 = before ++ line :: after →
      (∃ fixtures, before.foldlM (fixtureStep model parsers) [] = .ok fixtures) →
        Lines.isBlank line.1 = false →
          jsonLoads parsers line.1 ≠ .error .value ∧ jsonLoads parsers line.1 ≠ .error .recursion

end Fixtures

section Catalogs

open Catalog Texts

abbrev Row : Type := List (String × Option String)

/-- `row.get(column, default)` as far as a method of a string is called on it. -/
def cell (row : Row) (column default : String) : Except Raised String :=
  match row.lookup column with
  | none => .ok default
  | some (some s) => .ok s
  | some none => .error .attribute

def hasLength (low high : ℕ) (s : String) : Bool := decide (low ≤ s.length ∧ s.length ≤ high)

def validSpec (fact : SpecFact) : Bool :=
  hasLength 1 128 fact.specKey && hasLength 1 512 fact.value && hasLength 1 800 fact.raw

/-- The fact of a fragment, which is not empty. -/
def specFact (fragment : String) : SpecFact :=
  if ':' ∈ fragment.toList then {
    specKey := strip (String.ofList (fragment.toList.takeWhile (· ≠ ':')))
    value := strip (String.ofList ((fragment.toList.dropWhile (· ≠ ':')).drop 1))
    raw := fragment }
  else ⟨fragment, fragment, fragment⟩

/-- The facts of `parse_specs` before they are validated. -/
def specFacts (raw : String) : List SpecFact :=
  (((raw.toList.splitOn ';').map fun l => strip (String.ofList l)).filter (· ≠ "")).map specFact

def parseSpecs (raw : String) : Except Raised (List SpecFact) :=
  if ¬ (specFacts raw).all validSpec then .error .validation
  else if specFacts raw = [] then .error (.contract "product specs cannot be empty")
  else .ok (specFacts raw)

/-- `^P[0-9]{4,}$`. -/
def validProductId (productId : String) : Bool :=
  match productId.toList with
  | 'P' :: digits => decide (4 ≤ digits.length) && digits.all Char.isDigit
  | _ => false

def validProduct (product : ProductRecord) : Bool :=
  validProductId product.productId && hasLength 1 256 product.productName &&
    hasLength 1 2000 product.productDesc && hasLength 1 64 product.price && !product.specs.isEmpty

abbrev Products : Type := List (String × ProductRecord)

def productStep (products : Products) (row : Row) : Except Raised Products := do
  let productId ← strip <$> cell row "product_id" ""
  if productId = "" ∨ productId ∈ products.map Prod.fst then
    .error (.contract ("duplicate or empty product ID: " ++ productId))
  else do
    let productName ← strip <$> cell row "product_name" ""
    let productDesc ← strip <$> cell row "product_desc" ""
    let price ← strip <$> cell row "price" ""
    let specs ← cell row "specs" "" >>= parseSpecs
    let product : ProductRecord := ⟨productId, productName, productDesc, price, specs⟩
    if validProduct product then .ok (products ++ [(productId, product)]) else .error .validation

variable (parsers : Parsers)

/-- `_read_csv`. -/
def readCsv (bytes : List UInt8) : Except Raised (List Row) :=
  match parsers.decodeSig bytes with
  | none => .error .unicodeDecode
  | some text =>
    match parsers.readCsv text with
    | some rows => .ok rows
    | none => .error .csv

def loadProducts (bytes : List UInt8) : Except Raised Products := do
  let rows ← readCsv parsers bytes
  rows.foldlM productStep []

/-- The questions in the order of their first rows, each with its numbered rows. -/
abbrev Groups : Type := List (String × List (ℕ × Row))

def addToGroup (question : String) (row : ℕ × Row) : Groups → Groups
  | [] => [(question, [row])]
  | (q, rows) :: groups =>
    if q = question then (q, rows ++ [row]) :: groups else (q, rows) :: addToGroup question row groups

def groupStep (grouped : Groups) (row : Row × ℕ) : Except Raised Groups := do
  let question ← strip <$> cell row.1 "question" ""
  if question = "" then .error (.contract ("empty question at QA row " ++ row.2.repr))
  else .ok (addToGroup question (row.2, row.1) grouped)

/-- The text after `隐含需求` and a colon, if it goes to the end of the profile. -/
def impliedNeeds (profile : String) : Option String :=
  let marker := "隐含需求".toList
  (List.range profile.toList.length).findSome? fun i =>
    let rest := profile.toList.drop i
    match rest.drop marker.length with
    | c :: needs =>
      let line := needs.takeWhile (· ≠ '\n')
      if rest.take marker.length = marker ∧ (c = ':' ∨ c = '：') ∧
          needs.drop line.length ∈ [[], ['\n']] then some (String.ofList line) else none
    | [] => none

def extractConstraints (profile question : String) : List String :=
  let source := (impliedNeeds profile).getD profile
  let values := ((source.toList.splitOnP (· ∈ ['、', ',', '，', ';', '；'])).map fun l =>
    strip (String.ofList l)).filter (· ≠ "")
  if values ≠ [] then values.eraseDups else ["安全"].filter fun part => contains question part

def requiredEvidence (constraints : List String) (product : ProductRecord) : List String :=
  (constraints.filterMap fun constraint => (product.specs.find? fun fact =>
    contains fact.specKey constraint || contains fact.value constraint ||
      contains product.productDesc constraint).map SpecFact.specKey).eraseDups

def orUnknown (s : String) : String := if s = "" then "unknown" else s

def validSeed (question userProfile failureType trapFamily : String) : Bool :=
  hasLength 1 4000 question && hasLength 1 2000 userProfile && hasLength 1 128 failureType &&
    hasLength 1 256 trapFamily

/-- A question with its candidates and their gold, as the loader goes on with it. -/
structure Seed where
  index : ℕ
  question : String
  userProfile : String
  candidateProductIds : List String
  goldProductIds : List String
  requiredConstraints : List String
  requiredEvidence : List String
  failureType : String
  trapFamily : String

/-- The candidates and the gold of a group, or what is wrong with them. -/
def candidatesOf (products : Products) (question : String) (rows : List (ℕ × Row)) :
    Except Raised (List String × List String) :=
  if rows.length ≠ 5 then
    .error (.contract ("question does not have exactly five candidates: " ++ question))
  else do
    let candidateIds ← rows.mapM fun row => strip <$> cell row.2 "product_id" ""
    if ¬ candidateIds.Nodup ∨ ¬ candidateIds.all fun id => (products.map Prod.fst).contains id then
      .error (.contract ("candidate product IDs are invalid: " ++ question))
    else
      let correct := ((rows.zip candidateIds).filter fun rc =>
        rc.1.2.lookup "is_correct" == some (some "是")).map Prod.snd
      if 1 < correct.length then
        .error (.contract ("question must have one gold or no gold: " ++ question))
      else .ok (candidateIds, correct)

/-- The evidence that the gold product is required to have. -/
def evidenceOf (products : Products) (constraints : List String) : List String → List String
  | gold :: _ => ((products.lookup gold).map (requiredEvidence constraints)).getD []
  | [] => []

/-- The profile that `_extract_constraints` searches; on `None` it is `re.search` that raises. -/
def profileOf (first : Row) : Except Raised String :=
  match cell first "user_profile" "" with
  | .error _ => .error .type
  | .ok profile => .ok profile

/-- The seed of a group whose candidates are in order. -/
def seedOf (products : Products) (index : ℕ) (question : String) (first : Row)
    (candidates : List String × List String) : Except Raised Seed := do
  let profile ← profileOf first
  let constraints := extractConstraints profile question
  let failureType ← (fun s => orUnknown (strip s)) <$> cell first "failure_type" "unknown"
  let trapFamily ← (fun s => orUnknown (strip s)) <$> cell first "trap_type" "unknown"
  let userProfile := orUnknown (strip profile)
  if validSeed question userProfile failureType trapFamily then .ok {
    index := index
    question := question
    userProfile := userProfile
    candidateProductIds := candidates.1
    goldProductIds := candidates.2
    requiredConstraints := constraints
    requiredEvidence := evidenceOf products constraints candidates.2
    failureType := failureType
    trapFamily := trapFamily }
  else .error .validation

def seedStep (products : Products) (seeds : List Seed) (group : (String × List (ℕ × Row)) × ℕ) :
    Except Raised (List Seed) := do
  let candidates ← candidatesOf products group.1.1 group.1.2
  let seed ← seedOf products group.2 group.1.1 ((group.1.2.head?.map Prod.snd).getD []) candidates
  .ok (seeds ++ [seed])

/-- The counts that `strict_counts` asks for. -/
def checkCounts (strict : Bool) (products : Products) (seeds : List Seed) : Except Raised Unit :=
  let selection := seeds.countP fun seed => seed.goldProductIds.length = 1
  if strict ∧ (products.length ≠ 500 ∨ seeds.length ≠ 100) then
    .error (.contract ("expected 500 products and 100 questions, got " ++ products.length.repr ++ " and " ++
      seeds.length.repr))
  else if seeds ≠ [] ∧ (selection ≠ 99 ∨ seeds.length - selection ≠ 1) ∧ strict then
    .error (.contract "expected 99 selection seeds and one safety seed")
  else .ok ()

/-- `CatalogLoader.load` on the bytes of its two files. -/
def loadCatalog (strict : Bool) (productBytes qaBytes : List UInt8) :
    Except Raised (Products × List Seed) := do
  let products ← loadProducts parsers productBytes
  let rows ← readCsv parsers qaBytes
  let grouped ← (rows.zipIdx 2).foldlM groupStep []
  let seeds ← (grouped.zipIdx 1).foldlM (seedStep products) []
  checkCounts strict products seeds
  .ok (products, seeds)

/-- The row is long enough for the column. -/
def Full (row : Row) (column : String) : Prop := row.lookup column ≠ some none

def textOf (row : Row) (column default : String) : String := ((row.lookup column).getD (some default)).getD ""

/-- Every cell that a product is made of is there, and so is the product, or the loader has an error for it. -/
structure ProductRowSound (products : Products) (row : Row) : Prop where
  id : Full row "product_id"
  record : strip (textOf row "product_id" "") ≠ "" →
    strip (textOf row "product_id" "") ∉ products.map Prod.fst →
      Full row "product_name" ∧ Full row "product_desc" ∧ Full row "price" ∧ Full row "specs" ∧
      (specFacts (textOf row "specs" "")).all validSpec = true ∧
      (specFacts (textOf row "specs" "") ≠ [] →
        validProduct ⟨strip (textOf row "product_id" ""), strip (textOf row "product_name" ""),
          strip (textOf row "product_desc" ""), strip (textOf row "price" ""),
          specFacts (textOf row "specs" "")⟩ = true)

/-- The same for a question: its rows have their products, and the first one its other cells. -/
structure GroupSound (products : Products) (question : String) (rows : List (ℕ × Row)) : Prop where
  ids : rows.length = 5 → ∀ row ∈ rows, Full row.2 "product_id"
  seed : (∃ candidates, candidatesOf products question rows = .ok candidates) →
    ∀ first, first = (rows.head?.map Prod.snd).getD [] →
      Full first "user_profile" ∧ Full first "failure_type" ∧ Full first "trap_type" ∧
      validSeed question (orUnknown (strip (textOf first "user_profile" "")))
        (orUnknown (strip (textOf first "failure_type" "unknown")))
        (orUnknown (strip (textOf first "trap_type" "unknown"))) = true

/-- Both files are readable, and every row and question that the loader comes to is sound. -/
structure CatalogFilesSound (productBytes qaBytes : List UInt8) : Prop where
  productFile : ∃ rows, readCsv parsers productBytes = .ok rows
  products : ∀ rows, readCsv parsers productBytes = .ok rows → ∀ before row after,
    rows = before ++ row :: after → ∀ products, before.foldlM productStep [] = .ok products →
      ProductRowSound products row
  questionFile : (∃ products, loadProducts parsers productBytes = .ok products) →
    ∃ rows, readCsv parsers qaBytes = .ok rows
  questions : (∃ products, loadProducts parsers productBytes = .ok products) →
    ∀ rows, readCsv parsers qaBytes = .ok rows → ∀ before row after, rows.zipIdx 2 = before ++ row :: after →
      (∃ grouped, before.foldlM groupStep [] = .ok grouped) → Full row.1 "question"
  groups : ∀ products, loadProducts parsers productBytes = .ok products →
    ∀ rows, readCsv parsers qaBytes = .ok rows → ∀ grouped, (rows.zipIdx 2).foldlM groupStep [] = .ok grouped →
      ∀ before group after, grouped.zipIdx 1 = before ++ group :: after →
        (∃ seeds, before.foldlM (seedStep products) [] = .ok seeds) →
          GroupSound products group.1.1 group.1.2

variable {row : Row} {column default : String}

theorem contained_map {α β : Type} {f : α → β} {x : Except Raised α} :
    Contained (f <$> x) ↔ Contained x := by
  cases x with
  | error e =>
    show Contained (.error e) ↔ _
    rw [contained_error, contained_error]
  | ok a =>
    show Contained (.ok (f a)) ↔ _
    simp

theorem cell_of_full (h : Full row column) : cell row column default = .ok (textOf row column default) := by
  unfold cell textOf Full at *
  cases hlookup : row.lookup column with
  | none => rfl
  | some found =>
    cases found with
    | none => exact absurd hlookup h
    | some s => rfl

theorem cell_of_short (h : ¬ Full row column) : cell row column default = .error .attribute := by
  rw [Full, not_not] at h
  rw [cell, h]

/-- A step that reads a cell is contained if the cell is there and the rest of the step is. -/
theorem contained_cell {α β : Type} {f : String → α} {g : α → Except Raised β} :
    Contained ((f <$> cell row column default) >>= g) ↔
      Full row column ∧ Contained (g (f (textOf row column default))) := by
  by_cases hfull : Full row column
  · rw [cell_of_full hfull]
    exact ⟨fun h => ⟨hfull, h⟩, fun h => h.2⟩
  · rw [cell_of_short hfull]
    show Contained (.error .attribute) ↔ _
    rw [contained_error]
    exact ⟨fun ⟨_, h⟩ => (nomatch h), fun h => absurd h.1 hfull⟩

theorem contained_parseSpecs {raw : String} :
    Contained (parseSpecs raw) ↔ (specFacts raw).all validSpec = true := by
  unfold parseSpecs
  split
  · rename_i hinvalid
    rw [contained_error]
    exact ⟨fun ⟨_, h⟩ => (nomatch h), fun h => absurd h hinvalid⟩
  · rename_i hvalid
    split
    · simpa using hvalid
    · simpa using hvalid

theorem contained_productStep {products : Products} :
    Contained (productStep products row) ↔ ProductRowSound products row := by
  unfold productStep
  rw [contained_cell]
  constructor
  · rintro ⟨hid, h⟩
    refine ⟨hid, fun hne hfresh => ?_⟩
    rw [if_neg (not_or.mpr ⟨hne, hfresh⟩)] at h
    rw [contained_cell, contained_cell, contained_cell, contained_bind] at h
    obtain ⟨hname, hdesc, hprice, hspecs, hrecord⟩ := h
    have hfull : Full row "specs" := by
      by_contra hshort
      rw [cell_of_short hshort] at hspecs
      exact absurd (contained_error.mp hspecs) (by simp)
    rw [cell_of_full hfull] at hspecs hrecord
    have hvalid : (specFacts (textOf row "specs" "")).all validSpec = true :=
      contained_parseSpecs.mp hspecs
    refine ⟨hname, hdesc, hprice, hfull, hvalid, fun hfacts => ?_⟩
    have hparsed : parseSpecs (textOf row "specs" "") = .ok (specFacts (textOf row "specs" "")) := by
      rw [parseSpecs, if_neg (not_not.mpr hvalid), if_neg hfacts]
    have hproduct := hrecord _ hparsed
    by_contra hinvalid
    rw [if_neg hinvalid, contained_error] at hproduct
    exact absurd hproduct (by simp)
  · rintro ⟨hid, h⟩
    refine ⟨hid, ?_⟩
    split
    · exact contained_contract _
    rename_i hnew
    obtain ⟨hne, hfresh⟩ := not_or.mp hnew
    obtain ⟨hname, hdesc, hprice, hfull, hvalid, hproduct⟩ := h hne hfresh
    rw [contained_cell, contained_cell, contained_cell, contained_bind, cell_of_full hfull]
    refine ⟨hname, hdesc, hprice, contained_parseSpecs.mpr hvalid, fun specs hspecs => ?_⟩
    have hparsed : parseSpecs (textOf row "specs" "") = .ok specs := hspecs
    unfold parseSpecs at hparsed
    rw [if_neg (not_not.mpr hvalid)] at hparsed
    split at hparsed
    · cases hparsed
    · rename_i hfacts
      obtain rfl := Except.ok.inj hparsed
      rw [if_pos (hproduct hfacts)]
      exact contained_ok _

theorem contained_groupStep {grouped : Groups} {row : Row × ℕ} :
    Contained (groupStep grouped row) ↔ Full row.1 "question" := by
  unfold groupStep
  rw [contained_cell]
  refine ⟨fun h => h.1, fun h => ⟨h, ?_⟩⟩
  split
  · exact contained_contract _
  · exact contained_ok _

theorem contained_mapM_cell {rows : List (ℕ × Row)} :
    Contained (rows.mapM fun row => strip <$> cell row.2 "product_id" "") ↔
      ∀ row ∈ rows, Full row.2 "product_id" := by
  induction rows with
  | nil =>
    rw [List.mapM_nil]
    simp
  | cons row rows ih =>
    rw [List.mapM_cons, contained_cell, contained_bind, ih, List.forall_mem_cons]
    refine and_congr_right fun _ => ⟨fun h => h.1, fun h => ⟨h, fun ids _ => contained_pure _⟩⟩

theorem contained_candidatesOf {products : Products} {question : String} {rows : List (ℕ × Row)} :
    Contained (candidatesOf products question rows) ↔
      (rows.length = 5 → ∀ row ∈ rows, Full row.2 "product_id") := by
  unfold candidatesOf
  split
  · rename_i hlength
    exact ⟨fun _ h => absurd h hlength, fun _ => contained_contract _⟩
  · rename_i hlength
    rw [contained_bind, contained_mapM_cell]
    refine ⟨fun h _ => h.1, fun h => ⟨h (not_not.mp hlength), fun ids _ => ?_⟩⟩
    split
    · exact contained_contract _
    · dsimp only
      split
      · exact contained_contract _
      · exact contained_ok _

theorem contained_seedOf {products : Products} {index : ℕ} {question : String} {first : Row}
    {candidates : List String × List String} :
    Contained (seedOf products index question first candidates) ↔
      Full first "user_profile" ∧ Full first "failure_type" ∧ Full first "trap_type" ∧
      validSeed question (orUnknown (strip (textOf first "user_profile" "")))
        (orUnknown (strip (textOf first "failure_type" "unknown")))
        (orUnknown (strip (textOf first "trap_type" "unknown"))) = true := by
  unfold seedOf
  by_cases hprofile : Full first "user_profile"
  · have hread : profileOf first = .ok (textOf first "user_profile" "") := by
      rw [profileOf, cell_of_full hprofile]
    rw [hread]
    show Contained ((_ <$> cell first "failure_type" "unknown") >>= _) ↔ _
    rw [contained_cell, contained_cell]
    refine ⟨fun ⟨hfailure, htrap, h⟩ => ⟨hprofile, hfailure, htrap, ?_⟩,
      fun ⟨_, hfailure, htrap, h⟩ => ⟨hfailure, htrap, ?_⟩⟩
    · by_contra hinvalid
      rw [if_neg hinvalid, contained_error] at h
      exact absurd h (by simp)
    · rw [if_pos h]
      exact contained_ok _
  · have hread : profileOf first = .error .type := by rw [profileOf, cell_of_short hprofile]
    rw [hread]
    show Contained (.error .type) ↔ _
    rw [contained_error]
    exact ⟨fun ⟨_, h⟩ => (nomatch h), fun h => absurd h.1 hprofile⟩

theorem contained_seedStep {products : Products} {seeds : List Seed}
    {group : (String × List (ℕ × Row)) × ℕ} :
    Contained (seedStep products seeds group) ↔ GroupSound products group.1.1 group.1.2 := by
  unfold seedStep
  rw [contained_bind, contained_candidatesOf]
  constructor
  · rintro ⟨hids, hseed⟩
    refine ⟨hids, fun ⟨candidates, hcandidates⟩ first hfirst => ?_⟩
    have hrest := (contained_bind.mp (hseed candidates hcandidates)).1
    rw [← hfirst] at hrest
    exact contained_seedOf.mp hrest
  · rintro ⟨hids, hseed⟩
    refine ⟨hids, fun candidates hcandidates => ?_⟩
    refine contained_bind.mpr ⟨contained_seedOf.mpr (hseed ⟨candidates, hcandidates⟩ _ rfl), ?_⟩
    exact fun seed _ => contained_ok _

theorem contained_readCsv {bytes : List UInt8} :
    Contained (readCsv parsers bytes) ↔ ∃ rows, readCsv parsers bytes = .ok rows := by
  constructor
  · intro h
    cases hread : readCsv parsers bytes with
    | ok rows => exact ⟨rows, rfl⟩
    | error e =>
      obtain ⟨message, rfl⟩ := h e hread
      unfold readCsv at hread
      split at hread
      · cases hread
      · split at hread <;> cases hread
  · rintro ⟨rows, hread⟩
    rw [hread]
    exact contained_ok rows

theorem contained_loadProducts {bytes : List UInt8} : Contained (loadProducts parsers bytes) ↔
    (∃ rows, readCsv parsers bytes = .ok rows) ∧
    ∀ rows, readCsv parsers bytes = .ok rows → ∀ before row after, rows = before ++ row :: after →
      ∀ products, before.foldlM productStep [] = .ok products → ProductRowSound products row := by
  rw [loadProducts, contained_bind, contained_readCsv]
  refine and_congr_right fun _ => forall_congr' fun rows => forall_congr' fun _ => ?_
  rw [contained_foldlM]
  simp only [contained_productStep]

theorem contained_checkCounts (strict : Bool) (products : Products) (seeds : List Seed) :
    Contained (checkCounts strict products seeds) := by
  unfold checkCounts
  dsimp only
  split
  · exact contained_contract _
  split
  · exact contained_contract _
  · exact contained_ok _

theorem contained_loadCatalog {strict : Bool} {productBytes qaBytes : List UInt8} :
    Contained (loadCatalog parsers strict productBytes qaBytes) ↔
      CatalogFilesSound parsers productBytes qaBytes := by
  have hcounts (products : Products) (seeds : List Seed) :
      Contained (checkCounts strict products seeds >>= fun _ => .ok (products, seeds)) :=
    contained_bind.mpr ⟨contained_checkCounts strict products seeds, fun _ _ => contained_ok _⟩
  unfold loadCatalog
  rw [contained_bind, contained_loadProducts]
  constructor
  · rintro ⟨⟨hfile, hproducts⟩, h⟩
    refine ⟨hfile, hproducts, ?_, ?_, ?_⟩
    · rintro ⟨products, hloaded⟩
      exact (contained_readCsv parsers).mp (contained_bind.mp (h products hloaded)).1
    · rintro ⟨products, hloaded⟩ rows hrows before row after hsplit ⟨grouped, hgrouped⟩
      have hgroups := (contained_bind.mp ((contained_bind.mp (h products hloaded)).2 rows hrows)).1
      exact contained_groupStep.mp (contained_foldlM.mp hgroups before row after hsplit grouped hgrouped)
    · rintro products hloaded rows hrows grouped hgrouped before group after hsplit ⟨seeds, hseeds⟩
      have hrest := (contained_bind.mp ((contained_bind.mp (h products hloaded)).2 rows hrows)).2 grouped hgrouped
      have hloop := (contained_bind.mp hrest).1
      exact contained_seedStep.mp (contained_foldlM.mp hloop before group after hsplit seeds hseeds)
  · intro h
    refine ⟨⟨h.productFile, h.products⟩, fun products hloaded => ?_⟩
    refine contained_bind.mpr ⟨(contained_readCsv parsers).mpr (h.questionFile ⟨products, hloaded⟩), ?_⟩
    intro rows hrows
    refine contained_bind.mpr ⟨contained_foldlM.mpr ?_, fun grouped hgrouped => ?_⟩
    · intro before row after hsplit grouped hgrouped
      exact contained_groupStep.mpr
        (h.questions ⟨products, hloaded⟩ rows hrows before row after hsplit ⟨grouped, hgrouped⟩)
    · refine contained_bind.mpr ⟨contained_foldlM.mpr ?_, fun seeds _ => hcounts products seeds⟩
      intro before group after hsplit seeds hseeds
      exact contained_seedStep.mpr
        (h.groups products hloaded rows hrows grouped hgrouped before group after hsplit ⟨seeds, hseeds⟩)

/-- What a catalog is that is returned. -/
structure CatalogShape (products : Products) (seeds : List Seed) : Prop where
  ids : (products.map Prod.fst).Nodup
  candidates : ∀ seed ∈ seeds, seed.candidateProductIds.length = 5 ∧ seed.candidateProductIds.Nodup ∧
    ∀ id ∈ seed.candidateProductIds, id ∈ products.map Prod.fst
  gold : ∀ seed ∈ seeds, seed.goldProductIds.length ≤ 1

theorem candidatesOf_ok {products : Products} {question : String} {rows : List (ℕ × Row)}
    {candidates : List String × List String} (h : candidatesOf products question rows = .ok candidates) :
    candidates.1.length = 5 ∧ candidates.1.Nodup ∧ (∀ id ∈ candidates.1, id ∈ products.map Prod.fst) ∧
      candidates.2.length ≤ 1 := by
  unfold candidatesOf at h
  split at h
  · cases h
  rename_i hlength
  obtain ⟨ids, hids, h⟩ := bind_eq_ok h
  split at h
  · cases h
  rename_i hvalid
  obtain ⟨hnodup, hknown⟩ := not_or.mp hvalid
  dsimp only at h
  split at h
  · cases h
  rename_i hgold
  obtain rfl := Except.ok.inj h
  refine ⟨?_, not_not.mp hnodup, ?_, not_lt.mp hgold⟩
  · rw [← not_not.mp hlength]
    exact (mapM_length hids).symm
  · intro id hid
    have hfound := List.all_eq_true.mp (not_not.mp hknown) id hid
    exact List.contains_iff_mem.mp hfound

theorem seedOf_ok {products : Products} {index : ℕ} {question : String} {first : Row}
    {candidates : List String × List String} {seed : Seed}
    (h : seedOf products index question first candidates = .ok seed) :
    seed.candidateProductIds = candidates.1 ∧ seed.goldProductIds = candidates.2 := by
  unfold seedOf at h
  obtain ⟨profile, -, h⟩ := bind_eq_ok h
  obtain ⟨failureType, -, h⟩ := bind_eq_ok h
  obtain ⟨trapFamily, -, h⟩ := bind_eq_ok h
  dsimp only at h
  split at h
  · obtain rfl := Except.ok.inj h
    exact ⟨rfl, rfl⟩
  · cases h

theorem productStep_ok {products products' : Products} (h : productStep products row = .ok products') :
    ∃ entry : String × ProductRecord, entry.1 ∉ products.map Prod.fst ∧ products' = products ++ [entry] := by
  unfold productStep at h
  obtain ⟨productId, -, h⟩ := bind_eq_ok h
  split at h
  · cases h
  rename_i hnew
  obtain ⟨productName, -, h⟩ := bind_eq_ok h
  obtain ⟨productDesc, -, h⟩ := bind_eq_ok h
  obtain ⟨price, -, h⟩ := bind_eq_ok h
  obtain ⟨specs, -, h⟩ := bind_eq_ok h
  dsimp only at h
  split at h
  · obtain rfl := Except.ok.inj h
    exact ⟨_, (not_or.mp hnew).2, rfl⟩
  · cases h

theorem loadCatalog_shape {strict : Bool} {productBytes qaBytes : List UInt8} {products : Products}
    {seeds : List Seed} (h : loadCatalog parsers strict productBytes qaBytes = .ok (products, seeds)) :
    CatalogShape products seeds := by
  unfold loadCatalog at h
  obtain ⟨products', hproducts, h⟩ := bind_eq_ok h
  obtain ⟨rows, -, h⟩ := bind_eq_ok h
  obtain ⟨grouped, -, h⟩ := bind_eq_ok h
  obtain ⟨seeds', hseeds, h⟩ := bind_eq_ok h
  obtain ⟨_, -, h⟩ := bind_eq_ok h
  obtain ⟨rfl, rfl⟩ := Prod.mk.inj (Except.ok.inj h)
  obtain ⟨productRows, -, hloop⟩ := bind_eq_ok hproducts
  -- Every step of the two loops checks one member and adds it at the end.
  have hids : (products'.map Prod.fst).Nodup := by
    refine foldlM_invariant (P := fun products : Products => (products.map Prod.fst).Nodup) hloop
      List.nodup_nil fun products row products' hnodup hstep => ?_
    obtain ⟨entry, hfresh, rfl⟩ := productStep_ok hstep
    exact nodup_map_snoc hnodup hfresh
  have hall : ∀ seed ∈ seeds', (seed.candidateProductIds.length = 5 ∧ seed.candidateProductIds.Nodup ∧
      ∀ id ∈ seed.candidateProductIds, id ∈ products'.map Prod.fst) ∧ seed.goldProductIds.length ≤ 1 := by
    refine foldlM_invariant (P := fun seeds : List Seed => ∀ seed ∈ seeds,
      (seed.candidateProductIds.length = 5 ∧ seed.candidateProductIds.Nodup ∧
        ∀ id ∈ seed.candidateProductIds, id ∈ products'.map Prod.fst) ∧ seed.goldProductIds.length ≤ 1)
      hseeds (by simp) fun seeds group seeds' hseeds hstep => ?_
    obtain ⟨candidates, hcandidates, hstep⟩ := bind_eq_ok hstep
    obtain ⟨seed, hseed, hstep⟩ := bind_eq_ok hstep
    obtain rfl := Except.ok.inj hstep
    obtain ⟨hlength, hnodup, hknown, hgold⟩ := candidatesOf_ok hcandidates
    obtain ⟨hids, hgolds⟩ := seedOf_ok hseed
    intro other hother
    rcases List.mem_append.mp hother with hother | hother
    · exact hseeds other hother
    · rw [List.mem_singleton.mp hother, hids, hgolds]
      exact ⟨⟨hlength, hnodup, hknown⟩, hgold⟩
  exact ⟨hids, fun seed hseed => (hall seed hseed).1, fun seed hseed => (hall seed hseed).2⟩

end Catalogs

section Verdicts

variable {κ φ : Type} {model : CaseModel κ} {fixtureModel : FixtureModel φ} {parsers : Parsers}

theorem contained_readText {bytes : List UInt8} :
    Contained (readText parsers bytes) ↔ (parsers.decode bytes).isSome = true := by
  unfold readText
  split
  · rename_i text htext
    simp [htext]
  · rename_i htext
    rw [contained_error, htext]
    simp

theorem readText_eq_ok {bytes : List UInt8} {text : List Char} :
    readText parsers bytes = .ok text ↔ parsers.decode bytes = some text := by
  unfold readText
  split
  · rename_i text' htext
    rw [htext]
    simp
  · rename_i htext
    rw [htext]
    simp

theorem pyPair_error {v : Payload} {e : Raised} (h : pyPair v = .error e) : e ∈ [Raised.value, .type] := by
  unfold pyPair at h
  split at h
  all_goals try (obtain rfl := Except.error.inj h; simp)
  all_goals try cases h
  split at h
  · cases h
  · obtain rfl := Except.error.inj h
    simp

theorem pyDict_error {raw : Payload} {e : Raised} (h : pyDict raw = .error e) :
    e ∈ [Raised.value, .type] := by
  unfold pyDict at h
  split at h
  · cases h
  · obtain ⟨item, -, hitem⟩ := exists_of_mapM_error h
    exact pyPair_error hitem
  · split at h
    · cases h
    · obtain rfl := Except.error.inj h
      simp
  · obtain rfl := Except.error.inj h
    simp

/-- What can go wrong with the value of a line. -/
theorem fromRaw_error {line : List Char} {e : Raised}
    (h : (jsonLoads parsers line >>= fromRaw model) = .error e) :
    e ∈ [Raised.value, .recursion, .type] ∨ e ∈ [Raised.jsonDecode, .validation, .key] := by
  unfold jsonLoads at h
  split at h
  · rename_i v hv
    replace h : fromRaw model v = .error e := h
    unfold fromRaw at h
    cases hitems : pyDict v with
    | error e' =>
      rw [hitems] at h
      obtain rfl := Except.error.inj h
      have hmem := pyDict_error hitems
      simp only [List.mem_cons, List.not_mem_nil, or_false] at hmem
      rcases hmem with rfl | rfl <;> simp
    | ok items =>
      rw [hitems] at h
      replace h : fromItems model items = .error e := h
      unfold fromItems at h
      split at h
      · obtain rfl := Except.error.inj h
        simp
      · split at h
        · obtain rfl := Except.error.inj h
          simp
        · split at h
          · cases h
          · obtain rfl := Except.error.inj h
            simp
      · obtain rfl := Except.error.inj h
        simp
  · rename_i e' he'
    obtain rfl := Except.error.inj h
    cases e' <;> simp [LoadsError.raised]

theorem contained_caseStep {cases : List κ} {line : List Char × ℕ} :
    Contained (caseStep model parsers cases line) ↔ ¬ Unforeseen model parsers line.1 := by
  unfold caseStep Unforeseen
  split
  · rename_i hblank
    simp [hblank]
  rename_i hblank
  rw [Bool.not_eq_true] at hblank
  split
  -- The handler of the loop turns three kinds of errors into a contract error, and lets the others out.
  · rename_i e he
    rw [contained_error]
    constructor
    · rintro ⟨message, hcaught⟩ ⟨-, e', he', hmem⟩
      obtain rfl := Except.error.inj (he.symm.trans he')
      simp only [List.mem_cons, List.not_mem_nil, or_false] at hmem
      rcases hmem with rfl | rfl | rfl <;> cases hcaught
    · intro hnot
      rcases fromRaw_error he with hmem | hmem
      · exact absurd ⟨hblank, e, he, hmem⟩ hnot
      · simp only [List.mem_cons, List.not_mem_nil, or_false] at hmem
        rcases hmem with rfl | rfl | rfl <;> exact ⟨_, rfl⟩
  · rename_i case hcase
    have hforeseen : ¬ (Lines.isBlank line.1 = false ∧
        ∃ e, (jsonLoads parsers line.1 >>= fromRaw model) = .error e ∧
          e ∈ [Raised.value, .recursion, .type]) := by
      rintro ⟨-, e, he, -⟩
      rw [hcase] at he
      cases he
    split
    · simpa using hforeseen
    · simpa using hforeseen

theorem contained_caseLines {bytes : List UInt8} :
    Contained (caseLines model parsers bytes) ↔ CaseFileSound model parsers bytes := by
  rw [caseLines, contained_bind, contained_readText]
  constructor
  · rintro ⟨htext, h⟩
    refine ⟨htext, fun text hdecode before line after hsplit ⟨cases, hcases⟩ => ?_⟩
    have hloop := h text (readText_eq_ok.mpr hdecode)
    exact contained_caseStep.mp (contained_foldlM.mp hloop before line after hsplit cases hcases)
  · rintro ⟨htext, hlines⟩
    refine ⟨htext, fun text hread => contained_foldlM.mpr ?_⟩
    intro before line after hsplit cases hcases
    exact contained_caseStep.mpr
      (hlines text (readText_eq_ok.mp hread) before line after hsplit ⟨cases, hcases⟩)

theorem contained_loadCases {expectedCounts : List (String × ℕ)} {track caseId : Option String}
    {bytes : List UInt8} : Contained (loadCases model parsers expectedCounts track caseId bytes) ↔
      CaseFileSound model parsers bytes := by
  rw [loadCases, contained_bind, contained_caseLines]
  refine ⟨fun h => h.1, fun h => ⟨h, fun cases _ => contained_bind.mpr ⟨?_, fun _ _ => ?_⟩⟩⟩
  · unfold validateFullDataset
    split
    · exact contained_contract _
    split
    · exact contained_contract _
    · exact contained_ok _
  · dsimp only
    split
    · exact contained_contract _
    split
    · exact contained_ok _
    split
    · exact contained_contract _
    · exact contained_ok _

theorem loadCases_shape {expectedCounts : List (String × ℕ)} {track caseId : Option String}
    {bytes : List UInt8} {returned : List κ}
    (h : loadCases model parsers expectedCounts track caseId bytes = .ok returned) :
    CaseShape model expectedCounts returned := by
  unfold loadCases at h
  obtain ⟨cases, hcases, h⟩ := bind_eq_ok h
  obtain ⟨_, hvalid, h⟩ := bind_eq_ok h
  obtain ⟨text, -, hloop⟩ := bind_eq_ok hcases
  -- The loop refuses an id that it has seen.
  have hids : (cases.map model.id).Nodup := by
    refine foldlM_invariant (P := fun cases : List κ => (cases.map model.id).Nodup) hloop List.nodup_nil
      fun cases line cases' hnodup hstep => ?_
    unfold caseStep at hstep
    split at hstep
    · cases hstep
    split at hstep
    · cases hstep
    split at hstep
    · cases hstep
    rename_i case _ hfresh
    obtain rfl := Except.ok.inj hstep
    exact nodup_map_snoc hnodup hfresh
  have hcounts : countsMatch model expectedCounts cases = true := by
    unfold validateFullDataset at hvalid
    split at hvalid
    · cases hvalid
    split at hvalid
    · cases hvalid
    · rename_i hmatch
      exact not_not.mp hmatch
  refine ⟨cases, hids, hcounts, ?_⟩
  dsimp only at h
  split at h
  · cases h
  split at h
  · obtain rfl := Except.ok.inj h
    exact List.filter_sublist
  split at h
  · cases h
  · obtain rfl := Except.ok.inj h
    exact List.filter_sublist.trans List.filter_sublist

theorem contained_fixtureStep {fixtures : List φ} {line : List Char × ℕ} :
    Contained (fixtureStep fixtureModel parsers fixtures line) ↔ (Lines.isBlank line.1 = false →
      jsonLoads parsers line.1 ≠ .error .value ∧ jsonLoads parsers line.1 ≠ .error .recursion) := by
  unfold fixtureStep
  split
  · rename_i hblank
    simp [hblank]
  rename_i hblank
  rw [Bool.not_eq_true] at hblank
  unfold jsonLoads
  cases hloads : parsers.loads line.1 with
  | error e => cases e <;> simp [LoadsError.raised, contained_error, hblank]
  | ok v =>
    refine ⟨fun _ _ => ⟨nofun, nofun⟩, fun _ => ?_⟩
    dsimp only
    split
    · exact contained_contract _
    · split
      · exact contained_contract _
      · exact contained_ok _

theorem contained_loadFixtures {bytes : List UInt8} :
    Contained (loadFixtures fixtureModel parsers bytes) ↔ FixtureFileSound fixtureModel parsers bytes := by
  have hend (fixtures : List φ) : Contained
      (if fixtures = [] then .error (.contract "runtime fixture is empty") else .ok fixtures :
        Except Raised (List φ)) := by
    split
    · exact contained_contract _
    · exact contained_ok _
  rw [loadFixtures, contained_bind, contained_readText]
  constructor
  · rintro ⟨htext, h⟩
    refine ⟨htext, fun text hdecode before line after hsplit ⟨fixtures, hfixtures⟩ => ?_⟩
    have hloop := (contained_bind.mp (h text (readText_eq_ok.mpr hdecode))).1
    exact contained_fixtureStep.mp (contained_foldlM.mp hloop before line after hsplit fixtures hfixtures)
  · rintro ⟨htext, hlines⟩
    refine ⟨htext, fun text hread => contained_bind.mpr ⟨contained_foldlM.mpr ?_, fun fixtures _ => ?_⟩⟩
    · intro before line after hsplit fixtures hfixtures
      exact contained_fixtureStep.mpr
        (hlines text (readText_eq_ok.mp hread) before line after hsplit ⟨fixtures, hfixtures⟩)
    · exact hend fixtures

theorem loadFixtures_shape {bytes : List UInt8} {fixtures : List φ}
    (h : loadFixtures fixtureModel parsers bytes = .ok fixtures) :
    (fixtures.map fixtureModel.caseId).Nodup ∧ fixtures ≠ [] := by
  unfold loadFixtures at h
  obtain ⟨text, -, h⟩ := bind_eq_ok h
  obtain ⟨fixtures', hloop, h⟩ := bind_eq_ok h
  split at h
  · cases h
  rename_i hne
  obtain rfl := Except.ok.inj h
  refine ⟨?_, hne⟩
  -- As with the cases, an id that occurs again ends the loop.
  refine foldlM_invariant (P := fun fixtures : List φ => (fixtures.map fixtureModel.caseId).Nodup) hloop
    List.nodup_nil fun fixtures line fixtures' hnodup hstep => ?_
  unfold fixtureStep at hstep
  split at hstep
  · cases hstep
  split at hstep
  · cases hstep
  · cases hstep
  split at hstep
  · cases hstep
  split at hstep
  · cases hstep
  rename_i hfresh
  obtain rfl := Except.ok.inj hstep
  exact nodup_map_snoc hnodup hfresh

end Verdicts

section Demo

def demoCaseModel : CaseModel (String × String) := ⟨fun _ _ => none, Prod.fst, Prod.snd⟩

def demoFixtureModel : FixtureModel String := ⟨fun _ => none, id⟩

/-- The parsers on the files of the demonstration, which are ASCII or not text at all. -/
def demoParsers : Parsers where
  decode := fun bytes =>
    if bytes.all (· < 128) then some (bytes.map fun b => Char.ofNat b.toNat) else none
  decodeSig := fun bytes =>
    if bytes.all (· < 128) then some (bytes.map fun b => Char.ofNat b.toNat) else none
  loads := fun line => if line = ['[', '1', ']'] then .ok (.arr [.int 1]) else .error .decode
  readCsv := fun text =>
    if text = "product_id,product_name\nP0001\n".toList then
      some [[("product_id", some "P0001"), ("product_name", none)]]
    else none

/-- `[1]`, on a line. -/
def listLine : List UInt8 := [91, 49, 93, 10]

/-- A header of two columns, and a row of one. -/
def shortRow : List UInt8 :=
  [112, 114, 111, 100, 117, 99, 116, 95, 105, 100, 44, 112, 114, 111, 100, 117, 99, 116, 95, 110, 97, 109,
    101, 10, 80, 48, 48, 48, 49, 10]

def raisedBy {α : Type} : Except Raised α → Option Raised
  | .ok _ => none
  | .error e => some e

theorem not_contained {α : Type} {r : Except Raised α} {e : Raised} (h : raisedBy r = some e)
    (he : ∀ message, e ≠ .contract message) : ¬ Contained r := by
  intro hcontained
  cases r with
  | ok a => cases h
  | error e' =>
    obtain rfl := Option.some.inj h
    obtain ⟨message, hmessage⟩ := hcontained _ rfl
    exact he message hmessage

instance demo_raised : Fact (
    raisedBy (loadCases demoCaseModel demoParsers [] none none listLine) = some .type ∧
    raisedBy (loadFixtures demoFixtureModel demoParsers [255]) = some .unicodeDecode ∧
    raisedBy (loadCatalog demoParsers true shortRow []) = some .attribute) :=
  ⟨by decide +kernel⟩

end Demo

end CommerceAgent.Loaders
