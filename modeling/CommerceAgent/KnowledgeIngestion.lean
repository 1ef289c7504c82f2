import CommerceAgent.Interleaving
import CommerceAgent.Json
import CommerceAgent.JsonLines
import CommerceAgent.Retrieval
import CommerceAgent.Tables

/-! The ingestion of a knowledge file into the store: what is stored while any number of ingestions run, stop
and run again, and what another one of the same file does. -/
namespace CommerceAgent.Knowledge

open Json Lines Programs Tables Texts

section Store

inductive IngestionError where
  | value (message : String)
  | decode
  | json
  | attribute
  | integrity
  | database

structure KnowledgeDocument where
  documentId : Uuid
  tenantId : String
  topic : String
  productRef : Option String
  version : String
  effectiveFrom : ℕ
  effectiveTo : Option ℕ := none
  accessLevel : String := "customer"
  sourceUri : String
  contentHash : String
  status : String := "active"

/-- `UNIQUE (tenant_id, source_uri, version)`. -/
def KnowledgeDocument.key (d : KnowledgeDocument) : String × String × String :=
  (d.tenantId, d.sourceUri, d.version)

abbrev KnowledgeDocument.Clash (a b : KnowledgeDocument) : Prop :=
  a.documentId = b.documentId ∨ a.key = b.key

structure KnowledgeChunk where
  chunkId : Uuid
  documentId : Uuid
  chunkNo : ℤ
  textRedacted : String
  textHash : String
  metadata : Dict
  indexVersion : String

/-- `UNIQUE (document_id, chunk_no, index_version)`. -/
def KnowledgeChunk.key (c : KnowledgeChunk) : Uuid × ℤ × String := (c.documentId, c.chunkNo, c.indexVersion)

abbrev KnowledgeChunk.Clash (a b : KnowledgeChunk) : Prop := a.chunkId = b.chunkId ∨ a.key = b.key

structure KnowledgeStore where
  documents : Table KnowledgeDocument KnowledgeDocument.Clash := .empty
  chunks : Table KnowledgeChunk KnowledgeChunk.Clash := .empty

/-- The arguments of `create_or_get_document`. -/
structure NewDocument where
  tenantId : String
  topic : String
  productRef : Option String
  version : String
  sourceUri : String
  contentHash : String

def NewDocument.key (d : NewDocument) : String × String × String := (d.tenantId, d.sourceUri, d.version)

def NewDocument.row (d : NewDocument) (documentId : Uuid) (now : ℕ) : KnowledgeDocument where
  documentId := documentId
  tenantId := d.tenantId
  topic := d.topic
  productRef := d.productRef
  version := d.version
  effectiveFrom := now
  sourceUri := d.sourceUri
  contentHash := d.contentHash

/-- The arguments of `create_chunk_if_absent`. -/
structure NewChunk where
  documentId : Uuid
  chunkNo : ℤ
  textValue : String
  textHash : String
  indexVersion : String
  metadata : Dict

def NewChunk.key (c : NewChunk) : Uuid × ℤ × String := (c.documentId, c.chunkNo, c.indexVersion)

def NewChunk.row (c : NewChunk) (chunkId : Uuid) : KnowledgeChunk where
  chunkId := chunkId
  documentId := c.documentId
  chunkNo := c.chunkNo
  textRedacted := c.textValue
  textHash := c.textHash
  metadata := c.metadata
  indexVersion := c.indexVersion

/-- `create_or_get_document`, with the identifier and the time that it draws. -/
def createOrGetDocument (s : KnowledgeStore) (d : NewDocument) (uuid : Uuid) (now : ℕ) :
    Except IngestionError (Uuid × Bool) × KnowledgeStore :=
  match s.documents.lookup KnowledgeDocument.key d.key with
  | some row => (.ok (row.documentId, false), s)
  | none =>
    -- the identifier that was drawn may be taken
    match s.documents.insert? (d.row uuid now) with
    | some documents => (.ok (uuid, true), { s with documents := documents })
    | none => (.error .integrity, s)

/-- `create_chunk_if_absent`: the conflict is on the key alone. -/
def createChunkIfAbsent (s : KnowledgeStore) (c : NewChunk) (uuid : Uuid) :
    Except IngestionError Bool × KnowledgeStore :=
  match s.chunks.lookup KnowledgeChunk.key c.key with
  | some _ => (.ok false, s)
  | none =>
    if s.documents.rows.any fun row => row.documentId = c.documentId then
      match s.chunks.insert? (c.row uuid) with
      | some chunks => (.ok true, { s with chunks := chunks })
      | none => (.error .integrity, s)
    else (.error .integrity, s)

inductive KnowledgeOp : Type → Type
  | createOrGetDocument (d : NewDocument) : KnowledgeOp (Uuid × Bool)
  | createChunkIfAbsent (c : NewChunk) : KnowledgeOp Bool

/-- A transaction may fail before it took effect, as the one that loses a race for a key does, or after it did. -/
inductive Fault where
  | none
  | before
  | after

structure Draw where
  uuid : Uuid
  now : ℕ
  fault : Fault := .none

def Fault.apply {β : Type} (fault : Fault) (s : KnowledgeStore)
    (answer : Except IngestionError β × KnowledgeStore) : Except IngestionError β × KnowledgeStore :=
  match fault with
  | .none => answer
  | .before => (.error .database, s)
  | .after => (.error .database, answer.2)

def respond (draw : Draw) (s : KnowledgeStore) :
    {β : Type} → KnowledgeOp β → Except IngestionError β × KnowledgeStore
  | _, .createOrGetDocument d => draw.fault.apply s (createOrGetDocument s d draw.uuid draw.now)
  | _, .createChunkIfAbsent c => draw.fault.apply s (createChunkIfAbsent s c draw.uuid)

end Store

section Ingestion

structure Item where
  id : String
  topic : String
  content : String
  product : String
  dataset : String
  deriving DecidableEq

-- the digest as a text of hexadecimal digits, `json.loads` and `str`
variable (sha256 : ByteArray → String) (loads : String → Except IngestionError Value) (render : Value → String)

/-- A text field with more than white space. -/
def requiredText (item : Dict) (key : String) : Option String :=
  match item.get? key with
  | some (.str s) => if strip s = "" then none else some s
  | _ => none

/-- `str(item.get(key) or "")`. -/
def optionalText (item : Dict) (key : String) : String :=
  match item.get? key with
  | some v => if v.truthy then render v else ""
  | none => ""

def readItem (lineNumber : ℕ) (line : List Char) : Except IngestionError Item :=
  match loads (String.ofList line) with
  | .error e => .error e
  | .ok (.obj item) =>
    match requiredText item "id", requiredText item "section", requiredText item "text" with
    | some id, some topic, some content =>
      .ok ⟨id, topic, content, optionalText render item "product", optionalText render item "dataset"⟩
    | _, _, _ => .error (.value s!"knowledge line {lineNumber} is missing required text fields")
  -- what is no dictionary has no `get`
  | .ok _ => .error .attribute

/-- A file and the tenant that it is ingested for. -/
structure Source where
  bytes : ByteArray
  tenantId : String

def Source.version (src : Source) : String := "static-" ++ take (sha256 src.bytes) 12

def Item.document (src : Source) (item : Item) : NewDocument where
  tenantId := src.tenantId
  topic := item.topic
  productRef := if item.product = "" then none else some item.product
  version := src.version sha256
  sourceUri := item.id
  contentHash := sha256 item.content.toUTF8

def Item.chunk (src : Source) (documentId : Uuid) (item : Item) : NewChunk where
  documentId := documentId
  chunkNo := 0
  textValue := item.content
  textHash := sha256 item.content.toUTF8
  indexVersion := src.version sha256
  metadata := [("dataset", .str item.dataset), ("product", .str item.product)]

structure IngestionResult where
  sourceHash : String
  version : String
  documents : ℕ
  chunks : ℕ

/-- The loop of `ingest_jsonl`, from a line on. -/
def ingestLines (src : Source) : ℕ → List (List Char) → ℕ → ℕ → Prog KnowledgeOp IngestionError (ℕ × ℕ)
  | _, [], documents, chunks => .ret (documents, chunks)
  | lineNumber, line :: rest, documents, chunks =>
    if isBlank line then ingestLines src (lineNumber + 1) rest documents chunks
    else
      match readItem loads render lineNumber line with
      | .error e => .raise e
      | .ok item => do
        let found ← .perform (.createOrGetDocument (item.document sha256 src))
        let inserted ← .perform (.createChunkIfAbsent (item.chunk sha256 src found.1))
        ingestLines src (lineNumber + 1) rest (if found.2 then documents + 1 else documents)
          (if inserted then chunks + 1 else chunks)

def ingestJsonl (src : Source) : Prog KnowledgeOp IngestionError IngestionResult :=
  match String.fromUTF8? src.bytes with
  -- the whole file is decoded before the first line is stored
  | none => .raise .decode
  | some text => do
    let counts ← ingestLines sha256 loads render src 1 (splitlines text.toList) 0 0
    return ⟨sha256 src.bytes, src.version sha256, counts.1, counts.2⟩

/-- The items up to the first line that cannot be read. -/
def readable : ℕ → List (List Char) → List Item
  | _, [] => []
  | lineNumber, line :: rest =>
    if isBlank line then readable (lineNumber + 1) rest
    else
      match readItem loads render lineNumber line with
      | .error _ => []
      | .ok item => item :: readable (lineNumber + 1) rest

def Source.items (src : Source) : List Item :=
  match String.fromUTF8? src.bytes with
  | none => []
  | some text => readable loads render 1 (splitlines text.toList)

end Ingestion

section Progress

variable {sha256 : ByteArray → String} {loads : String → Except IngestionError Value} {render : Value → String}
  {src : Source} {l : List Item}

/-- What an ingestion has done: the items that it stored, by their identifiers, and the document of the item that
it is at. -/
structure Progress where
  seen : List String := []
  current : Option (String × Uuid) := none

def Progress.after (p : Progress) : Call KnowledgeOp IngestionError → Progress
  | ⟨.createOrGetDocument d, .ok found⟩ => { p with current := some (d.sourceUri, found.1) }
  | ⟨.createChunkIfAbsent _, .ok _⟩ =>
    match p.current with
    | some (uri, _) => ⟨p.seen ++ [uri], none⟩
    | none => p
  | _ => p

/-- The document of an item is stored after all the items before it, and its chunk after its document. -/
def Follows (sha256 : ByteArray → String) (src : Source) (l : List Item) (p : Progress) :
    {β : Type} → KnowledgeOp β → Prop
  | _, .createOrGetDocument d => ∃ before item rest, l = before ++ item :: rest ∧
      p = ⟨before.map Item.id, none⟩ ∧ d = item.document sha256 src
  | _, .createChunkIfAbsent c => ∃ before item rest documentId, l = before ++ item :: rest ∧
      p = ⟨before.map Item.id, some (item.id, documentId)⟩ ∧ c = item.chunk sha256 src documentId

/-- An ingestion that returns has stored every item. -/
def Stored {α : Type} (l : List Item) : Except IngestionError α → Progress → Prop :=
  Returns fun _ p => p = ⟨l.map Item.id, none⟩

theorem safe_ingestLines (lines : List (List Char)) : ∀ (lineNumber documents chunks : ℕ) (before : List Item),
    l = before ++ readable loads render lineNumber lines →
    Safe (.ghost Progress.after) (fun p {_} o => Follows sha256 src l p o) (Stored l)
      (ingestLines sha256 loads render src lineNumber lines documents chunks) ⟨before.map Item.id, none⟩ := by
  -- on the lines that are left; `before` are the items of those already read
  induction lines with
  | nil =>
    intro lineNumber documents chunks before hl
    have hall : l = before := by simpa [readable] using hl
    rw [hall]
    exact rfl
  | cons line rest ih =>
    intro lineNumber documents chunks before hl
    unfold ingestLines
    unfold readable at hl
    split
    · rename_i hblank
      rw [if_pos hblank] at hl
      exact ih _ _ _ before hl
    · rename_i hblank
      rw [if_neg hblank] at hl
      split
      · trivial
      · rename_i item hitem
        rw [hitem] at hl
        rw [safe_bind, safe_perform]
        refine ⟨⟨before, item, _, hl, rfl, rfl⟩, ?_⟩
        intro found p hp
        cases found with
        | error e => trivial
        | ok found =>
          have hp : p = ⟨before.map Item.id, some (item.id, found.1)⟩ := hp
          rw [thenSafe_ok, hp, safe_bind, safe_perform]
          refine ⟨⟨before, item, _, found.1, hl, rfl, rfl⟩, ?_⟩
          intro inserted p hp
          cases inserted with
          | error e => trivial
          | ok inserted =>
            have hp : p = ⟨(before ++ [item]).map Item.id, none⟩ := by
              rw [List.map_append]
              exact hp
            rw [thenSafe_ok, hp]
            apply ih
            rw [List.append_assoc]
            exact hl

/-- What every ingestion keeps to. -/
theorem safe_ingestJsonl (src : Source) :
    Safe (.ghost Progress.after) (fun p {_} o => Follows sha256 src (src.items loads render) p o)
      (Stored (src.items loads render)) (ingestJsonl sha256 loads render src) {} := by
  unfold ingestJsonl Source.items
  split
  · trivial
  · rename_i text _
    rw [safe_bind]
    refine Safe.post (safe_ingestLines (splitlines text.toList) 1 0 0 [] rfl) ?_
    intro r p hr
    cases r with
    | error e => trivial
    | ok counts => exact hr

end Progress

section Rows

variable {s s' : KnowledgeStore} {β : Type} {o : KnowledgeOp β} {r : Except IngestionError β} {draw : Draw}

theorem KnowledgeDocument.key_clash (a b : KnowledgeDocument) (h : a.key = b.key) :
    KnowledgeDocument.Clash a b := Or.inr h

theorem KnowledgeChunk.key_clash (a b : KnowledgeChunk) (h : a.key = b.key) : KnowledgeChunk.Clash a b :=
  Or.inr h

/-- The rows of the store only become more. -/
structure Grows (s s' : KnowledgeStore) : Prop where
  documents : ∀ row ∈ s.documents.rows, row ∈ s'.documents.rows
  chunks : ∀ chunk ∈ s.chunks.rows, chunk ∈ s'.chunks.rows

theorem Grows.refl (s : KnowledgeStore) : Grows s s := ⟨fun _ h => h, fun _ h => h⟩

/-- What `create_or_get_document` leaves: the row that was there, or the one new row. -/
theorem createOrGetDocument_cases (s : KnowledgeStore) (d : NewDocument) (uuid : Uuid) (now : ℕ) :
    let answer := createOrGetDocument s d uuid now
    (answer.2 = s ∧ (∀ found, answer.1 = .ok found →
      ∃ row ∈ s.documents.rows, row.key = d.key ∧ found = (row.documentId, false))) ∨
    (s.documents.lookup KnowledgeDocument.key d.key = none ∧ answer.1 = .ok (uuid, true) ∧
      answer.2.chunks = s.chunks ∧
      ∀ row, row ∈ answer.2.documents.rows ↔ row ∈ s.documents.rows ∨ row = d.row uuid now) := by
  unfold createOrGetDocument
  split
  · rename_i row hrow
    refine Or.inl ⟨rfl, ?_⟩
    intro found hfound
    obtain ⟨hmem, hkey⟩ := Table.lookup_mem hrow
    exact ⟨row, hmem, hkey, (Except.ok.inj hfound).symm⟩
  · rename_i hnone
    split
    · rename_i documents hinsert
      exact Or.inr ⟨hnone, rfl, rfl, fun row => Table.mem_insert? hinsert⟩
    · exact Or.inl ⟨rfl, fun found hfound => absurd hfound (by simp)⟩

/-- What `create_chunk_if_absent` leaves. -/
theorem createChunkIfAbsent_cases (s : KnowledgeStore) (c : NewChunk) (uuid : Uuid) :
    let answer := createChunkIfAbsent s c uuid
    (answer.2 = s ∧ ∀ inserted, answer.1 = .ok inserted → inserted = false ∧ ∃ chunk ∈ s.chunks.rows, chunk.key = c.key) ∨
    (s.chunks.lookup KnowledgeChunk.key c.key = none ∧ answer.1 = .ok true ∧
      answer.2.documents = s.documents ∧
      ∀ chunk, chunk ∈ answer.2.chunks.rows ↔ chunk ∈ s.chunks.rows ∨ chunk = c.row uuid) := by
  unfold createChunkIfAbsent
  split
  · rename_i chunk hchunk
    refine Or.inl ⟨rfl, ?_⟩
    intro inserted hinserted
    obtain ⟨hmem, hkey⟩ := Table.lookup_mem hchunk
    exact ⟨(Except.ok.inj hinserted).symm, chunk, hmem, hkey⟩
  · rename_i hnone
    split
    · split
      · rename_i chunks hinsert
        exact Or.inr ⟨hnone, rfl, rfl, fun chunk => Table.mem_insert? hinsert⟩
      · exact Or.inl ⟨rfl, fun inserted hinserted => absurd hinserted (by simp)⟩
    · exact Or.inl ⟨rfl, fun inserted hinserted => absurd hinserted (by simp)⟩

end Rows

section Steps

variable {s s' : KnowledgeStore} {d : NewDocument} {c : NewChunk}

theorem Grows.of_eq (h : s' = s) : Grows s s' := h ▸ .refl s

/-- All that storing a document does, whatever fault strikes it. -/
structure DocumentStep (s : KnowledgeStore) (d : NewDocument) (r : Except IngestionError (Uuid × Bool))
    (s' : KnowledgeStore) : Prop where
  grows : Grows s s'
  chunks : ∀ chunk ∈ s'.chunks.rows, chunk ∈ s.chunks.rows
  documents : ∀ row ∈ s'.documents.rows, row ∈ s.documents.rows ∨
    (∀ old ∈ s.documents.rows, old.key ≠ d.key) ∧ ∃ uuid now, row = d.row uuid now
  found : ∀ found, r = .ok found → ∃ row ∈ s'.documents.rows, row.documentId = found.1 ∧ row.key = d.key
  known : ∀ old ∈ s.documents.rows, old.key = d.key → s' = s ∧ ∀ found, r = .ok found → found.2 = false

theorem DocumentStep.unchanged {r : Except IngestionError (Uuid × Bool)}
    (hfound : ∀ found, r = .ok found → ∃ row ∈ s.documents.rows, row.key = d.key ∧ found = (row.documentId, false)) :
    DocumentStep s d r s where
  grows := .refl s
  chunks := fun _ h => h
  documents := fun _ h => Or.inl h
  found := by
    intro found hr
    obtain ⟨row, hmem, hkey, rfl⟩ := hfound found hr
    exact ⟨row, hmem, rfl, hkey⟩
  known := by
    intro old hold hkey
    refine ⟨rfl, ?_⟩
    intro found hr
    obtain ⟨row, hmem, hrow, rfl⟩ := hfound found hr
    rfl

theorem createOrGetDocument_step (s : KnowledgeStore) (d : NewDocument) (uuid : Uuid) (now : ℕ) :
    DocumentStep s d (createOrGetDocument s d uuid now).1 (createOrGetDocument s d uuid now).2 := by
  have hcases := createOrGetDocument_cases s d uuid now
  generalize createOrGetDocument s d uuid now = answer at hcases
  obtain ⟨r, s'⟩ := answer
  obtain ⟨rfl, hfound⟩ | ⟨hnone, rfl, hchunks, hrows⟩ := hcases
  · exact .unchanged hfound
  · have hnew := Table.lookup_eq_none.mp hnone
    refine ⟨⟨fun row h => (hrows row).mpr (Or.inl h), fun chunk h => hchunks ▸ h⟩, fun chunk h => hchunks ▸ h, ?_, ?_, ?_⟩
    · intro row hrow
      obtain hold | heq := (hrows row).mp hrow
      · exact Or.inl hold
      · exact Or.inr ⟨hnew, uuid, now, heq⟩
    · intro found hr
      rw [← Except.ok.inj hr]
      exact ⟨d.row uuid now, (hrows _).mpr (Or.inr rfl), rfl, rfl⟩
    · intro old hold hkey
      exact absurd hkey (hnew old hold)

/-- All that storing a chunk does, whatever fault strikes it. -/
structure ChunkStep (s : KnowledgeStore) (c : NewChunk) (r : Except IngestionError Bool) (s' : KnowledgeStore) :
    Prop where
  grows : Grows s s'
  documents : ∀ row ∈ s'.documents.rows, row ∈ s.documents.rows
  chunks : ∀ chunk ∈ s'.chunks.rows, chunk ∈ s.chunks.rows ∨
    (∀ old ∈ s.chunks.rows, old.key ≠ c.key) ∧ ∃ uuid, chunk = c.row uuid
  held : ∀ inserted, r = .ok inserted → ∃ chunk ∈ s'.chunks.rows, chunk.key = c.key
  known : ∀ old ∈ s.chunks.rows, old.key = c.key → s' = s ∧ ∀ inserted, r = .ok inserted → inserted = false

theorem ChunkStep.unchanged {r : Except IngestionError Bool}
    (hheld : ∀ inserted, r = .ok inserted → inserted = false ∧ ∃ chunk ∈ s.chunks.rows, chunk.key = c.key) :
    ChunkStep s c r s where
  grows := .refl s
  documents := fun _ h => h
  chunks := fun _ h => Or.inl h
  held := fun inserted hr => (hheld inserted hr).2
  known := fun _ _ _ => ⟨rfl, fun inserted hr => (hheld inserted hr).1⟩

theorem createChunkIfAbsent_step (s : KnowledgeStore) (c : NewChunk) (uuid : Uuid) :
    ChunkStep s c (createChunkIfAbsent s c uuid).1 (createChunkIfAbsent s c uuid).2 := by
  have hcases := createChunkIfAbsent_cases s c uuid
  generalize createChunkIfAbsent s c uuid = answer at hcases
  obtain ⟨r, s'⟩ := answer
  obtain ⟨rfl, hheld⟩ | ⟨hnone, rfl, hdocuments, hchunks⟩ := hcases
  · exact .unchanged hheld
  · have hnew := Table.lookup_eq_none.mp hnone
    refine ⟨⟨fun row h => hdocuments ▸ h, fun chunk h => (hchunks chunk).mpr (Or.inl h)⟩, fun row h => hdocuments ▸ h, ?_, ?_, ?_⟩
    · intro chunk hchunk
      obtain hold | heq := (hchunks chunk).mp hchunk
      · exact Or.inl hold
      · exact Or.inr ⟨hnew, uuid, heq⟩
    · intro inserted _
      exact ⟨c.row uuid, (hchunks _).mpr (Or.inr rfl), rfl⟩
    · intro old hold hkey
      exact absurd hkey (hnew old hold)

theorem DocumentStep.fault {answer : Except IngestionError (Uuid × Bool) × KnowledgeStore}
    (h : DocumentStep s d answer.1 answer.2) (fault : Fault) :
    DocumentStep s d (fault.apply s answer).1 (fault.apply s answer).2 := by
  cases fault with
  | none => exact h
  | before =>
    refine .unchanged ?_
    intro found hr
    cases hr
  | after =>
    refine ⟨h.grows, h.chunks, h.documents, ?_, fun old hold hkey => ⟨(h.known old hold hkey).1, ?_⟩⟩
    · intro found hr
      cases hr
    · intro found hr
      cases hr

theorem ChunkStep.fault {answer : Except IngestionError Bool × KnowledgeStore}
    (h : ChunkStep s c answer.1 answer.2) (fault : Fault) :
    ChunkStep s c (fault.apply s answer).1 (fault.apply s answer).2 := by
  cases fault with
  | none => exact h
  | before =>
    refine .unchanged ?_
    intro inserted hr
    cases hr
  | after =>
    refine ⟨h.grows, h.documents, h.chunks, ?_, fun old hold hkey => ⟨(h.known old hold hkey).1, ?_⟩⟩
    · intro inserted hr
      cases hr
    · intro inserted hr
      cases hr

theorem respond_document {r : Except IngestionError (Uuid × Bool)}
    (hm : Machine.of respond s (.createOrGetDocument d) r s') : DocumentStep s d r s' := by
  obtain ⟨draw, hdraw⟩ := hm
  have hstep : DocumentStep s d (respond draw s (.createOrGetDocument d)).1
      (respond draw s (.createOrGetDocument d)).2 :=
    (createOrGetDocument_step s d draw.uuid draw.now).fault draw.fault
  rw [hdraw] at hstep
  exact hstep

theorem respond_chunk {r : Except IngestionError Bool}
    (hm : Machine.of respond s (.createChunkIfAbsent c) r s') : ChunkStep s c r s' := by
  obtain ⟨draw, hdraw⟩ := hm
  have hstep : ChunkStep s c (respond draw s (.createChunkIfAbsent c)).1
      (respond draw s (.createChunkIfAbsent c)).2 :=
    (createChunkIfAbsent_step s c draw.uuid).fault draw.fault
  rw [hdraw] at hstep
  exact hstep

end Steps

section Invariant

variable (sha256 : ByteArray → String) (loads : String → Except IngestionError Value) (render : Value → String)
variable {ι : Type} [DecidableEq ι] (sources : ι → Source)

/-- The item of the first line with an identifier. -/
def Source.first? (src : Source) (id : String) : Option Item :=
  (src.items loads render).find? fun item => item.id = id

def Source.key (src : Source) (uri : String) : String × String × String :=
  (src.tenantId, uri, src.version sha256)

/-- The store has a document and a chunk for an identifier of a file. -/
def KnowledgeStore.Holds (s : KnowledgeStore) (src : Source) (uri : String) : Prop :=
  ∃ row ∈ s.documents.rows, row.key = src.key sha256 uri ∧
    ∃ chunk ∈ s.chunks.rows, chunk.key = (row.documentId, 0, src.version sha256)

/-- The document that an ingestion is at is stored. -/
def KnowledgeStore.At (s : KnowledgeStore) (src : Source) (p : Progress) : Prop :=
  ∀ uri documentId, p.current = some (uri, documentId) →
    ∃ row ∈ s.documents.rows, row.documentId = documentId ∧ row.key = src.key sha256 uri

abbrev progress {α : Type} [DecidableEq α] (i : α) (h : History α KnowledgeOp IngestionError KnowledgeStore) :
    Progress := view Progress.after {} i h

/-- Every row comes from the first line with its identifier in some file, and an ingestion's progress is in the
store. -/
structure Faithful (h : History ι KnowledgeOp IngestionError KnowledgeStore) (s : KnowledgeStore) : Prop where
  documents : ∀ row ∈ s.documents.rows, ∃ i item uuid now,
    (sources i).first? loads render item.id = some item ∧
    row = (item.document sha256 (sources i)).row uuid now
  chunks : ∀ chunk ∈ s.chunks.rows, ∃ i item uuid,
    (sources i).first? loads render item.id = some item ∧
    chunk = (item.chunk sha256 (sources i) chunk.documentId).row uuid ∧
    ∃ row ∈ s.documents.rows, row.documentId = chunk.documentId ∧ row.key = (sources i).key sha256 item.id
  seen : ∀ i, ∀ uri ∈ (progress i h).seen, s.Holds sha256 (sources i) uri
  current : ∀ i, s.At sha256 (sources i) (progress i h)

variable {sha256 loads render sources} {s s' : KnowledgeStore} {src : Source} {uri : String} {p : Progress}
  {h : History ι KnowledgeOp IngestionError KnowledgeStore} {i j : ι}

theorem progress_self (e : Happened KnowledgeOp IngestionError KnowledgeStore) :
    progress i (h ++ [(i, e)]) = (progress i h).after e.toCall := view_snoc_self _ _ _ _ _

theorem progress_other (hij : i ≠ j) (e : Happened KnowledgeOp IngestionError KnowledgeStore) :
    progress j (h ++ [(i, e)]) = progress j h := view_snoc_other _ _ hij _ _

theorem Progress.after_chunk {seen : List String} {documentId : Uuid} (hp : p = ⟨seen, some (uri, documentId)⟩)
    (c : NewChunk) (inserted : Bool) :
    p.after ⟨.createChunkIfAbsent c, .ok inserted⟩ = ⟨seen ++ [uri], none⟩ := by
  rw [hp]
  rfl

theorem KnowledgeStore.Holds.mono (hs : s.Holds sha256 src uri) (hg : Grows s s') : s'.Holds sha256 src uri := by
  obtain ⟨row, hrow, hkey, chunk, hchunk, hchunkKey⟩ := hs
  exact ⟨row, hg.documents row hrow, hkey, chunk, hg.chunks chunk hchunk, hchunkKey⟩

theorem KnowledgeStore.At.mono (hs : s.At sha256 src p) (hg : Grows s s') : s'.At sha256 src p := by
  intro uri documentId hp
  obtain ⟨row, hrow, hid, hkey⟩ := hs uri documentId hp
  exact ⟨row, hg.documents row hrow, hid, hkey⟩

theorem first?_of_before {before rest : List Item} {item : Item}
    (hl : src.items loads render = before ++ item :: rest) (hnew : item.id ∉ before.map Item.id) :
    src.first? loads render item.id = some item := by
  have hbefore : before.find? (fun other => other.id = item.id) = none := by
    rw [List.find?_eq_none]
    intro other hother heq
    exact hnew (List.mem_map.mpr ⟨other, hother, of_decide_eq_true heq⟩)
  unfold Source.first?
  rw [hl, List.find?_append, hbefore]
  simp

/-- The two rows of one key, or of one identifier, are one. -/
theorem document_unique {row row' : KnowledgeDocument} (hrow : row ∈ s.documents.rows)
    (hrow' : row' ∈ s.documents.rows) (hkey : row.key = row'.key) : row = row' :=
  Table.Keyed.eq KnowledgeDocument.key_clash s.documents.distinct hrow hrow' hkey

theorem document_unique_id {row row' : KnowledgeDocument} (hrow : row ∈ s.documents.rows)
    (hrow' : row' ∈ s.documents.rows) (hid : row.documentId = row'.documentId) : row = row' :=
  Table.Keyed.eq (fun _ _ h => Or.inl h) s.documents.distinct hrow hrow' hid

/-- Once an identifier is held, its chunk is stored with whatever document has its key. -/
theorem KnowledgeStore.Holds.chunk (hs : s.Holds sha256 src uri) {row : KnowledgeDocument}
    (hrow : row ∈ s.documents.rows) (hkey : row.key = src.key sha256 uri) :
    ∃ chunk ∈ s.chunks.rows, chunk.key = (row.documentId, 0, src.version sha256) := by
  obtain ⟨row', hrow', hkey', chunk, hchunk, hchunkKey⟩ := hs
  rw [document_unique hrow hrow' (hkey.trans hkey'.symm)]
  exact ⟨chunk, hchunk, hchunkKey⟩

/-- A document is stored for the first line of its identifier only. -/
theorem Faithful.document_step (hf : Faithful sha256 loads render sources h s) {d : NewDocument}
    {r : Except IngestionError (Uuid × Bool)}
    (hg : Follows sha256 (sources i) ((sources i).items loads render) (progress i h) (.createOrGetDocument d))
    (hstep : DocumentStep s d r s') :
    Faithful sha256 loads render sources (h ++ [(i, ⟨⟨.createOrGetDocument d, r⟩, s, s'⟩)]) s' := by
  obtain ⟨before, item, rest, hl, hp, rfl⟩ := hg
  refine ⟨?_, ?_, ?_, ?_⟩
  · intro row hrow
    obtain hold | ⟨hnew, uuid, now, hrow⟩ := hstep.documents row hrow
    · exact hf.documents row hold
    · refine ⟨i, item, uuid, now, first?_of_before hl ?_, hrow⟩
      -- an earlier item with the identifier has its document, so the lookup would have found it
      intro hseen
      have hseen : item.id ∈ (progress i h).seen := by rwa [hp]
      obtain ⟨old, hold, hkey, _⟩ := hf.seen i item.id hseen
      exact hnew old hold hkey
  · intro chunk hchunk
    obtain ⟨j, other, uuid, hfirst, heq, row, hrow, hrest⟩ := hf.chunks chunk (hstep.chunks chunk hchunk)
    exact ⟨j, other, uuid, hfirst, heq, row, hstep.grows.documents row hrow, hrest⟩
  · intro j uri huri
    apply (hf.seen j uri ?_).mono hstep.grows
    by_cases hj : i = j
    · subst hj
      rw [progress_self] at huri
      cases r with
      | error e => exact huri
      | ok found => exact huri
    · rwa [progress_other hj] at huri
  · intro j
    by_cases hj : i = j
    · subst hj
      rw [progress_self]
      cases r with
      | error e => exact (hf.current i).mono hstep.grows
      | ok found =>
        intro uri documentId hcurrent
        obtain ⟨row, hrow, hid, hkey⟩ := hstep.found found rfl
        obtain ⟨rfl, rfl⟩ := Prod.mk.inj (Option.some.inj hcurrent)
        exact ⟨row, hrow, hid, hkey⟩
    · rw [progress_other hj]
      exact (hf.current j).mono hstep.grows

/-- A chunk is stored for the first line of its identifier only. -/
theorem Faithful.chunk_step (hf : Faithful sha256 loads render sources h s) {c : NewChunk}
    {r : Except IngestionError Bool}
    (hg : Follows sha256 (sources i) ((sources i).items loads render) (progress i h) (.createChunkIfAbsent c))
    (hstep : ChunkStep s c r s') :
    Faithful sha256 loads render sources (h ++ [(i, ⟨⟨.createChunkIfAbsent c, r⟩, s, s'⟩)]) s' := by
  obtain ⟨before, item, rest, documentId, hl, hp, rfl⟩ := hg
  have hcurrent : (progress i h).current = some (item.id, documentId) := by rw [hp]
  obtain ⟨row, hrow, hid, hkey⟩ := hf.current i item.id documentId hcurrent
  refine ⟨?_, ?_, ?_, ?_⟩
  · intro row hrow
    exact hf.documents row (hstep.documents row hrow)
  · intro chunk hchunk
    obtain hold | ⟨hnew, uuid, rfl⟩ := hstep.chunks chunk hchunk
    · obtain ⟨j, other, uuid, hfirst, heq, row, hrow, hrest⟩ := hf.chunks chunk hold
      exact ⟨j, other, uuid, hfirst, heq, row, hstep.grows.documents row hrow, hrest⟩
    · refine ⟨i, item, uuid, first?_of_before hl ?_, rfl, row, hstep.grows.documents row hrow, hid, hkey⟩
      -- the chunk of an earlier item with the identifier is that of the same document
      intro hseen
      have hseen : item.id ∈ (progress i h).seen := by rwa [hp]
      obtain ⟨old, hold, holdKey⟩ := (hf.seen i item.id hseen).chunk hrow hkey
      rw [hid] at holdKey
      exact hnew old hold holdKey
  · intro j uri huri
    by_cases hj : i = j
    · subst hj
      rw [progress_self] at huri
      cases r with
      | error e => exact (hf.seen i uri huri).mono hstep.grows
      | ok inserted =>
        rw [Progress.after_chunk hp] at huri
        rcases List.mem_append.mp huri with hbefore | hlast
        · have hseen : uri ∈ (progress i h).seen := by rwa [hp]
          exact (hf.seen i uri hseen).mono hstep.grows
        · rw [List.mem_singleton.mp hlast]
          obtain ⟨chunk, hchunk, hchunkKey⟩ := hstep.held inserted rfl
          refine ⟨row, hstep.grows.documents row hrow, hkey, chunk, hchunk, ?_⟩
          rw [hchunkKey, hid]
          rfl
    · rw [progress_other hj] at huri
      exact (hf.seen j uri huri).mono hstep.grows
  · intro j
    by_cases hj : i = j
    · subst hj
      rw [progress_self]
      cases r with
      | error e => exact (hf.current i).mono hstep.grows
      | ok inserted =>
        rw [Progress.after_chunk hp]
        intro uri documentId' hnone
        cases hnone
    · rw [progress_other hj]
      exact (hf.current j).mono hstep.grows

theorem Faithful.empty : Faithful sha256 loads render sources [] {} where
  documents := by
    intro row hrow
    cases hrow
  chunks := by
    intro chunk hchunk
    cases hchunk
  seen := by
    intro i uri huri
    cases huri
  current := by
    intro i uri documentId hcurrent
    cases hcurrent

variable {ps : ι → Prog KnowledgeOp IngestionError IngestionResult}

theorem faithful_run
    (run : Run (.of respond) (fun i => ingestJsonl sha256 loads render (sources i)) {} h ps s) :
    Faithful sha256 loads render sources h s := by
  refine run.invariant (Faithful sha256 loads render sources) (fun i => safe_ingestJsonl (sources i)) .empty ?_
  intro h s i β o r s' hf hg hm
  cases o with
  | createOrGetDocument d => exact hf.document_step hg (respond_document hm)
  | createChunkIfAbsent c => exact hf.chunk_step hg (respond_chunk hm)

theorem stored_of_returned
    (run : Run (.of respond) (fun i => ingestJsonl sha256 loads render (sources i)) {} h ps s)
    {result : IngestionResult} (hret : ps i = .ret result) :
    ∀ item ∈ (sources i).items loads render, s.Holds sha256 (sources i) item.id := by
  have hsafe := run.local_safe (i := i) (safe_ingestJsonl (sources i))
  rw [hret] at hsafe
  have hdone : progress i h = ⟨((sources i).items loads render).map Item.id, none⟩ := hsafe
  intro item hitem
  apply (faithful_run run).seen i
  rw [hdone]
  exact List.mem_map_of_mem hitem

/-- A file is identified by its tenant and its version. -/
theorem source_eq {src src' : Source}
    (hver : src.version sha256 = src'.version sha256 → src.bytes = src'.bytes)
    {uri uri' : String} (hkey : src.key sha256 uri = src'.key sha256 uri') : src = src' ∧ uri = uri' := by
  obtain ⟨htenant, hrest⟩ := Prod.mk.inj hkey
  obtain ⟨huri, hversion⟩ := Prod.mk.inj hrest
  have hbytes := hver hversion
  cases src
  cases src'
  exact ⟨by congr, huri⟩

/-- The one document and the one chunk that the store has for an identifier of a file: those of its first line. -/
structure Ingested (sha256 : ByteArray → String) (src : Source) (first : Item) (s : KnowledgeStore)
    (row : KnowledgeDocument) (chunk : KnowledgeChunk) : Prop where
  document_stored : row ∈ s.documents.rows
  chunk_stored : chunk ∈ s.chunks.rows
  document : row = (first.document sha256 src).row row.documentId row.effectiveFrom
  chunk : chunk = (first.chunk sha256 src row.documentId).row chunk.chunkId

theorem Faithful.ingested (hf : Faithful sha256 loads render sources h s)
    (hver : ∀ i j, (sources i).version sha256 = (sources j).version sha256 →
      (sources i).bytes = (sources j).bytes)
    (hholds : s.Holds sha256 (sources i) uri) :
    ∃ first row chunk, (sources i).first? loads render uri = some first ∧
      Ingested sha256 (sources i) first s row chunk := by
  obtain ⟨row, hrow, hkey, chunk, hchunk, hchunkKey⟩ := hholds
  obtain ⟨j, first, uuid, now, hfirst, hdocument⟩ := hf.documents row hrow
  obtain ⟨k, other, chunkId, hother, hchunkRow, owner, howner, hownerId, hownerKey⟩ := hf.chunks chunk hchunk
  -- the document and the chunk may be the work of two other ingestions; their keys make the files one
  have hrowKey : (sources j).key sha256 first.id = (sources i).key sha256 uri := by
    rw [← hkey, hdocument]
    rfl
  obtain ⟨hj, huri⟩ := source_eq (hver j i) hrowKey
  have hchunkId : chunk.documentId = row.documentId := (Prod.mk.inj hchunkKey).1
  have hsame : owner = row := document_unique_id howner hrow (hownerId.trans hchunkId)
  have hotherKey : (sources k).key sha256 other.id = (sources i).key sha256 uri := by
    rw [← hownerKey, hsame, hkey]
  obtain ⟨hk, huri'⟩ := source_eq (hver k i) hotherKey
  rw [hj, huri] at hfirst
  rw [hk, huri', hfirst] at hother
  have hitem := Option.some.inj hother
  rw [hj] at hdocument
  rw [hk, ← hitem, hchunkId] at hchunkRow
  refine ⟨first, row, chunk, hfirst, hrow, hchunk, ?_, ?_⟩
  · rw [hdocument]
    rfl
  · rw [hchunkRow]
    rfl

end Invariant

section Again

variable {sha256 : ByteArray → String} {loads : String → Except IngestionError Value} {render : Value → String}
  {src : Source} {l : List Item} {ι : Type} [DecidableEq ι] {s₀ s s' : KnowledgeStore}
  {procs ps : ι → Prog KnowledgeOp IngestionError IngestionResult} {k : ι}
  {h : History ι KnowledgeOp IngestionError KnowledgeStore}

/-- An answer that tells of nothing new. -/
def Call.Old : Call KnowledgeOp IngestionError → Prop
  | ⟨.createOrGetDocument _, r⟩ => ∀ found, r = .ok found → found.2 = false
  | ⟨.createChunkIfAbsent _, r⟩ => ∀ inserted, r = .ok inserted → inserted = false

/-- An ingestion that is told of nothing new counts nothing. -/
theorem safe_ingestLines_old (lines : List (List Char)) (lineNumber : ℕ) (p : Progress) :
    Safe ((Machine.ghost Progress.after).restrict Call.Old) (fun _ {_} _ => True)
      (Returns fun counts _ => counts = (0, 0))
      (ingestLines sha256 loads render src lineNumber lines 0 0) p := by
  induction lines generalizing lineNumber p with
  | nil => exact rfl
  | cons line rest ih =>
    unfold ingestLines
    split
    · exact ih _ _
    · split
      · trivial
      · rename_i item _
        rw [safe_bind, safe_perform]
        refine ⟨trivial, ?_⟩
        rintro found p ⟨_, hold⟩
        cases found with
        | error e => trivial
        | ok found =>
          rw [thenSafe_ok, safe_bind, safe_perform, if_neg (by rw [hold found rfl]; decide)]
          refine ⟨trivial, ?_⟩
          rintro inserted p ⟨_, hold⟩
          cases inserted with
          | error e => trivial
          | ok inserted =>
            rw [thenSafe_ok, if_neg (by rw [hold inserted rfl]; decide)]
            exact ih _ _

theorem safe_ingestJsonl_old (src : Source) (p : Progress) :
    Safe ((Machine.ghost Progress.after).restrict Call.Old) (fun _ {_} _ => True)
      (Returns fun result _ => result.documents = 0 ∧ result.chunks = 0)
      (ingestJsonl sha256 loads render src) p := by
  unfold ingestJsonl
  split
  · trivial
  · rename_i text _
    apply Safe.seq (safe_ingestLines_old (splitlines text.toList) 1 p)
    intro counts p hcounts
    rw [hcounts]
    exact ⟨rfl, rfl⟩

/-- The store has a document and a chunk for every identifier of a file. -/
def Complete (sha256 : ByteArray → String) (loads : String → Except IngestionError Value)
    (render : Value → String) (src : Source) (s : KnowledgeStore) : Prop :=
  ∀ item ∈ src.items loads render, s.Holds sha256 src item.id

/-- An ingestion of a file that the store has completely finds all that it asks for. -/
theorem Complete.finds {p : Progress} (hc : Complete sha256 loads render src s) (hat : s.At sha256 src p)
    {β : Type} {o : KnowledgeOp β} {r : Except IngestionError β}
    (hg : Follows sha256 src (src.items loads render) p o) (hm : Machine.of respond s o r s') :
    s' = s ∧ Call.Old ⟨o, r⟩ := by
  cases o with
  | createOrGetDocument d =>
    obtain ⟨before, item, rest, hl, _, rfl⟩ := hg
    obtain ⟨row, hrow, hkey, _⟩ := hc item (hl ▸ List.mem_append_right _ List.mem_cons_self)
    exact (respond_document hm).known row hrow hkey
  | createChunkIfAbsent c =>
    obtain ⟨before, item, rest, documentId, hl, hp, rfl⟩ := hg
    obtain ⟨row, hrow, hid, hkey⟩ := hat item.id documentId (by rw [hp])
    obtain ⟨chunk, hchunk, hchunkKey⟩ :=
      (hc item (hl ▸ List.mem_append_right _ List.mem_cons_self)).chunk hrow hkey
    rw [hid] at hchunkKey
    exact (respond_chunk hm).known chunk hchunk hchunkKey

theorem respond_grows {β : Type} {o : KnowledgeOp β} {r : Except IngestionError β}
    (hm : Machine.of respond s o r s') : Grows s s' := by
  cases o with
  | createOrGetDocument d => exact (respond_document hm).grows
  | createChunkIfAbsent c => exact (respond_chunk hm).grows

theorem Complete.mono (hc : Complete sha256 loads render src s) (hg : Grows s s') :
    Complete sha256 loads render src s' :=
  fun item hitem => (hc item hitem).mono hg

/-- The document that is stored, or found, is the one that the ingestion is at. -/
theorem at_after (hat : s.At sha256 src (progress k h)) {β : Type} {o : KnowledgeOp β}
    {r : Except IngestionError β}
    (hg : Follows sha256 src (src.items loads render) (progress k h) o) (hm : Machine.of respond s o r s') :
    s'.At sha256 src (Progress.after (progress k h) ⟨o, r⟩) := by
  cases o with
  | createOrGetDocument d =>
    obtain ⟨before, item, rest, hl, hp, rfl⟩ := hg
    cases r with
    | error e => exact hat.mono (respond_grows hm)
    | ok found =>
      intro uri documentId hcurrent
      obtain ⟨rfl, rfl⟩ := Prod.mk.inj (Option.some.inj hcurrent)
      exact (respond_document hm).found found rfl
  | createChunkIfAbsent c =>
    obtain ⟨before, item, rest, documentId, hl, hp, rfl⟩ := hg
    cases r with
    | error e => exact hat.mono (respond_grows hm)
    | ok inserted =>
      rw [Progress.after_chunk hp]
      intro uri documentId' hcurrent
      cases hcurrent

/-- What the one ingestion keeps to when it is told of nothing new; the others are free. -/
theorem safe_again (hk : procs k = ingestJsonl sha256 loads render src) (i : ι) :
    Safe ((Machine.ghost Progress.after).restrict fun c => i = k → Call.Old c)
      (fun p {_} o => i = k → Follows sha256 src (src.items loads render) p o)
      (fun r p => i = k → Returns (fun result _ => result.documents = 0 ∧ result.chunks = 0) r p)
      (procs i) {} := by
  by_cases hi : i = k
  · have hold : (fun c : Call KnowledgeOp IngestionError => i = k → Call.Old c) = Call.Old := by
      funext c
      simp [hi]
    rw [hold, hi, hk]
    refine (((safe_ingestJsonl src).restrict Call.Old).and (safe_ingestJsonl_old src {})).mono ?_ ?_
    · intro p β o hg _
      exact hg.1
    · intro r p hr _
      exact hr.2
  · have hany : Safe ((Machine.ghost Progress.after).restrict fun c => i = k → Call.Old c)
        (fun _ {_} _ => True) (fun _ _ => True) (procs i) {} :=
      Safe.of_stable (fun _ _ _ _ _ _ _ => trivial) trivial (procs i)
    exact hany.mono (fun _ _ _ _ h => absurd h hi) fun _ _ _ h => absurd h hi

/-- What holds while an ingestion of a complete file runs. -/
structure Idle (sha256 : ByteArray → String) (loads : String → Except IngestionError Value)
    (render : Value → String) (src : Source) (k : ι) (h : History ι KnowledgeOp IngestionError KnowledgeStore)
    (s : KnowledgeStore) : Prop where
  complete : Complete sha256 loads render src s
  current : s.At sha256 src (progress k h)
  unchanged : ∀ e, (k, e) ∈ h → e.after = e.before

theorem Idle.start (hc : Complete sha256 loads render src s) : Idle sha256 loads render src k [] s where
  complete := hc
  current := by
    intro uri documentId hcurrent
    cases hcurrent
  unchanged := by
    intro e he
    cases he

theorem Idle.step (hj : Idle sha256 loads render src k h s) {i : ι} {β : Type} {o : KnowledgeOp β}
    {r : Except IngestionError β} (hg : i = k → Follows sha256 src (src.items loads render) (progress i h) o)
    (hm : Machine.of respond s o r s') :
    (i = k → Call.Old ⟨o, r⟩) ∧ Idle sha256 loads render src k (h ++ [(i, ⟨⟨o, r⟩, s, s'⟩)]) s' := by
  by_cases hi : i = k
  · subst hi
    obtain ⟨hs, hold⟩ := hj.complete.finds hj.current (hg rfl) hm
    refine ⟨fun _ => hold, hj.complete.mono (respond_grows hm), ?_, ?_⟩
    · rw [progress_self]
      exact at_after hj.current (hg rfl) hm
    · intro e he
      rcases List.mem_append.mp he with hpast | hlast
      · exact hj.unchanged e hpast
      · obtain ⟨_, rfl⟩ := Prod.mk.inj (List.mem_singleton.mp hlast)
        exact hs
  · refine ⟨fun h => absurd h hi, hj.complete.mono (respond_grows hm), ?_, ?_⟩
    · rw [progress_other hi]
      exact hj.current.mono (respond_grows hm)
    · intro e he
      rcases List.mem_append.mp he with hpast | hlast
      · exact hj.unchanged e hpast
      · exact absurd (Prod.mk.inj (List.mem_singleton.mp hlast)).1.symm hi

/-- An ingestion of a file that the store has completely, while whatever else is ingested. -/
theorem idle_run (hk : procs k = ingestJsonl sha256 loads render src)
    (hc : Complete sha256 loads render src s₀) (run : Run (.of respond) procs s₀ h ps s) :
    (∀ e, (k, e) ∈ h → e.after = e.before) ∧
    ∀ result, ps k = .ret result → result.documents = 0 ∧ result.chunks = 0 := by
  have hrun := run.conditional_invariant (C := fun _ _ => True) (Idle sha256 loads render src k) (safe_again hk)
    (.start hc) (fun h s i β o r s' hj hg hm _ => hj.step hg hm) fun _ _ _ => trivial
  obtain ⟨hidle, hprocs⟩ := hrun
  refine ⟨hidle.unchanged, ?_⟩
  intro result hret
  have hresult := hprocs k
  rw [hret] at hresult
  exact hresult rfl

/-- An ingestion that begins after another one of the same file has returned stores nothing and counts nothing,
whatever else is ingested meanwhile. -/
theorem reingestion_adds_nothing {sources : ι → Source} {ps₁ ps₂ : ι → Prog KnowledgeOp IngestionError IngestionResult}
    {h₁ h₂ : History ι KnowledgeOp IngestionError KnowledgeStore} {s₁ s₂ : KnowledgeStore} {i : ι}
    {result : IngestionResult}
    (earlier : Run (.of respond) (fun i => ingestJsonl sha256 loads render (sources i)) {} h₁ ps₁ s₁)
    (hret : ps₁ i = .ret result) (hfresh : ps₁ k = ingestJsonl sha256 loads render (sources i))
    (later : Run (.of respond) ps₁ s₁ h₂ ps₂ s₂) :
    (∀ e, (k, e) ∈ h₂ → e.after = e.before) ∧
    ∀ again, ps₂ k = .ret again → again.documents = 0 ∧ again.chunks = 0 :=
  idle_run hfresh (stored_of_returned earlier hret) later

end Again

section Demo

/-- A process that the scheduler does not come to is where it was. -/
theorem play_other {ι : Type} [DecidableEq ι] {k : ι} (cs : List (ι × Draw)) (hk : ∀ c ∈ cs, k ≠ c.1)
    (ps : ι → Prog KnowledgeOp IngestionError IngestionResult) (s : KnowledgeStore) :
    (play respond cs ps s).2.1 k = ps k := by
  induction cs generalizing ps s with
  | nil => rfl
  | cons c cs ih =>
    obtain ⟨hc, hcs⟩ := List.forall_mem_cons.mp hk
    unfold play
    split
    · exact (ih hcs _ _).trans (Function.update_of_ne hc _ _)
    · exact ih hcs _ _

def demoText : String := "\x7b\"id\": \"faq-1\", \"section\": \"returns\", \"text\": \"Thirty days.\"\x7d"

-- the same line twice
def demoSource : Source := ⟨(demoText ++ "\n" ++ demoText ++ "\n").toUTF8, "demo-tenant"⟩

def demoDigest (bytes : ByteArray) : String :=
  if bytes.size < 20 then "04fcffcf94d78e68c40c4a7e806b6e8d2bcd5cfdcfb0b1a7da502b7935cdbf39"
  else "16c71e4d5e1ffc4df714f1ca2d1eb49ba3709bde2f75e7633b28018ac8603ac0"

def demoLoads (line : String) : Except IngestionError Value :=
  if line = demoText then
    .ok (.obj [("id", .str "faq-1"), ("section", .str "returns"), ("text", .str "Thirty days.")])
  else .error .json

def demoRender (_ : Value) : String := ""

abbrev demoIngestion (_ : Bool) : Prog KnowledgeOp IngestionError IngestionResult :=
  ingestJsonl demoDigest demoLoads demoRender demoSource

/-- The first ingestion alone, which stores the line once. -/
def demoFirst : List (Bool × Draw) :=
  [(false, ⟨"d-1", 10, .none⟩), (false, ⟨"c-1", 11, .none⟩), (false, ⟨"d-2", 12, .none⟩), (false, ⟨"c-2", 13, .none⟩)]

def demoSecond : List (Bool × Draw) :=
  [(true, ⟨"d-3", 14, .none⟩), (true, ⟨"c-3", 15, .none⟩), (true, ⟨"d-4", 16, .none⟩), (true, ⟨"c-4", 17, .none⟩)]

instance demoFirst_facts : Fact ((play respond demoFirst demoIngestion {}).2.1 false |>.returned
    fun result => result.documents == 1 && result.chunks == 1) :=
  ⟨by decide +kernel⟩

end Demo

theorem reingestion_adds_nothing_twice : (∃ result, (play respond demoFirst demoIngestion {}).2.1 false = .ret result) ∧
    ∀ e, (true, e) ∈ (play respond demoSecond
        (play respond demoFirst demoIngestion {}).2.1 (play respond demoFirst demoIngestion {}).2.2).1 →
      e.after = e.before := by
  obtain ⟨result, hret, _⟩ := Prog.eq_ret_of_returned demoFirst_facts.out
  have hfresh : (play respond demoFirst demoIngestion {}).2.1 true = demoIngestion true :=
    play_other demoFirst (by decide) _ _
  refine ⟨⟨result, hret⟩, ?_⟩
  exact (reingestion_adds_nothing (play_run respond demoFirst demoIngestion {}) hret hfresh
    (play_run respond demoSecond _ _)).1

end CommerceAgent.Knowledge
