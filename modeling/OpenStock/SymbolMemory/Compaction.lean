import Mathlib.Data.Rat.Init
import Mathlib.Logic.Function.Basic
import OpenStock.SymbolMemory.CardRoundTrip
import OpenStock.Warehouse.WriteScopes

namespace OpenStock.SymbolMemory.Compaction
open Text TextLines Cards
open WriteScopes (Failure Session Body TransactionState warehouseTransaction)

variable [Platform]

structure MemoryCompactionRun where
  compactionRunId : Text
  symbol : Text
  beforeGeneration : Int
  afterGeneration : Int
  beforeHash : Text
  afterHash : Text
  retainedClaimCount : Nat
  archivedClaimCount : Nat
  conflictedClaimCount : Nat
  beforeTokenEstimate : Nat
  afterTokenEstimate : Nat
  sourceCoverage : ℚ
  createdAt : Platform.Stamp
  correlationId : Text

-- The documents of symbols by their key, the compaction runs, and the other tables.
structure Tables (ν : Type) where
  documents : Text → Option MemoryDocument
  runs : List MemoryCompactionRun
  others : ν

-- What the retrieval selects for a card, rendered.
structure Selection where
  managedContent : Text
  retained : Nat
  archived : Nat
  conflicted : Nat
  sourceCoverage : ℚ

structure MemoryCompactionPreview where
  symbol : Text
  changed : Bool
  retainedClaimCount : Nat
  archivedClaimCount : Nat
  conflictedClaimCount : Nat
  beforeTokenEstimate : Nat
  afterTokenEstimate : Nat
  sourceCoverage : ℚ
  managedContent : Text

variable {π ν : Type}

-- The retrieval reads the tables; whatever it selects, or how it fails, is arbitrary.
abbrev Retrieve (ν : Type) := Text → Tables ν → Except Failure Selection

def previewOf (select : Retrieve ν) (symbol : Text) (tables : Tables ν) : Except Failure MemoryCompactionPreview := do
  let result ← select symbol tables
  let existing := tables.documents symbol
  let beforeTokens := match existing with
    | none => 0
    | some row => row.tokenEstimate
  let changed := match existing with
    | none => true
    | some row => row.managedHash != Cards.hash result.managedContent
  return ⟨symbol,changed,result.retained,result.archived,result.conflicted,beforeTokens,estimateTokens result.managedContent,
    result.sourceCoverage,result.managedContent⟩

/- What the surroundings answer to one call. -/

-- A write that fails may have replaced the file before.
inductive CardWrite where
  | done
  | refused (failure : Failure)
  | replaced (failure : Failure)

-- `restore` and `repair` are the steps of the inner handler, `recover` the write of the outer one;
-- `none` is a step that works.
structure Surroundings where
  lock : Option Failure
  transaction : WriteScopes.World
  timestamp : Platform.Stamp
  write : CardWrite
  upsert : Option Failure
  record : Option Failure
  restore : Option Failure
  repair : Option Failure
  recover : Option Failure

/- `_compact_unlocked` on the tables and the card file. -/

abbrev Outcome (ν α : Type) := (Tables ν × Option Text) × Except Failure α

def writeCard (world : Surroundings) (card : Option Text) (symbol managed user : Text) : Option Text × Except Failure MemoryDocument :=
  match writeSymbolCard card symbol managed (some user) world.timestamp with
  | .error _ => (card,.error .value)
  | .ok (content,document) =>
    match world.write with
    | .done => (some content,.ok document)
    | .refused failure => (card,.error failure)
    | .replaced failure => (some content,.error failure)

def Tables.upsertDocument (tables : Tables ν) (document : MemoryDocument) : Tables ν :=
  {tables with documents := Function.update tables.documents document.symbol (some document)}

def upsertDocument (world : Surroundings) (document : MemoryDocument) (tables : Tables ν) : Except Failure (Tables ν) :=
  match world.upsert with
  | some failure => .error failure
  | none => .ok (tables.upsertDocument document)

-- The run id is the primary key of its table.
def recordCompactionRun (world : Surroundings) (run : MemoryCompactionRun) (tables : Tables ν) : Except Failure (Tables ν) :=
  match world.record with
  | some failure => .error failure
  | none =>
    if tables.runs.any (fun recorded => recorded.compactionRunId == run.compactionRunId) then .error .database
    else .ok {tables with runs := tables.runs ++ [run]}

def runOf (preview : MemoryCompactionPreview) (previous : Option MemoryDocument) (document : MemoryDocument)
    (timestamp : Platform.Stamp) : MemoryCompactionRun where
  compactionRunId := "memory-compaction-".toList ++ Cards.hash document.documentHash
  symbol := document.symbol
  beforeGeneration := max 0 (document.generation - 1)
  afterGeneration := document.generation
  beforeHash := match previous with
    | none => []
    | some row => row.documentHash
  afterHash := document.documentHash
  retainedClaimCount := preview.retainedClaimCount
  archivedClaimCount := preview.archivedClaimCount
  conflictedClaimCount := preview.conflictedClaimCount
  beforeTokenEstimate := preview.beforeTokenEstimate
  afterTokenEstimate := document.tokenEstimate
  sourceCoverage := preview.sourceCoverage
  createdAt := timestamp
  correlationId := "memory-compaction-".toList ++ document.symbol

omit [Platform] in
-- `except (duckdb.Error, OSError, ValueError)`.
def caught : Failure → Bool
  | .database | .system | .value => true
  | _ => false

-- The inner handler: the card, then the row, as they were. What it raises itself replaces what
-- it was entered for.
def handled (world : Surroundings) (symbol : Text) (previous : Option MemoryDocument) (previousContent : Option Text)
    (failure : Failure) (tables : Tables ν) (card : Option Text) : Outcome ν MemoryCompactionPreview :=
  if caught failure then
    match world.restore with
    | some later => ((tables,card),.error later)
    | none =>
      match world.repair with
      | some later => ((tables,previousContent),.error later)
      | none => (({tables with documents := Function.update tables.documents symbol previous},previousContent),.error failure)
  else ((tables,card),.error failure)

-- Nothing to write: the preview is unchanged and the notes are the wanted ones.
def skipped (preview : MemoryCompactionPreview) (existing : Option ParsedSymbolCard) (userContent : Text) : Bool :=
  match existing with
  | none => false
  | some card => !preview.changed && card.userContent == userContent

def compactUnlocked (world : Surroundings) (select : Retrieve ν) (symbol : Text) (userContent : Option Text) (tables : Tables ν)
    (card : Option Text) : Outcome ν MemoryCompactionPreview :=
  match normalizeSymbol symbol with
  | none => ((tables,card),.error .value)
  | some canonical =>
    match previewOf select canonical tables with
    | .error failure => ((tables,card),.error failure)
    | .ok preview =>
      let previous := tables.documents canonical
      let previousContent := card.map readText
      match loadExisting card with
      | .error _ => ((tables,card),.error .value)
      | .ok existing =>
        let expectedUserContent := preservedUserContent existing userContent
        if skipped preview existing expectedUserContent then ((tables,card),.ok preview)
        else
          match writeCard world card canonical preview.managedContent expectedUserContent with
          | (written,.error failure) => handled world canonical previous previousContent failure tables written
          | (written,.ok document) =>
            match upsertDocument world document tables with
            | .error failure => handled world canonical previous previousContent failure tables written
            | .ok stored =>
              match recordCompactionRun world (runOf preview previous document world.timestamp) stored with
              | .error failure => handled world canonical previous previousContent failure stored written
              | .ok recorded =>
                ((recorded,written),.ok {preview with changed := true,afterTokenEstimate := document.tokenEstimate})

/- `mutate_and_compact`. -/

-- The code that a caller passes for the notes: what it does, and the notes it returns.
structure ContentFactory (π ν : Type) where
  effects : Text → Body π (Tables ν) (Option Text)
  content : Text → Tables ν → Option Text → Text

structure Request (π ν : Type) where
  symbol : Text
  mutation : Body π (Tables ν) (Option Text)
  userContentFactory : Option (ContentFactory π ν)
  select : Retrieve ν
  connection : Nat

abbrev CardSession (π ν : Type) := Session π (Tables ν) (Option Text)

def notesOf : Option ParsedSymbolCard → Text
  | none => []
  | some card => card.userContent

section calls
variable [DecidableEq π] (world : Surroundings) (request : Request π ν)

def userContentOf (s : CardSession π ν) : CardSession π ν × Except Failure (Option Text) :=
  match request.userContentFactory with
  | none => (s,.ok none)
  | some factory =>
    match loadExisting s.rest with
    | .error _ => (s,.error .value)
    | .ok existing =>
      let previous := notesOf existing
      match WriteScopes.run (factory.effects previous) request.connection s with
      | (s',some failure) => (s',.error failure)
      | (s',none) => (s',.ok (some (factory.content previous s'.tables s'.rest)))

-- The mutation, then the factory.
def prepared (s : CardSession π ν) : CardSession π ν × Except Failure (Option Text) :=
  match WriteScopes.run request.mutation request.connection s with
  | (s',some failure) => (s',.error failure)
  | (s',none) => userContentOf request s'

def attempted (s : CardSession π ν) : CardSession π ν × Except Failure MemoryCompactionPreview :=
  match prepared request s with
  | (s',.error failure) => (s',.error failure)
  | (s',.ok userContent) =>
    let outcome := compactUnlocked world request.select request.symbol userContent s'.tables s'.rest
    ({s' with tables := outcome.1.1,rest := outcome.1.2},outcome.2)

omit [Platform] in
def raised {α : Type} : Except Failure α → Option Failure
  | .error failure => some failure
  | .ok _ => none

omit [Platform] [DecidableEq π] in
-- The session that the body of the transaction is given.
def entered (connection : Nat) (s : CardSession π ν) : CardSession π ν :=
  match s.activeTransaction with
  | none => s.began connection
  | some _ => s

def mutateAndCompact (s : CardSession π ν) : CardSession π ν × Except Failure MemoryCompactionPreview :=
  match normalizeSymbol request.symbol with
  | none => (s,.error .value)
  | some _ =>
    match world.lock with
    | some failure => (s,.error failure)
    | none =>
      let previousContent := s.rest.map readText
      let body := fun s => ((attempted world request s).1,raised (attempted world request s).2)
      match warehouseTransaction world.transaction request.connection body s with
      | (after,none) => (after,(attempted world request (entered request.connection s)).2)
      | (after,some failure) =>
        match world.recover with
        | some later => (after,.error later)
        | none => ({after with rest := previousContent},.error failure)

end calls

/- What a call leaves. -/

-- The hash in the front matter of a card file.
def storedHash (file : Option Text) : Option Text := do
  let text ← file
  let (frontmatter,_) ← (splitFrontmatter (readText text)).toOption
  let values ← (parseFrontmatter frontmatter).toOption
  values.lookup "document_hash".toList

-- The tables are as they were, or the transaction around the call can only be rolled back.
def Undone (connection : Nat) (s s' : CardSession π ν) : Prop :=
  s'.tables = s.tables ∨ (∃ flag, s.activeTransaction = some ⟨connection,flag⟩) ∧ s'.activeTransaction = some ⟨connection,true⟩

def Atomic [DecidableEq π] (world : Surroundings) (request : Request π ν) (s : CardSession π ν) : Prop :=
  match mutateAndCompact world request s with
  | (s',.error _) => Undone request.connection s s' ∧ s'.rest.map readText = s.rest.map readText
  | (s',.ok _) => ∃ canonical row, normalizeSymbol request.symbol = some canonical ∧ s'.tables.documents canonical = some row ∧
      storedHash s'.rest = some row.documentHash

-- The transaction can end well over what its body left.
def Completes (world : WriteScopes.World) (connection : Nat) (s left : CardSession π ν) : Prop :=
  match s.activeTransaction with
  | none => world.begins = true ∧ world.commits = true ∧ left.activeTransaction = some ⟨connection,false⟩
  | some active => active.connection = connection

-- There is nothing to write: the row names the content that would be rendered, and the notes are the
-- wanted ones.
def Skips (symbol : Text) (select : Retrieve ν) (userContent : Option Text) (tables : Tables ν) (file : Option Text)
    (row : MemoryDocument) (card : ParsedSymbolCard) : Prop :=
  ∃ canonical selection, normalizeSymbol symbol = some canonical ∧ select canonical tables = .ok selection ∧
    tables.documents canonical = some row ∧ row.managedHash = Cards.hash selection.managedContent ∧
    loadExisting file = .ok (some card) ∧ card.userContent = userContent.getD card.userContent

-- A call whose mutation and factory end well, whose transaction can be completed, and which finds
-- nothing to write though the row is not the one of the card.
def Stale [DecidableEq π] (world : Surroundings) (request : Request π ν) (s : CardSession π ν) : Prop :=
  ∃ s' userContent, world.lock = none ∧ prepared request (entered request.connection s) = (s',.ok userContent) ∧
    Completes world.transaction request.connection s s' ∧ ∃ row card,
      Skips request.symbol request.select userContent s'.tables s'.rest row card ∧ row.documentHash ≠ card.documentHash

end OpenStock.SymbolMemory.Compaction
