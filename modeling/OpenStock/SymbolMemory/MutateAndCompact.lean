import OpenStock.SymbolMemory.Compaction

namespace OpenStock.SymbolMemory.Compaction
open Text TextLines Cards
open WriteScopes (Failure Session Body Event warehouseTransaction Inside Running Contained inside_refl inside_trans
  inside_running run_inside)

section platform
variable [Platform] {π ν : Type}

/- The hash that a card file stores. -/

variable {values : List (Text × Text)}

omit [Platform] in
theorem stored_split {text frontmatter body : Text} (split : splitFrontmatter (readText text) = .ok (frontmatter,body))
    (parsed : parseFrontmatter frontmatter = .ok values) : storedHash (some text) = values.lookup "document_hash".toList := by
  simp only [storedHash,split,parsed,Except.toOption,Option.bind_some,Option.bind_eq_bind]

-- The lines of the front matter, and what stands around them, hold no carriage return.
theorem front_returns (sound : front.Sound) (plain : Plain documentHash) :
    '\r' ∉ "---\n".toList ++ (frontText front documentHash ++ "\n---\n".toList) := by
  have whole := card_returns sound plain (show '\r' ∉ [] by simp) (show '\r' ∉ [] by simp)
  rw [closed_card] at whole
  simp only [List.mem_append,not_or] at whole ⊢
  exact ⟨whole.1,whole.2.1,whole.2.2.1⟩

-- Whatever stands in the two regions of a card that is written, its row names its hash.
theorem write_stored {file : Option Text} {symbol managed text : Text} {userContent : Option Text} {stamp : Platform.Stamp}
    {document : MemoryDocument} (written : writeSymbolCard file symbol managed userContent stamp = .ok (text,document)) :
    storedHash (some text) = some document.documentHash ∧ normalizeSymbol symbol = some document.symbol := by
  obtain ⟨previous,managedHash,documentHash,_,named,rendered,same⟩ := write_ok written
  refine ⟨?_,named⟩
  obtain ⟨_,_,shape⟩ := render_ok.mp rendered
  obtain ⟨filled,_,hashed⟩ := Prod.mk.inj shape |>.imp_right Prod.mk.inj
  have sound : (frontOf document.symbol document.generation managed stamp).Sound := ⟨symbol_again named,hash_plain managed⟩
  have plain : Plain documentHash := by
    rw [hashed]
    exact hash_plain _
  rw [← hashed,fill_card sound,closed_card] at filled
  have kept := universal_append (front_returns sound plain)
  simp only [List.append_assoc] at kept
  have read : readText text = _ := (congrArg universalNewlines filled).trans (kept _)
  rw [stored_split ((congrArg splitFrontmatter read).trans (split_closed sound plain _)) (front_parsed sound plain),same]
  rfl

theorem values_hash (read : readValues values = some front) :
    values.lookup "document_hash".toList = some front.documentHash := by
  simp only [readValues,Option.bind_eq_bind,Option.bind_eq_some_iff,Option.pure_def] at read
  obtain ⟨symbol,_,version,_,generation,_,stamp,_,managed,_,document,found,same⟩ := read
  cases same
  exact found

theorem parse_stored {text : Text} {card : ParsedSymbolCard} (parsed : parseSymbolCard (readText text) = .ok card) :
    storedHash (some text) = some card.documentHash := by
  obtain ⟨frontmatter,body,values,front,opened,read,valued,_,_,same⟩ := parse_parts parsed
  rw [stored_split opened read,values_hash valued,same]

/- One compaction. -/

variable {preview : MemoryCompactionPreview}

section compaction
variable {world : Surroundings} {select : Retrieve ν} {symbol : Text} {userContent : Option Text} {tables : Tables ν} {file : Option Text}

variable (world) in
theorem skips_compact (skips : Skips symbol select userContent tables file row card) :
    ∃ preview, compactUnlocked world select symbol userContent tables file = ((tables,file),.ok preview) := by
  obtain ⟨canonical,selection,named,selected,stored,unchanged,loaded,wanted⟩ := skips
  have expected : preservedUserContent (some card) userContent = card.userContent := by
    cases userContent with
    | none => rfl
    | some notes => exact wanted.symm
  simp only [compactUnlocked,named,previewOf,selected,stored,unchanged,bind,Except.bind,pure,Except.pure,loaded,expected,skipped,
    bne_self_eq_false,Bool.not_false,beq_self_eq_true,Bool.and_self,if_true]
  exact ⟨_,rfl⟩

theorem handled_raises {previous : Option MemoryDocument} {previousContent : Option Text} {failure : Failure} :
    ∃ later, (handled world symbol previous previousContent failure tables file).2 = .error later := by
  unfold handled
  split
  · split
    · exact ⟨_,rfl⟩
    · split
      · exact ⟨_,rfl⟩
      · exact ⟨_,rfl⟩
  · exact ⟨_,rfl⟩

theorem handled_other {previous : Option MemoryDocument} {previousContent : Option Text} {failure : Failure} :
    (handled world symbol previous previousContent failure tables file).2 ≠ .ok preview := by
  obtain ⟨later,raises⟩ := @handled_raises _ _ world symbol tables file previous previousContent failure
  rw [raises]
  exact fun same => nomatch same

variable {document : MemoryDocument}

theorem write_done (wrote : writeCard world file canonical managed notes = (written,.ok document)) :
    ∃ content, writeSymbolCard file canonical managed (some notes) world.timestamp = .ok (content,document) ∧ written = some content := by
  unfold writeCard at wrote
  split at wrote
  · cases wrote
  · rename_i content row rendered
    split at wrote
    · cases wrote
      exact ⟨content,rendered,rfl⟩
    · cases wrote
    · cases wrote

theorem upsert_done (upserted : upsertDocument world document tables = .ok stored) :
    stored = tables.upsertDocument document := by
  unfold upsertDocument at upserted
  split at upserted
  · cases upserted
  · exact (Except.ok.inj upserted).symm

theorem record_done {run : MemoryCompactionRun} (inserted : recordCompactionRun world run tables = .ok recorded) :
    recorded.documents = tables.documents := by
  unfold recordCompactionRun at inserted
  split at inserted
  · cases inserted
  · split at inserted
    · cases inserted
    · rw [← Except.ok.inj inserted]

-- A preview that is not changed has a row with the hash of what was selected.
theorem preview_unchanged (previewed : previewOf select canonical tables = .ok preview)
    (unchanged : preview.changed = false) : ∃ selection row, select canonical tables = .ok selection ∧
      tables.documents canonical = some row ∧ row.managedHash = Cards.hash selection.managedContent := by
  unfold previewOf at previewed
  cases selected : select canonical tables with
  | error failure => simp [selected,bind,Except.bind] at previewed
  | ok selection =>
    cases stored : tables.documents canonical with
    | none =>
      simp only [selected,stored,bind,Except.bind,pure,Except.pure,Except.ok.injEq] at previewed
      rw [← previewed] at unchanged
      cases unchanged
    | some row =>
      simp only [selected,stored,bind,Except.bind,pure,Except.pure,Except.ok.injEq] at previewed
      rw [← previewed] at unchanged
      exact ⟨selection,row,rfl,rfl,bne_eq_false_iff_eq.mp unchanged⟩

theorem skipped_wanted (skips : skipped preview existing (preservedUserContent existing userContent) = true) :
    ∃ card, existing = some card ∧ preview.changed = false ∧ card.userContent = userContent.getD card.userContent := by
  cases existing with
  | none => simp [skipped] at skips
  | some card =>
    simp only [skipped,Bool.and_eq_true,Bool.not_eq_true',beq_iff_eq] at skips
    refine ⟨card,rfl,skips.1,?_⟩
    cases userContent with
    | none => rfl
    | some notes => exact skips.2

-- A compaction that returns has skipped, or has written the card and its row.
theorem compact_returns (returns : (compactUnlocked world select symbol userContent tables file).2 = .ok preview) :
    (∃ row card, Skips symbol select userContent tables file row card) ∨
    ∃ canonical managed notes content document, normalizeSymbol symbol = some canonical ∧
      writeSymbolCard file canonical managed (some notes) world.timestamp = .ok (content,document) ∧
      (compactUnlocked world select symbol userContent tables file).1.1.documents =
        Function.update tables.documents document.symbol (some document) ∧
      (compactUnlocked world select symbol userContent tables file).1.2 = some content := by
  cases named : normalizeSymbol symbol with
  | none => simp [compactUnlocked,named] at returns
  | some canonical =>
    cases previewed : previewOf select canonical tables with
    | error failure => simp [compactUnlocked,named,previewed] at returns
    | ok drawn =>
      cases loaded : loadExisting file with
      | error problem => simp [compactUnlocked,named,previewed,loaded] at returns
      | ok existing =>
        simp only [compactUnlocked,named,previewed,loaded] at returns ⊢
        by_cases skips : skipped drawn existing (preservedUserContent existing userContent) = true
        · obtain ⟨card,rfl,unchanged,wanted⟩ := skipped_wanted skips
          obtain ⟨selection,row,selected,stored,same⟩ := preview_unchanged previewed unchanged
          exact .inl ⟨row,card,canonical,selection,named,selected,stored,same,loaded,wanted⟩
        · rw [if_neg skips] at returns ⊢
          right
          obtain ⟨written,wrote,write⟩ : ∃ written wrote, writeCard world file canonical drawn.managedContent
            (preservedUserContent existing userContent) = (written,wrote) := ⟨_,_,rfl⟩
          rw [write] at returns ⊢
          cases wrote with
          | error failure => exact absurd returns handled_other
          | ok document =>
            obtain ⟨content,rendered,rfl⟩ := write_done write
            cases upserted : upsertDocument world document tables with
            | error failure =>
              simp only [upserted] at returns
              exact absurd returns handled_other
            | ok stored =>
              cases inserted : recordCompactionRun world (runOf drawn (tables.documents canonical) document world.timestamp) stored with
              | error failure =>
                simp only [upserted,inserted] at returns
                exact absurd returns handled_other
              | ok recorded =>
                have documents : recorded.documents = Function.update tables.documents document.symbol (some document) := by
                  rw [record_done inserted,upsert_done upserted]
                  rfl
                refine ⟨canonical,_,_,content,document,rfl,rendered,?_,?_⟩
                · simp only [upserted,inserted,documents]
                · simp only [upserted,inserted]

end compaction

/- The transaction around a body. -/

section transaction
variable {world : WriteScopes.World} {connection : Nat} {body : WriteScopes.Code π (Tables ν) (Option Text)} {s : CardSession π ν}

theorem entered_outside (outside : s.activeTransaction = none) : entered connection s = s.began connection := by
  simp only [entered,outside]

theorem entered_inside (inside : s.activeTransaction = some active) : entered connection s = s := by
  simp only [entered,inside]

variable (world s) in
-- What ends by raising is undone; what returns is what the body left.
theorem transaction_ends (contained : Contained connection body) :
    (∃ failure, (warehouseTransaction world connection body s).2 = some failure ∧
      Undone connection s (warehouseTransaction world connection body s).1 ∧
      ¬ ((body (entered connection s)).2 = none ∧ Completes world connection s (body (entered connection s)).1)) ∨
    ((warehouseTransaction world connection body s).2 = none ∧ (body (entered connection s)).2 = none ∧
      Completes world connection s (body (entered connection s)).1 ∧
      (warehouseTransaction world connection body s).1.tables = (body (entered connection s)).1.tables ∧
      (warehouseTransaction world connection body s).1.rest = (body (entered connection s)).1.rest) := by
  cases active : s.activeTransaction with
  | none =>
    rw [entered_outside active]
    obtain ⟨events,kept⟩ := contained (s.began connection) ⟨false,rfl⟩
    obtain ⟨flag,marked⟩ : ∃ flag, (body (s.began connection)).1.activeTransaction = some ⟨connection,flag⟩ :=
      ⟨_,kept.marked false rfl⟩
    cases begins : world.begins with
    | false =>
      left
      simp [warehouseTransaction,active,begins,Completes,Undone,Session.note]
    | true =>
      cases outcome : (body (s.began connection)).2 with
      | some failure =>
        left
        simp [warehouseTransaction,active,begins,WriteScopes.enter,outcome,Undone,WriteScopes.rollBack]
      | none =>
        cases flag with
        | true =>
          left
          simp [warehouseTransaction,active,begins,WriteScopes.enter,outcome,marked,Completes,Undone,WriteScopes.rollBack]
        | false =>
          cases commits : world.commits with
          | false =>
            left
            simp [warehouseTransaction,active,begins,WriteScopes.enter,outcome,marked,commits,Completes,Undone,WriteScopes.rollBack]
          | true =>
            right
            simp [warehouseTransaction,active,begins,WriteScopes.enter,outcome,marked,commits,Completes,Session.note]
  | some state =>
    rw [entered_inside active]
    by_cases same : state.connection = connection
    · cases outcome : (body s).2 with
      | some failure =>
        left
        refine ⟨failure,?_,.inr ⟨⟨state.rollbackOnly,?_⟩,?_⟩,?_⟩
        · simp [warehouseTransaction,active,same,WriteScopes.enter,outcome]
        · rw [active,← same]
        · simp [warehouseTransaction,active,same,WriteScopes.enter,outcome]
        · simp
      | none =>
        right
        simp [warehouseTransaction,active,same,WriteScopes.enter,outcome,Completes,Session.note]
    · left
      simp [warehouseTransaction,active,same,Completes,Undone]

end transaction

/- The body of a call. -/

section calls
variable [DecidableEq π] {world : Surroundings} {request : Request π ν} {s : CardSession π ν}

theorem userContent_inside (running : Running request.connection s) :
    ∃ events, Inside request.connection events s (userContentOf request s).1 := by
  unfold userContentOf
  split
  · exact ⟨[],inside_refl _ s⟩
  · rename_i factory given
    split
    · exact ⟨[],inside_refl _ s⟩
    · rename_i existing loaded
      dsimp only
      obtain ⟨events,kept⟩ := run_inside (factory.effects (notesOf existing)) request.connection s running
      split
      · rename_i s' failure ran
        rw [ran] at kept
        exact ⟨events,kept⟩
      · rename_i s' ran
        rw [ran] at kept
        exact ⟨events,kept⟩

theorem prepared_inside (running : Running request.connection s) :
    ∃ events, Inside request.connection events s (prepared request s).1 := by
  obtain ⟨events,kept⟩ := run_inside request.mutation request.connection s running
  unfold prepared
  split
  · rename_i s' failure ran
    rw [ran] at kept
    exact ⟨events,kept⟩
  · rename_i s' ran
    rw [ran] at kept
    obtain ⟨later,after⟩ : ∃ later, Inside request.connection later s' (userContentOf request s').1 :=
      userContent_inside (inside_running kept running)
    exact ⟨_,inside_trans kept after⟩

variable (world request) in
theorem attempted_inside : Contained request.connection (fun s => ((attempted world request s).1,raised (attempted world request s).2)) := by
  intro s running
  obtain ⟨events,kept⟩ : ∃ events, Inside request.connection events s (prepared request s).1 := prepared_inside running
  obtain ⟨s',outcome,ran⟩ : ∃ s' outcome, prepared request s = (s',outcome) := ⟨_,_,rfl⟩
  rw [ran] at kept
  cases outcome with
  | error failure =>
    simp only [attempted,ran]
    exact ⟨events,kept⟩
  | ok userContent =>
    simp only [attempted,ran]
    exact ⟨events,kept.traced,kept.silent,kept.marked,kept.write,kept.locks,kept.connections⟩

omit [Platform] in
theorem readText_again (file : Option Text) : (file.map readText).map readText = file.map readText := by
  cases file with
  | none => rfl
  | some text => exact congrArg some (universal_kept (universal_clean text))

-- The row and the card of a compaction that returns.
theorem compact_linked {select : Retrieve ν} {symbol : Text} {userContent : Option Text} {tables : Tables ν} {file : Option Text}
    {preview : MemoryCompactionPreview} (returns : (compactUnlocked world select symbol userContent tables file).2 = .ok preview) :
    (∃ canonical row, normalizeSymbol symbol = some canonical ∧
      (compactUnlocked world select symbol userContent tables file).1.1.documents canonical = some row ∧
      storedHash (compactUnlocked world select symbol userContent tables file).1.2 = some row.documentHash) ↔
    ¬ ∃ row card, Skips symbol select userContent tables file row card ∧ row.documentHash ≠ card.documentHash := by
  have stored : ∀ {row card}, Skips symbol select userContent tables file row card →
      (compactUnlocked world select symbol userContent tables file).1 = (tables,file) ∧
      storedHash file = some card.documentHash := by
    intro row card skips
    obtain ⟨shown,skipping⟩ := skips_compact world skips
    obtain ⟨_,_,_,_,_,_,loaded,_⟩ := skips
    refine ⟨by rw [skipping],?_⟩
    cases file with
    | none => cases loaded
    | some text => exact parse_stored (load_some.mp loaded)
  constructor
  · intro ⟨canonical,row,named,found,linked⟩ ⟨other,card,skips,differ⟩
    obtain ⟨same,hashed⟩ := stored skips
    obtain ⟨canonical',_,named',_,found',_⟩ := skips
    obtain rfl : canonical = canonical' := Option.some.inj (named.symm.trans named')
    rw [same] at found linked
    obtain rfl : row = other := Option.some.inj (found.symm.trans found')
    exact differ (Option.some.inj (linked.symm.trans hashed))
  · intro fresh
    rcases compact_returns returns with ⟨row,card,skips⟩ | ⟨canonical,managed,notes,content,document,named,written,found,left⟩
    · obtain ⟨same,hashed⟩ := stored skips
      have equal : row.documentHash = card.documentHash := by
        by_contra differ
        exact fresh ⟨row,card,skips,differ⟩
      obtain ⟨canonical,_,named,_,found,_⟩ := skips
      rw [same]
      exact ⟨canonical,row,named,found,hashed.trans (congrArg some equal.symm)⟩
    · obtain ⟨hashed,again⟩ := write_stored written
      obtain rfl : canonical = document.symbol := Option.some.inj ((symbol_again named).symm.trans again)
      rw [found,left]
      exact ⟨_,document,named,Function.update_self ..,hashed⟩

-- A call that reaches its transaction.
theorem call_entered {canonical : Text} (named : normalizeSymbol request.symbol = some canonical) (locked : world.lock = none)
    (recovers : world.recover = none) : Atomic world request s ↔ ¬ Stale world request s := by
  have ends := transaction_ends world.transaction s (attempted_inside world request)
  unfold Atomic mutateAndCompact
  simp only [named,locked]
  obtain ⟨after,ended,run⟩ : ∃ after ended, warehouseTransaction world.transaction request.connection
    (fun s => ((attempted world request s).1,raised (attempted world request s).2)) s = (after,ended) := ⟨_,_,rfl⟩
  rw [run] at ends ⊢
  obtain ⟨s',outcome,ran⟩ : ∃ s' outcome, prepared request (entered request.connection s) = (s',outcome) := ⟨_,_,rfl⟩
  rcases ends with ⟨failure,rfl,undone,failed⟩ | ⟨rfl,done,completes,tables,rest⟩
  · -- Whatever was raised: the transaction is undone and the card is written back.
    simp only [recovers]
    refine iff_of_true ⟨undone,readText_again s.rest⟩ ?_
    intro ⟨s'',userContent,_,ready,completes,row,card,skips,_⟩
    obtain ⟨preview,skipping⟩ := skips_compact world skips
    apply failed
    simp only [attempted,ready,skipping,raised,true_and]
    exact completes
  · cases outcome with
    | error failure => simp [attempted,ran,raised] at done
    | ok userContent =>
      simp only [attempted,ran] at done completes tables rest ⊢
      cases compacted : (compactUnlocked world request.select request.symbol userContent s'.tables s'.rest).2 with
      | error failure => simp [compacted,raised] at done
      | ok preview =>
        simp only [tables,rest,← named]
        rw [compact_linked compacted]
        apply not_congr
        constructor
        · intro ⟨row,card,stale⟩
          exact ⟨s',userContent,locked,ran,completes,row,card,stale⟩
        · intro ⟨s'',other,_,ready,_,row,card,stale⟩
          obtain ⟨rfl,same⟩ := Prod.mk.inj (ran.symm.trans ready)
          cases same
          exact ⟨row,card,stale⟩

theorem mutate_and_compact (recovers : world.recover = none) : Atomic world request s ↔ ¬ Stale world request s := by
  cases named : normalizeSymbol request.symbol with
  | none =>
    refine iff_of_true ?_ ?_
    · simp [Atomic,mutateAndCompact,named,Undone]
    · intro ⟨_,_,_,_,_,_,_,⟨canonical,_,other,_⟩,_⟩
      rw [named] at other
      cases other
  | some canonical =>
    cases locked : world.lock with
    | none => exact call_entered named locked recovers
    | some failure =>
      refine iff_of_true ?_ ?_
      · simp [Atomic,mutateAndCompact,named,locked,Undone]
      · intro ⟨_,_,free,_⟩
        rw [locked] at free
        cases free

end calls

end platform

-- Everything works.
def steadySurroundings : @Surroundings samplePlatform :=
  @Surroundings.mk samplePlatform none ⟨true,true,true,true,true,true,true,true,false⟩ () .done none none none none none

-- A mutation that does nothing, over a retrieval that always selects the same.
def idleRequest : @Request samplePlatform Unit Unit :=
  @Request.mk samplePlatform Unit Unit "FPT".toList .finish none (fun _ _ => .ok ⟨"price\n".toList,1,0,0,1⟩) 0

def sessionOf (row : Option (@MemoryDocument samplePlatform)) (file : Option Text) : @CardSession samplePlatform Unit Unit :=
  Session.started 1 (@Tables.mk samplePlatform Unit (fun _ => row) [] ()) file

theorem idle_prepared (row : Option (@MemoryDocument samplePlatform)) (file : Option Text) :
    @prepared samplePlatform Unit Unit _ idleRequest (@entered samplePlatform Unit Unit 0 (sessionOf row file)) =
      ((sessionOf row file).began 0,.ok none) := rfl

theorem mutate_and_compact_first : @Atomic samplePlatform Unit Unit _ steadySurroundings idleRequest (sessionOf none none) := by
  apply (@mutate_and_compact samplePlatform Unit Unit _ steadySurroundings idleRequest (sessionOf none none) rfl).mpr
  intro ⟨s',userContent,_,ready,_,row,card,⟨_,_,_,_,_,_,loaded,_⟩,_⟩
  cases (idle_prepared none none).symm.trans ready
  cases loaded

-- A card, and the row of another generation of it.
def writtenCard : Text := sampleText "price\n".toList "note\n".toList

def earlierDocument : @MemoryDocument samplePlatform :=
  @MemoryDocument.mk samplePlatform "FPT".toList "knowledge/symbols/FPT.md".toList 1 1 (@hash samplePlatform "price\n".toList)
    [] 2 none ()

theorem earlier_stale : @Stale samplePlatform Unit Unit _ steadySurroundings idleRequest (sessionOf (some earlierDocument) (some writtenCard)) := by
  have named : normalizeSymbol "FPT".toList = some "FPT".toList := by decide
  have written := sample_written price_clean.1 note_clean.1
  have rendered := (@render_ok samplePlatform "FPT".toList "price\n".toList "note\n".toList 1 () _).mpr
    ⟨price_clean.1,note_clean.1,rfl⟩
  obtain ⟨card,read,_⟩ := (@rendered_reads samplePlatform _ _ _ _ _ _ _ _ named rendered).mpr ⟨price_clean.2,note_clean.2⟩
  refine ⟨_,none,rfl,idle_prepared _ _,⟨rfl,rfl,rfl⟩,earlierDocument,card,
    ⟨"FPT".toList,_,named,rfl,rfl,rfl,(@load_some samplePlatform _ _).mpr read,rfl⟩,?_⟩
  have hashed := (@parse_stored samplePlatform _ _ read).symm.trans (@write_stored samplePlatform _ _ _ _ _ _ _ written).1
  intro same
  have empty : @ParsedSymbolCard.documentHash samplePlatform card = [] := same.symm
  rw [empty] at hashed
  exact List.append_ne_nil_of_left_ne_nil (by decide) _ (Option.some.inj hashed).symm

-- A call that finds nothing to write, and a row that is not the one of the card.
theorem earlier_call : ∃ (world : @Surroundings samplePlatform) (request : @Request samplePlatform Unit Unit)
    (s : @CardSession samplePlatform Unit Unit), @Surroundings.recover samplePlatform world = none ∧
      ¬ @Atomic samplePlatform Unit Unit _ world request s := by
  have named : normalizeSymbol "FPT".toList = some "FPT".toList := by decide
  have verdict := @call_entered samplePlatform Unit Unit _ steadySurroundings idleRequest
    (sessionOf (some earlierDocument) (some writtenCard)) _ named rfl rfl
  have broken := mt verdict.mp (not_not.mpr earlier_stale)
  exact ⟨steadySurroundings,idleRequest,_,rfl,broken⟩

theorem row_kept : ¬ ∀ [Platform] (π ν : Type) [DecidableEq π] (world : Surroundings) (request : Request π ν) (s : CardSession π ν),
    world.recover = none → Atomic world request s := by
  intro claimed
  obtain ⟨world,request,s,recovers,broken⟩ := earlier_call
  exact broken (@claimed samplePlatform Unit Unit _ world request s recovers)

end OpenStock.SymbolMemory.Compaction
