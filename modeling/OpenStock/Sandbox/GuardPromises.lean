import OpenStock.Sandbox.GuardVisits

namespace OpenStock.Sandbox

/- What a call of `open` does, by the binding of its arguments to the parameters. -/

inductive Value where
  | text (value : Text)
  | other (identity : Nat)
deriving DecidableEq

-- The values that expressions may have where a module runs. Those of constants
-- and of list and tuple displays are fixed.
structure Evaluation where
  value : Ast → Value
  items : Ast → List Value
  pairs : Ast → List (Text × Value)
  constant : ∀ field text position, value (.leaf field (.constant (.text text)) position) = .text text
  tuple : ∀ field position children, items (.node field .tuple position children) =
    ((Ast.node field .tuple position children).fields .elts).map value
  list : ∀ field position children, items (.node field .list position children) =
    ((Ast.node field .list position children).fields .elts).map value

def positionalValues (evaluation : Evaluation) (arg : Ast) : List Value := match arg with
  | .node _ .starred _ _ => (arg.fields .value).flatMap evaluation.items
  | _ => [evaluation.value arg]

def keywordValues (evaluation : Evaluation) (keyword : Ast) : List (Text × Value) := match keyword with
  | .node _ (.keyword (some name)) _ _ => [(name,(keywordValue keyword).elim (.other 0) evaluation.value)]
  | .node _ (.keyword none) _ _ => (keyword.fields .value).flatMap evaluation.pairs
  | _ => []

def openParameters : List Text :=
  ["file","mode","buffering","encoding","errors","newline","closefd","opener"].map String.toList

-- The arguments by parameter; none where the call raises a `TypeError`.
def boundArguments (positional : List Value) (keywords : List (Text × Value)) : Option (List (Text × Value)) :=
  let bound := openParameters.zip positional ++ keywords
  if openParameters.length < positional.length then none
  else if (bound.map Prod.fst).Nodup ∧ ∀ argument ∈ bound, argument.1 ∈ openParameters then some bound
  else none

def argumentOf (name : Text) (bound : List (Text × Value)) : Option Value :=
  (bound.find? (fun argument => argument.1 = name)).map Prod.snd

-- The file and the mode that a call opens.
def opening (evaluation : Evaluation) (call : Ast) : Option (Value × Value) :=
  (boundArguments ((call.fields .args).flatMap (positionalValues evaluation))
    ((call.fields .keywords).flatMap (keywordValues evaluation))).bind (fun bound =>
      (argumentOf "file".toList bound).map (fun file => (file,(argumentOf "mode".toList bound).getD (.text "r".toList))))

def writes : Value → Bool
  | .text mode => writingFlags.any (fun flag => decide (flag ∈ mode))
  | .other _ => false

-- The components of a relative path, the last one first.
def enterPart (here : Option (List Text)) (part : Text) : Option (List Text) :=
  here.bind (fun parts =>
    if part = [] ∨ part = ".".toList then some parts
    else if part = "..".toList then (if parts = [] then none else some parts.tail)
    else some (part :: parts))

def landing (path : Text) : Option (List Text) := match path.splitOn '/' with
  | [] :: _ :: _ => none
  | parts => parts.foldl enterPart (some [])

def landsInOutput : Value → Bool
  | .text path => (landing path).any (fun parts => decide (parts.getLast? = some "output".toList ∧ 2 ≤ parts.length))
  | .other _ => false

def OpensOutside (call : Ast) : Prop :=
  ∃ evaluation file mode, opening evaluation call = some (file,mode) ∧ writes mode = true ∧ landsInOutput file = false

-- The callee of a call, if it is a name or an attribute.
def spelled (call : Ast) : Option Text := match call with
  | .node _ .call _ _ => match (call.fields .func).head? with
    | some (.leaf _ (.name id) _) => some id
    | some (.node _ (.attribute attr) _ _) => some attr
    | _ => none
  | _ => none

def isStarred : Ast → Bool
  | .node _ .starred _ _ => true
  | _ => false

def isSpread : Ast → Bool
  | .node _ (.keyword none) _ _ => true
  | _ => false

-- No starred and no double-starred argument.
def Unstarred (call : Ast) : Prop :=
  (∀ arg ∈ call.fields .args, isStarred arg = false) ∧ ∀ keyword ∈ call.fields .keywords, isSpread keyword = false

/- The ways in which an expression comes to hold what a name stands for. -/

-- An assignment or a parameter with a default.
inductive Bound (tree : Ast) (name : Text) (value : Ast) : Prop where
  | assigned (assignment : Ast) (inside : assignment ∈ nodes tree) (kind : ∃ field position children,
      assignment = .node field .assign position children) (target : ∃ field position, .leaf field (.name name) position ∈ assignment.fields .targets)
      (valued : value ∈ assignment.fields .value)
  | default (arguments : Ast) (inside : arguments ∈ nodes tree) (kind : ∃ field position children,
      arguments = .node field .arguments position children)
      (parameter : ∃ field position children, .node field (.arg name) position children ∈ arguments.children)
      (valued : value ∈ arguments.fields .defaults ∨ value ∈ arguments.fields .kwDefaults)

def isContainer : Ast → Bool
  | .node _ .list _ _ => true
  | .node _ .tuple _ _ => true
  | .node _ .set _ _ => true
  | .node _ .dict _ _ => true
  | _ => false

-- What an expression may hold: the thing itself, or a container of it. With
-- `aliases`, also what an import names.
inductive Holds (aliases : Bool) (tree : Ast) (name : Text) : Bool → Ast → Prop where
  | named (field : Field) (position : Position) : Holds aliases tree name false (.leaf field (.name name) position)
  | through (bound : Bound tree other value) (held : Holds aliases tree name within value) (field : Field) (position : Position) :
      Holds aliases tree name within (.leaf field (.name other) position)
  | element (container : Ast) (kind : isContainer container = true)
      (inside : value ∈ container.fields .elts ∨ value ∈ container.fields .values) (held : Holds aliases tree name within value) :
      Holds aliases tree name true container
  | taken (subscript : Ast) (kind : ∃ field position children, subscript = .node field .subscript position children)
      (inside : value ∈ subscript.fields .value) (held : Holds aliases tree name true value) :
      Holds aliases tree name within subscript
  | imported (allowed : aliases = true) (inside : .leaf importField (.importFrom module names) importPosition ∈ nodes tree)
      (listed : ⟨name,asname⟩ ∈ names) (field : Field) (position : Position) :
      Holds aliases tree name false (.leaf field (.name (asname.getD name)) position)

-- A call of what a name stands for under another name, of a kind that the guard denies.
def CalledThrough (tree : Ast) (name : Text) : Prop :=
  ∃ call ∈ nodes tree, ∃ callee, (call.fields .func).head? = some callee ∧ spelled call ≠ some name ∧
    Holds true tree name false callee ∧ (name ∈ dynamicNames ∨ name = "open".toList ∧ opensOutsideOutput call = true)

/- Modules that a tree names or reaches. -/

def importedModules : Ast → List Text
  | .leaf _ (.import' names) _ => names.map Alias.name
  | .leaf _ (.importFrom module _) _ => [module.getD []]
  | _ => []

-- By an attribute of an imported module; `attributeModule` is what the modules hold.
inductive Reaches (attributeModule : Text → Text → Option Text) (tree : Ast) : Ast → Text → Prop where
  | imported (inside : .leaf importField (.import' names) importPosition ∈ nodes tree) (listed : ⟨module,none⟩ ∈ names)
      (field : Field) (position : Position) : Reaches attributeModule tree (.leaf field (.name module) position) module
  | attribute (inside : value ∈ (Ast.node field (.attribute attr) position children).fields .value)
      (reached : Reaches attributeModule tree value module) (held : attributeModule module attr = some other) :
      Reaches attributeModule tree (.node field (.attribute attr) position children) other

/- A call of `open` that the guard lets through. -/

theorem enterPart_plain (plain : part ∉ [[],".".toList,"..".toList]) (here : List Text) :
    enterPart (some here) part = some (part :: here) := by
  simp only [List.mem_cons,List.not_mem_nil,or_false,not_or] at plain
  obtain ⟨some',single,double⟩ := plain
  rw [enterPart,Option.bind_some,if_neg (not_or.mpr ⟨some',single⟩),if_neg double]

theorem enterParts_plain {parts : List Text} (plain : ∀ part ∈ parts, part ∉ [[],".".toList,"..".toList]) (here : List Text) :
    parts.foldl enterPart (some here) = some (parts.reverse ++ here) := by
  induction parts generalizing here with
  | nil => rfl
  | cons part parts ih =>
    rw [List.foldl_cons,enterPart_plain (plain part List.mem_cons_self),ih (fun other inside => plain other (List.mem_cons_of_mem _ inside)),
      List.reverse_cons,List.append_assoc,List.singleton_append]

theorem contained_lands (contained : isContainedOutputPath path = true) : landsInOutput (.text path) = true := by
  unfold isContainedOutputPath at contained
  change (landing path).any (fun parts => decide (parts.getLast? = some "output".toList ∧ 2 ≤ parts.length)) = true
  unfold landing
  split at contained
  · rename_i first second rest shape
    rw [Bool.and_eq_true,decide_eq_true_eq,List.all_eq_true] at contained
    obtain ⟨rfl,plain⟩ := contained
    have parts : ∀ part ∈ "output".toList :: second :: rest, part ∉ [[],".".toList,"..".toList] := by
      intro part member
      rcases List.mem_cons.mp member with rfl | inside
      · decide
      · simpa using plain part inside
    rw [shape]
    have walked := enterParts_plain parts []
    rw [List.append_nil] at walked
    split
    · rename_i absolute
      have letters : "output".toList ≠ [] := by decide
      exact absurd (List.cons.inj absolute).1 letters
    · rw [walked,Option.any_some,decide_eq_true_eq,List.getLast?_reverse,List.head?_cons,List.length_reverse]
      refine ⟨rfl,?_⟩
      rw [List.length_cons,List.length_cons]
      exact Nat.le_add_left 2 _
  · cases contained

variable (evaluation : Evaluation)

theorem positional_plain {args : List Ast} (plain : ∀ arg ∈ args, isStarred arg = false) :
    args.flatMap (positionalValues evaluation) = args.map evaluation.value := by
  induction args with
  | nil => rfl
  | cons arg args ih =>
    have single : positionalValues evaluation arg = [evaluation.value arg] := by
      have starred := plain arg List.mem_cons_self
      cases arg with
      | leaf => rfl
      | node field kind position children =>
        cases kind with
        | starred => cases starred
        | _ => rfl
    rw [List.flatMap_cons,single,ih (fun other inside => plain other (List.mem_cons_of_mem _ inside))]
    rfl

-- The first keyword of the mode is the one that the guard looks at.
theorem mode_keyword {keywords : List Ast} (plain : ∀ keyword ∈ keywords, isSpread keyword = false) :
    argumentOf "mode".toList (keywords.flatMap (keywordValues evaluation)) =
      (keywords.find? isModeKeyword).map (fun keyword => (keywordValue keyword).elim (.other 0) evaluation.value) := by
  induction keywords with
  | nil => rfl
  | cons keyword keywords ih =>
    have spread := plain keyword List.mem_cons_self
    have rest := ih (fun other inside => plain other (List.mem_cons_of_mem _ inside))
    unfold argumentOf at rest ⊢
    rw [List.flatMap_cons,List.find?_append]
    cases keyword with
    | leaf => exact rest
    | node field kind position children =>
      cases kind with
      | keyword arg =>
        cases arg with
        | none => cases spread
        | some name =>
          have single : keywordValues evaluation (.node field (.keyword (some name)) position children) =
            [(name,(keywordValue (.node field (.keyword (some name)) position children)).elim (.other 0) evaluation.value)] := rfl
          rw [single]
          by_cases same : name = "mode".toList
          · have first : isModeKeyword (.node field (.keyword (some name)) position children) = true :=
              decide_eq_true (congrArg some same)
            rw [List.find?_cons_of_pos first,List.find?_singleton]
            dsimp only
            rw [if_pos (decide_eq_true same)]
            rfl
          · have other : ¬ isModeKeyword (.node field (.keyword (some name)) position children) = true := by
              intro found
              exact same (Option.some.inj (of_decide_eq_true found))
            rw [List.find?_cons_of_neg other,List.find?_singleton]
            dsimp only
            rw [if_neg (by rw [decide_eq_true_eq]; exact same),Option.none_or]
            exact rest
      | _ => exact rest

-- Of the named arguments after positional ones, those of other names are found as before.
theorem argumentOf_skip {name : Text} {before after : List (Text × Value)} (other : ∀ argument ∈ before, argument.1 ≠ name) :
    argumentOf name (before ++ after) = argumentOf name after := by
  have none' : before.find? (fun argument => decide (argument.1 = name)) = none := by
    apply List.find?_eq_none.mpr
    intro argument member
    rw [decide_eq_true_eq]
    exact other argument member
  rw [argumentOf,argumentOf,List.find?_append,none',Option.none_or]

variable {name : Text}

theorem argumentOf_first : argumentOf name ((name,value) :: after) = some value := by
  have here : decide ((name,value).1 = name) = true := decide_eq_true rfl
  rw [argumentOf,List.find?_cons,here]
  rfl

theorem file_mode : "file".toList ≠ "mode".toList := by decide

theorem openParameters_shape : ∃ rest, openParameters = "file".toList :: "mode".toList :: rest := ⟨_,rfl⟩

variable {call : Ast}

-- A mode that writes is one that the guard looks at.
theorem mode_seen (plain : Unstarred call)
    (writing : writes ((argumentOf "mode".toList (("file".toList :: "mode".toList :: names).zip
      ((call.fields .args).map evaluation.value) ++ (call.fields .keywords).flatMap (keywordValues evaluation))).getD
        (.text "r".toList)) = true) : ∃ node, openModeNode call = some node ∧ writes (evaluation.value node) = true := by
  have reading : writes (.text "r".toList) = false := by decide
  have keyed : ∀ before : List (Text × Value), (∀ argument ∈ before, argument.1 ≠ "mode".toList) →
      writes ((argumentOf "mode".toList (before ++ (call.fields .keywords).flatMap (keywordValues evaluation))).getD
        (.text "r".toList)) = true →
      ∃ node, ((call.fields .keywords).find? isModeKeyword).bind keywordValue = some node ∧ writes (evaluation.value node) = true := by
    intro before other shown
    rw [argumentOf_skip other,mode_keyword evaluation plain.2] at shown
    cases found : (call.fields .keywords).find? isModeKeyword with
    | none =>
      rw [found,Option.map_none,Option.getD_none,reading] at shown
      cases shown
    | some keyword =>
      rw [found,Option.map_some,Option.getD_some] at shown
      cases valued : keywordValue keyword with
      | none =>
        rw [valued] at shown
        cases shown
      | some node =>
        rw [valued] at shown
        exact ⟨node,valued,shown⟩
  unfold openModeNode
  cases args : call.fields .args with
  | nil =>
    rw [args] at writing
    exact keyed [] (by simp) writing
  | cons first args' =>
    rw [args] at writing
    cases args' with
    | nil =>
      refine keyed [("file".toList,evaluation.value first)] ?_ writing
      intro argument member
      rw [List.mem_singleton.mp member]
      exact file_mode
    | cons second rest =>
      refine ⟨second,rfl,?_⟩
      rw [List.map_cons,List.map_cons,List.zip_cons_cons,List.zip_cons_cons] at writing
      have skipped := @argumentOf_skip "mode".toList [("file".toList,evaluation.value first)]
        (("mode".toList,evaluation.value second) :: (names.zip (rest.map evaluation.value) ++
          (call.fields .keywords).flatMap (keywordValues evaluation))) (by
            intro argument member
            rw [List.mem_singleton.mp member]
            exact file_mode)
      rw [argumentOf_first] at skipped
      have shape : ("file".toList,evaluation.value first) :: ("mode".toList,evaluation.value second) ::
          names.zip (rest.map evaluation.value) ++ (call.fields .keywords).flatMap (keywordValues evaluation) =
            [("file".toList,evaluation.value first)] ++ ("mode".toList,evaluation.value second) ::
              (names.zip (rest.map evaluation.value) ++ (call.fields .keywords).flatMap (keywordValues evaluation)) := rfl
      rw [shape,skipped] at writing
      exact writing

-- What the guard has checked where the mode writes.
theorem granted_path {call node : Ast} (granted : opensOutsideOutput call = false)
    (moded : openModeNode call = some node) (writing : writes (evaluation.value node) = true) :
    ∃ field path position, (call.fields .args).head? = some (.leaf field (.constant (.text path)) position) ∧
      isContainedOutputPath path = true := by
  unfold opensOutsideOutput at granted
  rw [moded] at granted
  split at granted
  · rename_i absent
    cases absent
  · rename_i field mode position constant
    cases constant
    rw [evaluation.constant] at writing
    have flagged : ¬ (!writingFlags.any (fun flag => decide (flag ∈ mode))) = true := by
      have shown : writingFlags.any (fun flag => decide (flag ∈ mode)) = true := writing
      rw [shown]
      decide
    rw [if_neg flagged] at granted
    split at granted
    · rename_i field path position first
      rw [Bool.not_eq_false'] at granted
      exact ⟨field,path,position,first,granted⟩
    · cases granted
  · cases granted

theorem opens_inside (plain : Unstarred call) (granted : opensOutsideOutput call = false) : ¬ OpensOutside call := by
  intro opens
  obtain ⟨evaluation,file,mode,opened,writing,outside⟩ := opens
  obtain ⟨bound,binding,named⟩ := Option.bind_eq_some_iff.mp opened
  obtain ⟨value,filed,same⟩ := Option.map_eq_some_iff.mp named
  obtain ⟨rfl,rfl⟩ := Prod.mk.inj same
  obtain ⟨names,shape⟩ := openParameters_shape
  have arguments : bound = openParameters.zip ((call.fields .args).map evaluation.value) ++
      (call.fields .keywords).flatMap (keywordValues evaluation) := by
    rw [positional_plain evaluation plain.1] at binding
    unfold boundArguments at binding
    dsimp only at binding
    split at binding
    · cases binding
    · split at binding
      · exact (Option.some.inj binding).symm
      · cases binding
  rw [shape] at arguments
  rw [arguments] at writing filed
  obtain ⟨node,moded,shown⟩ := mode_seen evaluation plain writing
  obtain ⟨field,path,position,first,contained⟩ := granted_path evaluation granted moded shown
  obtain ⟨rest,args⟩ := List.head?_eq_some_iff.mp first
  rw [args,List.map_cons,List.zip_cons_cons,List.cons_append,argumentOf_first,evaluation.constant] at filed
  cases filed
  rw [contained_lands contained] at outside
  cases outside

/- The nodes of a tree, and what a clean tree keeps out of them. -/

theorem nodes_self (tree : Ast) : tree ∈ nodes tree := by
  cases tree <;> simp [nodes]

theorem nodesAll_child {child node : Ast} (inside : child ∈ children) (below : node ∈ nodes child) :
    node ∈ nodesAll children := by
  induction children with
  | nil => cases inside
  | cons first rest ih =>
    rw [nodesAll,List.mem_append]
    rcases List.mem_cons.mp inside with rfl | later
    · exact .inl below
    · exact .inr (ih later)

mutual
theorem nodes_trans : ∀ (tree : Ast) {node below : Ast}, node ∈ nodes tree → below ∈ nodes node → below ∈ nodes tree
  | .leaf _ _ _,node,below,inside,deeper => by
    rw [nodes,List.mem_singleton] at inside
    rw [← inside]
    exact deeper
  | .node _ _ _ children,node,below,inside,deeper => by
    rw [nodes,List.mem_cons] at inside
    rcases inside with rfl | inside
    · exact deeper
    · rw [nodes]
      exact List.mem_cons_of_mem _ (nodesAll_trans children inside deeper)
theorem nodesAll_trans : ∀ (children : List Ast) {node below : Ast}, node ∈ nodesAll children → below ∈ nodes node →
    below ∈ nodesAll children
  | [],_,_,inside,_ => by cases inside
  | child :: rest,node,below,inside,deeper => by
    rw [nodesAll,List.mem_append] at inside ⊢
    rcases inside with first | later
    · exact .inl (nodes_trans child first deeper)
    · exact .inr (nodesAll_trans rest later deeper)
end

variable {tree node child : Ast}

theorem child_nodes (inside : node ∈ nodes tree) (below : child ∈ node.children) : child ∈ nodes tree := by
  apply nodes_trans tree inside
  cases node with
  | leaf => cases below
  | node field kind position children =>
    rw [nodes]
    exact List.mem_cons_of_mem _ (nodesAll_child below (nodes_self child))

theorem field_nodes (inside : node ∈ nodes tree) (below : child ∈ node.fields field) : child ∈ nodes tree :=
  child_nodes inside (List.mem_of_mem_filter below)

-- What holds a name's thing traces back to a node with the name.
theorem holds_name {tree : Ast} (held : Holds false tree name within value)
    (inside : value ∈ nodes tree) : ∃ field position, .leaf field (.name name) position ∈ nodes tree := by
  induction held with
  | named field position => exact ⟨field,position,inside⟩
  | through bound _ _ _ ih =>
    cases bound with
    | assigned assignment placed _ _ valued => exact ih (field_nodes placed valued)
    | default arguments placed _ _ valued =>
      rcases valued with early | late
      · exact ih (field_nodes placed early)
      · exact ih (field_nodes placed late)
  | element container _ valued _ ih =>
    rcases valued with elts | values
    · exact ih (field_nodes inside elts)
    · exact ih (field_nodes inside values)
  | taken subscript _ valued _ ih => exact ih (field_nodes inside valued)
  | imported allowed => cases allowed

theorem dynamic_lower : ∀ name ∈ dynamicNames, Text.lower name = name := by decide

theorem dynamic_shown (dynamic : name ∈ dynamicNames) : checkIdentifier name = [.dynamicReflection] := by
  unfold checkIdentifier
  rw [dynamic_lower name dynamic]
  exact if_pos dynamic

theorem checkImport_allowed (granted : checkImport module = []) : importRoot module ∈ allowedImportRoots := by
  unfold checkImport at granted
  dsimp only at granted
  split at granted
  · cases granted
  · split at granted
    · cases granted
    · split at granted
      · cases granted
      · rename_i listed
        exact Decidable.not_not.mp listed

theorem clean_imports {tree node : Ast} (clean : Clean tree) (inside : node ∈ nodes tree)
    (imported : module ∈ importedModules node) : importRoot module ∈ allowedImportRoots := by
  have none' := clean.1 node inside
  apply checkImport_allowed
  cases node with
  | node => cases imported
  | leaf field leaf position =>
    cases leaf with
    | import' names =>
      obtain ⟨listed,member,rfl⟩ := List.mem_map.mp imported
      exact List.flatMap_eq_nil_iff.mp none' listed member
    | importFrom module' names =>
      rw [List.mem_singleton.mp imported]
      exact none'
    | name => cases imported
    | constant => cases imported

theorem spelled_call (here : spelled call = some name) : ∃ field position children, call = .node field .call position children ∧
      callName (call.fields .func).head? = Text.lower name := by
  unfold spelled at here
  split at here
  · rename_i field position children
    refine ⟨field,position,children,rfl,?_⟩
    split at here
    · rename_i id _ func
      cases here
      rw [func]
      rfl
    · rename_i attr _ _ func
      cases here
      rw [func]
      rfl
    · cases here
  · cases here

theorem open_granted {tree call : Ast} (clean : Clean tree) (inside : call ∈ nodes tree) (here : spelled call = some "open".toList) :
    opensOutsideOutput call = false := by
  obtain ⟨field,position,children,rfl,name⟩ := spelled_call here
  have none' : visitCall (.node field .call position children) = [] := clean.1 _ inside
  have lowered : Text.lower "open".toList = "open".toList := by decide
  have plain : "open".toList ∉ dynamicNames := by decide
  unfold visitCall at none'
  dsimp only at none'
  rw [name,lowered,if_neg plain] at none'
  split at none'
  · cases none'
  · rename_i granted
    rw [Bool.eq_false_iff]
    intro outside
    exact granted ⟨rfl,outside⟩

/- What the guard promises. -/

-- Of a tree that it allows: the unstarred calls of open, the names that are
-- never evaluated, the modules of the import statements.
structure Guarded (tree : Ast) : Prop where
  opens : ∀ call ∈ nodes tree, spelled call = some "open".toList → Unstarred call → ¬ OpensOutside call
  evaluates : ∀ name ∈ dynamicNames, ∀ node ∈ nodes tree, ∀ within, ¬ Holds false tree name within node
  attributes : ∀ name ∈ dynamicNames, ∀ field position children, .node field (.attribute name) position children ∉ nodes tree
  imports : ∀ node ∈ nodes tree, ∀ module ∈ importedModules node, importRoot module ∈ allowedImportRoots

theorem clean_guarded {tree : Ast} (clean : Clean tree) : Guarded tree := by
  refine ⟨?_,?_,?_,?_⟩
  · intro call inside here plain
    exact opens_inside plain (open_granted clean inside here)
  · intro name dynamic node inside within held
    obtain ⟨field,position,named⟩ := holds_name held inside
    have none' : checkIdentifier name = [] := clean.1 _ named
    rw [dynamic_shown dynamic] at none'
    cases none'
  · intro name dynamic field position children inside
    have none' : checkIdentifier name = [] := clean.1 _ inside
    rw [dynamic_shown dynamic] at none'
    cases none'
  · intro node inside module imported
    exact clean_imports clean inside imported

section verdict
variable [Interpreter]

end verdict
/- Modules that the guard lets through, or comes to let through. -/

section samples

def at' : Position := ⟨1,0⟩
def load : Ast := .node (.other "ctx".toList) (.other "Load".toList) ⟨0,0⟩ []
def store : Ast := .node (.other "ctx".toList) (.other "Store".toList) ⟨0,0⟩ []
def nameIn (field : Field) (id : String) : Ast := .leaf field (.name id.toList) at'
def textIn (field : Field) (text : String) : Ast := .leaf field (.constant (.text text.toList)) at'
def callOf (func : Ast) (args : List Ast) : Ast := .node .value .call at' (func :: args)
def expression (value : Ast) : Ast := .node .body (.other "Expr".toList) at' [value]
def moduleOf (body : List Ast) : Ast := .node (.other []) (.other "Module".toList) ⟨0,0⟩ body

-- open(*("/etc/passwd","w"))
def starredCall : Ast := callOf (nameIn .func "open")
  [.node .args .starred at' [.node .value .tuple at' [textIn .elts "/etc/passwd",textIn .elts "w",load],load]]
def starredModule : Ast := moduleOf [expression starredCall]

-- f = open; f("/etc/passwd","w")
def boundOpen : Ast := .node .body .assign at' [nameIn .targets "f",nameIn .value "open"]
def boundCall : Ast := callOf (nameIn .func "f") [textIn .args "/etc/passwd",textIn .args "w"]
def boundModule : Ast := moduleOf [boundOpen,expression boundCall]

-- from pandas import eval as e; e("1")
def aliasCall : Ast := callOf (nameIn .func "e") [textIn .args "1"]
def aliasModule : Ast := moduleOf [.leaf .body (.importFrom (some "pandas".toList) [⟨"eval".toList,some "e".toList⟩]) at',expression aliasCall]

-- import json; json.codecs
def reachedAttribute : Ast := .node .value (.attribute "codecs".toList) at' [nameIn .value "json",load]
def reachedModule : Ast := moduleOf [.leaf .body (.import' [⟨"json".toList,none⟩]) at',expression reachedAttribute]

-- def f(): [x = 1]; def g(): nonlocal x
def noArguments : Ast := .node (.other "args".toList) .arguments ⟨0,0⟩ []
def inner : Ast := .node .body (.other "FunctionDef".toList) at' [noArguments,.node .body (.other "Nonlocal".toList) at' []]
def assignment : Ast := .node .body .assign at' [nameIn .targets "x",.leaf .value (.constant .other) at']
def unboundModule : Ast := moduleOf [.node .body (.other "FunctionDef".toList) at' [noArguments,inner]]
def reboundModule : Ast := moduleOf [.node .body (.other "FunctionDef".toList) at' [noArguments,assignment,inner]]

-- open("output/table.csv","w"), and the same after a call of eval.
def writtenCall : Ast := callOf (nameIn .func "open") [textIn .args "output/table.csv",textIn .args "w"]
def writtenModule : Ast := moduleOf [expression writtenCall]
def evalCall : Ast := callOf (nameIn .func "eval") [textIn .args "1"]
def evalModule : Ast := moduleOf [expression evalCall]
def evalWritten : Ast := moduleOf [expression evalCall,expression writtenCall]

def isNonlocal : Ast → Bool
  | .node _ (.other name) _ _ => decide (name = "Nonlocal".toList)
  | _ => false

def isAssign : Ast → Bool
  | .node _ .assign _ _ => true
  | _ => false

-- The texts of the modules above are numbered.
@[reducible] def sampleInterpreter : Interpreter where
  parse code := ([starredModule,boundModule,aliasModule,reachedModule,unboundModule,reboundModule,writtenModule,evalModule,
    evalWritten])[code.length]?
  compiles tree := !(nodes tree).any isNonlocal || (nodes tree).any isAssign
  overflows _ := false
  sha256 code := code
  isalnum := Char.isAlphanum

def textOf (number : Nat) : Text := List.replicate number '#'

def literalValue : Ast → Value
  | .leaf _ (.constant (.text text)) _ => .text text
  | _ => .other 0

def literalEvaluation : Evaluation where
  value := literalValue
  items node := (node.fields .elts).map literalValue
  pairs _ := []
  constant _ _ _ := rfl
  tuple _ _ _ := rfl
  list _ _ _ := rfl

variable {body : List Ast}

theorem body_nodes (inside : statement ∈ body) : statement ∈ nodes (moduleOf body) :=
  child_nodes (nodes_self _) inside

theorem expression_nodes (inside : expression value ∈ body) : value ∈ nodes (moduleOf body) :=
  child_nodes (body_nodes inside) List.mem_cons_self

end samples
end OpenStock.Sandbox
