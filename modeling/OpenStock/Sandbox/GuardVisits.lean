import OpenStock.Sandbox.StaticGuard

namespace OpenStock.Sandbox
open SandboxGuardAstVisitor

-- No node of the tree shows a violation, and the visitor's budget suffices.
def Clean (tree : Ast) : Prop := (∀ node ∈ nodes tree, found node = []) ∧ (nodes tree).length ≤ maxNodes

/- What a visit leaves of a visitor that has seen nothing wrong, and of any other. -/

variable {count : Nat} {node : Ast}

theorem enter_clean (clean : found node = []) (within : count + 1 ≤ maxNodes) :
    enter ⟨[],count,false⟩ node = ⟨[],count + 1,false⟩ := by
  have bound : ¬ maxNodes < count + 1 := by omega
  simp [enter,add,clean,bound]

theorem enter_keeps (some' : visitor.violations ≠ []) : (enter visitor node).violations ≠ [] := by
  unfold enter
  split
  · exact some'
  · split <;> simp [add,some']

theorem enter_shown (shown : ¬ (found node = [] ∧ count + 1 ≤ maxNodes)) : (enter ⟨[],count,false⟩ node).violations ≠ [] := by
  unfold enter
  rw [if_neg (by simp)]
  by_cases beyond : maxNodes < count + 1
  · rw [if_pos beyond]
    simp [add]
  · rw [if_neg beyond]
    have some' : found node ≠ [] := fun none => shown ⟨none,by omega⟩
    simpa [add] using some'

mutual
theorem visit_keeps : ∀ (node : Ast) (visitor : SandboxGuardAstVisitor), visitor.violations ≠ [] →
    (visit node visitor).violations ≠ []
  | .leaf _ _ _,_,some' => enter_keeps some'
  | .node _ _ _ children,visitor,some' => by
    rw [visit]
    split
    · exact enter_keeps some'
    · exact genericVisit_keeps children _ (enter_keeps some')
theorem genericVisit_keeps : ∀ (children : List Ast) (visitor : SandboxGuardAstVisitor), visitor.violations ≠ [] →
    (genericVisit children visitor).violations ≠ []
  | [],_,some' => some'
  | child :: rest,visitor,some' => genericVisit_keeps rest _ (visit_keeps child visitor some')
end

-- Of nodes at a count: all clean and within the budget, or not.
def CleanFrom (count : Nat) (all : List Ast) : Prop := (∀ node ∈ all, found node = []) ∧ count + all.length ≤ maxNodes

theorem cleanFrom_append : CleanFrom count (left ++ right) ↔ CleanFrom count left ∧ CleanFrom (count + left.length) right := by
  unfold CleanFrom
  rw [List.forall_mem_append,List.length_append]
  constructor
  · intro all
    exact ⟨⟨all.1.1,by omega⟩,all.1.2,by omega⟩
  · intro parts
    exact ⟨⟨parts.1.1,parts.2.1⟩,by omega⟩

theorem cleanFrom_cons :
    CleanFrom count (node :: rest) ↔ (found node = [] ∧ count + 1 ≤ maxNodes) ∧ CleanFrom (count + 1) rest := by
  unfold CleanFrom
  rw [List.forall_mem_cons,List.length_cons]
  constructor
  · intro all
    exact ⟨⟨all.1.1,by omega⟩,all.1.2,by omega⟩
  · intro parts
    exact ⟨⟨parts.1.1,parts.2.1⟩,by omega⟩

mutual
theorem visit_from : ∀ (node : Ast) (count : Nat), count ≤ maxNodes →
    CleanFrom count (nodes node) ∧ visit node ⟨[],count,false⟩ = ⟨[],count + (nodes node).length,false⟩ ∨
      ¬ CleanFrom count (nodes node) ∧ (visit node ⟨[],count,false⟩).violations ≠ []
  | .leaf field leaf position,count,within => by
    rw [nodes,visit]
    by_cases clean : CleanFrom count [.leaf field leaf position]
    · obtain ⟨here,_⟩ := cleanFrom_cons.mp clean
      exact .inl ⟨clean,enter_clean here.1 here.2⟩
    · right
      refine ⟨clean,enter_shown ?_⟩
      intro here
      exact clean (cleanFrom_cons.mpr ⟨here,by simp [CleanFrom,here.2]⟩)
  | .node field kind position children,count,within => by
    rw [nodes,visit,cleanFrom_cons]
    by_cases here : found (.node field kind position children) = [] ∧ count + 1 ≤ maxNodes
    · rw [enter_clean here.1 here.2,if_neg (by simp)]
      rcases genericVisit_from children (count + 1) here.2 with ⟨clean,same⟩ | ⟨unclean,shown⟩
      · left
        refine ⟨⟨here,clean⟩,?_⟩
        rw [same,List.length_cons]
        congr 1
        omega
      · exact .inr ⟨fun both => unclean both.2,shown⟩
    · right
      refine ⟨fun both => here both.1,?_⟩
      split
      · exact enter_shown here
      · exact genericVisit_keeps children _ (enter_shown here)
theorem genericVisit_from : ∀ (children : List Ast) (count : Nat), count ≤ maxNodes →
    CleanFrom count (nodesAll children) ∧ genericVisit children ⟨[],count,false⟩ = ⟨[],count + (nodesAll children).length,false⟩ ∨
      ¬ CleanFrom count (nodesAll children) ∧ (genericVisit children ⟨[],count,false⟩).violations ≠ []
  | [],count,within => .inl ⟨⟨by simp [nodesAll],by simpa [nodesAll] using within⟩,rfl⟩
  | child :: rest,count,within => by
    rw [nodesAll,genericVisit,cleanFrom_append]
    rcases visit_from child count within with ⟨clean,same⟩ | ⟨unclean,shown⟩
    · rw [same]
      rcases genericVisit_from rest _ clean.2 with ⟨later,final⟩ | ⟨unclean,shown⟩
      · left
        refine ⟨⟨clean,later⟩,?_⟩
        rw [final,List.length_append,Nat.add_assoc]
      · exact .inr ⟨fun both => unclean both.2,shown⟩
    · exact .inr ⟨fun both => unclean both.1,genericVisit_keeps rest _ shown⟩
end

theorem visited_clean (tree : Ast) : (visit tree .start).violations = [] ↔ Clean tree := by
  have within : CleanFrom 0 (nodes tree) ↔ Clean tree := by
    unfold CleanFrom Clean
    rw [Nat.zero_add]
  rw [← within]
  rcases visit_from tree 0 (Nat.zero_le _) with ⟨clean,same⟩ | ⟨unclean,shown⟩
  · exact ⟨fun _ => clean,fun _ => by rw [start,same]⟩
  · exact ⟨fun none => absurd none shown,fun clean => absurd clean unclean⟩

section verdict
variable [Interpreter]

theorem allowed_iff (code : Text) : (evaluate code).allowed = true ↔ hugeHexLiteral false code = false ∧
    ∃ tree, Interpreter.parse code = some tree ∧ Interpreter.compiles tree = true ∧ Interpreter.overflows tree = false ∧
      Clean tree := by
  unfold evaluate
  cases huge : hugeHexLiteral false code with
  | true => simp [denied]
  | false =>
    cases parsed : Interpreter.parse code with
    | none => simp [denied]
    | some tree =>
      have emptied : (Ranking.sortBy violationKey (visit tree .start).violations.dedup).isEmpty = true ↔ Clean tree := by
        rw [← visited_clean,List.isEmpty_iff,← List.length_eq_zero_iff,(Ranking.perm_sortBy _ _).length_eq,
          List.length_eq_zero_iff,List.dedup_eq_nil]
      by_cases compiled : Interpreter.compiles tree = true
      · by_cases deep : Interpreter.overflows tree = true
        · simp [denied,compiled,deep]
        · simp [compiled,deep,emptied]
      · simp [denied,compiled]

end verdict

/- Statements inserted into the bodies of a tree, wherever they stand. -/

def statementFields : List Field := [.body,.orelse,.finalbody]

mutual
inductive Inserted : Ast → Ast → Prop where
  | leaf (field : Field) (leaf : Leaf) (before after : Position) : Inserted (.leaf field leaf before) (.leaf field leaf after)
  | node (field : Field) (kind : Kind) (before after : Position) (among : InsertedAll children more) :
      Inserted (.node field kind before children) (.node field kind after more)
inductive InsertedAll : List Ast → List Ast → Prop where
  | nil : InsertedAll [] []
  | kept (inside : Inserted child later) (among : InsertedAll rest more) : InsertedAll (child :: rest) (later :: more)
  | new (statement : Ast) (placed : statement.field ∈ statementFields) (among : InsertedAll rest more) :
      InsertedAll rest (statement :: more)
end

variable {before after : Ast}

theorem inserted_field (inserted : Inserted before after) : after.field = before.field := by
  cases inserted <;> rfl

-- The nodes of a field without statements correspond.
theorem inserted_filter (among : InsertedAll children more) (plain : field ∉ statementFields) :
    List.Forall₂ Inserted (children.filter (fun child => child.field = field)) (more.filter (fun child => child.field = field)) := by
  induction children generalizing more with
  | nil =>
    induction more with
    | nil => exact .nil
    | cons statement more ih =>
      cases among with
      | new _ placed among =>
        have other : statement.field ≠ field := fun same => plain (same ▸ placed)
        rw [List.filter_cons_of_neg (by simpa using other)]
        exact ih among
  | cons child rest ih =>
    induction more with
    | nil => cases among
    | cons later more ihMore =>
      cases among with
      | kept inside among =>
        have same := inserted_field inside
        by_cases here : child.field = field
        · rw [List.filter_cons_of_pos (by simpa using here),List.filter_cons_of_pos (by simpa [same] using here)]
          exact .cons inside (ih among)
        · rw [List.filter_cons_of_neg (by simpa using here),List.filter_cons_of_neg (by simpa [same] using here)]
          exact ih among
      | new _ placed among =>
        have other : later.field ≠ field := fun same => plain (same ▸ placed)
        have shorter : (later :: more).filter (fun child => child.field = field) = more.filter (fun child => child.field = field) :=
          List.filter_cons_of_neg (by simpa using other)
        rw [shorter]
        exact ihMore among

theorem inserted_fields {before after : Ast} (inserted : Inserted before after) {field : Field} (plain : field ∉ statementFields) :
    List.Forall₂ Inserted (before.fields field) (after.fields field) := by
  cases inserted with
  | leaf => exact .nil
  | node _ _ _ _ among => exact inserted_filter among plain

theorem inserted_head {before after : List Ast} (paired : List.Forall₂ Inserted before after) :
    Option.Rel Inserted before.head? after.head? := by
  cases paired with
  | nil => exact .none
  | cons first _ => exact .some first

theorem inserted_callName {before after : Option Ast} (paired : Option.Rel Inserted before after) :
    callName after = callName before := by
  cases paired with
  | none => rfl
  | some inside =>
    cases inside with
    | leaf _ leaf => cases leaf <;> rfl
    | node _ kind => cases kind <;> rfl

theorem inserted_keywordValue (inserted : Inserted before after) :
    Option.Rel Inserted (keywordValue before) (keywordValue after) := by
  have heads := inserted_head (@inserted_fields _ _ inserted .value (by decide))
  cases inserted with
  | leaf => exact .none
  | node _ kind _ _ _ =>
    cases kind with
    | keyword arg => exact heads
    | _ => exact .none

theorem inserted_isMode (inserted : Inserted before after) : isModeKeyword after = isModeKeyword before := by
  cases inserted with
  | leaf => rfl
  | node _ kind => cases kind <;> rfl

theorem inserted_find {before after : List Ast} (paired : List.Forall₂ Inserted before after) :
    Option.Rel Inserted (before.find? isModeKeyword) (after.find? isModeKeyword) := by
  induction paired with
  | nil => exact .none
  | cons inside _ ih =>
    rw [List.find?_cons,List.find?_cons,inserted_isMode inside]
    split
    · exact .some inside
    · exact ih

theorem inserted_mode (inserted : Inserted before after) : Option.Rel Inserted (openModeNode before) (openModeNode after) := by
  have keyed : Option.Rel Inserted (((before.fields .keywords).find? isModeKeyword).bind keywordValue)
      (((after.fields .keywords).find? isModeKeyword).bind keywordValue) := by
    have first := inserted_find (@inserted_fields _ _ inserted .keywords (by decide))
    generalize (before.fields .keywords).find? isModeKeyword = one at first
    generalize (after.fields .keywords).find? isModeKeyword = other at first
    cases first with
    | none => exact .none
    | some inside => exact inserted_keywordValue inside
  have positional := @inserted_fields _ _ inserted .args (by decide)
  unfold openModeNode
  generalize before.fields .args = one at positional
  generalize after.fields .args = other at positional
  cases positional with
  | nil => exact keyed
  | cons _ rest =>
    cases rest with
    | nil => exact keyed
    | cons mode _ => exact .some mode

theorem inserted_opens (inserted : Inserted before after) : opensOutsideOutput after = opensOutsideOutput before := by
  have mode := inserted_mode inserted
  have path := inserted_head (@inserted_fields _ _ inserted .args (by decide))
  unfold opensOutsideOutput
  generalize openModeNode before = one at mode
  generalize openModeNode after = other at mode
  generalize (before.fields .args).head? = first at path
  generalize (after.fields .args).head? = second at path
  cases mode with
  | none => rfl
  | some inside =>
    cases inside with
    | node => rfl
    | leaf _ leaf =>
      cases leaf with
      | constant value =>
        cases value with
        | text text =>
          cases path with
          | none => rfl
          | some file =>
            cases file with
            | node => rfl
            | leaf _ leaf =>
              cases leaf with
              | constant value => cases value <;> rfl
              | _ => rfl
        | _ => rfl
      | _ => rfl

theorem inserted_found (inserted : Inserted before after) : found after = found before := by
  have name := inserted_callName (inserted_head (@inserted_fields _ _ inserted .func (by decide)))
  have opens := inserted_opens inserted
  cases inserted with
  | leaf _ leaf => cases leaf <;> rfl
  | node _ kind =>
    cases kind with
    | call =>
      change visitCall _ = visitCall _
      unfold visitCall
      rw [name,opens]
    | _ => rfl

mutual
theorem inserted_nodes : ∀ {before after : Ast}, Inserted before after →
    (∀ node ∈ nodes before, ∃ later ∈ nodes after, Inserted node later) ∧ (nodes before).length ≤ (nodes after).length
  | _,_,.leaf field leaf before after => by
    refine ⟨?_,Nat.le_refl _⟩
    intro node member
    rw [List.mem_singleton.mp member]
    exact ⟨_,List.mem_singleton.mpr rfl,.leaf field leaf before after⟩
  | _,_,.node field kind before after among => by
    obtain ⟨below,shorter⟩ := inserted_nodesAll among
    rw [nodes,nodes]
    refine ⟨?_,Nat.succ_le_succ shorter⟩
    intro node member
    rcases List.mem_cons.mp member with rfl | inside
    · exact ⟨_,List.mem_cons_self,.node field kind before after among⟩
    · obtain ⟨later,found,here⟩ := below node inside
      exact ⟨later,List.mem_cons_of_mem _ found,here⟩
theorem inserted_nodesAll : ∀ {before after : List Ast}, InsertedAll before after →
    (∀ node ∈ nodesAll before, ∃ later ∈ nodesAll after, Inserted node later) ∧ (nodesAll before).length ≤ (nodesAll after).length
  | _,_,.nil => ⟨by simp [nodesAll],Nat.le_refl _⟩
  | _,_,.kept inside among => by
    obtain ⟨here,first⟩ := inserted_nodes inside
    obtain ⟨below,rest⟩ := inserted_nodesAll among
    rw [nodesAll,nodesAll,List.length_append,List.length_append]
    refine ⟨?_,Nat.add_le_add first rest⟩
    intro node member
    rcases List.mem_append.mp member with left | right
    · obtain ⟨later,found,same⟩ := here node left
      exact ⟨later,List.mem_append_left _ found,same⟩
    · obtain ⟨later,found,same⟩ := below node right
      exact ⟨later,List.mem_append_right _ found,same⟩
  | _,_,.new statement _ among => by
    obtain ⟨below,rest⟩ := inserted_nodesAll among
    constructor
    · intro node member
      obtain ⟨later,found,same⟩ := below node member
      rw [nodesAll]
      exact ⟨later,List.mem_append_right _ found,same⟩
    · rw [nodesAll,List.length_append]
      exact Nat.le_add_left_of_le rest
end

-- What inserted statements leave clean was clean before.
theorem clean_inserted (inserted : Inserted before after) (clean : Clean after) : Clean before := by
  obtain ⟨kept,shorter⟩ := inserted_nodes inserted
  refine ⟨?_,shorter.trans clean.2⟩
  intro node member
  obtain ⟨later,inside,same⟩ := kept node member
  rw [← inserted_found same]
  exact clean.1 later inside

end OpenStock.Sandbox
