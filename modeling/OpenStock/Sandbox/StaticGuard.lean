import OpenStock.Ranking.Metrics

namespace OpenStock.Sandbox

/- A Python syntax tree, as `ast.parse` returns it. Each node is kept with the
field of its parent that holds it; a field that holds a list of nodes is kept as
several nodes. -/

inductive Field where
  | func
  | args
  | keywords
  | value
  | targets
  | elts
  | values
  | defaults
  | kwDefaults
  | body
  | orelse
  | finalbody
  | other (name : Text)
deriving DecidableEq

inductive Constant where
  | text (value : Text)
  | boolean (value : Bool)
  | complex
  | other

structure Alias where
  name : Text
  asname : Option Text

-- Nodes into which the visitor does not descend.
inductive Leaf where
  | name (id : Text)
  | constant (value : Constant)
  | import' (names : List Alias)
  | importFrom (module : Option Text) (names : List Alias)

inductive Kind where
  | attribute (attr : Text)
  | call
  | keyword (arg : Option Text)
  | starred
  | assign
  | arguments
  | arg (name : Text)
  | list
  | tuple
  | set
  | dict
  | subscript
  | other (className : Text)

structure Position where
  line : Nat
  column : Nat

inductive Ast where
  | leaf (field : Field) (leaf : Leaf) (position : Position)
  | node (field : Field) (kind : Kind) (position : Position) (children : List Ast)

namespace Ast

def field : Ast → Field
  | .leaf field _ _ => field
  | .node field _ _ _ => field

def position : Ast → Position
  | .leaf _ _ position => position
  | .node _ _ position _ => position

def children : Ast → List Ast
  | .leaf _ _ _ => []
  | .node _ _ _ children => children

-- The nodes of a field.
def fields (node : Ast) (field : Field) : List Ast := node.children.filter (fun child => child.field = field)

def className : Ast → Text
  | .leaf _ (.name _) _ => "Name".toList
  | .leaf _ (.constant _) _ => "Constant".toList
  | .leaf _ (.import' _) _ => "Import".toList
  | .leaf _ (.importFrom _ _) _ => "ImportFrom".toList
  | .node _ (.attribute _) _ _ => "Attribute".toList
  | .node _ .call _ _ => "Call".toList
  | .node _ (.keyword _) _ _ => "keyword".toList
  | .node _ .starred _ _ => "Starred".toList
  | .node _ .assign _ _ => "Assign".toList
  | .node _ .arguments _ _ => "arguments".toList
  | .node _ (.arg _) _ _ => "arg".toList
  | .node _ .list _ _ => "List".toList
  | .node _ .tuple _ _ => "Tuple".toList
  | .node _ .set _ _ => "Set".toList
  | .node _ .dict _ _ => "Dict".toList
  | .node _ .subscript _ _ => "Subscript".toList
  | .node _ (.other name) _ _ => name

end Ast

mutual
-- All nodes of a tree, in the order of a visit.
def nodes : Ast → List Ast
  | .leaf field leaf position => [.leaf field leaf position]
  | .node field kind position children => .node field kind position children :: nodesAll children
def nodesAll : List Ast → List Ast
  | [] => []
  | child :: rest => nodes child ++ nodesAll rest
end

inductive SandboxGuardRule where
  | parseCompile
  | analysisFailure
  | complexityLimit
  | unsupportedAst
  | shellProcess
  | network
  | dynamicReflection
  | filesystemWrite
  | tradingBoundary
deriving DecidableEq

def SandboxGuardRule.value : SandboxGuardRule → Text
  | .parseCompile => "parse_compile".toList
  | .analysisFailure => "analysis_failure".toList
  | .complexityLimit => "complexity_limit".toList
  | .unsupportedAst => "unsupported_ast".toList
  | .shellProcess => "shell_process".toList
  | .network => "network".toList
  | .dynamicReflection => "dynamic_reflection".toList
  | .filesystemWrite => "filesystem_write".toList
  | .tradingBoundary => "trading_boundary".toList

structure SandboxGuardViolation where
  rule : SandboxGuardRule
  nodeType : Text
  line : Nat
  column : Nat
deriving DecidableEq

structure SandboxGuardResult where
  schemaVersion : Nat
  codeDigest : Text
  allowed : Bool
  violations : List SandboxGuardViolation

def maxNodes : Nat := 256

def allowedImportRoots : List Text := ["math","statistics","json","csv","datetime","collections","numpy","pandas","matplotlib"].map String.toList
def networkImportRoots : List Text := ["requests","httpx","urllib","socket","http","ftplib","websocket"].map String.toList
def shellImportRoots : List Text := ["os","subprocess","shutil"].map String.toList
def dynamicNames : List Text := ["eval","exec","compile","__import__","globals","locals"].map String.toList
def shellNames : List Text := ["system","popen","run","call","check_call","check_output"].map String.toList
def forbiddenToolPrefixes : List Text :=
  ["network","python","mcp","sql","filesystem","broker","order","allocation","account","trading","margin","transfer",
    "portfolio"].map String.toList

def importRoot (module : Text) : Text := module.takeWhile (· ≠ '.')

def checkImport (module : Text) : List SandboxGuardRule :=
  let root := importRoot module
  if root ∈ networkImportRoots then [.network]
  else if root ∈ shellImportRoots then [.shellProcess]
  else if root ∉ allowedImportRoots then [.unsupportedAst]
  else []

def checkIdentifier (identifier : Text) : List SandboxGuardRule :=
  let normalized := Text.lower identifier
  if normalized ∈ dynamicNames then [.dynamicReflection]
  else if forbiddenToolPrefixes.any (fun term => decide (term <:+: normalized)) then [.tradingBoundary]
  else if normalized ∈ shellNames then [.shellProcess]
  else []

def callName : Option Ast → Text
  | some (.leaf _ (.name id) _) => Text.lower id
  | some (.node _ (.attribute attr) _ _) => Text.lower attr
  | _ => []

def isContainedOutputPath (path : Text) : Bool := match path.splitOn '/' with
  | first :: second :: rest => decide (first = "output".toList) &&
      (second :: rest).all (fun part => decide (part ∉ [[],".".toList,"..".toList]))
  | _ => false

def keywordValue (node : Ast) : Option Ast := match node with
  | .node _ (.keyword _) _ _ => (node.fields .value).head?
  | _ => none

def isModeKeyword : Ast → Bool
  | .node _ (.keyword arg) _ _ => decide (arg = some "mode".toList)
  | _ => false

def openModeNode (call : Ast) : Option Ast := match call.fields .args with
  | _ :: mode :: _ => some mode
  | _ => ((call.fields .keywords).find? isModeKeyword).bind keywordValue

def writingFlags : Text := "wax+".toList

def opensOutsideOutput (call : Ast) : Bool := match openModeNode call with
  | none => false
  | some (.leaf _ (.constant (.text mode)) _) =>
    if !writingFlags.any (fun flag => decide (flag ∈ mode)) then false
    else match (call.fields .args).head? with
      | some (.leaf _ (.constant (.text path)) _) => !isContainedOutputPath path
      | _ => true
  | some _ => true

/- What a node adds to the violations, before the visitor descends into it. -/

def visitImport (names : List Alias) : List SandboxGuardRule := names.flatMap (fun name => checkImport name.name)
def visitImportFrom (module : Option Text) : List SandboxGuardRule := checkImport (module.getD [])

def visitConstant : Constant → List SandboxGuardRule
  | .boolean _ => [.unsupportedAst]
  | .complex => [.unsupportedAst]
  | _ => []

def visitCall (call : Ast) : List SandboxGuardRule :=
  let name := callName (call.fields .func).head?
  if name ∈ dynamicNames then [.dynamicReflection]
  else if name = "open".toList ∧ opensOutsideOutput call = true then [.filesystemWrite]
  else []

def found (node : Ast) : List SandboxGuardRule := match node with
  | .leaf _ (.name id) _ => checkIdentifier id
  | .leaf _ (.constant value) _ => visitConstant value
  | .leaf _ (.import' names) _ => visitImport names
  | .leaf _ (.importFrom module _) _ => visitImportFrom module
  | .node _ (.attribute attr) _ _ => checkIdentifier attr
  | .node _ .call _ _ => visitCall node
  | .node _ _ _ _ => []

structure SandboxGuardAstVisitor where
  violations : List SandboxGuardViolation
  nodeCount : Nat
  complexityExceeded : Bool

namespace SandboxGuardAstVisitor

def start : SandboxGuardAstVisitor := ⟨[],0,false⟩

def add (visitor : SandboxGuardAstVisitor) (node : Ast) (rules : List SandboxGuardRule) : SandboxGuardAstVisitor :=
  let added := rules.map (fun rule => SandboxGuardViolation.mk rule node.className node.position.line node.position.column)
  {visitor with violations:=visitor.violations ++ added}

-- The count of `visit`, then what the node itself shows.
def enter (visitor : SandboxGuardAstVisitor) (node : Ast) : SandboxGuardAstVisitor :=
  if visitor.complexityExceeded then visitor
  else if maxNodes < visitor.nodeCount + 1 then
    add {visitor with nodeCount:=visitor.nodeCount + 1, complexityExceeded:=true} node [.complexityLimit]
  else add {visitor with nodeCount:=visitor.nodeCount + 1} node (found node)

mutual
def visit : Ast → SandboxGuardAstVisitor → SandboxGuardAstVisitor
  | .leaf field leaf position,visitor => visitor.enter (.leaf field leaf position)
  | .node field kind position children,visitor =>
    let entered := visitor.enter (.node field kind position children)
    if entered.complexityExceeded then entered else genericVisit children entered
def genericVisit : List Ast → SandboxGuardAstVisitor → SandboxGuardAstVisitor
  | [],visitor => visitor
  | child :: rest,visitor => genericVisit rest (visit child visitor)
end

end SandboxGuardAstVisitor

-- What the interpreter that runs the guard does with a source text: its parser
-- and compiler (none and false where they raise), whether the visit of a tree
-- overflows its stack, its digests, its letters and digits.
class Interpreter where
  parse : Text → Option Ast
  compiles : Ast → Bool
  overflows : Ast → Bool
  sha256 : Text → Text
  isalnum : Char → Bool

variable [Interpreter]

def isWord (c : Char) : Bool := Interpreter.isalnum c || c = '_'

def isHexOrUnderscore (c : Char) : Bool := c.isDigit || decide (c ∈ "abcdefABCDEF_".toList)

-- `\b0[xX][0-9A-Fa-f_]{8192,}\b`, a match of which ends where its letters do.
def hugeHexAt : Text → Bool
  | '0' :: x :: rest => decide (x = 'x' ∨ x = 'X') && decide (8192 ≤ (rest.takeWhile isHexOrUnderscore).length) &&
      !((rest.dropWhile isHexOrUnderscore).head?.any isWord)
  | _ => false

def hugeHexLiteral : Bool → Text → Bool
  | _,[] => false
  | afterWord,c :: rest => (!afterWord && hugeHexAt (c :: rest)) || hugeHexLiteral (isWord c) rest

def denied (digest : Text) (rule : SandboxGuardRule) (nodeType : Text) : SandboxGuardResult :=
  ⟨1,digest,false,[⟨rule,nodeType,0,0⟩]⟩

def violationKey (violation : SandboxGuardViolation) : List Text ×ₗ Nat ×ₗ Nat :=
  toLex ([violation.rule.value,violation.nodeType],toLex (violation.line,violation.column))

-- Texts with lone surrogates, which are denied first, are no `Text`.
def evaluate (code : Text) : SandboxGuardResult :=
  let digest := Interpreter.sha256 code
  if hugeHexLiteral false code then denied digest .analysisFailure "Module".toList
  else match Interpreter.parse code with
    | none => denied digest .parseCompile "Module".toList
    | some tree =>
      if !Interpreter.compiles tree then denied digest .parseCompile "Module".toList
      else if Interpreter.overflows tree then denied digest .analysisFailure "Module".toList
      else
        let violations := Ranking.sortBy violationKey (SandboxGuardAstVisitor.visit tree .start).violations.dedup
        ⟨1,digest,violations.isEmpty,violations⟩

end OpenStock.Sandbox
