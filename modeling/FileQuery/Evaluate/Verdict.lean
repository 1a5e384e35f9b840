import FileQuery.Evaluate.Fold
import FileQuery.Evaluate.Frame
import FileQuery.Evaluate.Name

/-!
Deciding whether an entity satisfies a query.  Predicates are decided category by category, the
cheapest first, and as soon as the query as a whole is decided nothing more is looked at.
-/

namespace FileQuery.Query

def answerOf (r : Except CompareFault Bool) : Evaluation (Option Bool) :=
  match r with
  | .ok b => return some b
  | .error fault => throw (.compare fault)

def Predicate.op (p : Predicate) : Operator := p.operator.getD .eq

def resolveName (entity : Entity) (p : Predicate) : Evaluation (Option Bool) :=
  match p.selector.nameValue? entity.path with
  | some (.text s) => answerOf (compareText p.op p.operand s)
  | some (.count n) => answerOf (compareNumber p.op p.operand n)
  | none => return none

def Metadata.moment? (m : Metadata) : Selector → Option Calendar.Moment
  | .modified => m.modified
  | .created => m.created
  | .accessed => m.accessed
  | _ => none

def resolveMetadata (setting : Setting) (entity : Entity) (p : Predicate) :
    Evaluation (Option Bool) := do
  if p.category != .metadata then return none
  match ← Frame.askMetadata entity with
  | none => return some false
  | some m =>
    match p.selector with
    | .type => answerOf (compareType p.op p.operand m.type)
    | .size =>
      match m.size with
      | some size => answerOf (compareNumber p.op p.operand size)
      | none => return some false
    | selector =>
      match Metadata.moment? m selector with
      | some moment => answerOf (compareMoment setting.zone p.op p.operand moment)
      | none => return some false

/-- Decides a predicate on documents; it is false where there are none, or where it is foreseen that a
value cannot be compared. -/
def resolveDocument (setting : Setting) (entity : Entity) (p : Predicate) :
    Evaluation (Option Bool) := do
  match p.operand with
  | .document m =>
    match ← Frame.askDocuments setting entity m.format with
    | none => return some false
    | some roots =>
      match m.holds setting.textLimit roots with
      | .ok b => return some b
      | .error fault =>
        if !fault.isForeseen then throw (.text fault)
        Frame.remark (.incomparable m ⟨m.format, .text fault⟩)
        return some false
  | _ => return none

def Predicate.contentMatcher? (p : Predicate) : Option Content.Matcher :=
  match p.operand with
  | .content m => some m
  | _ => none

/-- The conditions on content in a tree, each once. -/
def Expr.contentMatchers (e : Expr) : List Content.Matcher :=
  (e.predicates.filterMap Predicate.contentMatcher?).eraseDups

def answerIn {α : Type} (matchers : List Content.Matcher) (scanners : List Content.Scanner)
    (answer : Content.Scanner → α) (p : Predicate) : Except EvaluationFault α :=
  match p.contentMatcher?.bind fun m => (matchers.zip scanners).lookup m with
  | some s => .ok (answer s)
  | none => .error .noScanner

/-- A step that does not look at the state. -/
def lift {α : Type} (r : Except EvaluationFault α) : Evaluation α :=
  match r with
  | .ok x => return x
  | .error e => throw e

def Expr.withResults (e : Expr) (scanners : List Content.Scanner) : Except EvaluationFault Expr :=
  e.fold (answerIn e.contentMatchers scanners (·.result))

def Expr.isSettledBy (e : Expr) (scanners : List Content.Scanner) : Except EvaluationFault Bool := do
  return (← e.withResults scanners).known?.isSome

/-- A tree folded with what scanners say that get no more text. -/
def Expr.withFinished (e : Expr) (scanners : List Content.Scanner) : Except EvaluationFault Expr := do
  let reduced ← e.withResults scanners
  if reduced.known?.isSome then return reduced
  e.fold (answerIn e.contentMatchers scanners (some ·.finish))

/-- The scanners after a pass: if the stream broke off, those without an answer give up. -/
def scannersAfter (scanned : Content.Scanned AccessFault) : Evaluation (List Content.Scanner) :=
  match scanned.fault with
  | none => return scanned.scanners
  | some (.unavailable u) => do
    Frame.remark (.noContent u)
    return scanned.scanners.map Content.Scanner.abort
  | some fault => throw (.access fault)

/-- Decides what is left of a query by the content, which is read as far as it is needed. -/
def resolveContent (setting : Setting) (entity : Entity) (e : Expr) : Evaluation Expr := do
  Frame.note .content
  let stream := entity.content setting.config.chunkSize
  let scanned ← lift <|
    Content.scan setting.lines e.isSettledBy stream (e.contentMatchers.map Content.Scanner.start)
  modify ({ · with chunksRead := scanned.taken })
  if let some fault := scanned.undecodable then Frame.remark (.undecodable fault)
  let scanners ← scannersAfter scanned
  lift (e.withFinished scanners)

def resolveCategory (setting : Setting) (entity : Entity) (c : Category) (e : Expr) :
    Evaluation Expr :=
  match c with
  | .name => e.fold (resolveName entity)
  | .metadata => e.fold (resolveMetadata setting entity)
  | .structured => e.fold (resolveDocument setting entity)
  | .content => resolveContent setting entity e

structure Resolution where
  verdict : Verdict
  category : Category
deriving DecidableEq, Repr

def conclude (c : Category) (b : Bool) : Evaluation Resolution := do
  Frame.remark (.decided c)
  return ⟨← Frame.resolve (.ofBool b), c⟩

def resolveAll (setting : Setting) (entity : Entity) : List Category → Evaluation Resolution
  | [] => throw .unresolved
  | c :: rest => do
    Frame.enter c
    let expr ← resolveCategory setting entity c (← get).expr
    modify ({ · with expr })
    match expr.known? with
    | some b => conclude c b
    | none => resolveAll setting entity rest

/-- All categories, the cheapest first. -/
def categories : List Category := [.name, .metadata, .structured, .content]

/-- Decides whether an entity satisfies a query; the state tells what was looked at. -/
def Expr.evaluate (setting : Setting) (entity : Entity) (e : Expr) :
    Except EvaluationFault Resolution × Frame :=
  (resolveAll setting entity categories).run { expr := e }

end FileQuery.Query
