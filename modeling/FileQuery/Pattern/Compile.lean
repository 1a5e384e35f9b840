import FileQuery.Pattern.Glob
import FileQuery.Pattern.Matcher
import FileQuery.Pattern.Reader

/-!
From regular expressions to matchers: settings are resolved, and lookbehinds are checked to have one
width.  In the patterns that queries use, a regular expression looks for a match anywhere in a text, and
a wildcard pattern has to match all of it.
-/

namespace FileQuery.Pattern

def Flags.folding (flags : Flags) : Folding :=
  if !flags.ignoreCase then .exact else if flags.unicode then .unicode else .ascii

def lookbehindLimit : Nat := 4294967295

def foldCode (f : Folding) (n : Nat) : Nat :=
  if n.isValidChar then (f.apply (Char.ofNat n)).toNat else n

def Regex.compile (widths : GroupWidths) (flags : Flags) : Regex → Except Fault Node
  | .empty => .ok .empty
  | .code negated n =>
    .ok (.test (.set negated [.code (foldCode flags.folding n)] flags.folding !flags.unicode))
  | .set negated items => .ok (.test (.set negated items flags.folding !flags.unicode))
  | .any => .ok (.test (if flags.dotAll then .any else .notNewline))
  | .anchor a => .ok (.place ⟨a, flags.multiline, !flags.unicode⟩)
  | .seq a b => do return .seq (← a.compile widths flags) (← b.compile widths flags)
  | .alt a b => do return .alt (← a.compile widths flags) (← b.compile widths flags)
  | .capture n body => do return .capture n (← body.compile widths flags)
  | .scoped add del body => body.compile widths (flags.switch add del)
  | .backref n => .ok (.backref n flags.folding)
  | .cond n yes no => do
    return .cond n (← yes.compile widths flags) (← no.compile widths flags)
  | .look behind negated body => do
    let w := body.width widths
    if behind && lookbehindLimit < w.least then throw (.refused .lookbehindTooWide none)
    if behind && w.least ≠ w.greatest then throw (.refused .lookbehindWidth none)
    return .look (if behind then w.least else 0) negated (← body.compile widths flags)
  | .atomic body => do return .atomic (← body.compile widths flags)
  | .repeat greed least greatest body => do
    if flags.template then throw (.refused (.templateRepeat greed) none)
    match ← body.compile widths flags with
    | .test t => return .run greed least greatest t
    | node => return .loop greed least greatest node

def Node.ofText (source : String) : Except Fault Node := do
  let e ← Expression.read source
  e.regex.compile e.widths e.flags

end FileQuery.Pattern

namespace FileQuery

structure Pattern where
  source : String
  isGlob : Bool
  node : Pattern.Node
deriving DecidableEq, Repr

namespace Pattern

/-- The deepest nesting of groups in a text, by its parentheses that are not escaped; `opened` are open
already. -/
def groupDepth (opened : Nat) : List Char → Nat
  | [] => opened
  | '\\' :: _ :: rest => groupDepth opened rest
  | '(' :: rest => groupDepth (opened + 1) rest
  | ')' :: rest => max opened (groupDepth (opened - 1) rest)
  | _ :: rest => groupDepth opened rest

/-- The stack of the interpreter: for which texts it is enough to compile them.  Only groups need more of
it the deeper they are nested. -/
structure Stack where
  isEnough : String → Bool
  flat : ∀ source, groupDepth 0 source.toList = 0 → isEnough source = true

/-- A stack for groups that are nested up to a depth. -/
def Stack.ofDepth (depth : Nat) : Stack where
  isEnough source := groupDepth 0 source.toList ≤ depth
  flat _ h := decide_eq_true (by rw [h]; exact Nat.zero_le depth)

def ofRegex (stack : Stack) (source : String) : Except Fault Pattern :=
  if stack.isEnough source then (Node.ofText source).map (⟨source, false, ·⟩) else .error .tooDeep

def ofGlob (source : String) : Pattern := ⟨source, true, Node.ofGlob source⟩

def search (p : Pattern) (skip : Nat) (s : List Char) : Option Match := p.node.search skip s

def holds (p : Pattern) (s : String) : Bool :=
  if p.isGlob then (p.node.matchAt (Cursor.start s.toList)).isSome
  else (p.search 0 s.toList).isSome

end Pattern

end FileQuery
