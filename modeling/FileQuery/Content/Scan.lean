import FileQuery.Content.Scanner
import FileQuery.Text.Utf8

/-!
One pass over a stream of bytes for several scanners.  The text before bytes that are no text is still
looked at; then the scanners give up.
-/

namespace FileQuery.Content

/-- A stream of bytes: its chunks, and what it breaks off with if it does not end. -/
structure Stream (ε : Type) where
  chunks : List (List UInt8)
  fault : Option ε

def cutFrom (length : Nat) (done : List (List UInt8)) (bytes : List UInt8) : List (List UInt8) :=
  match bytes with
  | [] => done.reverse
  | b :: rest =>
    cutFrom length ((b :: rest.take (length - 1)) :: done) (rest.drop (length - 1))
termination_by bytes.length
decreasing_by
  simp only [List.length_drop, List.length_cons]
  omega

def cut (length : Nat) (bytes : List UInt8) : List (List UInt8) := cutFrom length [] bytes

/-- What is left of a pass: the scanners, the number of chunks taken, the fault that ended the stream,
and what is wrong with the bytes if they are no text. -/
structure Scanned (ε : Type) where
  scanners : List Scanner
  taken : Nat
  fault : Option ε
  undecodable : Option Text.Utf8Fault := none

def finishText (state : Text.Utf8State) (scanners : List Scanner) : List Scanner :=
  match state with
  | .between => scanners
  | .inside .. => scanners.map Scanner.abort

/-- Feeds chunks to scanners until all of them are decided, `shouldStop` says so, the bytes are no
text, or the chunks are used up. -/
def scanFrom {m : Type → Type} [Monad m] {ε : Type} (limits : LineLimits)
    (shouldStop : List Scanner → m Bool) (fault : Option ε) (state : Text.Utf8State) (taken : Nat)
    (scanners : List Scanner) : List (List UInt8) → m (Scanned ε)
  | [] =>
    match fault with
    | some e => pure ⟨scanners, taken, some e, none⟩
    | none =>
      pure ⟨finishText state scanners, taken, none, state.faultAtEnd? state.seen.length⟩
  | chunk :: rest =>
    let (text, next) := Text.decode state chunk
    let scanners := scanners.map (Scanner.feed limits text)
    match next with
    | .error e => pure ⟨scanners.map Scanner.abort, taken + 1, none, some e⟩
    | .ok state =>
      if scanners.all Scanner.isDecided then pure ⟨scanners, taken + 1, none, none⟩
      else do
        if ← shouldStop scanners then return ⟨scanners, taken + 1, none, none⟩
        scanFrom limits shouldStop fault state (taken + 1) scanners rest

def scan {m : Type → Type} [Monad m] {ε : Type} (limits : LineLimits)
    (shouldStop : List Scanner → m Bool) (stream : Stream ε) (scanners : List Scanner) :
    m (Scanned ε) :=
  scanFrom limits shouldStop stream.fault .between 0 scanners stream.chunks

def Matcher.holds (limits : LineLimits) (m : Matcher) (chunks : List (List UInt8)) : Bool :=
  let scanned : Scanned Empty :=
    Id.run (scan limits (fun _ => false) ⟨chunks, none⟩ [Scanner.start m])
  scanned.scanners.any Scanner.finish

end FileQuery.Content
