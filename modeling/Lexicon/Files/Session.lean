import Lexicon.Files.Draft

/-! Several lists in writing at once. -/

namespace Lexicon

structure Session where
  disk : Disk
  drafts : List (Nat × Draft) := []

inductive SessionStep where
  | create (key : Nat) (path : Path)
  | write (key : Nat) (term : String)
  | commit (key : Nat)
  | discard (key : Nat)
  deriving Repr, DecidableEq

inductive SessionAnswer where
  | done
  | stored (list : StoredList)
  | failed (f : Failure)
  | unknownKey

namespace Session

def without (s : Session) (key : Nat) : List (Nat × Draft) :=
  s.drafts.filter fun (k, _) => k != key

def discard (s : Session) (key : Nat) : Session :=
  match s.drafts.lookup key with
  | some w => ⟨w.discard s.disk, s.without key⟩
  | none => s

/-- A list takes the key from an older one only once it has been created. -/
def create (s : Session) (key : Nat) (path : Path) : Session × SessionAnswer :=
  match Draft.create s.disk path with
  | .ok (d, w) =>
    let s := ({ s with disk := d } : Session).discard key
    ({ s with drafts := (key, w) :: s.drafts }, .done)
  | .error f => (s, .failed f)

/-- Ends the list of a key, which either is on disk afterwards or is lost. -/
def commit (s : Session) (key : Nat) : Session × SessionAnswer :=
  match s.drafts.lookup key with
  | none => (s, .unknownKey)
  | some w =>
    match w.commit s.disk with
    | (d, .ok list) => (⟨d, s.without key⟩, .stored list)
    | (d, .error f) => (⟨d, s.without key⟩, .failed f)

def write (s : Session) (key : Nat) (term : String) : Session × SessionAnswer :=
  match s.drafts.lookup key with
  | none => (s, .unknownKey)
  | some w => ({ s with drafts := (key, w.append term) :: s.without key }, .done)

def step (s : Session) : SessionStep → Session × SessionAnswer
  | .create key path => s.create key path
  | .write key term => s.write key term
  | .commit key => s.commit key
  | .discard key => (s.discard key, .done)

end Session
end Lexicon
