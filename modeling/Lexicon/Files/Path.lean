import Lexicon.Text.Quoted

/-! Path names: what they are joined from and what lies above them, by their text alone. -/

namespace Lexicon

/-- A path name. Any bytes will do; the slash parts them. -/
structure Path where
  bytes : Bytes
  deriving Repr, DecidableEq

namespace Path

def slash : UInt8 := 0x2F
def dot : UInt8 := 0x2E

def ofString (s : String) : Path := ⟨Utf8.encode s⟩

def quoted (p : Path) : String := quotedBytes p.bytes

def isAbsolute (p : Path) : Bool := p.bytes.head? == some slash

/-- The path of `name` seen from the directory `p`. An absolute name stands for itself. -/
def join (p : Path) (name : Path) : Path :=
  if name.isAbsolute then name
  else if p.bytes.isEmpty || p.bytes.getLast? == some slash then ⟨p.bytes ++ name.bytes⟩
  else ⟨p.bytes ++ slash :: name.bytes⟩

def segments (p : Path) : List Bytes := p.bytes.splitOn slash

/-- Whether a segment leads nowhere: an empty one, or a single dot. -/
def isIdle (segment : Bytes) : Bool := segment == [] || segment == [dot]

/-- A leading slash, or a leading dot that is a segment, and the rest of the path. -/
def anchor (p : Path) : Bytes × Bytes :=
  match p.bytes with
  | 0x2F :: rest => ([slash], rest)
  | [0x2E] => ([dot], [])
  | 0x2E :: 0x2F :: rest => ([dot], slash :: rest)
  | bs => ([], bs)

/-- The paths above those segments, which are given from the last to the first, nearest first. -/
def parentsFrom (anchor : Bytes) : List Bytes → List Path
  | [] => if anchor = [dot] then [⟨[]⟩] else []
  | s :: rest =>
    if isIdle s then parentsFrom anchor rest
    else ⟨anchor ++ [slash].intercalate (rest.dropWhile isIdle).reverse⟩ :: parentsFrom anchor rest

/-- The directories that a path names on its way, from the nearest to the farthest. -/
def parents (p : Path) : List Path := parentsFrom p.anchor.1 (p.anchor.2.splitOn slash).reverse

/-- The directory of a path, by its text alone. The empty path and the root lie in none. -/
def parent? (p : Path) : Option Path := p.parents.head?

end Path
end Lexicon
