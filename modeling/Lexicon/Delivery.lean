import Lexicon.Files.Draft

/-! The three wordlists as files. Each is replaced as a whole or not at all. -/

namespace Lexicon

/-- What became of the lists: those written before any failure stay on disk. -/
structure Delivery where
  disk : Disk
  written : List (ListKind × StoredList) := []
  failure : Option Failure := none

/-- Makes a directory with those above it, unless the path exists in any form. -/
def prepareDirectory (d : Disk) (p : Path) : Disk × Option Failure :=
  if d.exists? p then (d, none)
  else match d.createDirectories p with
    | (d, none) => (d, none)
    | (d, some r) => (d, some (.unwritable p ⟨r, none⟩))

def targetPath (directory : Path) (names : FileNames) (kind : ListKind) : Path :=
  directory.join (.ofString (names.get kind))

def deliverLists (directory : Path) (names : FileNames) (lists : Wordlists) (d : Disk) :
    List ListKind → Delivery
  | [] => { disk := d }
  | kind :: rest =>
    match storeList d (targetPath directory names kind) (lists.get kind) with
    | (d, .error f) => { disk := d, failure := some f }
    | (d, .ok list) =>
      let report := deliverLists directory names lists d rest
      { report with written := (kind, list) :: report.written }

def deliver (directory : Path) (names : FileNames) (lists : Wordlists) (d : Disk) : Delivery :=
  match prepareDirectory d directory with
  | (d, some f) => { disk := d, failure := some f }
  | (d, none) => deliverLists directory names lists d ListKind.all

end Lexicon
