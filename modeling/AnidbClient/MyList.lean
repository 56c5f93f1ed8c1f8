import AnidbClient.Text
import AnidbClient.Time.Date

/-!
# The user's list

The server keeps a list of the user's files.  A file is addressed by its size and its hash, and
an entry of the list says where the file is stored and whether it was watched.
-/

namespace AnidbClient

/-- Where a file of the list is kept. -/
inductive Storage where
  | unknown
  /-- On a hard drive. -/
  | internal
  /-- On removable media. -/
  | external
  | deleted
  /-- On the network. -/
  | remote
  deriving DecidableEq, Repr

namespace Storage

/-- The number that stands for a storage on the wire. -/
def number : Storage → UInt8
  | unknown => 0
  | internal => 1
  | external => 2
  | deleted => 3
  | remote => 4

/-- The storage that a number stands for. -/
def ofNumber? (n : UInt8) : Option Storage :=
  match n.toNat with
  | 0 => some unknown
  | 1 => some internal
  | 2 => some external
  | 3 => some deleted
  | 4 => some remote
  | _ => none

/-- The name of a storage. -/
def name : Storage → Text
  | unknown => "Unknown"
  | internal => "Internal"
  | external => "External"
  | deleted => "Deleted"
  | remote => "Remote"

/-- The storage of a name. -/
def ofName? (s : Text) : Option Storage :=
  [unknown, internal, external, deleted, remote].find? fun storage => storage.name == s

theorem ofNumber?_number (s : Storage) : ofNumber? s.number = some s := by
  cases s <;> rfl

end Storage

/-- A file, as the server knows it. -/
structure FileKey where
  size : UInt64
  ed2k : Text
  deriving DecidableEq, Repr

/-- What the user wants the list to say about a file. -/
structure Filing where
  file : FileKey
  storage : Storage
  watched : Bool
  /-- When the file was watched; meant only for a watched file. -/
  watchedDate : Option Moment
  deriving DecidableEq, Repr

/-- What the list says about a file. -/
structure ListEntry where
  /-- The number of the entry. -/
  id : UInt64
  storage : Storage
  isWatched : Bool
  watchedDate : Option Moment
  deriving DecidableEq, Repr

end AnidbClient
