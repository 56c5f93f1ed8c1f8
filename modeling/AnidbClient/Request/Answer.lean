import AnidbClient.Request
import AnidbClient.Reply
import AnidbClient.Text.Blank
import AnidbClient.Wire.Value

/-!
# Answers

What a reply means for the request it answers.  `Request.read` reads the body by the grammar
of the code, `Request.answer` first checks that the request takes the code.

    AUTH 200, 201    first line: key [address ":" port] ...
    PING 300         second line: port, if it was asked for
    MYLISTADD 210    second line: number of the new entry
    MYLISTADD 310    second line: number "|" ... "|" storage "|" date watched "|" ...
    edit 311         second line: how many entries were changed, one if there is no such line
    CALENDAR 297     a line for each entry
-/

namespace AnidbClient

/-- What a login brings. -/
structure AuthResult where
  /-- The key that goes with every later command. -/
  session : Text
  /-- The address and port that the server sees. -/
  natAddress : Option Text
  /-- The server knows a newer version of the client. -/
  newVersionAvailable : Bool
  deriving DecidableEq, Repr

/-- What the reply to a command brings. -/
inductive Payload where
  | login (result : AuthResult)
  /-- The port that the server sees. -/
  | port (n : UInt16)
  | entry (e : ListEntry)
  /-- How many entries were changed. -/
  | count (n : UInt32)
  | calendar (c : Calendar)
  deriving DecidableEq, Repr

/-- The answer to a command: the return code, and what came with it. -/
structure Answer where
  code : ReturnCode
  payload : Option Payload
  deriving DecidableEq, Repr

/-- A field that could be read, or the name of one that could not. -/
def fieldOr {α : Type} (field : Text) : Option α → Except Text α
  | some a => .ok a
  | none => .error field

namespace AuthResult

/-- The key of a session and the address, from the first line of a reply.  The word `LOGIN` in
the place of the key starts the status message, so there is no key. -/
def read (code : ReturnCode) (body : Text) : Except Text AuthResult :=
  let words := Text.words (Text.firstLine body)
  (fieldOr "session" (words.head?.filter (· ≠ ("LOGIN" : Text)))).map fun session =>
    ⟨session, words[1]?.filter (·.contains ':'), code = .loginAcceptedNewVersion⟩

end AuthResult

namespace ListEntry

/-- The number of a new entry, which is otherwise as it was asked for. -/
def ofAdded (f : Filing) (line : Text) : Option ListEntry :=
  (Text.u64? (Text.trim line)).map fun id => ⟨id, f.storage, f.watched, f.watchedDate⟩

/-- The date watched, from its number of seconds; a number that is not positive says that the
file was not watched. -/
def watchedAt (seconds : Int) : Option (Option Moment) :=
  if 0 < seconds then (Moment.ofSeconds? seconds).map some else some none

/-- An entry that was on the list before, from its line, or the name of the first field that is
wrong. -/
def ofListed (line : Text) : Except Text ListEntry := do
  let fields := Wire.fields line
  let id ← fieldOr "lid" (fields[0]?.bind Text.u64?)
  let storage ← fieldOr "state" ((fields[6]?.bind Text.u8?).bind Storage.ofNumber?)
  let watched ← fieldOr "viewdate" ((fields[7]?.bind Text.i64?).bind watchedAt)
  return ⟨id, storage, watched.isSome, watched⟩

end ListEntry

namespace Request

/-- The second line of a reply. -/
def secondLine? (body : Text) : Option Text :=
  (Text.lines body)[1]?

/-- What the reply to a command brings, by its code; an error names the field that is missing or
wrong.  `today` is the day on which a calendar is split. -/
def read (today : Date) (r : Request) (code : ReturnCode) (body : Text) :
    Except Text (Option Payload) :=
  match r with
  | auth _ => (AuthResult.read code body).map fun result => some (.login result)
  | logout | remove _ => .ok none
  | ping nat =>
    match secondLine? body with
    | some line =>
      if nat then (fieldOr "port" (Text.u16? (Text.trim line))).map fun n => some (.port n)
      else .ok none
    | none => .ok none
  | calendar =>
    .ok (if code = .calendarEmpty then none else some (.calendar (Calendar.read today body)))
  | add filing =>
    match secondLine? body with
    | none => .error "lid"
    | some line =>
      (if code = .myListEntryAdded then fieldOr "lid" (ListEntry.ofAdded filing line)
        else ListEntry.ofListed line).map fun e => some (.entry e)
  | update _ =>
    if code = .noSuchMyListEntry then .ok none
    else
      match secondLine? body with
      | none => .ok (some (.count 1))
      | some line => (fieldOr "count" (Text.u32? (Text.trim line))).map fun n => some (.count n)

/-- What the reply to a command brings, whether or not the command takes the code. -/
def payload (today : Date) (r : Request) (code : ReturnCode) (body : Text) :
    Except Error (Option Payload) :=
  (r.read today code body).mapError fun field => .malformedField r.command code field body

/-- What a reply means for a command. -/
def answer (today : Date) (r : Request) (reply : Reply) : Except Error Answer :=
  if reply.code ∈ r.accepted then
    (r.payload today reply.code reply.body).map fun payload => ⟨reply.code, payload⟩
  else .error (.unexpectedResponse r.command reply.code reply.body)

end Request

end AnidbClient
