import AnidbClient.Wire.Datagram

/-!
# Replies

A reply is a line with a return code, and more lines for some codes:

    [tag SP] code [SP rest-of-line] *(LF line)

The tag is that of the command it answers.  Tags never start with a digit, so a first token that
does is the code.  `Reply.read` splits a reply; the status message is the first line of what
follows the code.
-/

namespace AnidbClient

/-- A reply, split but not yet understood. -/
structure Reply where
  /-- The tag of the command that is answered. -/
  tag : Option Text
  code : ReturnCode
  /-- What follows the code: the rest of its line without the blank, and the other lines. -/
  body : Text
  deriving DecidableEq, Repr

namespace Reply

/-- A character that ends a token. -/
def endsToken (c : Char) : Bool :=
  c == ' ' || c == '\n'

/-- The text behind one blank, if there is one.  A line feed stays, so that what follows still
starts a new line. -/
def dropBlank : Text → Text
  | ' ' :: rest => rest
  | s => s

/-- The first token and what follows it. -/
def token (s : Text) : Text × Text :=
  (s.takeWhile fun c => !endsToken c, dropBlank (s.dropWhile fun c => !endsToken c))

/-- The token starts with an ASCII digit. -/
def startsWithDigit : Text → Bool
  | [] => false
  | c :: _ => (Text.digit? c).isSome

/-- A reply with the given tag, from its code token and what follows that. -/
def ofCode (tag : Option Text) (codeToken body : Text) : Except DecodingFault Reply :=
  match Text.u16? codeToken with
  | none => .error (.badCode codeToken)
  | some n => .ok ⟨tag, .ofNumber n, body⟩

/-- Splits a reply. -/
def read (s : Text) : Except DecodingFault Reply :=
  let (first, rest) := token s
  if first = [] then .error .emptyReply
  else if startsWithDigit first then ofCode none first rest
  else
    let (codeToken, body) := token rest
    ofCode (some first) codeToken body

/-- The server's status message. -/
def message (r : Reply) : Text :=
  Text.firstLine r.body

/-- Reads a reply from a datagram. -/
def ofDatagram (bytes : Text.Utf8.Bytes) : Except DecodingFault Reply :=
  (Wire.unpack bytes).bind read

end Reply

end AnidbClient
