import AnidbClient.Error
import AnidbClient.Protocol
import AnidbClient.Text.Blank

/-!
# Datagrams

A command goes out as one datagram of UTF-8 without a line end, a reply comes back as one.
`pack` refuses a command that is empty or has more bytes than a packet holds; `unpack` refuses
bytes that are no text and drops the line ends behind it.
-/

namespace AnidbClient.Wire

open Text.Utf8 (Bytes)

/-- The bytes of a command line. -/
def pack (line : Text) : Except Error Bytes :=
  if line = [] then .error (.encoding .emptyCommand)
  else
    let bytes := Text.Utf8.encode line
    if Protocol.packetLimit < bytes.length then
      .error (.packetTooLarge bytes.length Protocol.packetLimit)
    else .ok bytes

/-- A character that may end a reply. -/
def isLineEnd (c : Char) : Bool :=
  c == '\n' || c == '\r'

/-- The text of a datagram, without the line ends at its end. -/
def unpack (bytes : Bytes) : Except DecodingFault Text :=
  if bytes = [] then .error .emptyDatagram
  else
    match Text.Utf8.decode bytes with
    | .error fault => .error (.notUtf8 fault)
    | .ok text => .ok (Text.trimRightWhen isLineEnd text)

end AnidbClient.Wire
