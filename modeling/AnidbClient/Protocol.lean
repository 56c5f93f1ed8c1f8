import AnidbClient.Time

/-!
# The numbers of the protocol

What client and server have agreed upon: the version of the protocol, the size of a packet, the
address of the server, and how long a session lives without a word.
-/

namespace AnidbClient.Protocol

/-- The version of the protocol that the client speaks. -/
def version : Nat := 3

/-- The most bytes a command may have. -/
def packetLimit : Nat := 1400

/-- The bytes of a datagram that are received; replies are smaller, tag included. -/
def receiveLimit : Nat := 2048

/-- The host name of the server. -/
def defaultServer : Text := "api.anidb.net"

/-- The port of the server. -/
def defaultPort : UInt16 := 9000

/-- The seconds after which the server forgets a silent session. -/
def sessionTimeoutSecs : UInt64 := 1800

/-- The fewest milliseconds between two packets; a client that sends faster is banned. -/
def shortDelayFloor : UInt64 := 2000

end AnidbClient.Protocol
