import AnidbClient.Text

/-!
# Reading command lines

How a server takes a command line apart: the name ends at the first blank, and what follows is
cut at every ampersand, also at those inside encoded values.

* `name` and `param?` look at a line and leave it whole;
* `splitTag` takes the tag out, so that the rest is the line as it would be without one.
-/

namespace AnidbClient.CommandLine

/-- The name of the command. -/
def name (line : Text) : Text :=
  line.takeWhile (· != ' ')

/-- The pieces between ampersands behind the name, if anything follows it. -/
def pieces? (line : Text) : Option (List Text) :=
  (Text.cut? ' ' line).map fun (_, parameters) => Text.split '&' parameters

/-- The value of the first piece with the given key, as it stands in the line. -/
def param? (key line : Text) : Option Text :=
  (pieces? line).bind fun pieces =>
    pieces.findSome? fun piece =>
      (Text.cut? '=' piece).bind fun (k, value) => if k = key then some value else none

/-- The value of a piece that gives a tag. -/
def tagOf? (piece : Text) : Option Text :=
  Text.dropPrefix? "tag=" piece

/-- A line without the pieces that give a tag, and the tag of the last of them. -/
def splitTag (line : Text) : Text × Option Text :=
  match Text.cut? ' ' line with
  | none => (line, none)
  | some (command, parameters) =>
    let pieces := Text.split '&' parameters
    let rest := pieces.filter fun piece => (tagOf? piece).isNone
    (if rest = [] then command else command ++ ' ' :: Text.join '&' rest,
      (pieces.filterMap tagOf?).getLast?)

end AnidbClient.CommandLine
