import AnidbClient.Request
import AnidbClient.Wire.Value

/-!
# Command lines

    command [SP parameter *("&" parameter)]        parameter = key "=" value

The parameters of the request come first, then the key of the session as `s`, then the tag as
`tag`.  Values are encoded, so no ampersand of a value separates parameters.  For a log the
values of the sensitive parameters are masked.
-/

namespace AnidbClient.Request

/-- The parameters that follow those of the request: the session key and the tag. -/
def envelope (session tag : Option Text) : List Parameter :=
  (session.toList.map fun key => ⟨"s", key⟩) ++ (tag.toList.map fun tag => ⟨"tag", tag⟩)

/-- A parameter as it is sent. -/
def parameterText (p : Parameter) : Text :=
  p.key ++ '=' :: Wire.encode p.value

/-- A parameter as it is logged. -/
def maskedParameterText (r : Request) (p : Parameter) : Text :=
  if r.sensitive.any (· = p.key) then p.key ++ '=' :: mask else parameterText p

/-- A command with the texts of its parameters. -/
def lineOf (command : Text) (parameters : List Text) : Text :=
  if parameters = [] then command else command ++ ' ' :: Text.join '&' parameters

/-- The line of a command, as it is sent. -/
def line (r : Request) (session tag : Option Text) : Text :=
  lineOf r.command ((r.parameters ++ envelope session tag).map parameterText)

/-- The line of a command, as it is logged. -/
def maskedLine (r : Request) (session tag : Option Text) : Text :=
  lineOf r.command
    (r.parameters.map r.maskedParameterText ++ (envelope session tag).map parameterText)

end AnidbClient.Request
