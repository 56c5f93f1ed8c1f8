import AnidbClient.Proofs.Text.Pieces
import AnidbClient.Request.Line

/-!
# The line of a login

The user and the password stand first in the line of a login, each encoded; what follows does not
depend on them.
-/

namespace AnidbClient.AuthRequest

/-- What stands before the password in the line of a login. -/
def lineFront (a : AuthRequest) : Text :=
  "AUTH user=" ++ Wire.encode a.user ++ "&pass="

/-- What stands behind the password in the line of a login. -/
def lineBack (a : AuthRequest) (session tag : Option Text) : Text :=
  ((Request.authParameters a).drop 2 ++ Request.envelope session tag).flatMap fun p =>
    '&' :: Request.parameterText p

theorem line_eq (a : AuthRequest) (session tag : Option Text) :
    (Request.auth a).line session tag =
      a.lineFront ++ Wire.encode a.pass.reveal ++ a.lineBack session tag := by
  have hparameters : (Request.auth a).parameters ++ Request.envelope session tag =
      ⟨"user", a.user⟩ :: ⟨"pass", a.pass.reveal⟩ ::
        ((Request.authParameters a).drop 2 ++ Request.envelope session tag) := rfl
  unfold Request.line Request.lineOf
  rw [hparameters, List.map_cons, List.map_cons, if_neg (List.cons_ne_nil _ _),
    Text.join_cons_eq_flatMap, List.flatMap_cons, List.flatMap_map]
  unfold lineFront lineBack
  generalize (Request.authParameters a).drop 2 ++ Request.envelope session tag = rest
  unfold Request.parameterText
  simp only [List.cons_append, List.append_assoc]
  rfl

end AnidbClient.AuthRequest
