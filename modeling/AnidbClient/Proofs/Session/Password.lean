import AnidbClient.Proofs.CommandLine.Login
import AnidbClient.Proofs.Session.Callers
import AnidbClient.Proofs.Turnstile.Mimicry
import Mathlib.Data.List.Forall2

/-!
# The password shows in the login alone

Two clients that differ in the password alone send the same commands at the same moments, but for
the password in their logins; they tell their callers the same, and are in the same state.

Their handlers differ in what they have sent (`Handler.Differs`), and no part of a call looks at
that: every part commutes with `withSent`.  The password is looked at once, where the login is
packed, and a server that plays a script does not look at all.  So one client does what the other
does (`mimics_withPassword`), and `password_unseen` says what that means for whole runs.
-/

namespace AnidbClient

/-- The same login with another password. -/
def AuthRequest.withPassword (a : AuthRequest) (p : Text) : AuthRequest :=
  { a with pass := ⟨p⟩ }

/-- The same client with another password. -/
def Client.withPassword (c : Client) (p : Text) : Client :=
  { c with auth := c.auth.withPassword p }

/-! ## Logins -/

namespace AuthRequest

/-- The login fits into a packet under the tag with this number. -/
def Fits (a : AuthRequest) (n : Nat) : Prop :=
  (Text.Utf8.encode ((Request.auth a).line none (some (Handler.tagOf n)))).length ≤
    Protocol.packetLimit

instance (a : AuthRequest) (n : Nat) : Decidable (a.Fits n) :=
  inferInstanceAs (Decidable (_ ≤ _))

theorem Fits.pack_eq {a : AuthRequest} {n : Nat} (hfits : a.Fits n) :
    Wire.pack ((Request.auth a).line none (some (Handler.tagOf n))) =
      .ok (Text.Utf8.encode ((Request.auth a).line none (some (Handler.tagOf n)))) := by
  have hne : (Request.auth a).line none (some (Handler.tagOf n)) ≠ [] := by
    rw [line_eq]
    exact List.cons_ne_nil _ _
  unfold Wire.pack
  rw [if_neg hne]
  exact if_neg (Nat.not_lt.2 hfits)

theorem maskedLine_withPassword (a : AuthRequest) (p : Text) (session tag : Option Text) :
    (Request.auth (a.withPassword p)).maskedLine session tag =
      (Request.auth a).maskedLine session tag := rfl

theorem inspected_withPassword (a : AuthRequest) (p : Text) :
    (a.withPassword p).inspected = a.inspected := rfl

end AuthRequest

/-! ## Servers that do not look at commands -/

namespace Server

/-- The server plays a script. -/
def IsScripted (s : Server) : Prop :=
  ∃ reactions, s = .scripted reactions

variable {s : Server}

theorem IsScripted.react_eq (hscripted : s.IsScripted) (line line' : Text) :
    s.react line' = s.react line := by
  obtain ⟨_ | ⟨reaction, rest⟩, rfl⟩ := hscripted <;> rfl

theorem IsScripted.react (hscripted : s.IsScripted) (line : Text) :
    (s.react line).1.IsScripted := by
  obtain ⟨_ | ⟨reaction, rest⟩, rfl⟩ := hscripted
  · exact ⟨[], rfl⟩
  · exact ⟨rest, rfl⟩

end Server

/-- A scripted server does with one command what it does with another. -/
theorem Network.post_withSent {n : Network} (hscripted : n.server.IsScripted) (now : Instant)
    (sent : List (Instant × Text)) (line line' tag : Text) :
    ({ n with sent := sent } : Network).post now line' tag =
      ({ (n.post now line tag).1 with sent := sent ++ [(now, line')] },
        (n.post now line tag).2) := by
  unfold post
  rw [show ({ n with sent := sent } : Network).server.react line' = n.server.react line from
    hscripted.react_eq line line']
  dsimp only
  split <;> rfl

namespace Handler

/-- The handler, had it sent these commands. -/
def withSent (sent : List (Instant × Text)) (h : Handler) : Handler :=
  { h with network := { h.network with sent := sent } }

section WithSent

variable {sent : List (Instant × Text)}

@[simp] theorem connection_withSent (h : Handler) :
    (h.withSent sent).connection = h.connection := rfl

@[simp] theorem idle_withSent (now : Instant) (h : Handler) :
    (h.withSent sent).idle now = h.idle now := rfl

theorem loseSession_withSent (h : Handler) :
    (h.withSent sent).loseSession = h.loseSession.withSent sent := by
  unfold loseSession
  rw [connection_withSent]
  split <;> rfl

theorem unsettle_withSent (h : Handler) :
    (h.withSent sent).unsettle = h.unsettle.withSent sent := by
  unfold unsettle
  rw [connection_withSent]
  split <;> rfl

theorem release_withSent (h : Handler) (held : Option Text) :
    (h.withSent sent).release held = (h.release held).withSent sent := by
  unfold release
  rw [connection_withSent]
  split <;> rfl

theorem checkSession_withSent (c : Client) (now : Instant) (h : Handler) :
    (h.withSent sent).checkSession c now = (h.checkSession c now).map (withSent sent) id := by
  unfold checkSession
  rw [connection_withSent,
    idle_withSent]
  split
  · rfl
  · split <;> rfl

theorem hold_withSent (h : Handler) :
    (h.withSent sent).hold = h.hold.map (withSent sent) id := by
  unfold hold
  rw [connection_withSent]
  split
  · split <;> rfl
  · rfl

theorem screen_withSent (h : Handler) (r : Request) (reply : Reply) :
    (h.withSent sent).screen r reply = (h.screen r reply).map (withSent sent) id := by
  unfold screen
  rw [loseSession_withSent]
  split
  · rfl
  · split <;> rfl

theorem finishLogin_withSent (c : Client) (now : Instant) (h : Handler) (r : Except Error Reply) :
    finishLogin c now (h.withSent sent) r = (finishLogin c now h r).map (withSent sent) id := by
  unfold finishLogin
  rw [unsettle_withSent, connection_withSent]
  split
  · rfl
  · split <;> rfl

/-- What is done with a reply behind the screen does not look at what was sent either. -/
theorem conclude_withSent (c : Client) (now : Instant) (call : Call) (held : Option Text)
    (h : Handler) (r : Except Error Reply) :
    conclude c now call held (h.withSent sent) r =
      (conclude c now call held h r).map (withSent sent) id := by
  cases r with
  | error e =>
    cases call with
    | login => exact finishLogin_withSent c now h (.error e)
    | logout => rfl
    | ping => exact Prod.ext (release_withSent h held) rfl
    | send request => exact Prod.ext (release_withSent h held) rfl
  | ok reply =>
    unfold conclude
    dsimp only
    rw [screen_withSent]
    obtain ⟨h, r⟩ := h.screen (call.request c) reply
    cases call with
    | login => exact finishLogin_withSent c now h r
    | logout => rfl
    | ping => exact Prod.ext (release_withSent h held) rfl
    | send request => exact Prod.ext (release_withSent h held) rfl

theorem abandon_withSent (h : Handler) (p : Pending) :
    (h.withSent sent).abandon p = (h.abandon p).withSent sent := by
  unfold abandon
  rw [unsettle_withSent, release_withSent]
  split <;> rfl

theorem arrive_withSent (c : Client) (now : Instant) (h : Handler) (call : Call) :
    arrive c now call (h.withSent sent) = (arrive c now call h).map (withSent sent) id := by
  unfold arrive
  rw [checkSession_withSent]
  split
  · rfl
  · rfl
  · rfl
  · split
    · obtain ⟨h, e | u⟩ := h.checkSession c now <;> rfl
    · rfl

theorem look_withSent (c : Client) (now : Instant) (h : Handler) (call : Call) :
    (h.withSent sent).look c now call = (h.look c now call).map (withSent sent) id := by
  unfold look
  rw [checkSession_withSent, connection_withSent]
  split
  · rfl
  · split <;> rfl
  · split
    · obtain ⟨h, e | u⟩ := h.checkSession c now <;> rfl
    · rfl
  · split
    · obtain ⟨h, e | u⟩ := h.checkSession c now <;> rfl
    · rfl

theorem take_withSent (c : Client) (h : Handler) (call : Call) (key : Option Text) :
    (h.withSent sent).take c call key = (h.take c call key).map (withSent sent) id := by
  unfold take
  rw [hold_withSent, connection_withSent]
  split
  · split <;> rfl
  · split <;> rfl
  · split
    · obtain ⟨h, e | key⟩ := h.hold <;> rfl
    · rfl
  · split
    · obtain ⟨h, e | key⟩ := h.hold <;> rfl
    · rfl

theorem meet_withSent (c : Client) (now : Instant) (h : Handler) (call : Call) :
    (h.withSent sent).meet c now call = (h.meet c now call).map (withSent sent) id := by
  unfold meet
  rw [look_withSent]
  obtain ⟨h, e | key⟩ := h.look c now call
  · rfl
  · exact take_withSent c h call key

end WithSent

/-! ## Clients that differ in the password -/

section WithPassword

variable (c : Client) (p : Text) (now : Instant) (h : Handler) (call : Call)

theorem conclude_withPassword (held : Option Text) (r : Except Error Reply) :
    conclude (c.withPassword p) now call held h r = conclude c now call held h r := by
  cases call <;> rfl

theorem meet_withPassword : h.meet (c.withPassword p) now call = h.meet c now call := by
  cases call <;> rfl

theorem arrive_withPassword : arrive (c.withPassword p) now call h = arrive c now call h := by
  cases call <;> rfl

end WithPassword

/-! ## Handlers that differ in what they have sent -/

/-- The commands are the same, or logins under the same tag that differ in their passwords alone;
they were sent at the same moment. -/
inductive SameButPassword (a : AuthRequest) (p : Text) :
    Instant × Text → Instant × Text → Prop where
  | same (command : Instant × Text) : SameButPassword a p command command
  | login (now : Instant) (n : Nat) : SameButPassword a p
      (now, a.lineFront ++ Wire.encode a.pass.reveal ++ a.lineBack none (some (tagOf n)))
      (now, a.lineFront ++ Wire.encode p ++ a.lineBack none (some (tagOf n)))

theorem SameButPassword.splitTag_eq {a : AuthRequest} {p : Text} {x y : Instant × Text}
    (hsame : SameButPassword a p x y) :
    (CommandLine.splitTag y.2).2 = (CommandLine.splitTag x.2).2 := by
  cases hsame with
  | same => rfl
  | login now n =>
    have htag := splitTag_tagOf (.auth a) none n
    have htag' := splitTag_tagOf (.auth (a.withPassword p)) none n
    rw [AuthRequest.line_eq] at htag htag'
    exact htag'.trans htag.symm

/-- The handlers differ in what they have sent alone, and there in the passwords of logins.  The
server plays a script. -/
structure Differs (a : AuthRequest) (p : Text) (h h' : Handler) : Prop where
  same : h' = h.withSent h'.network.sent
  sent : List.Forall₂ (SameButPassword a p) h.network.sent h'.network.sent
  scripted : h.network.server.IsScripted
  numbered : 0 < h.nextTag

/-- Two handlers differ in this way, and callers are told the same. -/
def Agree {Told : Type} (a : AuthRequest) (p : Text) (x x' : Handler × Told) : Prop :=
  Differs a p x.1 x'.1 ∧ x'.2 = x.2

section Differs

variable {a : AuthRequest} {p : Text} {now : Instant} {h h' : Handler}

theorem Differs.sameWire (hdiffers : Differs a p h h') {g : Handler} (hsame : SameWire h g) :
    Differs a p g (g.withSent h'.network.sent) where
  same := rfl
  sent := hsame.network ▸ hdiffers.sent
  scripted := hsame.network ▸ hdiffers.scripted
  numbered := hsame.nextTag ▸ hdiffers.numbered

/-- What does not look at what was sent, and sends nothing, tells callers the same. -/
theorem Differs.agree {Told : Type} (hdiffers : Differs a p h h') {f : Handler → Handler × Told}
    (hf : ∀ sent, f (h.withSent sent) = (f h).map (withSent sent) id)
    (hsame : SameWire h (f h).1) : Agree a p (f h) (f h') := by
  have heq := hf h'.network.sent
  rw [← hdiffers.same] at heq
  rw [heq]
  exact ⟨hdiffers.sameWire hsame, rfl⟩

/-- Commands that can be packed, and differ in a password alone, are sent alike. -/
theorem Differs.issue_packed (hdiffers : Differs a p h h') {r r' : Request} {key : Option Text}
    {bytes bytes' : Text.Utf8.Bytes} (hpack : Wire.pack (r.line key (some h.tag)) = .ok bytes)
    (hpack' : Wire.pack (r'.line key (some h.tag)) = .ok bytes')
    (hline : SameButPassword a p (now, r.line key (some h.tag)) (now, r'.line key (some h.tag))) :
    Agree a p (h.issue now r key) (h'.issue now r' key) := by
  have hsame := hdiffers.same
  have hsent := hdiffers.sent
  generalize h'.network.sent = sent at hsame hsent
  subst hsame
  have hpost := Network.post_withSent hdiffers.scripted now sent (r.line key (some h.tag))
    (r'.line key (some h.tag)) h.tag
  have hserver := Network.server_post now (r.line key (some h.tag)) h.tag h.network
  have hgrown := sent_post now (r.line key (some h.tag)) h.tag h.network
  rw [issue_of_pack now hpack, issue_of_pack (h := h.withSent sent) now hpack']
  rw [show (h.withSent sent).network = { h.network with sent := sent } from rfl,
    show (h.withSent sent).tag = h.tag from rfl, hpost]
  refine ⟨⟨rfl, ?_, ?_, Nat.succ_pos _⟩, rfl⟩
  · rw [hgrown]
    exact List.rel_append hsent (.cons hline .nil)
  · rw [hserver]
    exact hdiffers.scripted.react _

/-- The same command is sent alike, or cannot be sent for the same reason. -/
theorem Differs.issue_same (hdiffers : Differs a p h h') (r : Request) (key : Option Text) :
    Agree a p (h.issue now r key) (h'.issue now r key) := by
  cases hpack : Wire.pack (r.line key (some h.tag)) with
  | ok bytes => exact hdiffers.issue_packed hpack hpack (.same _)
  | error e =>
    have hpack' : Wire.pack (r.line key (some h'.tag)) = .error e := by
      rw [hdiffers.same]
      exact hpack
    rw [issue_of_pack_error now hpack, issue_of_pack_error now hpack']
    refine ⟨⟨?_, hdiffers.sent, hdiffers.scripted, Nat.succ_pos _⟩, rfl⟩
    rw [hdiffers.same]
    rfl

end Differs

/-! ## Tags -/

theorem nextTag_resume (c : Client) (now : Instant) (h : Handler) (pending : Pending) :
    (h.resume c now pending).1.nextTag = h.nextTag := by
  have hheed := heeds_resume c now h pending
  generalize h.resume c now pending = turn at hheed
  have hheard : (h.hear c now pending).1.nextTag = h.nextTag := rfl
  cases hheed with
  | waits hhear =>
    rw [hhear] at hheard
    exact hheard
  | @ends read r hhear =>
    rw [hhear] at hheard
    rw [← hheard]
    exact (sameWire_conclude c now read pending.call pending.held r).nextTag

/-- Whoever goes on to send takes a tag, whether or not its command can be sent. -/
theorem nextTag_engage (c : Client) (now : Instant) (call : Call) (key held : Option Text)
    (h : Handler) : (engage c now call key held h).1.nextTag = h.nextTag + 1 := by
  have hissued := nextTag_issue now h (call.request c) key
  unfold engage
  generalize h.issue now (call.request c) key = issued at hissued ⊢
  obtain ⟨issued, e | t⟩ := issued
  · rw [← hissued]
    exact (sameWire_conclude c now issued call held (.error e)).nextTag
  · rw [← hissued]
    exact nextTag_resume c now issued _

/-- A caller that is let in takes one tag at most. -/
theorem le_nextTag_enter (c : Client) (now : Instant) (h : Handler) (call : Call) :
    h.nextTag ≤ (enter c now call h).1.nextTag := by
  rcases admits_or_refuses c now h call with ⟨key, held, met, hadmits⟩ | ⟨e, met, hrefuse⟩
  · rw [hadmits.enter_eq, nextTag_engage, hadmits.sameWire.nextTag]
    exact Nat.le_succ _
  · rw [hrefuse.enter_eq]
    exact Nat.le_of_eq hrefuse.sameWire.nextTag.symm

/-- No call takes back a tag. -/
theorem keeps_nextTag (c : Client) (n : Nat) : (service c).Keeps fun _ _ h => n ≤ h.nextTag where
  later _ hle := hle
  arrive {now _ h} call hle := by
    show n ≤ (arrive c now call h).1.nextTag
    rw [(sameWire_arrive c now h call).nextTag]
    exact hle
  enter {now h} call hle := Nat.le_trans hle (le_nextTag_enter c now h call)
  resume {now p h} hle := by
    show n ≤ (resume c now p h).1.nextTag
    rw [nextTag_resume]
    exact hle
  abandon {_ p h} hle := by
    show n ≤ (h.abandon p).nextTag
    rw [(sameWire_abandon h p).nextTag]
    exact hle

/-! ## One client in place of the other -/

section Mimics

variable {c : Client} {p : Text} {now : Instant} {h h' : Handler} {call : Call}

theorem Differs.issue_request (hdiffers : Differs c.auth p h h') (now : Instant)
    {key : Option Text} (hkey : call = .login → key = none)
    (hfits : call = .login → c.auth.Fits h.nextTag ∧ (c.auth.withPassword p).Fits h.nextTag) :
    Agree c.auth p (h.issue now (call.request c) key)
      (h'.issue now (call.request (c.withPassword p)) key) := by
  cases call with
  | login =>
    obtain rfl := hkey rfl
    obtain ⟨hfits, hfits'⟩ := hfits rfl
    refine hdiffers.issue_packed hfits.pack_eq hfits'.pack_eq ?_
    show SameButPassword c.auth p (now, (Request.auth c.auth).line none _)
      (now, (Request.auth (c.auth.withPassword p)).line none _)
    rw [AuthRequest.line_eq, AuthRequest.line_eq]
    exact .login now h.nextTag
  | _ => exact hdiffers.issue_same _ _

theorem Differs.arrive (hdiffers : Differs c.auth p h h') (now : Instant) (call : Call) :
    Agree c.auth p (arrive c now call h) (Handler.arrive (c.withPassword p) now call h') := by
  rw [arrive_withPassword]
  exact hdiffers.agree (fun _ => arrive_withSent c now h call) (sameWire_arrive c now h call)

theorem Differs.conclude (hdiffers : Differs c.auth p h h') (now : Instant) (call : Call)
    (held : Option Text) (r : Except Error Reply) :
    Agree c.auth p (conclude c now call held h r)
      (Handler.conclude (c.withPassword p) now call held h' r) := by
  rw [conclude_withPassword]
  exact hdiffers.agree (f := fun h => Handler.conclude c now call held h r)
    (fun _ => conclude_withSent c now call held h r) (sameWire_conclude c now h call held r)

theorem Differs.hear (hdiffers : Differs c.auth p h h') (now : Instant) (pending : Pending) :
    Agree c.auth p (h.hear c now pending) (h'.hear (c.withPassword p) now pending) := by
  rw [hdiffers.same]
  exact ⟨⟨rfl, hdiffers.sent, hdiffers.scripted, hdiffers.numbered⟩, rfl⟩

theorem Differs.resume (hdiffers : Differs c.auth p h h') (now : Instant) (pending : Pending) :
    Agree c.auth p (h.resume c now pending) (h'.resume (c.withPassword p) now pending) := by
  obtain ⟨hheard, htold⟩ := hdiffers.hear now pending
  unfold Handler.resume
  generalize h.hear c now pending = read at hheard htold ⊢
  generalize h'.hear (c.withPassword p) now pending = read' at hheard htold ⊢
  obtain ⟨g, _ | r⟩ := read <;> obtain ⟨g', r'⟩ := read' <;> obtain rfl : r' = _ := htold
  · exact ⟨hheard, rfl⟩
  · obtain ⟨hended, hresult⟩ := hheard.conclude now pending.call pending.held r
    exact ⟨hended, congrArg Turn.leaving hresult⟩

theorem Differs.engage (hdiffers : Differs c.auth p h h') {key held : Option Text}
    (hkey : call = .login → key = none)
    (hfits : call = .login → c.auth.Fits h.nextTag ∧ (c.auth.withPassword p).Fits h.nextTag) :
    Agree c.auth p (engage c now call key held h)
      (Handler.engage (c.withPassword p) now call key held h') := by
  obtain ⟨hissued, htold⟩ := hdiffers.issue_request now hkey hfits
  unfold Handler.engage
  generalize h.issue now (call.request c) key = issued at hissued htold ⊢
  generalize h'.issue now (call.request (c.withPassword p)) key = issued' at hissued htold ⊢
  obtain ⟨g, e | t⟩ := issued <;> obtain ⟨g', r'⟩ := issued' <;> obtain rfl : r' = _ := htold
  · obtain ⟨hended, hresult⟩ := hissued.conclude now call held (.error e)
    exact ⟨hended, congrArg Turn.leaving hresult⟩
  · exact hissued.resume now _

theorem Admits.key_eq_none {key held : Option Text} {met : Handler}
    (hadmits : Admits c now h call key held met) (hlogin : call = .login) : key = none := by
  subst hlogin
  cases hadmits
  rfl

/-- A caller that is let in meets the same, and sends the same. -/
theorem Differs.enter (hdiffers : Differs c.auth p h h') (now : Instant) (call : Call)
    (hfits : ∀ n < (enter c now call h).1.nextTag, 0 < n →
      c.auth.Fits n ∧ (c.auth.withPassword p).Fits n) :
    Agree c.auth p (enter c now call h)
      (Handler.enter (c.withPassword p) now call h') := by
  have hmet : h'.meet (c.withPassword p) now call =
      (h.meet c now call).map (withSent h'.network.sent) id := by
    rw [meet_withPassword, ← meet_withSent, ← hdiffers.same]
  unfold Handler.enter
  rw [hmet]
  rcases admits_or_refuses c now h call with ⟨key, held, met, hadmits⟩ | ⟨e, met, hrefuse⟩
  · rw [hadmits.enter_eq, nextTag_engage] at hfits
    rw [hadmits.meet_eq]
    have hfollows := hdiffers.sameWire hadmits.sameWire
    exact hfollows.engage hadmits.key_eq_none
      fun _ => hfits met.nextTag (Nat.lt_succ_self _) hfollows.numbered
  · rw [hrefuse.meet_eq]
    exact ⟨hdiffers.sameWire hrefuse.sameWire, rfl⟩

theorem Differs.abandon (hdiffers : Differs c.auth p h h') (pending : Pending) :
    Differs c.auth p (h.abandon pending) (h'.abandon pending) := by
  rw [hdiffers.same, abandon_withSent]
  exact hdiffers.sameWire (sameWire_abandon h pending)

/-- With another password a client does the same, as long as either login fits into a packet. -/
theorem mimics_withPassword (c : Client) (p : Text) :
    (service c).Mimics (service (c.withPassword p)) (Differs c.auth p) fun h =>
      ∀ n < h.nextTag, 0 < n → c.auth.Fits n ∧ (c.auth.withPassword p).Fits n where
  clock := rfl
  keepsShort call := by cases call <;> rfl
  arrive now {_ _} call hdiffers := hdiffers.arrive now call
  enter now {_ _} call hdiffers hfits := hdiffers.enter now call hfits
  resume now {_ _} pending hdiffers := hdiffers.resume now pending
  abandon _ {_ _} pending hdiffers := hdiffers.abandon pending
  due {_ _} pending hdiffers := by
    rw [hdiffers.same]
    rfl

end Mimics

end Handler

namespace Session

open Turnstile Handler

/-- The number of the next tag only grows. -/
theorem nextTag_after_le (c : Client) (l : Limits) (server : Server)
    {moment events : List (Event Call)} (hmoment : moment <+: events) :
    (after c l server moment).state.nextTag ≤ (after c l server events).state.nextTag := by
  obtain ⟨later, rfl⟩ := hmoment
  rw [after_append]
  exact (keeps_nextTag c _).run (orderly_after c l server moment) (Nat.le_refl _) later

/-- Two sessions that only the passwords in the logins tell apart.  Callers have left with the same,
or wait for the same, and whoever asks is told the same delay; the states of the connection and the
keys are the same; the same commands were sent at the same instants, but for the password, and the
server finds the same tags in them. -/
structure Unseen (c : Client) (p : Text) (w w' : Session) : Prop where
  now : w'.now = w.now
  pace : w'.pace = w.pace
  line : w'.line = w.line
  stage : w'.stage = w.stage
  due : ∀ id, w'.due (service (c.withPassword p)) id = w.due (service c) id
  connection : w'.state.connection = w.state.connection
  lastActivity : w'.state.lastActivity = w.state.lastActivity
  nextTag : w'.state.nextTag = w.state.nextTag
  server : w'.state.network.server = w.state.network.server
  inbox : w'.state.network.inbox = w.state.network.inbox
  sent : List.Forall₂ (SameButPassword c.auth p) w.state.network.sent w'.state.network.sent
  tags : w'.state.network.sent.map (fun command => (CommandLine.splitTag command.2).2) =
    w.state.network.sent.map fun command => (CommandLine.splitTag command.2).2

theorem Unseen.of_alike {c : Client} {p : Text} {w w' : Session}
    (halike : Alike (Differs c.auth p) w w') : Unseen c p w w' := by
  have hdue := halike.due_eq (mimics_withPassword c p)
  obtain ⟨h', rfl, hdiffers⟩ := halike
  have hsame := hdiffers.same
  have htags : h'.network.sent.map (fun command => (CommandLine.splitTag command.2).2) =
      w.state.network.sent.map fun command => (CommandLine.splitTag command.2).2 := by
    have hsent := hdiffers.sent
    generalize w.state.network.sent = sent at hsent
    generalize h'.network.sent = sent' at hsent
    induction hsent with
    | nil => rfl
    | cons hfirst _ ih => rw [List.map_cons, List.map_cons, hfirst.splitTag_eq, ih]
  exact {
    now := rfl
    pace := rfl
    line := rfl
    stage := rfl
    due := hdue
    connection := congrArg (fun h => h.connection) hsame
    lastActivity := congrArg (fun h => h.lastActivity) hsame
    nextTag := congrArg (fun h => h.nextTag) hsame
    server := congrArg (fun h => h.network.server) hsame
    inbox := congrArg (fun h => h.network.inbox) hsame
    sent := hdiffers.sent
    tags := htags }

/-- Two clients that differ in the password alone, driven alike before a server that plays a script,
are at every moment told apart by the password in their logins only, as long as the logins of both
fit into a packet under every tag of the run.  And what is shown of a login is the same for every
password. -/
theorem password_unseen (c : Client) (p : Text) :
    (∀ (l : Limits) (reactions : List Reaction) (events : List (Event Call)),
      (∀ n < (after c l (.scripted reactions) events).state.nextTag, 0 < n →
        c.auth.Fits n ∧ (c.auth.withPassword p).Fits n) →
      ∀ moment, moment <+: events →
        Unseen c p (after c l (.scripted reactions) moment)
          (after (c.withPassword p) l (.scripted reactions) moment)) ∧
      (∀ session tag, (Request.auth (c.auth.withPassword p)).maskedLine session tag =
        (Request.auth c.auth).maskedLine session tag) ∧
      (c.auth.withPassword p).inspected = c.auth.inspected := by
  refine ⟨?_, fun session tag => c.auth.maskedLine_withPassword p session tag,
    c.auth.inspected_withPassword p⟩
  intro l reactions events hfits moment hmoment
  have hopened : Alike (Differs c.auth p) (opened (Handler.opened (.scripted reactions)) : Session)
      (opened (Handler.opened (.scripted reactions))) :=
    ⟨_, rfl, rfl, .nil, ⟨reactions, rfl⟩, Nat.one_pos⟩
  refine .of_alike (hopened.run (mimics_withPassword c p) fun earlier hearlier n hn hpos => ?_)
  have hlater := nextTag_after_le c l (.scripted reactions) (hearlier.trans hmoment)
  exact hfits n (Nat.lt_of_lt_of_le hn hlater) hpos

/-- A server that lets a login in. -/
def welcome : List Reaction :=
  [.respond [⟨0, .reply .own "200 k3y LOGIN ACCEPTED"⟩]]

/-- A login, and the look that decides it. -/
def firstLogin : List (Event Call) :=
  [.call 0 (.job .login), .poll 0]

theorem password_unseen_of_firstLogin :
    let w := after .plain Settings.default.spacing.limits (.scripted welcome) firstLogin
    let w' := after (Client.plain.withPassword "a&tag=t7&s=k\n") Settings.default.spacing.limits
      (.scripted welcome) firstLogin
    Unseen .plain "a&tag=t7&s=k\n" w w' ∧ w.state.connection = .authenticated "k3y" ∧
      w'.state.network.sent ≠ w.state.network.sent := by
  obtain ⟨hruns, _⟩ := password_unseen .plain "a&tag=t7&s=k\n"
  exact ⟨hruns Settings.default.spacing.limits welcome firstLogin (by decide +kernel) firstLogin
    (List.prefix_refl _), by decide +kernel, by decide +kernel⟩

end Session

end AnidbClient
