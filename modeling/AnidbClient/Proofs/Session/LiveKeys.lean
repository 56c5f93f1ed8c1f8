import AnidbClient.Proofs.CommandLine.Parameters
import AnidbClient.Proofs.Session.Attribution
import AnidbClient.Proofs.Session.Discipline
import AnidbClient.Proofs.Session.Keys

/-!
# Only the live key is sent

The session is looked at when a caller arrives, and its key is taken when the caller is let in;
in between callers may have logged out, lost the session, or logged in anew.  Still the key of a
command is always that of the last login, and the session of that login has never ended since.

* A single event brings a key only if it is a login that succeeds, and only where there was none
  (`held_or_granted`, `session?_of_granted`).
* `Lives` says that a session has gone on from its login without a gap, through every single
  change; whoever finds a key finds a session that lives (`exists_lives`).
* `live_key_sent` says it of every command line.
-/

namespace AnidbClient

namespace Handler

section Trail

variable {c : Client} {now : Instant} {h h' : Handler} {a : Act Call Pending}
  {inside? : Option Pending} {key : Text}

theorem Suits.eq_login {call : Call} {held : Option Text} {conn : Connection}
    (hsuits : Suits call held conn) (hconn : conn = .connecting) :
    call = .login ∧ held = none := by
  subst hconn
  cases hsuits with
  | login => exact ⟨rfl, rfl⟩
  | ping hsettled => cases hsettled
  | free _ hsettled => cases hsettled

/-- Only a login makes the connection `connecting`. -/
theorem ne_connecting_of_mem_trail (hfinds : a.Finds inside?)
    (hsuits : SuitsInside inside? h.connection) (hnot : h.connection ≠ .connecting)
    (hlogin : a = .enter .login → h.connection ≠ .disconnected)
    (hmem : h' ∈ trail c now h a) : h'.connection ≠ .connecting := by
  intro hconn
  rcases suits_of_mem_trail hfinds hsuits hmem with
    hsettled | ⟨p, rfl, hsuits'⟩ | ⟨call, key, held, met, rfl, hadmits, hsuits'⟩
  · rw [hconn] at hsettled
    cases hsettled
  · obtain ⟨hcall, _⟩ := hsuits'.eq_login hconn
    have hbefore : Suits p.call p.held h.connection := hsuits
    rw [hcall] at hbefore
    exact hnot hbefore.eq_connecting
  · obtain ⟨rfl, _⟩ := hsuits'.eq_login hconn
    cases hadmits with
    | login hdisconnected => exact hlogin rfl hdisconnected

/-- Where no login is on its way, a key that is there in the end was there all the time. -/
private theorem session?_of_isChain {changes : List Handler}
    (hchain : (h :: changes).IsChain (Proper now))
    (hnot : ∀ h' ∈ h :: changes, h'.connection ≠ .connecting)
    (hlast : (changes.getLastD h).connection.session? = some key) :
    ∀ h' ∈ h :: changes, h'.connection.session? = some key := by
  induction changes generalizing h with
  | nil =>
    intro h' hmem
    obtain rfl := List.mem_singleton.1 hmem
    exact hlast
  | cons next rest ih =>
    obtain ⟨hproper, hrest⟩ := List.isChain_cons_cons.1 hchain
    rw [List.getLastD_cons] at hlast
    have hlater := ih hrest (fun h' hmem => hnot h' (List.mem_cons_of_mem h hmem)) hlast
    intro h' hmem
    rcases List.mem_cons.1 hmem with rfl | hmem
    · exact hproper.fades (hnot _ List.mem_cons_self) key (hlater next List.mem_cons_self)
    · exact hlater h' hmem

/-- An act that is no login leaves no key but one that was there all the time. -/
theorem session?_of_mem_trail (hfinds : a.Finds inside?)
    (hsuits : SuitsInside inside? h.connection) (hnot : h.connection ≠ .connecting)
    (hlogin : a = .enter .login → h.connection ≠ .disconnected)
    (hkey : ((service c).perform now h a).connection.session? = some key) :
    ∀ h' ∈ h :: trail c now h a, h'.connection.session? = some key := by
  apply session?_of_isChain (isChain_trail hfinds hsuits)
  · intro h' hmem
    rcases List.mem_cons.1 hmem with rfl | hmem
    · exact hnot
    · exact ne_connecting_of_mem_trail hfinds hsuits hnot hlogin hmem
  · rw [getLastD_trail]
    exact hkey

end Trail

end Handler

namespace Session

open Turnstile Handler

/-! ## Logins that succeed -/

section Step

variable {c : Client} {l : Limits} {server : Server} {events : List (Event Call)}
  {e : Event Call} {key : Text}

/-- Whoever leaves with a session has been granted its key. -/
private theorem granted_of_settle {w v : Session} {id : Caller} {result : AuthResult}
    {turn : Handler × Turn Pending (Except Error Success)}
    (hbefore : ∀ o, w.stage id ≠ some (.left o))
    (hresult : turn.2 = .leaving (.ok (.loggedIn result))) :
    Granted w (v.settle id turn) result.session := by
  obtain ⟨h, y⟩ := turn
  obtain rfl : y = .leaving (.ok (.loggedIn result)) := hresult
  exact ⟨id, result, hbefore _, stage_setStage_self _ _ _, rfl⟩

/-- While a login is on its way there is no key, and only that login can bring one. -/
private theorem granted_of_connecting {w : Session} {a : Act Call Pending} (hw : w.Orderly)
    (hsuits : SuitsInside w.inside? w.state.connection)
    (hconn : w.state.connection = .connecting) (hacts : Acts (service c) l w e a)
    (hkey : ((service c).perform w.now w.state a).connection.session? = some key) :
    Granted w (w.step (service c) l e) key := by
  have hnone : w.state.connection.session? ≠ some key := by
    rw [hconn]
    simp [Connection.session?]
  cases hacts with
  | arrive => exact absurd (session?_arrive hkey) hnone
  | enter hin =>
    rw [hin.inside? hw, hconn] at hsuits
    cases hsuits
  | @resume id p hstage =>
    rw [hw.inside?_of_inside hstage] at hsuits
    obtain ⟨_, hheld⟩ := Suits.eq_login hsuits hconn
    rcases (heeds_resume c w.now w.state p).session? hkey with
      (hold | hold) | ⟨result, hresult, hsession⟩
    · exact absurd hold hnone
    · rw [hheld] at hold
      cases hold
    · show Granted w (w.poll (service c) l id) key
      rw [poll_of_inside (service c) l hstage, ← hsession]
      exact granted_of_settle (by simp [hstage]) hresult
  | @abandon id p hstage =>
    rw [hw.inside?_of_inside hstage] at hsuits
    obtain ⟨_, hheld⟩ := Suits.eq_login hsuits hconn
    rcases session?_abandon hkey with hold | hold
    · exact absurd hold hnone
    · rw [hheld] at hold
      cases hold

/-- A login that is let in and leaves at once brings the key that is there then. -/
private theorem granted_of_login {w : Session}
    (hconn : w.state.connection = .disconnected) (hacts : Acts (service c) l w e (.enter .login))
    (hkey : ((service c).perform w.now w.state (.enter .login)).connection.session? = some key) :
    Granted w (w.step (service c) l e) key := by
  cases hacts with
  | @enter id _ pace hin =>
    rcases (enters_enter c w.now w.state .login).session? hkey with
      hold | ⟨result, hresult, hsession⟩
    · rw [hconn] at hold
      cases hold
    · show Granted w (w.poll (service c) l id) key
      rw [hin.poll_eq, ← hsession]
      refine granted_of_settle ?_ hresult
      intro o hleft
      have hahead := hin.isAhead
      simp [IsAhead, hleft, Stage.isAhead] at hahead

/-- A key that is there after an event was there all the time, or a login succeeded and brought
it. -/
theorem held_or_granted
    (hkey : (after c l server (events ++ [e])).state.connection.session? = some key) :
    (∀ h ∈ (after c l server events).state :: trail c l (after c l server events) e,
        h.connection.session? = some key) ∨
      Granted (after c l server events) (after c l server (events ++ [e])) key := by
  have hw := orderly_after c l server events
  have hsuits := suits_after c l server events
  rw [after_concat] at hkey ⊢
  generalize after c l server events = w at hw hsuits hkey ⊢
  rw [state_step] at hkey
  unfold trail
  cases hact : w.act? (service c) l e with
  | none =>
    rw [hact] at hkey
    left
    intro h hmem
    obtain rfl := List.mem_singleton.1 hmem
    exact hkey
  | some a =>
    rw [hact] at hkey
    have hacts := act?_eq_some_iff.1 hact
    by_cases hconn : w.state.connection = .connecting
    · exact .inr (granted_of_connecting hw hsuits hconn hacts hkey)
    · by_cases hlogin : a = .enter .login ∧ w.state.connection = .disconnected
      · obtain ⟨rfl, hdisconnected⟩ := hlogin
        exact .inr (granted_of_login hdisconnected hacts hkey)
      · left
        exact session?_of_mem_trail (hacts.finds hw) hsuits hconn
          (fun ha hdisconnected => hlogin ⟨ha, hdisconnected⟩) hkey

/-- A login that is decided found no session. -/
private theorem Decides.session?_eq_none {id : Caller} {held : Option Text} {h : Handler}
    {answered : Except Error Reply}
    (hdecides : Decides c l (after c l server events) id .login held h answered) :
    (after c l server events).state.connection.session? = none := by
  have hw := orderly_after c l server events
  have hsuits := suits_after c l server events
  generalize after c l server events = w at hdecides hw hsuits
  generalize hcall : Call.login = call at hdecides
  have hadmitted : ∀ {key held met}, Admits c w.now w.state call key held met →
      w.state.connection.session? = none := by
    rintro key held met hadmits
    subst hcall
    cases hadmits with
    | login hconn =>
      rw [hconn]
      rfl
  cases hdecides with
  | waiting hstage _ =>
    rw [hw.inside?_of_inside hstage] at hsuits
    have hconn : w.state.connection = .connecting := by
      apply Suits.eq_connecting
      rw [hcall]
      exact hsuits
    rw [hconn]
    rfl
  | unsent _ hadmits _ => exact hadmitted hadmits
  | atOnce _ hadmits _ _ => exact hadmitted hadmits

/-- A login that brings a session leaves it. -/
private theorem session?_conclude_login {now : Instant} {held : Option Text} {h : Handler}
    {answered : Except Error Reply} {result : AuthResult}
    (hresult : (conclude c now .login held h answered).2 = .ok (.loggedIn result)) :
    (conclude c now .login held h answered).1.connection.session? = some result.session := by
  rw [conclude_login] at hresult ⊢
  rcases finishLogin_cases c now (screened c .login h answered)
    (answered.bind fun reply => (h.screen (.auth c.auth) reply).2) with
    ⟨e, hend⟩ | ⟨e, hend⟩ | ⟨reply, result', _, _, hend⟩
  · rw [hend] at hresult
    cases hresult
  · rw [hend] at hresult
    cases hresult
  · rw [hend] at hresult ⊢
    cases hresult
    rfl

/-- A login that succeeds is decided by the event that brings its key. -/
theorem exists_decides_of_granted
    (hgranted : Granted (after c l server events) (after c l server (events ++ [e])) key) :
    ∃ id held h answered result, e = .poll id ∧
      Decides c l (after c l server events) id .login held h answered ∧
      (conclude c (after c l server events).now .login held h answered).2 =
        .ok (.loggedIn result) ∧ result.session = key := by
  obtain ⟨id, result, hnew, hleft, rfl⟩ := hgranted
  have hfate := fate_step c l (after c l server events) id e
  rw [← after_concat] at hfate
  generalize (after c l server (events ++ [e])).stage id = s at hleft hfate
  cases hfate with
  | same => exact absurd hleft hnew
  | aside _ hnot => exact absurd (Option.some.inj hleft) (hnot _)
  | turnedAway _ harrive =>
    cases hleft
    rcases eq_of_arrive (congrArg Prod.snd harrive) with heq | heq <;> cases heq
  | refused => cases hleft
  | waits => cases hleft
  | @decided call held h answered hdecides =>
    have hresult : (conclude c (after c l server events).now call held h answered).2 =
        .ok (.loggedIn result) := by
      injection hleft with hleft
      injection hleft with hleft
      injection hleft
    obtain rfl := eq_login_of_loggedIn hresult
    exact ⟨id, held, h, answered, result, rfl, hdecides, hresult, rfl⟩

/-- A login that succeeds finds no session and leaves its own. -/
theorem session?_of_granted
    (hgranted : Granted (after c l server events) (after c l server (events ++ [e])) key) :
    (after c l server events).state.connection.session? = none ∧
      (after c l server (events ++ [e])).state.connection.session? = some key := by
  obtain ⟨id, held, h, answered, result, rfl, hdecides, hresult, rfl⟩ :=
    exists_decides_of_granted hgranted
  refine ⟨hdecides.session?_eq_none, ?_⟩
  rw [after_concat, hdecides.state_eq]
  exact session?_conclude_login hresult

end Step

/-! ## Sessions that live -/

section Lives

variable (c : Client) (l : Limits) (server : Server)

/-- No login succeeds while the later events take place. -/
def NoLogin (before later : List (Event Call)) : Prop :=
  ∀ mid next rest, later = mid ++ next :: rest → ∀ key,
    ¬ Granted (after c l server (before ++ mid)) (after c l server (before ++ mid ++ [next])) key

/-- A login brought the key, and the handler has had it ever since, after every single change.  No
other login has succeeded. -/
structure Lives (early : List (Event Call)) (login : Event Call) (since : List (Event Call))
    (key : Text) : Prop where
  granted : Granted (after c l server early) (after c l server (early ++ [login])) key
  latest : NoLogin c l server (early ++ [login]) since
  held : ∀ mid next rest, since = mid ++ next :: rest →
    let w := after c l server (early ++ [login] ++ mid)
    ∀ h ∈ w.state :: trail c l w next, h.connection.session? = some key
  present : (after c l server (early ++ [login] ++ since)).state.connection.session? = some key

variable {c l server}

/-- A cut in a list that has grown by one is a cut in the list before, or right before its last
element. -/
theorem cut_concat {α : Type} {since mid rest : List α} {last next : α}
    (heq : since ++ [last] = mid ++ next :: rest) :
    mid = since ∧ next = last ∨ ∃ rest', since = mid ++ next :: rest' := by
  rcases List.eq_nil_or_concat rest with rfl | ⟨rest', last', rfl⟩
  · obtain ⟨rfl, hlast⟩ := List.append_inj' heq rfl
    exact .inl ⟨rfl, (List.singleton_inj.1 hlast).symm⟩
  · have hsplit : since ++ [last] = (mid ++ next :: rest') ++ [last'] := by
      simpa using heq
    obtain ⟨rfl, _⟩ := List.append_inj' hsplit rfl
    exact .inr ⟨rest', rfl⟩

variable {early since : List (Event Call)} {login e : Event Call} {key : Text}

/-- A session goes on while its key is there. -/
theorem Lives.concat (hlives : Lives c l server early login since key)
    (hkey : (after c l server (early ++ [login] ++ since ++ [e])).state.connection.session? =
      some key) : Lives c l server early login (since ++ [e]) key := by
  have hnot : ∀ key', ¬ Granted (after c l server (early ++ [login] ++ since))
      (after c l server (early ++ [login] ++ since ++ [e])) key' := by
    intro key' hgranted
    have hnone := (session?_of_granted hgranted).1
    rw [hlives.present] at hnone
    cases hnone
  refine ⟨hlives.granted, ?_, ?_, by rwa [← List.append_assoc]⟩
  · intro mid next rest heq
    rcases cut_concat heq with ⟨rfl, rfl⟩ | ⟨rest', hsince⟩
    · exact hnot
    · exact hlives.latest mid next rest' hsince
  · intro mid next rest heq
    rcases cut_concat heq with ⟨rfl, rfl⟩ | ⟨rest', hsince⟩
    · exact (held_or_granted hkey).resolve_right (hnot key)
    · exact hlives.held mid next rest' hsince

/-- Whoever finds a key finds a session that lives. -/
theorem exists_lives {events : List (Event Call)}
    (hkey : (after c l server events).state.connection.session? = some key) :
    ∃ early login since, events = early ++ [login] ++ since ∧
      Lives c l server early login since key := by
  induction events using List.reverseRecOn with
  | nil => cases hkey
  | append_singleton events e ih =>
    rcases held_or_granted hkey with hheld | hgranted
    · obtain ⟨early, login, since, rfl, hlives⟩ := ih (hheld _ List.mem_cons_self)
      exact ⟨early, login, since ++ [e], List.append_assoc _ _ _, hlives.concat hkey⟩
    · refine ⟨events, e, [], (List.append_nil _).symm, hgranted, ?_, ?_, ?_⟩
      · intro mid next rest heq
        simp at heq
      · intro mid next rest heq
        simp at heq
      · rw [List.append_nil]
        exact hkey

/-- A moment without a session lies before the login of a session that lives. -/
theorem Lives.isPrefix (hlives : Lives c l server early login since key)
    {ended : List (Event Call)} (hended : ended <+: early ++ [login] ++ since)
    (hnone : (after c l server ended).state.connection.session? = none) : ended <+: early := by
  have hearly : early <+: early ++ [login] ++ since := by
    rw [List.append_assoc]
    exact List.prefix_append _ _
  rcases Nat.lt_or_ge early.length ended.length with hlonger | hle
  · exfalso
    have hlogin : early ++ [login] <+: ended := by
      apply List.prefix_of_prefix_length_le (List.prefix_append _ since) hended
      rw [List.length_append, List.length_singleton]
      exact hlonger
    obtain ⟨mid, rfl⟩ := hlogin
    obtain ⟨rest, rfl⟩ := (List.prefix_append_right_inj _).1 hended
    cases rest with
    | nil =>
      have hpresent := hlives.present
      rw [List.append_nil, hnone] at hpresent
      cases hpresent
    | cons next rest =>
      have hheld := hlives.held mid next rest rfl _ List.mem_cons_self
      rw [hnone] at hheld
      cases hheld
  · exact List.prefix_of_prefix_length_le hended hearly hle

/-- Once there is no session, there is none until another login succeeds. -/
theorem session?_eq_none_of_noLogin {ended later : List (Event Call)}
    (hnone : (after c l server ended).state.connection.session? = none)
    (hno : NoLogin c l server ended later) :
    (after c l server (ended ++ later)).state.connection.session? = none := by
  cases hkey : (after c l server (ended ++ later)).state.connection.session? with
  | none => rfl
  | some key =>
    -- A key that is there now was brought by a login after the session had ended.
    exfalso
    obtain ⟨early, login, since, hcut, hlives⟩ := exists_lives hkey
    have hprefix : ended <+: early ++ [login] ++ since := hcut ▸ List.prefix_append ended later
    obtain ⟨mid, rfl⟩ := hlives.isPrefix hprefix hnone
    exact hno mid login since (by simpa using hcut) key hlives.granted

theorem NoLogin.of_append {ended later more : List (Event Call)}
    (hno : NoLogin c l server ended (later ++ more)) : NoLogin c l server ended later := by
  rintro mid next rest rfl
  exact hno mid next (rest ++ more) (by simp)

end Lives

/-! ## The key of a command line -/

section Sent

variable (c : Client) (l : Limits) (server : Server)

/-- The line is sent when the caller is let in with this call and this key.  The handler is that
of the moment at which it is sent. -/
structure Posts (w : Session) (id : Caller) (call : Call) (key : Option Text) (ready : Handler)
    (line : Text) : Prop where
  goesIn : ∃ pace, GoesIn (service c) l w id call pace
  admits : ∃ held, Admits c w.now w.state call key held ready
  line_eq : line = (call.request c).line key (some w.state.tag)
  lines_eq : (w.step (service c) l (.poll id)).state.lines = w.state.lines ++ [line]

theorem lines_concat (events : List (Event Call)) (e : Event Call) :
    lines c l server (events ++ [e]) = lines c l server events ∨
      ∃ id call pace key held ready, e = .poll id ∧
        GoesIn (service c) l (after c l server events) id call pace ∧
        Admits c (after c l server events).now (after c l server events).state call key held
          ready ∧
        lines c l server (events ++ [e]) = lines c l server events ++
          [(call.request c).line key (some (after c l server events).state.tag)] := by
  have hstep := lines_step c l (after c l server events) e
  rw [← after_concat] at hstep
  exact hstep

/-- Every line was posted by the event at which it was sent, at the moment that is noted with it. -/
theorem exists_posts_at (events : List (Event Call)) {i : Nat} {t : Instant} {line : Text}
    (hsent : (after c l server events).state.network.sent[i]? = some (t, line)) :
    ∃ before id rest call key ready, events = before ++ .poll id :: rest ∧
      (lines c l server before).length = i ∧ (after c l server before).now = t ∧
      Posts c l (after c l server before) id call key ready line := by
  induction events using List.reverseRecOn with
  | nil => cases hsent
  | append_singleton events e ih =>
    have hearlier : (after c l server events).state.network.sent[i]? = some (t, line) →
        ∃ before id rest call key ready, events ++ [e] = before ++ .poll id :: rest ∧
          (lines c l server before).length = i ∧ (after c l server before).now = t ∧
          Posts c l (after c l server before) id call key ready line := by
      intro hbefore
      obtain ⟨before, id, rest, call, key, ready, rfl, hposts⟩ := ih hbefore
      exact ⟨before, id, rest ++ [e], call, key, ready, by simp, hposts⟩
    have hstep := sent_step c l (after c l server events) e
    rw [← after_concat] at hstep
    rcases hstep with hsame | ⟨id, call, pace, key, held, ready, rfl, hin, hadmits, hgrown⟩
    · exact hearlier (hsame ▸ hsent)
    · have hlines : lines c l server (events ++ [.poll id]) = lines c l server events ++
          [(call.request c).line key (some (after c l server events).state.tag)] := by
        unfold lines Handler.lines
        rw [hgrown, List.map_append]
        rfl
      rw [hgrown, List.getElem?_append] at hsent
      split at hsent
      · exact hearlier hsent
      · rename_i hi
        have hlast : i - (after c l server events).state.network.sent.length = 0 :=
          Nat.lt_one_iff.1 (List.getElem?_eq_some_iff.1 hsent).1
        rw [hlast] at hsent
        cases hsent
        refine ⟨events, id, [], call, key, ready, rfl, ?_, rfl, ⟨pace, hin⟩, ⟨held, hadmits⟩, rfl,
          ?_⟩
        · unfold lines Handler.lines
          rw [List.length_map]
          omega
        · rw [← after_concat]
          exact hlines

/-- Every line was posted by the event at which it was sent. -/
theorem exists_posts (events : List (Event Call)) {i : Nat} {line : Text}
    (hline : (lines c l server events)[i]? = some line) :
    ∃ before id rest call key ready, events = before ++ .poll id :: rest ∧
      (lines c l server before).length = i ∧
      Posts c l (after c l server before) id call key ready line := by
  unfold lines Handler.lines at hline
  rw [List.getElem?_map, Option.map_eq_some_iff] at hline
  obtain ⟨⟨t, line⟩, hsent, rfl⟩ := hline
  obtain ⟨before, id, rest, call, key, ready, hevents, hi, _, hposts⟩ :=
    exists_posts_at c l server events hsent
  exact ⟨before, id, rest, call, key, ready, hevents, hi, hposts⟩

variable {c l}

/-- A command goes out with the key of the session if it needs one, and with none otherwise. -/
theorem key_of_admits {now : Instant} {h ready : Handler} {call : Call} {key held : Option Text}
    (hadmits : Admits c now h call key held ready) :
    ((call.request c).requiresSession = false ∧ key = none) ∨
      ∃ k, (call.request c).requiresSession = true ∧ key = some k ∧
        h.connection = .authenticated k ∧
        (ready.connection = .sending k ∨ call = .logout ∧ ready.connection = .loggingOut) := by
  cases hadmits with
  | login => exact .inl ⟨rfl, rfl⟩
  | @logout k hconn => exact .inr ⟨k, rfl, rfl, hconn, .inr ⟨rfl, rfl⟩⟩
  | ping => exact .inl ⟨rfl, rfl⟩
  | free hfree => exact .inl ⟨hfree, rfl⟩
  | @bound r k hbound hconn _ => exact .inr ⟨k, hbound, rfl, hconn, .inl rfl⟩

variable {server}

/-- What is sent after there was no session is no command of the session, unless another login
succeeds first. -/
theorem requiresSession_eq_false_of_sentSince {ended later : List (Event Call)} {id : Caller}
    {call : Call} {i : Nat} (hnone : (after c l server ended).state.connection.session? = none)
    (hno : NoLogin c l server ended later) (hsent : SentBy c l server (ended ++ later) id call i)
    (hsince : ¬ SentBy c l server ended id call i) : (call.request c).requiresSession = false := by
  obtain ⟨before, rest, pace, key, hcut, hin, hgrown, hi⟩ := hsent
  have hbefore : ended <+: before := by
    rcases List.append_eq_append_iff.1 hcut with ⟨as, rfl, _⟩ | ⟨as, rfl, hrest⟩
    · exact List.prefix_append _ _
    · cases as with
      | nil => exact ⟨[], by simp⟩
      | cons first as =>
        obtain ⟨rfl, rfl⟩ := List.cons.inj hrest
        exact absurd ⟨before, as, pace, key, rfl, hin, hgrown, hi⟩ hsince
  obtain ⟨mid, rfl⟩ := hbefore
  have hno' : NoLogin c l server ended (mid ++ .poll id :: rest) := by
    rw [List.append_assoc, List.append_cancel_left_eq] at hcut
    exact hcut ▸ hno
  have hstill := session?_eq_none_of_noLogin hnone hno'.of_append
  rcases lines_concat c l server (ended ++ mid) (.poll id) with
    hsame | ⟨id', call', pace', key', held, ready, heq, hin', hadmits, _⟩
  · rw [hgrown] at hsame
    exact absurd hsame (by simp)
  · cases heq
    obtain rfl := hin.job_eq hin'
    rcases key_of_admits hadmits with ⟨hfree, _⟩ | ⟨k, _, _, hconn, _⟩
    · exact hfree
    · rw [hconn] at hstill
      cases hstill

/-- Whoever has not been let in when there is no session sends no command of the session before
another login succeeds. -/
theorem requiresSession_eq_false_of_noLogin {ended later : List (Event Call)} {id : Caller}
    {call : Call} {i : Nat} (hnone : (after c l server ended).state.connection.session? = none)
    (hno : NoLogin c l server ended later) (hahead : (after c l server ended).IsAhead id)
    (hsent : SentBy c l server (ended ++ later) id call i) :
    (call.request c).requiresSession = false :=
  requiresSession_eq_false_of_sentSince hnone hno hsent fun hearly => hearly.not_isAhead hahead

variable (c l server)

/-- Every command of the session carries the key of the last login, whose session has gone on
without a gap until the command is sent; other commands carry no key, and a login is sent only
where there is no session.  Whoever still waits when there is no session sends no command of the
session unless another login succeeds first. -/
theorem live_key_sent (events : List (Event Call)) :
    (∀ (i : Nat) (line : Text), (lines c l server events)[i]? = some line →
      ∃ before id rest call key ready, events = before ++ .poll id :: rest ∧
        (lines c l server before).length = i ∧
        Posts c l (after c l server before) id call key ready line ∧
        CommandLine.sessionKey? line = key.map Wire.encode ∧
        ((call.request c).requiresSession = false → key = none) ∧
        ((call.request c).requiresSession = true →
          ∃ k early login since, key = some k ∧ before = early ++ [login] ++ since ∧
            Lives c l server early login since k ∧
            (ready.connection = .sending k ∨ call = .logout ∧ ready.connection = .loggingOut)) ∧
        (call = .login → (after c l server before).state.connection = .disconnected)) ∧
      ∀ ended later, events = ended ++ later →
        (after c l server ended).state.connection.session? = none →
        NoLogin c l server ended later → ∀ id, (after c l server ended).IsAhead id →
        ∀ call i, SentBy c l server events id call i →
          (call.request c).requiresSession = false := by
  constructor
  · intro i line hline
    obtain ⟨before, id, rest, call, key, ready, hevents, hi, hposts⟩ :=
      exists_posts c l server events hline
    obtain ⟨held, hadmits⟩ := hposts.admits
    refine ⟨before, id, rest, call, key, ready, hevents, hi, hposts, ?_, ?_, ?_, ?_⟩
    · rw [hposts.line_eq]
      exact CommandLine.sessionKey?_line _ _ _
    · intro hfree
      rcases key_of_admits hadmits with ⟨_, hkey⟩ | ⟨k, hbound, _⟩
      · exact hkey
      · rw [hfree] at hbound
        cases hbound
    · intro hbound
      rcases key_of_admits hadmits with ⟨hfree, _⟩ | ⟨k, _, hkey, hconn, hready⟩
      · rw [hbound] at hfree
        cases hfree
      · have hhas : (after c l server before).state.connection.session? = some k := by
          rw [hconn]
          rfl
        obtain ⟨early, login, since, hbefore, hlives⟩ := exists_lives hhas
        exact ⟨k, early, login, since, hkey, hbefore, hlives, hready⟩
    · rintro rfl
      cases hadmits with
      | login hconn => exact hconn
  · rintro ended later rfl hnone hno id hahead call i hsent
    exact requiresSession_eq_false_of_noLogin hnone hno hahead hsent

/-- A server that takes a login, ends the session a second after a sign of life, and takes another
login. -/
def changingServer : Server :=
  .scripted [.respond [⟨0, .reply .own "200 abc12 LOGIN ACCEPTED"⟩],
    .respond [⟨.ofSecs 1, .reply .own "506 INVALID SESSION"⟩],
    .respond [⟨0, .reply .own "200 def34 LOGIN ACCEPTED"⟩]]

/-- The session ends while a login and a calendar are in line.  The calendar is sent with the key of
that login. -/
example : (after .plain Settings.default.spacing.limits changingServer
    [.call 0 (.job .login), .poll 0, .tick (.ofSecs 3), .call 1 (.job .ping), .poll 1,
      .call 2 (.job .login), .call 3 (.job (.send .calendar)), .tick (.ofSecs 1), .poll 1,
      .poll 2, .tick (.ofSecs 3), .poll 2, .poll 3, .tick (.ofSecs 3),
      .poll 3]).state.lines.map CommandLine.sessionKey? =
    [none, none, none, some "def34".toList] := by
  decide +kernel

end Sent

end Session

end AnidbClient
